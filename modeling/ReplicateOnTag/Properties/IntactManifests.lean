import ReplicateOnTag.Adapters.InventoryManifest
import ReplicateOnTag.Properties.ConfigGrammar
import ReplicateOnTag.Properties.OneIdentity

/-! A manifest that can be seen is whole: whatever order any number of builds put their
objects in, and whichever of their puts fail or go unanswered, an envelope stands only
over the checksum of its bytes and a data file that reads back as the entries kept. -/
namespace ReplicateOnTag.InventoryManifest
open CivilTime Decimal ManifestCsv PercentEncoding PublishLast
open ReportReader (hexdigest)

section Keys

theorem cutLast_append {separator : List Char} {first : Char} {tail : List Char}
    (split : separator = first :: tail)
    (left right : List Char) (last : cutLast separator (tail ++ right) = none) :
    cutLast separator (left ++ (separator ++ right)) = some left := by
  induction left with
  | nil =>
    have begins : separator.isPrefixOf (first :: (tail ++ right)) := by
      rw [List.isPrefixOf_iff_prefix, split]
      exact ⟨right, rfl⟩
    rw [List.nil_append]
    conv => lhs; arg 2; rw [split, List.cons_append]
    rw [cutLast, last, if_pos begins]
  | cons c left ih => rw [List.cons_append, cutLast, ih]

/-- The folder of the data file is the folder of the manifest. -/
theorem destPrefixOf_dataFileKey (build : Build) : destPrefixOf build.dataFileKey =
    build.folder ++ "/" := by
  have chars : build.dataFileKey.toList = build.folder.toList ++
      ("/data/".toList ++ "data.csv".toList) := by
    rw [Build.dataFileKey, String.toList_append]
    rfl
  rw [destPrefixOf, beforeLast, chars,
    cutLast_append (rfl : "/data/".toList = '/' :: "data/".toList) _ _ (by decide),
    Option.getD_some, String.ofList_toList]

theorem slash_not_mem_pad (width n : Nat) : '/' ∉ pad width n := fun member =>
  absurd (List.all_eq_true.mp (digits_pad width n) _ member) (by decide)

theorem slash_not_mem_stampText (civil : Civil) : '/' ∉ (stampText civil).toList := by
  simp only [stampText, String.toList_ofList, List.mem_append, List.mem_cons, List.not_mem_nil,
    or_false, slash_not_mem_pad, false_or]
  decide

theorem slash_not_mem_accepted {name : String} (accepted : ConfigLoader.AcceptedName name) :
    '/' ∉ name.toList := by
  have other : ¬ ConfigLoader.NameChar '/' := by
    rw [ConfigLoader.NameChar, ConfigLoader.Alphanumeric, ConfigLoader.Lower]
    decide
  rcases (ConfigLoader.acceptedName_iff name).mp accepted with ⟨_, shape | ⟨base, split, shape⟩⟩
  · exact fun member => other (shape.letters _ member)
  · rw [split, List.mem_append, List.mem_singleton]
    rintro (member | newline)
    · exact other (shape.letters _ member)
    · cases newline

end Keys

namespace Build

def file (build : Build) : DataFileWithMd5 := inMemoryFile build.csvBytes build.dataFileKey

def object (build : Build) (body : List UInt8) (contentType : String) : S3Object :=
  ⟨body, contentType, encryptionFor build.kmsKeyArn⟩

def manifestBytes (build : Build) : List UInt8 :=
  buildManifestJson build.bucketName build.stateBucket [build.file] build.timestamp

def dataLocation (build : Build) : S3Location := ⟨build.stateBucket, build.dataFileKey⟩

def checksumLocation (build : Build) : S3Location :=
  ⟨build.stateBucket, checksumKey (build.folder ++ "/") build.timestamp⟩

def manifestLocation (build : Build) : S3Location :=
  ⟨build.stateBucket, manifestKey (build.folder ++ "/") build.timestamp⟩

/-- The data file, its envelope's checksum, the envelope. -/
def plan (build : Build) : List (S3Location × S3Object) :=
  [(build.dataLocation, build.object build.csvBytes "text/csv"),
    (build.checksumLocation, build.object
      (utf8 (hexdigest build.manifestBytes).toList) "text/plain"),
    (build.manifestLocation, build.object build.manifestBytes "application/json")]

def locations (build : Build) : List S3Location := build.plan.map Prod.fst

end Build

section Writing

def Succeeded (result : Except String WrittenManifest) : Prop := ∃ written, result = .ok written

theorem failed (error : InventoryManifestWriteError) :
    ¬ ∃ written, (.error error :
      Except InventoryManifestWriteError WrittenManifest) = .ok written := by
  rintro ⟨_, same⟩
  cases same

theorem write_follows (build : Build) : Follows Succeeded build.write build.plan := by
  have steps : Follows (fun result => ∃ written, result = .ok written)
      (writeInMemoryInventoryManifest build.stateBucket build.bucketName
        build.bucketName build.csvBytes
        build.dataFileKey build.kmsKeyArn build.timestamp) build.plan := by
    rw [writeInMemoryInventoryManifest, putObject]
    refine .put (fun error => ⟨_, rfl, failed _⟩) fun etag => ?_
    simp only [Except.map, writeInventoryManifest, putObject, destPrefixOf_dataFileKey]
    refine .put (fun error => ⟨_, rfl, failed _⟩) fun etag => ?_
    refine .put (fun error => ⟨_, rfl, failed _⟩) fun etag => ?_
    dsimp only
    split
    · exact .done fun _ => rfl
    · exact .done fun _ => rfl
  refine steps.map ?_
  rintro (error | written) ⟨given, same⟩
  · cases same
  · exact ⟨written, rfl⟩

/-- What is handed on is the planned manifest, with the count of its entries. -/
def HandsOn (build : Build) (result : Except String WrittenManifest) : Prop :=
  ∀ written, result = .ok written →
    written.s3Location = build.manifestLocation ∧ written.objectCount = build.keptEntries.length

theorem write_promises (build : Build) : Promises (HandsOn build) build.write := by
  have ends : Promises (fun result => ∀ written, result = .ok written →
      written.s3Location = build.manifestLocation)
      (writeInMemoryInventoryManifest build.stateBucket build.bucketName
        build.bucketName build.csvBytes
        build.dataFileKey build.kmsKeyArn build.timestamp) := by
    rw [writeInMemoryInventoryManifest, putObject]
    rintro (error | etag)
    · exact nofun
    · simp only [Except.map, writeInventoryManifest, putObject, destPrefixOf_dataFileKey]
      rintro (error | etag)
      · exact nofun
      rintro (error | etag)
      · exact nofun
      dsimp only
      split
      · exact nofun
      · rintro written same
        cases same
        rfl
  refine ends.map ?_
  rintro (error | written) good given same
  · cases same
  · cases same
    exact ⟨good written rfl, rfl⟩

end Writing

section Folders
variable {build other : Build}

theorem mem_locations {location : S3Location} : location ∈ build.locations ↔
    location = build.dataLocation ∨
    location = build.checksumLocation ∨ location = build.manifestLocation := by
  simp [Build.locations, Build.plan]

/-- Every object of a build lies in its folder. -/
theorem key_in_folder {location : S3Location} (member : location ∈ build.locations) :
    ∃ tail, location.key.toList = "manifests/".toList ++ (build.bucketName.toList ++
      '/' :: ((stampText build.labelled).toList ++ '/' :: tail)) := by
  have slash : "/".toList = ['/'] := rfl
  have data : "/data/data.csv".toList = '/' :: "data/data.csv".toList := rfl
  rcases mem_locations.mp member with rfl | rfl | rfl
  · exact ⟨"data/data.csv".toList, by simp [Build.dataLocation, Build.dataFileKey, Build.folder,
      data]⟩
  · exact ⟨(stampText build.timestamp.civil).toList ++ "_manifest.checksum".toList, by
      simp [Build.checksumLocation, checksumKey, Build.folder]⟩
  · exact ⟨(stampText build.timestamp.civil).toList ++ "_manifest.json".toList, by
      simp [Build.manifestLocation, manifestKey, Build.folder]⟩

/-- Folders tell the builds apart. -/
theorem labels_of_shared_key (accepted : ConfigLoader.AcceptedName build.bucketName)
    (accepted' : ConfigLoader.AcceptedName other.bucketName) {location location' : S3Location}
    (member : location ∈ build.locations) (member' : location' ∈ other.locations)
    (same : location = location') :
    build.bucketName = other.bucketName ∧ stampText build.labelled = stampText other.labelled := by
  obtain ⟨tail, key⟩ := key_in_folder member
  obtain ⟨tail', key'⟩ := key_in_folder member'
  rw [same, key'] at key
  have folders := congrArg (partition '/') (List.append_cancel_left key)
  rw [partition_append (slash_not_mem_accepted accepted),
    partition_append (slash_not_mem_accepted accepted'), Prod.mk.injEq] at folders
  have stamps := congrArg (partition '/') folders.2
  rw [partition_append (slash_not_mem_stampText _), partition_append (slash_not_mem_stampText _),
    Prod.mk.injEq] at stamps
  exact ⟨String.toList_injective folders.1.symm, String.toList_injective stamps.1.symm⟩

theorem getLast?_key (front last : String) (some_ : last.toList ≠ []) :
    (front ++ last).toList.getLast? = last.toList.getLast? := by
  rw [String.toList_append, List.getLast?_append_of_ne_nil _ some_]

theorem nodup_locations (build : Build) : build.locations.Nodup := by
  refine List.Nodup.of_map (fun location => location.key.toList.getLast?) ?_
  have ends : (build.locations.map fun location => location.key.toList.getLast?) =
      [some 'v', some 'm', some 'n'] := by
    simp only [Build.locations, Build.plan, List.map_cons, List.map_nil, Build.dataLocation,
      Build.dataFileKey, Build.checksumLocation, checksumKey, Build.manifestLocation, manifestKey]
    rw [getLast?_key _ _ (by decide), getLast?_key _ _ (by decide), getLast?_key _ _ (by decide)]
    rfl
  rw [ends]
  decide

end Folders

section Reading
variable (objects : S3Location → Option S3Object)

/-- The rows of a listed file of the size and the checksum it is listed with. -/
def readFile (bucket : String) : Json → Option (List ManifestEntry)
  | .object members =>
      match Json.get members "key", Json.get members "size", Json.get members "MD5checksum" with
      | .str key, .int size, .str checksum => do
          let file ← objects ⟨bucket, key⟩
          guard (file.body.length = size ∧ hexdigest file.body = checksum)
          let text ← decodeStrict file.body
          return deserialize (String.ofList text)
      | _, _, _ => none
  | _ => none

/-- The bucket an ARN names. -/
def bucketOfArn (arn : String) : Option String :=
  if arnPrefix.toList.isPrefixOf arn.toList
    then some (String.ofList (arn.toList.drop arnPrefix.toList.length)) else none

def siblingChecksum (location : S3Location) : S3Location :=
  ⟨location.bucket, String.ofList
    (location.key.toList.take (location.key.toList.length - 5)) ++ ".checksum"⟩

/-- The rows of the one file that an envelope lists. -/
def readEnvelope : Json → Option (List ManifestEntry)
  | .object members =>
      match Json.get members "destinationBucket", Json.get members "fileFormat",
          Json.get members "fileSchema",
          Json.get members "files" with
      | .str arn, .str format, .str schema, .list [file] => do
          guard (format = "CSV" ∧ schema = fieldSchema)
          readFile objects (← bucketOfArn arn) file
      | _, _, _, _ => none
  | _ => none

/-- What a reader makes of a manifest with one data file, whose checksum object stands by it. -/
def readInventory (location : S3Location) : Option (List ManifestEntry) := do
  let manifest ← objects location
  let checksum ← objects (siblingChecksum location)
  guard (checksum.body = utf8 (hexdigest manifest.body).toList)
  let text ← decodeStrict manifest.body
  readEnvelope objects (← Json.loads (String.ofList text))

variable {objects} {build : Build}

theorem siblingChecksum_manifestLocation (build : Build) :
    siblingChecksum build.manifestLocation = build.checksumLocation := by
  have chars : build.manifestLocation.key.toList =
      (build.folder ++ "/" ++ stampText build.timestamp.civil ++
        "_manifest").toList ++ ".json".toList := by
    simp [Build.manifestLocation, manifestKey]
  have cut : (build.manifestLocation.key.toList.take
      (build.manifestLocation.key.toList.length - 5)) =
      (build.folder ++ "/" ++ stampText build.timestamp.civil ++ "_manifest").toList := by
    rw [chars, List.length_append, show ".json".toList.length = 5 from rfl, Nat.add_sub_cancel,
      List.take_left]
  rw [siblingChecksum, cut, String.ofList_toList, Build.checksumLocation, checksumKey]
  simp only [Build.manifestLocation, String.append_assoc]
  rfl

theorem bucketOfArn_arnPrefix (bucket : String) :
    bucketOfArn (arnPrefix ++ bucket) = some bucket := by
  have begins : arnPrefix.toList.isPrefixOf (arnPrefix ++ bucket).toList := by
    rw [List.isPrefixOf_iff_prefix, String.toList_append]
    exact List.prefix_append _ _
  rw [bucketOfArn, if_pos begins, String.toList_append, List.drop_left, String.ofList_toList]

theorem exact_envelope (build : Build) :
    Json.Exact (envelope build.bucketName build.stateBucket [build.file] build.timestamp) := by
  simp [envelope, fileEntry, Json.Exact, Json.ExactMembers, Json.ExactItems]

/-- Where all that a build puts is there, its manifest reads as the entries kept. -/
theorem readInventory_complete (outbound : ∀ entry ∈ build.keptEntries, Outbound entry)
    (there : ∀ entry ∈ build.plan, objects entry.1 = some entry.2) :
    readInventory objects build.manifestLocation = some build.keptEntries := by
  simp only [Build.plan, List.mem_cons, List.not_mem_nil, or_false, forall_eq_or_imp,
    forall_eq] at there
  obtain ⟨data, checksum, manifest⟩ := there
  have text : decodeStrict build.manifestBytes = some
      (Json.layText Json.rawIndented
        (envelope build.bucketName build.stateBucket [build.file] build.timestamp)).toList :=
    decodeStrict_eq_some_iff.mpr rfl
  have rows : decodeStrict build.csvBytes = some (serialize build.keptEntries).toList :=
    decodeStrict_eq_some_iff.mpr rfl
  have file : readFile objects build.stateBucket (fileEntry build.file) =
      some build.keptEntries := by
    have object : objects ⟨build.stateBucket, build.dataFileKey⟩ =
      some (build.object build.csvBytes "text/csv") := data
    have listed : readFile objects build.stateBucket (fileEntry build.file) = (do
        let file ← objects ⟨build.stateBucket, build.dataFileKey⟩
        guard (file.body.length = (build.csvBytes.length : Int) ∧
          hexdigest file.body = hexdigest build.csvBytes)
        let text ← decodeStrict file.body
        return deserialize (String.ofList text)) := rfl
    rw [listed, object]
    simp [Build.object, rows, deserialize_serialize _ outbound]
  have files : readEnvelope objects
    (envelope build.bucketName build.stateBucket [build.file] build.timestamp) = (do
      guard (("CSV" : String) = "CSV" ∧ fieldSchema = fieldSchema)
      readFile objects (← bucketOfArn (arnPrefix ++ build.stateBucket)) (fileEntry build.file)) :=
        rfl
  rw [readInventory, manifest, Option.bind_eq_bind, Option.bind_some,
    siblingChecksum_manifestLocation, checksum]
  simp only [Build.object, Option.bind_eq_bind, Option.bind_some, text, String.ofList_toList,
    Json.loads_layText _ _ (exact_envelope build), files, bucketOfArn_arnPrefix, file]
  simp

theorem readInventory_absent {location : S3Location} (absent : objects location = none) :
    readInventory objects location = none := by
  rw [readInventory, absent]
  rfl

end Reading

section Counting

theorem newline_ne_ofNat {n : Nat} (low : 0x80 ≤ n) (high : n < 256) : 10 ≠ UInt8.ofNat n := by
  intro same
  have value := congrArg UInt8.toNat same
  rw [UInt8.toNat_ofNat'] at value
  change 10 = n % 256 at value
  omega

theorem newline_not_mem_utf8EncodeChar {c : Char}
    (other : c ≠ '\n') : (10 : UInt8) ∉ String.utf8EncodeChar c := by
  have code : c.val.toNat ≠ 10 := fun same => other (Char.ext (UInt32.toNat_inj.mp same))
  rw [String.utf8EncodeChar]
  split_ifs
  · rw [List.mem_singleton]
    intro same
    have value := congrArg UInt8.toNat same
    rw [UInt8.toNat_ofNat'] at value
    change 10 = c.val.toNat % 256 at value
    omega
  all_goals
    simp only [List.mem_cons, List.not_mem_nil, or_false, not_or]
    repeat' apply And.intro
    all_goals exact newline_ne_ofNat (by omega) (by omega)

theorem count_newline_utf8EncodeChar (c : Char) :
    (String.utf8EncodeChar c).count 10 = if c = '\n' then 1 else 0 := by
  split
  · rename_i newline
    rw [newline]
    rfl
  · rename_i other
    exact List.count_eq_zero.mpr (newline_not_mem_utf8EncodeChar other)

theorem count_newline_utf8 (text : List Char) : (utf8 text).count 10 = text.count '\n' := by
  induction text with
  | nil => rfl
  | cons c text ih =>
    rw [utf8, List.flatMap_cons, List.count_append, count_newline_utf8EncodeChar, ← utf8, ih,
      List.count_cons]
    simp only [beq_iff_eq]
    omega

theorem count_newline_intercalate (lines : List (List Char)) (plain : ∀ line ∈ lines, '\n' ∉ line)
    (some_ : lines ≠ []) :
    (['\n'].intercalate lines).count '\n' + 1 = lines.length := by
  induction lines with
  | nil => exact absurd rfl some_
  | cons line rest ih =>
    have own := List.count_eq_zero.mpr (plain line List.mem_cons_self)
    cases rest with
    | nil => rw [List.intercalate_singleton, own]; rfl
    | cons next more =>
      have later := ih (fun other member => plain other (List.mem_cons_of_mem _ member))
        (List.cons_ne_nil _ _)
      rw [List.intercalate_cons_cons, List.count_append, List.count_append, own, List.length_cons,
        ← later]
      simp only [List.count_singleton_self]
      omega

/-- The rows counted in the bytes are the entries. -/
theorem rowCount_csvBytes {build : Build} (outbound : ∀ entry ∈ build.keptEntries, Outbound entry) :
    rowCount build.csvBytes = build.keptEntries.length := by
  have chars : (serialize build.keptEntries).toList =
      ['\n'].intercalate (build.keptEntries.map fun entry => (toCsvRow entry).toList) := by
    rw [serialize, String.toList_intercalate, List.map_map]
    rfl
  have plain : ∀ line ∈ build.keptEntries.map fun entry => (toCsvRow entry).toList,
      '\n' ∉ line := by
    intro line member
    obtain ⟨entry, listed, rfl⟩ := List.mem_map.mp member
    exact fun newline => toCsvRow_plain (outbound entry listed) _ newline (by decide)
  cases kept : build.keptEntries with
  | nil =>
    have empty : build.csvBytes = [] := by rw [Build.csvBytes, kept]; rfl
    rw [rowCount, if_pos empty, List.length_nil]
  | cons entry rest =>
    have some_ : (build.keptEntries.map fun entry => (toCsvRow entry).toList) ≠ [] := by
      rw [kept]
      exact List.cons_ne_nil _ _
    have lines := count_newline_intercalate _ plain some_
    rw [← chars, ← count_newline_utf8, List.length_map, kept] at lines
    have bytes : build.csvBytes ≠ [] := by
      intro empty
      have chars : (serialize build.keptEntries).toList = [] := by
        rw [← decode_utf8 (serialize build.keptEntries).toList, show utf8 _ = [] from empty]
        rfl
      have read := deserialize_serialize _ outbound
      rw [deserialize, if_pos (String.toList_eq_nil_iff.mp chars), kept] at read
      cases read
    rw [rowCount, if_neg bytes, Build.csvBytes, kept, lines]

end Counting

section Histories
variable {ι : Type} [DecidableEq ι]

/-- Before any build has put anything. -/
def starting (builds : ι → Build) (objects : S3Location → Option S3Object) :
    World S3Location S3Object (Option String) String (Except String WrittenManifest) ι :=
  ⟨objects, fun i => (builds i).write⟩

omit [DecidableEq ι] in
theorem apart_plans {builds : ι → Build}
    (accepted : ∀ i, ConfigLoader.AcceptedName (builds i).bucketName)
    (labelled : Function.Injective fun i =>
      ((builds i).bucketName, stampText (builds i).labelled)) :
    Apart fun i => (builds i).plan where
  within i := nodup_locations (builds i)
  between i j other _ member _ member' same :=
    other (labelled (Prod.ext_iff.mpr
      (labels_of_shared_key (accepted i) (accepted j) (List.mem_map_of_mem member)
      (List.mem_map_of_mem member') same)))

theorem encryption_of_plan {build : Build} {entry : S3Location × S3Object}
    (member : entry ∈ build.plan) :
    entry.2.encryption = encryptionFor build.kmsKeyArn := by
  simp only [Build.plan, List.mem_cons, List.not_mem_nil, or_false] at member
  rcases member with rfl | rfl | rfl <;> rfl

/-- In any order of the puts of any number of builds, whichever of them are refused or
lose their answer, a manifest that is there lists one data file, of the size and the
checksum it has, which reads as the entries its build kept; all that a build put is
encrypted as configured; and a manifest that is handed on is there, with the count of its
entries, which is the count of the rows. -/
theorem visible_manifests_intact (builds : ι → Build)
    (accepted : ∀ i, ConfigLoader.AcceptedName (builds i).bucketName)
    (labelled : Function.Injective fun i => ((builds i).bucketName, stampText (builds i).labelled))
    (outbound : ∀ i, ∀ entry ∈ (builds i).keptEntries, Outbound entry)
    (objects : S3Location → Option S3Object)
    (fresh : ∀ i, ∀ location ∈ (builds i).locations, objects location = none)
    (acts : List (Act S3Location S3Object (Option String) String ι))
    (elsewhere : ∀ location object, .foreign location object ∈ acts →
      ∀ i, location ∉ (builds i).locations) (i : ι) :
    let after := (starting builds objects).run acts
    readInventory after.objects (builds i).manifestLocation =
        (after.objects (builds i).manifestLocation).map (fun _ => (builds i).keptEntries) ∧
      (∀ location ∈ (builds i).locations, ∀ object, after.objects location = some object →
        object.encryption = encryptionFor (builds i).kmsKeyArn) ∧
      ∀ written, after.writers i = .done (.ok written) →
        written.s3Location = (builds i).manifestLocation ∧
        readInventory after.objects written.s3Location = some (builds i).keptEntries ∧
        written.objectCount = (builds i).keptEntries.length ∧
        written.objectCount = rowCount (builds i).csvBytes := by
  intro after
  have apart := apart_plans accepted labelled
  have staged : AllStaged Succeeded (fun i => (builds i).plan) after :=
    allStaged_run apart acts
      (fun location object foreign j entry member same =>
        elsewhere location object foreign j (same ▸ List.mem_map_of_mem member))
      (allStaged_start (fun j => write_follows (builds j)) fun j entry member =>
        fresh j _ (List.mem_map_of_mem member))
  obtain ⟨seen, todo, stage⟩ := staged i
  refine ⟨?_, fun location member object there => ?_, fun written handed => ?_⟩
  · cases there : after.objects (builds i).manifestLocation with
    | none => exact readInventory_absent there
    | some object =>
      have earlier : (builds i).plan = (builds i).plan.take 2 ++
        ((builds i).manifestLocation, _) :: [] := rfl
      have visible : (after.objects (builds i).manifestLocation).isSome := by rw [there]; rfl
      exact readInventory_complete (outbound i) (stage.behind earlier visible)
  · obtain ⟨entry, planned, rfl⟩ := List.mem_map.mp member
    rw [stage.planned planned there]
    exact encryption_of_plan planned
  · have start (j : ι) : Promises (HandsOn (builds j)) ((starting builds objects).writers j) :=
      write_promises (builds j)
    have promised : Promises (HandsOn (builds i)) (after.writers i) := promises_run acts start i
    rw [handed] at promised
    obtain ⟨location, count⟩ := promised written rfl
    rw [location, count]
    exact ⟨rfl, readInventory_complete (outbound i) (stage.complete handed ⟨written, rfl⟩), rfl,
      (rowCount_csvBytes (outbound i)).symm⟩

/-- Two manifests of one bucket, a second apart. -/
def photosBuilds (later : Bool) : Build :=
  let first : Civil := default
  let reading : Civil :=
    { first with
      clock := { first.clock with
        second := if later then 1 else 0
        secondInRange := by split <;> decide } }
  { stateBucket := "state"
    kmsKeyArn := none
    bucketName := "photos"
    labelled := reading
    timestamp := ⟨reading, if later then 1001 else 1⟩
    keptEntries := [⟨"photos", "a,\"b\n%/é", none⟩, ⟨"photos", "ant", some "v1"⟩] }

/-- The second manifest goes up under the puts of the first, whose envelope loses its answer. -/
def crossing : List (Act S3Location S3Object (Option String) String Bool) :=
  [.turn false (.answered (some "\"d\"")), .turn true (.answered (some "\"e\"")),
    .turn false (.answered none),
    .turn true (.answered none), .turn false (.unanswered "timed out"),
      .turn true (.answered (some "\"f\""))]

def crossed : World S3Location S3Object (Option String) String
    (Except String WrittenManifest) Bool :=
  (starting photosBuilds fun _ => none).run crossing

theorem visible_manifests_intact_crossing :
    readInventory crossed.objects (photosBuilds true).manifestLocation =
      (crossed.objects (photosBuilds true).manifestLocation).map fun _ =>
        (photosBuilds true).keptEntries := by
  have accepted : ConfigLoader.isValidS3BucketName "photos" = true := by decide
  have outbound : ∀ entry ∈ (photosBuilds true).keptEntries, Outbound entry := by decide
  have own : ∀ location object, .foreign location object ∉ crossing := by simp [crossing]
  exact (visible_manifests_intact photosBuilds (fun _ => accepted) (by decide) (fun _ =>
    outbound) (fun _ => none)
    (fun _ _ _ => rfl) crossing (fun location object foreign =>
      absurd foreign (own location object)) true).1

end Histories
end ReplicateOnTag.InventoryManifest
