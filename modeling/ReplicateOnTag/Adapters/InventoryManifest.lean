import ReplicateOnTag.Library.JsonLayout
import ReplicateOnTag.Library.PublishLast
import ReplicateOnTag.Adapters.ReportReader

/-! The manifest of a job in the inventory report format: a data file, the checksum
of the envelope, and last the envelope that names the data file. -/
namespace ReplicateOnTag.InventoryManifest
open CivilTime Decimal ManifestCsv PercentEncoding PublishLast
open ReportReader (hexdigest)

section Objects

structure S3Location where
  bucket : String
  key : String
  deriving DecidableEq

inductive Encryption where
  | awsKms (keyId : String)
  | aes256
  deriving DecidableEq

structure S3Object where
  body : List UInt8
  contentType : String
  encryption : Encryption
  deriving DecidableEq

/-- A put is answered with the `ETag` of its response, or raises under a message. -/
abbrev S3Program (α : Type) := Putting S3Location S3Object (Option String) String α

/-- An empty ARN is no ARN. -/
def encryptionFor : Option String → Encryption
  | none => .aes256
  | some kmsKeyArn => if kmsKeyArn = "" then .aes256 else .awsKms kmsKeyArn

/-- `raw_etag.strip('"')`. -/
def stripQuotes (rawEtag : String) : String :=
  String.ofList (WhiteSpace.trim (· = '"') rawEtag.toList)

/-- `_put_object`. -/
def putObject (bucket key : String) (body : List UInt8) (contentType : String)
    (kmsKeyArn : Option String)
    (next : Except String String → S3Program α) : S3Program α :=
  .put ⟨bucket, key⟩ ⟨body, contentType, encryptionFor kmsKeyArn⟩ fun reply =>
    next (reply.map fun etag => stripQuotes (etag.getD ""))

end Objects

section Envelope

structure DataFileWithMd5 where
  key : String
  size : Nat
  md5Hex : String
  rowCount : Option Nat

/-- A reading of the clock, and its `int(timestamp() * 1000)`, which is left to the
floating point of the runtime. -/
structure Timestamp where
  civil : Civil
  millis : Int

def inventoryFormatVersion : String := "2016-11-30"

def fieldSchema : String := "Bucket, Key, VersionId"

def computeInMemoryMd5 (data : List UInt8) : String := hexdigest data

def fileEntry (file : DataFileWithMd5) : Json :=
  .object [("key", .str file.key), ("size", .int file.size), ("MD5checksum", .str file.md5Hex)]

def arnPrefix : String := "arn:aws:s3:::"

def envelope (sourceBucket scratchBucket : String) (dataFiles : List DataFileWithMd5)
    (timestamp : Timestamp) : Json :=
  .object
    [("sourceBucket", .str sourceBucket), ("destinationBucket", .str (arnPrefix ++ scratchBucket)),
      ("version", .str inventoryFormatVersion),
        ("creationTimestamp", .str (String.ofList (Json.intText timestamp.millis))),
      ("fileFormat", .str "CSV"), ("fileSchema", .str fieldSchema),
        ("files", .list (dataFiles.map fileEntry))]

def buildManifestJson (sourceBucket scratchBucket : String) (dataFiles : List DataFileWithMd5)
    (timestamp : Timestamp) :
    List UInt8 :=
  utf8 (Json.layText Json.rawIndented
    (envelope sourceBucket scratchBucket dataFiles timestamp)).toList

def buildManifestChecksum (manifestJsonBytes : List UInt8) : String := hexdigest manifestJsonBytes

end Envelope

section Writing

structure WrittenManifest where
  s3Location : S3Location
  etag : String
  objectCount : Nat
  allVersioned : Bool

structure InventoryManifestWriteError where
  configId : String
  reason : String

def InventoryManifestWriteError.message (error : InventoryManifestWriteError) : String :=
  "Inventory manifest write failed for config '" ++ error.configId ++ "': " ++ error.reason

/-- `strftime("%Y%m%dT%H%M%SZ")`. -/
def stampText (civil : Civil) : String :=
  String.ofList (pad 4 civil.date.year ++ pad 2 civil.date.month ++ pad 2 civil.date.day ++
    'T' :: (pad 2 civil.clock.hour ++ pad 2 civil.clock.minute ++
      pad 2 civil.clock.second ++ ['Z']))

def checksumKey (destPrefix : String) (timestamp : Timestamp) : String :=
  destPrefix ++ stampText timestamp.civil ++ "_manifest.checksum"

def manifestKey (destPrefix : String) (timestamp : Timestamp) : String :=
  destPrefix ++ stampText timestamp.civil ++ "_manifest.json"

/-- A file without a row count counts as one row. -/
def objectCount (dataFiles : List DataFileWithMd5) : Nat :=
  (dataFiles.map fun file => file.rowCount.getD 1).sum

def writeInventoryManifest (scratchBucket destPrefix sourceBucket configId : String)
    (dataFiles : List DataFileWithMd5)
    (kmsKeyArn : Option String) (timestamp : Timestamp) :
    S3Program (Except InventoryManifestWriteError WrittenManifest) :=
  let manifestBytes := buildManifestJson sourceBucket scratchBucket dataFiles timestamp
  let checksumHex := buildManifestChecksum manifestBytes
  putObject scratchBucket (checksumKey destPrefix timestamp) (utf8 checksumHex.toList)
    "text/plain" kmsKeyArn fun
    | .error exception => .done
        (.error ⟨configId, "Failed to write manifest.checksum: " ++ exception⟩)
    | .ok _ =>
        putObject scratchBucket (manifestKey destPrefix timestamp) manifestBytes
          "application/json" kmsKeyArn fun
          | .error exception => .done
              (.error ⟨configId, "Failed to write manifest.json: " ++ exception⟩)
          | .ok etag =>
              if etag = "" then .done (.error
                ⟨configId, "S3 PutObject for manifest.json returned no ETag"⟩)
              else .done (.ok ⟨⟨scratchBucket, manifestKey destPrefix timestamp⟩, etag,
                objectCount dataFiles, true⟩)

/-- What stands before the last occurrence. -/
def cutLast (separator : List Char) : List Char → Option (List Char)
  | [] => none
  | c :: rest =>
      match cutLast separator rest with
      | some before => some (c :: before)
      | none => if separator.isPrefixOf (c :: rest) then some [] else none

/-- `text.rsplit(separator, 1)[0]`. -/
def beforeLast (separator text : String) : String :=
  String.ofList ((cutLast separator.toList text.toList).getD text.toList)

/-- One row a line, without a header or a final newline. -/
def rowCount (csvBytes : List UInt8) : Nat := if csvBytes = [] then 0 else csvBytes.count 10 + 1

def inMemoryFile (csvBytes : List UInt8) (dataFileKey : String) : DataFileWithMd5 :=
  ⟨dataFileKey, csvBytes.length, computeInMemoryMd5 csvBytes, some (rowCount csvBytes)⟩

def destPrefixOf (dataFileKey : String) : String := beforeLast "/data/" dataFileKey ++ "/"

def writeInMemoryInventoryManifest (scratchBucket configId sourceBucket : String)
    (csvBytes : List UInt8)
    (dataFileKey : String) (kmsKeyArn : Option String) (timestamp : Timestamp) :
    S3Program (Except InventoryManifestWriteError WrittenManifest) :=
  putObject scratchBucket dataFileKey csvBytes "text/csv" kmsKeyArn fun
    | .error exception => .done
        (.error ⟨configId, "Failed to write in-memory data file: " ++ exception⟩)
    | .ok _ =>
        writeInventoryManifest scratchBucket (destPrefixOf dataFileKey) sourceBucket configId
          [inMemoryFile csvBytes dataFileKey] kmsKeyArn timestamp

end Writing

section Building

/-- What `_build_manifest` writes a manifest from. -/
structure Build where
  stateBucket : String
  kmsKeyArn : Option String
  bucketName : String
  /-- The reading of the clock that names the folder of the manifest. -/
  labelled : Civil
  /-- The reading that names the manifest itself. -/
  timestamp : Timestamp
  keptEntries : List ManifestEntry

namespace Build

def csvBytes (build : Build) : List UInt8 := utf8 (serialize build.keptEntries).toList

def folder (build : Build) : String :=
  "manifests/" ++ build.bucketName ++ "/" ++ stampText build.labelled

def dataFileKey (build : Build) : String := build.folder ++ "/data/data.csv"

/-- The end of `_build_manifest`: the manifest with the count of its entries, or the cause
that is logged. -/
def write (build : Build) : S3Program (Except String WrittenManifest) :=
  (writeInMemoryInventoryManifest build.stateBucket build.bucketName build.bucketName
    build.csvBytes build.dataFileKey
    build.kmsKeyArn build.timestamp).map fun
      | .ok written => .ok { written with objectCount := build.keptEntries.length }
      | .error error => .error error.message

end Build
end Building
end ReplicateOnTag.InventoryManifest
