import ReplicateOnTag.Core.ConfigLoader

/-! The documented grammar of the configuration, and the one that its patterns
accept: these also take a final newline, and any decimal digit in a region. -/
namespace ReplicateOnTag.ConfigLoader
open ClassPattern
open UnicodeDigits (isDecimal isDecimal_of_isDigit isDigit_of_isDecimal)

section Grammar

def Lower (c : Char) : Prop := 'a' ≤ c ∧ c ≤ 'z'

def Alphanumeric (c : Char) : Prop := Lower c ∨ c.isDigit

def NameChar (c : Char) : Prop := Alphanumeric c ∨ c = '.' ∨ c = '-'

/-- One to three digits. -/
def Octet (digit : Char → Bool) (part : List Char) : Prop :=
  1 ≤ part.length ∧ part.length ≤ 3 ∧ ∀ c ∈ part, digit c

def IpShaped (digit : Char → Bool) (text : List Char) : Prop :=
  ∃ first second third fourth, text = first ++ '.' :: (second ++ '.' :: (third ++ '.' :: fourth)) ∧
    Octet digit first ∧ Octet digit second ∧ Octet digit third ∧ Octet digit fourth

/-- A bucket name but for its length. -/
structure NameShape (text : List Char) : Prop where
  letters : ∀ c ∈ text, NameChar c
  first : ∀ c, text.head? = some c → Alphanumeric c
  last : ∀ c, text.getLast? = some c → Alphanumeric c
  periods : ¬ ['.', '.'] <:+: text
  address : ¬ IpShaped Char.isDigit text

/-- Two to four letters, words, and a suffix of one or two digits. -/
def RegionShape (digit : Char → Bool) (text : List Char) : Prop :=
  ∃ (geo : List Char) (words : List (List Char)) (suffix : List Char),
    text = geo ++ '-' :: ((words.flatMap fun word => word ++ ['-']) ++ suffix) ∧
    (2 ≤ geo.length ∧ geo.length ≤ 4 ∧ ∀ c ∈ geo, Lower c) ∧
    (words ≠ [] ∧ ∀ word ∈ words, word ≠ [] ∧ ∀ c ∈ word, Lower c) ∧
    (1 ≤ suffix.length ∧ suffix.length ≤ 2 ∧ ∀ c ∈ suffix, digit c)

def NameLength (name : String) : Prop := 3 ≤ name.length ∧ name.length ≤ 63

def DocumentedName (name : String) : Prop := NameLength name ∧ NameShape name.toList

def DocumentedRegion (region : String) : Prop := RegionShape Char.isDigit region.toList

/-- With or without a final newline. -/
def UpToNewline (good : List Char → Prop) (text : List Char) : Prop :=
  good text ∨ ∃ base, text = base ++ ['\n'] ∧ good base

def LooseName (name : String) : Prop := NameLength name ∧ UpToNewline NameShape name.toList

def LooseRegion (region : String) : Prop := UpToNewline (RegionShape isDecimal) region.toList

/-- A newline at an end, or a digit of a region beyond ASCII. -/
def Slips (pair : String × String) : Prop :=
  pair.1.toList.getLast? = some '\n' ∨ pair.2.toList.getLast? = some '\n' ∨
    ∃ c ∈ pair.2.toList, isDecimal c ∧ ¬ c.isDigit

/-- The configuration is returned, with its pairs in order, exactly when it is of
the documented grammar; otherwise there is an error. -/
def MeetsGrammar (repr : String → String) (source : Value) : Prop :=
  ∀ config, loadConfig repr source = .ok config ↔
    ∃ pairs, Lists DocumentedName DocumentedRegion source pairs ∧ config = ⟨pairs.map bucketOf⟩

end Grammar

section Classes

theorem not_isDecimal_of_lower {c : Char} (lower : Lower c) : isDecimal c = false := by
  obtain ⟨low, high⟩ := lower
  rw [Char.le_def, UInt32.le_iff_toNat_le] at low high
  have small : c.toNat ≤ 0x7a := high
  have large : 0x61 ≤ c.toNat := low
  by_contra decimal
  have digit := (Decimal.isDigit_iff c).mp
    (isDigit_of_isDecimal (by omega) (by simpa using decimal))
  omega

theorem classOf_lower_iff {c : Char} : classOf c = .lower ↔ Lower c := by
  rw [classOf, Lower]
  split
  · simp [*]
  · rename_i other
    simp only [other, iff_false]
    repeat' split
    all_goals decide

theorem classOf_digit_iff {c : Char} : classOf c = .digit ↔ c.isDigit := by
  rw [classOf]
  split
  · rename_i lower
    have none : c.isDigit ≠ true := fun digit =>
      absurd (isDecimal_of_isDigit digit)
        (by rw [not_isDecimal_of_lower lower]; exact Bool.false_ne_true)
    simp only [reduceCtorEq, none]
  · split
    · simp [*]
    · rename_i other
      simp only [other]
      repeat' split
      all_goals decide

theorem classOf_decimal_iff
    {c : Char} : classOf c ∈ [CharClass.digit, .otherDecimal] ↔ isDecimal c := by
  rw [classOf]
  split
  · rename_i lower
    simp [not_isDecimal_of_lower lower]
  · split
    · rename_i digit
      simp [isDecimal_of_isDigit digit]
    · split
      · simp [*]
      · rename_i other
        simp only [other]
        repeat' split
        all_goals decide

theorem classOf_hyphen_iff {c : Char} : classOf c = .hyphen ↔ c = '-' := by
  constructor
  · intro same
    by_contra other
    rw [classOf] at same
    simp only [if_neg other] at same
    repeat' split at same
    all_goals cases same
  · rintro rfl
    decide

theorem classOf_period_iff {c : Char} : classOf c = .period ↔ c = '.' := by
  constructor
  · intro same
    by_contra other
    rw [classOf] at same
    simp only [if_neg other] at same
    repeat' split at same
    all_goals cases same
  · rintro rfl
    decide

theorem classOf_alphanumeric_iff
    {c : Char} : classOf c ∈ [CharClass.lower, .digit] ↔ Alphanumeric c := by
  simp only [List.mem_cons, List.not_mem_nil, or_false, classOf_lower_iff, classOf_digit_iff,
    Alphanumeric]

theorem classOf_nameChar_iff {c : Char} :
    classOf c ∈ [CharClass.lower, .digit, .period, .hyphen] ↔ NameChar c := by
  simp only [List.mem_cons, List.not_mem_nil, or_false, classOf_lower_iff, classOf_digit_iff,
    classOf_period_iff, classOf_hyphen_iff, NameChar, Alphanumeric, or_assoc]

theorem not_nameChar_newline : ¬ NameChar '\n' := by
  rintro ((lower | digit) | period | hyphen)
  · exact absurd lower.1 (by decide)
  · exact absurd digit (by decide)
  · exact absurd period (by decide)
  · exact absurd hyphen (by decide)

theorem isDigit_of_nameChar {c : Char} (letter : NameChar c)
    (decimal : isDecimal c) : c.isDigit := by
  rcases letter with (lower | digit) | rfl | rfl
  · rw [not_isDecimal_of_lower lower] at decimal
    cases decimal
  · exact digit
  · exact absurd decimal (by decide)
  · exact absurd decimal (by decide)

end Classes

section Patterns
variable {text : List Char}

theorem matchLine_iff (pattern : RegularExpression CharClass) (name : String) :
    matchLine pattern name ↔ UpToNewline (fun text =>
      fullMatch classOf pattern text) name.toList := by
  simp only [matchLine, Bool.or_eq_true, Bool.and_eq_true, decide_eq_true_eq, UpToNewline]
  refine or_congr_right ⟨?_, ?_⟩
  · rintro ⟨ends, matched⟩
    exact ⟨name.toList.dropLast, (List.dropLast_append_getLast? _ ends).symm, matched⟩
  · rintro ⟨base, split, matched⟩
    rw [split, List.getLast?_concat, List.dropLast_concat]
    exact ⟨rfl, matched⟩

theorem fullMatch_s3NameRe : fullMatch classOf s3NameRe text ↔ 2 ≤ text.length ∧
    (∀ c ∈ text, NameChar c) ∧
    (∀ c, text.head? = some c → Alphanumeric c) ∧ ∀ c, text.getLast? = some c → Alphanumeric c := by
  simp only [s3NameRe, fullMatch_mul, fullMatch_oneOf, fullMatch_star_oneOf,
    classOf_alphanumeric_iff, classOf_nameChar_iff]
  constructor
  · rintro ⟨_, _, rfl, ⟨_, middle, rfl, ⟨first, rfl, begin⟩, inner⟩, last, rfl, ending⟩
    refine ⟨by simp, fun c member => ?_, fun c head => ?_, fun c tail => ?_⟩
    · simp only [List.cons_append, List.mem_cons, List.mem_append, List.not_mem_nil, or_false,
        false_or] at member
      rcases member with rfl | within | rfl
      · exact .inl begin
      · exact inner c within
      · exact .inl ending
    · simp only [List.cons_append, List.head?_cons, Option.some.injEq] at head
      exact head ▸ begin
    · rw [List.getLast?_concat, Option.some.injEq] at tail
      exact tail ▸ ending
  · rintro ⟨long, letters, begin, ending⟩
    cases text with
    | nil => cases long
    | cons first rest =>
      rcases List.eq_nil_or_concat rest with rfl | ⟨middle, last, rfl⟩
      · cases Nat.le_of_succ_le_succ long
      · rw [List.concat_eq_append] at letters ending ⊢
        refine ⟨first :: middle, [last], rfl,
          ⟨[first], middle, rfl, ⟨first, rfl, begin first rfl⟩, fun c member => ?_⟩,
          last, rfl, ending last ?_⟩
        · exact letters c (List.mem_cons_of_mem _ (List.mem_append_left _ member))
        · rw [← List.cons_append, List.getLast?_concat]

theorem fullMatch_octet : fullMatch classOf (between 1 2 anyDigit) text ↔ Octet isDecimal text := by
  rw [anyDigit, fullMatch_between_oneOf, Octet]
  simp only [classOf_decimal_iff]

theorem fullMatch_period :
    fullMatch classOf (RegularExpression.char .period) text ↔ text = ['.'] := by
  rw [fullMatch_char]
  simp only [classOf_period_iff, exists_eq_right]

theorem fullMatch_hyphen :
    fullMatch classOf (RegularExpression.char .hyphen) text ↔ text = ['-'] := by
  rw [fullMatch_char]
  simp only [classOf_hyphen_iff, exists_eq_right]

theorem fullMatch_ipRe : fullMatch classOf ipRe text ↔ IpShaped isDecimal text := by
  simp only [ipRe, fullMatch_mul, fullMatch_octet, fullMatch_period, IpShaped]
  constructor
  · rintro ⟨_, fourth, rfl,
      ⟨_, _, rfl, ⟨_, third, rfl,
      ⟨_, _, rfl, ⟨_, second, rfl, ⟨first, _, rfl, one, rfl⟩, two⟩, rfl⟩,
      three⟩, rfl⟩, four⟩
    refine ⟨first, second, third, fourth, ?_, one, two, three, four⟩
    simp only [List.append_assoc, List.cons_append, List.nil_append]
  · rintro ⟨first, second, third, fourth, rfl, one, two, three, four⟩
    refine ⟨_, fourth, ?_, ⟨_, _, rfl,
      ⟨_, third, rfl, ⟨_, _, rfl, ⟨_, second, rfl, ⟨first, _, rfl, one, rfl⟩, two⟩, rfl⟩,
      three⟩, rfl⟩, four⟩
    simp only [List.append_assoc, List.cons_append, List.nil_append]

theorem fullMatch_word : fullMatch classOf
    (many (oneOf [.lower]) * RegularExpression.char .hyphen) text ↔
    ∃ word, text = word ++ ['-'] ∧ word ≠ [] ∧ ∀ c ∈ word, Lower c := by
  simp only [fullMatch_mul, fullMatch_many_oneOf, fullMatch_hyphen, List.mem_singleton,
    classOf_lower_iff]
  constructor
  · rintro ⟨word, _, rfl, lower, rfl⟩
    exact ⟨word, rfl, lower⟩
  · rintro ⟨word, rfl, lower⟩
    exact ⟨word, _, rfl, lower, rfl⟩

theorem fullMatch_words :
    fullMatch classOf (many (many (oneOf [.lower]) * RegularExpression.char .hyphen)) text ↔
    ∃ words : List (List Char), text = words.flatMap (fun word => word ++ ['-']) ∧
      words ≠ [] ∧ ∀ word ∈ words, word ≠ [] ∧ ∀ c ∈ word, Lower c := by
  simp only [fullMatch_many, fullMatch_word]
  constructor
  · rintro ⟨_, parts, rfl, ⟨first, rfl, lower⟩, each⟩
    suffices others : ∃ words : List (List Char),
        parts.flatten = words.flatMap (fun word => word ++ ['-']) ∧
        ∀ word ∈ words, word ≠ [] ∧ ∀ c ∈ word, Lower c by
      obtain ⟨words, split, all⟩ := others
      refine ⟨first :: words, by rw [split, List.flatMap_cons], List.cons_ne_nil _ _,
        fun word listed => ?_⟩
      rcases List.mem_cons.mp listed with rfl | listed
      · exact lower
      · exact all word listed
    induction parts with
    | nil => exact ⟨[], rfl, by simp⟩
    | cons part rest ih =>
      obtain ⟨words, split, all⟩ :=
        ih fun other listed => each other (List.mem_cons_of_mem _ listed)
      obtain ⟨_, word, rfl, lower⟩ := each part List.mem_cons_self
      refine ⟨word :: words, by rw [List.flatten_cons, split, List.flatMap_cons],
        fun other listed => ?_⟩
      rcases List.mem_cons.mp listed with rfl | listed
      · exact lower
      · exact all other listed
  · rintro ⟨words, rfl, some, all⟩
    cases words with
    | nil => exact absurd rfl some
    | cons first rest =>
      refine ⟨first ++ ['-'], rest.map fun word => word ++ ['-'], ?_,
        ⟨first, rfl, all first List.mem_cons_self⟩,
        fun part listed => ?_⟩
      · rw [List.flatMap_cons, List.flatMap_def]
      · obtain ⟨word, member, rfl⟩ := List.mem_map.mp listed
        exact ⟨by simp, word, rfl, all word (List.mem_cons_of_mem _ member)⟩

theorem fullMatch_awsRegionRe : fullMatch classOf awsRegionRe text ↔
    RegionShape isDecimal text := by
  simp only [awsRegionRe, anyDigit, fullMatch_mul, fullMatch_between_oneOf, fullMatch_hyphen,
    fullMatch_words, classOf_decimal_iff, List.mem_singleton, classOf_lower_iff, RegionShape]
  constructor
  · rintro ⟨_, suffix, rfl, ⟨_, _, rfl, ⟨geo, _, rfl, letters, rfl⟩, words, rfl, all⟩, digits⟩
    refine ⟨geo, words, suffix, ?_, letters, all, digits⟩
    simp only [List.append_assoc, List.cons_append, List.nil_append]
  · rintro ⟨geo, words, suffix, rfl, letters, all, digits⟩
    refine ⟨_, suffix, ?_, ⟨_, _, rfl, ⟨geo, _, rfl, letters, rfl⟩, words, rfl, all⟩, digits⟩
    simp only [List.append_assoc, List.cons_append, List.nil_append]

end Patterns

section Acceptance

theorem octet_congr {part : List Char} (letters : ∀ c ∈ part, NameChar c) :
    Octet isDecimal part ↔ Octet Char.isDigit part := by
  have each : (∀ c ∈ part, isDecimal c) ↔ ∀ c ∈ part, c.isDigit := forall₂_congr fun c member =>
    ⟨isDigit_of_nameChar (letters c member), isDecimal_of_isDigit⟩
  rw [Octet, Octet, each]

theorem ipShaped_congr {text : List Char} (letters : ∀ c ∈ text, NameChar c) :
    IpShaped isDecimal text ↔ IpShaped Char.isDigit text := by
  refine exists₄_congr fun first second third fourth => and_congr_right fun split => ?_
  subst split
  simp only [List.mem_append, List.mem_cons] at letters
  rw [octet_congr fun c member => letters c (.inl member),
    octet_congr fun c member => letters c (.inr (.inr (.inl member))),
    octet_congr fun c member => letters c (.inr (.inr (.inr (.inr (.inl member))))),
    octet_congr fun c member => letters c (.inr (.inr (.inr (.inr (.inr (.inr member))))))]

theorem newline_not_mem_ipShaped {text : List Char}
    (shaped : IpShaped isDecimal text) : '\n' ∉ text := by
  obtain ⟨first, second, third, fourth, rfl, one, two, three, four⟩ := shaped
  have none : ∀ part, Octet isDecimal part → '\n' ∉ part := fun part octet member =>
    absurd (octet.2.2 _ member) (by decide)
  simp [none first one, none second two, none third three, none fourth four]

theorem nameShape_iff {text : List Char} (long : 2 ≤ text.length) :
    NameShape text ↔ fullMatch classOf s3NameRe text ∧ ¬ ['.', '.'] <:+: text ∧
      ¬ fullMatch classOf ipRe text := by
  rw [fullMatch_s3NameRe, fullMatch_ipRe]
  constructor
  · intro shape
    exact ⟨⟨long, shape.letters, shape.first, shape.last⟩, shape.periods,
      fun address => shape.address ((ipShaped_congr shape.letters).mp address)⟩
  · rintro ⟨⟨_, letters, first, last⟩, periods, address⟩
    exact ⟨letters, first, last, periods, fun shaped =>
      address ((ipShaped_congr letters).mpr shaped)⟩

theorem twoPeriods_concat_newline {base : List Char} :
    ['.', '.'] <:+: base ++ ['\n'] ↔ ['.', '.'] <:+: base := by
  rw [List.infix_concat_iff, List.suffix_concat_iff]
  constructor
  · rintro ((none | ⟨front, split, _⟩) | inside)
    · cases none
    · rw [show ['.', '.'] = ['.'] ++ ['.'] from rfl] at split
      cases (List.append_inj' split rfl).2
    · exact inside
  · exact .inr

theorem not_ipShaped_concat_newline {base : List Char} :
    ¬ IpShaped isDecimal (base ++ ['\n']) := fun shaped =>
  newline_not_mem_ipShaped shaped (List.mem_append_right _ List.mem_cons_self)

/-- The checks accept the documented shape, with or without a final newline. -/
theorem acceptedName_iff (name : String) : AcceptedName name ↔ LooseName name := by
  have length : name.length = name.toList.length := String.length_toList.symm
  simp only [AcceptedName, isValidS3BucketName, LooseName, NameLength]
  by_cases bounds : name.length < 3 ∨ 63 < name.length
  · rw [if_pos bounds]
    simp only [Bool.false_eq_true, false_iff]
    omega
  rw [if_neg bounds]
  have within : 3 ≤ name.length ∧ name.length ≤ 63 := by omega
  simp only [within, and_self, true_and]
  have tests : (if !matchLine s3NameRe name then false
      else if ['.', '.'] <:+: name.toList then false
        else if matchLine ipRe name then false else true) = true ↔
        matchLine s3NameRe name ∧ ¬ ['.', '.'] <:+: name.toList ∧ ¬ matchLine ipRe name := by
    repeat' split
    all_goals simp_all
  rw [tests, matchLine_iff, matchLine_iff]
  simp only [UpToNewline]
  constructor
  · rintro ⟨matched | ⟨base, split, matched⟩, periods, address⟩
    · refine .inl ((nameShape_iff (by omega)).mpr ⟨matched, periods, fun shaped =>
        address (.inl shaped)⟩)
    · rw [split] at periods length
      rw [List.length_append, List.length_singleton] at length
      refine .inr ⟨base, split, (nameShape_iff (by omega)).mpr ⟨matched, ?_, fun shaped => ?_⟩⟩
      · exact fun inside => periods (twoPeriods_concat_newline.mpr inside)
      · exact address (.inr ⟨base, split, shaped⟩)
  · rintro (shape | ⟨base, split, shape⟩)
    · obtain ⟨matched, periods, address⟩ := (nameShape_iff (by omega)).mp shape
      refine ⟨.inl matched, periods, ?_⟩
      rintro (shaped | ⟨base, split, _⟩)
      · exact address shaped
      · exact not_nameChar_newline
          (shape.letters _ (split ▸ List.mem_append_right _ List.mem_cons_self))
    · have long : name.toList.length = base.length + 1 := by
        rw [split, List.length_append, List.length_singleton]
      obtain ⟨matched, periods, address⟩ := (nameShape_iff (by omega)).mp shape
      refine ⟨.inr ⟨base, split, matched⟩, fun inside => ?_, ?_⟩
      · rw [split] at inside
        exact periods (twoPeriods_concat_newline.mp inside)
      · rintro (shaped | ⟨other, split', shaped⟩)
        · rw [fullMatch_ipRe, split] at shaped
          exact not_ipShaped_concat_newline shaped
        · rw [split] at split'
          rw [(List.append_inj' split' rfl).1] at address
          exact address shaped

theorem regionShape_ne_nil {digit : Char → Bool} {text : List Char}
    (shape : RegionShape digit text) : text ≠ [] := by
  obtain ⟨geo, words, suffix, rfl, _⟩ := shape
  simp

theorem acceptedRegion_iff (region : String) : AcceptedRegion region ↔ LooseRegion region := by
  simp only [AcceptedRegion, matchLine_iff, fullMatch_awsRegionRe, LooseRegion]
  refine and_iff_right_of_imp ?_
  rintro (shape | ⟨base, split, _⟩) rfl
  · exact regionShape_ne_nil shape rfl
  · exact absurd split.symm (by simp)

end Acceptance

section Slipping

theorem getLast?_ne_newline_of_name {name : String} (documented : DocumentedName name) :
    name.toList.getLast? ≠ some '\n' := by
  intro ends
  exact not_nameChar_newline (documented.2.letters _ (List.mem_of_getLast? ends))

theorem suffix_of_regionShape {digit : Char → Bool} {text : List Char}
    (shape : RegionShape digit text) :
    (∃ c, text.getLast? = some c ∧ digit c) ∧ ∀ c ∈ text, Lower c ∨ c = '-' ∨ digit c := by
  obtain ⟨geo, words, suffix, rfl, ⟨_, _, letters⟩, ⟨_, each⟩, some, _, digits⟩ := shape
  constructor
  · obtain ⟨front, c, rfl⟩ : ∃ front c, suffix = front ++ [c] := by
      rcases List.eq_nil_or_concat suffix with rfl | ⟨front, c, rfl⟩
      · cases some
      · exact ⟨front, c, List.concat_eq_append⟩
    refine ⟨c, ?_, digits c (List.mem_append_right _ List.mem_cons_self)⟩
    rw [← List.append_assoc, ← List.cons_append, ← List.append_assoc, List.getLast?_concat]
  · intro c member
    simp only [List.mem_append, List.mem_cons, List.mem_flatMap, List.not_mem_nil,
      or_false] at member
    rcases member with early | rfl | ⟨word, listed, inside | rfl⟩ | late
    · exact .inl (letters c early)
    · exact .inr (.inl rfl)
    · exact .inl ((each word listed).2 c inside)
    · exact .inr (.inl rfl)
    · exact .inr (.inr (digits c late))

theorem regionShape_mono {first second : Char → Bool} {text : List Char}
    (weaker : ∀ c ∈ text, first c → second c) (shape : RegionShape first text) :
    RegionShape second text := by
  obtain ⟨geo, words, suffix, rfl, letters, each, some, short, digits⟩ := shape
  refine ⟨geo, words, suffix, rfl, letters, each, some, short, fun c member =>
    weaker c ?_ (digits c member)⟩
  exact List.mem_append_right _ (List.mem_cons_of_mem _ (List.mem_append_right _ member))

theorem not_slips_of_documented {pair : String × String} (name : DocumentedName pair.1)
    (region : DocumentedRegion pair.2) : ¬ Slips pair := by
  obtain ⟨⟨last, ends, digit⟩, letters⟩ := suffix_of_regionShape region
  rintro (newline | newline | ⟨c, member, decimal, other⟩)
  · exact getLast?_ne_newline_of_name name newline
  · rw [newline] at ends
    cases ends
    exact absurd digit (by decide)
  · rcases letters c member with lower | rfl | digit
    · rw [not_isDecimal_of_lower lower] at decimal
      cases decimal
    · exact absurd decimal (by decide)
    · exact other digit

theorem documented_of_loose {pair : String × String} (name : LooseName pair.1)
    (region : LooseRegion pair.2)
    (exact_ : ¬ Slips pair) : DocumentedName pair.1 ∧ DocumentedRegion pair.2 := by
  simp only [Slips, not_or, not_exists, not_and, not_not] at exact_
  obtain ⟨noNewline, noNewline', digits⟩ := exact_
  constructor
  · rcases name with ⟨length, shape | ⟨base, split, _⟩⟩
    · exact ⟨length, shape⟩
    · rw [split, List.getLast?_concat] at noNewline
      exact absurd rfl noNewline
  · rcases region with shape | ⟨base, split, _⟩
    · exact regionShape_mono digits shape
    · rw [split, List.getLast?_concat] at noNewline'
      exact absurd rfl noNewline'

theorem loose_of_documented {pair : String × String} (name : DocumentedName pair.1)
    (region : DocumentedRegion pair.2) : LooseName pair.1 ∧ LooseRegion pair.2 :=
  ⟨⟨name.1, .inl name.2⟩, .inl (regionShape_mono (fun _ _ => isDecimal_of_isDigit) region)⟩

end Slipping

section Loading
variable {repr : String → String} {source : Value} {pairs : List (String × String)}

theorem Lists.mono {goodName goodRegion goodName' goodRegion' : String → Prop}
    (lists : Lists goodName goodRegion source pairs)
    (each : ∀ pair ∈ pairs, goodName pair.1 → goodRegion pair.2 →
      goodName' pair.1 ∧ goodRegion' pair.2) :
    Lists goodName' goodRegion' source pairs := by
  obtain ⟨⟨members, rawBuckets, rfl, found, entries⟩, bounds, distinct⟩ := lists
  refine ⟨⟨members, rawBuckets, rfl, found, ?_⟩, bounds, distinct⟩
  clear found bounds distinct
  induction entries with
  | nil => exact .nil
  | cons entry entries ih =>
    obtain ⟨name, region⟩ := each _ List.mem_cons_self entry.name entry.region
    exact .cons ⟨entry.mapping, name, region⟩ (ih fun pair member =>
      each pair (List.mem_cons_of_mem _ member))

theorem Lists.good {goodName goodRegion : String → Prop}
    (lists : Lists goodName goodRegion source pairs) :
    ∀ pair ∈ pairs, goodName pair.1 ∧ goodRegion pair.2 := by
  obtain ⟨⟨members, rawBuckets, rfl, found, entries⟩, bounds, distinct⟩ := lists
  clear found bounds distinct
  induction entries with
  | nil => exact fun pair member => absurd member List.not_mem_nil
  | cons entry entries ih =>
    intro pair member
    rcases List.mem_cons.mp member with rfl | member
    · exact ⟨entry.name, entry.region⟩
    · exact ih pair member

/-- What loads is the loose grammar. -/
theorem loadConfig_ok_iff_loose {config : AppConfig} : loadConfig repr source = .ok config ↔
    ∃ pairs, Lists LooseName LooseRegion source pairs ∧ config = ⟨pairs.map bucketOf⟩ := by
  rw [loadConfig_ok]
  refine exists_congr fun pairs => and_congr_left fun _ => ⟨fun lists => ?_, fun lists => ?_⟩
  · exact lists.mono fun pair _ name region =>
      ⟨(acceptedName_iff _).mp name, (acceptedRegion_iff _).mp region⟩
  · exact lists.mono fun pair _ name region =>
      ⟨(acceptedName_iff _).mpr name, (acceptedRegion_iff _).mpr region⟩

theorem bucketOf_injective : Function.Injective bucketOf := by
  rintro ⟨name, region⟩ ⟨name', region'⟩ same
  cases same
  rfl

/-- Loading meets the documented grammar unless every entry is otherwise accepted
and some name or region slips. -/
theorem config_grammar_iff (repr : String → String) (source : Value) : MeetsGrammar repr source ↔
    ¬ ∃ pairs, Lists LooseName LooseRegion source pairs ∧ ∃ pair ∈ pairs, Slips pair := by
  constructor
  · rintro meets ⟨pairs, lists, pair, member, slips⟩
    have loaded : loadConfig repr source = .ok ⟨pairs.map bucketOf⟩ :=
      loadConfig_ok_iff_loose.mpr ⟨pairs, lists, rfl⟩
    obtain ⟨documented, listed, same⟩ := (meets _).mp loaded
    obtain rfl := bucketOf_injective.list_map (AppConfig.mk.inj same)
    obtain ⟨name, region⟩ := listed.good pair member
    exact not_slips_of_documented name region slips
  · intro clean config
    rw [loadConfig_ok_iff_loose]
    refine exists_congr fun pairs => and_congr_left fun _ => ⟨fun lists => ?_, fun lists => ?_⟩
    · exact lists.mono fun pair member name region =>
        documented_of_loose name region fun slips => clean ⟨pairs, lists, pair, member, slips⟩
    · exact lists.mono fun pair _ name region => loose_of_documented name region

/-- A bucket name that ends in a newline is loaded. -/
theorem newline_name_loaded : ¬ ∀ repr source, MeetsGrammar repr source := by
  intro meets
  have loaded : loadConfig (fun text => text) (.dict [("buckets",
      .list [.dict [("name", .str "abc\n"), ("region", .str "us-east-1")]])]) =
        .ok ⟨[⟨"abc\n", "us-east-1"⟩]⟩ := by decide +kernel
  obtain ⟨pairs, lists, same⟩ := (meets _ _ _).mp loaded
  have first : ("abc\n", "us-east-1") ∈ pairs := by
    have listed : bucketOf ("abc\n", "us-east-1") ∈ pairs.map bucketOf := by
      rw [← AppConfig.mk.inj same]
      exact List.mem_cons_self
    obtain ⟨pair, member, own⟩ := List.mem_map.mp listed
    exact bucketOf_injective own ▸ member
  exact getLast?_ne_newline_of_name (lists.good _ first).1 (by decide)

end Loading
end ReplicateOnTag.ConfigLoader
