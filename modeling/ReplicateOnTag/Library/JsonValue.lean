import ReplicateOnTag.Library.Json
import ReplicateOnTag.Library.UnicodeDigits
import ReplicateOnTag.Library.WhiteSpace
import Mathlib.Data.Finset.Sort

/-! Access to the members of a JSON object, the coercions `int` and `bool` of a
parsed value, and typed reading of a field, where a field that is not of its
type is an error. -/
namespace ReplicateOnTag.Json

section Access

abbrev Members := List (String × Json)

/-- The name of the type that the value is parsed to. -/
def typeName : Json → String
  | .null => "NoneType"
  | .bool _ => "bool"
  | .int _ => "int"
  | .float _ => "float"
  | .str _ => "str"
  | .list _ => "list"
  | .object _ => "dict"

/-- `members.get(key)`. -/
def get (members : Members) (key : String) : Json := (members.lookup key).getD .null

/-- `members.get(key, default)`. -/
def getOr (members : Members) (key : String) (default : Json) : Json :=
  (members.lookup key).getD default

/-- `members[key] = value`. -/
def set (members : Members) (key : String) (value : Json) : Members := Dict.upsert key value members

theorem lookup_set (members : Members) (key other : String) (value : Json) :
    (set members key value).lookup other = if other = key then some value
      else members.lookup other :=
  Dict.lookup_upsert members key other value

theorem exactItems_iff (items : List Json) : ExactItems items ↔ ∀ value ∈ items, Exact value := by
  induction items with
  | nil => simp [ExactItems]
  | cons value rest ih => rw [ExactItems, ih, List.forall_mem_cons]

theorem exactMembers_iff (members : Members) : ExactMembers members ↔
    ∀ pair ∈ members, Exact pair.2 := by
  induction members with
  | nil => simp [ExactMembers]
  | cons pair rest ih => rw [ExactMembers, ih, List.forall_mem_cons]

theorem exact_list {items : List Json} (all : ∀ value ∈ items, Exact value) :
    Exact (.list items) := by
  rw [Exact]
  exact (exactItems_iff items).mpr all

theorem exact_object {members : Members} (distinct : (members.map Prod.fst).Nodup)
    (all : ∀ pair ∈ members, Exact pair.2) : Exact (.object members) := by
  rw [Exact]
  exact ⟨distinct, (exactMembers_iff members).mpr all⟩

theorem exact_dict (dict : Dict String Json) (all : ∀ pair ∈ dict.entries, Exact pair.2) :
    Exact (.object dict.entries) := exact_object dict.distinct all

end Access

section Coercions

/-- `[eE][-+]?\d+` as a number. -/
def exponentValue (exponent : List Char) : Int :=
  let (sign, digits) := scanSign (exponent.drop 1)
  signed (sign = ['-']) (Nat.ofDigitChars 10 digits 0)

/-- A sign, and a whole number with the power of ten it is scaled by. -/
def splitLiteral (literal : List Char) : Option (Bool × Nat × Int) :=
  let (sign, body) := scanSign literal
  (scanNatural body).map fun (digits, rest) =>
    let (fraction, rest) := scanFraction rest
    let (exponent, _) := scanExponent rest
    (sign = ['-'], Nat.ofDigitChars 10 (digits ++ fraction.drop 1) 0,
      exponentValue exponent - ((fraction.drop 1).length : Int))

def ratio (mantissa : Nat) (exponent : Int) : Nat × Nat :=
  if 0 ≤ exponent then (mantissa * 10 ^ exponent.toNat, 1) else (mantissa, 10 ^ (-exponent).toNat)

def roundHalfEven (n d : Nat) : Nat :=
  if 2 * (n % d) < d ∨ 2 * (n % d) = d ∧ n / d % 2 = 0 then n / d else n / d + 1

/-- The whole part of the double nearest to `n / d`; `none` where that is infinite. -/
def wholePart (n d : Nat) : Option Nat :=
  if 2 * n < d then some 0
  else if n < d then some (roundHalfEven (n * 2 ^ 53) d / 2 ^ 53)
  else
    let top := Nat.log2 (n / d)
    if top ≤ 52 then some (roundHalfEven (n * 2 ^ (52 - top)) d / 2 ^ (52 - top))
    else
      let whole := roundHalfEven n (d * 2 ^ (top - 52)) * 2 ^ (top - 52)
      if whole < 2 ^ 1024 then some whole else none

/-- What `int` passes over at the ends of a text. -/
def isBlank (c : Char) : Bool := WhiteSpace.isSpace c && !(0x1c ≤ c.toNat && c.toNat ≤ 0x1f)

/-- `int` of a text: single underscores may stand between digits. -/
def readInt (text : List Char) : Option Int :=
  let (sign, body) := scanSign (WhiteSpace.trim isBlank text)
  let groups := body.splitOn '_'
  if groups.all (· ≠ []) then (UnicodeDigits.readDecimal groups.flatten).map (signed (sign = ['-']))
  else none

/-- `int(value)`; `none` is a `TypeError`, a `ValueError` or an `OverflowError`. -/
def toInt : Json → Option Int
  | .int value => some value
  | .bool value => some value.toInt
  | .float literal =>
      (splitLiteral literal).bind fun (negative, mantissa, exponent) =>
        (wholePart (ratio mantissa exponent).1 (ratio mantissa exponent).2).map (signed negative)
  | .str text => readInt text.toList
  | _ => none

/-- `bool(value)`. A number too small for a double is zero. -/
def truthy : Json → Bool
  | .null => false
  | .bool value => value
  | .int value => value ≠ 0
  | .float literal =>
      match splitLiteral literal with
      | none => true
      | some (_, mantissa, exponent) =>
          (ratio mantissa exponent).2 < (ratio mantissa exponent).1 * 2 ^ 1075
  | .str text => text ≠ ""
  | .list items => items.length ≠ 0
  | .object members => members.length ≠ 0

/-- The digits of a number are read as the number. -/
theorem readInt_toDigits (n : Nat) : readInt (Nat.toDigits 10 n) = some (n : Int) := by
  have digits : ∀ c ∈ Nat.toDigits 10 n, c.isDigit = true :=
    fun c => Nat.isDigit_of_mem_toDigits (by decide) (by decide)
  obtain ⟨first, rest, own⟩ := List.exists_cons_of_ne_nil (Nat.toDigits_ne_nil (n := n) (b := 10))
  have trimmed : WhiteSpace.trim isBlank (Nat.toDigits 10 n) = Nat.toDigits 10 n := by
    refine WhiteSpace.trim_none fun c member => ?_
    rw [isBlank, WhiteSpace.isSpace_of_isDigit (digits c member), Bool.false_and]
  have unsigned : scanSign (Nat.toDigits 10 n) = ([], Nat.toDigits 10 n) := by
    have digit := digits first (own ▸ List.mem_cons_self)
    rw [own, scanSign]
    · rintro after ⟨⟩
      exact absurd digit (by decide)
    · rintro after ⟨⟩
      exact absurd digit (by decide)
  have whole : (Nat.toDigits 10 n).splitOn '_' = [Nat.toDigits 10 n] := by
    rw [List.splitOn_eq_splitOnP]
    refine List.splitOnP_eq_singleton fun c member => ?_
    rw [beq_eq_false_iff_ne]
    rintro rfl
    exact absurd (digits _ member) (by decide)
  have filled : [Nat.toDigits 10 n].all (· ≠ []) = true := by simp [Nat.toDigits_ne_nil]
  have value : UnicodeDigits.readDecimal (Nat.toDigits 10 n) = some n := by
    rw [UnicodeDigits.readDecimal_of_isDigit (List.all_eq_true.mpr digits),
      Nat.ofDigitChars_toDigits (by decide) (by decide)]
  rw [readInt, trimmed, unsigned]
  dsimp only
  rw [whole, if_pos filled, List.flatten_singleton, value]
  rfl

end Coercions

section Decoding

/-- What reading a parsed value can raise. -/
inductive DecodeError where
  | jsonDecodeError
  | keyError (key : String)
  | typeError (field : String)
  | valueError (message : String)
  /-- A `ValueError` that shows the value it refuses. -/
  | refused (message value : String)
  | overflowError
  deriving DecidableEq

/-- `members[key]`. -/
def item (members : Members) (key : String) : Except DecodeError Json :=
  match members.lookup key with
  | none => .error (.keyError key)
  | some value => .ok value

def string (field : String) : Json → Except DecodeError String
  | .str text => .ok text
  | _ => .error (.typeError field)

def stringOrNone (field : String) : Json → Except DecodeError (Option String)
  | .null => .ok none
  | .str text => .ok (some text)
  | _ => .error (.typeError field)

def integer (field : String) (value : Json) : Except DecodeError Int :=
  match toInt value with
  | none => .error (.typeError field)
  | some number => .ok number

def time (read : String → Option τ) (field : String) : Json → Except DecodeError τ
  | .str text =>
      match read text with
      | none => .error (.refused "Invalid isoformat string" text)
      | some time => .ok time
  | _ => .error (.typeError field)

def timeOrNone (read : String → Option τ) (field : String) : Json → Except DecodeError (Option τ)
  | .null => .ok none
  | value => (time read field value).map some

/-- The member of an enumeration with the value. -/
def enumeration (name : String) (valueOf : ε → String)
    (members : List ε) : Json → Except DecodeError ε
  | .str text =>
      match members.find? fun member => valueOf member = text with
      | none => .error (.refused ("not a valid " ++ name) text)
      | some member => .ok member
  | _ => .error (.valueError ("not a valid " ++ name))

/-- Read the items one after the other, up to the first failure. -/
def decodeEach (decode : α → Except DecodeError β) : List α → Except DecodeError (List β)
  | [] => .ok []
  | first :: rest => (decode first).bind fun value =>
      (decodeEach decode rest).map fun values => value :: values

/-- Read the value of every key. -/
def decodeDict (decode : String → Json → Except DecodeError α) (members : Members) :
    Except DecodeError (Dict String α) :=
  (decodeEach (fun pair => (decode pair.1 pair.2).map fun value => (pair.1, value))
    members).map Dict.ofList

/-- `frozenset(value or ())`. -/
def frozenset (field : String) (value : Json) : Except DecodeError (Finset String) :=
  if truthy value = false then .ok ∅
  else
    match value with
    | .list items => (decodeEach (string field) items).map List.toFinset
    | .str text => .ok (text.toList.map String.singleton).toFinset
    | .object members => .ok (members.map Prod.fst).toFinset
    | _ => .error (.typeError field)

theorem decodeEach_map {decode : α → Except DecodeError β} {encode : β → α}
    (inverse : ∀ value, decode (encode value) = .ok value) (values : List β) :
    decodeEach decode (values.map encode) = .ok values := by
  induction values with
  | nil => rfl
  | cons value rest ih =>
    rw [List.map_cons, decodeEach, inverse, Except.bind, ih]
    rfl

theorem decodeDict_mapValues {decode : String → Json → Except DecodeError α} {encode : α → Json}
    (inverse : ∀ key value, decode key (encode value) = .ok value) (dict : Dict String α) :
    decodeDict decode (dict.mapValues fun _ value => encode value).entries = .ok dict := by
  have pairs : decodeEach (fun pair => (decode pair.1 pair.2).map fun value => (pair.1, value))
      (dict.entries.map fun pair => (pair.1, encode pair.2)) = .ok dict.entries := by
    apply decodeEach_map
    intro pair
    rw [inverse]
    rfl
  rw [decodeDict, Dict.mapValues, pairs]
  exact congrArg Except.ok (Dict.ofList_entries dict)

theorem exact_mapValues {encode : α → Json} (exact_ : ∀ value, Exact (encode value))
    (dict : Dict String α) :
    Exact (.object (dict.mapValues fun _ value => encode value).entries) := by
  apply exact_dict
  intro pair member
  obtain ⟨entry, _, rfl⟩ := List.mem_map.mp member
  exact exact_ entry.2

theorem frozenset_strings (field : String) (texts : List String) :
    frozenset field (.list (texts.map Json.str)) = .ok texts.toFinset := by
  cases texts with
  | nil => rfl
  | cons text rest =>
    have read : decodeEach (string field) ((text :: rest).map Json.str) = .ok (text :: rest) := by
      apply decodeEach_map
      intro text
      rfl
    have some_ : truthy (.list ((text :: rest).map Json.str)) = true := rfl
    rw [frozenset, some_, if_neg (by decide), read]
    rfl

end Decoding
end ReplicateOnTag.Json
