import ReplicateOnTag.Library.CanonicalJson

/-! JSON values, their compact one-line text, and a reader of arbitrary text.
A number with a fraction or an exponent is kept as its literal. -/
namespace ReplicateOnTag

inductive Json where
  | null
  | bool (value : Bool)
  | int (value : Int)
  | float (literal : List Char)
  | str (text : String)
  | list (items : List Json)
  | object (members : List (String × Json))

namespace Json

section Writing

def decimal (n : Nat) : List Char := Nat.toDigits 10 n

def intText : Int → List Char
  | .ofNat n => decimal n
  | .negSucc n => '-' :: decimal (n + 1)

def separator : List Char := [',', ' ']

mutual

/-- `json.dumps` with its default separators. -/
def dump : Json → List Char
  | .null => ['n', 'u', 'l', 'l']
  | .bool true => ['t', 'r', 'u', 'e']
  | .bool false => ['f', 'a', 'l', 's', 'e']
  | .int value => intText value
  | .float literal => literal
  | .str text => CanonicalJson.quote text
  | .list items => '[' :: (dumpItems items ++ [']'])
  | .object members => '{' :: (dumpMembers members ++ ['}'])

def dumpItems : List Json → List Char
  | [] => []
  | [value] => dump value
  | value :: next :: rest => dump value ++ separator ++ dumpItems (next :: rest)

def dumpMembers : List (String × Json) → List Char
  | [] => []
  | [(key, value)] => CanonicalJson.quote key ++ [':', ' '] ++ dump value
  | (key, value) :: next :: rest =>
      CanonicalJson.quote key ++ [':', ' '] ++ dump value ++ separator ++ dumpMembers (next :: rest)

end

def dumps (value : Json) : String := String.ofList (dump value)

end Writing

section Reading

def isSpace (c : Char) : Bool := c = ' ' || c = '\t' || c = '\n' || c = '\r'

def skipSpace (input : List Char) : List Char := input.dropWhile isSpace

def hexValue (c : Char) : Option Nat :=
  if '0' ≤ c ∧ c ≤ '9' then some (c.toNat - 48)
  else if 'a' ≤ c ∧ c ≤ 'f' then some (c.toNat - 87)
  else if 'A' ≤ c ∧ c ≤ 'F' then some (c.toNat - 55)
  else none

def hexUnit (a b c d : Char) : Option Nat :=
  (hexValue a).bind fun a => (hexValue b).bind fun b => (hexValue c).bind fun c =>
    (hexValue d).map fun d => ((a * 16 + b) * 16 + c) * 16 + d

def simpleEscape (c : Char) : Option Nat :=
  if c = '"' ∨ c = '\\' ∨ c = '/' then some c.toNat
  else if c = 'b' then some 0x08
  else if c = 'f' then some 0x0c
  else if c = 'n' then some 0x0a
  else if c = 'r' then some 0x0d
  else if c = 't' then some 0x09
  else none

/-- The code units of a string up to its closing quote. A control character has
to be escaped. -/
def scanUnits : List Char → Option (List Nat × List Char)
  | [] => none
  | '"' :: rest => some ([], rest)
  | '\\' :: 'u' :: a :: b :: c :: d :: rest =>
      (hexUnit a b c d).bind fun unit => (scanUnits rest).map fun (units, after) =>
        (unit :: units, after)
  | '\\' :: c :: rest =>
      (simpleEscape c).bind fun unit => (scanUnits rest).map fun (units, after) =>
        (unit :: units, after)
  | c :: rest =>
      if c.toNat < 0x20 then none
      else (scanUnits rest).map fun (units, after) => (c.toNat :: units, after)

def isHighSurrogate (n : Nat) : Bool := 0xd800 ≤ n && n < 0xdc00

def isLowSurrogate (n : Nat) : Bool := 0xdc00 ≤ n && n < 0xe000

/-- A surrogate without its partner is no character and reads as `U+FFFD`. -/
def unitChar (n : Nat) : Char :=
  if isHighSurrogate n || isLowSurrogate n then Char.ofNat 0xfffd else Char.ofNat n

def joinSurrogates : List Nat → List Char
  | [] => []
  | [unit] => [unitChar unit]
  | unit :: next :: rest =>
      if isHighSurrogate unit && isLowSurrogate next then
        Char.ofNat (0x10000 + (unit - 0xd800) * 0x400 + (next - 0xdc00)) :: joinSurrogates rest
      else unitChar unit :: joinSurrogates (next :: rest)

def scanString (input : List Char) : Option (String × List Char) :=
  (scanUnits input).map fun (units, after) => (String.ofList (joinSurrogates units), after)

def isDigit (c : Char) : Bool := c.isDigit

/-- `\.\d+`, or nothing. -/
def scanFraction (input : List Char) : List Char × List Char :=
  match input with
  | '.' :: rest => if rest.takeWhile isDigit = [] then ([], input)
      else ('.' :: rest.takeWhile isDigit, rest.dropWhile isDigit)
  | _ => ([], input)

def scanSign (input : List Char) : List Char × List Char :=
  match input with
  | '+' :: rest => (['+'], rest)
  | '-' :: rest => (['-'], rest)
  | _ => ([], input)

/-- `[eE][-+]?\d+`, or nothing. -/
def scanExponent (input : List Char) : List Char × List Char :=
  match input with
  | c :: rest =>
      if c = 'e' ∨ c = 'E' then
        let (sign, digits) := scanSign rest
        if digits.takeWhile isDigit = [] then ([], input)
        else (c :: sign ++ digits.takeWhile isDigit, digits.dropWhile isDigit)
      else ([], input)
  | [] => ([], input)

/-- A leading zero stands alone. -/
def scanNatural (input : List Char) : Option (List Char × List Char) :=
  match input with
  | '0' :: rest => some (['0'], rest)
  | _ => if input.takeWhile isDigit = [] then none
      else some (input.takeWhile isDigit, input.dropWhile isDigit)

def signed (negative : Bool) (n : Nat) : Int := if negative then -(n : Int) else n

def scanUnsigned (negative : Bool) (input : List Char) : Option (Json × List Char) :=
  (scanNatural input).map fun (digits, rest) =>
    let (fraction, rest) := scanFraction rest
    let (exponent, rest) := scanExponent rest
    if fraction = [] ∧ exponent = [] then
      (.int (signed negative (Nat.ofDigitChars 10 digits 0)), rest)
    else (.float ((if negative then ['-'] else []) ++ digits ++ fraction ++ exponent), rest)

def scanNumber (input : List Char) : Option (Json × List Char) :=
  match input with
  | '-' :: 'I' :: 'n' :: 'f' :: 'i' :: 'n' :: 'i' :: 't' :: 'y' :: rest =>
      some (.float "-Infinity".toList, rest)
  | '-' :: rest => scanUnsigned true rest
  | _ => scanUnsigned false input

/-- A later value of a repeated key replaces the earlier one in its place. -/
def ofPairs (pairs : List (String × Json)) : Json :=
  .object (pairs.foldl (fun members pair => Dict.upsert pair.1 pair.2 members) [])

mutual

def parseValue : Nat → List Char → Option (Json × List Char)
  | 0, _ => none
  | fuel + 1, input =>
      match skipSpace input with
      | 'n' :: 'u' :: 'l' :: 'l' :: rest => some (.null, rest)
      | 't' :: 'r' :: 'u' :: 'e' :: rest => some (.bool true, rest)
      | 'f' :: 'a' :: 'l' :: 's' :: 'e' :: rest => some (.bool false, rest)
      | 'N' :: 'a' :: 'N' :: rest => some (.float "NaN".toList, rest)
      | 'I' :: 'n' :: 'f' :: 'i' :: 'n' :: 'i' :: 't' :: 'y' :: rest =>
          some (.float "Infinity".toList, rest)
      | '"' :: rest => (scanString rest).map fun (text, rest) => (.str text, rest)
      | '[' :: rest =>
          match skipSpace rest with
          | ']' :: rest => some (.list [], rest)
          | rest => (parseItems fuel rest).map fun (items, rest) => (.list items, rest)
      | '{' :: rest =>
          match skipSpace rest with
          | '}' :: rest => some (.object [], rest)
          | rest => (parseMembers fuel rest).map fun (pairs, rest) => (ofPairs pairs, rest)
      | rest => scanNumber rest

/-- One item at least, up to the closing bracket. -/
def parseItems : Nat → List Char → Option (List Json × List Char)
  | 0, _ => none
  | fuel + 1, input =>
      (parseValue fuel input).bind fun (value, rest) =>
        match skipSpace rest with
        | ']' :: rest => some ([value], rest)
        | ',' :: rest => (parseItems fuel rest).map fun (items, rest) => (value :: items, rest)
        | _ => none

def parseMembers : Nat → List Char → Option (List (String × Json) × List Char)
  | 0, _ => none
  | fuel + 1, input =>
      match skipSpace input with
      | '"' :: rest =>
          (scanString rest).bind fun (key, rest) =>
            match skipSpace rest with
            | ':' :: rest =>
                (parseValue fuel rest).bind fun (value, rest) =>
                  match skipSpace rest with
                  | '}' :: rest => some ([(key, value)], rest)
                  | ',' :: rest => (parseMembers fuel rest).map fun (pairs, rest) =>
                      ((key, value) :: pairs, rest)
                  | _ => none
            | _ => none
      | _ => none

end

/-- `json.loads`; `none` is a `JSONDecodeError`. -/
def loads (text : String) : Option Json :=
  match parseValue (text.toList.length + 1) text.toList with
  | some (value, rest) => if skipSpace rest = [] then some value else none
  | none => none

end Reading

section Strings
open CanonicalJson

/-- The code units a character is written with. -/
def charUnits (c : Char) : List Nat :=
  if c.toNat < 0x10000 then [c.toNat]
  else [0xd800 + (c.toNat - 0x10000) / 0x400, 0xdc00 + (c.toNat - 0x10000) % 0x400]

theorem hexValue_hexDigit (n : Nat) (small : n < 16) : hexValue (hexDigit n) = some n := by
  have all : ∀ n : Fin 16, hexValue (hexDigit n) = some n.val := by decide
  exact all ⟨n, small⟩

theorem scanUnits_unicodeEscape (n : Nat) (small : n < 0x10000) (rest : List Char) :
    scanUnits (unicodeEscape n ++ rest) = (scanUnits rest).map fun (units, after) =>
      (n :: units, after) := by
  have unit : hexUnit (hexDigit (n / 4096 % 16)) (hexDigit (n / 256 % 16)) (hexDigit (n / 16 % 16))
      (hexDigit (n % 16)) = some n := by
    rw [hexUnit, hexValue_hexDigit _ (Nat.mod_lt _ (by decide)),
      hexValue_hexDigit _ (Nat.mod_lt _ (by decide)),
      hexValue_hexDigit _ (Nat.mod_lt _ (by decide)),
        hexValue_hexDigit _ (Nat.mod_lt _ (by decide))]
    simp only [Option.bind_some, Option.map_some, Option.some.injEq]
    omega
  rw [unicodeEscape, hex4]
  simp only [List.cons_append, List.nil_append, scanUnits, unit, Option.bind_some]

theorem char_small (c : Char) : c.toNat < 0x110000 := by
  have bound := c.valid
  rw [UInt32.isValidChar, Nat.isValidChar] at bound
  simp only [Char.toNat]
  omega

theorem scanUnits_plain {c : Char} (quote : c ≠ '"') (back : c ≠ '\\')
    (visible : 0x20 ≤ c.toNat) (rest : List Char) :
    scanUnits (c :: rest) = (scanUnits rest).map fun (units, after) =>
      (c.toNat :: units, after) := by
  have control : ¬ c.toNat < 0x20 := by omega
  rw [scanUnits]
  · rw [if_neg control]
  · exact quote
  · intro _ _ _ _ _ same
    exact absurd same back
  · intro _ _ same
    exact absurd same back

theorem scanUnits_escapeChar (c : Char) (rest : List Char) :
    scanUnits (escapeChar c ++ rest) =
      (scanUnits rest).map fun (units, after) => (charUnits c ++ units, after) := by
  have bound := char_small c
  have single (small : c.toNat < 0x10000) : charUnits c = [c.toNat] := if_pos small
  rw [escapeChar]
  by_cases quote : c = '"'
  · subst quote
    rfl
  rw [if_neg quote]
  by_cases back : c = '\\'
  · subst back
    rfl
  rw [if_neg back]
  by_cases feed : c = '\n'
  · subst feed
    rfl
  rw [if_neg feed]
  by_cases carriage : c = '\r'
  · subst carriage
    rfl
  rw [if_neg carriage]
  by_cases tab : c = '\t'
  · subst tab
    rfl
  rw [if_neg tab]
  by_cases formFeed : c.toNat = 0x0c
  · rw [if_pos formFeed, single (by omega), formFeed]
    rfl
  rw [if_neg formFeed]
  by_cases backspace : c.toNat = 0x08
  · rw [if_pos backspace, single (by omega), backspace]
    rfl
  rw [if_neg backspace]
  by_cases plain : 0x20 ≤ c.toNat ∧ c.toNat ≤ 0x7e
  · rw [if_pos plain, single (by omega)]
    exact scanUnits_plain quote back plain.1 rest
  rw [if_neg plain]
  by_cases small : c.toNat < 0x10000
  · rw [if_pos small, single small]
    exact scanUnits_unicodeEscape _ small rest
  · have pair : charUnits c =
        [0xd800 + (c.toNat - 0x10000) / 0x400, 0xdc00 + (c.toNat - 0x10000) % 0x400] :=
      if_neg small
    rw [if_neg small, List.append_assoc, scanUnits_unicodeEscape _ (by omega),
      scanUnits_unicodeEscape _ (by omega), pair, Option.map_map]
    rfl

theorem scanUnits_flatMap (text : List Char) (rest : List Char) :
    scanUnits (text.flatMap escapeChar ++ '"' :: rest) = some (text.flatMap charUnits, rest) := by
  induction text with
  | nil => rfl
  | cons c text ih =>
    rw [List.flatMap_cons, List.append_assoc, scanUnits_escapeChar, ih, List.flatMap_cons]
    rfl

theorem char_scalar (c : Char) : isHighSurrogate c.toNat = false ∧
    isLowSurrogate c.toNat = false := by
  have bound := c.valid
  rw [UInt32.isValidChar, Nat.isValidChar] at bound
  simp only [isHighSurrogate, isLowSurrogate, Bool.and_eq_false_iff, decide_eq_false_iff_not,
    Char.toNat]
  omega

theorem unitChar_toNat (c : Char) : unitChar c.toNat = c := by
  obtain ⟨high, low⟩ := char_scalar c
  rw [unitChar, high, low]
  exact Char.ofNat_toNat c

/-- The units of a text are put together again character by character. -/
theorem joinSurrogates_flatMap (text : List Char) :
    joinSurrogates (text.flatMap charUnits) = text := by
  induction text with
  | nil => rfl
  | cons c text ih =>
    rw [List.flatMap_cons]
    by_cases small : c.toNat < 0x10000
    · have units : charUnits c = [c.toNat] := if_pos small
      rw [units, List.singleton_append]
      cases later : text.flatMap charUnits with
      | nil =>
        rw [later] at ih
        rw [joinSurrogates, unitChar_toNat, ← ih]
        rfl
      | cons next rest =>
        rw [joinSurrogates, (char_scalar c).1, Bool.false_and, if_neg Bool.false_ne_true,
          unitChar_toNat, ← later, ih]
    · have bound := char_small c
      have units : charUnits c =
          [0xd800 + (c.toNat - 0x10000) / 0x400, 0xdc00 + (c.toNat - 0x10000) % 0x400] :=
        if_neg small
      have high : isHighSurrogate (0xd800 + (c.toNat - 0x10000) / 0x400) = true := by
        simp only [isHighSurrogate, Bool.and_eq_true, decide_eq_true_eq]
        omega
      have low : isLowSurrogate (0xdc00 + (c.toNat - 0x10000) % 0x400) = true := by
        simp only [isLowSurrogate, Bool.and_eq_true, decide_eq_true_eq]
        omega
      have whole : 0x10000 + (0xd800 + (c.toNat - 0x10000) / 0x400 - 0xd800) * 0x400 +
          (0xdc00 + (c.toNat - 0x10000) % 0x400 - 0xdc00) = c.toNat := by omega
      rw [units, List.cons_append, List.singleton_append, joinSurrogates, high, low, Bool.and_self,
        if_pos rfl, whole, Char.ofNat_toNat, ih]

theorem scanString_quote (text : String) (rest : List Char) :
    ∃ body, CanonicalJson.quote text = '"' :: body ∧
      scanString (body ++ rest) = some (text, rest) := by
  refine ⟨text.toList.flatMap escapeChar ++ ['"'], rfl, ?_⟩
  rw [scanString, List.append_assoc, List.singleton_append, scanUnits_flatMap, Option.map_some]
  simp only [joinSurrogates_flatMap, String.ofList_toList]

end Strings

section Numbers

/-- What may not follow a whole number that is to be read as it stands. -/
def endsNumber (c : Char) : Bool := !(isDigit c || c = '.' || c = 'e' || c = 'E')

def NumberEnds (rest : List Char) : Prop := ∀ c tail, rest = c :: tail → endsNumber c = true

theorem decimal_digits (n : Nat) : ∀ c ∈ decimal n, isDigit c = true := fun _ member =>
  Nat.isDigit_of_mem_toDigits (by decide) (by decide) member

theorem decimal_cons (n : Nat) : ∃ c tail, decimal n = c :: tail ∧ isDigit c = true := by
  cases digits : decimal n with
  | nil => exact absurd digits Nat.toDigits_ne_nil
  | cons c tail => exact ⟨c, tail, rfl, decimal_digits n c (digits ▸ List.mem_cons_self)⟩

theorem decimal_zero_or (n : Nat) : n = 0 ∨ ∃ c tail, decimal n = c :: tail ∧ c ≠ '0' := by
  induction n using Nat.strongRecOn with
  | ind n ih =>
    by_cases small : n < 10
    · rcases Nat.eq_zero_or_pos n with zero | pos
      · exact .inl zero
      · have all : ∀ n : Fin 10, 0 < n.val → n.val.digitChar ≠ '0' := by decide
        exact .inr ⟨n.digitChar, [], Nat.toDigits_of_lt_base small, all ⟨n, small⟩ pos⟩
    · have shorter : decimal n = decimal (n / 10) ++ [(n % 10).digitChar] :=
        Nat.toDigits_of_base_le (by decide) (by omega)
      rcases ih (n / 10) (by omega) with zero | ⟨c, tail, digits, other⟩
      · omega
      · exact .inr ⟨c, tail ++ [(n % 10).digitChar], by rw [shorter, digits, List.cons_append],
          other⟩

def Digits (digits : List Char) : Prop := digits ≠ [] ∧ ∀ c ∈ digits, isDigit c = true

def NoDigit (rest : List Char) : Prop := ∀ c tail, rest = c :: tail → isDigit c = false

theorem takeWhile_digits_append {digits rest : List Char} (all : ∀ c ∈ digits, isDigit c = true)
    (ends : NoDigit rest) : (digits ++ rest).takeWhile isDigit = digits ∧
      (digits ++ rest).dropWhile isDigit = rest := by
  rw [List.takeWhile_append_of_pos all, List.dropWhile_append_of_pos all]
  cases rest with
  | nil => exact ⟨List.append_nil digits, rfl⟩
  | cons c tail =>
    have last := ends c tail rfl
    rw [List.takeWhile_cons_of_neg (by simp [last]), List.dropWhile_cons_of_neg (by simp [last]),
      List.append_nil]
    exact ⟨rfl, rfl⟩

/-- A whole number without needless zeros in front. -/
def Natural (digits : List Char) : Prop :=
  digits = ['0'] ∨ Digits digits ∧ ∀ tail, digits ≠ '0' :: tail

theorem noDigit_of_ends {rest : List Char} (ends : NumberEnds rest) : NoDigit rest := by
  rintro c tail same
  have last := ends c tail same
  rw [endsNumber, Bool.not_eq_true', Bool.or_eq_false_iff, Bool.or_eq_false_iff,
    Bool.or_eq_false_iff] at last
  exact last.1.1.1

theorem scanNatural_append {digits rest : List Char} (natural : Natural digits)
    (ends : NoDigit rest) :
    scanNatural (digits ++ rest) = some (digits, rest) := by
  rcases natural with rfl | ⟨⟨some_, all⟩, leading⟩
  · rfl
  · obtain ⟨taken, dropped⟩ := takeWhile_digits_append all ends
    have nonempty : (digits ++ rest).takeWhile isDigit ≠ [] := by
      rw [taken]
      exact some_
    rw [scanNatural, if_neg nonempty, taken, dropped]
    intro more same
    cases digits with
    | nil => exact some_ rfl
    | cons c tail =>
      rw [List.cons_append, List.cons.injEq] at same
      exact leading tail (by rw [same.1])

theorem natural_decimal (n : Nat) : Natural (decimal n) := by
  rcases decimal_zero_or n with rfl | ⟨c, tail, digits, other⟩
  · exact .inl rfl
  · refine .inr ⟨⟨Nat.toDigits_ne_nil, decimal_digits n⟩, ?_⟩
    intro more same
    rw [digits] at same
    exact other (List.cons.inj same).1

theorem scanFraction_ends {rest : List Char}
    (ends : NumberEnds rest) : scanFraction rest = ([], rest) := by
  rw [scanFraction]
  intro after same
  cases (ends _ _ same : endsNumber '.' = true)

theorem scanExponent_ends {rest : List Char}
    (ends : NumberEnds rest) : scanExponent rest = ([], rest) := by
  cases rest with
  | nil => rfl
  | cons c tail =>
    have last := ends c tail rfl
    rw [endsNumber, Bool.not_eq_true', Bool.or_eq_false_iff, Bool.or_eq_false_iff,
      decide_eq_false_iff_not, decide_eq_false_iff_not] at last
    rw [scanExponent, if_neg (not_or.mpr ⟨last.1.2, last.2⟩)]

theorem scanUnsigned_decimal (negative : Bool) (n : Nat) {rest : List Char}
    (ends : NumberEnds rest) :
    scanUnsigned negative (decimal n ++ rest) = some (.int (signed negative n), rest) := by
  rw [scanUnsigned, scanNatural_append (natural_decimal n) (noDigit_of_ends ends), Option.map_some]
  simp only [scanFraction_ends ends, scanExponent_ends ends, and_self, if_true]
  rw [decimal, Nat.ofDigitChars_ten_toDigits]

/-- The first character of a whole number. -/
theorem intText_head (value : Int) : ∃ c tail, intText value = c :: tail ∧
    (isDigit c = true ∨ c = '-') := by
  cases value with
  | ofNat n =>
    obtain ⟨c, tail, digits, digit⟩ := decimal_cons n
    exact ⟨c, tail, digits, .inl digit⟩
  | negSucc n => exact ⟨'-', decimal (n + 1), rfl, .inr rfl⟩

theorem scanNumber_intText (value : Int) {rest : List Char} (ends : NumberEnds rest) :
    scanNumber (intText value ++ rest) = some (.int value, rest) := by
  cases value with
  | ofNat n =>
    obtain ⟨c, tail, digits, digit⟩ := decimal_cons n
    have positive : scanNumber (decimal n ++ rest) = scanUnsigned false (decimal n ++ rest) := by
      rw [digits, List.cons_append, scanNumber]
      · intro after same
        rw [(List.cons.inj same).1] at digit
        cases digit
      · intro after same
        rw [(List.cons.inj same).1] at digit
        cases digit
    exact positive.trans (scanUnsigned_decimal false n ends)
  | negSucc n =>
    obtain ⟨c, tail, digits, digit⟩ := decimal_cons (n + 1)
    have negative : scanNumber ('-' :: (decimal (n + 1) ++ rest)) =
        scanUnsigned true (decimal (n + 1) ++ rest) := by
      rw [digits, List.cons_append, scanNumber]
      rintro after same
      rw [(List.cons.inj same).1] at digit
      cases digit
    rw [intText, List.cons_append, negative, scanUnsigned_decimal true (n + 1) ends]
    rfl

end Numbers

section RoundTrip

/-- The text of a number with a fraction, an exponent or no finite value, as it
reads wherever a number may end. -/
def Literal (literal : List Char) : Prop :=
  (∃ c tail, literal = c :: tail ∧ isSpace c = false ∧ c ≠ ']') ∧
    ∀ fuel rest, NumberEnds rest → parseValue (fuel + 1) (literal ++ rest) =
      some (.float literal, rest)

mutual

/-- Every such number in a form that can be read, and no key twice in an object. -/
def Exact : Json → Prop
  | .float literal => Literal literal
  | .list items => ExactItems items
  | .object members => (members.map Prod.fst).Nodup ∧ ExactMembers members
  | _ => True

def ExactItems : List Json → Prop
  | [] => True
  | value :: rest => Exact value ∧ ExactItems rest

def ExactMembers : List (String × Json) → Prop
  | [] => True
  | (_, value) :: rest => Exact value ∧ ExactMembers rest

end

mutual

/-- The fuel that reading the text of a value takes. -/
def cost : Json → Nat
  | .list items => costItems items + 1
  | .object members => costMembers members + 1
  | _ => 1

def costItems : List Json → Nat
  | [] => 0
  | value :: rest => cost value + costItems rest + 1

def costMembers : List (String × Json) → Nat
  | [] => 0
  | (_, value) :: rest => cost value + costMembers rest + 1

end

/-- What may stand after a value. -/
def Ends (rest : List Char) : Prop := NumberEnds rest

theorem ends_cons {c : Char} {rest : List Char}
    (ends : endsNumber c = true) : Ends (c :: rest) := by
  rintro d tail same
  rw [← (List.cons.inj same).1]
  exact ends

theorem skipSpace_cons {c : Char} {rest : List Char} (visible : isSpace c = false) :
    skipSpace (c :: rest) = c :: rest := by
  rw [skipSpace, List.dropWhile_cons_of_neg (by rw [visible]; exact Bool.false_ne_true)]

theorem ofPairs_nodup (pairs : List (String × Json)) (distinct : (pairs.map Prod.fst).Nodup) :
    ofPairs pairs = .object pairs := by
  rw [ofPairs, Dict.foldl_upsert_of_nodup pairs [] distinct, List.nil_append]

theorem visible_of_number {c : Char} (first : isDigit c = true ∨ c = '-') :
    isSpace c = false ∧ c ≠ ']' := by
  rcases first with digit | rfl
  · constructor
    · cases space : isSpace c with
      | false => rfl
      | true =>
        simp only [isSpace, Bool.or_eq_true, decide_eq_true_eq] at space
        rcases space with ((rfl | rfl) | rfl) | rfl <;> cases digit
    · rintro rfl
      cases digit
  · exact ⟨rfl, by decide⟩

/-- What begins like a number is scanned as one. -/
theorem parseValue_number (fuel : Nat) {c : Char} (tail : List Char)
    (first : isDigit c = true ∨ c = '-') :
    parseValue (fuel + 1) (c :: tail) = scanNumber (c :: tail) := by
  have other : ∀ d, isDigit d = false → d ≠ '-' → c ≠ d := by
    rintro d none dash rfl
    rcases first with digit | rfl
    · rw [digit] at none
      cases none
    · exact dash rfl
  rw [parseValue, skipSpace_cons (visible_of_number first).1]
  split
  all_goals first
    | exact absurd (List.cons.inj ‹_›).1 (other _ rfl (by decide))
    | rfl

theorem parseValue_int (value : Int) (fuel : Nat) {rest : List Char} (ends : Ends rest) :
    parseValue (fuel + 1) (intText value ++ rest) = some (.int value, rest) := by
  obtain ⟨c, tail, digits, first⟩ := intText_head value
  have number := scanNumber_intText value ends
  rw [digits, List.cons_append] at number ⊢
  rw [parseValue_number fuel _ first, number]

/-- A value begins with a character that is neither blank nor a closing bracket. -/
theorem dump_head (value : Json) (exact_ : Exact value) :
    ∃ c tail, dump value = c :: tail ∧ isSpace c = false ∧ c ≠ ']' := by
  cases value with
  | null => exact ⟨'n', _, rfl, rfl, by decide⟩
  | bool value => cases value <;> exact ⟨_, _, rfl, rfl, by decide⟩
  | int value =>
    obtain ⟨c, tail, digits, first⟩ := intText_head value
    exact ⟨c, tail, digits, visible_of_number first⟩
  | float literal => exact exact_.1
  | str text => exact ⟨'"', _, rfl, rfl, by decide⟩
  | list items => exact ⟨'[', _, rfl, rfl, by decide⟩
  | object members => exact ⟨'{', _, rfl, rfl, by decide⟩

theorem parseValue_blank (fuel : Nat) (input : List Char) : parseValue fuel (' ' :: input) =
    parseValue fuel input := by
  cases fuel with
  | zero => rfl
  | succ fuel =>
    have skips : skipSpace (' ' :: input) = skipSpace input := rfl
    rw [parseValue, parseValue, skips]

theorem parseItems_blank (fuel : Nat) (input : List Char) : parseItems fuel (' ' :: input) =
    parseItems fuel input := by
  cases fuel with
  | zero => rfl
  | succ fuel => rw [parseItems, parseItems, parseValue_blank]

theorem parseMembers_blank (fuel : Nat) (input : List Char) :
    parseMembers fuel (' ' :: input) = parseMembers fuel input := by
  cases fuel with
  | zero => rfl
  | succ fuel =>
    have skips : skipSpace (' ' :: input) = skipSpace input := rfl
    rw [parseMembers, parseMembers, skips]

theorem dumpItems_head (value : Json) (items : List Json) (exact_ : Exact value) :
    ∃ c tail, dumpItems (value :: items) = c :: tail ∧ isSpace c = false ∧ c ≠ ']' := by
  obtain ⟨c, tail, text, visible, other⟩ := dump_head value exact_
  cases items with
  | nil => exact ⟨c, tail, by rw [dumpItems, text], visible, other⟩
  | cons next rest => exact ⟨c, _, by rw [dumpItems, text]; rfl, visible, other⟩

theorem dumpMembers_head (key : String) (value : Json) (members : List (String × Json)) :
    ∃ tail, dumpMembers ((key, value) :: members) = '"' :: tail := by
  cases members with
  | nil => exact ⟨_, rfl⟩
  | cons next rest => exact ⟨_, rfl⟩

mutual

theorem parseValue_dump (value : Json) (exact_ : Exact value) (fuel : Nat) (rest : List Char)
    (enough : cost value ≤ fuel) (ends : Ends rest) : parseValue fuel (dump value ++ rest) =
      some (value, rest) := by
  cases fuel with
  | zero => cases value <;> simp [cost] at enough
  | succ fuel =>
    match value with
    | .null => rfl
    | .bool true => rfl
    | .bool false => rfl
    | .int value => exact parseValue_int value fuel ends
    | .float literal => exact exact_.2 fuel rest ends
    | .str text =>
      obtain ⟨body, quoted, scanned⟩ := scanString_quote text rest
      rw [dump, quoted, List.cons_append, parseValue, skipSpace_cons rfl]
      simp only [scanned, Option.map_some]
    | .list [] => rfl
    | .list (first :: others) =>
      rw [Exact] at exact_
      rw [cost] at enough
      obtain ⟨c, tail, text, visible, other⟩ := dumpItems_head first others exact_.1
      have read := parseItems_dump (first :: others) exact_
        (List.cons_ne_nil _ _) fuel rest (by omega)
      rw [dump, List.cons_append, List.append_assoc, List.singleton_append, parseValue,
        skipSpace_cons rfl]
      rw [text, List.cons_append] at read ⊢
      simp only [skipSpace_cons visible]
      split
      · exact absurd (List.cons.inj ‹_›).1 other
      · rw [read, Option.map_some]
    | .object [] => rfl
    | .object ((key, first) :: others) =>
      rw [Exact] at exact_
      rw [cost] at enough
      obtain ⟨tail, text⟩ := dumpMembers_head key first others
      have read := parseMembers_dump ((key, first) :: others) exact_.2
        (List.cons_ne_nil _ _) fuel rest (by omega)
      rw [dump, List.cons_append, List.append_assoc, List.singleton_append, parseValue,
        skipSpace_cons rfl]
      rw [text, List.cons_append] at read ⊢
      simp only [skipSpace_cons (rfl : isSpace '"' = false)]
      split
      · exact absurd (List.cons.inj ‹_›).1 (by decide)
      · rw [read, Option.map_some, ofPairs_nodup _ exact_.1]

theorem parseItems_dump (items : List Json) (exact_ : ExactItems items)
    (some_ : items ≠ []) (fuel : Nat)
    (rest : List Char) (enough : costItems items ≤ fuel) :
    parseItems fuel (dumpItems items ++ ']' :: rest) = some (items, rest) := by
  match items with
  | [] => exact absurd rfl some_
  | [value] =>
    rw [ExactItems] at exact_
    rw [costItems, costItems] at enough
    obtain ⟨fuel, rfl⟩ : ∃ less, fuel = less + 1 := ⟨fuel - 1, by omega⟩
    have read := parseValue_dump value exact_.1 fuel (']' :: rest) (by omega) (ends_cons rfl)
    rw [dumpItems, parseItems, read, Option.bind_some]
    simp only [skipSpace_cons (rfl : isSpace ']' = false)]
  | value :: next :: others =>
    rw [ExactItems] at exact_
    rw [costItems] at enough
    obtain ⟨fuel, rfl⟩ : ∃ less, fuel = less + 1 := ⟨fuel - 1, by omega⟩
    have read := parseValue_dump value exact_.1 fuel
      (separator ++ (dumpItems (next :: others) ++ ']' :: rest))
      (by omega) (ends_cons rfl)
    have later := parseItems_dump (next :: others) exact_.2
      (List.cons_ne_nil _ _) fuel rest (by omega)
    rw [dumpItems, List.append_assoc, List.append_assoc, parseItems, read, Option.bind_some,
      separator, List.cons_append, List.singleton_append]
    simp only [skipSpace_cons (rfl : isSpace ',' = false), parseItems_blank, later, Option.map_some]

theorem parseMembers_dump (members : List (String × Json)) (exact_ : ExactMembers members)
    (some_ : members ≠ [])
    (fuel : Nat) (rest : List Char) (enough : costMembers members ≤ fuel) :
    parseMembers fuel (dumpMembers members ++ '}' :: rest) = some (members, rest) := by
  match members with
  | [] => exact absurd rfl some_
  | [(key, value)] =>
    rw [ExactMembers] at exact_
    rw [costMembers, costMembers] at enough
    obtain ⟨fuel, rfl⟩ : ∃ less, fuel = less + 1 := ⟨fuel - 1, by omega⟩
    have read := parseValue_dump value exact_.1 fuel ('}' :: rest) (by omega) (ends_cons rfl)
    obtain ⟨body, quoted, scanned⟩ :=
      scanString_quote key (':' :: ' ' :: (dump value ++ '}' :: rest))
    rw [dumpMembers, quoted, List.append_assoc, List.append_assoc, List.cons_append, parseMembers,
      skipSpace_cons rfl]
    simp only [List.cons_append, List.nil_append, scanned, Option.bind_some,
      skipSpace_cons (rfl : isSpace ':' = false), parseValue_blank, read,
        skipSpace_cons (rfl : isSpace '}' = false)]
  | (key, value) :: next :: others =>
    rw [ExactMembers] at exact_
    rw [costMembers] at enough
    obtain ⟨fuel, rfl⟩ : ∃ less, fuel = less + 1 := ⟨fuel - 1, by omega⟩
    have read := parseValue_dump value exact_.1 fuel
      (',' :: ' ' :: (dumpMembers (next :: others) ++ '}' :: rest))
      (by omega) (ends_cons rfl)
    have later := parseMembers_dump (next :: others) exact_.2
      (List.cons_ne_nil _ _) fuel rest (by omega)
    obtain ⟨body, quoted, scanned⟩ := scanString_quote key
      (':' :: ' ' :: (dump value ++ ',' :: ' ' :: (dumpMembers (next :: others) ++ '}' :: rest)))
    rw [dumpMembers, quoted, List.append_assoc, List.append_assoc, List.append_assoc,
      List.append_assoc, List.cons_append, parseMembers, skipSpace_cons rfl]
    simp only [separator, List.cons_append, List.nil_append, scanned, Option.bind_some,
      skipSpace_cons (rfl : isSpace ':' = false), parseValue_blank, read,
        skipSpace_cons (rfl : isSpace ',' = false),
      parseMembers_blank, later, Option.map_some]

end

mutual

theorem cost_le (value : Json) (exact_ : Exact value) : cost value ≤ (dump value).length := by
  match value with
  | .null => decide
  | .bool true => decide
  | .bool false => decide
  | .int value =>
    obtain ⟨c, tail, digits, _⟩ := intText_head value
    have one : cost (.int value) = 1 := rfl
    rw [dump, digits, one, List.length_cons]
    omega
  | .float literal =>
    obtain ⟨c, tail, text, _⟩ := exact_.1
    have one : cost (.float literal) = 1 := rfl
    rw [one, dump, text, List.length_cons]
    omega
  | .str text =>
    have one : cost (.str text) = 1 := rfl
    rw [one, dump, CanonicalJson.quote, List.cons_append, List.length_cons]
    omega
  | .list items =>
    have inner := costItems_le items exact_
    rw [cost, dump, List.length_cons, List.length_append, List.length_singleton]
    omega
  | .object members =>
    rw [Exact] at exact_
    have inner := costMembers_le members exact_.2
    rw [cost, dump, List.length_cons, List.length_append, List.length_singleton]
    omega

theorem costItems_le (items : List Json) (exact_ : ExactItems items) :
    costItems items ≤ (dumpItems items).length + 1 := by
  match items with
  | [] => decide
  | [value] =>
    rw [ExactItems] at exact_
    have own := cost_le value exact_.1
    rw [costItems, costItems, dumpItems]
    omega
  | value :: next :: rest =>
    rw [ExactItems] at exact_
    have own := cost_le value exact_.1
    have others := costItems_le (next :: rest) exact_.2
    rw [costItems, dumpItems, List.length_append, List.length_append, separator, List.length_cons,
      List.length_singleton]
    omega

theorem costMembers_le (members : List (String × Json)) (exact_ : ExactMembers members) :
    costMembers members ≤ (dumpMembers members).length + 1 := by
  match members with
  | [] => decide
  | [(key, value)] =>
    rw [ExactMembers] at exact_
    have own := cost_le value exact_.1
    rw [costMembers, costMembers, dumpMembers, List.length_append]
    omega
  | (key, value) :: next :: rest =>
    rw [ExactMembers] at exact_
    have own := cost_le value exact_.1
    have others := costMembers_le (next :: rest) exact_.2
    rw [costMembers, dumpMembers, List.length_append, List.length_append, List.length_append,
      separator, List.length_cons, List.length_singleton]
    omega

end

/-- What was written is read back. -/
theorem loads_dumps (value : Json) (exact_ : Exact value) : loads (dumps value) = some value := by
  have read := parseValue_dump value exact_ ((dump value).length + 1) []
    (Nat.le_succ_of_le (cost_le value exact_))
    (fun _ _ none => by cases none)
  rw [List.append_nil] at read
  rw [loads, dumps, String.toList_ofList, read]
  rfl

end RoundTrip

section Readable

theorem digits_takeWhile {input : List Char} (some_ : input.takeWhile isDigit ≠ []) :
    Digits (input.takeWhile isDigit) := ⟨some_, List.all_eq_true.mp List.all_takeWhile⟩

def Fraction (fraction : List Char) : Prop := fraction = [] ∨ ∃ digits, Digits digits ∧
    fraction = '.' :: digits

def Sign (sign : List Char) : Prop := sign = [] ∨ sign = ['+'] ∨ sign = ['-']

def Exponent (exponent : List Char) : Prop :=
  exponent = [] ∨ ∃ c sign digits, (c = 'e' ∨ c = 'E') ∧ Sign sign ∧ Digits digits ∧
    exponent = c :: sign ++ digits

theorem natural_of_scan {input digits rest : List Char}
    (read : scanNatural input = some (digits, rest)) :
    Natural digits := by
  rw [scanNatural.eq_def] at read
  split at read
  · rw [Option.some.injEq, Prod.mk.injEq] at read
    exact .inl read.1.symm
  · rename_i leading
    by_cases none : input.takeWhile isDigit = []
    · rw [if_pos none] at read
      cases read
    · rw [if_neg none, Option.some.injEq, Prod.mk.injEq] at read
      rw [← read.1]
      refine .inr ⟨digits_takeWhile none, ?_⟩
      intro tail zero
      cases input with
      | nil => cases zero
      | cons c more =>
        by_cases digit : isDigit c
        · rw [List.takeWhile_cons_of_pos digit, List.cons.injEq] at zero
          exact leading more (by rw [zero.1])
        · rw [List.takeWhile_cons_of_neg digit] at zero
          cases zero

theorem fraction_of_scan (input : List Char) : Fraction (scanFraction input).1 := by
  rw [scanFraction.eq_def]
  split
  · split
    · exact .inl rfl
    · rename_i some_
      exact .inr ⟨_, digits_takeWhile some_, rfl⟩
  · exact .inl rfl

theorem sign_of_scan (input : List Char) : Sign (scanSign input).1 := by
  rw [scanSign.eq_def]
  split
  · exact .inr (.inl rfl)
  · exact .inr (.inr rfl)
  · exact .inl rfl

theorem exponent_of_scan (input : List Char) : Exponent (scanExponent input).1 := by
  cases input with
  | nil => exact .inl rfl
  | cons c rest =>
    rw [scanExponent]
    by_cases mark : c = 'e' ∨ c = 'E'
    · rw [if_pos mark]
      dsimp only
      by_cases none : (scanSign rest).2.takeWhile isDigit = []
      · rw [if_pos none]
        exact .inl rfl
      · rw [if_neg none]
        exact .inr ⟨c, _, _, mark, sign_of_scan rest, digits_takeWhile none, rfl⟩
    · rw [if_neg mark]
      exact .inl rfl

theorem scanFraction_append {fraction rest : List Char}
    (shape : Fraction fraction) (ends : NoDigit rest)
    (point : ∀ tail, rest ≠ '.' :: tail) : scanFraction (fraction ++ rest) = (fraction, rest) := by
  rcases shape with rfl | ⟨digits, ⟨some_, all⟩, rfl⟩
  · rw [List.nil_append, scanFraction]
    exact point
  · obtain ⟨taken, dropped⟩ := takeWhile_digits_append all ends
    rw [List.cons_append, scanFraction, taken, if_neg some_, dropped]

theorem scanSign_append {sign digits : List Char} (shape : Sign sign)
    (isDigits : Digits digits) (rest : List Char) :
    scanSign (sign ++ (digits ++ rest)) = (sign, digits ++ rest) := by
  rcases shape with rfl | rfl | rfl
  · obtain ⟨some_, all⟩ := isDigits
    cases digits with
    | nil => exact absurd rfl some_
    | cons c tail =>
      have digit := all c List.mem_cons_self
      rw [List.nil_append, List.cons_append, scanSign]
      · intro more same
        rw [(List.cons.inj same).1] at digit
        cases digit
      · intro more same
        rw [(List.cons.inj same).1] at digit
        cases digit
  · rfl
  · rfl

theorem scanExponent_append {exponent rest : List Char} (shape : Exponent exponent)
    (ends : NumberEnds rest) :
    scanExponent (exponent ++ rest) = (exponent, rest) := by
  rcases shape with rfl | ⟨c, sign, digits, mark, isSign, isDigits, rfl⟩
  · exact scanExponent_ends ends
  · obtain ⟨taken, dropped⟩ := takeWhile_digits_append isDigits.2 (noDigit_of_ends ends)
    rw [List.cons_append, List.cons_append, List.append_assoc, scanExponent, if_pos mark,
      scanSign_append isSign isDigits]
    dsimp only
    rw [taken, if_neg isDigits.1, dropped]
    rfl

/-- What follows the whole part of a number that is not an integer. -/
theorem noDigit_exponent {exponent rest : List Char} (shape : Exponent exponent)
    (ends : NumberEnds rest) :
    NoDigit (exponent ++ rest) ∧ ∀ tail, exponent ++ rest ≠ '.' :: tail := by
  rcases shape with rfl | ⟨c, sign, digits, mark, _, _, rfl⟩
  · refine ⟨noDigit_of_ends ends, ?_⟩
    intro tail same
    cases (ends _ _ same : endsNumber '.' = true)
  · constructor
    · intro d tail same
      rw [List.cons_append, List.cons_append, List.cons.injEq] at same
      rw [← same.1]
      rcases mark with rfl | rfl <;> rfl
    · intro tail same
      rw [List.cons_append, List.cons_append, List.cons.injEq] at same
      rcases mark with rfl | rfl <;> cases same.1

theorem noDigit_fraction {fraction rest : List Char} (shape : Fraction fraction)
    (ends : NoDigit rest) :
    NoDigit (fraction ++ rest) := by
  rcases shape with rfl | ⟨digits, _, rfl⟩
  · exact ends
  · intro d tail same
    rw [List.cons_append, List.cons.injEq] at same
    rw [← same.1]
    rfl

theorem natural_head {digits : List Char} (natural : Natural digits) :
    ∃ c tail, digits = c :: tail ∧ isDigit c = true := by
  rcases natural with rfl | ⟨⟨some_, all⟩, _⟩
  · exact ⟨'0', [], rfl, rfl⟩
  · cases digits with
    | nil => exact absurd rfl some_
    | cons c tail => exact ⟨c, tail, rfl, all c List.mem_cons_self⟩

/-- The sign, the whole part, the fraction and the exponent of a number are found again. -/
theorem literal_of_parts (negative : Bool) {digits fraction exponent : List Char}
    (natural : Natural digits)
    (isFraction : Fraction fraction) (isExponent : Exponent exponent)
    (real : ¬ (fraction = [] ∧ exponent = [])) :
    Literal ((if negative then ['-'] else []) ++ digits ++ fraction ++ exponent) := by
  have unsigned (rest : List Char) (ends : NumberEnds rest) :
      scanUnsigned negative (digits ++ (fraction ++ (exponent ++ rest))) =
        some (.float ((if negative then ['-'] else []) ++ digits ++ fraction ++
          exponent), rest) := by
    obtain ⟨later, point⟩ := noDigit_exponent isExponent ends
    rw [scanUnsigned, scanNatural_append natural (noDigit_fraction isFraction later),
      Option.map_some]
    simp only [scanFraction_append isFraction later point, scanExponent_append isExponent ends,
      if_neg real]
  obtain ⟨c, tail, head, digit⟩ := natural_head natural
  have notInfinity : c ≠ 'I' := by
    rintro rfl
    cases digit
  have notMinus : c ≠ '-' := by
    rintro rfl
    cases digit
  cases negative with
  | true =>
    refine ⟨⟨'-', _, rfl, rfl, by decide⟩, ?_⟩
    intro fuel rest ends
    have read := unsigned rest ends
    simp only [if_true, List.append_assoc, List.cons_append, List.nil_append] at read ⊢
    rw [parseValue_number fuel _ (.inr rfl), scanNumber]
    · exact read
    · intro more same
      rw [head, List.cons_append, List.cons.injEq] at same
      exact notInfinity same.1
  | false =>
    refine ⟨⟨c, tail ++ fraction ++ exponent, by simp [head], visible_of_number (.inl digit)⟩, ?_⟩
    intro fuel rest ends
    have read := unsigned rest ends
    simp only [Bool.false_eq_true, if_false, List.append_assoc, List.nil_append] at read ⊢
    rw [head, List.cons_append] at read ⊢
    rw [parseValue_number fuel _ (.inl digit), scanNumber]
    · exact read
    · intro more same
      exact notMinus (List.cons.inj same).1
    · intro more same
      exact notMinus (List.cons.inj same).1

theorem exact_of_scanNumber {input rest : List Char} {value : Json}
    (read : scanNumber input = some (value, rest)) :
    Exact value := by
  have unsigned {negative : Bool} {input : List Char}
    (read : scanUnsigned negative input = some (value, rest)) :
      Exact value := by
    rw [scanUnsigned, Option.map_eq_some_iff] at read
    obtain ⟨⟨digits, after⟩, natural, result⟩ := read
    dsimp only at result
    by_cases whole : (scanFraction after).1 = [] ∧ (scanExponent (scanFraction after).2).1 = []
    · rw [if_pos whole, Prod.mk.injEq] at result
      rw [← result.1]
      trivial
    · rw [if_neg whole, Prod.mk.injEq] at result
      rw [← result.1]
      exact literal_of_parts negative (natural_of_scan natural) (fraction_of_scan after)
        (exponent_of_scan (scanFraction after).2) whole
  rw [scanNumber.eq_def] at read
  split at read
  · rw [Option.some.injEq, Prod.mk.injEq] at read
    rw [← read.1]
    exact ⟨⟨'-', _, rfl, rfl, by decide⟩, fun _ _ _ => rfl⟩
  · exact unsigned read
  · exact unsigned read

theorem exact_upsert {members : List (String × Json)} (all : ExactMembers members)
    {key : String} {value : Json}
    (exact_ : Exact value) : ExactMembers (Dict.upsert key value members) := by
  induction members with
  | nil => exact ⟨exact_, trivial⟩
  | cons pair rest ih =>
    rw [ExactMembers] at all
    rw [Dict.upsert]
    split
    · exact ⟨exact_, all.2⟩
    · exact ⟨all.1, ih all.2⟩

theorem exact_ofPairs {pairs : List (String × Json)}
    (all : ExactMembers pairs) : Exact (ofPairs pairs) := by
  have stored : ∀ done : List (String × Json), (done.map Prod.fst).Nodup → ExactMembers done →
      Exact (.object (pairs.foldl (fun members pair =>
        Dict.upsert pair.1 pair.2 members) done)) := by
    induction pairs with
    | nil =>
      intro done distinct exact_
      exact ⟨distinct, exact_⟩
    | cons pair rest ih =>
      intro done distinct exact_
      rw [ExactMembers] at all
      exact ih all.2 _ (Dict.upsert_distinct pair.1 pair.2 distinct) (exact_upsert exact_ all.1)
  exact stored [] List.nodup_nil trivial

/-- Every value that a text reads as can be written and read again. -/
theorem exact_of_parse (fuel : Nat) :
    (∀ input value rest, parseValue fuel input = some (value, rest) → Exact value) ∧
      (∀ input items rest, parseItems fuel input = some (items, rest) → ExactItems items) ∧
      ∀ input pairs rest, parseMembers fuel input = some (pairs, rest) → ExactMembers pairs := by
  induction fuel with
  | zero =>
    refine ⟨?_, ?_, ?_⟩
    · intro input value rest read
      cases read
    · intro input items rest read
      cases read
    · intro input pairs rest read
      cases read
  | succ fuel ih =>
    obtain ⟨values, items, members⟩ := ih
    refine ⟨?_, ?_, ?_⟩
    · intro input value rest read
      rw [parseValue] at read
      split at read
      · cases read
        trivial
      · cases read
        trivial
      · cases read
        trivial
      · cases read
        exact ⟨⟨'N', _, rfl, rfl, by decide⟩, fun _ _ _ => rfl⟩
      · cases read
        exact ⟨⟨'I', _, rfl, rfl, by decide⟩, fun _ _ _ => rfl⟩
      · rw [Option.map_eq_some_iff] at read
        obtain ⟨⟨text, after⟩, _, result⟩ := read
        cases result
        trivial
      · split at read
        · cases read
          exact trivial
        · rw [Option.map_eq_some_iff] at read
          obtain ⟨⟨listed, after⟩, found, result⟩ := read
          cases result
          exact items _ _ _ found
      · split at read
        · cases read
          exact ⟨List.nodup_nil, trivial⟩
        · rw [Option.map_eq_some_iff] at read
          obtain ⟨⟨pairs, after⟩, found, result⟩ := read
          cases result
          exact exact_ofPairs (members _ _ _ found)
      · exact exact_of_scanNumber read
    · intro input listed rest read
      rw [parseItems, Option.bind_eq_some_iff] at read
      obtain ⟨⟨value, after⟩, first, result⟩ := read
      dsimp only at result
      split at result
      · cases result
        exact ⟨values _ _ _ first, trivial⟩
      · rw [Option.map_eq_some_iff] at result
        obtain ⟨⟨others, end_⟩, found, same⟩ := result
        cases same
        exact ⟨values _ _ _ first, items _ _ _ found⟩
      · cases result
    · intro input pairs rest read
      rw [parseMembers] at read
      split at read
      · rw [Option.bind_eq_some_iff] at read
        obtain ⟨⟨key, colon⟩, _, read⟩ := read
        dsimp only at read
        split at read
        · rw [Option.bind_eq_some_iff] at read
          obtain ⟨⟨value, after⟩, first, result⟩ := read
          dsimp only at result
          split at result
          · cases result
            exact ⟨values _ _ _ first, trivial⟩
          · rw [Option.map_eq_some_iff] at result
            obtain ⟨⟨others, end_⟩, found, same⟩ := result
            cases same
            exact ⟨values _ _ _ first, members _ _ _ found⟩
          · cases result
        · cases read
      · cases read

theorem exact_of_loads {text : String} {value : Json}
    (read : loads text = some value) : Exact value := by
  rw [loads] at read
  split at read
  · rename_i found
    split at read
    · cases read
      exact (exact_of_parse _).1 _ _ _ found
    · cases read
  · cases read

end Readable
end Json
end ReplicateOnTag
