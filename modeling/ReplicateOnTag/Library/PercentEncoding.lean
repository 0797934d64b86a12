import Mathlib.Data.List.SplitBy

/-! Percent-encoding of text over its UTF-8 bytes. Decoding replaces what is no
UTF-8, and decoding an encoded text gives the text back. -/
namespace ReplicateOnTag.PercentEncoding

section Utf8

def utf8 (text : List Char) : List UInt8 := text.flatMap String.utf8EncodeChar

/-- The character whose encoding begins the bytes. -/
def firstChar? (bytes : List UInt8) : Option Char := bytes.toByteArray.utf8DecodeChar? 0

def isContinuation (byte : UInt8) : Bool := 0x80 ≤ byte && byte ≤ 0xBF

/-- A second byte that may follow the first. -/
def mayFollow (first second : UInt8) : Bool :=
  isContinuation second &&
    (if first = 0xE0 then 0xA0 ≤ second
    else if first = 0xED then second ≤ 0x9F
    else if first = 0xF0 then 0x90 ≤ second
    else if first = 0xF4 then second ≤ 0x8F
    else true)

/-- How many bytes one replacement character stands for where no character
begins: the longest prefix that some encoding begins with, and at least one. -/
def illFormedLength : List UInt8 → Nat
  | first :: second :: rest =>
      if 0xE0 ≤ first && first ≤ 0xF4 && mayFollow first second then
        if 0xF0 ≤ first && (rest.head?.any isContinuation) then 3 else 2
      else 1
  | _ => 1

def replacement : Char := '\uFFFD'

/-- Decodes with replacement; the fuel bounds the characters. -/
def decodeFrom : Nat → List UInt8 → List Char
  | _, [] => []
  | 0, _ => []
  | fuel + 1, bytes =>
      match firstChar? bytes with
      | some c => c :: decodeFrom fuel (bytes.drop c.utf8Size)
      | none => replacement :: decodeFrom fuel (bytes.drop (illFormedLength bytes))

def decode (bytes : List UInt8) : List Char := decodeFrom bytes.length bytes

theorem firstChar?_append (c : Char) (rest : List UInt8) :
    firstChar? (String.utf8EncodeChar c ++ rest) = some c := by
  rw [firstChar?, List.toByteArray_append]
  exact ByteArray.utf8DecodeChar?_utf8EncodeChar_append

theorem decodeFrom_utf8 (text : List Char) (fuel : Nat) (enough : (utf8 text).length ≤ fuel) :
    decodeFrom fuel (utf8 text) = text := by
  induction text generalizing fuel with
  | nil => cases fuel <;> rfl
  | cons c rest ih =>
    have encoded : utf8 (c :: rest) = String.utf8EncodeChar c ++ utf8 rest := List.flatMap_cons
    have size : (String.utf8EncodeChar c).length = c.utf8Size := String.length_utf8EncodeChar c
    have positive := c.utf8Size_pos
    rw [encoded, List.length_append, size] at enough
    cases fuel with
    | zero => omega
    | succ fuel =>
      have some := firstChar?_append c (utf8 rest)
      have left : (String.utf8EncodeChar c ++ utf8 rest).drop c.utf8Size = utf8 rest := by
        rw [← size, List.drop_left]
      rw [encoded, decodeFrom]
      · simp only [some, left, ih fuel (by omega)]
      · intro empty
        have none := congrArg List.length empty
        rw [List.length_append, List.length_nil] at none
        omega

theorem decode_utf8 (text : List Char) : decode (utf8 text) = text := decodeFrom_utf8 text _ le_rfl

/-- Decodes what is UTF-8 as a whole, and nothing else. -/
def decodeStrict (bytes : List UInt8) : Option (List Char) :=
  if utf8 (decode bytes) = bytes then some (decode bytes) else none

theorem decodeStrict_eq_some_iff {bytes : List UInt8} {text : List Char} :
    decodeStrict bytes = some text ↔ utf8 text = bytes := by
  rw [decodeStrict]
  constructor
  · intro read
    split at read
    · rename_i whole
      cases read
      exact whole
    · cases read
  · rintro rfl
    rw [decode_utf8, if_pos rfl]

end Utf8

section Bytes

def hexDigits : List Char :=
  ['0', '1', '2', '3', '4', '5', '6', '7', '8', '9', 'A', 'B', 'C', 'D', 'E', 'F']

def hexDigit (n : Nat) : Char := hexDigits.getD n '0'

/-- The value of a hexadecimal digit in either case. -/
def hexValue (c : Char) : Option Nat := hexDigits.findIdx? fun digit => digit = c.toUpper

/-- Letters, digits and the marks that stand for themselves. -/
def isUnreserved (c : Char) : Bool := c.isAlphanum || c ∈ ['_', '.', '-', '~']

def quoteByte (safe : List Char) (byte : UInt8) : List Char :=
  let c := Char.ofNat byte.toNat
  if byte < 128 ∧ (isUnreserved c ∨ c ∈ safe) then [c]
  else ['%', hexDigit (byte.toNat / 16), hexDigit (byte.toNat % 16)]

/-- The bytes of an ASCII text in which each escape stands for its byte; a `%`
that begins no escape stands for itself. -/
def unquoteToBytes : List Char → List UInt8
  | [] => []
  | [c] => [UInt8.ofNat c.toNat]
  | [c, d] => [UInt8.ofNat c.toNat, UInt8.ofNat d.toNat]
  | c :: high :: low :: rest =>
      if c = '%' then
        match hexValue high, hexValue low with
        | some h, some l => UInt8.ofNat (16 * h + l) :: unquoteToBytes rest
        | _, _ => UInt8.ofNat c.toNat :: unquoteToBytes (high :: low :: rest)
      else UInt8.ofNat c.toNat :: unquoteToBytes (high :: low :: rest)

theorem toNat_ofNat_ascii {n : Nat} (small : n < 128) : (Char.ofNat n).toNat = n := by
  revert n
  decide

theorem hexValue_hexDigit {n : Nat} (small : n < 16) : hexValue (hexDigit n) = some n := by
  revert n
  decide

theorem unquoteToBytes_cons {c : Char} (plain : c ≠ '%') (rest : List Char) :
    unquoteToBytes (c :: rest) = UInt8.ofNat c.toNat :: unquoteToBytes rest := by
  match rest with
  | [] => rfl
  | [_] => rfl
  | _ :: _ :: _ => rw [unquoteToBytes, if_neg plain]

theorem unquoteToBytes_quoteByte (escapes : '%' ∉ safe) (byte : UInt8) (rest : List Char) :
    unquoteToBytes (quoteByte safe byte ++ rest) = byte :: unquoteToBytes rest := by
  rw [quoteByte]
  split
  · rename_i stands
    obtain ⟨small, stands⟩ := stands
    have other : Char.ofNat byte.toNat ≠ '%' := by
      rintro same
      rw [same] at stands
      rcases stands with marked | listed
      · revert marked
        decide
      · exact escapes listed
    have value : (Char.ofNat byte.toNat).toNat = byte.toNat := by
      have bound := UInt8.lt_iff_toNat_lt.mp small
      exact toNat_ofNat_ascii bound
    rw [List.singleton_append, unquoteToBytes_cons other, value, UInt8.ofNat_toNat]
  · have bound := byte.toNat_lt
    have high : byte.toNat / 16 < 16 := by omega
    have low : byte.toNat % 16 < 16 := by omega
    have whole : 16 * (byte.toNat / 16) + byte.toNat % 16 = byte.toNat := by omega
    simp only [List.cons_append, List.nil_append, unquoteToBytes, if_true, hexValue_hexDigit high,
      hexValue_hexDigit low, whole, UInt8.ofNat_toNat]

theorem unquoteToBytes_quote (escapes : '%' ∉ safe) (bytes : List UInt8) :
    unquoteToBytes (bytes.flatMap (quoteByte safe)) = bytes := by
  induction bytes with
  | nil => rfl
  | cons byte rest ih => rw [List.flatMap_cons, unquoteToBytes_quoteByte escapes, ih]

end Bytes

section Text

def isAscii (c : Char) : Bool := c.toNat < 128

/-- Percent-encoding of the UTF-8 bytes; `safe` names further characters that
stand for themselves. -/
def quote (safe : List Char) (text : String) : String :=
  String.ofList ((utf8 text.toList).flatMap (quoteByte safe))

/-- Each run of ASCII characters is decoded, what lies between stays. -/
def unquote (text : String) : String :=
  String.ofList ((text.toList.splitBy fun a b => isAscii a = isAscii b).flatMap fun run =>
    if run.head?.any isAscii then decode (unquoteToBytes run) else run)

/-- What encoded text consists of. -/
theorem mem_quote {c : Char} (member : c ∈ (quote safe text).toList) :
    isAscii c ∧ (isUnreserved c ∨ c ∈ safe ∨ c = '%') := by
  have hex : ∀ n < 16, isAscii (hexDigit n) ∧ isUnreserved (hexDigit n) := by decide
  rw [quote, String.toList_ofList, List.mem_flatMap] at member
  obtain ⟨byte, _, quoted⟩ := member
  have bound := byte.toNat_lt
  rw [quoteByte] at quoted
  split at quoted
  · rename_i stands
    rw [List.mem_singleton] at quoted
    subst quoted
    have small := UInt8.lt_iff_toNat_lt.mp stands.1
    refine ⟨?_, ?_⟩
    · rw [isAscii, toNat_ofNat_ascii small]
      exact decide_eq_true small
    · rcases stands.2 with marked | listed
      · exact .inl marked
      · exact .inr (.inl listed)
  · simp only [List.mem_cons, List.not_mem_nil, or_false] at quoted
    rcases quoted with rfl | rfl | rfl
    · exact ⟨rfl, .inr (.inr rfl)⟩
    · have own := hex (byte.toNat / 16) (by omega)
      exact ⟨own.1, .inl own.2⟩
    · have own := hex (byte.toNat % 16) (by omega)
      exact ⟨own.1, .inl own.2⟩

theorem unquote_of_ascii (ascii : ∀ c ∈ text.toList, isAscii c) :
    unquote text = String.ofList (decode (unquoteToBytes text.toList)) := by
  rw [unquote]
  cases chars : text.toList with
  | nil => rfl
  | cons first rest =>
    rw [chars] at ascii
    have chain : (first :: rest).IsChain fun a b => decide (isAscii a = isAscii b) := by
      refine List.Pairwise.isChain ?_
      refine List.pairwise_of_forall_mem_list ?_
      intro a here b there
      rw [ascii a here, ascii b there]
      exact decide_eq_true rfl
    rw [List.splitBy_of_isChain (by simp) chain, List.flatMap_singleton]
    have own : (first :: rest).head?.any isAscii = true := ascii first List.mem_cons_self
    rw [if_pos own]

/-- Decoding an encoded text gives the text back. -/
theorem unquote_quote (escapes : '%' ∉ safe)
    (text : String) : unquote (quote safe text) = text := by
  have ascii : ∀ c ∈ (quote safe text).toList, isAscii c := fun c member => (mem_quote member).1
  rw [unquote_of_ascii ascii, quote, String.toList_ofList, unquoteToBytes_quote escapes,
    decode_utf8, String.ofList_toList]

theorem length_le_quote (safe : List Char) (text : String) :
    text.toList.length ≤ (quote safe text).toList.length := by
  have bytes : ∀ bytes : List UInt8, bytes.length ≤ (bytes.flatMap (quoteByte safe)).length := by
    intro bytes
    induction bytes with
    | nil => exact le_rfl
    | cons byte rest ih =>
      have filled : 1 ≤ (quoteByte safe byte).length := by
        rw [quoteByte]
        split <;> simp
      rw [List.flatMap_cons, List.length_append, List.length_cons]
      omega
  have chars : ∀ text : List Char, text.length ≤ (utf8 text).length := by
    intro text
    induction text with
    | nil => exact le_rfl
    | cons c rest ih =>
      have size : (String.utf8EncodeChar c).length = c.utf8Size := String.length_utf8EncodeChar c
      have positive := c.utf8Size_pos
      rw [utf8, List.flatMap_cons, ← utf8, List.length_append, List.length_cons, size]
      omega
  rw [quote, String.toList_ofList]
  exact (chars _).trans (bytes _)

theorem quote_ne_empty (some : text ≠ "") : quote safe text ≠ "" := by
  intro empty
  apply some
  have chars := congrArg String.toList empty
  rw [quote, String.toList_ofList] at chars
  cases whole : text.toList with
  | nil => exact String.toList_inj.mp whole
  | cons first rest =>
    have size : (String.utf8EncodeChar first).length = first.utf8Size :=
      String.length_utf8EncodeChar first
    have positive := first.utf8Size_pos
    obtain ⟨byte, member⟩ := List.exists_mem_of_length_pos (size ▸ positive)
    rw [whole, utf8, List.flatMap_cons] at chars
    have none := List.flatMap_eq_nil_iff.mp chars byte (List.mem_append_left _ member)
    rw [quoteByte] at none
    split at none <;> cases none

end Text
end ReplicateOnTag.PercentEncoding
