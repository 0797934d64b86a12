import ReplicateOnTag.Library.PercentEncoding

/-! Hexadecimal and base64 text of bytes. The readers take more than the writers
produce, and read what they produce back. -/
namespace ReplicateOnTag.ByteText
open PercentEncoding (hexValue)

section Hex

def hexDigit (n : Nat) : Char := "0123456789abcdef".toList.getD n '0'

def byteHex (byte : UInt8) : List Char := [hexDigit (byte.toNat / 16), hexDigit (byte.toNat % 16)]

/-- `bytes.hex()`. -/
def hex (bytes : List UInt8) : List Char := bytes.flatMap byteHex

/-- ASCII whitespace. -/
def isSpace (c : Char) : Bool := c = ' ' || (0x09 ≤ c.toNat && c.toNat ≤ 0x0d)

/-- `bytes.fromhex`: blanks may stand between the bytes, not within one. -/
def fromhex : List Char → Option (List UInt8)
  | [] => some []
  | [c] => if isSpace c then some [] else none
  | c :: d :: rest =>
      if isSpace c then fromhex (d :: rest)
      else
        match hexValue c, hexValue d with
        | some high, some low => (fromhex rest).map fun bytes =>
            UInt8.ofNat (16 * high + low) :: bytes
        | _, _ => none

theorem hexValue_hexDigit {n : Nat} (small : n < 16) : hexValue (hexDigit n) = some n := by
  revert n
  decide

theorem isSpace_hexDigit {n : Nat} (small : n < 16) : isSpace (hexDigit n) = false := by
  revert n
  decide

theorem length_hex (bytes : List UInt8) : (hex bytes).length = 2 * bytes.length := by
  induction bytes with
  | nil => rfl
  | cons byte rest ih =>
    rw [hex, List.flatMap_cons, ← hex, List.length_append, ih, List.length_cons, byteHex]
    simp only [List.length_cons, List.length_nil]
    omega

theorem fromhex_hex (bytes : List UInt8) : fromhex (hex bytes) = some bytes := by
  induction bytes with
  | nil => rfl
  | cons byte rest ih =>
    have bound := byte.toNat_lt
    have high : byte.toNat / 16 < 16 := by omega
    have low : byte.toNat % 16 < 16 := by omega
    have whole : 16 * (byte.toNat / 16) + byte.toNat % 16 = byte.toNat := by omega
    rw [hex, List.flatMap_cons, ← hex, byteHex, List.cons_append, List.cons_append, List.nil_append,
      fromhex, isSpace_hexDigit high, hexValue_hexDigit high, hexValue_hexDigit low, ih]
    simp only [Bool.false_eq_true, if_false, Option.map_some, whole, UInt8.ofNat_toNat]

end Hex

section Base64

def alphabet : List Char :=
  "ABCDEFGHIJKLMNOPQRSTUVWXYZabcdefghijklmnopqrstuvwxyz0123456789+/".toList

def sextetChar (n : Nat) : Char := alphabet.getD n 'A'

def sextetValue (c : Char) : Option Nat := alphabet.findIdx? fun letter => letter = c

/-- `base64.b64encode`. -/
def b64encode : List UInt8 → List Char
  | [] => []
  | [a] => [sextetChar (a.toNat / 4), sextetChar (a.toNat % 4 * 16), '=', '=']
  | [a, b] =>
      [sextetChar (a.toNat / 4), sextetChar (a.toNat % 4 * 16 + b.toNat / 16),
        sextetChar (b.toNat % 16 * 4), '=']
  | a :: b :: c :: rest =>
      sextetChar (a.toNat / 4) :: sextetChar (a.toNat % 4 * 16 + b.toNat / 16) ::
        sextetChar (b.toNat % 16 * 4 + c.toNat / 64) :: sextetChar (c.toNat % 64) :: b64encode rest

/-- The bytes that a further sextet completes, and the bits left over. -/
def put (quad left sextet : Nat) : List UInt8 × Nat :=
  match quad with
  | 0 => ([], sextet)
  | 1 => ([UInt8.ofNat (left * 4 + sextet / 16)], sextet % 16)
  | 2 => ([UInt8.ofNat (left * 16 + sextet / 4)], sextet % 4)
  | _ => ([UInt8.ofNat (left * 64 + sextet)], 0)

/-- Reads on inside a group of four, `quad` characters into it. Padding that
completes the group ends the text, and nothing else follows any padding. -/
def decodeFrom (quad left pads : Nat) (padding : Bool) : List Char → Option (List UInt8)
  | [] => if quad = 0 then some [] else none
  | c :: rest =>
      if c = '=' then
        if 2 ≤ quad ∧ 4 ≤ quad + (pads + 1) then
          if rest = [] then some [] else none
        else decodeFrom quad left (if 2 ≤ quad then pads + 1 else pads) true rest
      else
        (sextetValue c).bind fun sextet =>
          if padding then none
          else
            (decodeFrom ((quad + 1) % 4) (put quad left sextet).2 0 false rest).map fun bytes =>
              (put quad left sextet).1 ++ bytes

/-- `base64.b64decode` with `validate`; `none` is a `ValueError`. -/
def b64decode (text : List Char) : Option (List UInt8) :=
  if text.head? = some '=' then none else decodeFrom 0 0 0 false text

theorem sextetValue_sextetChar {n : Nat}
    (small : n < 64) : sextetValue (sextetChar n) = some n := by
  revert n
  decide +kernel

theorem sextetChar_ne_pad {n : Nat} (small : n < 64) : sextetChar n ≠ '=' := by
  intro same
  have value := sextetValue_sextetChar small
  rw [same] at value
  cases value

theorem length_b64encode (bytes : List UInt8) : (b64encode bytes).length =
    4 * ((bytes.length + 2) / 3) := by
  induction bytes using b64encode.induct with
  | case1 => rfl
  | case2 | case3 =>
    simp only [b64encode, List.length_cons, List.length_nil, Nat.reduceAdd, Nat.reduceDiv,
      Nat.reduceMul]
  | case4 a b c rest ih =>
    simp only [b64encode, List.length_cons, ih]
    omega

/-- One character of the alphabet inside a text without padding. -/
theorem decodeFrom_sextet {n : Nat} (small : n < 64) (quad left : Nat) (rest : List Char) :
    decodeFrom quad left 0 false (sextetChar n :: rest) =
      (decodeFrom ((quad + 1) % 4) (put quad left n).2 0 false rest).map
        ((put quad left n).1 ++ ·) := by
  rw [decodeFrom, if_neg (sextetChar_ne_pad small), sextetValue_sextetChar small]
  rfl

theorem decodeFrom_twoPads (left : Nat) : decodeFrom 2 left 0 false ['=', '='] = some [] := rfl

theorem decodeFrom_onePad (left : Nat) : decodeFrom 3 left 0 false ['='] = some [] := rfl

theorem decodeFrom_b64encode (bytes : List UInt8) :
    decodeFrom 0 0 0 false (b64encode bytes) = some bytes := by
  induction bytes using b64encode.induct with
  | case1 => rfl
  | case2 a =>
    have bound := a.toNat_lt
    have first : a.toNat / 4 < 64 := by omega
    have second : a.toNat % 4 * 16 < 64 := by omega
    have whole : a.toNat / 4 * 4 + a.toNat % 4 * 16 / 16 = a.toNat := by omega
    rw [b64encode, decodeFrom_sextet first, decodeFrom_sextet second]
    simp only [put, Nat.reduceAdd, Nat.reduceMod, decodeFrom_twoPads, Option.map_some, whole,
      UInt8.ofNat_toNat, List.nil_append, List.append_nil]
  | case3 a b =>
    have bound := a.toNat_lt
    have bound' := b.toNat_lt
    have first : a.toNat / 4 < 64 := by omega
    have second : a.toNat % 4 * 16 + b.toNat / 16 < 64 := by omega
    have third : b.toNat % 16 * 4 < 64 := by omega
    have whole : a.toNat / 4 * 4 + (a.toNat % 4 * 16 + b.toNat / 16) / 16 = a.toNat := by omega
    have whole' : (a.toNat % 4 * 16 + b.toNat / 16) % 16 * 16 +
      b.toNat % 16 * 4 / 4 = b.toNat := by omega
    rw [b64encode, decodeFrom_sextet first, decodeFrom_sextet second, decodeFrom_sextet third]
    simp only [put, Nat.reduceAdd, Nat.reduceMod, decodeFrom_onePad, Option.map_some, whole, whole',
      UInt8.ofNat_toNat, List.nil_append, List.singleton_append]
  | case4 a b c rest ih =>
    have bound := a.toNat_lt
    have bound' := b.toNat_lt
    have bound'' := c.toNat_lt
    have first : a.toNat / 4 < 64 := by omega
    have second : a.toNat % 4 * 16 + b.toNat / 16 < 64 := by omega
    have third : b.toNat % 16 * 4 + c.toNat / 64 < 64 := by omega
    have fourth : c.toNat % 64 < 64 := by omega
    have whole : a.toNat / 4 * 4 + (a.toNat % 4 * 16 + b.toNat / 16) / 16 = a.toNat := by omega
    have whole' : (a.toNat % 4 * 16 + b.toNat / 16) % 16 * 16 +
        (b.toNat % 16 * 4 + c.toNat / 64) / 4 = b.toNat := by
      omega
    have whole'' : (b.toNat % 16 * 4 + c.toNat / 64) % 4 * 64 + c.toNat % 64 = c.toNat := by omega
    rw [b64encode, decodeFrom_sextet first, decodeFrom_sextet second, decodeFrom_sextet third,
      decodeFrom_sextet fourth]
    simp only [put, Nat.reduceAdd, Nat.reduceMod, ih, Option.map_some, whole, whole', whole'',
      UInt8.ofNat_toNat, List.nil_append, List.singleton_append]

theorem b64decode_b64encode (bytes : List UInt8) : b64decode (b64encode bytes) = some bytes := by
  have leading : (b64encode bytes).head? ≠ some '=' := by
    have letter : ∀ byte : UInt8, sextetChar (byte.toNat / 4) ≠ '=' := by
      intro byte
      have bound := byte.toNat_lt
      exact sextetChar_ne_pad (by omega)
    match bytes with
    | [] => simp [b64encode]
    | [a] | [a, _] | a :: _ :: _ :: _ => simp [b64encode, letter a]
  rw [b64decode, if_neg leading, decodeFrom_b64encode]

end Base64
end ReplicateOnTag.ByteText
