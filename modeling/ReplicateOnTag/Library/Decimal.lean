import Mathlib.Data.List.Basic
import Mathlib.Data.String.Basic

/-! Decimal numerals padded to a width, and their order as text. -/
namespace ReplicateOnTag.Decimal

/-- `%0{width}d` for a number that is not negative. -/
def pad (width n : Nat) : List Char :=
  List.replicate (width - (Nat.toDigits 10 n).length) '0' ++ Nat.toDigits 10 n

def number (digits : List Char) : Nat := Nat.ofDigitChars 10 digits 0

/-- Exactly `width` digits. -/
def readNumber (width : Nat) (input : List Char) : Option (Nat × List Char) :=
  let digits := input.take width
  if digits.length = width ∧
    digits.all Char.isDigit then some (number digits, input.drop width) else none

theorem digits_pad (width n : Nat) : (pad width n).all Char.isDigit := by
  rw [List.all_eq_true]
  intro c member
  rcases List.mem_append.mp member with zero | digit
  · rw [(List.mem_replicate.mp zero).2]
    rfl
  · exact Nat.isDigit_of_mem_toDigits (by decide) (by decide) digit

theorem length_pad {width n : Nat} (pos : 0 < width)
    (fits : n < 10 ^ width) : (pad width n).length = width := by
  have short := (Nat.length_toDigits_le_iff (b := 10) (by decide) pos).mpr fits
  rw [pad, List.length_append, List.length_replicate]
  omega

theorem number_pad (width n : Nat) : number (pad width n) = n := by
  rw [number, pad, Nat.ofDigitChars_append, Nat.ofDigitChars_replicate_zero, Nat.mul_zero,
    Nat.ofDigitChars_ten_toDigits]

theorem readNumber_pad {width n : Nat} (pos : 0 < width)
    (fits : n < 10 ^ width) (rest : List Char) :
    readNumber width (pad width n ++ rest) = some (n, rest) := by
  have length := length_pad pos fits
  have taken : (pad width n ++ rest).take width = pad width n := List.take_left' length
  have dropped : (pad width n ++ rest).drop width = rest := List.drop_left' length
  rw [readNumber, taken, dropped, if_pos ⟨length, digits_pad width n⟩, number_pad]

section Order

theorem number_cons (c : Char) (digits : List Char) :
    number (c :: digits) = 10 ^ digits.length * (c.toNat - 48) + number digits := by
  rw [number, Nat.ofDigitChars_cons, Nat.ofDigitChars_eq_ofDigitChars_zero, Nat.mul_zero,
    Nat.zero_add]
  rfl

theorem isDigit_iff (c : Char) : c.isDigit = true ↔ 48 ≤ c.toNat ∧ c.toNat ≤ 57 := by
  rw [Char.isDigit, Bool.and_eq_true, decide_eq_true_eq, decide_eq_true_eq]
  rfl

theorem number_lt {digits : List Char} (all : digits.all Char.isDigit) :
    number digits < 10 ^ digits.length := by
  induction digits with
  | nil => decide
  | cons c digits ih =>
    rw [List.all_cons, Bool.and_eq_true, isDigit_iff] at all
    have later := ih all.2
    have first : c.toNat - 48 ≤ 9 := by omega
    have scaled := Nat.mul_le_mul_left (10 ^ digits.length) first
    rw [number_cons, List.length_cons, Nat.pow_succ]
    omega

theorem lt_of_leading_lt {p n m c d : Nat} (small : n < p)
    (less : c < d) : p * c + n < p * d + m := by
  have next := Nat.mul_le_mul_left p (Nat.succ_le_of_lt less)
  rw [Nat.mul_succ] at next
  omega

/-- Numerals of one width compare as numbers, and what follows decides when they are equal. -/
theorem append_lt_append_iff {first second : List Char} (length : first.length = second.length)
    (all : first.all Char.isDigit) (all' : second.all Char.isDigit) (rest more : List Char) :
    first ++ rest < second ++ more ↔ number first < number second ∨
      number first = number second ∧ rest < more := by
  induction first generalizing second with
  | nil =>
    obtain rfl := List.length_eq_zero_iff.mp length.symm
    simp
  | cons c first ih =>
    cases second with
    | nil => cases length
    | cons d second =>
      rw [List.all_cons, Bool.and_eq_true, isDigit_iff] at all all'
      rw [List.length_cons, List.length_cons, Nat.add_right_cancel_iff] at length
      have small := number_lt all.2
      have small' := number_lt all'.2
      rw [← length] at small'
      have less : c < d ↔ c.toNat < d.toNat := Iff.rfl
      have same : c = d ↔ c.toNat = d.toNat := ⟨congrArg _, Char.toNat_inj.mp⟩
      rw [List.cons_append, List.cons_append, List.cons_lt_cons_iff, ih length all.2 all'.2,
        number_cons, number_cons, less, same, ← length]
      -- the leading digit decides unless the two are equal
      rcases Nat.lt_trichotomy c.toNat d.toNat with below | equal | above
      · have sum := @lt_of_leading_lt _ _ (number second) (c.toNat - 48)
          (d.toNat - 48) small (by omega)
        exact iff_of_true (.inl below) (.inl sum)
      · rw [equal]
        simp only [Nat.add_lt_add_iff_left, Nat.add_left_cancel_iff, Nat.lt_irrefl, false_or,
          true_and]
      · have sum := @lt_of_leading_lt _ _ (number first) (d.toNat - 48)
          (c.toNat - 48) small' (by omega)
        constructor
        · rintro (below | ⟨equal, _⟩)
          · omega
          · omega
        · rintro (below | ⟨equal, _⟩)
          · omega
          · omega

/-- Padded numbers compare as numbers. -/
theorem pad_append_lt_iff {width n m : Nat} (pos : 0 < width) (fits : n < 10 ^ width)
    (fits' : m < 10 ^ width)
    (rest more : List Char) : pad width n ++ rest < pad width m ++ more ↔ n < m ∨
      n = m ∧ rest < more := by
  have length : (pad width n).length = (pad width m).length := by
    rw [length_pad pos fits, length_pad pos fits']
  rw [append_lt_append_iff length (digits_pad width n) (digits_pad width m), number_pad, number_pad]

theorem pad_two_lt_iff {n m : Nat} (small : n < 100) (small' : m < 100) (rest more : List Char) :
    pad 2 n ++ rest < pad 2 m ++ more ↔ n < m ∨ n = m ∧ rest < more :=
  pad_append_lt_iff Nat.two_pos small small' rest more

theorem cons_lt_cons_self_iff (c : Char)
    (rest more : List Char) : c :: rest < c :: more ↔ rest < more := by
  rw [List.cons_lt_cons_iff]
  constructor
  · rintro (less | ⟨_, later⟩)
    · exact absurd less (Nat.lt_irrefl _)
    · exact later
  · intro later
    exact .inr ⟨rfl, later⟩

end Order
end ReplicateOnTag.Decimal
