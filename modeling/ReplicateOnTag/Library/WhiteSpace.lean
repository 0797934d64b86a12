import ReplicateOnTag.Library.Decimal

/-! Texts without some characters at their ends, and the white space of Unicode 15.0. -/
namespace ReplicateOnTag.WhiteSpace

/-- The text without the dropped characters at either end. -/
def trim (dropped : Char → Bool) (text : List Char) : List Char :=
  ((text.dropWhile dropped).reverse.dropWhile dropped).reverse

/-- `str.isspace` on one character. -/
def isSpace (c : Char) : Bool :=
  let n := c.toNat
  (0x09 ≤ n ∧ n ≤ 0x0d) ∨ (0x1c ≤ n ∧ n ≤ 0x20) ∨ n = 0x85 ∨ n = 0xa0 ∨ n = 0x1680 ∨
    (0x2000 ≤ n ∧ n ≤ 0x200a) ∨ n = 0x2028 ∨ n = 0x2029 ∨ n = 0x202f ∨ n = 0x205f ∨ n = 0x3000

/-- `str.strip`. -/
def strip (text : List Char) : List Char := trim isSpace text

theorem trim_none {dropped : Char → Bool} {text : List Char}
    (kept : ∀ c ∈ text, dropped c = false) :
    trim dropped text = text := by
  have whole : ∀ text : List Char, (∀ c ∈ text, dropped c = false) →
      text.dropWhile dropped = text := by
    intro text kept
    cases text with
    | nil => rfl
    | cons c rest =>
      exact List.dropWhile_cons_of_neg (by rw [kept c List.mem_cons_self]; exact Bool.false_ne_true)
  rw [trim, whole text kept, whole _ fun c member => kept c (List.mem_reverse.mp member),
    List.reverse_reverse]

theorem isSpace_of_isDigit {c : Char} (digit : c.isDigit = true) : isSpace c = false := by
  obtain ⟨low, high⟩ := (Decimal.isDigit_iff c).mp digit
  simp only [isSpace, decide_eq_false_iff_not]
  omega

example : strip "\x0bsucceeded\u00a0".toList = "succeeded".toList := by decide

end ReplicateOnTag.WhiteSpace
