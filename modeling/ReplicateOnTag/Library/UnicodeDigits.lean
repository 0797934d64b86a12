import ReplicateOnTag.Library.Decimal

/-! The digits of Unicode 15.0: the decimal ones, which come in runs of ten, and
those that no decimal numeral is written with. -/
namespace ReplicateOnTag.UnicodeDigits

/-- The zero of each run. -/
def decimalZeros : List Nat :=
  [0x30, 0x660, 0x6f0, 0x7c0, 0x966, 0x9e6, 0xa66, 0xae6, 0xb66, 0xbe6, 0xc66,
    0xce6, 0xd66, 0xde6, 0xe50,
    0xed0, 0xf20, 0x1040, 0x1090, 0x17e0, 0x1810, 0x1946, 0x19d0, 0x1a80, 0x1a90,
      0x1b50, 0x1bb0, 0x1c40,
    0x1c50, 0xa620, 0xa8d0, 0xa900, 0xa9d0, 0xa9f0, 0xaa50, 0xabf0, 0xff10, 0x104a0,
      0x10d30, 0x11066, 0x110f0,
    0x11136, 0x111d0, 0x112f0, 0x11450, 0x114d0, 0x11650, 0x116c0, 0x11730, 0x118e0,
      0x11950, 0x11c50, 0x11d50,
    0x11da0, 0x11f50, 0x16a60, 0x16ac0, 0x16b50, 0x1d7ce, 0x1d7d8, 0x1d7e2, 0x1d7ec,
      0x1d7f6, 0x1e140, 0x1e2f0,
    0x1e4f0, 0x1e950, 0x1fbf0]

/-- A character of category `Nd`, which `\d` and `str.isdecimal` accept. -/
def isDecimal (c : Char) : Bool :=
  decimalZeros.any fun start => start ≤ c.toNat && c.toNat < start + 10

/-- The first and the last character of each run of other digits. -/
def otherDigits : List (Nat × Nat) :=
  [(0xb2, 0xb3), (0xb9, 0xb9), (0x1369, 0x1371), (0x19da, 0x19da),
    (0x2070, 0x2070), (0x2074, 0x2079),
    (0x2080, 0x2089), (0x2460, 0x2468), (0x2474, 0x247c), (0x2488, 0x2490),
      (0x24ea, 0x24ea), (0x24f5, 0x24fd),
    (0x24ff, 0x24ff), (0x2776, 0x277e), (0x2780, 0x2788), (0x278a, 0x2792), (0x10a40, 0x10a43),
    (0x10e60, 0x10e68), (0x11052, 0x1105a), (0x1f100, 0x1f10a)]

/-- `str.isdigit` on one character. -/
def isDigit (c : Char) : Bool :=
  isDecimal c || otherDigits.any fun run => run.1 ≤ c.toNat && c.toNat ≤ run.2

def digitValue (c : Char) : Option Nat :=
  (decimalZeros.find? fun start => start ≤ c.toNat && c.toNat < start + 10).map
    fun start => c.toNat - start

/-- `int` of a text of digits; `none` is a `ValueError`. -/
def readDecimal (digits : List Char) : Option Nat :=
  digits.foldlM (fun n c => (digitValue c).map fun digit => 10 * n + digit) 0

theorem isDecimal_iff (c : Char) : isDecimal c ↔ ∃ start ∈ decimalZeros, start ≤ c.toNat ∧
    c.toNat < start + 10 := by
  simp only [isDecimal, List.any_eq_true, Bool.and_eq_true, decide_eq_true_eq]

theorem isDecimal_of_isDigit {c : Char} (digit : c.isDigit) : isDecimal c :=
  (isDecimal_iff c).mpr ⟨0x30,
    List.mem_cons_self, by have := (Decimal.isDigit_iff c).mp digit; omega⟩

/-- Within ASCII the decimal digits are `0` to `9`. -/
theorem isDigit_of_isDecimal {c : Char} (ascii : c.toNat < 0x80)
    (decimal : isDecimal c) : c.isDigit := by
  obtain ⟨start, member, low, high⟩ := (isDecimal_iff c).mp decimal
  have first : ∀ start ∈ decimalZeros, start < 0x80 → start = 0x30 := by decide
  obtain rfl := first start member (Nat.lt_of_le_of_lt low ascii)
  exact (Decimal.isDigit_iff c).mpr ⟨low, Nat.le_of_lt_succ high⟩

theorem digitValue_of_isDigit {c : Char}
    (digit : c.isDigit) : digitValue c = some (c.toNat - 0x30) := by
  have bounds := (Decimal.isDigit_iff c).mp digit
  have first : (decide (0x30 ≤ c.toNat) && decide (c.toNat < 0x30 + 10)) = true := by
    simpa only [Bool.and_eq_true, decide_eq_true_eq] using ⟨bounds.1, Nat.lt_succ_of_le bounds.2⟩
  simp only [digitValue, decimalZeros, List.find?_cons, first, Option.map_some]

theorem readDecimal_of_isDigit {digits : List Char} (all : digits.all Char.isDigit) :
    readDecimal digits = some (Nat.ofDigitChars 10 digits 0) := by
  have fold : ∀ (digits : List Char) (start : Nat), digits.all Char.isDigit →
      digits.foldlM (fun n c => (digitValue c).map fun digit => 10 * n + digit) start =
        some (Nat.ofDigitChars 10 digits start) := by
    intro digits
    induction digits with
    | nil => exact fun _ _ => rfl
    | cons c rest ih =>
      intro start all
      rw [List.all_cons, Bool.and_eq_true] at all
      rw [List.foldlM_cons, digitValue_of_isDigit all.1, Option.map_some, Option.bind_eq_bind,
        Option.bind_some, ih _ all.2, Nat.ofDigitChars_cons]
      rfl
  exact fold digits 0 all

theorem digitValue_of_isDecimal {c : Char} (decimal : isDecimal c) : ∃ digit,
    digitValue c = some digit := by
  obtain ⟨start, found⟩ := Option.isSome_iff_exists.mp
    (List.find?_isSome.mpr (List.any_eq_true.mp decimal))
  exact ⟨_, congrArg (Option.map _) found⟩

/-- `int` takes a text of decimal digits. -/
theorem readDecimal_of_isDecimal {digits : List Char} (all : digits.all isDecimal) :
    ∃ n, readDecimal digits = some n := by
  have fold : ∀ (digits : List Char) (start : Nat), digits.all isDecimal →
      ∃ n, digits.foldlM (fun n c => (digitValue c).map fun digit =>
        10 * n + digit) start = some n := by
    intro digits
    induction digits with
    | nil => exact fun start _ => ⟨start, rfl⟩
    | cons c rest ih =>
      intro start all
      rw [List.all_cons, Bool.and_eq_true] at all
      obtain ⟨digit, value⟩ := digitValue_of_isDecimal all.1
      rw [List.foldlM_cons, value, Option.map_some, Option.bind_eq_bind, Option.bind_some]
      exact ih _ all.2
  exact fold digits 0 all

end ReplicateOnTag.UnicodeDigits
