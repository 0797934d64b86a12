import Mathlib.Computability.RegularExpressions

/-! Regular expressions over classes of letters: a text matches when the classes
of its letters do. -/
namespace ReplicateOnTag.ClassPattern
open RegularExpression
variable {α : Type u} {κ : Type v} [DecidableEq κ]

/-- A letter of one of the classes. -/
def oneOf : List κ → RegularExpression κ
  | [] => 0
  | first :: rest => char first + oneOf rest

/-- One or more. -/
def many (pattern : RegularExpression κ) : RegularExpression κ := pattern * star pattern

/-- At least `low`, and up to `extra` more. -/
def between (low extra : Nat) (pattern : RegularExpression κ) : RegularExpression κ :=
  pattern ^ low * (1 + pattern) ^ extra

def fullMatch (classOf : α → κ) (pattern : RegularExpression κ) (text : List α) : Bool :=
  pattern.rmatch (text.map classOf)

section Meaning
variable {classOf : α → κ} {first second pattern : RegularExpression κ} {text : List α}

theorem fullMatch_one : fullMatch classOf 1 text ↔ text = [] := by
  rw [fullMatch, one_rmatch_iff, List.map_eq_nil_iff]

theorem fullMatch_add :
    fullMatch classOf (first + second) text ↔ fullMatch classOf first text ∨
      fullMatch classOf second text :=
  add_rmatch_iff first second _

theorem fullMatch_mul : fullMatch classOf (first * second) text ↔
    ∃ front back, text = front ++ back ∧ fullMatch classOf first front ∧
      fullMatch classOf second back := by
  rw [fullMatch, mul_rmatch_iff]
  constructor
  · rintro ⟨front, back, split, left, right⟩
    obtain ⟨begin, rest, rfl, rfl, rfl⟩ := List.map_eq_append_iff.mp split
    exact ⟨begin, rest, rfl, left, right⟩
  · rintro ⟨front, back, rfl, left, right⟩
    exact ⟨_, _, List.map_append, left, right⟩

theorem fullMatch_char {letter : κ} :
    fullMatch classOf (char letter) text ↔ ∃ c, text = [c] ∧ classOf c = letter := by
  rw [fullMatch, char_rmatch_iff, List.map_eq_singleton_iff]

theorem fullMatch_oneOf {letters : List κ} :
    fullMatch classOf (oneOf letters) text ↔ ∃ c, text = [c] ∧ classOf c ∈ letters := by
  induction letters with
  | nil => simp [oneOf, fullMatch]
  | cons letter rest ih =>
    rw [oneOf, fullMatch_add, fullMatch_char, ih]
    simp only [List.mem_cons, and_or_left, exists_or]

theorem fullMatch_star : fullMatch classOf (star pattern) text ↔
    ∃ parts : List (List α), text = parts.flatten ∧ ∀ part ∈ parts, part ≠ [] ∧
      fullMatch classOf pattern part := by
  rw [fullMatch, star_rmatch_iff]
  constructor
  · rintro ⟨parts, split, each⟩
    induction parts generalizing text with
    | nil => exact ⟨[], List.map_eq_nil_iff.mp split, by simp⟩
    | cons part rest ih =>
      rw [List.flatten_cons] at split
      obtain ⟨front, back, rfl, here, later⟩ := List.map_eq_append_iff.mp split
      obtain ⟨parts, rfl, all⟩ :=
        ih later fun other listed => each other (List.mem_cons_of_mem _ listed)
      obtain ⟨some, matched⟩ := each part List.mem_cons_self
      refine ⟨front :: parts, rfl, fun other listed => ?_⟩
      rcases List.mem_cons.mp listed with rfl | listed
      · subst here
        exact ⟨fun none => some (by rw [none, List.map_nil]), matched⟩
      · exact all other listed
  · rintro ⟨parts, rfl, each⟩
    refine ⟨parts.map (List.map classOf), List.map_flatten, fun part listed => ?_⟩
    obtain ⟨own, member, rfl⟩ := List.mem_map.mp listed
    exact ⟨fun none => (each own member).1 (List.map_eq_nil_iff.mp none), (each own member).2⟩

/-- Letters of the classes, as many as one likes. -/
theorem fullMatch_star_oneOf {letters : List κ} :
    fullMatch classOf (star (oneOf letters)) text ↔ ∀ c ∈ text, classOf c ∈ letters := by
  rw [fullMatch_star]
  constructor
  · rintro ⟨parts, rfl, each⟩ c member
    obtain ⟨part, listed, inside⟩ := List.mem_flatten.mp member
    obtain ⟨own, rfl, class_⟩ := fullMatch_oneOf.mp (each part listed).2
    rwa [List.mem_singleton.mp inside]
  · intro all
    refine ⟨text.map fun c => [c], ?_, fun part listed => ?_⟩
    · rw [← List.flatMap_def, List.flatMap_singleton']
    · obtain ⟨c, member, rfl⟩ := List.mem_map.mp listed
      exact ⟨List.cons_ne_nil _ _, fullMatch_oneOf.mpr ⟨c, rfl, all c member⟩⟩

theorem fullMatch_many_oneOf {letters : List κ} :
    fullMatch classOf (many (oneOf letters)) text ↔ text ≠ [] ∧
      ∀ c ∈ text, classOf c ∈ letters := by
  rw [many, fullMatch_mul]
  constructor
  · rintro ⟨front, back, rfl, one, more⟩
    obtain ⟨c, rfl, class_⟩ := fullMatch_oneOf.mp one
    refine ⟨List.cons_ne_nil _ _, fun other member => ?_⟩
    rcases List.mem_cons.mp member with rfl | member
    · exact class_
    · exact fullMatch_star_oneOf.mp more other member
  · rintro ⟨some, all⟩
    cases text with
    | nil => exact absurd rfl some
    | cons c rest =>
      refine ⟨[c], rest, rfl, fullMatch_oneOf.mpr ⟨c, rfl, all c List.mem_cons_self⟩, ?_⟩
      exact fullMatch_star_oneOf.mpr fun other member => all other (List.mem_cons_of_mem _ member)

theorem fullMatch_many : fullMatch classOf (many pattern) text ↔
    ∃ (part : List α) (parts : List (List α)), text = part ++ parts.flatten ∧
      fullMatch classOf pattern part ∧
      ∀ other ∈ parts, other ≠ [] ∧ fullMatch classOf pattern other := by
  rw [many, fullMatch_mul]
  constructor
  · rintro ⟨front, back, rfl, one, more⟩
    obtain ⟨parts, rfl, each⟩ := fullMatch_star.mp more
    exact ⟨front, parts, rfl, one, each⟩
  · rintro ⟨part, parts, rfl, one, each⟩
    exact ⟨part, _, rfl, one, fullMatch_star.mpr ⟨parts, rfl, each⟩⟩

omit [DecidableEq κ] in
theorem pow_succ_eq (pattern : RegularExpression κ)
    (n : Nat) : pattern ^ (n + 1) = pattern ^ n * pattern := rfl

theorem fullMatch_pow_oneOf {letters : List κ} (n : Nat) :
    fullMatch classOf (oneOf letters ^ n) text ↔ text.length = n ∧
      ∀ c ∈ text, classOf c ∈ letters := by
  induction n generalizing text with
  | zero =>
    rw [show oneOf letters ^ 0 = 1 from rfl, fullMatch_one, List.length_eq_zero_iff]
    exact (and_iff_left_of_imp fun none c member => absurd (none ▸ member) List.not_mem_nil).symm
  | succ n ih =>
    rw [pow_succ_eq, fullMatch_mul]
    constructor
    · rintro ⟨front, back, rfl, begin, last⟩
      obtain ⟨length, all⟩ := ih.mp begin
      obtain ⟨c, rfl, class_⟩ := fullMatch_oneOf.mp last
      refine ⟨by rw [List.length_append, length, List.length_singleton], fun other member => ?_⟩
      rcases List.mem_append.mp member with early | late
      · exact all other early
      · rwa [List.mem_singleton.mp late]
    · rintro ⟨length, all⟩
      obtain ⟨front, c, rfl⟩ : ∃ front c, text = front ++ [c] := by
        rcases List.eq_nil_or_concat text with rfl | ⟨front, c, rfl⟩
        · cases length
        · exact ⟨front, c, List.concat_eq_append⟩
      refine ⟨front, [c], rfl, ih.mpr ⟨?_, fun other member =>
        all other (List.mem_append_left _ member)⟩,
        fullMatch_oneOf.mpr ⟨c, rfl, all c (List.mem_append_right _ List.mem_cons_self)⟩⟩
      simpa only [List.length_append, List.length_singleton, Nat.add_right_cancel_iff] using length

theorem fullMatch_optional_oneOf {letters : List κ} (n : Nat) :
    fullMatch classOf ((1 + oneOf letters) ^ n) text ↔ text.length ≤ n ∧
      ∀ c ∈ text, classOf c ∈ letters := by
  induction n generalizing text with
  | zero =>
    rw [show (1 + oneOf letters) ^ 0 = 1 from rfl, fullMatch_one, Nat.le_zero,
      List.length_eq_zero_iff]
    exact (and_iff_left_of_imp fun none c member => absurd (none ▸ member) List.not_mem_nil).symm
  | succ n ih =>
    rw [pow_succ_eq, fullMatch_mul]
    constructor
    · rintro ⟨front, back, rfl, begin, last⟩
      obtain ⟨length, all⟩ := ih.mp begin
      rcases fullMatch_add.mp last with none | one
      · rw [fullMatch_one.mp none, List.append_nil]
        exact ⟨Nat.le_succ_of_le length, all⟩
      · obtain ⟨c, rfl, class_⟩ := fullMatch_oneOf.mp one
        refine ⟨by rw [List.length_append, List.length_singleton]; omega, fun other member => ?_⟩
        rcases List.mem_append.mp member with early | late
        · exact all other early
        · rwa [List.mem_singleton.mp late]
    · rintro ⟨length, all⟩
      rcases List.eq_nil_or_concat text with rfl | ⟨front, c, rfl⟩
      · exact ⟨[], [], rfl, ih.mpr ⟨Nat.zero_le _, all⟩,
          fullMatch_add.mpr (.inl (fullMatch_one.mpr rfl))⟩
      · rw [List.concat_eq_append] at length all ⊢
        rw [List.length_append, List.length_singleton, Nat.add_le_add_iff_right] at length
        refine ⟨front, [c], rfl, ih.mpr ⟨length, fun other member =>
          all other (List.mem_append_left _ member)⟩,
          fullMatch_add.mpr (.inr (fullMatch_oneOf.mpr ⟨c, rfl, ?_⟩))⟩
        exact all c (List.mem_append_right _ List.mem_cons_self)

theorem fullMatch_between_oneOf {letters : List κ} {low extra : Nat} :
    fullMatch classOf (between low extra (oneOf letters)) text ↔
      low ≤ text.length ∧ text.length ≤ low + extra ∧ ∀ c ∈ text, classOf c ∈ letters := by
  rw [between, fullMatch_mul]
  constructor
  · rintro ⟨front, back, rfl, begin, more⟩
    obtain ⟨length, all⟩ := (fullMatch_pow_oneOf low).mp begin
    obtain ⟨length', all'⟩ := (fullMatch_optional_oneOf extra).mp more
    rw [List.length_append, length]
    refine ⟨Nat.le_add_right _ _, Nat.add_le_add_left length' _, fun c member => ?_⟩
    exact (List.mem_append.mp member).elim (all c) (all' c)
  · rintro ⟨enough, within, all⟩
    refine ⟨text.take low, text.drop low, (List.take_append_drop low text).symm, ?_, ?_⟩
    · refine (fullMatch_pow_oneOf low).mpr ⟨?_, fun c member => all c (List.mem_of_mem_take member)⟩
      rw [List.length_take, Nat.min_eq_left enough]
    · refine (fullMatch_optional_oneOf extra).mpr ⟨?_, fun c member =>
        all c (List.mem_of_mem_drop member)⟩
      rw [List.length_drop]
      omega

end Meaning
end ReplicateOnTag.ClassPattern
