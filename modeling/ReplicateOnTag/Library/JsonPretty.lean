import ReplicateOnTag.Library.Json
import Mathlib.Algebra.GroupWithZero.Nat

/-! The indented text of a JSON value, two spaces a level, and what a list of
values adds to it. -/
namespace ReplicateOnTag.Json

section Pretty

def lineBreak (level : Nat) : List Char := '\n' :: List.replicate (2 * level) ' '

mutual

/-- `json.dumps(value, indent=2)` of a value that stands at a level. -/
def pretty (level : Nat) : Json → List Char
  | .null => ['n', 'u', 'l', 'l']
  | .bool true => ['t', 'r', 'u', 'e']
  | .bool false => ['f', 'a', 'l', 's', 'e']
  | .int value => intText value
  | .float literal => literal
  | .str text => CanonicalJson.quote text
  | .list [] => ['[', ']']
  | .list (value :: rest) =>
      '[' :: (prettyItems (level + 1) (value :: rest) ++ lineBreak level ++ [']'])
  | .object [] => ['{', '}']
  | .object (pair :: rest) =>
      '{' :: (prettyMembers (level + 1) (pair :: rest) ++ lineBreak level ++ ['}'])

/-- Each on a line of its own. -/
def prettyItems (level : Nat) : List Json → List Char
  | [] => []
  | [value] => lineBreak level ++ pretty level value
  | value :: next :: rest => lineBreak level ++ pretty level value ++ ',' ::
      prettyItems level (next :: rest)

def prettyMembers (level : Nat) : List (String × Json) → List Char
  | [] => []
  | [(key, value)] => lineBreak level ++ CanonicalJson.quote key ++ [':', ' '] ++ pretty level value
  | (key, value) :: next :: rest =>
      lineBreak level ++ CanonicalJson.quote key ++ [':', ' '] ++ pretty level value ++
        ',' :: prettyMembers level (next :: rest)

end

def dumpsIndented (value : Json) : String := String.ofList (pretty 0 value)

end Pretty

section Lengths

theorem length_lineBreak (level : Nat) : (lineBreak level).length = 2 * level + 1 := by
  rw [lineBreak, List.length_cons, List.length_replicate]

/-- Every item brings its line break, every item but the last its comma. -/
theorem length_prettyItems (level : Nat) {items : List Json} (some : items ≠ []) :
    (prettyItems level items).length + 1 =
      (items.map fun value => (pretty level value).length).sum +
        items.length * (2 * level + 2) := by
  induction items with
  | nil => exact absurd rfl some
  | cons value rest ih =>
    cases rest with
    | nil =>
      simp only [prettyItems, List.length_append, length_lineBreak, List.map_cons, List.map_nil,
        List.sum_cons, List.sum_nil, List.length_cons, List.length_nil]
      omega
    | cons next rest =>
      have later := ih (List.cons_ne_nil _ _)
      simp only [prettyItems, List.length_append, length_lineBreak, List.map_cons, List.sum_cons,
        List.length_cons] at later ⊢
      rw [Nat.add_mul (rest.length + 1) 1]
      omega

theorem length_pretty_list (level : Nat) {items : List Json} (some : items ≠ []) :
    (pretty level (.list items)).length =
      (items.map fun value => (pretty (level + 1) value).length).sum +
        items.length * (2 * level + 4) +
        (2 * level + 2) := by
  have lines := length_prettyItems (level + 1) some
  cases items with
  | nil => exact absurd rfl some
  | cons value rest =>
    rw [pretty, List.length_cons, List.length_append, List.length_append, length_lineBreak,
      List.length_singleton]
    rw [show 2 * (level + 1) + 2 = 2 * level + 4 by omega] at lines
    omega

theorem length_pretty_empty (level : Nat) : (pretty level (.list [])).length = 2 := by
  simp only [pretty, List.length_cons, List.length_nil]

theorem length_pretty_member (level : Nat) (key : String) (value : Json) :
    (pretty level (.object [(key, value)])).length =
      (CanonicalJson.quote key).length + (pretty (level + 1) value).length + (4 * level + 8) := by
  simp only [pretty, prettyMembers, List.length_cons, List.length_append, length_lineBreak,
    List.length_nil]
  omega

/-- The last member ends the text, whatever stands before it. -/
theorem prettyMembers_append_singleton (level : Nat) (members : List (String × Json))
    (key : String) (value : Json) :
    ∃ before, prettyMembers level (members ++ [(key, value)]) =
      before ++ CanonicalJson.quote key ++ [':', ' '] ++ pretty level value := by
  induction members with
  | nil => exact ⟨lineBreak level, by rw [List.nil_append, prettyMembers]⟩
  | cons pair rest ih =>
    obtain ⟨name, first⟩ := pair
    obtain ⟨before, split⟩ := ih
    refine ⟨lineBreak level ++ CanonicalJson.quote name ++ [':', ' '] ++
      pretty level first ++ ',' :: before, ?_⟩
    have more : prettyMembers level ((name, first) :: (rest ++ [(key, value)])) =
        lineBreak level ++ CanonicalJson.quote name ++ [':', ' '] ++ pretty level first ++
          ',' :: prettyMembers level (rest ++ [(key, value)]) := by
      cases rest with
      | nil => simp only [List.nil_append, prettyMembers]
      | cons next rest => rw [List.cons_append, prettyMembers]
    rw [List.cons_append, more, split]
    simp only [List.append_assoc, List.cons_append]

end Lengths
end ReplicateOnTag.Json
