import ReplicateOnTag.Library.JsonPretty

/-! JSON text in any layout: what stands between the values, and how strings are
quoted, is a parameter. Whatever the layout, the text is read back. -/
namespace ReplicateOnTag.Json

/-- Every character is a blank. -/
def Blank (gap : List Char) : Prop := ∀ c ∈ gap, isSpace c = true

/-- How a value is laid out; gaps depend on the level they stand at. -/
structure Layout where
  /-- A quoted text after its opening quote. -/
  quoted : String → List Char
  /-- What stands before the first item, before each further one, and after the last. -/
  first : Nat → List Char
  next : Nat → List Char
  last : Nat → List Char
  colon : List Char
  quotes : ∀ text rest, scanString (quoted text ++ rest) = some (text, rest)
  firstBlank : ∀ level, Blank (first level)
  nextBlank : ∀ level, Blank (next level)
  lastBlank : ∀ level, Blank (last level)
  colonBlank : Blank colon

section Writing
variable (layout : Layout)

mutual

def lay (level : Nat) : Json → List Char
  | .null => ['n', 'u', 'l', 'l']
  | .bool true => ['t', 'r', 'u', 'e']
  | .bool false => ['f', 'a', 'l', 's', 'e']
  | .int value => intText value
  | .float literal => literal
  | .str text => '"' :: layout.quoted text
  | .list [] => ['[', ']']
  | .list (value :: rest) =>
      '[' :: (layout.first (level + 1) ++ layItems (level + 1) (value :: rest) ++
        layout.last level ++ [']'])
  | .object [] => ['{', '}']
  | .object (pair :: rest) =>
      '{' :: (layout.first (level + 1) ++ layMembers (level + 1) (pair :: rest) ++
        layout.last level ++ ['}'])

def layItems (level : Nat) : List Json → List Char
  | [] => []
  | [value] => lay level value
  | value :: next :: rest =>
      lay level value ++ ',' :: (layout.next level ++ layItems level (next :: rest))

def layMembers (level : Nat) : List (String × Json) → List Char
  | [] => []
  | [(key, value)] => '"' :: (layout.quoted key ++ ':' :: (layout.colon ++ lay level value))
  | (key, value) :: next :: rest =>
      '"' :: (layout.quoted key ++ ':' :: (layout.colon ++ lay level value ++
        ',' :: (layout.next level ++ layMembers level (next :: rest))))

end

def layText (value : Json) : String := String.ofList (lay layout 0 value)

end Writing

section Blanks

theorem skipSpace_append {gap : List Char} (blank : Blank gap) (input : List Char) :
    skipSpace (gap ++ input) = skipSpace input := by
  rw [skipSpace, List.dropWhile_append_of_pos blank, skipSpace]

theorem parseValue_gap {gap : List Char} (blank : Blank gap) (fuel : Nat) (input : List Char) :
    parseValue fuel (gap ++ input) = parseValue fuel input := by
  cases fuel with
  | zero => rfl
  | succ fuel => rw [parseValue, parseValue, skipSpace_append blank]

theorem parseItems_gap {gap : List Char} (blank : Blank gap) (fuel : Nat) (input : List Char) :
    parseItems fuel (gap ++ input) = parseItems fuel input := by
  cases fuel with
  | zero => rfl
  | succ fuel => rw [parseItems, parseItems, parseValue_gap blank]

theorem parseMembers_gap {gap : List Char} (blank : Blank gap) (fuel : Nat) (input : List Char) :
    parseMembers fuel (gap ++ input) = parseMembers fuel input := by
  cases fuel with
  | zero => rfl
  | succ fuel => rw [parseMembers, parseMembers, skipSpace_append blank]

theorem ends_gap {gap rest : List Char} (blank : Blank gap)
    (ends : Ends rest) : Ends (gap ++ rest) := by
  cases gap with
  | nil => exact ends
  | cons c gap =>
    refine ends_cons ?_
    have space := blank c List.mem_cons_self
    simp only [isSpace, Bool.or_eq_true, decide_eq_true_eq] at space
    rcases space with ((rfl | rfl) | rfl) | rfl <;> rfl

end Blanks

section Reading
variable {layout : Layout}

/-- A value begins with a character that is neither blank nor a closing bracket. -/
theorem lay_head (layout : Layout) (level : Nat) (value : Json) (exact_ : Exact value) :
    ∃ c tail, lay layout level value = c :: tail ∧ isSpace c = false ∧ c ≠ ']' := by
  cases value with
  | null => exact ⟨'n', _, rfl, rfl, by decide⟩
  | bool value => cases value <;> exact ⟨_, _, rfl, rfl, by decide⟩
  | int value =>
    obtain ⟨c, tail, digits, first⟩ := intText_head value
    exact ⟨c, tail, digits, visible_of_number first⟩
  | float literal => exact exact_.1
  | str text => exact ⟨'"', _, rfl, rfl, by decide⟩
  | list items => cases items <;> exact ⟨'[', _, rfl, rfl, by decide⟩
  | object members => cases members <;> exact ⟨'{', _, rfl, rfl, by decide⟩

theorem layItems_head (layout : Layout) (level : Nat) (value : Json) (items : List Json)
    (exact_ : Exact value) :
    ∃ c tail, layItems layout level (value :: items) = c :: tail ∧ isSpace c = false ∧ c ≠ ']' := by
  obtain ⟨c, tail, text, visible, other⟩ := lay_head layout level value exact_
  cases items with
  | nil => exact ⟨c, tail, by rw [layItems, text], visible, other⟩
  | cons next rest => exact ⟨c, _, by rw [layItems, text]; rfl, visible, other⟩

theorem layMembers_head (layout : Layout) (level : Nat) (key : String) (value : Json)
    (members : List (String × Json)) :
    ∃ tail, layMembers layout level ((key, value) :: members) = '"' :: tail := by
  cases members with
  | nil => exact ⟨_, rfl⟩
  | cons next rest => exact ⟨_, rfl⟩

mutual

theorem parseValue_lay (layout : Layout) (level : Nat) (value : Json)
    (exact_ : Exact value) (fuel : Nat)
    (rest : List Char) (enough : cost value ≤ fuel) (ends : Ends rest) :
    parseValue fuel (lay layout level value ++ rest) = some (value, rest) := by
  cases fuel with
  | zero => cases value <;> simp [cost] at enough
  | succ fuel =>
    match value with
    | .null => rfl
    | .bool true => rfl
    | .bool false => rfl
    | .int value => exact parseValue_int value fuel ends
    | .float literal => exact exact_.2 fuel rest ends
    | .str text =>
      rw [lay, List.cons_append, parseValue, skipSpace_cons rfl]
      simp only [layout.quotes, Option.map_some]
    | .list [] => rfl
    | .list (first :: others) =>
      rw [Exact] at exact_
      rw [cost] at enough
      obtain ⟨c, tail, text, visible, other⟩ :=
        layItems_head layout (level + 1) first others exact_.1
      have read := parseItems_lay layout (level + 1) (first :: others) exact_
        (List.cons_ne_nil _ _) fuel
        (layout.last level) rest (layout.lastBlank level) (by omega)
      rw [lay]
      simp only [List.cons_append, List.append_assoc, List.nil_append]
      rw [parseValue, skipSpace_cons rfl]
      simp only [skipSpace_append (layout.firstBlank _)]
      rw [text, List.cons_append] at read ⊢
      simp only [skipSpace_cons visible]
      split
      · exact absurd (List.cons.inj ‹_›).1 other
      · rw [read, Option.map_some]
    | .object [] => rfl
    | .object ((key, first) :: others) =>
      rw [Exact] at exact_
      rw [cost] at enough
      obtain ⟨tail, text⟩ := layMembers_head layout (level + 1) key first others
      have read := parseMembers_lay layout (level + 1) ((key, first) :: others) exact_.2
        (List.cons_ne_nil _ _) fuel
        (layout.last level) rest (layout.lastBlank level) (by omega)
      rw [lay]
      simp only [List.cons_append, List.append_assoc, List.nil_append]
      rw [parseValue, skipSpace_cons rfl]
      simp only [skipSpace_append (layout.firstBlank _)]
      rw [text, List.cons_append] at read ⊢
      simp only [skipSpace_cons (rfl : isSpace '"' = false)]
      split
      · exact absurd (List.cons.inj ‹_›).1 (by decide)
      · rw [read, Option.map_some, ofPairs_nodup _ exact_.1]

theorem parseItems_lay (layout : Layout) (level : Nat) (items : List Json)
    (exact_ : ExactItems items)
    (some_ : items ≠ []) (fuel : Nat) (gap rest : List Char) (blank : Blank gap)
    (enough : costItems items ≤ fuel) :
    parseItems fuel (layItems layout level items ++ (gap ++ ']' :: rest)) = some (items, rest) := by
  match items with
  | [] => exact absurd rfl some_
  | [value] =>
    rw [ExactItems] at exact_
    rw [costItems, costItems] at enough
    obtain ⟨fuel, rfl⟩ : ∃ less, fuel = less + 1 := ⟨fuel - 1, by omega⟩
    have read := parseValue_lay layout level value exact_.1 fuel (gap ++ ']' :: rest) (by omega)
      (ends_gap blank (ends_cons rfl))
    rw [layItems, parseItems, read, Option.bind_some]
    simp only [skipSpace_append blank, skipSpace_cons (rfl : isSpace ']' = false)]
  | value :: next :: others =>
    rw [ExactItems] at exact_
    rw [costItems] at enough
    obtain ⟨fuel, rfl⟩ : ∃ less, fuel = less + 1 := ⟨fuel - 1, by omega⟩
    have later := parseItems_lay layout level (next :: others) exact_.2
      (List.cons_ne_nil _ _) fuel gap rest blank
      (by omega)
    have read := parseValue_lay layout level value exact_.1 fuel
      (',' :: (layout.next level ++
        (layItems layout level (next :: others) ++ (gap ++ ']' :: rest))))
      (by omega) (ends_cons rfl)
    rw [layItems]
    simp only [List.cons_append, List.append_assoc]
    rw [parseItems, read, Option.bind_some]
    simp only [skipSpace_cons (rfl : isSpace ',' = false), parseItems_gap (layout.nextBlank level),
      later, Option.map_some]

theorem parseMembers_lay (layout : Layout) (level : Nat) (members : List (String × Json))
    (exact_ : ExactMembers members) (some_ : members ≠ []) (fuel : Nat)
    (gap rest : List Char) (blank : Blank gap)
    (enough : costMembers members ≤ fuel) :
    parseMembers fuel (layMembers layout level members ++ (gap ++ '}' :: rest)) =
      some (members, rest) := by
  match members with
  | [] => exact absurd rfl some_
  | [(key, value)] =>
    rw [ExactMembers] at exact_
    rw [costMembers, costMembers] at enough
    obtain ⟨fuel, rfl⟩ : ∃ less, fuel = less + 1 := ⟨fuel - 1, by omega⟩
    have read := parseValue_lay layout level value exact_.1 fuel (gap ++ '}' :: rest) (by omega)
      (ends_gap blank (ends_cons rfl))
    rw [layMembers]
    simp only [List.cons_append, List.append_assoc]
    rw [parseMembers, skipSpace_cons rfl]
    simp only [layout.quotes, Option.bind_some, skipSpace_cons (rfl : isSpace ':' = false),
      parseValue_gap layout.colonBlank, read, skipSpace_append blank,
        skipSpace_cons (rfl : isSpace '}' = false)]
  | (key, value) :: next :: others =>
    rw [ExactMembers] at exact_
    rw [costMembers] at enough
    obtain ⟨fuel, rfl⟩ : ∃ less, fuel = less + 1 := ⟨fuel - 1, by omega⟩
    have later := parseMembers_lay layout level (next :: others) exact_.2
      (List.cons_ne_nil _ _) fuel gap rest blank
      (by omega)
    have read := parseValue_lay layout level value exact_.1 fuel
      (',' :: (layout.next level ++
        (layMembers layout level (next :: others) ++ (gap ++ '}' :: rest))))
      (by omega) (ends_cons rfl)
    rw [layMembers]
    simp only [List.cons_append, List.append_assoc]
    rw [parseMembers, skipSpace_cons rfl]
    simp only [layout.quotes, Option.bind_some, skipSpace_cons (rfl : isSpace ':' = false),
      parseValue_gap layout.colonBlank, read, skipSpace_cons (rfl : isSpace ',' = false),
      parseMembers_gap (layout.nextBlank level), later, Option.map_some]

end

mutual

theorem cost_le_lay (layout : Layout) (level : Nat) (value : Json) (exact_ : Exact value) :
    cost value ≤ (lay layout level value).length := by
  match value with
  | .null => exact Nat.succ_le_succ (Nat.zero_le _)
  | .bool true => exact Nat.succ_le_succ (Nat.zero_le _)
  | .bool false => exact Nat.succ_le_succ (Nat.zero_le _)
  | .int value =>
    obtain ⟨c, tail, digits, _⟩ := intText_head value
    have one : cost (.int value) = 1 := rfl
    rw [lay, digits, one, List.length_cons]
    omega
  | .float literal =>
    obtain ⟨c, tail, text, _⟩ := exact_.1
    have one : cost (.float literal) = 1 := rfl
    rw [one, lay, text, List.length_cons]
    omega
  | .str text =>
    have one : cost (.str text) = 1 := rfl
    rw [one, lay, List.length_cons]
    omega
  | .list [] => exact Nat.succ_le_succ (Nat.zero_le _)
  | .list (first :: others) =>
    have inner := costItems_le_lay layout (level + 1) (first :: others) exact_
    rw [cost, lay]
    simp only [List.length_cons, List.length_append, List.length_nil]
    omega
  | .object [] => exact Nat.succ_le_succ (Nat.zero_le _)
  | .object ((key, first) :: others) =>
    rw [Exact] at exact_
    have inner := costMembers_le_lay layout (level + 1) ((key, first) :: others) exact_.2
    rw [cost, lay]
    simp only [List.length_cons, List.length_append, List.length_nil]
    omega

theorem costItems_le_lay (layout : Layout) (level : Nat) (items : List Json)
    (exact_ : ExactItems items) :
    costItems items ≤ (layItems layout level items).length + 1 := by
  match items with
  | [] => exact Nat.zero_le _
  | [value] =>
    rw [ExactItems] at exact_
    have own := cost_le_lay layout level value exact_.1
    rw [costItems, costItems, layItems]
    omega
  | value :: next :: rest =>
    rw [ExactItems] at exact_
    have own := cost_le_lay layout level value exact_.1
    have others := costItems_le_lay layout level (next :: rest) exact_.2
    rw [costItems, layItems, List.length_append, List.length_cons, List.length_append]
    omega

theorem costMembers_le_lay (layout : Layout) (level : Nat) (members : List (String × Json))
    (exact_ : ExactMembers members) : costMembers members ≤
      (layMembers layout level members).length + 1 := by
  match members with
  | [] => exact Nat.zero_le _
  | [(key, value)] =>
    rw [ExactMembers] at exact_
    have own := cost_le_lay layout level value exact_.1
    rw [costMembers, costMembers, layMembers]
    simp only [List.length_cons, List.length_append]
    omega
  | (key, value) :: next :: rest =>
    rw [ExactMembers] at exact_
    have own := cost_le_lay layout level value exact_.1
    have others := costMembers_le_lay layout level (next :: rest) exact_.2
    rw [costMembers, layMembers]
    simp only [List.length_cons, List.length_append]
    omega

end

/-- Whatever the layout, what was written is read back. -/
theorem loads_layText (layout : Layout) (value : Json) (exact_ : Exact value) :
    loads (layText layout value) = some value := by
  have read := parseValue_lay layout 0 value exact_ ((lay layout 0 value).length + 1) []
    (Nat.le_succ_of_le (cost_le_lay layout 0 value exact_)) (fun _ _ none => by cases none)
  rw [List.append_nil] at read
  rw [loads, layText, String.toList_ofList, read]
  rfl

end Reading

section Indented

theorem blank_lineBreak (level : Nat) : Blank (lineBreak level) := by
  intro c member
  rw [lineBreak, List.mem_cons] at member
  rcases member with rfl | space
  · rfl
  · rw [List.eq_of_mem_replicate space]
    rfl

/-- Every item on a line of its own, two spaces a level. -/
def indented (quoted : String → List Char)
    (quotes : ∀ text rest, scanString (quoted text ++ rest) = some (text, rest)) : Layout where
  quoted := quoted
  first := lineBreak
  next := lineBreak
  last := lineBreak
  colon := [' ']
  quotes := quotes
  firstBlank := blank_lineBreak
  nextBlank := blank_lineBreak
  lastBlank := blank_lineBreak
  colonBlank := by
    intro c space
    rw [List.eq_of_mem_singleton space]
    rfl

end Indented

section Raw
open CanonicalJson (unicodeEscape)

/-- Only quotes, backslashes and control characters are escaped. -/
def escapeRaw (c : Char) : List Char :=
  if c = '"' then ['\\', '"']
  else if c = '\\' then ['\\', '\\']
  else if c = '\n' then ['\\', 'n']
  else if c = '\r' then ['\\', 'r']
  else if c = '\t' then ['\\', 't']
  else if c.toNat = 0x0c then ['\\', 'f']
  else if c.toNat = 0x08 then ['\\', 'b']
  else if 0x20 ≤ c.toNat then [c]
  else unicodeEscape c.toNat

def quotedRaw (text : String) : List Char := text.toList.flatMap escapeRaw ++ ['"']

theorem scanUnits_escapeRaw (c : Char) (rest : List Char) :
    scanUnits (escapeRaw c ++ rest) = (scanUnits rest).map fun (units, after) =>
      (c.toNat :: units, after) := by
  rw [escapeRaw]
  by_cases quote : c = '"'
  · subst quote
    rfl
  rw [if_neg quote]
  by_cases back : c = '\\'
  · subst back
    rfl
  rw [if_neg back]
  by_cases feed : c = '\n'
  · subst feed
    rfl
  rw [if_neg feed]
  by_cases carriage : c = '\r'
  · subst carriage
    rfl
  rw [if_neg carriage]
  by_cases tab : c = '\t'
  · subst tab
    rfl
  rw [if_neg tab]
  by_cases formFeed : c.toNat = 0x0c
  · rw [if_pos formFeed, formFeed]
    rfl
  rw [if_neg formFeed]
  by_cases backspace : c.toNat = 0x08
  · rw [if_pos backspace, backspace]
    rfl
  rw [if_neg backspace]
  by_cases plain : 0x20 ≤ c.toNat
  · rw [if_pos plain]
    exact scanUnits_plain quote back plain rest
  · rw [if_neg plain]
    exact scanUnits_unicodeEscape _ (by omega) rest

theorem joinSurrogates_map (text : List Char) : joinSurrogates (text.map Char.toNat) = text := by
  induction text with
  | nil => rfl
  | cons c text ih =>
    rw [List.map_cons]
    cases text with
    | nil => rw [List.map_nil, joinSurrogates, unitChar_toNat]
    | cons next rest =>
      rw [List.map_cons] at ih ⊢
      rw [joinSurrogates, (char_scalar c).1, Bool.false_and, if_neg Bool.false_ne_true,
        unitChar_toNat, ih]

theorem scanString_quotedRaw (text : String) (rest : List Char) :
    scanString (quotedRaw text ++ rest) = some (text, rest) := by
  have units (chars : List Char) :
      scanUnits (chars.flatMap escapeRaw ++ '"' :: rest) = some (chars.map Char.toNat, rest) := by
    induction chars with
    | nil => rfl
    | cons c chars ih =>
      rw [List.flatMap_cons, List.append_assoc, scanUnits_escapeRaw, ih]
      rfl
  rw [scanString, quotedRaw, List.append_assoc, List.singleton_append, units, Option.map_some]
  simp only [joinSurrogates_map, String.ofList_toList]

/-- `json.dumps(value, indent=2, ensure_ascii=False)`. -/
def rawIndented : Layout := indented quotedRaw scanString_quotedRaw

end Raw
end ReplicateOnTag.Json
