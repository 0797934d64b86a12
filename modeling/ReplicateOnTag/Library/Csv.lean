import Mathlib.Data.List.Forall2

/-! A permissive reader of comma-separated text, character by character, and what
it reads from well quoted rows. -/
namespace ReplicateOnTag.Csv

abbrev Field := List Char

section Machine

inductive Mode where
  | startRecord
  | startField
  | inField
  | inQuotedField
  | quoteInQuotedField
  | eatCrnl
  deriving DecidableEq

structure Reader where
  mode : Mode
  fields : List Field
  field : Field
  deriving DecidableEq

namespace Reader

def reset : Reader := ⟨.startRecord, [], []⟩

def saveField (reader : Reader) (mode : Mode) : Reader :=
  ⟨mode, reader.fields ++ [reader.field], []⟩

/-- A field above the limit is an error. -/
def addChar (limit : Nat) (reader : Reader) (c : Char) (mode : Mode) : Option Reader :=
  if reader.field.length < limit then some ⟨mode, reader.fields, reader.field ++ [c]⟩ else none

end Reader

def isNewline (c : Char) : Bool := c = '\n' || c = '\r'

/-- A character at the start of a field, in it, or after its closing quote. -/
def startField (limit : Nat) (reader : Reader) (c : Char) : Option Reader :=
  if isNewline c then some (reader.saveField .eatCrnl)
  else if c = '"' then some { reader with mode := .inQuotedField }
  else if c = ',' then some (reader.saveField .startField)
  else reader.addChar limit c .inField

def inField (limit : Nat) (reader : Reader) (c : Char) : Option Reader :=
  if isNewline c then some (reader.saveField .eatCrnl)
  else if c = ',' then some (reader.saveField .startField)
  else reader.addChar limit c .inField

/-- One character, or the end of a line where there is none. -/
def step (limit : Nat) (reader : Reader) (event : Option Char) : Option Reader :=
  match reader.mode, event with
  | .startRecord, none => some reader
  | .startRecord, some c =>
      if isNewline c then some { reader with mode := .eatCrnl } else startField limit reader c
  | .startField, none | .inField, none | .quoteInQuotedField, none =>
      some (reader.saveField .startRecord)
  | .startField, some c => startField limit reader c
  | .inField, some c => inField limit reader c
  | .inQuotedField, none => some reader
  | .inQuotedField, some c =>
      if c = '"' then some { reader with mode := .quoteInQuotedField }
      else reader.addChar limit c .inQuotedField
  | .quoteInQuotedField, some c =>
      if c = '"' then reader.addChar limit c .inQuotedField else inField limit reader c
  | .eatCrnl, none => some { reader with mode := .startRecord }
  | .eatCrnl, some c => if isNewline c then some reader else none

/-- The record that the end of the input leaves open. -/
def flush (reader : Reader) : List (List Field) :=
  if reader.field ≠ [] ∨ reader.mode = .inQuotedField then [reader.fields ++ [reader.field]] else []

/-- The records of a text; a blank line is a record without fields. -/
def read (limit : Nat) : Reader → List (Option Char) → Option (List (List Field))
  | reader, [] => some (flush reader)
  | reader, event :: rest =>
      (step limit reader event).bind fun next =>
        if event = none ∧ next.mode = .startRecord then
          (read limit .reset rest).map (next.fields :: ·)
        else read limit next rest

/-- Characters, each newline followed by the end of its line. -/
def events (text : List Char) : List (Option Char) :=
  text.flatMap fun c => if c = '\n' then [some c, none] else [some c]

def lastLineEnd (text : List Char) : List (Option Char) :=
  if text.getLast?.any (· ≠ '\n') then [none] else []

def reader (limit : Nat) (text : List Char) : Option (List (List Field)) :=
  read limit .reset (events text ++ lastLineEnd text)

/-- The records before the first error, and whether there is none. -/
def scan (limit : Nat) : Reader → List (Option Char) → List (List Field) × Bool
  | reader, [] => (flush reader, true)
  | reader, event :: rest =>
      match step limit reader event with
      | none => ([], false)
      | some next =>
          if event = none ∧ next.mode = .startRecord then
            (next.fields :: (scan limit .reset rest).1, (scan limit .reset rest).2)
          else scan limit next rest

def records (limit : Nat) (text : List Char) : List (List Field) × Bool :=
  scan limit .reset (events text ++ lastLineEnd text)

theorem read_eq_scan (limit : Nat) (reader : Reader) (seen : List (Option Char)) :
    read limit reader seen = if (scan limit reader seen).2
      then some (scan limit reader seen).1 else none := by
  induction seen generalizing reader with
  | nil => rfl
  | cons event rest ih =>
    rw [read, scan]
    cases step limit reader event with
    | none => rfl
    | some next =>
      simp only [Option.bind_some]
      split
      · rw [ih]
        split <;> rfl
      · exact ih next

/-- The whole text is readable when there is no error in it. -/
theorem reader_eq_some_iff : reader limit text = some rows ↔ records limit text = (rows, true) := by
  rw [reader, read_eq_scan, ← records]
  obtain ⟨seen, whole⟩ := records limit text
  cases whole <;> simp

section Steps
variable {limit : Nat} {fields : List Field} {field : Field}

@[simp] theorem step_startRecord (c : Char) : step limit ⟨.startRecord, fields, field⟩ (some c) =
    if isNewline c then some ⟨.eatCrnl, fields, field⟩
      else startField limit ⟨.startRecord, fields, field⟩ c := rfl

@[simp] theorem step_startField (c : Char) :
    step limit ⟨.startField, fields, field⟩ (some c) =
      startField limit ⟨.startField, fields, field⟩ c := rfl

@[simp] theorem step_inField (c : Char) :
    step limit ⟨.inField, fields, field⟩ (some c) = inField limit ⟨.inField, fields, field⟩ c := rfl

@[simp] theorem step_inQuotedField
    (c : Char) : step limit ⟨.inQuotedField, fields, field⟩ (some c) =
    if c = '"' then some ⟨.quoteInQuotedField, fields, field⟩
    else Reader.addChar limit ⟨.inQuotedField, fields, field⟩ c .inQuotedField := rfl

@[simp] theorem step_quoteInQuotedField (c : Char) :
    step limit ⟨.quoteInQuotedField, fields, field⟩ (some c) =
      if c = '"' then Reader.addChar limit ⟨.quoteInQuotedField, fields, field⟩ c .inQuotedField
      else inField limit ⟨.quoteInQuotedField, fields, field⟩ c := rfl

@[simp] theorem step_eatCrnl (c : Char) : step limit ⟨.eatCrnl, fields, field⟩ (some c) =
    if isNewline c then some ⟨.eatCrnl, fields, field⟩ else none := rfl

end Steps
end Machine

section Writing

def special : List Char := [',', '"', '\n', '\r']

def doubled (field : Field) : List Char :=
  field.flatMap fun c => if c = '"' then ['"', '"'] else [c]

/-- A field with nothing to quote may stand bare; any field may be quoted. -/
inductive WritesField : Field → List Char → Prop where
  | bare (plain : ∀ c ∈ field, c ∉ special) : WritesField field field
  | quoted : WritesField field ('"' :: doubled field ++ ['"'])

/-- Fields between commas; two at least, so that no row is a blank line. -/
inductive WritesRow : List Field → List Char → Prop where
  | pair (left : WritesField first front) (right : WritesField second back) :
      WritesRow [first, second] (front ++ ',' :: back)
  | cons (left : WritesField first front) (right : WritesRow rest back) :
      WritesRow (first :: rest) (front ++ ',' :: back)

inductive LineEnd : List Char → Prop where
  | newline : LineEnd ['\n']
  | carriage : LineEnd ['\r', '\n']

/-- Rows and blank lines; the last row may lack its line end. -/
inductive WritesRows : List (List Field) → List Char → Prop where
  | nil : WritesRows [] []
  | blank (ending : LineEnd line) (more : WritesRows rows text) : WritesRows rows (line ++ text)
  | row (written : WritesRow row front) (ending : LineEnd line) (more : WritesRows rows text) :
      WritesRows (row :: rows) (front ++ line ++ text)
  | last (written : WritesRow row front) : WritesRows [row] front

end Writing
section Reading
variable {limit : Nat}

theorem events_append (first second : List Char) : events (first ++ second) =
    events first ++ events second :=
  List.flatMap_append

/-- Reading some events leads from one reader to another, whatever follows. -/
def Passes (limit : Nat) (before : Reader) (seen : List (Option Char)) (after : Reader) : Prop :=
  ∀ rest, read limit before (seen ++ rest) = read limit after rest

theorem Passes.append (first : Passes limit a seen b) (second : Passes limit b more c) :
    Passes limit a (seen ++ more) c := by
  intro rest
  rw [List.append_assoc, first, second]

theorem passes_char (moves : step limit before (some c) = some after) :
    Passes limit before [some c] after := by
  intro rest
  simp [read, moves]

theorem passes_lineEnd (moves : step limit before none = some after)
    (inside : after.mode ≠ .startRecord) :
    Passes limit before [none] after := by
  intro rest
  simp [read, moves, inside]

section Fields
variable {fields : List Field} {field done : Field}

/-- Inside quotes every character is kept, line ends included. -/
theorem quoted_char (c : Char) (room : done.length < limit) :
    Passes limit ⟨.inQuotedField, fields, done⟩ (events (if c = '"' then ['"', '"'] else [c]))
      ⟨.inQuotedField, fields, done ++ [c]⟩ := by
  by_cases quote : c = '"'
  · subst quote
    have opens : step limit ⟨.inQuotedField, fields, done⟩ (some '"') =
        some ⟨.quoteInQuotedField, fields, done⟩ := rfl
    have closes : step limit ⟨.quoteInQuotedField, fields, done⟩ (some '"') =
        some ⟨.inQuotedField, fields, done ++ ['"']⟩ := by simp [Reader.addChar, room]
    exact (passes_char opens).append (passes_char closes)
  · have kept : step limit ⟨.inQuotedField, fields, done⟩ (some c) =
        some ⟨.inQuotedField, fields, done ++ [c]⟩ := by simp [Reader.addChar, room, quote]
    rw [if_neg quote]
    by_cases newline : c = '\n'
    · have stays : step limit ⟨.inQuotedField, fields, done ++ [c]⟩ none =
          some ⟨.inQuotedField, fields, done ++ [c]⟩ := rfl
      have seen : events [c] = [some c] ++ [none] := by simp [events, newline]
      rw [seen]
      exact (passes_char kept).append (passes_lineEnd stays (by simp))
    · have seen : events [c] = [some c] := by simp [events, newline]
      rw [seen]
      exact passes_char kept

theorem quoted_chars (field : Field) (room : done.length + field.length ≤ limit) :
    Passes limit ⟨.inQuotedField, fields, done⟩ (events (doubled field))
      ⟨.inQuotedField, fields, done ++ field⟩ := by
  induction field generalizing done with
  | nil =>
    intro rest
    rw [List.append_nil]
    rfl
  | cons c field ih =>
    rw [List.length_cons] at room
    have first : Passes limit ⟨.inQuotedField, fields, done⟩
        (events (if c = '"' then ['"', '"'] else [c]))
        ⟨.inQuotedField, fields, done ++ [c]⟩ := quoted_char c (by omega)
    have later : Passes limit ⟨.inQuotedField, fields, done ++ [c]⟩ (events (doubled field))
        ⟨.inQuotedField, fields, (done ++ [c]) ++ field⟩ :=
      ih (by rw [List.length_append, List.length_singleton]; omega)
    rw [doubled, List.flatMap_cons, events_append, ← doubled]
    rw [List.append_assoc] at later
    exact first.append later

theorem plain_char {c : Char} (plain : c ∉ special) : isNewline c = false ∧ c ≠ ',' ∧
    c ≠ '"' ∧ c ≠ '\n' := by
  simp only [special, List.mem_cons, List.not_mem_nil, or_false, not_or] at plain
  simp [isNewline, plain]

theorem bare_chars (field : Field) (plain : ∀ c ∈ field, c ∉ special)
    (room : done.length + field.length ≤ limit) :
    Passes limit ⟨.inField, fields, done⟩ (events field) ⟨.inField, fields, done ++ field⟩ := by
  induction field generalizing done with
  | nil =>
    intro rest
    rw [List.append_nil]
    rfl
  | cons c field ih =>
    rw [List.length_cons] at room
    obtain ⟨newline, comma, _, feed⟩ := plain_char (plain c List.mem_cons_self)
    have short : done.length < limit := by omega
    have kept : step limit ⟨.inField, fields, done⟩ (some c) =
        some ⟨.inField, fields, done ++ [c]⟩ := by
      simp [inField, Reader.addChar, newline, comma, short]
    have later := ih (fun d member => plain d (List.mem_cons_of_mem _ member))
      (show (done ++ [c]).length + field.length ≤ limit by
        rw [List.length_append, List.length_singleton]; omega)
    rw [List.append_assoc] at later
    have seen : events (c :: field) = [some c] ++ events field := by simp [events, feed]
    rw [seen]
    exact (passes_char kept).append later

/-- A field has ended when the next character may be a comma or a line end. -/
def Ends (mode : Mode) : Prop := mode = .startField ∨ mode = .inField ∨ mode = .quoteInQuotedField

theorem field_passes (written : WritesField field text) (fits : field.length ≤ limit) :
    ∃ mode, Ends mode ∧ Passes limit ⟨.startField, fields, []⟩ (events text)
      ⟨mode, fields, field⟩ := by
  cases written with
  | bare plain =>
    cases field with
    | nil => exact ⟨.startField, .inl rfl, fun _ => rfl⟩
    | cons c rest =>
      refine ⟨.inField, .inr (.inl rfl), ?_⟩
      rw [List.length_cons] at fits
      obtain ⟨newline, comma, quote, feed⟩ := plain_char (plain c List.mem_cons_self)
      have short : 0 < limit := by omega
      have begins : step limit ⟨.startField, fields, []⟩ (some c) =
          some ⟨.inField, fields, [c]⟩ := by
        simp [startField, Reader.addChar, newline, comma, quote, short]
      have seen : events (c :: rest) = [some c] ++ events rest := by simp [events, feed]
      rw [seen]
      refine (passes_char begins).append ?_
      have room : ([c] : Field).length + rest.length ≤ limit := by
        rw [List.length_singleton]
        omega
      exact bare_chars rest (fun d member => plain d (List.mem_cons_of_mem _ member)) room
  | quoted =>
    refine ⟨.quoteInQuotedField, .inr (.inr rfl), ?_⟩
    have opens : step limit ⟨.startField, fields, []⟩ (some '"') =
      some ⟨.inQuotedField, fields, []⟩ := rfl
    have closes : step limit ⟨.inQuotedField, fields, field⟩ (some '"') =
        some ⟨.quoteInQuotedField, fields, field⟩ := rfl
    have inside : Passes limit ⟨.inQuotedField, fields, []⟩ (events (doubled field))
        ⟨.inQuotedField, fields, field⟩ := quoted_chars field (by simpa using fits)
    have seen : events ('"' :: doubled field ++ ['"']) =
        [some '"'] ++ events (doubled field) ++ [some '"'] := by simp [events]
    rw [seen]
    exact ((passes_char opens).append inside).append (passes_char closes)

theorem step_comma (ends : Ends mode) :
    step limit ⟨mode, fields, field⟩ (some ',') = some ⟨.startField, fields ++ [field], []⟩ := by
  rcases ends with rfl | rfl | rfl <;> rfl

theorem step_newline (ends : Ends mode) {c : Char} (newline : isNewline c = true) :
    step limit ⟨mode, fields, field⟩ (some c) = some ⟨.eatCrnl, fields ++ [field], []⟩ := by
  have other : c ≠ '"' := by
    rintro rfl
    cases newline
  rcases ends with rfl | rfl | rfl <;> simp [startField, inField, newline, other, Reader.saveField]

theorem step_lineEnd (ends : Ends mode) :
    step limit ⟨mode, fields, field⟩ none = some ⟨.startRecord, fields ++ [field], []⟩ := by
  rcases ends with rfl | rfl | rfl <;> rfl

end Fields

section Rows
variable {fields : List Field} {field : Field}

theorem read_eat (fields : List Field) (rest : List (Option Char)) :
    read limit ⟨.eatCrnl, fields, []⟩ (none :: rest) =
      (read limit .reset rest).map (fields :: ·) := rfl

/-- A line end after a field completes the record. -/
theorem read_completes (ends : Ends mode) (ending : LineEnd line) (rest : List (Option Char)) :
    read limit ⟨mode, fields, field⟩ (events line ++ rest) =
      (read limit .reset rest).map ((fields ++ [field]) :: ·) := by
  have eats : ∀ c, isNewline c = true → Passes limit ⟨.eatCrnl, fields ++ [field], []⟩ [some c]
      ⟨.eatCrnl, fields ++ [field], []⟩ := by
    intro c newline
    exact passes_char (by simp [newline])
  cases ending with
  | newline =>
    have first : Passes limit ⟨mode, fields, field⟩ [some '\n'] ⟨.eatCrnl, fields ++ [field], []⟩ :=
      passes_char (step_newline ends rfl)
    exact (first (none :: rest)).trans (read_eat _ rest)
  | carriage =>
    have first : Passes limit ⟨mode, fields, field⟩ [some '\r'] ⟨.eatCrnl, fields ++ [field], []⟩ :=
      passes_char (step_newline ends rfl)
    exact ((first.append (eats '\n' rfl)) (none :: rest)).trans (read_eat _ rest)

/-- A line end at the start of a line is a blank record. -/
theorem read_blank (ending : LineEnd line) (rest : List (Option Char)) :
    read limit .reset (events line ++ rest) = (read limit .reset rest).map ([] :: ·) := by
  cases ending <;> rfl

theorem row_passes (written : WritesRow row text) (fits : ∀ field ∈ row, field.length ≤ limit) :
    ∃ mode done field, Ends mode ∧ done ++ [field] = fields ++ row ∧
      Passes limit ⟨.startField, fields, []⟩ (events text) ⟨mode, done, field⟩ := by
  have split : ∀ (front back : List Char), events (front ++ ',' :: back) =
      events front ++ [some ','] ++ events back := by
    intro front back
    simp [events]
  induction written generalizing fields with
  | @pair first front second back left right =>
    obtain ⟨mode, ends, before⟩ := field_passes left (fits first (by simp))
    obtain ⟨last, closed, after⟩ := field_passes right (fits second (by simp))
    refine ⟨last, fields ++ [first], second, closed, List.append_assoc .., ?_⟩
    rw [split]
    exact (before.append (passes_char (step_comma ends))).append after
  | @cons first front rest back left right ih =>
    obtain ⟨mode, ends, before⟩ := field_passes left (fits first (by simp))
    obtain ⟨last, done, field, closed, whole, after⟩ :=
      @ih (fields ++ [first]) fun field member => fits field (List.mem_cons_of_mem _ member)
    refine ⟨last, done, field, closed, whole.trans (List.append_assoc ..), ?_⟩
    rw [split]
    exact (before.append (passes_char (step_comma ends))).append after

theorem writesField_head (written : WritesField field text) :
    text = [] ∨ ∃ c rest, text = c :: rest ∧ isNewline c = false := by
  cases written with
  | bare plain =>
    cases field with
    | nil => exact .inl rfl
    | cons c rest => exact .inr ⟨c, rest, rfl, (plain_char (plain c List.mem_cons_self)).1⟩
  | quoted => exact .inr ⟨'"', _, rfl, rfl⟩

/-- A row begins with no newline, and ends with none. -/
theorem writesRow_head (written : WritesRow row text) : ∃ c rest, text = c :: rest ∧
    isNewline c = false := by
  have joined : ∀ {field front back}, WritesField field front →
      ∃ c rest, front ++ ',' :: back = c :: rest ∧ isNewline c = false := by
    intro field front back left
    rcases writesField_head left with rfl | ⟨c, rest, rfl, plain⟩
    · exact ⟨',', back, rfl, rfl⟩
    · exact ⟨c, rest ++ ',' :: back, rfl, plain⟩
  cases written with
  | pair left _ => exact joined left
  | cons left _ => exact joined left

theorem writesField_last (written : WritesField field text) :
    text.getLast?.any (· = '\n') = false := by
  cases written with
  | bare plain =>
    cases last : field.getLast? with
    | none => rfl
    | some c =>
      have member := List.mem_of_getLast? last
      have feed := (plain_char (plain c member)).2.2.2
      simp [feed]
  | quoted =>
    rw [List.getLast?_concat]
    rfl

theorem writesRow_last (written : WritesRow row text) : lastLineEnd text = [none] := by
  have joined : ∀ {front back : List Char}, back.getLast?.any (· = '\n') = false →
      (front ++ ',' :: back).getLast?.any (· = '\n') = false := by
    intro front back last
    rw [List.getLast?_append_cons]
    cases back with
    | nil => rfl
    | cons c rest => rwa [List.getLast?_cons_cons]
  have unfinished : text.getLast?.any (· = '\n') = false := by
    induction written with
    | pair _ right => exact joined (writesField_last right)
    | cons _ _ ih => exact joined ih
  obtain ⟨c, rest, rfl, _⟩ := writesRow_head written
  have some := List.getLast?_eq_some_getLast (List.cons_ne_nil c rest)
  rw [some, Option.any_some] at unfinished
  rw [lastLineEnd, some, Option.any_some]
  simpa using unfinished

/-- Starting a record and starting a field differ only on a line end. -/
theorem reset_row (written : WritesRow row text) (rest : List (Option Char)) :
    read limit .reset (events text ++ rest) =
      read limit ⟨.startField, [], []⟩ (events text ++ rest) := by
  obtain ⟨c, more, rfl, plain⟩ := writesRow_head written
  have same : step limit .reset (some c) = step limit ⟨.startField, [], []⟩ (some c) := by
    simp only [step_startRecord, step_startField, Reader.reset, startField, plain,
      Bool.false_eq_true, if_false]
    rfl
  have seen : events (c :: more) = [some c] ++ events more := by
    have feed : c ≠ '\n' := by
      rintro rfl
      cases plain
    simp [events, feed]
  rw [seen]
  simp only [List.cons_append, List.nil_append, read, same]

theorem lastLineEnd_append (front : List Char) (ending : LineEnd line) (text : List Char) :
    lastLineEnd (front ++ (line ++ text)) = lastLineEnd text := by
  cases text with
  | nil =>
    rw [List.append_nil]
    cases ending with
    | newline => simp [lastLineEnd]
    | carriage => simp [lastLineEnd]
  | cons c rest => rw [lastLineEnd, ← List.append_assoc, List.getLast?_append_cons, lastLineEnd]

/-- From well quoted rows the reader gets the rows back, apart from blank lines. -/
theorem reader_rows (written : WritesRows rows text)
    (fits : ∀ row ∈ rows, ∀ field ∈ row, field.length ≤ limit) :
    ∃ records, reader limit text = some records ∧ records.filter (· ≠ []) = rows := by
  induction written with
  | nil => exact ⟨[], rfl, rfl⟩
  | @blank line rows text ending more ih =>
    obtain ⟨records, read_, same⟩ := ih fits
    refine ⟨[] :: records, ?_, by simpa using same⟩
    have ended : lastLineEnd (line ++ text) = lastLineEnd text := lastLineEnd_append [] ending text
    rw [reader, ended, events_append, List.append_assoc, read_blank ending]
    rw [reader] at read_
    rw [read_, Option.map_some]
  | @row row front line rows text written ending more ih =>
    obtain ⟨records, read_, same⟩ :=
      ih fun other member => fits other (List.mem_cons_of_mem _ member)
    obtain ⟨mode, done, field, ends, whole, passes⟩ :=
      @row_passes limit [] row front written (fits row List.mem_cons_self)
    rw [List.nil_append] at whole
    refine ⟨row :: records, ?_, ?_⟩
    · rw [reader, List.append_assoc, lastLineEnd_append front ending, events_append, events_append,
        List.append_assoc, List.append_assoc, reset_row written, passes,
          read_completes ends ending, whole]
      rw [reader] at read_
      rw [read_, Option.map_some]
    · have some : row ≠ [] := by
        rw [← whole]
        simp
      rw [List.filter_cons, if_pos (by simpa using some), same]
  | @last row front written =>
    obtain ⟨mode, done, field, ends, whole, passes⟩ :=
      @row_passes limit [] row front written (fits row List.mem_cons_self)
    rw [List.nil_append] at whole
    refine ⟨[row], ?_, ?_⟩
    · rw [reader, writesRow_last written, reset_row written, passes, read]
      simp only [step_lineEnd ends, Option.bind_some, and_self, if_true, whole]
      rfl
    · have some : row ≠ [] := by
        rw [← whole]
        simp
      simpa using some

end Rows

section Limit
variable {fields : List Field} {field done : Field}

theorem quoted_overflows (field : Field) (room : done.length ≤ limit)
    (long : limit < done.length + field.length)
    (rest : List (Option Char)) :
    read limit ⟨.inQuotedField, fields, done⟩ (events (doubled field) ++ rest) = none := by
  induction field generalizing done with
  | nil =>
    rw [List.length_nil] at long
    omega
  | cons c field ih =>
    rw [List.length_cons] at long
    rw [doubled, List.flatMap_cons, events_append, ← doubled, List.append_assoc]
    by_cases full : done.length < limit
    · have first : Passes limit ⟨.inQuotedField, fields, done⟩
          (events (if c = '"' then ['"', '"'] else [c]))
          ⟨.inQuotedField, fields, done ++ [c]⟩ := quoted_char c full
      rw [first]
      refine ih ?_ ?_ <;> rw [List.length_append, List.length_singleton] <;> omega
    · by_cases quote : c = '"'
      · simp [quote, events, read, Reader.addChar, full]
      · by_cases newline : c = '\n'
        · simp [newline, events, read, Reader.addChar, full]
        · simp [quote, newline, events, read, Reader.addChar, full]

theorem bare_overflows (field : Field) (plain : ∀ c ∈ field, c ∉ special)
    (room : done.length ≤ limit)
    (long : limit < done.length + field.length) (rest : List (Option Char)) :
    read limit ⟨.inField, fields, done⟩ (events field ++ rest) = none := by
  induction field generalizing done with
  | nil =>
    rw [List.length_nil] at long
    omega
  | cons c field ih =>
    rw [List.length_cons] at long
    obtain ⟨newline, comma, _, feed⟩ := plain_char (plain c List.mem_cons_self)
    have seen : events (c :: field) ++ rest = some c ::
      (events field ++ rest) := by simp [events, feed]
    rw [seen, read]
    by_cases full : done.length < limit
    · simp only [step_inField, inField, newline, comma, Bool.false_eq_true, if_false,
        Reader.addChar, full, if_true, Option.bind_some, reduceCtorEq, false_and]
      refine ih (fun d member => plain d (List.mem_cons_of_mem _ member)) ?_ ?_ <;>
        rw [List.length_append, List.length_singleton] <;> omega
    · simp [inField, newline, comma, Reader.addChar, full]

theorem field_overflows (written : WritesField field text) (long : limit < field.length)
    (rest : List (Option Char)) :
    read limit ⟨.startField, fields, []⟩ (events text ++ rest) = none := by
  cases written with
  | bare plain =>
    cases field with
    | nil => cases long
    | cons c field =>
      obtain ⟨newline, comma, quote, feed⟩ := plain_char (plain c List.mem_cons_self)
      have seen : events (c :: field) ++ rest = some c ::
        (events field ++ rest) := by simp [events, feed]
      rw [List.length_cons] at long
      rw [seen, read]
      by_cases room : 0 < limit
      · simp only [step_startField, startField, newline, comma, quote, Bool.false_eq_true, if_false,
          Reader.addChar, List.length_nil, room, if_true, Option.bind_some, reduceCtorEq, false_and,
          List.nil_append]
        refine bare_overflows field (fun d member =>
          plain d (List.mem_cons_of_mem _ member)) ?_ ?_ _ <;>
          rw [List.length_singleton] <;> omega
      · simp [startField, newline, comma, quote, Reader.addChar, room]
  | quoted =>
    have seen : events ('"' :: doubled field ++ ['"']) ++ rest =
        some '"' :: (events (doubled field) ++ some '"' :: rest) := by simp [events]
    rw [seen]
    have opens : Passes limit ⟨.startField, fields, []⟩ [some '"'] ⟨.inQuotedField, fields, []⟩ :=
      passes_char rfl
    exact (opens _).trans (quoted_overflows field (Nat.zero_le _) (by simpa using long) _)

theorem row_overflows (written : WritesRow row text) (long : ∃ field ∈ row, limit < field.length)
    (rest : List (Option Char)) :
    read limit ⟨.startField, fields, []⟩ (events text ++ rest) = none := by
  have split : ∀ (front back : List Char), events (front ++ ',' :: back) ++ rest =
      events front ++ ([some ','] ++ (events back ++ rest)) := by
    intro front back
    simp [events]
  induction written generalizing fields with
  | @pair first front second back left right =>
    rw [split]
    by_cases fits : first.length ≤ limit
    · obtain ⟨mode, ends, before⟩ := @field_passes limit fields first front left fits
      rw [before, passes_char (step_comma ends)]
      obtain ⟨field, member, long⟩ := long
      have own : field = second := by
        rcases List.mem_cons.mp member with rfl | other
        · omega
        · exact List.mem_singleton.mp other
      exact field_overflows right (own ▸ long) rest
    · exact field_overflows left (by omega) _
  | @cons first front row back left right ih =>
    rw [split]
    by_cases fits : first.length ≤ limit
    · obtain ⟨mode, ends, before⟩ := @field_passes limit fields first front left fits
      rw [before, passes_char (step_comma ends)]
      obtain ⟨field, member, long⟩ := long
      refine ih ⟨field, ?_, long⟩
      rcases List.mem_cons.mp member with rfl | other
      · omega
      · exact other
    · exact field_overflows left (by omega) _

/-- A field above the limit makes the whole text unreadable. -/
theorem reader_overflows (written : WritesRows rows text)
    (long : ∃ row ∈ rows, ∃ field ∈ row, limit < field.length) : reader limit text = none := by
  induction written with
  | nil =>
    obtain ⟨row, member, _⟩ := long
    cases member
  | @blank line rows text ending more ih =>
    have ended : lastLineEnd (line ++ text) = lastLineEnd text := lastLineEnd_append [] ending text
    have later := ih long
    rw [reader] at later
    rw [reader, ended, events_append, List.append_assoc, read_blank ending, later, Option.map_none]
  | @row row front line rows text written ending more ih =>
    rw [reader, List.append_assoc, lastLineEnd_append front ending, events_append, events_append,
      List.append_assoc, List.append_assoc, reset_row written]
    by_cases fits : ∀ field ∈ row, field.length ≤ limit
    · obtain ⟨mode, done, field, ends, _, passes⟩ := @row_passes limit [] row front written fits
      have later : reader limit text = none := by
        obtain ⟨other, member, field, inside, long⟩ := long
        rcases List.mem_cons.mp member with rfl | rest
        · exact absurd (fits field inside) (by omega)
        · exact ih ⟨other, rest, field, inside, long⟩
      rw [reader] at later
      rw [passes, read_completes ends ending, later, Option.map_none]
    · obtain ⟨field, inside, long⟩ := not_forall₂.mp fits
      exact row_overflows written ⟨field, inside, Nat.lt_of_not_le long⟩ _
  | @last row front written =>
    obtain ⟨other, member, long⟩ := long
    rw [reader, reset_row written]
    exact row_overflows written (List.mem_singleton.mp member ▸ long) _

end Limit
end Reading

section Quoting

/-- A writer that quotes every field. -/
def writeField (field : Field) : List Char := '"' :: doubled field ++ ['"']

def writeRows (rows : List (List Field)) : List Char :=
  rows.flatMap fun row => [','].intercalate (row.map writeField) ++ ['\n']

theorem writesRow_quoted (row : List Field) (two : 2 ≤ row.length) :
    WritesRow row ([','].intercalate (row.map writeField)) := by
  induction row with
  | nil => simp at two
  | cons first rest ih =>
    cases rest with
    | nil => simp at two
    | cons second rest =>
      rw [List.map_cons, List.map_cons, List.intercalate_cons_cons, List.append_assoc,
        List.singleton_append]
      cases rest with
      | nil =>
        rw [List.map_nil, List.intercalate_singleton]
        exact .pair .quoted .quoted
      | cons third rest => exact .cons .quoted (ih (by simp))

/-- Any rows of at least two fields can be written. -/
theorem writesRows_writeRows (rows : List (List Field)) (two : ∀ row ∈ rows, 2 ≤ row.length) :
    WritesRows rows (writeRows rows) := by
  induction rows with
  | nil => exact .nil
  | cons row rest ih =>
    have later := ih fun other member => two other (List.mem_cons_of_mem _ member)
    exact .row (writesRow_quoted row (two row List.mem_cons_self)) .newline later

end Quoting
end ReplicateOnTag.Csv
