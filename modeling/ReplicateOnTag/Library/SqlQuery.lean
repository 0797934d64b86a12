import ReplicateOnTag.Library.Decimal
import ReplicateOnTag.Library.SqlPredicate
import Mathlib.Data.List.Dedup
import Mathlib.Data.List.Sort

/-! A fragment of SQL queries: one table, a conjunction of conditions, an order
with an offset and a limit, and unions of such selections. A text outside the
fragment does not parse. Its tokens extend those of the conditions. -/
namespace ReplicateOnTag.SqlQuery
open Sql

section Tokens

inductive Mark where
  | dot
  | star
  | less
  | atMost
  | greater
  | atLeast
  deriving DecidableEq

inductive Token where
  | plain (token : Sql.Token)
  | mark (mark : Mark)
  | quoted (name : List Char)
  | number (digits : List Char)
  deriving DecidableEq

inductive Mode where
  | plain (mode : Sql.Mode)
  | inQuoted (read : List Char)
  | quotedSeen (read : List Char)
  | inNumber (read : List Char)
  | comparing (less : Bool)
  deriving DecidableEq

/-- The tokens so far stand last one first. -/
structure Lexer where
  mode : Mode
  tokens : List Token
  deriving DecidableEq

def between : Mode := .plain .between

/-- What begins a token that no condition has. -/
def openOwn (tokens : List Token) (c : Char) : Option Lexer :=
  if c = '"' then some ⟨.inQuoted [], tokens⟩
  else if c.isDigit then some ⟨.inNumber [c], tokens⟩
  else if c = '.' then some ⟨between, .mark .dot :: tokens⟩
  else if c = '*' then some ⟨between, .mark .star :: tokens⟩
  else if c = '<' then some ⟨.comparing true, tokens⟩
  else if c = '>' then some ⟨.comparing false, tokens⟩
  else none

def plainly (tokens : List Token) (next : Sql.Lexer) : Lexer :=
  ⟨.plain next.mode, next.tokens.map .plain ++ tokens⟩

def openToken (tokens : List Token) (c : Char) : Option Lexer :=
  (Sql.openToken [] c).map (plainly tokens) <|> openOwn tokens c

/-- The token that a mode stands for, if it can end here. -/
def ended : Mode → Option (List Token)
  | .plain .between => some []
  | .plain (.inWord read) => some [.plain (classify read)]
  | .plain (.inLiteral _) => none
  | .plain (.quoteSeen read) => some [.plain (.literal read)]
  | .inQuoted _ => none
  | .quotedSeen read => some [.quoted read]
  | .inNumber read => some [.number read]
  | .comparing less => some [.mark (if less then .less else .greater)]

/-- A name in double quotes may hold a doubled one. A number may not run into a
word, and `<>` is not read. -/
def step (lexer : Lexer) (c : Char) : Option Lexer :=
  match lexer.mode with
  | .plain mode =>
      (Sql.step ⟨mode, []⟩ c).map (plainly lexer.tokens) <|>
        (ended (.plain mode)).bind fun last => openOwn (last ++ lexer.tokens) c
  | .inQuoted read =>
      if c = '"' then some ⟨.quotedSeen read, lexer.tokens⟩
        else some ⟨.inQuoted (read ++ [c]), lexer.tokens⟩
  | .quotedSeen read =>
      if c = '"' then some ⟨.inQuoted (read ++ ['"']), lexer.tokens⟩
        else openToken (.quoted read :: lexer.tokens) c
  | .inNumber read =>
      if c.isDigit then some ⟨.inNumber (read ++ [c]), lexer.tokens⟩
      else if isWordStart c then none
      else openToken (.number read :: lexer.tokens) c
  | .comparing less =>
      if c = '=' then some ⟨between, .mark (if less then .atMost else .atLeast) :: lexer.tokens⟩
      else if c = '>' then none
      else openToken (.mark (if less then .less else .greater) :: lexer.tokens) c

def finish (lexer : Lexer) : Option (List Token) :=
  (ended lexer.mode).map fun last => (last ++ lexer.tokens).reverse

def run (lexer : Lexer) (text : List Char) : Option Lexer := text.foldlM step lexer

def lex (text : List Char) : Option (List Token) := (run ⟨between, []⟩ text).bind finish

end Tokens

section Syntax

/-- One test of a selection. A moment stands as the text of its literal. -/
inductive Condition where
  | plain (p : Predicate)
  | above (column moment : List Char)
  | notPast (column moment : List Char)
  | isNull (column : List Char)
  | oneOf (column : List Char) (values : List (List Char))
  | flagIs (column : List Char) (default value : Bool)
  deriving DecidableEq

/-- What a column of the result is, without its alias. -/
inductive Item where
  | column (name : List Char)
  | cast (name type : List Char)
  | castNull (type : List Char)
  deriving DecidableEq

inductive Output where
  | columns (distinct : Bool) (items : List Item)
  | count
  | countDistinct (column : List Char)
  deriving DecidableEq

structure Core where
  output : Output
  source : List (List Char)
  conditions : List Condition
  deriving DecidableEq

structure Order where
  column : List Char
  descending : Bool
  deriving DecidableEq

/-- A union takes no order, and keeps no row twice. -/
inductive Query where
  | select (core : Core) (order : Option Order) (offset : Nat) (limit : Option Nat)
  | union (parts : List Core)
  deriving DecidableEq

/-- Words are compared in any letter case. -/
def isWord (word : String) : Token → Bool
  | .plain (.name name) => name.map Char.toUpper = word.toList
  | _ => false

def skipWord (word : String) : List Token → Option (List Token)
  | token :: rest => if isWord word token then some rest else none
  | [] => none

def skip (token : Token) : List Token → Option (List Token)
  | first :: rest => if first = token then some rest else none
  | [] => none

def parseName : List Token → Option (List Char × List Token)
  | .plain (.name name) :: rest => some (name, rest)
  | _ => none

def leftParen : Token := .plain (.symbol .leftParen)

def rightParen : Token := .plain (.symbol .rightParen)

def comma : Token := .plain (.symbol .comma)

def parseCast (tokens : List Token) : Option (Item × List Token) :=
  (skip leftParen tokens).bind fun rest => (parseName rest).bind fun (name, rest) =>
    (skipWord "AS" rest).bind fun rest => (parseName rest).bind fun (type, rest) =>
      (skip rightParen rest).map fun rest =>
        (if isWord "NULL" (.plain (.name name)) then .castNull type else .cast name type, rest)

def skipAlias (tokens : List Token) : Option (List Token) :=
  match skipWord "AS" tokens with
  | some rest => (parseName rest).map Prod.snd
  | none => some tokens

def parseItem (tokens : List Token) : Option (Item × List Token) :=
  (match skipWord "CAST" tokens with
    | some rest => parseCast rest
    | none => (parseName tokens).map fun (name, rest) =>
        (.column name, rest)).bind fun (item, rest) =>
      (skipAlias rest).map fun rest => (item, rest)

def parseItems : Nat → List Token → Option (List Item × List Token)
  | 0, _ => none
  | fuel + 1, tokens => (parseItem tokens).bind fun (item, rest) =>
      match skip comma rest with
      | some rest => (parseItems fuel rest).map fun (items, rest) => (item :: items, rest)
      | none => some ([item], rest)

def parseCounted (tokens : List Token) : Option (Output × List Token) :=
  match skip (.mark .star) tokens with
  | some rest => some (.count, rest)
  | none => (skipWord "DISTINCT" tokens).bind fun rest =>
      (parseName rest).map fun (column, rest) => (.countDistinct column, rest)

def parseCount (tokens : List Token) : Option (Output × List Token) :=
  (skip leftParen tokens).bind fun rest => (parseCounted rest).bind fun (output, rest) =>
    (skip rightParen rest).map fun rest => (output, rest)

def parseOutput (tokens : List Token) : Option (Output × List Token) :=
  match skipWord "COUNT" tokens, skipWord "DISTINCT" tokens with
  | some rest, _ => parseCount rest
  | none, some rest => (parseItems rest.length rest).map fun (items, rest) =>
      (.columns true items, rest)
  | none, none => (parseItems tokens.length tokens).map fun (items, rest) =>
      (.columns false items, rest)

def parseSource : List Token → Option (List (List Char) × List Token)
  | .quoted name :: .mark .dot :: rest =>
      (parseSource rest).map fun (names, rest) => (name :: names, rest)
  | .quoted name :: rest => some ([name], rest)
  | _ => none

/-- The tokens up to the first that no condition has. -/
def plainFront : List Token → List Sql.Token
  | .plain token :: rest => token :: plainFront rest
  | _ => []

def parsePlain (tokens : List Token) : Option (Condition × List Token) :=
  let front := plainFront tokens
  (parseLevel (3 * front.length + 1) .primary front).map fun (p, rest) =>
    (.plain p, rest.map .plain ++ tokens.drop front.length)

def parseMoment : List Token → Option (List Char × List Token)
  | word :: .plain (.literal moment) :: rest =>
      if isWord "TIMESTAMP" word then some (moment, rest) else none
  | _ => none

def parseValues : List Token → Option (List (List Char) × List Token)
  | .plain (.literal value) :: .plain (.symbol .comma) :: rest =>
      (parseValues rest).map fun (values, rest) => (value :: values, rest)
  | .plain (.literal value) :: .plain (.symbol .rightParen) :: rest => some ([value], rest)
  | _ => none

def parseFlag : List Token → Option (Bool × List Token)
  | .plain (.keyword .true_) :: rest => some (true, rest)
  | .plain (.keyword .false_) :: rest => some (false, rest)
  | _ => none

/-- `COALESCE(column, default) = value` after its first word. -/
def parseCoalesce (tokens : List Token) : Option (Condition × List Token) :=
  (skip leftParen tokens).bind fun rest => (parseName rest).bind fun (column, rest) =>
    (skip comma rest).bind fun rest => (parseFlag rest).bind fun (default, rest) =>
      (skip rightParen rest).bind fun rest =>
          (skip (.plain (.symbol .equals)) rest).bind fun rest =>
        (parseFlag rest).map fun (value, rest) => (.flagIs column default value, rest)

def parseCondition (tokens : List Token) : Option (Condition × List Token) :=
  match tokens with
  | .plain (.name column) :: .mark .greater :: rest =>
      (parseMoment rest).map fun (moment, rest) => (.above column moment, rest)
  | .plain (.name column) :: .mark .atMost :: rest =>
      (parseMoment rest).map fun (moment, rest) => (.notPast column moment, rest)
  | .plain (.name column) :: word :: rest =>
      if isWord "COALESCE" (.plain (.name column)) then parseCoalesce (word :: rest)
      else if isWord "IS" word then (skipWord "NULL" rest).map fun rest => (.isNull column, rest)
      else if isWord "IN" word then
        (skip leftParen rest).bind fun rest =>
          (parseValues rest).map fun (values, rest) => (.oneOf column values, rest)
      else parsePlain tokens
  | _ => parsePlain tokens

/-- Conditions joined by `AND`; an `OR` stands in parentheses only. -/
def parseConditions : Nat → List Token → Option (List Condition × List Token)
  | 0, _ => none
  | fuel + 1, tokens => (parseCondition tokens).bind fun (condition, rest) =>
      match skip (.plain (.keyword .and_)) rest with
      | some rest => (parseConditions fuel rest).map fun (conditions, rest) =>
          (condition :: conditions, rest)
      | none => some ([condition], rest)

def parseCore (tokens : List Token) : Option (Core × List Token) :=
  (skipWord "SELECT" tokens).bind fun rest => (parseOutput rest).bind fun (output, rest) =>
    (skipWord "FROM" rest).bind fun rest => (parseSource rest).bind fun (source, rest) =>
      match skipWord "WHERE" rest with
      | some rest => (parseConditions rest.length rest).map fun (conditions, rest) =>
          (⟨output, source, conditions⟩, rest)
      | none => some (⟨output, source, []⟩, rest)

def parseDirection (tokens : List Token) : Bool × List Token :=
  match skipWord "DESC" tokens, skipWord "ASC" tokens with
  | some rest, _ => (true, rest)
  | none, some rest => (false, rest)
  | none, none => (false, tokens)

def parseOrder (tokens : List Token) : Option (Option Order × List Token) :=
  match skipWord "ORDER" tokens with
  | none => some (none, tokens)
  | some rest => (skipWord "BY" rest).bind fun rest => (parseName rest).map fun (column, rest) =>
      let (descending, rest) := parseDirection rest
      (some ⟨column, descending⟩, rest)

/-- A word with a number after it, or neither. -/
def parseAmount (word : String) (tokens : List Token) : Option (Option Nat × List Token) :=
  match skipWord word tokens with
  | none => some (none, tokens)
  | some (.number digits :: rest) => some (some (Nat.ofDigitChars 10 digits 0), rest)
  | some _ => none

def parseUnion : Nat → List Token → Option (List Core)
  | 0, _ => none
  | fuel + 1, tokens => (parseCore tokens).bind fun (core, rest) =>
      if rest = [] then some [core]
      else (skipWord "UNION" rest).bind fun rest => (parseUnion fuel rest).map (core :: ·)

def parseTokens (tokens : List Token) : Option Query :=
  (parseCore tokens).bind fun (core, rest) =>
    match skipWord "UNION" rest with
    | some rest => (parseUnion rest.length rest).map fun parts => .union (core :: parts)
    | none => (parseOrder rest).bind fun (order, rest) =>
          (parseAmount "OFFSET" rest).bind fun (offset, rest) =>
        (parseAmount "LIMIT" rest).bind fun (limit, rest) =>
          if rest = [] then some (.select core order (offset.getD 0) limit) else none

def parse (text : List Char) : Option Query := (lex text).bind parseTokens

end Syntax

section Meaning

/-- What an engine reads of a record, and how it answers. Each reading is `none`
where the column does not exist, and a value in it may be null. -/
structure Engine (ρ υ τ : Type) where
  row : ρ → Sql.Row
  moment : ρ → List Char → Option (Option τ)
  flag : ρ → List Char → Option (Option Bool)
  cell : ρ → List Char → Option υ
  cast : List Char → υ → Option υ
  null : List Char → Option υ
  count : Nat → υ
  /-- What a `timestamp` literal stands for. -/
  readMoment : List Char → Option τ

variable {ρ υ τ : Type} [LinearOrder τ] [DecidableEq υ]

def compareWith (found : Option α) (test : α → Bool) : Truth :=
  match found with
  | none => .null
  | some value => .ofBool (test value)

/-- `none` is a query that fails. -/
def Condition.eval (engine : Engine ρ υ τ) (record : ρ) : Condition → Option Truth
  | .plain p => Sql.eval (engine.row record) p
  | .above column moment =>
      (engine.moment record column).bind fun found =>
        (engine.readMoment moment).map fun bound => compareWith found fun at_ => bound < at_
  | .notPast column moment =>
      (engine.moment record column).bind fun found =>
        (engine.readMoment moment).map fun bound => compareWith found fun at_ => at_ ≤ bound
  | .isNull column => ((engine.row record).text column).map fun found => .ofBool found.isNone
  | .oneOf column values => ((engine.row record).text column).map fun found =>
      compareWith found (· ∈ values)
  | .flagIs column default value => (engine.flag record column).map fun found =>
      .ofBool (found.getD default = value)

def evalAll (engine : Engine ρ υ τ) (record : ρ) : List Condition → Option Truth
  | [] => some .true_
  | condition :: rest =>
      (condition.eval engine record).bind fun truth => (evalAll engine record rest).map truth.and_

/-- The records on which the conditions come out true. -/
def selected (engine : Engine ρ υ τ) (conditions : List Condition) : List ρ → Option (List ρ)
  | [] => some []
  | record :: rest =>
      (evalAll engine record conditions).bind fun truth =>
        (selected engine conditions rest).map fun kept =>
          if truth = .true_ then record :: kept else kept

/-- Nulls come last in either direction. -/
def precedes (descending : Bool) : Option τ → Option τ → Bool
  | some first, some second => if descending then second ≤ first else first ≤ second
  | _, none => true
  | none, some _ => false

def arrange (engine : Engine ρ υ τ) (order : Option Order) (records : List ρ) : Option (List ρ) :=
  match order with
  | none => some records
  | some order =>
      if records.all fun record => (engine.moment record order.column).isSome then
        some (records.insertionSort fun first second =>
          precedes order.descending (engine.moment first order.column).join
            (engine.moment second order.column).join)
      else none

def Item.value (engine : Engine ρ υ τ) (record : ρ) : Item → Option υ
  | .column name => engine.cell record name
  | .cast name type => (engine.cell record name).bind (engine.cast type)
  | .castNull type => engine.null type

def cells (engine : Engine ρ υ τ) (items : List Item) (record : ρ) : Option (List υ) :=
  items.mapM (Item.value engine record)

def Output.rows (engine : Engine ρ υ τ) (records : List ρ) : Output → Option (List (List υ))
  | .columns distinct items =>
      (records.mapM (cells engine items)).map fun rows => if distinct then rows.dedup else rows
  | .count => some [[engine.count records.length]]
  | .countDistinct column =>
      (records.mapM fun record => (engine.row record).text column).map fun found =>
        [[engine.count (found.filterMap fun value => value).dedup.length]]

def page (offset : Nat) (limit : Option Nat) (rows : List α) : List α :=
  match limit with
  | none => rows.drop offset
  | some limit => (rows.drop offset).take limit

/-- The tables by their paths. -/
abbrev Catalog (ρ : Type) := List (List Char) → Option (List ρ)

def Core.records (engine : Engine ρ υ τ) (catalog : Catalog ρ) (core : Core) : Option (List ρ) :=
  (catalog core.source).bind (selected engine core.conditions)

def Core.rows (engine : Engine ρ υ τ) (catalog : Catalog ρ)
    (core : Core) : Option (List (List υ)) :=
  (core.records engine catalog).bind fun records => core.output.rows engine records

def Query.answer (engine : Engine ρ υ τ) (catalog : Catalog ρ) : Query → Option (List (List υ))
  | .select core order offset limit =>
      (core.records engine catalog).bind fun records =>
        (arrange engine order records).bind fun ordered =>
        (core.output.rows engine ordered).map (page offset limit)
  | .union parts =>
      (parts.mapM (Core.rows engine catalog)).map fun rows => rows.flatten.dedup

/-- A text is answered with the rows, read from the tables in any order of theirs. -/
def Answers (engine : Engine ρ υ τ) (catalog : Catalog ρ) (text : List Char)
    (rows : List (List υ)) : Prop :=
  ∃ query arranged, parse text = some query ∧
    (∀ path, Option.Rel List.Perm (arranged path) (catalog path)) ∧
    query.answer engine arranged = some rows

end Meaning

section Scanning

/-- A text leads from one mode to another and leaves the tokens on the way. -/
def Scans (start : Mode) (text : List Char) (tokens : List Token) (last : Mode) : Prop :=
  run ⟨start, []⟩ text = some ⟨last, tokens.reverse⟩

instance : Decidable (Scans start text tokens last) :=
  inferInstanceAs (Decidable (run ⟨start, []⟩ text = some ⟨last, tokens.reverse⟩))

def Lexer.onto (before : List Token) (lexer : Lexer) : Lexer := ⟨lexer.mode, lexer.tokens ++ before⟩

theorem openOwn_onto (tokens before : List Token) (c : Char) :
    openOwn (tokens ++ before) c = (openOwn tokens c).map (Lexer.onto before) := by
  unfold openOwn
  repeat' split
  all_goals rfl

theorem plainly_onto (tokens before : List Token) (next : Sql.Lexer) :
    plainly (tokens ++ before) next = (plainly tokens next).onto before := by
  simp [plainly, Lexer.onto]

theorem openToken_onto (tokens before : List Token) (c : Char) :
    openToken (tokens ++ before) c = (openToken tokens c).map (Lexer.onto before) := by
  rw [openToken, openToken, openOwn_onto]
  cases Sql.openToken [] c with
  | none => rfl
  | some next => exact congrArg some (plainly_onto tokens before next)

/-- A step looks at the mode only. -/
theorem step_onto (lexer : Lexer) (before : List Token) (c : Char) :
    step (lexer.onto before) c = (step lexer c).map (Lexer.onto before) := by
  obtain ⟨mode, tokens⟩ := lexer
  cases mode with
  | plain mode =>
    simp only [step, Lexer.onto]
    cases Sql.step ⟨mode, []⟩ c with
    | some next => exact congrArg some (plainly_onto tokens before next)
    | none =>
      cases ended (.plain mode) with
      | none => rfl
      | some last =>
        have opens := openOwn_onto (last ++ tokens) before c
        rw [List.append_assoc] at opens
        exact opens
  | inQuoted read =>
    simp only [step, Lexer.onto]
    split <;> rfl
  | quotedSeen read =>
    simp only [step, Lexer.onto]
    split
    · rfl
    · exact openToken_onto (.quoted read :: tokens) before c
  | inNumber read =>
    simp only [step, Lexer.onto]
    split
    · rfl
    · split
      · rfl
      · exact openToken_onto (.number read :: tokens) before c
  | comparing less =>
    simp only [step, Lexer.onto]
    split
    · rfl
    · split
      · rfl
      · exact openToken_onto (_ :: tokens) before c

theorem run_onto (text : List Char) (lexer : Lexer) (before : List Token) :
    run (lexer.onto before) text = (run lexer text).map (Lexer.onto before) := by
  induction text generalizing lexer with
  | nil => rfl
  | cons c text ih =>
    simp only [run, List.foldlM_cons] at ih ⊢
    rw [step_onto]
    cases step lexer c with
    | none => rfl
    | some next => exact ih next

theorem run_append (lexer : Lexer) (front back : List Char) :
    run lexer (front ++ back) = (run lexer front).bind fun next => run next back :=
  List.foldlM_append

theorem run_cons (lexer : Lexer) (c : Char) (rest : List Char) :
    run lexer (c :: rest) = (step lexer c).bind fun next => run next rest :=
  List.foldlM_cons

theorem Scans.append (first : Scans start front tokens middle)
    (second : Scans middle back more last) :
    Scans start (front ++ back) (tokens ++ more) last := by
  have later := run_onto back ⟨middle, []⟩ tokens.reverse
  rw [second, Option.map_some] at later
  rw [Scans, run_append, first, Option.bind_some, List.reverse_append]
  exact later

/-- Every character of a literal is its own, the doubled quote too. -/
theorem scans_literal (value done : List Char) :
    Scans (.plain (.inLiteral done)) (doubled value) [] (.plain (.inLiteral (done ++ value))) := by
  induction value generalizing done with
  | nil => rw [List.append_nil]; rfl
  | cons c value ih =>
    have later := ih (done ++ [c])
    rw [List.append_assoc] at later
    rw [doubled, List.flatMap_cons, ← doubled]
    have own : Scans (.plain (.inLiteral done)) (if c = '\'' then ['\'', '\''] else [c]) []
        (.plain (.inLiteral (done ++ [c]))) := by
      by_cases mark : c = '\''
      · subst mark
        rfl
      · rw [if_neg mark]
        simp [Scans, run, step, Sql.step, mark, plainly]
    exact own.append later

theorem scans_quoted {name : List Char} (plain : '"' ∉ name) (done : List Char) :
    Scans (.inQuoted done) name [] (.inQuoted (done ++ name)) := by
  induction name generalizing done with
  | nil => rw [List.append_nil]; rfl
  | cons c name ih =>
    rw [List.mem_cons, not_or] at plain
    have later := ih plain.2 (done ++ [c])
    have kept : step ⟨.inQuoted done, []⟩ c = some ⟨.inQuoted (done ++ [c]), []⟩ :=
      if_neg (Ne.symm plain.1)
    rw [List.append_assoc] at later
    rw [Scans, run_cons, kept]
    exact later

theorem scans_digits {digits : List Char}
    (all : ∀ c ∈ digits, c.isDigit = true) (done : List Char) :
    Scans (.inNumber done) digits [] (.inNumber (done ++ digits)) := by
  induction digits generalizing done with
  | nil => rw [List.append_nil]; rfl
  | cons c digits ih =>
    have later := ih (fun d member => all d (List.mem_cons_of_mem c member)) (done ++ [c])
    have kept : step ⟨.inNumber done, []⟩ c = some ⟨.inNumber (done ++ [c]), []⟩ :=
      if_pos (all c List.mem_cons_self)
    rw [List.append_assoc] at later
    rw [Scans, run_cons, kept]
    exact later

/-- What ends any token. -/
def breaks : List Char := [' ', '\n', '.', ',', ')']

theorem ended_reverse (ends : ended mode = some final) : final.reverse = final := by
  cases mode with
  | plain mode => cases mode <;> cases ends <;> rfl
  | _ => cases ends <;> rfl

theorem step_ended (ends : ended mode = some final) {c : Char} (break_ : c ∈ breaks) :
    step ⟨mode, []⟩ c = step ⟨between, final⟩ c := by
  simp only [breaks, List.mem_cons, List.not_mem_nil, or_false] at break_
  cases mode with
  | plain mode => cases mode <;> cases ends
      <;> rcases break_ with rfl | rfl | rfl | rfl | rfl <;> rfl
  | _ => cases ends <;> rcases break_ with rfl | rfl | rfl | rfl | rfl <;> rfl

theorem Scans.ends (ends : ended mode = some final) {c : Char} (break_ : c ∈ breaks)
    (later : Scans between (c :: rest) tokens last) :
    Scans mode (c :: rest) (final ++ tokens) last := by
  have onto := run_onto (c :: rest) ⟨between, []⟩ final
  rw [later, Option.map_some] at onto
  rw [Scans, run_cons, step_ended ends break_, ← run_cons, List.reverse_append, ended_reverse ends]
  exact onto

theorem lex_eq_some : lex text = some tokens ↔
    ∃ seen mode final, Scans between text seen mode ∧ ended mode = some final ∧
      tokens = seen ++ final := by
  constructor
  · intro read
    obtain ⟨lexer, ran, done⟩ := Option.bind_eq_some_iff.mp read
    obtain ⟨final, ends, same⟩ := Option.map_eq_some_iff.mp done
    refine ⟨lexer.tokens.reverse, lexer.mode, final, ?_, ends, ?_⟩
    · rw [Scans, List.reverse_reverse]
      exact ran
    · rw [← same, List.reverse_append, ended_reverse ends]
  · rintro ⟨seen, mode, final, scans, ends, rfl⟩
    rw [lex, scans, Option.bind_some, finish, ends, Option.map_some, List.reverse_append,
      List.reverse_reverse, ended_reverse ends]

/-- The text is empty or begins with a break. -/
def Breaks (text : List Char) : Prop := ∀ c ∈ text.head?, c ∈ breaks

-- the first character is looked at, where another instance would go through all of them
instance : Decidable (Breaks text) :=
  match text with
  | [] => isTrue nofun
  | c :: _ => decidable_of_iff (c ∈ breaks) ⟨fun member _ same => Option.some.inj same ▸ member,
      fun each => each c rfl⟩

theorem breaks_append (first : Breaks front) (second : Breaks back) : Breaks (front ++ back) := by
  cases front with
  | nil => exact second
  | cons c front => exact first

theorem breaks_front (starts : front.head?.any (fun c => decide (c ∈ breaks)) = true) :
    Breaks (front ++ back) := by
  cases front with
  | nil => cases starts
  | cons c front =>
    rintro _ ⟨⟩
    exact of_decide_eq_true starts

/-- What begins with a break may follow any text. -/
theorem lex_append (first : lex front = some tokens) (starts : Breaks back)
    (second : lex back = some more) :
    lex (front ++ back) = some (tokens ++ more) := by
  cases back with
  | nil =>
    cases second
    rw [List.append_nil, first]
    exact congrArg some (List.append_nil tokens).symm
  | cons c back =>
    obtain ⟨seen, mode, final, scans, ends, rfl⟩ := lex_eq_some.mp first
    obtain ⟨later, last, rest, scansLater, endsLater, rfl⟩ := lex_eq_some.mp second
    refine lex_eq_some.mpr ⟨_, last, rest,
      scans.append (scansLater.ends ends (starts c rfl)), endsLater, ?_⟩
    simp only [List.append_assoc]

/-- Any text may follow what leaves no token open. -/
theorem lex_after (first : Scans between front tokens between) (second : lex back = some more) :
    lex (front ++ back) = some (tokens ++ more) := by
  obtain ⟨later, last, rest, scans, ends, rfl⟩ := lex_eq_some.mp second
  refine lex_eq_some.mpr ⟨_, last, rest, first.append scans, ends, ?_⟩
  rw [List.append_assoc]

theorem lex_quote (value : List Char) : lex (quote value) = some [.plain (.literal value)] := by
  have inside := scans_literal value []
  have opens : Scans between ['\''] [] (.plain (.inLiteral [])) := rfl
  have closes : Scans (.plain (.inLiteral value)) ['\''] [] (.plain (.quoteSeen value)) := rfl
  exact lex_eq_some.mpr ⟨[], _, _, (opens.append inside).append closes, rfl, rfl⟩

def quoteName (name : List Char) : List Char := '"' :: name ++ ['"']

theorem lex_quoteName {name : List Char}
    (plain : '"' ∉ name) : lex (quoteName name) = some [.quoted name] := by
  have inside := scans_quoted plain []
  have opens : Scans between ['"'] [] (.inQuoted []) := rfl
  have closes : Scans (.inQuoted name) ['"'] [] (.quotedSeen name) := rfl
  exact lex_eq_some.mpr ⟨[], _, _, (opens.append inside).append closes, rfl, rfl⟩

theorem step_digit (digit : c.isDigit = true) : step ⟨between, []⟩ c =
    some ⟨.inNumber [c], []⟩ := by
  have each : ∀ d : Fin 10, step ⟨between, []⟩ (Char.ofNat (48 + d)) =
      some ⟨.inNumber [Char.ofNat (48 + d)], []⟩ := by
    decide
  obtain ⟨low, high⟩ := (Decimal.isDigit_iff c).mp digit
  have own := each ⟨c.toNat - 48, by omega⟩
  have code : 48 + (c.toNat - 48) = c.toNat := by omega
  rwa [code, Char.ofNat_toNat] at own

theorem lex_digits (n : Nat) : lex (Nat.toDigits 10 n) = some [.number (Nat.toDigits 10 n)] := by
  have all : ∀ c ∈ Nat.toDigits 10 n, c.isDigit = true :=
    fun c => Nat.isDigit_of_mem_toDigits (by decide) (by decide)
  obtain ⟨c, rest, digits⟩ := List.exists_cons_of_ne_nil (Nat.toDigits_ne_nil (n := n) (b := 10))
  rw [digits] at all ⊢
  have opens : Scans between [c] [] (.inNumber [c]) := by
    rw [Scans, run_cons, step_digit (all c List.mem_cons_self)]
    rfl
  have later := scans_digits (fun d member => all d (List.mem_cons_of_mem c member)) [c]
  exact lex_eq_some.mpr ⟨[], _, _, opens.append later, rfl, rfl⟩

end Scanning

section Plain

def ontoPlain (before : List Sql.Token) (lexer : Sql.Lexer) : Sql.Lexer :=
  ⟨lexer.mode, lexer.tokens ++ before⟩

theorem plainOpen_onto (tokens before : List Sql.Token) (c : Char) :
    Sql.openToken (tokens ++ before) c = (Sql.openToken tokens c).map (ontoPlain before) := by
  unfold Sql.openToken
  repeat' split
  all_goals rfl

theorem plainStep_onto (lexer : Sql.Lexer) (before : List Sql.Token) (c : Char) :
    Sql.step (ontoPlain before lexer) c = (Sql.step lexer c).map (ontoPlain before) := by
  obtain ⟨mode, tokens⟩ := lexer
  cases mode with
  | between => exact plainOpen_onto tokens before c
  | inWord read =>
    simp only [Sql.step, ontoPlain]
    split
    · rfl
    · split
      · rfl
      · exact plainOpen_onto (classify read :: tokens) before c
  | inLiteral read =>
    simp only [Sql.step, ontoPlain]
    split <;> rfl
  | quoteSeen read =>
    simp only [Sql.step, ontoPlain]
    split
    · rfl
    · exact plainOpen_onto (.literal read :: tokens) before c

/-- Where a condition is read, it is read as it would be on its own. -/
theorem step_plain {lexer next : Sql.Lexer} {c : Char} (stepped : Sql.step lexer c = some next)
    (before : List Token) :
    step (plainly before lexer) c = some (plainly before next) := by
  have onto := plainStep_onto ⟨lexer.mode, []⟩ lexer.tokens c
  rw [show ontoPlain lexer.tokens ⟨lexer.mode, []⟩ = lexer from rfl, stepped] at onto
  obtain ⟨own, alone, rfl⟩ := Option.map_eq_some_iff.mp onto.symm
  simp only [plainly, step, alone, Option.map_some, ontoPlain, List.map_append, List.append_assoc]
  rfl

theorem scans_plain {lexer next : Sql.Lexer} {text : List Char}
    (ran : Sql.run lexer text = some next)
    (before : List Token) : run (plainly before lexer) text = some (plainly before next) := by
  induction text generalizing lexer with
  | nil =>
    cases ran
    rfl
  | cons c text ih =>
    rw [Sql.run_cons] at ran
    obtain ⟨middle, stepped, later⟩ := Option.bind_eq_some_iff.mp ran
    rw [run_cons, step_plain stepped, Option.bind_some, ih later]

theorem ended_plain (lexer : Sql.Lexer) :
    (ended (.plain lexer.mode)).map (fun last => (last ++ lexer.tokens.map Token.plain).reverse) =
      (Sql.finish lexer).map (List.map Token.plain) := by
  obtain ⟨mode, tokens⟩ := lexer
  cases mode <;> simp [ended, Sql.finish]

/-- A condition at the end of a text is read as its own tokens. -/
theorem lex_plain (scans : Scans between front tokens between) (read : Sql.lex text = some own) :
    lex (front ++ text) = some (tokens ++ own.map .plain) := by
  obtain ⟨lexer, ran, done⟩ := Option.bind_eq_some_iff.mp read
  have later : run ⟨between, tokens.reverse⟩ text =
    some (plainly tokens.reverse lexer) := scans_plain ran _
  have ends := ended_plain lexer
  rw [done, Option.map_some] at ends
  obtain ⟨last, closes, same⟩ := Option.map_eq_some_iff.mp ends
  rw [lex, run_append, scans, Option.bind_some, later, Option.bind_some, finish]
  simp only [plainly, closes, Option.map_some, ← same]
  simp

theorem plainFront_append (own : List Sql.Token) (rest : List Token) :
    plainFront (own.map .plain ++ rest) = own ++ plainFront rest := by
  induction own with
  | nil => rfl
  | cons token own ih => rw [List.map_cons, List.cons_append, plainFront, ih, List.cons_append]

theorem plainFront_drop (tokens : List Token) :
    (plainFront tokens).map .plain ++ tokens.drop (plainFront tokens).length = tokens := by
  induction tokens with
  | nil => rfl
  | cons token tokens ih =>
    cases token with
    | plain token => exact congrArg (Token.plain token :: ·) ih
    | mark mark => rfl
    | quoted name => rfl
    | number digits => rfl

/-- A condition is read up to where it ends. -/
theorem parsePlain_front (written : Grammar .primary own p) {rest : List Token}
    (stops : (plainFront rest).head? ≠ some (.keyword .escape)) :
    parsePlain (own.map .plain ++ rest) = some (.plain p, rest) := by
  have enough : 3 * own.length + Level.rank .primary ≤ 3 * (own ++ plainFront rest).length + 1 := by
    rw [List.length_append, Level.rank]
    omega
  have read := parseLevel_of_grammar written (plainFront rest) stops _ enough
  have dropped : (own.map Token.plain ++ rest).drop (own ++ plainFront rest).length =
      rest.drop (plainFront rest).length := by
    rw [List.length_append, ← List.length_map (f := Token.plain), List.drop_append,
      Nat.add_sub_cancel_left, List.drop_of_length_le (Nat.le_add_right _ _), List.nil_append]
  rw [parsePlain, plainFront_append]
  simp only [read, Option.map_some, dropped, plainFront_drop]

end Plain

section Answering
variable {ρ υ τ : Type} [LinearOrder τ] {engine : Engine ρ υ τ}

/-- The conditions can be evaluated on the record, and come out true exactly when `holds` does. -/
def DecidesAll (engine : Engine ρ υ τ) (record : ρ) (conditions : List Condition)
    (holds : Prop) : Prop :=
  ∃ truth, evalAll engine record conditions = some truth ∧ (truth = .true_ ↔ holds)

theorem decidesAll_nil (always : holds) (record : ρ) : DecidesAll engine record [] holds :=
  ⟨.true_, rfl, by simp [always]⟩

theorem decidesAll_single (evaluates : condition.eval engine record = some truth)
    (means : truth = .true_ ↔ holds) :
    DecidesAll engine record [condition] holds := by
  refine ⟨truth.and_ .true_, ?_, ?_⟩
  · rw [evalAll, evaluates, Option.bind_some, evalAll, Option.map_some]
  · rw [Truth.and_eq_true_iff, means, and_iff_left rfl]

theorem evalAll_append (record : ρ) (first second : List Condition) :
    evalAll engine record (first ++ second) =
      (evalAll engine record first).bind fun truth =>
        (evalAll engine record second).map truth.and_ := by
  induction first with
  | nil =>
    have same : Truth.and_ .true_ = id := by
      funext truth
      cases truth <;> rfl
    rw [List.nil_append, evalAll, Option.bind_some, same, Option.map_id, id]
  | cons condition first ih =>
    have assoc : ∀ a b c, Truth.and_ a (Truth.and_ b c) = Truth.and_ (Truth.and_ a b) c := by
      intro a b c
      cases a <;> cases b <;> cases c <;> rfl
    rw [List.cons_append, evalAll, ih, evalAll]
    cases condition.eval engine record with
    | none => rfl
    | some truth =>
      cases evalAll engine record first with
      | none => rfl
      | some others => simp only [Option.bind_some, Option.map_some, Option.map_map,
          Function.comp_def, assoc]

theorem DecidesAll.append (first : DecidesAll engine record front holds)
    (second : DecidesAll engine record back more) :
    DecidesAll engine record (front ++ back) (holds ∧ more) := by
  obtain ⟨truth, evaluates, means⟩ := first
  obtain ⟨others, evaluatesBack, meansBack⟩ := second
  refine ⟨truth.and_ others, ?_, ?_⟩
  · rw [evalAll_append, evaluates, Option.bind_some, evaluatesBack, Option.map_some]
  · rw [Truth.and_eq_true_iff, means, meansBack]

theorem selected_eq (holds : ρ → Bool) (table : List ρ)
    (each : ∀ record ∈ table, DecidesAll engine record conditions (holds record)) :
    selected engine conditions table = some (table.filter holds) := by
  induction table with
  | nil => rfl
  | cons record table ih =>
    obtain ⟨truth, evaluates, means⟩ := each record List.mem_cons_self
    rw [selected, evaluates, Option.bind_some, ih fun other member =>
      each other (List.mem_cons_of_mem record member), Option.map_some, List.filter_cons]
    simp only [means]

theorem mapM_eq_map {f : α → Option β} {g : α → β} (items : List α)
    (each : ∀ item ∈ items, f item = some (g item)) :
    items.mapM f = some (items.map g) := by
  induction items with
  | nil => rfl
  | cons item items ih =>
    rw [List.mapM_cons, each item List.mem_cons_self, ih fun other member =>
      each other (List.mem_cons_of_mem _ member)]
    rfl

theorem mapM_pair {f : α → Option β} (one : f first = some a) (two : f second = some b) :
    [first, second].mapM f = some [a, b] := by
  rw [List.mapM_cons, one, List.mapM_cons, two]
  rfl

theorem insertionSort_congr {first second : α → α → Prop} [DecidableRel first] [DecidableRel second]
    (same : ∀ a b, first a b ↔ second a b) (items : List α) :
    items.insertionSort first = items.insertionSort second := by
  have equal : first = second := funext fun a => funext fun b => propext (same a b)
  subst equal
  congr

theorem arrange_eq {order : Order} {key : ρ → τ} (records : List ρ)
    (dated : ∀ record, engine.moment record order.column = some (some (key record))) :
    arrange engine (some order) records =
      some (records.insertionSort fun first second =>
        precedes order.descending (some (key first)) (some (key second))) := by
  have all : records.all (fun record => (engine.moment record order.column).isSome) = true :=
    List.all_eq_true.mpr fun record _ => by rw [dated]; rfl
  rw [arrange, if_pos all]
  simp only [dated, Option.join_some]

/-- An answer comes from one order of the table. -/
theorem Answers.arranged [DecidableEq υ] {catalog : Catalog ρ}
    (answers : Answers engine catalog text rows)
    (parsed : parse text = some query) (stored : catalog path = some table) :
    ∃ arranged order, arranged path = some order ∧ order.Perm table ∧
      query.answer engine arranged = some rows := by
  obtain ⟨own, arranged, parsed', perm, answer⟩ := answers
  obtain rfl : own = query := Option.some.inj (parsed'.symm.trans parsed)
  have related := perm path
  rw [stored] at related
  cases same : arranged path with
  | none =>
    rw [same] at related
    cases related
  | some order =>
    rw [same] at related
    cases related with
    | some perm => exact ⟨arranged, order, same, perm, answer⟩

/-- What one row has the other has too, with the same values. -/
structure Extends (small large : Sql.Row) : Prop where
  text : ∀ name value, small.text name = some value → large.text name = some value
  map : ∀ name value, small.map name = some value → large.map name = some value

theorem Extends.operand (extends_ : Extends small large) {operand : Operand}
    (found : operand.value small = some value) : operand.value large = some value := by
  cases operand with
  | column name => exact extends_.text name value found
  | elementAt source key =>
    obtain ⟨map, present, rfl⟩ := Option.map_eq_some_iff.mp found
    rw [Operand.value, extends_.map source map present, Option.map_some]

/-- A condition is decided on a row with more columns as on the row without them. -/
theorem Extends.eval (extends_ : Extends small large) (evaluates : Sql.eval small p = some truth) :
    Sql.eval large p = some truth := by
  induction p generalizing truth with
  | constant value => exact evaluates
  | equals operand value =>
    obtain ⟨found, present, rfl⟩ := Option.map_eq_some_iff.mp evaluates
    rw [Sql.eval, extends_.operand present, Option.map_some]
  | like operand pattern escape =>
    obtain ⟨found, present, rest⟩ := Option.bind_eq_some_iff.mp evaluates
    rw [Sql.eval, extends_.operand present]
    exact rest
  | and_ p q ihP ihQ =>
    obtain ⟨first, evaluatesP, rest⟩ := Option.bind_eq_some_iff.mp evaluates
    obtain ⟨second, evaluatesQ, rfl⟩ := Option.map_eq_some_iff.mp rest
    rw [Sql.eval, ihP evaluatesP, Option.bind_some, ihQ evaluatesQ, Option.map_some]
  | or_ p q ihP ihQ =>
    obtain ⟨first, evaluatesP, rest⟩ := Option.bind_eq_some_iff.mp evaluates
    obtain ⟨second, evaluatesQ, rfl⟩ := Option.map_eq_some_iff.mp rest
    rw [Sql.eval, ihP evaluatesP, Option.bind_some, ihQ evaluatesQ, Option.map_some]

end Answering
end ReplicateOnTag.SqlQuery
