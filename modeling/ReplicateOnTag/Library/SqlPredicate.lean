import Mathlib.Data.List.Basic
import Mathlib.Data.List.Infix
import Mathlib.Data.List.Forall2

/-! A fragment of SQL conditions: its tokens, its grammar, and the three-valued
meaning of a condition on a row. A text outside the fragment does not parse. -/
namespace ReplicateOnTag.Sql

section Tokens

inductive Symbol where
  | leftParen
  | rightParen
  | comma
  | equals
  deriving DecidableEq

inductive Keyword where
  | and_
  | or_
  | true_
  | false_
  | like
  | escape
  deriving DecidableEq

inductive Token where
  | symbol (symbol : Symbol)
  | keyword (keyword : Keyword)
  | name (name : List Char)
  | literal (value : List Char)
  deriving DecidableEq

def Symbol.char : Symbol → Char
  | .leftParen => '('
  | .rightParen => ')'
  | .comma => ','
  | .equals => '='

def symbolOf (c : Char) : Option Symbol :=
  [Symbol.leftParen, .rightParen, .comma, .equals].find? fun symbol => symbol.char = c

def isSpace (c : Char) : Bool := c ∈ [' ', '\t', '\n', '\r']

def isWordStart (c : Char) : Bool := c.isAlpha || c = '_'

def isWordChar (c : Char) : Bool := c.isAlphanum || c = '_'

/-- Keywords are read in any letter case. -/
def classify (word : List Char) : Token :=
  let upper := word.map Char.toUpper
  if upper = "AND".toList then .keyword .and_
  else if upper = "OR".toList then .keyword .or_
  else if upper = "TRUE".toList then .keyword .true_
  else if upper = "FALSE".toList then .keyword .false_
  else if upper = "LIKE".toList then .keyword .like
  else if upper = "ESCAPE".toList then .keyword .escape
  else .name word

inductive Mode where
  | between
  | inWord (read : List Char)
  | inLiteral (read : List Char)
  | quoteSeen (read : List Char)
  deriving DecidableEq

/-- The tokens so far stand last one first. -/
structure Lexer where
  mode : Mode
  tokens : List Token
  deriving DecidableEq

def openToken (tokens : List Token) (c : Char) : Option Lexer :=
  if isSpace c then some ⟨.between, tokens⟩
  else if c = '\'' then some ⟨.inLiteral [], tokens⟩
  else
    match symbolOf c with
    | some symbol => some ⟨.between, .symbol symbol :: tokens⟩
    | none => if isWordStart c then some ⟨.inWord [c], tokens⟩ else none

/-- A doubled quote stands for one inside a literal; a backslash is itself. A
word may not run into a quote: that would be a literal of another kind. -/
def step (lexer : Lexer) (c : Char) : Option Lexer :=
  match lexer.mode with
  | .between => openToken lexer.tokens c
  | .inWord read =>
      if isWordChar c then some ⟨.inWord (read ++ [c]), lexer.tokens⟩
      else if c = '\'' then none
      else openToken (classify read :: lexer.tokens) c
  | .inLiteral read =>
      if c = '\'' then some ⟨.quoteSeen read, lexer.tokens⟩
      else some ⟨.inLiteral (read ++ [c]), lexer.tokens⟩
  | .quoteSeen read =>
      if c = '\'' then some ⟨.inLiteral (read ++ ['\'']), lexer.tokens⟩
      else openToken (.literal read :: lexer.tokens) c

def finish (lexer : Lexer) : Option (List Token) :=
  match lexer.mode with
  | .between => some lexer.tokens.reverse
  | .inWord read => some (classify read :: lexer.tokens).reverse
  | .inLiteral _ => none
  | .quoteSeen read => some (Token.literal read :: lexer.tokens).reverse

def run (lexer : Lexer) (text : List Char) : Option Lexer := text.foldlM step lexer

def lex (text : List Char) : Option (List Token) := (run ⟨.between, []⟩ text).bind finish

def doubled (value : List Char) : List Char :=
  value.flatMap fun c => if c = '\'' then ['\'', '\''] else [c]

def quote (value : List Char) : List Char := '\'' :: doubled value ++ ['\'']

end Tokens

section Syntax

inductive Operand where
  | column (name : List Char)
  | elementAt (source key : List Char)
  deriving DecidableEq

inductive Predicate where
  | constant (value : Bool)
  | equals (operand : Operand) (value : List Char)
  | like (operand : Operand) (pattern : List Char) (escape : Option (List Char))
  | and_ (left right : Predicate)
  | or_ (left right : Predicate)
  deriving DecidableEq

def Operand.literals : Operand → List (List Char)
  | .column _ => []
  | .elementAt _ key => [key]

/-- The decoded literals of a condition, from left to right. -/
def Predicate.literals : Predicate → List (List Char)
  | .constant _ => []
  | .equals operand value => operand.literals ++ [value]
  | .like operand pattern escape => operand.literals ++ pattern :: escape.toList
  | .and_ left right => left.literals ++ right.literals
  | .or_ left right => left.literals ++ right.literals

def Operand.tokens : Operand → List Token
  | .column name => [.name name]
  | .elementAt source key =>
      [.name "element_at".toList, .symbol .leftParen, .name source, .symbol .comma, .literal key,
        .symbol .rightParen]

inductive Level where
  | disjunction
  | conjunction
  | primary

/-- `AND` binds more tightly than `OR`. -/
inductive Grammar : Level → List Token → Predicate → Prop where
  | or_ (left : Grammar .conjunction front p) (right : Grammar .disjunction back q) :
      Grammar .disjunction (front ++ .keyword .or_ :: back) (.or_ p q)
  | conjunction (only : Grammar .conjunction tokens p) : Grammar .disjunction tokens p
  | and_ (left : Grammar .primary front p) (right : Grammar .conjunction back q) :
      Grammar .conjunction (front ++ .keyword .and_ :: back) (.and_ p q)
  | primary (only : Grammar .primary tokens p) : Grammar .conjunction tokens p
  | parens (inner : Grammar .disjunction tokens p) :
      Grammar .primary (.symbol .leftParen :: (tokens ++ [.symbol .rightParen])) p
  | true_ : Grammar .primary [.keyword .true_] (.constant true)
  | false_ : Grammar .primary [.keyword .false_] (.constant false)
  | equals : Grammar .primary (operand.tokens ++ [.symbol .equals, .literal value])
      (.equals operand value)
  | like : Grammar .primary (operand.tokens ++ [.keyword .like, .literal pattern])
      (.like operand pattern none)
  | likeEscape : Grammar .primary
      (operand.tokens ++ [.keyword .like, .literal pattern, .keyword .escape, .literal escape])
      (.like operand pattern (some escape))

def parseOperand : List Token → Option (Operand × List Token)
  | .name function :: .symbol .leftParen :: .name source :: .symbol .comma :: .literal key ::
      .symbol .rightParen :: rest =>
      if function = "element_at".toList then some (.elementAt source key, rest) else none
  | .name source :: rest => some (.column source, rest)
  | _ => none

def parseComparison (tokens : List Token) : Option (Predicate × List Token) :=
  (parseOperand tokens).bind fun (operand, rest) =>
    match rest with
    | .symbol .equals :: .literal value :: rest => some (.equals operand value, rest)
    | .keyword .like :: .literal pattern :: .keyword .escape :: .literal escape :: rest =>
        some (.like operand pattern (some escape), rest)
    | .keyword .like :: .literal pattern :: rest => some (.like operand pattern none, rest)
    | _ => none

def parseLevel : Nat → Level → List Token → Option (Predicate × List Token)
  | 0, _, _ => none
  | fuel + 1, .disjunction, tokens =>
      (parseLevel fuel .conjunction tokens).bind fun (p, rest) =>
        match rest with
        | .keyword .or_ :: rest =>
            (parseLevel fuel .disjunction rest).map fun (q, rest) => (.or_ p q, rest)
        | _ => some (p, rest)
  | fuel + 1, .conjunction, tokens =>
      (parseLevel fuel .primary tokens).bind fun (p, rest) =>
        match rest with
        | .keyword .and_ :: rest =>
            (parseLevel fuel .conjunction rest).map fun (q, rest) => (.and_ p q, rest)
        | _ => some (p, rest)
  | fuel + 1, .primary, tokens =>
      match tokens with
      | .symbol .leftParen :: rest =>
          (parseLevel fuel .disjunction rest).bind fun (p, rest) =>
            match rest with
            | .symbol .rightParen :: rest => some (p, rest)
            | _ => none
      | .keyword .true_ :: rest => some (.constant true, rest)
      | .keyword .false_ :: rest => some (.constant false, rest)
      | _ => parseComparison tokens

/-- The whole text is one condition; each token is looked at on three levels at most. -/
def parseTokens (tokens : List Token) : Option Predicate :=
  match parseLevel (3 * tokens.length + 3) .disjunction tokens with
  | some (p, []) => some p
  | _ => none

def parse (text : List Char) : Option Predicate := (lex text).bind parseTokens

end Syntax

section Meaning

inductive Truth where
  | true_
  | false_
  | null
  deriving DecidableEq

def Truth.ofBool (value : Bool) : Truth := if value then .true_ else .false_

def Truth.and_ : Truth → Truth → Truth
  | .false_, _ => .false_
  | _, .false_ => .false_
  | .true_, .true_ => .true_
  | _, _ => .null

def Truth.or_ : Truth → Truth → Truth
  | .true_, _ => .true_
  | _, .true_ => .true_
  | .false_, .false_ => .false_
  | _, _ => .null

/-- The text and map columns by name; a value may be null. -/
structure Row where
  text : List Char → Option (Option (List Char))
  map : List Char → Option (Option (List Char → Option (List Char)))

/-- `none` where the column does not exist. A null map and a missing key give null. -/
def Operand.value (row : Row) : Operand → Option (Option (List Char))
  | .column name => row.text name
  | .elementAt source key => (row.map source).map fun map => map.bind fun entries => entries key

inductive PatternItem where
  | anyText
  | anyChar
  | char (c : Char)
  deriving DecidableEq

/-- An escape character stands before a wildcard or before itself. -/
def compile (escape : Option Char) : List Char → Option (List PatternItem)
  | [] => some []
  | [c] =>
      if some c = escape then none
      else if c = '%' then some [.anyText] else if c = '_' then some [.anyChar] else some [.char c]
  | c :: d :: rest =>
      if some c = escape then
        if d = '%' ∨ d = '_' ∨ d = c then (compile escape rest).map (.char d :: ·) else none
      else if c = '%' then (compile escape (d :: rest)).map (.anyText :: ·)
      else if c = '_' then (compile escape (d :: rest)).map (.anyChar :: ·)
      else (compile escape (d :: rest)).map (.char c :: ·)

def likeMatches : List PatternItem → List Char → Bool
  | [], text => text.isEmpty
  | .char c :: items, text =>
      match text with
      | [] => false
      | d :: rest => c = d && likeMatches items rest
  | .anyChar :: items, text =>
      match text with
      | [] => false
      | _ :: rest => likeMatches items rest
  | .anyText :: items, text => text.tails.any fun rest => likeMatches items rest

/-- The escape text has to be one character. -/
def escapeChar : Option (List Char) → Option (Option Char)
  | none => some none
  | some [c] => some (some c)
  | some _ => none

/-- `none` is a query that fails. -/
def eval (row : Row) : Predicate → Option Truth
  | .constant value => some (.ofBool value)
  | .equals operand value =>
      (operand.value row).map fun found =>
        match found with
        | none => .null
        | some text => .ofBool (text = value)
  | .like operand pattern escape =>
      (operand.value row).bind fun found =>
        (escapeChar escape).bind fun escape =>
          (compile escape pattern).map fun items =>
            match found with
            | none => .null
            | some text => .ofBool (likeMatches items text)
  | .and_ left right => (eval row left).bind fun p => (eval row right).map p.and_
  | .or_ left right => (eval row left).bind fun p => (eval row right).map p.or_

end Meaning
section Parsing

def Level.rank : Level → Nat
  | .disjunction => 3
  | .conjunction => 2
  | .primary => 1

/-- What follows a condition does not carry it on. -/
def Stops : Level → List Token → Prop
  | .disjunction, rest =>
      rest.head? ≠ some (.keyword .or_) ∧ rest.head? ≠ some (.keyword .and_) ∧
        rest.head? ≠ some (.keyword .escape)
  | .conjunction, rest => rest.head? ≠ some (.keyword .and_) ∧ rest.head? ≠ some (.keyword .escape)
  | .primary, rest => rest.head? ≠ some (.keyword .escape)

theorem parseOperand_tokens (operand : Operand) (rest : List Token)
    (bare : rest.head? ≠ some (.symbol .leftParen)) :
    parseOperand (operand.tokens ++ rest) = some (operand, rest) := by
  cases operand with
  | column source =>
    cases rest with
    | nil => rfl
    | cons token rest =>
      rw [Operand.tokens, List.singleton_append, parseOperand]
      intro key after source same
      rw [same] at bare
      exact absurd rfl bare
  | elementAt source key => rfl

theorem parseLevel_comparison (operand : Operand) (fuel : Nat) (rest : List Token) :
    parseLevel (fuel + 1) .primary (operand.tokens ++ rest) =
      parseComparison (operand.tokens ++ rest) := by
  cases operand <;> rfl

/-- A condition of the grammar is read back as it stands, given the fuel. -/
theorem parseLevel_of_grammar (written : Grammar level tokens p) (rest : List Token)
    (stops : Stops level rest)
    (fuel : Nat) (enough : 3 * tokens.length + level.rank ≤ fuel) :
    parseLevel fuel level (tokens ++ rest) = some (p, rest) := by
  induction written generalizing rest fuel with
  | @or_ front p back q left right ihLeft ihRight =>
    simp only [List.length_append, List.length_cons, Level.rank] at enough ihLeft ihRight
    obtain ⟨fuel, rfl⟩ : ∃ less, fuel = less + 1 := ⟨fuel - 1, by omega⟩
    have first := ihLeft (.keyword .or_ :: (back ++ rest)) ⟨by simp, by simp⟩ fuel (by omega)
    have second := ihRight rest stops fuel (by omega)
    rw [List.append_assoc, List.cons_append, parseLevel, first, Option.bind_some]
    simp only [second, Option.map_some]
  | @conjunction tokens p only ih =>
    simp only [Level.rank] at enough ih
    obtain ⟨fuel, rfl⟩ : ∃ less, fuel = less + 1 := ⟨fuel - 1, by omega⟩
    rw [parseLevel, ih rest stops.2 fuel (by omega), Option.bind_some]
    cases rest with
    | nil => rfl
    | cons token rest =>
      dsimp only
      split
      · exact absurd (congrArg List.head? ‹_›) stops.1
      · rfl
  | @and_ front p back q left right ihLeft ihRight =>
    simp only [List.length_append, List.length_cons, Level.rank] at enough ihLeft ihRight
    obtain ⟨fuel, rfl⟩ : ∃ less, fuel = less + 1 := ⟨fuel - 1, by omega⟩
    have first := ihLeft (.keyword .and_ :: (back ++ rest)) (by simp [Stops]) fuel (by omega)
    have second := ihRight rest stops fuel (by omega)
    rw [List.append_assoc, List.cons_append, parseLevel, first, Option.bind_some]
    simp only [second, Option.map_some]
  | @primary tokens p only ih =>
    simp only [Level.rank] at enough ih
    obtain ⟨fuel, rfl⟩ : ∃ less, fuel = less + 1 := ⟨fuel - 1, by omega⟩
    rw [parseLevel, ih rest stops.2 fuel (by omega), Option.bind_some]
    cases rest with
    | nil => rfl
    | cons token rest =>
      dsimp only
      split
      · exact absurd (congrArg List.head? ‹_›) stops.1
      · rfl
  | @parens tokens p inner ih =>
    simp only [List.length_append, List.length_cons, List.length_nil, Level.rank] at enough ih
    obtain ⟨fuel, rfl⟩ : ∃ less, fuel = less + 1 := ⟨fuel - 1, by omega⟩
    have read := ih (.symbol .rightParen :: rest) ⟨by simp, by simp, by simp⟩ fuel (by omega)
    rw [List.cons_append, List.append_assoc, List.singleton_append, parseLevel, read,
      Option.bind_some]
  | true_ =>
    obtain ⟨fuel, rfl⟩ : ∃ less, fuel = less + 1 :=
      ⟨fuel - 1, by simp [Level.rank] at enough; omega⟩
    rfl
  | false_ =>
    obtain ⟨fuel, rfl⟩ : ∃ less, fuel = less + 1 :=
      ⟨fuel - 1, by simp [Level.rank] at enough; omega⟩
    rfl
  | @equals operand value =>
    obtain ⟨fuel, rfl⟩ : ∃ less, fuel = less + 1 :=
      ⟨fuel - 1, by simp [Level.rank] at enough; omega⟩
    rw [List.append_assoc, parseLevel_comparison, parseComparison,
      parseOperand_tokens operand _ (by simp)]
    rfl
  | @like operand pattern =>
    obtain ⟨fuel, rfl⟩ : ∃ less, fuel = less + 1 :=
      ⟨fuel - 1, by simp [Level.rank] at enough; omega⟩
    rw [List.append_assoc, parseLevel_comparison, parseComparison,
      parseOperand_tokens operand _ (by simp)]
    cases rest with
    | nil => rfl
    | cons token rest =>
      simp only [List.cons_append, List.nil_append, Option.bind_some]
      split
      · cases ‹_ = _›
      · simp_all [Stops]
      · simp_all
      · simp_all
  | @likeEscape operand pattern escape =>
    obtain ⟨fuel, rfl⟩ : ∃ less, fuel = less + 1 :=
      ⟨fuel - 1, by simp [Level.rank] at enough; omega⟩
    rw [List.append_assoc, parseLevel_comparison, parseComparison,
      parseOperand_tokens operand _ (by simp)]
    rfl

theorem parseTokens_of_grammar (written : Grammar .disjunction tokens p) :
    parseTokens tokens = some p := by
  have read := parseLevel_of_grammar written [] ⟨by simp, by simp, by simp⟩ _ (le_refl _)
  rw [List.append_nil, Level.rank] at read
  rw [parseTokens, read]

end Parsing

section Lexing

/-- What ends a word or a literal. -/
def isDelimiter (c : Char) : Bool := isSpace c || (symbolOf c).isSome

/-- The lexer has read the tokens, the last of which may still be open. -/
def Ready (lexer : Lexer) (tokens : List Token) : Prop :=
  finish lexer = some tokens.reverse ∧ ∀ c, isDelimiter c → step lexer c = openToken tokens c

/-- A text is read as the tokens, wherever a new token may begin. -/
def Lexes (text : List Char) (tokens : List Token) : Prop :=
  ∀ before, ∃ lexer, run ⟨.between, before⟩ text = some lexer ∧
    Ready lexer (tokens.reverse ++ before)

theorem run_append (lexer : Lexer) (first second : List Char) :
    run lexer (first ++ second) = (run lexer first).bind fun next => run next second :=
  List.foldlM_append

theorem run_cons (lexer : Lexer) (c : Char) (rest : List Char) :
    run lexer (c :: rest) = (step lexer c).bind fun next => run next rest :=
  List.foldlM_cons

theorem isDelimiter_char (symbol : Symbol) : isDelimiter symbol.char := by
  cases symbol <;> rfl

theorem mem_delimiters (delimiter : isDelimiter c) :
    c ∈ [' ', '\t', '\n', '\r', '(', ')', ',', '='] := by
  rw [isDelimiter, Bool.or_eq_true, isSpace, decide_eq_true_eq] at delimiter
  rcases delimiter with space | symbol
  · simp only [List.mem_cons, List.not_mem_nil, or_false] at space ⊢
    tauto
  · obtain ⟨symbol, found⟩ := Option.isSome_iff_exists.mp symbol
    have same : decide (symbol.char = c) = true :=
      @List.find?_some Symbol (fun symbol => decide (symbol.char = c)) symbol _ found
    rw [← of_decide_eq_true same]
    cases symbol <;> decide

theorem not_delimiter_of_isWordStart (start : isWordStart c) :
    isSpace c = false ∧ c ≠ '\'' ∧ symbolOf c = none := by
  have outside : ([' ', '\t', '\n', '\r', '(', ')', ',', '=', '\''].all fun d =>
    !isWordStart d) = true := by decide
  have other : ∀ d ∈ [' ', '\t', '\n', '\r', '(', ')', ',', '=', '\''], c ≠ d := by
    rintro d member rfl
    have blocked := List.all_eq_true.mp outside c member
    rw [start] at blocked
    cases blocked
  have free : ¬ isDelimiter c := fun delimiter =>
    other c (List.mem_append_left ['\''] (mem_delimiters delimiter)) rfl
  rw [isDelimiter, Bool.or_eq_true, not_or, Bool.not_eq_true, Bool.not_eq_true,
    Option.isSome_eq_false_iff, Option.isNone_iff_eq_none] at free
  exact ⟨free.1, other '\'' (by simp), free.2⟩

theorem not_word_of_isDelimiter (delimiter : isDelimiter c) : isWordChar c = false ∧ c ≠ '\'' := by
  have outside : ([' ', '\t', '\n', '\r', '(', ')', ',', '='].all fun d =>
      !isWordChar d && d ≠ '\'') = true := by decide
  have own := List.all_eq_true.mp outside c (mem_delimiters delimiter)
  rw [Bool.and_eq_true, Bool.not_eq_true', decide_eq_true_eq] at own
  exact own

theorem ready_between (tokens : List Token) : Ready ⟨.between, tokens⟩ tokens :=
  ⟨rfl, fun _ _ => rfl⟩

theorem ready_inWord (read : List Char) (tokens : List Token) :
    Ready ⟨.inWord read, tokens⟩ (classify read :: tokens) := by
  refine ⟨rfl, fun c delimiter => ?_⟩
  obtain ⟨word, quote⟩ := not_word_of_isDelimiter delimiter
  simp [step, word, quote]

theorem ready_quoteSeen (read : List Char) (tokens : List Token) :
    Ready ⟨.quoteSeen read, tokens⟩ (.literal read :: tokens) := by
  refine ⟨rfl, fun c delimiter => ?_⟩
  simp [step, (not_word_of_isDelimiter delimiter).2]

theorem lexes_nil : Lexes [] [] := fun before => ⟨⟨.between, before⟩, rfl, ready_between before⟩

theorem lexes_space (read : Lexes text tokens) : Lexes (' ' :: text) tokens := read

theorem lexes_symbol (symbol : Symbol) (read : Lexes text tokens) :
    Lexes (symbol.char :: text) (.symbol symbol :: tokens) := by
  intro before
  obtain ⟨lexer, ran, ready⟩ := read (.symbol symbol :: before)
  refine ⟨lexer, ?_, by rwa [List.reverse_cons, List.append_assoc, List.singleton_append]⟩
  have opens : step ⟨.between, before⟩ symbol.char = some ⟨.between, .symbol symbol :: before⟩ := by
    cases symbol <;> rfl
  rw [run_cons, opens]
  exact ran

/-- Every character of a literal is its own, the doubled quote too. -/
theorem run_doubled (value done : List Char) (before : List Token) :
    run ⟨.inLiteral done, before⟩ (doubled value) = some ⟨.inLiteral (done ++ value), before⟩ := by
  induction value generalizing done with
  | nil => rw [List.append_nil]; rfl
  | cons c value ih =>
    have later := ih (done ++ [c])
    rw [List.append_assoc] at later
    rw [doubled, List.flatMap_cons, ← doubled, run_append]
    by_cases mark : c = '\''
    · subst mark
      exact later
    · have kept : run ⟨.inLiteral done, before⟩ [c] = some ⟨.inLiteral (done ++ [c]), before⟩ := by
        simp [run, step, mark]
      rw [if_neg mark, kept]
      exact later

theorem lexes_quote (value : List Char) : Lexes (quote value) [.literal value] := by
  intro before
  refine ⟨⟨.quoteSeen value, before⟩, ?_, ready_quoteSeen value before⟩
  have inside := run_doubled value [] before
  rw [List.nil_append] at inside
  rw [quote, List.cons_append, run_cons]
  exact (run_append _ _ _).trans (by rw [inside]; rfl)

theorem run_word (word done : List Char) (before : List Token) (inner : word.all isWordChar) :
    run ⟨.inWord done, before⟩ word = some ⟨.inWord (done ++ word), before⟩ := by
  induction word generalizing done with
  | nil => rw [List.append_nil]; rfl
  | cons c word ih =>
    rw [List.all_cons, Bool.and_eq_true] at inner
    have later := ih (done ++ [c]) inner.2
    rw [List.append_assoc] at later
    have kept : step ⟨.inWord done, before⟩ c =
      some ⟨.inWord (done ++ [c]), before⟩ := by simp [step, inner.1]
    rw [run_cons, kept]
    exact later

theorem lexes_word {c : Char} {word : List Char} (start : isWordStart c)
    (inner : word.all isWordChar) :
    Lexes (c :: word) [classify (c :: word)] := by
  intro before
  refine ⟨⟨.inWord (c :: word), before⟩, ?_, ready_inWord _ _⟩
  obtain ⟨space, mark, symbol⟩ := not_delimiter_of_isWordStart start
  have opens : step ⟨.between, before⟩ c = some ⟨.inWord [c], before⟩ := by
    simp [step, openToken, space, mark, symbol, start]
  rw [run_cons, opens]
  exact run_word word [c] before inner

/-- What begins with a delimiter may follow any text. -/
theorem Lexes.append (first : Lexes front tokens) {c : Char} (second : Lexes (c :: back) more)
    (delimiter : isDelimiter c) : Lexes (front ++ c :: back) (tokens ++ more) := by
  intro before
  obtain ⟨middle, ran, ready⟩ := first before
  obtain ⟨lexer, later, done⟩ := second (tokens.reverse ++ before)
  refine ⟨lexer, ?_, by rwa [List.reverse_append, List.append_assoc]⟩
  rw [run_append, ran, Option.bind_some, run_cons, ready.2 c delimiter]
  rwa [run_cons] at later

theorem lex_of_lexes (read : Lexes text tokens) : lex text = some tokens := by
  obtain ⟨lexer, ran, ready⟩ := read []
  rw [lex, ran, Option.bind_some, ready.1, List.append_nil, List.reverse_reverse]

end Lexing

section Matching

/-- Wildcards and the escape character stand escaped. -/
def escaped (escape : Char) (text : List Char) : List Char :=
  text.flatMap fun c => if c = '%' ∨ c = '_' ∨ c = escape then [escape, c] else [c]

theorem compile_escaped (escape : Char) (text rest : List Char) (some_ : rest ≠ []) :
    compile (some escape) (escaped escape text ++ rest) =
      (compile (some escape) rest).map (text.map PatternItem.char ++ ·) := by
  induction text with
  | nil => simp [escaped]
  | cons c text ih =>
    rw [escaped, List.flatMap_cons, ← escaped, List.append_assoc]
    by_cases special : c = '%' ∨ c = '_' ∨ c = escape
    · rw [if_pos special, List.cons_append, List.singleton_append, compile, if_pos rfl,
        if_pos special, ih]
      cases compile (some escape) rest <;> simp
    · rw [if_neg special, List.singleton_append]
      simp only [not_or] at special
      obtain ⟨d, tail, more⟩ := List.exists_cons_of_ne_nil
        (List.append_ne_nil_of_right_ne_nil (escaped escape text) some_)
      rw [more, compile, if_neg (by simpa using special.2.2), if_neg special.1, if_neg special.2.1,
        ← more, ih]
      cases compile (some escape) rest <;> simp

/-- Literal characters and a final wildcard match what begins with the characters. -/
theorem likeMatches_prefix (chars text : List Char) :
    likeMatches (chars.map PatternItem.char ++ [.anyText]) text ↔ chars <+: text := by
  induction chars generalizing text with
  | nil =>
    have whole : [] ∈ text.tails := List.mem_tails _ _ |>.mpr (List.nil_suffix)
    simp only [List.map_nil, List.nil_append, likeMatches, List.any_eq_true, List.nil_prefix,
      iff_true]
    exact ⟨[], whole, rfl⟩
  | cons c chars ih =>
    cases text with
    | nil => simp [likeMatches]
    | cons d text =>
      rw [List.map_cons, List.cons_append, likeMatches, Bool.and_eq_true, decide_eq_true_eq, ih,
        List.cons_prefix_cons]

end Matching

section Junctions

def conjoin : List Predicate → Predicate
  | [] => .constant true
  | [p] => p
  | p :: q :: rest => .and_ p (conjoin (q :: rest))

def disjoin : List Predicate → Predicate
  | [] => .constant false
  | [p] => p
  | p :: q :: rest => .or_ p (disjoin (q :: rest))

theorem literals_conjoin (ps : List Predicate) : (conjoin ps).literals =
    ps.flatMap Predicate.literals := by
  induction ps using conjoin.induct with
  | case1 => rfl
  | case2 p => simp [conjoin]
  | case3 p q rest ih => rw [conjoin, Predicate.literals, ih, @List.flatMap_cons _ _ p]

theorem literals_disjoin (ps : List Predicate) : (disjoin ps).literals =
    ps.flatMap Predicate.literals := by
  induction ps using disjoin.induct with
  | case1 => rfl
  | case2 p => simp [disjoin]
  | case3 p q rest ih => rw [disjoin, Predicate.literals, ih, @List.flatMap_cons _ _ p]

/-- Texts joined by a word are their tokens joined by its token. -/
theorem lexes_join {c : Char} {word : List Char} {texts : List (List Char)}
    {tokens : List (List Token)}
    (start : isWordStart c) (inner : word.all isWordChar) (read : List.Forall₂ Lexes texts tokens) :
    Lexes ((' ' :: c :: word ++ [' ']).intercalate texts)
      ([classify (c :: word)].intercalate tokens) := by
  induction read with
  | nil => exact lexes_nil
  | @cons text own texts tokens first others ih =>
    cases others with
    | nil => simpa only [List.intercalate_singleton] using first
    | cons second rest =>
      have joined := lexes_space ((lexes_word start inner).append (lexes_space ih) rfl)
      have whole := first.append joined rfl
      rw [List.intercalate_cons_cons, List.intercalate_cons_cons]
      simpa only [List.cons_append, List.append_assoc, List.nil_append] using whole

theorem grammar_conjoin {ps : List Predicate} {tokens : List (List Token)}
    (written : List.Forall₂ (Grammar .primary) tokens ps) (some_ : ps ≠ []) :
    Grammar .conjunction ([.keyword .and_].intercalate tokens) (conjoin ps) := by
  induction written with
  | nil => exact absurd rfl some_
  | @cons own p tokens ps first others ih =>
    cases others with
    | nil =>
      rw [List.intercalate_singleton]
      exact .primary first
    | cons second rest =>
      have joined := Grammar.and_ first (ih (List.cons_ne_nil _ _))
      rw [List.intercalate_cons_cons, List.append_assoc]
      exact joined

theorem grammar_disjoin {ps : List Predicate} {tokens : List (List Token)}
    (written : List.Forall₂ (Grammar .primary) tokens ps) (some_ : ps ≠ []) :
    Grammar .disjunction ([.keyword .or_].intercalate tokens) (disjoin ps) := by
  induction written with
  | nil => exact absurd rfl some_
  | @cons own p tokens ps first others ih =>
    cases others with
    | nil =>
      rw [List.intercalate_singleton]
      exact .conjunction (.primary first)
    | cons second rest =>
      have joined := Grammar.or_ (.primary first) (ih (List.cons_ne_nil _ _))
      rw [List.intercalate_cons_cons, List.append_assoc]
      exact joined

/-- The condition can be evaluated, and comes out true exactly when `holds` does. -/
def Decides (row : Row) (p : Predicate) (holds : Prop) : Prop :=
  ∃ truth, eval row p = some truth ∧ (truth = .true_ ↔ holds)

theorem Truth.and_eq_true_iff {p q : Truth} : p.and_ q = .true_ ↔ p = .true_ ∧ q = .true_ := by
  cases p <;> cases q <;> decide

theorem Truth.or_eq_true_iff {p q : Truth} : p.or_ q = .true_ ↔ p = .true_ ∨ q = .true_ := by
  cases p <;> cases q <;> decide

theorem Truth.ofBool_eq_true_iff {value : Bool} : Truth.ofBool value = .true_ ↔ value = true := by
  cases value <;> decide

variable {row : Row}

theorem Decides.and_ (left : Decides row p first) (right : Decides row q second) :
    Decides row (.and_ p q) (first ∧ second) := by
  obtain ⟨t, evalLeft, meansLeft⟩ := left
  obtain ⟨u, evalRight, meansRight⟩ := right
  refine ⟨t.and_ u, ?_, ?_⟩
  · rw [eval, evalLeft, evalRight]
    rfl
  · rw [Truth.and_eq_true_iff, meansLeft, meansRight]

theorem Decides.or_ (left : Decides row p first) (right : Decides row q second) :
    Decides row (.or_ p q) (first ∨ second) := by
  obtain ⟨t, evalLeft, meansLeft⟩ := left
  obtain ⟨u, evalRight, meansRight⟩ := right
  refine ⟨t.or_ u, ?_, ?_⟩
  · rw [eval, evalLeft, evalRight]
    rfl
  · rw [Truth.or_eq_true_iff, meansLeft, meansRight]

theorem decides_conjoin {items : List α} {test : α → Predicate} {holds : α → Prop}
    (each : ∀ item ∈ items, Decides row (test item) (holds item)) :
    Decides row (conjoin (items.map test)) (∀ item ∈ items, holds item) := by
  induction items with
  | nil => exact ⟨.true_, rfl, by simp⟩
  | cons item items ih =>
    have first := each item List.mem_cons_self
    have others := ih fun other member => each other (List.mem_cons_of_mem _ member)
    cases items with
    | nil => simpa [conjoin] using first
    | cons next rest =>
      rw [List.forall_mem_cons]
      exact first.and_ others

theorem decides_disjoin {items : List α} {test : α → Predicate} {holds : α → Prop}
    (each : ∀ item ∈ items, Decides row (test item) (holds item)) :
    Decides row (disjoin (items.map test)) (∃ item ∈ items, holds item) := by
  induction items with
  | nil => exact ⟨.false_, rfl, by simp⟩
  | cons item items ih =>
    have first := each item List.mem_cons_self
    have others := ih fun other member => each other (List.mem_cons_of_mem _ member)
    cases items with
    | nil => simpa [disjoin] using first
    | cons next rest =>
      rw [List.exists_mem_cons_iff]
      exact first.or_ others

end Junctions
end ReplicateOnTag.Sql
