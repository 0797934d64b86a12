import ReplicateOnTag.Library.SqlPredicate
import ReplicateOnTag.Adapters.Journal

/-! The text of the rule predicate that the preflight count sends, and its
meaning on a journal row. -/
namespace ReplicateOnTag.Preflight
open Sql AthenaJournal

/-- `value.replace(c, by)` for one character. -/
def replaceChar (c : Char) (by_ : List Char) (value : List Char) : List Char :=
  value.flatMap fun d => if d = c then by_ else [d]

/-- `_escape_sql_string`. -/
def escapeSqlString (value : List Char) : List Char := replaceChar '\'' ['\'', '\''] value

/-- `_escape_like_pattern`; the backslash comes first. -/
def escapeLikePattern (value : List Char) : List Char :=
  let value := replaceChar '\\' ['\\', '\\'] value
  let value := replaceChar '%' ['\\', '%'] value
  let value := replaceChar '_' ['\\', '_'] value
  replaceChar '\'' ['\'', '\''] value

def tagOpening : List Char := "element_at(object_tags, '".toList

def tagMiddle : List Char := "') = '".toList

def tagConjunct (tag : String × String) : List Char :=
  tagOpening ++ escapeSqlString tag.1.toList ++ tagMiddle ++ escapeSqlString tag.2.toList ++ ['\'']

def prefixOpening : List Char := "key LIKE '".toList

def prefixEnding : List Char := "%' ESCAPE '\\'".toList

def prefixConjunct (keyPrefix : String) : List Char :=
  prefixOpening ++ escapeLikePattern keyPrefix.toList ++ prefixEnding

def ruleConjuncts (rule : DerivedReplicationRule) : List (List Char) :=
  (CanonicalJson.sortedEntries rule.tagFilter).map tagConjunct ++
    (rule.keyPrefix.map prefixConjunct).toList

def ruleClause (rule : DerivedReplicationRule) : List Char :=
  if ruleConjuncts rule = [] then "TRUE".toList
  else "(".toList ++ " AND ".toList.intercalate (ruleConjuncts rule) ++ ")".toList

def buildRulePredicate (rules : List DerivedReplicationRule) : String :=
  if rules = [] then "FALSE"
  else String.ofList ("(".toList ++ " OR ".toList.intercalate (rules.map ruleClause) ++ ")".toList)

/-- What the predicate reads of a journal row. -/
def rowColumns (row : JournalRow) : Sql.Row :=
  { text := fun name => if name = "key".toList then some (some row.key.toList) else none
    map := fun name =>
      if name = "object_tags".toList then
        some (row.objectTags.map fun tags key => (tags.get? (String.ofList key)).map String.toList)
      else none }

section Meaning

def objectTags (key : String) : Operand := .elementAt "object_tags".toList key.toList

def tagTest (tag : String × String) : Predicate := .equals (objectTags tag.1) tag.2.toList

def prefixPattern (keyPrefix : String) : List Char := escaped '\\' keyPrefix.toList ++ ['%']

def prefixTest (keyPrefix : String) : Predicate :=
  .like (.column "key".toList) (prefixPattern keyPrefix) (some ['\\'])

/-- One requirement of a rule: a tag, or the prefix of the key. -/
abbrev Requirement := (String × String) ⊕ String

def requirements (rule : DerivedReplicationRule) : List Requirement :=
  (CanonicalJson.sortedEntries rule.tagFilter).map .inl ++ (rule.keyPrefix.map .inr).toList

def requirementTest : Requirement → Predicate
  | .inl tag => tagTest tag
  | .inr keyPrefix => prefixTest keyPrefix

def ruleTest (rule : DerivedReplicationRule) : Predicate :=
  conjoin ((requirements rule).map requirementTest)

/-- The literals of a rule: its tags in the order of their keys, then its
escaped prefix with the wildcard and the escape character. -/
def ruleLiterals (rule : DerivedReplicationRule) : List (List Char) :=
  ((CanonicalJson.sortedEntries rule.tagFilter).flatMap fun tag => [tag.1.toList, tag.2.toList]) ++
    (rule.keyPrefix.toList.flatMap fun keyPrefix => [prefixPattern keyPrefix, ['\\']])

theorem escapeSqlString_eq_doubled : escapeSqlString = doubled := rfl

/-- The three replacements escape each character once. -/
theorem escapeLikePattern_eq (value : List Char) : escapeLikePattern value =
    doubled (escaped '\\' value) := by
  have each (c : Char) : replaceChar '_' ['\\', '_'] (replaceChar '%' ['\\', '%']
      (if c = '\\' then ['\\', '\\'] else [c])) = if c = '%' ∨ c = '_' ∨
        c = '\\' then ['\\', c] else [c] := by
    by_cases back : c = '\\'
    · subst back
      decide
    · by_cases percent : c = '%'
      · subst percent
        decide
      · by_cases under : c = '_'
        · subst under
          decide
        · simp [replaceChar, back, percent, under]
  have composed : replaceChar '_' ['\\', '_']
      (replaceChar '%' ['\\', '%'] (replaceChar '\\' ['\\', '\\'] value)) =
      escaped '\\' value := by
    rw [escaped, ← funext each]
    simp only [replaceChar, List.flatMap_assoc]
  exact congrArg doubled composed

def tagTokens (tag : String × String) : List Token :=
  (objectTags tag.1).tokens ++ [.symbol .equals, .literal tag.2.toList]

def prefixTokens (keyPrefix : String) : List Token :=
  (Operand.column "key".toList).tokens ++
    [.keyword .like, .literal (prefixPattern keyPrefix), .keyword .escape, .literal ['\\']]

theorem tagOpening_eq : tagOpening = "element_at".toList ++ '(' ::
    ("object_tags".toList ++ [',', ' ', '\'']) := by
  decide

theorem tagMiddle_eq : tagMiddle = ['\'', ')', ' ', '=', ' ', '\''] := by decide

theorem tagConjunct_eq (tag : String × String) : tagConjunct tag =
    "element_at".toList ++ '(' :: ("object_tags".toList ++ ',' :: ' ' ::
      (quote tag.1.toList ++ ')' :: ' ' :: '=' :: ' ' :: quote tag.2.toList)) := by
  rw [tagConjunct, tagOpening_eq, tagMiddle_eq, escapeSqlString_eq_doubled, quote, quote]
  simp only [List.append_assoc, List.cons_append, List.nil_append]

theorem lexes_tagConjunct (tag : String × String) : Lexes (tagConjunct tag) (tagTokens tag) := by
  have closing := lexes_symbol .rightParen
    (lexes_space (lexes_symbol .equals (lexes_space (lexes_quote tag.2.toList))))
  have key := lexes_space ((lexes_quote tag.1.toList).append closing rfl)
  have column : Lexes "object_tags".toList [.name "object_tags".toList] :=
    lexes_word rfl (by decide)
  have function : Lexes "element_at".toList [.name "element_at".toList] :=
    lexes_word rfl (by decide)
  have arguments := column.append (lexes_symbol .comma key) (isDelimiter_char .comma)
  have whole := function.append (lexes_symbol .leftParen arguments) (isDelimiter_char .leftParen)
  rw [tagConjunct_eq]
  exact whole

theorem prefixOpening_eq : prefixOpening = "key".toList ++ ' ' ::
    ("LIKE".toList ++ [' ', '\'']) := by decide

theorem prefixEnding_eq : prefixEnding = '%' :: '\'' :: ' ' ::
    ("ESCAPE".toList ++ ' ' :: quote ['\\']) := by decide

theorem prefixConjunct_eq (keyPrefix : String) : prefixConjunct keyPrefix =
    "key".toList ++ ' ' :: ("LIKE".toList ++ ' ' :: (quote (prefixPattern keyPrefix) ++
      ' ' :: ("ESCAPE".toList ++ ' ' :: quote ['\\']))) := by
  have wildcard : quote (prefixPattern keyPrefix) =
      '\'' :: (doubled (escaped '\\' keyPrefix.toList) ++ ['%']) ++ ['\''] := by
    rw [quote, doubled, doubled, prefixPattern, List.flatMap_append]
    rfl
  rw [prefixConjunct, prefixOpening_eq, prefixEnding_eq, escapeLikePattern_eq, wildcard]
  simp only [List.append_assoc, List.cons_append, List.nil_append]

theorem lexes_prefixConjunct (keyPrefix : String) :
    Lexes (prefixConjunct keyPrefix) (prefixTokens keyPrefix) := by
  have column : Lexes "key".toList [.name "key".toList] := lexes_word rfl (by decide)
  have like : Lexes "LIKE".toList [.keyword .like] := lexes_word rfl (by decide)
  have escape : Lexes "ESCAPE".toList [.keyword .escape] := lexes_word rfl (by decide)
  have ending := (lexes_quote (prefixPattern keyPrefix)).append
    (lexes_space (escape.append (lexes_space (lexes_quote ['\\'])) rfl)) rfl
  have pattern := like.append (lexes_space ending) rfl
  have whole := column.append (lexes_space pattern) rfl
  rw [prefixConjunct_eq]
  exact whole

def requirementText : Requirement → List Char
  | .inl tag => tagConjunct tag
  | .inr keyPrefix => prefixConjunct keyPrefix

def requirementTokens : Requirement → List Token
  | .inl tag => tagTokens tag
  | .inr keyPrefix => prefixTokens keyPrefix

theorem lexes_requirement (requirement : Requirement) :
    Lexes (requirementText requirement) (requirementTokens requirement) := by
  cases requirement with
  | inl tag => exact lexes_tagConjunct tag
  | inr keyPrefix => exact lexes_prefixConjunct keyPrefix

theorem grammar_requirement (requirement : Requirement) :
    Grammar .primary (requirementTokens requirement) (requirementTest requirement) := by
  cases requirement with
  | inl tag => exact .equals
  | inr keyPrefix => exact .likeEscape

theorem ruleConjuncts_eq (rule : DerivedReplicationRule) :
    ruleConjuncts rule = (requirements rule).map requirementText := by
  rw [ruleConjuncts, requirements, List.map_append, List.map_map]
  cases rule.keyPrefix <;> rfl

def ruleTokens (rule : DerivedReplicationRule) : List Token :=
  if requirements rule = [] then [.keyword .true_]
  else .symbol .leftParen ::
    ([.keyword .and_].intercalate ((requirements rule).map requirementTokens) ++
      [.symbol .rightParen])

theorem forall₂_map {first : α → β} {second : α → γ} {R : β → γ → Prop}
    (each : ∀ a, R (first a) (second a))
    (items : List α) : List.Forall₂ R (items.map first) (items.map second) := by
  induction items with
  | nil => exact .nil
  | cons item items ih => exact .cons (each item) ih

/-- Clauses in parentheses, joined by a word. -/
theorem lexes_parens (c : Char) (word : List Char) (start : isWordStart c)
    (inner : word.all isWordChar)
    {text : α → List Char} {tokens : α → List Token}
    (each : ∀ a, Lexes (text a) (tokens a)) (items : List α) :
    Lexes ('(' :: (((' ' :: c :: word ++ [' ']).intercalate (items.map text)) ++ [')']))
      (.symbol .leftParen :: ([classify (c :: word)].intercalate (items.map tokens) ++
        [.symbol .rightParen])) := by
  have joined := lexes_join start inner (forall₂_map each items)
  exact lexes_symbol .leftParen
    (joined.append (lexes_symbol .rightParen lexes_nil) (isDelimiter_char .rightParen))

theorem lexes_ruleClause (rule : DerivedReplicationRule) :
    Lexes (ruleClause rule) (ruleTokens rule) := by
  have conjuncts : ruleConjuncts rule = [] ↔ requirements rule = [] := by
    rw [ruleConjuncts_eq, List.map_eq_nil_iff]
  rw [ruleClause, ruleTokens]
  by_cases free : requirements rule = []
  · rw [if_pos (conjuncts.mpr free), if_pos free]
    exact lexes_word rfl (by decide)
  · rw [if_neg (mt conjuncts.mp free), if_neg free, ruleConjuncts_eq]
    exact lexes_parens 'A' ['N', 'D'] rfl rfl lexes_requirement (requirements rule)

theorem grammar_ruleClause (rule : DerivedReplicationRule) :
    Grammar .primary (ruleTokens rule) (ruleTest rule) := by
  rw [ruleTokens, ruleTest]
  by_cases free : requirements rule = []
  · rw [if_pos free, free]
    exact .true_
  · rw [if_neg free]
    refine .parens (.conjunction (grammar_conjoin (forall₂_map grammar_requirement _) ?_))
    exact mt List.map_eq_nil_iff.mp free

def rulesTest (rules : List DerivedReplicationRule) : Predicate := disjoin (rules.map ruleTest)

/-- The text is one condition, the disjunction of the rules' tests. -/
theorem parse_buildRulePredicate (rules : List DerivedReplicationRule) :
    parse (buildRulePredicate rules).toList = some (rulesTest rules) := by
  rw [buildRulePredicate, parse, rulesTest]
  by_cases none : rules = []
  · rw [if_pos none, none]
    decide
  · have read := lexes_parens 'O' ['R'] rfl rfl lexes_ruleClause rules
    have clauses : rules.map ruleTest ≠ [] := mt List.map_eq_nil_iff.mp none
    have written := grammar_disjoin (forall₂_map grammar_ruleClause rules) clauses
    rw [if_neg none, String.toList_ofList]
    exact (congrArg (Option.bind · parseTokens) (lex_of_lexes read)).trans
      (parseTokens_of_grammar (.conjunction (.primary (.parens written))))

theorem literals_ruleTest (rule : DerivedReplicationRule) : (ruleTest rule).literals =
    ruleLiterals rule := by
  rw [ruleTest, literals_conjoin, requirements, ruleLiterals, List.map_append, List.flatMap_append,
    List.map_map, List.flatMap_map]
  cases rule.keyPrefix <;> rfl

theorem literals_rulesTest (rules : List DerivedReplicationRule) :
    (rulesTest rules).literals = rules.flatMap ruleLiterals := by
  rw [rulesTest, literals_disjoin, List.flatMap_map]
  exact List.flatMap_congr fun rule _ => literals_ruleTest rule

section Evaluation
variable (row : JournalRow)

/-- A null map and a missing key compare to null, which is not true. -/
theorem decides_tagTest (tag : String × String) : Decides (rowColumns row) (tagTest tag)
    ((row.objectTags.bind fun tags => tags.get? tag.1) = some tag.2) := by
  have value : (objectTags tag.1).value (rowColumns row) =
      some ((row.objectTags.bind fun tags => tags.get? tag.1).map String.toList) := by
    simp only [objectTags, Operand.value, rowColumns, if_pos, Option.map_some]
    cases row.objectTags with
    | none => rfl
    | some tags => simp only [Option.map_some, Option.bind_some, String.ofList_toList]
  rw [Decides, tagTest, eval, value, Option.map_some]
  refine ⟨_, rfl, ?_⟩
  cases row.objectTags.bind fun tags => tags.get? tag.1 with
  | none => simp
  | some found => simp [Truth.ofBool_eq_true_iff, String.toList_inj]

theorem decides_prefixTest (keyPrefix : String) : Decides (rowColumns row) (prefixTest keyPrefix)
    (RuleMatcher.startsWith row.key keyPrefix) := by
  have compiled : compile (some '\\') (prefixPattern keyPrefix) =
      some (keyPrefix.toList.map PatternItem.char ++ [.anyText]) := by
    rw [prefixPattern, compile_escaped _ _ _ (List.cons_ne_nil _ _)]
    rfl
  have value : (Operand.column "key".toList).value (rowColumns row) =
    some (some row.key.toList) := rfl
  rw [Decides, prefixTest, eval, value, Option.bind_some, escapeChar, Option.bind_some, compiled,
    Option.map_some]
  refine ⟨_, rfl, ?_⟩
  rw [Truth.ofBool_eq_true_iff, likeMatches_prefix, RuleMatcher.startsWith,
    List.isPrefixOf_iff_prefix]

def Meets : Requirement → Prop
  | .inl tag => (row.objectTags.bind fun tags => tags.get? tag.1) = some tag.2
  | .inr keyPrefix => RuleMatcher.startsWith row.key keyPrefix

theorem decides_requirement (requirement : Requirement) :
    Decides (rowColumns row) (requirementTest requirement) (Meets row requirement) := by
  cases requirement with
  | inl tag => exact decides_tagTest row tag
  | inr keyPrefix => exact decides_prefixTest row keyPrefix

theorem satisfiesRule_iff (rule : DerivedReplicationRule) :
    satisfiesRule row rule ↔ ∀ requirement ∈ requirements rule, Meets row requirement := by
  have tags : (∀ tag ∈ CanonicalJson.sortedEntries rule.tagFilter, Meets row (.inl tag)) ↔
      ∀ tag ∈ rule.tagFilter.entries, Meets row (.inl tag) := by
    simp only [CanonicalJson.sortedEntries, List.mem_insertionSort]
  rw [satisfiesRule, Bool.and_eq_true, List.all_eq_true, requirements, List.forall_mem_append,
    List.forall_mem_map, tags]
  refine and_congr ?_ ?_
  · simp only [decide_eq_true_eq, Meets]
  · cases rule.keyPrefix with
    | none => simp
    | some keyPrefix => simp [Meets]

/-- The predicate never fails, and is true exactly on the rows that satisfy a rule. -/
theorem decides_rulesTest (rules : List DerivedReplicationRule) :
    Decides (rowColumns row) (rulesTest rules) (rulePredicate rules row) := by
  have each : ∀ rule ∈ rules,
      Decides (rowColumns row) (ruleTest rule) (satisfiesRule row rule) := by
    intro rule _
    rw [satisfiesRule_iff]
    exact decides_conjoin fun requirement _ => decides_requirement row requirement
  have any : rulePredicate rules row ↔ ∃ rule ∈ rules, satisfiesRule row rule := by
    rw [rulePredicate, List.any_eq_true]
  rw [any]
  exact decides_disjoin each

/-- On a row with tags a rule is satisfied as the matcher would have it. -/
theorem satisfiesRule_eq_ruleSatisfies (tags : TagSet) (rule : DerivedReplicationRule) :
    satisfiesRule { row with objectTags := some tags } rule =
      RuleMatcher.ruleSatisfies tags row.key rule := rfl

/-- The predicate of the preflight count is one condition, which holds the
rules' texts as its literals and is true on the rows the matcher accepts. -/
theorem predicate_refines_matcher (rules : List DerivedReplicationRule) :
    ∃ predicate, parse (buildRulePredicate rules).toList = some predicate ∧
      predicate.literals = rules.flatMap ruleLiterals ∧
      (∀ row, Decides (rowColumns row) predicate (rulePredicate rules row)) ∧
      ∀ (row : JournalRow) (tags : TagSet),
        eval (rowColumns { row with objectTags := some tags }) predicate = some .true_ ↔
          ∃ rule ∈ rules, RuleMatcher.ruleSatisfies tags row.key rule := by
  refine ⟨rulesTest rules, parse_buildRulePredicate rules, literals_rulesTest rules,
    fun row => decides_rulesTest row rules, fun row tags => ?_⟩
  obtain ⟨truth, evaluates, means⟩ := decides_rulesTest { row with objectTags := some tags } rules
  rw [evaluates, Option.some.injEq, means, rulePredicate, List.any_eq_true]
  simp only [satisfiesRule_eq_ruleSatisfies]

end Evaluation

/-- A quote, a backslash before a wildcard, and an underscore in one rule. -/
example : (parse (buildRulePredicate
    [⟨"photos", "r", "r", Dict.ofList [("it's", "a_b")], "", some "50\\%'"⟩]).toList).map
      Predicate.literals =
      some ["it's".toList, "a_b".toList, "50\\\\\\%'%".toList, "\\".toList] := by decide +kernel

end Meaning
end ReplicateOnTag.Preflight
