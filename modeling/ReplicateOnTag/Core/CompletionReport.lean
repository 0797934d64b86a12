import ReplicateOnTag.Core.CompletionTracker
import ReplicateOnTag.Library.JsonPretty
import Mathlib.Algebra.Order.Group.Nat

/-! The report of one batch and its text, and the price of a group within it.
Instants are written by `isoformat`, whatever its text. -/
namespace ReplicateOnTag.CompletionTracker
open Json

section Summary

/-- The digits from the last, with a comma behind every third. -/
def separateThousands : List Char → List Char
  | first :: second :: third :: next :: rest => first :: second :: third :: ',' ::
      separateThousands (next :: rest)
  | digits => digits

/-- `f"{n:,}"`. -/
def thousands (n : Nat) : String := String.ofList (separateThousands (decimal n).reverse).reverse

structure OutcomePhrase where
  outcome : Option String
  plural : String
  singular : String

/-- `_OUTCOME_PHRASES`. -/
def outcomePhrases : List OutcomePhrase :=
  [⟨some "FAILED", "failed to replicate", "failed to replicate"⟩,
    ⟨some "UNKNOWN", "reported an unrecognized task status",
      "reported an unrecognized task status"⟩,
    ⟨none, "reported an unrecognized task status", "reported an unrecognized task status"⟩,
    ⟨some "COMPLETE", "replicated successfully", "replicated successfully"⟩]

/-- `_ACTIONABLE_OUTCOMES`. -/
def actionableOutcomes : List (Option String) := [some "FAILED", some "UNKNOWN", none]

/-- `_format_outstanding_clause`. -/
def formatOutstandingClause : Option Nat → String
  | none => ""
  | some 0 => " No replication jobs remain outstanding."
  | some 1 => " 1 replication job is still running."
  | some jobs => " " ++ thousands jobs ++ " replication jobs are still running."

abbrev OutcomeCounts := Dict (Option String) Nat

def countOf (outcomeCounts : OutcomeCounts) (outcome : Option String) : Nat :=
  (outcomeCounts.get? outcome).getD 0

/-- The phrases of the outcomes that occur, with their counts. -/
def occurringPhrases (outcomeCounts : OutcomeCounts) : List (OutcomePhrase × Nat) :=
  (outcomePhrases.map fun phrase => (phrase, countOf outcomeCounts phrase.outcome)).filter
    fun found => found.2 ≠ 0

def phraseFor (phrase : OutcomePhrase) (count : Nat) : String :=
  if count = 1 then phrase.singular else phrase.plural

def formatVerdict (itemCount : Nat) (outcomeCounts : OutcomeCounts) : String :=
  let actionable := (((occurringPhrases outcomeCounts).filter fun found =>
    found.1.outcome ∈ actionableOutcomes).map Prod.snd).sum
  if actionable = 0 ∧ outcomeCounts.get? (some "COMPLETE") = some itemCount then "No action needed."
  else if actionable ≠ 0 then
    "Action needed: " ++ thousands actionable ++ " of " ++
      thousands itemCount ++ " did not replicate."
  else "No failures."

/-- `_format_completion_report_summary`. -/
def formatCompletionReportSummary (sourceBucket : String) (itemCount : Nat)
    (outcomeCounts : OutcomeCounts)
    (outstandingJobs : Option Nat) : String :=
  let trailing := formatOutstandingClause outstandingJobs
  if itemCount = 0 then sourceBucket ++ ": no objects to report." ++ trailing
  else
    let found := occurringPhrases outcomeCounts
    let clauses := found.map fun (phrase, count) => thousands count ++ " " ++ phraseFor phrase count
    let solePhrase := (found.filter fun (_, count) => count = itemCount).getLast?.map
        fun (phrase, count) =>
      phraseFor phrase count
    let total := thousands itemCount ++ " object" ++ if itemCount = 1 then "" else "s"
    let verdict := formatVerdict itemCount outcomeCounts
    match solePhrase with
    | some phrase => sourceBucket ++ ": " ++ total ++ " " ++ phrase ++ ". " ++ verdict ++ trailing
    | none => sourceBucket ++ ": " ++ total ++ " — " ++ "; ".intercalate clauses ++
        ". " ++ verdict ++ trailing

end Summary

section Report

structure Group where
  sourceBucket : String
  matchedRules : List String
  destinations : List String
  count : Nat
  outcomeCounts : OutcomeCounts
  taggedAtRange : Option (String × String)
  lastModifiedRange : Option (String × String)

structure CompletionReport where
  summary : String
  formatVersion : Nat
  sourceBucket : String
  itemCount : Nat
  outstandingJobs : Option Nat
  submissionDeferred : Bool
  outcomeCounts : OutcomeCounts
  groups : List Group

def outcomeCounts (items : List TrackedObject) : OutcomeCounts :=
  Grouping.tally TrackedObject.replicationOutcome items

variable (isoformat : Instant → String)

/-- The earliest and the latest of the instants, if there are any. -/
def isoRange (instants : List Instant) : Option (String × String) :=
  match instants.min?, instants.max? with
  | some earliest, some latest => some (isoformat earliest, isoformat latest)
  | _, _ => none

/-- `_build_group`. -/
def buildGroup (key : GroupKey) (items : List TrackedObject) : Group where
  sourceBucket := key.1
  matchedRules := key.2.1
  destinations := key.2.2
  count := items.length
  outcomeCounts := outcomeCounts items
  taggedAtRange := isoRange isoformat (items.filterMap TrackedObject.taggedAt)
  lastModifiedRange := isoRange isoformat (items.filterMap TrackedObject.lastModified)

/-- `_build_groups`. -/
def buildGroups (items : List Listed) : List Group :=
  (groupedByKey items).entries.map fun group => buildGroup isoformat group.1 (group.2.map Prod.snd)

/-- `build_completion_report`. -/
def buildCompletionReport (sourceBucket : String) (items : List Listed)
    (outstandingJobs : Option Nat)
    (submissionDeferred : Bool) : CompletionReport :=
  let counts := outcomeCounts (items.map Prod.snd)
  { summary := formatCompletionReportSummary sourceBucket items.length counts outstandingJobs
    formatVersion := 3
    sourceBucket
    itemCount := items.length
    outstandingJobs
    submissionDeferred
    outcomeCounts := counts
    groups := buildGroups isoformat items }

/-- `json.dumps` writes the key `None` as `null`. -/
def countsJson (counts : OutcomeCounts) : Json :=
  .object (counts.entries.map fun entry => (entry.1.getD "null", .int entry.2))

def rangeField (key : String) : Option (String × String) → List (String × Json)
  | none => []
  | some (earliest, latest) => [(key, .list [.str earliest, .str latest])]

def Group.json (group : Group) : Json :=
  .object
    ([("source_bucket", .str group.sourceBucket),
      ("matched_rules", .list (group.matchedRules.map .str)),
      ("destinations", .list (group.destinations.map .str)),
      ("count", .int group.count),
      ("outcome_counts", countsJson group.outcomeCounts)] ++
      rangeField "tagged_at_range" group.taggedAtRange ++
        rangeField "last_modified_range" group.lastModifiedRange)

def groupsJson (groups : List Group) : Json := .list (groups.map Group.json)

/-- The fields before the groups. -/
def CompletionReport.envelope (report : CompletionReport) : List (String × Json) :=
  [("summary", .str report.summary),
    ("format_version", .int report.formatVersion),
    ("source_bucket", .str report.sourceBucket),
    ("item_count", .int report.itemCount),
    ("outstanding_jobs", (report.outstandingJobs.map fun jobs => Json.int jobs).getD .null),
    ("submission_deferred", .bool report.submissionDeferred),
    ("outcome_counts", countsJson report.outcomeCounts)]

def CompletionReport.json (report : CompletionReport) : Json :=
  .object (report.envelope ++ [("groups", groupsJson report.groups)])

/-- The message that `publish_completion_report` sends. -/
def CompletionReport.message (report : CompletionReport) : String := dumpsIndented report.json

def groupsWrapper (groups : List Group) : Json := .object [("groups", groupsJson groups)]

/-- `_EMPTY_GROUPS_WRAPPER_BYTES`. -/
def emptyGroupsWrapperBytes : Nat := (dumpsIndented (groupsWrapper [])).length

/-- `_group_bytes`. -/
def groupBytes (group : Group) : Nat :=
  (dumpsIndented (groupsWrapper [group])).length - emptyGroupsWrapperBytes + 1

/-- What the chunker takes a group to cost. -/
def groupPrice (key : GroupKey) (items : List TrackedObject) : Nat :=
  groupBytes (buildGroup isoformat key items)

/-- The priced total of a batch. -/
def pricedTotal (batch : List Listed) : Nat := ((buildGroups isoformat batch).map groupBytes).sum

/-- The groups as they stand in the message. -/
def groupsSection (groups : List Group) : String :=
  String.ofList (CanonicalJson.quote "groups" ++ [':', ' '] ++ pretty 1 (groupsJson groups))

end Report

section Lengths
variable {isoformat : Instant → String}

theorem groupBytes_eq (group : Group) : groupBytes group = (pretty 2 group.json).length + 9 := by
  have one : (pretty 1 (groupsJson [group])).length = (pretty 2 group.json).length + 10 := by
    have nested := length_pretty_list 1 (List.cons_ne_nil group.json [])
    simp only [List.map_cons, List.map_nil, List.sum_cons, List.sum_nil, List.length_cons,
      List.length_nil] at nested
    simpa only [groupsJson, List.map_cons, List.map_nil, Nat.add_assoc, Nat.zero_add, Nat.one_mul,
      Nat.reduceMul, Nat.reduceAdd, Nat.add_zero] using nested
  have none : (pretty 1 (groupsJson [])).length = 2 := length_pretty_empty 1
  simp only [groupBytes, emptyGroupsWrapperBytes, dumpsIndented, groupsWrapper,
    String.length_ofList, length_pretty_member, one, none]
  omega

/-- A group costs at least the line break, the indentation and the separator it
brings to the section. -/
theorem length_groupsSection_le (groups : List Group) :
    (groupsSection groups).length ≤ (groups.map groupBytes).sum + (groupsSection []).length := by
  have none : (pretty 1 (groupsJson [])).length = 2 := length_pretty_empty 1
  simp only [groupsSection, String.length_ofList, List.length_append, none]
  cases groups with
  | nil => rw [none]; omega
  | cons group rest =>
    have total : ∀ groups : List Group, (groups.map groupBytes).sum =
        (groups.map fun group => (pretty 2 group.json).length).sum + groups.length * 9 := by
      intro groups
      induction groups with
      | nil => rfl
      | cons group rest ih =>
        simp only [List.map_cons, List.sum_cons, List.length_cons, groupBytes_eq, ih]
        omega
    have filled := length_pretty_list 1 (List.cons_ne_nil group.json (rest.map Group.json))
    simp only [← List.map_cons, List.map_map, List.length_map, Function.comp_def,
      Nat.reduceAdd] at filled
    have some : 0 < (group :: rest).length := Nat.succ_pos _
    rw [groupsJson, filled, total]
    omega

/-- The section ends the message but for the closing brace. -/
theorem message_eq (report : CompletionReport) :
    ∃ before, report.message = before ++ groupsSection report.groups ++ "\n\x7d" := by
  obtain ⟨before, split⟩ :=
    prettyMembers_append_singleton 1 report.envelope "groups" (groupsJson report.groups)
  refine ⟨String.ofList ('{' :: before), ?_⟩
  have whole : pretty 0 report.json =
      '{' :: (prettyMembers 1 (report.envelope ++ [("groups", groupsJson report.groups)]) ++
        lineBreak 0 ++ ['}']) := by
    rw [CompletionReport.json, CompletionReport.envelope, List.cons_append, pretty]
  have close : "\n\x7d" = String.ofList (lineBreak 0 ++ ['}']) := rfl
  rw [CompletionReport.message, dumpsIndented, whole, split, groupsSection, close,
    ← String.ofList_append, ← String.ofList_append]
  simp only [List.cons_append, List.append_assoc]

end Lengths
end ReplicateOnTag.CompletionTracker
