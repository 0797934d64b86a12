import ReplicateOnTag.Library.Json

/-! The canonical text of a string map determines the map, and only the order in
which its entries were stored is lost. -/
namespace ReplicateOnTag.CanonicalJson

section Reading
variable {first second : List Char}

/-- A quoted text ends where it can be read to end. -/
theorem quote_append_inj {text other : String}
    (same : quote text ++ first = quote other ++ second) :
    text = other ∧ first = second := by
  obtain ⟨body, quoted, read⟩ := Json.scanString_quote text first
  obtain ⟨body', quoted', read'⟩ := Json.scanString_quote other second
  simp only [quoted, quoted', List.cons_append, List.cons.injEq, true_and] at same
  simpa only [same, read', Option.some.injEq, Prod.mk.injEq, eq_comm] using read

theorem member_append_inj {entry other : String × String}
    (same : member entry ++ first = member other ++ second) :
    entry = other ∧ first = second := by
  simp only [member, List.append_assoc, List.cons_append] at same
  obtain ⟨key, rest⟩ := quote_append_inj same
  obtain ⟨value, later⟩ := quote_append_inj (List.cons.inj rest).2
  exact ⟨Prod.ext key value, later⟩

theorem member_ne_close (entry : String × String)
    (rest more : List Char) : member entry ++ rest ≠ '}' :: more := by
  intro same
  cases (List.cons.inj same).1

/-- The members between the braces. -/
def membersText (entries : List (String × String)) : List Char :=
  [','].intercalate (entries.map member) ++ ['}']

theorem membersText_cons (entry : String × String) (rest : List (String × String)) :
    membersText (entry :: rest) = member entry ++
      (if rest = [] then ['}'] else ',' :: membersText rest) := by
  cases rest with
  | nil => simp [membersText, List.intercalate_singleton]
  | cons next rest =>
    simp only [membersText, List.map_cons, List.intercalate_cons_cons, List.append_assoc,
      List.nil_append, List.cons_append, reduceCtorEq, if_false]

theorem membersText_injective {entries others : List (String × String)}
    (same : membersText entries = membersText others) : entries = others := by
  induction entries generalizing others with
  | nil =>
    cases others with
    | nil => rfl
    | cons other rest =>
      rw [membersText_cons] at same
      exact absurd same.symm (member_ne_close other _ _)
  | cons entry entries ih =>
    cases others with
    | nil =>
      rw [membersText_cons] at same
      exact absurd same (member_ne_close entry _ _)
    | cons other others =>
      rw [membersText_cons, membersText_cons] at same
      obtain ⟨rfl, rest⟩ := member_append_inj same
      by_cases done : entries = []
      · by_cases done' : others = []
        · rw [done, done']
        · simp [done, done'] at rest
      · by_cases done' : others = []
        · simp [done, done'] at rest
        · simp only [done, done', if_false, List.cons.injEq, true_and] at rest
          rw [ih rest]

end Reading

section Maps
variable {first second : Dict String String}

theorem entries_perm_iff : first.entries.Perm second.entries ↔
    ∀ name, first.get? name = second.get? name := by
  have once (map : Dict String String) : map.entries.Nodup :=
    List.Nodup.of_map Prod.fst map.distinct
  constructor
  · intro perm name
    apply Option.ext
    intro value
    rw [← Dict.mem_entries_iff, ← Dict.mem_entries_iff]
    exact perm.mem_iff
  · intro same
    refine (List.perm_ext_iff_of_nodup (once first) (once second)).mpr fun entry => ?_
    rw [Dict.mem_entries_iff, Dict.mem_entries_iff, same]

theorem sortedEntries_perm (map : Dict String String) : (sortedEntries map).Perm map.entries :=
  List.perm_insertionSort _ _

theorem sortedEntries_pairwise (map : Dict String String) :
    (sortedEntries map).Pairwise fun first second => first.1 ≤ second.1 := by
  have total : Std.Total fun first second : String × String => first.1 ≤ second.1 :=
    ⟨fun first second => le_total first.1 second.1⟩
  have transitive : IsTrans (String × String) fun first second => first.1 ≤ second.1 :=
    ⟨fun _ _ _ => le_trans⟩
  exact List.pairwise_insertionSort _ _

/-- Maps with the same entries are sorted alike. -/
theorem sortedEntries_eq (perm : first.entries.Perm second.entries) : sortedEntries first =
    sortedEntries second := by
  have sorted : (sortedEntries first).Perm (sortedEntries second) :=
    ((sortedEntries_perm first).trans perm).trans (sortedEntries_perm second).symm
  refine sorted.eq_of_pairwise ?_ (sortedEntries_pairwise first) (sortedEntries_pairwise second)
  rintro ⟨name, value⟩ ⟨other, value'⟩ member member' le ge
  obtain rfl : name = other := le_antisymm le ge
  have mine := Dict.mem_entries_iff.mp ((sortedEntries_perm first).mem_iff.mp member)
  have theirs := Dict.mem_entries_iff.mp
    (perm.mem_iff.mpr ((sortedEntries_perm second).mem_iff.mp member'))
  rw [Option.some.inj (mine.symm.trans theirs)]

theorem dumps_eq_iff : dumps first = dumps second ↔ ∀ name, first.get? name = second.get? name := by
  rw [← entries_perm_iff]
  constructor
  · intro same
    have texts := String.ofList_inj.mp same
    have members : membersText (sortedEntries first) = membersText (sortedEntries second) := by
      simpa only [membersText, List.cons_append, List.cons.injEq, true_and] using texts
    have entries := membersText_injective members
    exact (sortedEntries_perm first).symm.trans (entries ▸ sortedEntries_perm second)
  · intro perm
    rw [dumps, dumps, sortedEntries_eq perm]

theorem dumps_ne_null (map : Dict String String) : dumps map ≠ "null" := by
  intro same
  have texts := congrArg String.toList same
  simp [dumps] at texts

end Maps
end ReplicateOnTag.CanonicalJson
