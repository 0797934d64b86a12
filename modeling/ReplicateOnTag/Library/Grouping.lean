import ReplicateOnTag.Library.Dict
import Mathlib.Data.List.Induction

/-! Items collected under a key, and counted by one, in the order in which the
keys first appear. -/
namespace ReplicateOnTag.Grouping
variable {κ : Type u} {α : Type v} [DecidableEq κ]

def collect (key : α → κ) (grouped : Dict κ (List α)) (item : α) : Dict κ (List α) :=
  grouped.insert (key item) ((grouped.get? (key item)).getD [] ++ [item])

/-- The items of each key, in their order. -/
def grouped (key : α → κ) (items : List α) : Dict κ (List α) := items.foldl (collect key) .empty

def count (key : α → κ) (counts : Dict κ Nat) (item : α) : Dict κ Nat :=
  counts.insert (key item) ((counts.get? (key item)).getD 0 + 1)

def tally (key : α → κ) (items : List α) : Dict κ Nat := items.foldl (count key) .empty

section Groups
variable {key : α → κ}

/-- Groups with a key each, which all their items have. -/
structure Whole (key : α → κ) (groups : List (κ × List α)) : Prop where
  distinct : (groups.map Prod.fst).Nodup
  occupied : ∀ group ∈ groups, group.2 ≠ []
  own : ∀ group ∈ groups, ∀ item ∈ group.2, key item = group.1

theorem get?_collect (grouped : Dict κ (List α)) (item : α) (name : κ) :
    (collect key grouped item).get? name =
      if name = key item then some ((grouped.get? (key item)).getD [] ++ [item])
        else grouped.get? name :=
  Dict.get?_insert _ _ _ _

theorem grouped_append (key : α → κ) (items : List α) (item : α) :
    grouped key (items ++ [item]) = collect key (grouped key items) item := by
  simp only [grouped, List.foldl_append, List.foldl_cons, List.foldl_nil]

theorem get?_grouped (key : α → κ) (items : List α) (name : κ) : (grouped key items).get? name =
    if items.filter (fun item => key item = name) = [] then none
    else some (items.filter fun item => key item = name) := by
  induction items using List.reverseRecOn with
  | nil => rfl
  | append_singleton rest item ih =>
    rw [grouped_append, get?_collect]
    by_cases own : name = key item
    · subst own
      rw [if_pos rfl, ih]
      split
      · rename_i none
        simp [none]
      · simp
    · simp only [if_neg own, ih, List.filter_append, List.filter_cons, List.filter_nil, Ne.symm own,
        decide_false, Bool.false_eq_true, if_false, List.append_nil]

theorem keys_grouped (key : α → κ)
    (items : List α) : (grouped key items).keys = (items.map key).eraseDups := by
  induction items using List.reverseRecOn with
  | nil => rfl
  | append_singleton rest item ih =>
    have added : (collect key (grouped key rest) item).keys = (grouped key rest).keys ++
        if key item ∈ (grouped key rest).keys then [] else [key item] := Dict.keys_upsert _ _ _
    rw [grouped_append, added, ih, List.map_append, List.eraseDups_append]
    congr 1
    by_cases seen : key item ∈ rest.map key
    · simp [seen, List.removeAll, -List.mem_map]
    · simp [seen, List.removeAll, List.eraseDups_cons, -List.mem_map]

theorem mem_grouped {group : κ × List α} (member : group ∈ (grouped key items).entries) :
    group.2 = items.filter (fun item => key item = group.1) ∧ group.2 ≠ [] := by
  have found := Dict.mem_entries_iff.mp member
  rw [get?_grouped] at found
  split at found
  · cases found
  · rename_i some
    rw [← Option.some.inj found]
    exact ⟨rfl, some⟩

theorem whole_grouped (key : α → κ) (items : List α) : Whole key (grouped key items).entries where
  distinct := (grouped key items).distinct
  occupied group member := (mem_grouped member).2
  own group member item listed := by
    rw [(mem_grouped member).1] at listed
    exact of_decide_eq_true (List.mem_filter.mp listed).2

/-- The groups stand in the order in which their keys first appear. -/
theorem entries_grouped [equal : BEq κ] [LawfulBEq κ] (key : α → κ)
    (items : List α) : (grouped key items).entries =
    (items.map key).eraseDups.map fun name => (name, items.filter fun item => key item = name) := by
  rw [lawful_beq_subsingleton equal instBEqOfDecidableEq, ← keys_grouped, Dict.keys, List.map_map]
  conv_lhs => rw [← List.map_id (grouped key items).entries]
  refine List.map_congr_left fun group member => ?_
  exact Prod.ext rfl (mem_grouped member).1

omit [DecidableEq κ] in
theorem Whole.sublist {groups part : List (κ × List α)} (whole : Whole key groups)
    (inside : part.Sublist groups) :
    Whole key part where
  distinct := whole.distinct.sublist (inside.map Prod.fst)
  occupied group member := whole.occupied group (inside.subset member)
  own group member := whole.own group (inside.subset member)

/-- Once a key is there, more items of it extend its group in place. -/
theorem collect_own {done : List (κ × List α)} {name : κ} {listed : List α}
    (fresh : name ∉ done.map Prod.fst)
    {grouped : Dict κ (List α)}
    (stored : grouped.entries = done ++ [(name, listed)]) (items : List α)
    (own : ∀ item ∈ items, key item = name) :
    (items.foldl (collect key) grouped).entries = done ++ [(name, listed ++ items)] := by
  induction items generalizing grouped listed with
  | nil => rw [List.foldl_nil, List.append_nil, stored]
  | cons item rest ih =>
    have here := own item List.mem_cons_self
    have found : grouped.get? name = some listed :=
      Dict.mem_entries_iff.mp (stored ▸ List.mem_append_right _ List.mem_cons_self)
    have next : (collect key grouped item).entries = done ++ [(name, listed ++ [item])] := by
      simp only [collect, here, found, Option.getD_some, Dict.insert, stored]
      clear stored found ih own
      induction done with
      | nil => simp [Dict.upsert]
      | cons head tail ih =>
        simp only [List.map_cons, List.mem_cons, not_or] at fresh
        rw [List.cons_append, Dict.upsert, if_neg (Ne.symm fresh.1), ih fresh.2, List.cons_append]
    rw [List.foldl_cons, ih next fun other listed => own other (List.mem_cons_of_mem _ listed)]
    rw [List.append_assoc, List.singleton_append]

theorem foldl_collect {groups : List (κ × List α)} (whole : Whole key groups)
    {grouped : Dict κ (List α)}
    (fresh : ∀ group ∈ groups, group.1 ∉ grouped.keys) :
    ((groups.flatMap Prod.snd).foldl (collect key) grouped).entries =
      grouped.entries ++ groups := by
  induction groups generalizing grouped with
  | nil => simp
  | cons group rest ih =>
    obtain ⟨name, listed⟩ := group
    have absent := fresh _ List.mem_cons_self
    have own := whole.own _ List.mem_cons_self
    have placed : (listed.foldl (collect key) grouped).entries = grouped.entries ++
        [(name, listed)] := by
      cases listed with
      | nil => exact absurd rfl (whole.occupied _ List.mem_cons_self)
      | cons item items =>
        have here : key item = name := own item List.mem_cons_self
        have first : (collect key grouped item).entries = grouped.entries ++ [(name, [item])] := by
          simp only [collect, here, Dict.get?_eq_none_iff.mpr absent, Option.getD_none,
            List.nil_append, Dict.insert]
          exact Dict.upsert_of_not_mem absent
        exact collect_own absent first items fun other member =>
          own other (List.mem_cons_of_mem _ member)
    rw [List.flatMap_cons, List.foldl_append, ih (whole.sublist (List.sublist_cons_self _ _)),
      placed, List.append_assoc, List.singleton_append]
    intro other member stored
    rw [Dict.keys, placed, List.map_append, List.mem_append] at stored
    rcases stored with old | new
    · exact fresh other (List.mem_cons_of_mem _ member) old
    · obtain same : other.1 = name := by simpa using new
      exact (List.nodup_cons.mp whole.distinct).1 (List.mem_map.mpr ⟨other, member, same⟩)

/-- Whole groups laid end to end are grouped as they were. -/
theorem Whole.grouped_flatMap (whole : Whole key groups) :
    (grouped key (groups.flatMap Prod.snd)).entries = groups :=
  foldl_collect whole fun _ _ => List.not_mem_nil

theorem flatten_upsert {entries : List (κ × List α)} (name : κ) (item : α)
    (distinct : (entries.map Prod.fst).Nodup) :
    ((Dict.upsert name ((entries.lookup name).getD [] ++ [item]) entries).map Prod.snd).flatten.Perm
      (item :: (entries.map Prod.snd).flatten) := by
  induction entries with
  | nil => simp [Dict.upsert]
  | cons head rest ih =>
    obtain ⟨other, group⟩ := head
    simp only [List.map_cons, List.nodup_cons] at distinct
    by_cases same : other = name
    · subst other
      simp only [Dict.upsert, if_pos, List.lookup_cons_self, Option.getD_some, List.map_cons,
        List.flatten_cons]
      rw [List.append_assoc]
      exact List.perm_middle
    · have differ : (name == other) = false := beq_eq_false_iff_ne.mpr (Ne.symm same)
      simp only [Dict.upsert, if_neg same, List.lookup_cons, differ, List.map_cons,
        List.flatten_cons]
      exact ((ih distinct.2).append_left group).trans List.perm_middle

/-- Nothing is lost or repeated. -/
theorem grouped_perm (key : α → κ)
    (items : List α) : (grouped key items).values.flatten.Perm items := by
  induction items using List.reverseRecOn with
  | nil => exact .refl _
  | append_singleton rest item ih =>
    have added : (collect key (grouped key rest) item).values.flatten.Perm
        (item :: (grouped key rest).values.flatten) :=
          flatten_upsert (key item) item (grouped key rest).distinct
    rw [grouped_append]
    exact (added.trans (ih.cons item)).trans (List.perm_append_singleton item rest).symm

end Groups

section Counts
variable {key : α → κ}

theorem get?_tally (key : α → κ) (items : List α) (name : κ) : (tally key items).get? name =
    if name ∈ items.map key then some (items.countP fun item => key item = name) else none := by
  induction items using List.reverseRecOn with
  | nil => rfl
  | append_singleton rest item ih =>
    have counted : tally key (rest ++ [item]) = count key (tally key rest) item := by
      simp only [tally, List.foldl_append, List.foldl_cons, List.foldl_nil]
    rw [counted, count, Dict.get?_insert, ih, List.map_append, List.countP_append]
    by_cases own : name = key item
    · subst own
      rw [if_pos rfl, ih]
      by_cases seen : key item ∈ rest.map key
      · simp only [Option.getD_some, List.mem_append, seen, true_or, if_true, List.countP_cons,
          List.countP_nil, decide_true, Nat.zero_add]
      · have none : rest.countP (fun other => key other = key item) = 0 := by
          refine List.countP_eq_zero.mpr fun other listed same => seen ?_
          exact List.mem_map.mpr ⟨other, listed, of_decide_eq_true same⟩
        simp [seen, none, -List.mem_map]
    · simp [own, Ne.symm own]

theorem getD_tally (key : α → κ) (items : List α) (name : κ) :
    ((tally key items).get? name).getD 0 = items.countP fun item => key item = name := by
  rw [get?_tally]
  split
  · rfl
  · rename_i absent
    refine (List.countP_eq_zero.mpr fun item listed same => absent ?_).symm
    exact List.mem_map.mpr ⟨item, listed, of_decide_eq_true same⟩

theorem mem_keys_tally {name : κ} : name ∈ (tally key items).keys ↔ name ∈ items.map key := by
  rw [Dict.mem_keys_iff, get?_tally]
  split
  · simp [*]
  · simp [*]

end Counts
end ReplicateOnTag.Grouping
