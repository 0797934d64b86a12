import Mathlib.Data.List.Induction
import Mathlib.Data.List.MinMax
import Mathlib.Order.Lattice
import ReplicateOnTag.Library.Dict

/-! A fold that keeps, for each key, the first item of the highest rank. -/
namespace ReplicateOnTag.KeepBest
variable {κ : Type u} {ι : Type v} {τ : Type w} [DecidableEq κ] [LinearOrder τ]
  (key : ι → κ) (rank : ι → τ)

def keep (best : Dict κ ι) (item : ι) : Dict κ ι :=
  match best.get? (key item) with
  | none => best.insert (key item) item
  | some existing => if rank existing < rank item then best.insert (key item) item else best

/-- Every entry is one of the items, filed under its own key, and none of the
items outranks the entry of its key. -/
structure Keeps (items : List ι) (best : Dict κ ι) : Prop where
  own : ∀ id item, best.get? id = some item → key item = id
  sound : ∀ id item, best.get? id = some item → item ∈ items
  best : ∀ item ∈ items, ∃ kept, best.get? (key item) = some kept ∧ rank item ≤ rank kept

variable {key rank} {items : List ι} {best : Dict κ ι} {item : ι}

theorem Keeps.empty : Keeps key rank [] .empty := ⟨by simp, by simp, by simp⟩

/-- An item that outranks the entry of its key takes its place. -/
theorem Keeps.insert (kept : Keeps key rank items best)
    (outranks : ∀ existing, best.get? (key item) = some existing → rank existing ≤ rank item) :
    Keeps key rank (items ++ [item]) (best.insert (key item) item) := by
  constructor
  · intro id stored found
    rw [Dict.get?_insert] at found
    split at found
    · rename_i same
      rw [← Option.some.inj found, same]
    · exact kept.own id stored found
  · intro id stored found
    rw [Dict.get?_insert] at found
    split at found
    · exact List.mem_append_right _ (List.mem_singleton.mpr (Option.some.inj found).symm)
    · exact List.mem_append_left _ (kept.sound id stored found)
  · intro seen member
    rw [Dict.get?_insert]
    rcases List.mem_append.mp member with old | new
    · obtain ⟨existing, found, le⟩ := kept.best seen old
      split
      · rename_i same
        exact ⟨item, rfl, le.trans (outranks existing (same ▸ found))⟩
      · exact ⟨existing, found, le⟩
    · rw [List.mem_singleton.mp new, if_pos rfl]
      exact ⟨item, rfl, le_rfl⟩

/-- An item that does not outrank the entry of its key is dropped. -/
theorem Keeps.drop (kept : Keeps key rank items best) (found : best.get? (key item) = some existing)
    (outranked : rank item ≤ rank existing) : Keeps key rank (items ++ [item]) best := by
  constructor
  · exact kept.own
  · intro id stored listed
    exact List.mem_append_left _ (kept.sound id stored listed)
  · intro seen member
    rcases List.mem_append.mp member with old | new
    · exact kept.best seen old
    · rw [List.mem_singleton.mp new]
      exact ⟨existing, found, outranked⟩

theorem Keeps.step (kept : Keeps key rank items best) (item : ι) :
    Keeps key rank (items ++ [item]) (keep key rank best item) := by
  rw [keep]
  cases found : best.get? (key item) with
  | none => exact kept.insert fun existing stored => by simp [found] at stored
  | some existing =>
    by_cases outranks : rank existing < rank item
    · simp only [if_pos outranks]
      refine kept.insert ?_
      intro other stored
      rw [found, Option.some.injEq] at stored
      exact stored ▸ outranks.le
    · simp only [if_neg outranks]
      exact kept.drop found (not_lt.mp outranks)

theorem keeps_fold (key : ι → κ) (rank : ι → τ) (items : List ι) :
    Keeps key rank items (items.foldl (keep key rank) .empty) := by
  induction items using List.reverseRecOn with
  | nil => exact .empty
  | append_singleton rest last ih =>
    rw [List.foldl_append]
    exact ih.step last

/-- The entries are told apart by their keys. -/
theorem Keeps.unique (kept : Keeps key rank items best) (first : one ∈ best.values)
    (second : other ∈ best.values) (same : key one = key other) : one = other := by
  obtain ⟨oneId, found⟩ := Dict.mem_values_iff.mp first
  obtain ⟨otherId, stored⟩ := Dict.mem_values_iff.mp second
  rw [← kept.own oneId one found, same, kept.own otherId other stored, stored] at found
  exact (Option.some.inj found).symm

theorem Keeps.mem (kept : Keeps key rank items best)
    (member : item ∈ best.values) : item ∈ items := by
  obtain ⟨id, found⟩ := Dict.mem_values_iff.mp member
  exact kept.sound id item found

/-- Each item is represented by an entry of its key and at least its rank. -/
theorem Keeps.represents (kept : Keeps key rank items best) (member : item ∈ items) :
    ∃ entry ∈ best.values, key entry = key item ∧ rank item ≤ rank entry := by
  obtain ⟨entry, found, le⟩ := kept.best item member
  exact ⟨entry, Dict.mem_values_iff.mpr ⟨_, found⟩, kept.own _ entry found, le⟩

/-- The first item of the highest rank among those of a key. -/
def bestOf (key : ι → κ) (rank : ι → τ) (items : List ι) (id : κ) : Option ι :=
  (items.filter fun item => key item = id).argmax rank

theorem bestOf_concat (items : List ι) (item : ι) (id : κ) :
    bestOf key rank (items ++ [item]) id =
      if key item = id then
        match bestOf key rank items id with
        | none => some item
        | some existing => if rank existing < rank item then some item else some existing
      else bestOf key rank items id := by
  rw [bestOf, List.filter_append, List.filter_singleton]
  by_cases own : key item = id
  · rw [if_pos own, decide_eq_true own, Bool.cond_true, List.argmax_concat]
    cases found : (items.filter fun other => key other = id).argmax rank with
    | none => simp only [bestOf, found]
    | some existing => simp only [bestOf, found]
  · rw [if_neg own, decide_eq_false own, Bool.cond_false, List.append_nil, bestOf]

/-- The fold files the best item of each key. -/
theorem get?_fold (items : List ι) (id : κ) :
    (items.foldl (keep key rank) .empty).get? id = bestOf key rank items id := by
  induction items using List.reverseRecOn with
  | nil => rfl
  | append_singleton rest last ih =>
    rw [List.foldl_append, List.foldl_cons, List.foldl_nil, bestOf_concat, keep]
    generalize rest.foldl (keep key rank) .empty = best at ih
    by_cases own : key last = id
    · subst own
      rw [if_pos rfl, ← ih]
      cases found : best.get? (key last) with
      | none => exact Dict.get?_insert_self _ _ _
      | some existing =>
        by_cases outranks : rank existing < rank last
        · simp only [if_pos outranks, Dict.get?_insert_self]
        · simp only [if_neg outranks, found]
    · rw [if_neg own, ← ih]
      cases best.get? (key last) with
      | none => exact Dict.get?_insert_of_ne (Ne.symm own)
      | some existing =>
        by_cases outranks : rank existing < rank last
        · simp only [if_pos outranks, Dict.get?_insert_of_ne (Ne.symm own)]
        · simp only [if_neg outranks]

theorem bestOf_mem {id : κ} (found : bestOf key rank items id = some item) :
    item ∈ items ∧ key item = id ∧ ∀ other ∈ items, key other = id → rank other ≤ rank item := by
  obtain ⟨member, own⟩ := List.mem_filter.mp (List.argmax_mem found)
  refine ⟨member, of_decide_eq_true own, ?_⟩
  intro other listed same
  exact List.le_of_mem_argmax (List.mem_filter.mpr ⟨listed, decide_eq_true same⟩) found

/-- Where ranks tell the items of a key apart, its best item does not depend on
their order. -/
theorem bestOf_eq_some_iff {id : κ} (distinct : ∀ one ∈ items, ∀ other ∈ items,
    key one = key other → rank one = rank other → one = other) :
    bestOf key rank items id = some item ↔
      item ∈ items ∧ key item = id ∧ ∀ other ∈ items, key other = id → rank other ≤ rank item := by
  constructor
  · exact bestOf_mem
  · rintro ⟨member, own, highest⟩
    cases found : bestOf key rank items id with
    | none =>
      have empty := List.argmax_eq_none.mp found
      exact absurd (List.mem_filter.mpr ⟨member, decide_eq_true own⟩) (empty ▸ List.not_mem_nil)
    | some best =>
      obtain ⟨listed, same, most⟩ := bestOf_mem found
      have rank := le_antisymm (highest best listed same) (most item member own)
      rw [distinct best listed item member (same.trans own.symm) rank]

/-- The keys stand in the order in which they were first seen. -/
theorem keys_keep (best : Dict κ ι) (item : ι) :
    (keep key rank best item).keys = best.keys ++
      if key item ∈ best.keys then [] else [key item] := by
  have inserted : (best.insert (key item) item).keys =
      best.keys ++ if key item ∈ best.keys then [] else [key item] := Dict.keys_upsert _ _ _
  rw [keep]
  cases found : best.get? (key item) with
  | none => exact inserted
  | some existing =>
    simp only
    split
    · exact inserted
    · rw [if_pos (Dict.mem_keys_iff.mpr ⟨existing, found⟩), List.append_nil]

/-- Each entry stands under its own key. -/
theorem Keeps.map_values (kept : Keeps key rank items best) : best.values.map key = best.keys := by
  rw [Dict.values, Dict.keys, List.map_map]
  refine List.map_congr_left fun entry listed => ?_
  exact kept.own entry.1 entry.2 (Dict.mem_entries_iff.mp listed)

end ReplicateOnTag.KeepBest
