import Mathlib.Data.List.Nodup
import Mathlib.Data.List.Basic
import Mathlib.Order.Basic

/-! Insertion-ordered dictionaries with one entry per key. Storing under a
present key keeps its position; storing under a fresh key appends. -/
namespace ReplicateOnTag

structure Dict (κ : Type u) (ν : Type v) where
  entries : List (κ × ν)
  distinct : (entries.map Prod.fst).Nodup

namespace Dict
variable {κ : Type u} {ν : Type v}

@[ext] theorem ext {first second : Dict κ ν} (same : first.entries = second.entries) :
    first = second := by
  cases first
  cases second
  cases same
  rfl

def empty : Dict κ ν := ⟨[], List.nodup_nil⟩

def keys (d : Dict κ ν) : List κ := d.entries.map Prod.fst

def values (d : Dict κ ν) : List ν := d.entries.map Prod.snd

def size (d : Dict κ ν) : Nat := d.entries.length

theorem keys_nodup (d : Dict κ ν) : d.keys.Nodup := d.distinct

theorem length_keys (d : Dict κ ν) : d.keys.length = d.size := List.length_map _

theorem filter_distinct {entries : List (κ × ν)} (distinct : (entries.map Prod.fst).Nodup)
    (p : κ × ν → Bool) : ((entries.filter p).map Prod.fst).Nodup :=
  distinct.sublist (List.filter_sublist.map Prod.fst)

def filter (p : κ → ν → Bool) (d : Dict κ ν) : Dict κ ν :=
  ⟨d.entries.filter fun entry => p entry.1 entry.2, filter_distinct d.distinct _⟩

def mapValues (f : κ → ν → ω) (d : Dict κ ν) : Dict κ ω :=
  ⟨d.entries.map fun entry => (entry.1, f entry.1 entry.2), by
    simpa only [List.map_map, Function.comp_def] using d.distinct⟩

section Lookup
variable [DecidableEq κ]

def get? (d : Dict κ ν) (k : κ) : Option ν := d.entries.lookup k

def contains (d : Dict κ ν) (k : κ) : Bool := (d.get? k).isSome

def upsert (k : κ) (v : ν) : List (κ × ν) → List (κ × ν)
  | [] => [(k, v)]
  | (k', v') :: rest => if k' = k then (k, v) :: rest else (k', v') :: upsert k v rest

theorem mem_keys_upsert {entries : List (κ × ν)} {k key : κ} {v : ν} :
    key ∈ (upsert k v entries).map Prod.fst ↔ key = k ∨ key ∈ entries.map Prod.fst := by
  induction entries with
  | nil => simp [upsert]
  | cons head rest ih =>
    obtain ⟨k', v'⟩ := head
    by_cases same : k' = k
    · subst k'
      simp [upsert]
    · simp only [upsert, if_neg same, List.map_cons, List.mem_cons, ih]
      tauto

/-- A new key goes to the end, a known one stays in its place. -/
theorem keys_upsert (entries : List (κ × ν)) (k : κ) (v : ν) :
    (upsert k v entries).map Prod.fst =
      entries.map Prod.fst ++ if k ∈ entries.map Prod.fst then [] else [k] := by
  induction entries with
  | nil => simp [upsert]
  | cons head rest ih =>
    obtain ⟨k', v'⟩ := head
    by_cases same : k' = k
    · subst k'
      simp [upsert]
    · simp only [upsert, if_neg same, List.map_cons, ih, List.mem_cons, Ne.symm same, false_or,
        List.cons_append]

theorem upsert_distinct {entries : List (κ × ν)} (k : κ) (v : ν)
    (distinct : (entries.map Prod.fst).Nodup) : ((upsert k v entries).map Prod.fst).Nodup := by
  induction entries with
  | nil => simp [upsert]
  | cons head rest ih =>
    obtain ⟨k', v'⟩ := head
    simp only [List.map_cons, List.nodup_cons] at distinct
    by_cases same : k' = k
    · subst k'
      simpa only [upsert, if_pos, List.map_cons, List.nodup_cons] using distinct
    · simp only [upsert, if_neg same, List.map_cons, List.nodup_cons]
      refine ⟨?_, ih distinct.2⟩
      intro member
      rcases mem_keys_upsert.mp member with equal | old
      · exact same equal
      · exact distinct.1 old

/-- `d[k] = v`. -/
def insert (d : Dict κ ν) (k : κ) (v : ν) : Dict κ ν :=
  ⟨upsert k v d.entries, upsert_distinct k v d.distinct⟩

def erase (d : Dict κ ν) (k : κ) : Dict κ ν := d.filter fun key _ => key ≠ k

private theorem lookup_cons_if (entries : List (κ × ν)) (k key : κ) (v : ν) :
    ((k, v) :: entries).lookup key = if key = k then some v else entries.lookup key := by
  by_cases same : key = k
  · simp [same]
  · have test : (key == k) = false := beq_eq_false_iff_ne.mpr same
    simp only [List.lookup_cons, test, if_neg same]

theorem mem_entries_iff {d : Dict κ ν} {k : κ} {v : ν} :
    (k, v) ∈ d.entries ↔ d.get? k = some v := by
  obtain ⟨entries, distinct⟩ := d
  simp only [get?]
  induction entries with
  | nil => simp
  | cons head rest ih =>
    obtain ⟨k', v'⟩ := head
    simp only [List.map_cons, List.nodup_cons] at distinct
    by_cases same : k = k'
    · subst k'
      have absent : (k, v) ∉ rest := fun member => distinct.1 (List.mem_map_of_mem member)
      simp [absent, eq_comm]
    · simp only [List.mem_cons, Prod.mk.injEq, same, false_and, false_or, lookup_cons_if,
        if_false]
      exact ih distinct.2

theorem get?_eq_none_iff {d : Dict κ ν} {k : κ} : d.get? k = none ↔ k ∉ d.keys := by
  constructor
  · intro missing member
    obtain ⟨entry, stored, rfl⟩ := List.mem_map.mp member
    simp [mem_entries_iff.mp stored] at missing
  · intro absent
    apply Option.eq_none_iff_forall_ne_some.mpr
    intro v stored
    exact absent (List.mem_map_of_mem (mem_entries_iff.mpr stored))

theorem mem_keys_iff {d : Dict κ ν} {k : κ} : k ∈ d.keys ↔ ∃ v, d.get? k = some v := by
  rw [← not_iff_not, ← get?_eq_none_iff, Option.eq_none_iff_forall_ne_some]
  simp

theorem mem_values_iff {d : Dict κ ν} {v : ν} : v ∈ d.values ↔ ∃ k, d.get? k = some v := by
  simp [values, ← mem_entries_iff]

@[simp] theorem get?_empty (k : κ) : (empty : Dict κ ν).get? k = none := rfl

theorem lookup_upsert (entries : List (κ × ν)) (k key : κ) (v : ν) :
    (upsert k v entries).lookup key = if key = k then some v else entries.lookup key := by
  induction entries with
  | nil => exact lookup_cons_if [] k key v
  | cons head rest ih =>
    obtain ⟨k', v'⟩ := head
    by_cases here : k' = k
    · subst k'
      simp only [upsert, if_pos, lookup_cons_if]
      by_cases same : key = k <;> simp [same]
    · simp only [upsert, if_neg here, lookup_cons_if, ih]
      by_cases same : key = k'
      · subst key
        simp [here]
      · simp [same]

theorem get?_insert (d : Dict κ ν) (k key : κ) (v : ν) :
    (d.insert k v).get? key = if key = k then some v else d.get? key :=
  lookup_upsert d.entries k key v

@[simp] theorem get?_insert_self (d : Dict κ ν) (k : κ) (v : ν) :
    (d.insert k v).get? k = some v := by
  simp [get?_insert]

theorem get?_insert_of_ne {d : Dict κ ν} {k key : κ} {v : ν} (different : key ≠ k) :
    (d.insert k v).get? key = d.get? key := by
  simp [get?_insert, different]

theorem upsert_upsert (entries : List (κ × ν)) (k : κ) (v w : ν) :
    upsert k w (upsert k v entries) = upsert k w entries := by
  induction entries with
  | nil => simp [upsert]
  | cons head rest ih =>
    obtain ⟨k', v'⟩ := head
    by_cases same : k' = k
    · simp [upsert, same]
    · simp [upsert, same, ih]

/-- A second value under a key replaces the first in place. -/
theorem insert_insert (d : Dict κ ν) (k : κ) (v w : ν) : (d.insert k v).insert k w = d.insert k w :=
  ext (upsert_upsert d.entries k v w)

theorem get?_filter (d : Dict κ ν) (p : κ → ν → Bool) (k : κ) :
    (d.filter p).get? k = (d.get? k).filter (p k) := by
  apply Option.ext
  intro v
  rw [← mem_entries_iff]
  simp [filter, List.mem_filter, mem_entries_iff, Option.filter_eq_some_iff]

@[simp] theorem get?_mapValues (d : Dict κ ν) (f : κ → ν → ω) (k : κ) :
    (d.mapValues f).get? k = (d.get? k).map (f k) := by
  apply Option.ext
  intro w
  rw [← mem_entries_iff]
  simp only [mapValues, List.mem_map, Prod.mk.injEq, Option.map_eq_some_iff, ← mem_entries_iff]
  constructor
  · rintro ⟨⟨key, v⟩, member, rfl, rfl⟩
    exact ⟨v, member, rfl⟩
  · rintro ⟨v, member, rfl⟩
    exact ⟨(k, v), member, rfl, rfl⟩

end Lookup

/-- Store the pairs one after the other. -/
def ofList [DecidableEq κ] (pairs : List (κ × ν)) : Dict κ ν :=
  pairs.foldl (fun d pair => d.insert pair.1 pair.2) empty

theorem mem_entries_ofList [DecidableEq κ] {pairs : List (κ × ν)} {k : κ} {v : ν}
    (member : (k, v) ∈ (ofList pairs).entries) : (k, v) ∈ pairs := by
  have stored : ∀ d : Dict κ ν,
      (pairs.foldl (fun d pair => d.insert pair.1 pair.2) d).get? k = some v →
      (k, v) ∈ pairs ∨ d.get? k = some v := by
    clear member
    induction pairs with
    | nil => exact fun d found => .inr found
    | cons pair rest ih =>
      intro d found
      rcases ih _ found with later | inserted
      · exact .inl (List.mem_cons_of_mem _ later)
      · rw [get?_insert] at inserted
        split at inserted
        · rename_i own
          cases inserted
          exact .inl (by rw [own]; exact List.mem_cons_self)
        · exact .inr inserted
  rcases stored empty (mem_entries_iff.mp member) with listed | none
  · exact listed
  · cases none

theorem mem_keys_ofList [DecidableEq κ] {pairs : List (κ × ν)} {k : κ} :
    k ∈ (ofList pairs).keys ↔ k ∈ pairs.map Prod.fst := by
  have stored : ∀ d : Dict κ ν, k ∈ (pairs.foldl (fun d pair => d.insert pair.1 pair.2) d).keys ↔
      k ∈ pairs.map Prod.fst ∨ k ∈ d.keys := by
    induction pairs with
    | nil => simp
    | cons pair rest ih =>
      intro d
      have inserted : k ∈ (d.insert pair.1 pair.2).keys ↔ k = pair.1 ∨ k ∈ d.keys := mem_keys_upsert
      rw [List.foldl_cons, ih, inserted, List.map_cons, List.mem_cons]
      tauto
  have none : k ∉ (empty : Dict κ ν).keys := List.not_mem_nil
  rw [ofList, stored]
  exact or_iff_left none

/-- Pairs with distinct keys are all found again. -/
theorem get?_ofList [DecidableEq κ] {pairs : List (κ × ν)} (distinct : (pairs.map Prod.fst).Nodup)
    (member : (k, v) ∈ pairs) : (ofList pairs).get? k = some v := by
  obtain ⟨w, found⟩ := mem_keys_iff.mp (mem_keys_ofList.mpr (List.mem_map_of_mem member))
  have listed := mem_entries_ofList (mem_entries_iff.mpr found)
  have same := List.inj_on_of_nodup_map distinct listed member rfl
  rw [found, (Prod.mk.inj same).2]

theorem upsert_of_not_mem [DecidableEq κ] {entries : List (κ × ν)} {k : κ} {v : ν}
    (absent : k ∉ entries.map Prod.fst) : upsert k v entries = entries ++ [(k, v)] := by
  induction entries with
  | nil => rfl
  | cons head rest ih =>
    simp only [List.map_cons, List.mem_cons, not_or] at absent
    rw [upsert, if_neg (Ne.symm absent.1), ih absent.2, List.cons_append]

/-- Pairs with new keys are stored behind the others as they come. -/
theorem foldl_upsert_of_nodup [DecidableEq κ] (pairs done : List (κ × ν))
    (distinct : (done.map Prod.fst ++ pairs.map Prod.fst).Nodup) :
    pairs.foldl (fun entries pair => upsert pair.1 pair.2 entries) done = done ++ pairs := by
  induction pairs generalizing done with
  | nil => exact (List.append_nil done).symm
  | cons pair rest ih =>
    have absent : pair.1 ∉ done.map Prod.fst := fun member =>
      (List.disjoint_of_nodup_append distinct) member List.mem_cons_self
    rw [List.foldl_cons, upsert_of_not_mem absent, ih]
    · rw [List.append_assoc, List.singleton_append]
    · rw [List.map_append, List.append_assoc]
      exact distinct

theorem ofList_entries [DecidableEq κ] (d : Dict κ ν) : ofList d.entries = d := by
  have stored (pairs : List (κ × ν)) (start : Dict κ ν) :
      (pairs.foldl (fun d pair => d.insert pair.1 pair.2) start).entries =
        pairs.foldl (fun entries pair => upsert pair.1 pair.2 entries) start.entries := by
    induction pairs generalizing start with
    | nil => rfl
    | cons pair rest ih => exact ih (start.insert pair.1 pair.2)
  apply ext
  rw [ofList, stored]
  exact foldl_upsert_of_nodup d.entries [] d.distinct

private theorem map_congr_of_keys {f : κ × ν → ω} {first second : List (κ × ν)}
    (keys : first.map Prod.fst = second.map Prod.fst)
    (same : ∀ k v w, (k, v) ∈ first → (k, w) ∈ second → f (k, v) = f (k, w)) :
    first.map f = second.map f := by
  induction first generalizing second with
  | nil => rw [List.map_eq_nil_iff.mp keys.symm]
  | cons head rest ih =>
    obtain ⟨k, v⟩ := head
    cases second with
    | nil => cases keys
    | cons other others =>
      obtain ⟨k', w⟩ := other
      obtain ⟨rfl, tail⟩ := List.cons.inj keys
      have here := same k v w List.mem_cons_self List.mem_cons_self
      have later := ih tail fun key left right mine theirs =>
        same key left right (List.mem_cons_of_mem _ mine) (List.mem_cons_of_mem _ theirs)
      rw [List.map_cons, List.map_cons, here, later]

/-- Two dictionaries with the same keys in the same order agree under a function
that does not tell their values apart. -/
theorem map_entries_congr [DecidableEq κ] {first second : Dict κ ν}
    (keys : first.keys = second.keys)
    {f : κ × ν → ω} (same : ∀ k v w, first.get? k = some v → second.get? k = some w →
      f (k, v) = f (k, w)) :
    first.entries.map f = second.entries.map f :=
  map_congr_of_keys keys fun k v w mine theirs =>
    same k v w (mem_entries_iff.mp mine) (mem_entries_iff.mp theirs)

theorem keys_filter (p : κ → Bool)
    (d : Dict κ ν) : (d.filter fun key _ => p key).keys = d.keys.filter p := by
  rw [keys, keys, List.filter_map]
  rfl

instance [DecidableEq κ] [DecidableEq ν] : DecidableEq (Dict κ ν) := fun first second =>
  decidable_of_iff (first.entries = second.entries) ⟨ext, congrArg entries⟩

end Dict
end ReplicateOnTag
