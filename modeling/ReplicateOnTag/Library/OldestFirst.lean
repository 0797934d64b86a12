import ReplicateOnTag.Library.Dict

/-! Eviction from an insertion-ordered map, oldest key first, that spares some
of the keys. -/
namespace ReplicateOnTag.OldestFirst

variable {κ : Type u} {ν : Type v} [DecidableEq κ]

section Eviction

/-- The oldest keys that are not spared, as many as there are too many. -/
def oldest (spared : List κ) (excess : Nat) (keys : List κ) : List κ :=
  (keys.filter fun key => key ∉ spared).take excess

/-- The keys in order, until the map is small enough. -/
def evictLoop (ceiling : Nat) (spared : List κ) : List κ → Dict κ ν → List κ → Dict κ ν × List κ
  | [], entries, evicted => (entries, evicted)
  | key :: rest, entries, evicted =>
      if entries.size ≤ ceiling then (entries, evicted)
      else if key ∈ spared then evictLoop ceiling spared rest entries evicted
      else evictLoop ceiling spared rest (entries.erase key) (evicted ++ [key])

def evict (entries : Dict κ ν) (ceiling : Nat) (spared : List κ) : Dict κ ν × List κ :=
  if entries.size ≤ ceiling then (entries, []) else evictLoop ceiling spared entries.keys entries []

/-- The map without some of its keys. -/
def without (gone : List κ) (entries : Dict κ ν) : Dict κ ν :=
  entries.filter fun key _ => key ∉ gone

end Eviction

section Oldest
variable {spared keys : List κ} {key : κ} {excess : Nat}

@[simp] theorem oldest_zero (spared keys : List κ) : oldest spared 0 keys = [] := List.take_zero

@[simp] theorem oldest_nil (spared : List κ)
    (excess : Nat) : oldest spared excess [] = [] := List.take_nil

theorem oldest_spared (kept : key ∈ spared) : oldest spared excess (key :: keys) =
    oldest spared excess keys := by
  simp [oldest, kept]

theorem oldest_gone (gone : key ∉ spared) :
    oldest spared (excess + 1) (key :: keys) = key :: oldest spared excess keys := by
  simp [oldest, gone]

theorem oldest_sublist (spared : List κ) (excess : Nat) (keys : List κ) :
    (oldest spared excess keys).Sublist keys := (List.take_sublist _ _).trans List.filter_sublist

theorem not_spared (member : key ∈ oldest spared excess keys) : key ∉ spared :=
  of_decide_eq_true (List.mem_filter.mp (List.mem_of_mem_take member)).2

end Oldest

section Removal
variable {entries : Dict κ ν} {gone keys : List κ} {key : κ}

@[simp] theorem without_nil (entries : Dict κ ν) : without [] entries = entries := by
  apply Dict.ext
  simp [without, Dict.filter]

theorem without_erase (key : κ) (gone : List κ) (entries : Dict κ ν) :
    without gone (entries.erase key) = without (key :: gone) entries := by
  apply Dict.ext
  simp only [without, Dict.erase, Dict.filter, List.filter_filter, List.mem_cons, not_or]
  apply List.filter_congr
  intro entry _
  simp only [decide_not, Bool.decide_and]
  exact Bool.and_comm _ _

theorem keys_without (gone : List κ) (entries : Dict κ ν) :
    (without gone entries).keys = entries.keys.filter fun key => key ∉ gone :=
      Dict.keys_filter _ entries

/-- Every key that goes makes the map one smaller. -/
theorem size_without (among : gone.Sublist entries.keys) :
    (without gone entries).size + gone.length = entries.size := by
  have once : gone.Nodup := entries.keys_nodup.sublist among
  have taken : (entries.keys.filter fun key => key ∈ gone).Perm gone := by
    refine (List.perm_ext_iff_of_nodup (entries.keys_nodup.filter _) once).mpr fun key => ?_
    simp only [List.mem_filter, decide_eq_true_eq]
    exact ⟨And.right, fun member => ⟨among.subset member, member⟩⟩
  have split := List.length_eq_length_filter_add (l := entries.keys) fun key => decide (key ∈ gone)
  have rest : (entries.keys.filter fun key => !decide (key ∈ gone)).length =
      (without gone entries).size := by
    rw [← Dict.length_keys, keys_without]
    simp only [decide_not]
  rw [rest, taken.length_eq, Dict.length_keys] at split
  omega

theorem size_erase (member : key ∈ entries.keys) : (entries.erase key).size + 1 = entries.size := by
  have among : [key].Sublist entries.keys := List.singleton_sublist.mpr member
  have single := size_without among
  rwa [← without_erase, without_nil] at single

end Removal

section Loop
variable {spared keys : List κ}

/-- The loop removes the oldest keys among those it is given. -/
theorem evictLoop_eq (ceiling : Nat) (entries : Dict κ ν) (evicted : List κ) (once : keys.Nodup)
    (among : keys ⊆ entries.keys) : evictLoop ceiling spared keys entries evicted =
      (without (oldest spared (entries.size - ceiling) keys) entries,
        evicted ++ oldest spared (entries.size - ceiling) keys) := by
  induction keys generalizing entries evicted with
  | nil => simp [evictLoop]
  | cons key rest ih =>
    obtain ⟨fresh, later⟩ := List.nodup_cons.mp once
    obtain ⟨here, others⟩ := List.cons_subset.mp among
    by_cases small : entries.size ≤ ceiling
    · simp [evictLoop, small]
    by_cases kept : key ∈ spared
    · simp only [evictLoop, small, kept, if_true, if_false, oldest_spared kept]
      exact ih entries evicted later others
    · have smaller := size_erase here
      have excess : entries.size - ceiling = (entries.erase key).size - ceiling + 1 := by omega
      have left : rest ⊆ (entries.erase key).keys := by
        intro other member
        simp only [Dict.erase, Dict.keys_filter, List.mem_filter, decide_eq_true_eq]
        exact ⟨others member, fun same => fresh (same ▸ member)⟩
      simp only [evictLoop, small, kept, if_false, excess, oldest_gone kept]
      simpa only [without_erase, List.append_assoc, List.singleton_append] using
        ih (entries.erase key) (evicted ++ [key]) later left

theorem evict_eq (entries : Dict κ ν) (ceiling : Nat)
    (spared : List κ) : evict entries ceiling spared =
    (without (oldest spared (entries.size - ceiling) entries.keys) entries,
      oldest spared (entries.size - ceiling) entries.keys) := by
  by_cases small : entries.size ≤ ceiling
  · simp [evict, small]
  · simpa [evict, small] using
      evictLoop_eq ceiling entries [] entries.keys_nodup (List.Subset.refl entries.keys)

/-- The spared keys alone can keep the map above the ceiling. -/
theorem size_evict_le (entries : Dict κ ν) (ceiling : Nat) (spared : List κ) :
    (evict entries ceiling spared).1.size ≤ max ceiling
    (entries.keys.filter fun key => key ∈ spared).length := by
  have sizes := size_without (oldest_sublist spared (entries.size - ceiling) entries.keys)
  have split := List.length_eq_length_filter_add (l := entries.keys)
    fun key => decide (key ∈ spared)
  simp only [Dict.length_keys, ← decide_not] at split
  have gone : (oldest spared (entries.size - ceiling) entries.keys).length =
      min (entries.size - ceiling) (entries.keys.filter fun key => key ∉ spared).length :=
        List.length_take
  rw [evict_eq]
  dsimp only
  omega

end Loop
end ReplicateOnTag.OldestFirst
