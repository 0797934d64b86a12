import Mathlib.Data.List.Basic
import Mathlib.Data.List.Induction
import Mathlib.Data.List.Nodup

/-! Rounds that each serve the first request still open, and with it every
request that equals it: the requests are served in the order of their first
occurrence, each in one round. -/
namespace ReplicateOnTag.OneByOne
variable {α : Type u} [BEq α] [LawfulBEq α] [DecidableEq α] {requests : List α}
  {served : Nat → Option α}

omit [DecidableEq α] in
theorem nodup_eraseDups : (requests : List α) → requests.eraseDups.Nodup
  | [] => List.nodup_nil
  | head :: rest => by
    have shorter : (rest.filter fun other => !other == head).length < rest.length + 1 :=
      Nat.lt_succ_of_le (List.length_filter_le _ _)
    rw [List.eraseDups_cons, List.nodup_cons, List.mem_eraseDups]
    exact ⟨by simp, nodup_eraseDups _⟩
termination_by requests => requests.length

omit [DecidableEq α] in
theorem eraseDups_concat (requests : List α) (last : α) :
    (requests ++ [last]).eraseDups = requests.eraseDups ++
      if last ∈ requests then [] else [last] := by
  rw [List.eraseDups_append]
  congr 1
  by_cases seen : last ∈ requests <;> simp [List.removeAll, List.eraseDups_cons, seen]

omit [DecidableEq α] in
/-- Dropping repetitions before or after requests are translated is the same. -/
theorem eraseDups_filterMap {β : Type v} [BEq β] [LawfulBEq β] (translate : α → Option β)
    (requests : List α) :
    (requests.eraseDups.filterMap translate).eraseDups =
    (requests.filterMap translate).eraseDups := by
  induction requests using List.reverseRecOn with
  | nil => rfl
  | append_singleton earlier last ih =>
    have same : ∀ target, target ∈ earlier.eraseDups.filterMap translate ↔
        target ∈ earlier.filterMap translate := by
      intro target
      simp only [List.mem_filterMap, List.mem_eraseDups]
    rw [eraseDups_concat, List.filterMap_append, List.filterMap_append]
    cases translated : translate last with
    | none => by_cases seen : last ∈ earlier <;> simp [seen, translated, ih]
    | some target =>
      have single : [last].filterMap translate = [target] := by simp [translated]
      rw [single, eraseDups_concat]
      by_cases seen : last ∈ earlier
      · have known : target ∈ earlier.filterMap translate :=
          List.mem_filterMap.mpr ⟨last, seen, translated⟩
        rw [if_pos seen, if_pos known, List.filterMap_nil, List.append_nil, List.append_nil, ih]
      · rw [if_neg seen, single, eraseDups_concat, ih]
        simp only [same]

/-- Without the first that were served, the next is the first that is left. -/
theorem head?_filter_notMem_take (requests : List α) (n : Nat) :
    (requests.filter fun request => request ∉ requests.eraseDups.take n).head? =
      requests.eraseDups[n]? := by
  induction n generalizing requests with
  | zero =>
    cases requests with
    | nil => simp
    | cons head rest => simp [List.eraseDups_cons]
  | succ n ih =>
    cases requests with
    | nil => simp
    | cons head rest =>
      rw [List.eraseDups_cons, List.take_succ_cons, List.getElem?_cons_succ, ← ih, List.filter_cons,
        List.filter_filter]
      simp only [List.mem_cons, true_or, not_true, decide_false, Bool.false_eq_true, if_false]
      congr 1
      refine List.filter_congr fun other _ => ?_
      by_cases same : other = head <;> simp [same]

/-- Each round serves the first request that no round before it served. -/
def Serves (requests : List α) (served : Nat → Option α) : Prop :=
  ∀ n, served n = (requests.filter fun request => ∀ i < n, served i ≠ some request).head?

omit [BEq α] [LawfulBEq α] [DecidableEq α] in
theorem mem_take_iff {request : α} {n : Nat} : request ∈ requests.take n ↔
    ∃ i < n, requests[i]? = some request := by
  rw [List.mem_iff_getElem?]
  constructor
  · rintro ⟨i, found⟩
    rw [List.getElem?_take] at found
    split at found
    · rename_i early
      exact ⟨i, early, found⟩
    · cases found
  · rintro ⟨i, early, found⟩
    exact ⟨i, by rw [List.getElem?_take, if_pos early, found]⟩

/-- The requests are served in order of their first occurrence. -/
theorem Serves.eq (serves : Serves requests served)
    (n : Nat) : served n = requests.eraseDups[n]? := by
  induction n using Nat.strongRecOn with
  | ind n ih =>
    rw [serves n, ← head?_filter_notMem_take]
    congr 1
    refine List.filter_congr fun request _ => decide_eq_decide.mpr ?_
    rw [mem_take_iff]
    constructor
    · rintro open_ ⟨i, early, found⟩
      exact open_ i early ((ih i early).trans found)
    · rintro unserved i early found
      exact unserved ⟨i, early, (ih i early).symm.trans found⟩

/-- Every request is served in one round, before the last of as many rounds as
there are distinct requests. -/
theorem Serves.once (serves : Serves requests served) (member : request ∈ requests)
    (rounds : requests.eraseDups.length ≤ k) : ∃! n, n < k ∧ served n = some request := by
  obtain ⟨n, found⟩ := List.mem_iff_getElem?.mp (List.mem_eraseDups.mpr member)
  obtain ⟨bound, placed⟩ := List.getElem?_eq_some_iff.mp found
  refine ⟨n, ⟨Nat.lt_of_lt_of_le bound rounds, (serves.eq n).trans found⟩, ?_⟩
  rintro other ⟨_, again⟩
  rw [serves.eq other] at again
  obtain ⟨otherBound, otherPlaced⟩ := List.getElem?_eq_some_iff.mp again
  exact (List.Nodup.getElem_inj_iff (nodup_eraseDups requests)).mp (otherPlaced.trans placed.symm)

end ReplicateOnTag.OneByOne
