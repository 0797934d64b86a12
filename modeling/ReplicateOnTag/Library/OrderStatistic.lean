import Mathlib.Data.List.Sort
import Mathlib.Order.Basic

/-! The value at a rank of a list with ties, counted from its least or from its
greatest end, and how many values can lie beyond it. -/
namespace ReplicateOnTag.OrderStatistic
variable {α : Type _} [LinearOrder α]

def ascending (values : List α) : List α := values.insertionSort (· ≤ ·)

/-- The value that has `rank` values before it in ascending order. -/
def fromLeast (values : List α) (rank : Nat) : Option α := (ascending values)[rank]?

def fromGreatest (values : List α) (rank : Nat) : Option α := (ascending values).reverse[rank]?

omit [LinearOrder α] in
/-- What holds of no value from a rank on holds of at most so many values. -/
theorem length_filter_le_rank {values : List α} {related : α → α → Prop} {holds : α → Bool}
    (ordered : values.Pairwise related)
    (found : values[rank]? = some value) (here : holds value = false)
    (stops : ∀ other, related value other → holds other = false) :
    (values.filter holds).length ≤ rank := by
  induction values generalizing rank with
  | nil => cases found
  | cons first rest ih =>
    obtain ⟨least, ordered⟩ := List.pairwise_cons.mp ordered
    cases rank with
    | zero =>
      simp only [List.getElem?_cons_zero, Option.some.injEq] at found
      subst found
      have none : ((first :: rest).filter holds) = [] := by
        rw [List.filter_cons_of_neg (by simp [here]), List.filter_eq_nil_iff]
        intro other member
        simp [stops other (least other member)]
      rw [none]
      exact Nat.zero_le _
    | succ rank =>
      have bound := ih ordered found
      have step : ((first :: rest).filter holds).length ≤ (rest.filter holds).length + 1 := by
        rw [List.filter_cons]
        split
        · exact le_rfl
        · omega
      omega

theorem length_filter_ascending (values : List α) (holds : α → Bool) :
    ((ascending values).filter holds).length = (values.filter holds).length :=
  ((List.perm_insertionSort (· ≤ ·) values).filter holds).length_eq

theorem length_ascending (values : List α) : (ascending values).length = values.length :=
  List.length_insertionSort (· ≤ ·) values

/-- The order of the values as given does not matter. -/
theorem ascending_perm {first second : List α}
    (perm : first.Perm second) : ascending first = ascending second := by
  have ordered (values : List α) : (ascending values).Pairwise (· ≤ ·) :=
    List.pairwise_insertionSort (· ≤ ·) values
  have same := (List.perm_insertionSort (· ≤ ·) first).trans
    (perm.trans (List.perm_insertionSort (· ≤ ·) second).symm)
  exact same.eq_of_pairwise' (ordered first) (ordered second)

/-- Descending order is ascending order read from its end. -/
theorem insertionSort_ge (values : List α) : values.insertionSort (· ≥ ·) =
    (ascending values).reverse := by
  have ordered : (ascending values).Pairwise (· ≤ ·) := List.pairwise_insertionSort (· ≤ ·) values
  have same := (List.perm_insertionSort (· ≥ ·) values).trans
    ((List.perm_insertionSort (· ≤ ·) values).symm.trans (List.reverse_perm _).symm)
  exact same.eq_of_pairwise' (List.pairwise_insertionSort (· ≥ ·) values)
    (List.pairwise_reverse.mpr ordered)

theorem count_below_fromLeast {values : List α} (found : fromLeast values rank = some value) :
    (values.filter fun other => other < value).length ≤ rank := by
  rw [← length_filter_ascending]
  have ordered : (ascending values).Pairwise (· ≤ ·) := List.pairwise_insertionSort (· ≤ ·) values
  refine length_filter_le_rank ordered found (decide_eq_false (lt_irrefl value)) ?_
  intro other le
  exact decide_eq_false (not_lt.mpr le)

theorem count_above_fromGreatest {values : List α} (found : fromGreatest values rank = some value) :
    (values.filter fun other => value < other).length ≤ rank := by
  rw [← length_filter_ascending, ← List.length_reverse, ← List.filter_reverse]
  have ordered : (ascending values).reverse.Pairwise (fun first second => second ≤ first) :=
    List.pairwise_reverse.mpr (List.pairwise_insertionSort (· ≤ ·) values)
  refine length_filter_le_rank ordered found (decide_eq_false (lt_irrefl value)) ?_
  intro other le
  exact decide_eq_false (not_lt.mpr le)

/-- Without a value at a rank there are no more values than it counts. -/
theorem length_le_of_fromGreatest_none {values : List α}
    (absent : fromGreatest values rank = none) :
    values.length ≤ rank := by
  rw [← length_ascending, ← List.length_reverse]
  exact List.getElem?_eq_none_iff.mp absent

end ReplicateOnTag.OrderStatistic
