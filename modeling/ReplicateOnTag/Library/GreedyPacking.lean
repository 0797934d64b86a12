import Mathlib.Algebra.BigOperators.Group.List.Basic
import Mathlib.Algebra.GroupWithZero.Nat

/-! Priced pieces packed in order: a piece that no longer fits opens a new batch,
and a piece that fits nowhere has a batch of its own. -/
namespace ReplicateOnTag.GreedyPacking
variable {γ : Type u}

structure Packing (γ : Type u) where
  closed : List (List γ)
  current : List γ

def total (cost : γ → Nat) (batch : List γ) : Nat := (batch.map cost).sum

def place (cost : γ → Nat) (limit : Nat) (packing : Packing γ) (piece : γ) : Packing γ :=
  if packing.current ≠ [] ∧ limit < total cost packing.current + cost piece then
    ⟨packing.closed ++ [packing.current], [piece]⟩
  else ⟨packing.closed, packing.current ++ [piece]⟩

def Packing.batches (packing : Packing γ) : List (List γ) :=
  if packing.current = [] then packing.closed else packing.closed ++ [packing.current]

def pack (cost : γ → Nat) (limit : Nat) (pieces : List γ) : List (List γ) :=
  (pieces.foldl (place cost limit) ⟨[], []⟩).batches

/-- A batch may exceed the limit only as a single piece. -/
def Fits (cost : γ → Nat) (limit : Nat) (batch : List γ) : Prop :=
  total cost batch ≤ limit ∨ ∃ piece, batch = [piece]

section Placing
variable {cost : γ → Nat} {limit : Nat}

@[simp] theorem total_append (cost : γ → Nat) (first second : List γ) :
    total cost (first ++ second) = total cost first + total cost second := by
  simp only [total, List.map_append, List.sum_append]

@[simp] theorem total_singleton (cost : γ → Nat) (piece : γ) : total cost [piece] = cost piece := by
  simp only [total, List.map_cons, List.map_nil, List.sum_cons, List.sum_nil, Nat.add_zero]

@[simp] theorem flatten_batches (packing : Packing γ) :
    packing.batches.flatten = packing.closed.flatten ++ packing.current := by
  rw [Packing.batches]
  split
  · rename_i none
    rw [none, List.append_nil]
  · simp

theorem flatten_place (packing : Packing γ) (piece : γ) :
    (place cost limit packing piece).batches.flatten = packing.batches.flatten ++ [piece] := by
  simp only [place, flatten_batches]
  split <;> simp

structure Sound (cost : γ → Nat) (limit : Nat) (packing : Packing γ) : Prop where
  occupied : ∀ batch ∈ packing.closed, batch ≠ []
  fits : ∀ batch ∈ packing.closed, Fits cost limit batch
  current : packing.current ≠ [] → Fits cost limit packing.current

theorem sound_place (sound : Sound cost limit packing)
    (piece : γ) : Sound cost limit (place cost limit packing piece) := by
  rw [place]
  split
  · rename_i full
    have closing : ∀ batch ∈ packing.closed ++ [packing.current], batch ≠ [] ∧
        Fits cost limit batch := by
      intro batch member
      rcases List.mem_append.mp member with old | new
      · exact ⟨sound.occupied batch old, sound.fits batch old⟩
      · rw [List.mem_singleton.mp new]
        exact ⟨full.1, sound.current full.1⟩
    exact ⟨fun batch member => (closing batch member).1, fun batch member =>
      (closing batch member).2,
      fun _ => .inr ⟨piece, rfl⟩⟩
  · rename_i room
    refine ⟨sound.occupied, sound.fits, fun _ => ?_⟩
    by_cases none : packing.current = []
    · exact .inr ⟨piece, by rw [none, List.nil_append]⟩
    · have within : total cost packing.current + cost piece ≤ limit :=
        Nat.le_of_not_lt fun exceeds => room ⟨none, exceeds⟩
      exact .inl (by rwa [total_append, total_singleton])

theorem sound_foldl (sound : Sound cost limit packing) (pieces : List γ) :
    Sound cost limit (pieces.foldl (place cost limit) packing) := by
  induction pieces generalizing packing with
  | nil => exact sound
  | cons piece rest ih => exact ih (sound_place sound piece)

/-- The batches hold the pieces in order. -/
theorem flatten_pack (cost : γ → Nat) (limit : Nat)
    (pieces : List γ) : (pack cost limit pieces).flatten = pieces := by
  have placed (packing : Packing γ) : (pieces.foldl (place cost limit) packing).batches.flatten =
      packing.batches.flatten ++ pieces := by
    induction pieces generalizing packing with
    | nil => simp
    | cons piece rest ih =>
      rw [List.foldl_cons, ih, flatten_place, List.append_assoc, List.singleton_append]
  exact placed ⟨[], []⟩

theorem mem_pack (member : batch ∈ pack cost limit pieces) : batch ≠ [] ∧
    Fits cost limit batch := by
  have sound : Sound cost limit (pieces.foldl (place cost limit) ⟨[], []⟩) :=
    sound_foldl ⟨by simp, by simp, fun some => absurd rfl some⟩ pieces
  rw [pack, Packing.batches] at member
  split at member
  · exact ⟨sound.occupied batch member, sound.fits batch member⟩
  · rename_i open_
    rcases List.mem_append.mp member with old | new
    · exact ⟨sound.occupied batch old, sound.fits batch old⟩
    · rw [List.mem_singleton.mp new]
      exact ⟨open_, sound.current open_⟩

/-- A property of all pairs in order holds across any two batches. -/
theorem pairwise_pack {related : γ → γ → Prop} (ordered : pieces.Pairwise related) :
    (pack cost limit pieces).Pairwise fun first second => ∀ one ∈ first, ∀ other ∈ second,
      related one other := by
  rw [← flatten_pack cost limit pieces, List.pairwise_flatten] at ordered
  exact ordered.2

theorem sublist_of_mem_pack (member : batch ∈ pack cost limit pieces) : batch.Sublist pieces := by
  conv_rhs => rw [← flatten_pack cost limit pieces]
  exact List.sublist_flatten_of_mem member

end Placing
end ReplicateOnTag.GreedyPacking
