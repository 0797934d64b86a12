import Mathlib.Data.List.Induction
import Mathlib.Data.Set.Finite.Lemmas
import Mathlib.Order.WithBot

/-! A register in which the update of the highest rank wins. Updates may arrive
in any order and more than once: only the set of them counts. -/
namespace ReplicateOnTag.LastWriterWins
variable {σ : Type u} {υ : Type v} {τ : Type w} [LinearOrder τ]
  (rankOf : σ → WithBot τ) (rank : υ → τ)
  (apply : υ → σ → σ)

/-- An update that the register already outranks is skipped. -/
def step (state : σ) (update : υ) : σ :=
  if rankOf state ≤ rank update then apply update state else state

/-- Each update leaves its own rank and hides the update before it. -/
structure Overwrites (updates : List υ) : Prop where
  ranked : ∀ update ∈ updates, ∀ state, rankOf (apply update state) = rank update
  absorbs : ∀ update ∈ updates, ∀ earlier ∈ updates, ∀ state,
    apply update (apply earlier state) = apply update state
  distinct : ∀ update ∈ updates, ∀ other ∈ updates, rank update = rank other → update = other

variable {rankOf rank apply} {updates rest : List υ} {update top : υ} {state : σ}

omit [LinearOrder τ] in
theorem Overwrites.mono (overwrites : Overwrites rankOf rank apply updates)
    (sub : ∀ update ∈ rest, update ∈ updates) : Overwrites rankOf rank apply rest :=
  ⟨fun update member => overwrites.ranked update (sub update member),
    fun update member earlier other =>
      overwrites.absorbs update (sub update member) earlier (sub earlier other),
    fun update member other also =>
      overwrites.distinct update (sub update member) other (sub other also)⟩

/-- The register holds its first value or an update that was let in. -/
theorem foldl_reached (overwrites : Overwrites rankOf rank apply updates) (state : σ) :
    updates.foldl (step rankOf rank apply) state = state ∨
      ∃ update ∈ updates, rankOf state ≤ rank update ∧
        updates.foldl (step rankOf rank apply) state = apply update state := by
  induction updates using List.reverseRecOn with
  | nil => exact .inl rfl
  | append_singleton rest last ih =>
    have earlier := ih (overwrites.mono fun _ => List.mem_append_left _)
    have listed : last ∈ rest ++ [last] := by simp
    rw [List.foldl_append, List.foldl_cons, List.foldl_nil, step]
    split
    · rename_i letIn
      refine .inr ⟨last, listed, ?_⟩
      rcases earlier with same | ⟨update, member, before, same⟩
      · rw [same] at letIn ⊢
        exact ⟨letIn, rfl⟩
      · have old := List.mem_append_left [last] member
        rw [same] at letIn ⊢
        rw [overwrites.ranked update old] at letIn
        exact ⟨before.trans letIn, overwrites.absorbs last listed update old state⟩
    · rcases earlier with same | ⟨update, member, before, same⟩
      · exact .inl same
      · exact .inr ⟨update, List.mem_append_left _ member, before, same⟩

/-- The update of the highest rank alone decides what the register holds. -/
theorem foldl_top (overwrites : Overwrites rankOf rank apply updates) (member : top ∈ updates)
    (highest : ∀ update ∈ updates, rank update ≤ rank top) (state : σ) :
    updates.foldl (step rankOf rank apply) state = step rankOf rank apply state top := by
  induction updates using List.reverseRecOn with
  | nil => cases member
  | append_singleton rest last ih =>
    have sub := overwrites.mono fun update => List.mem_append_left [last]
    rw [List.foldl_append, List.foldl_cons, List.foldl_nil]
    by_cases final : last = top
    · subst final
      rcases foldl_reached sub state with same | ⟨update, old, before, same⟩
      · rw [same]
      · have listed := List.mem_append_left [last] old
        have below : rankOf (apply update state) ≤ rank last := by
          rw [overwrites.ranked update listed]
          exact WithBot.coe_le_coe.mpr (highest update listed)
        have through := before.trans (WithBot.coe_le_coe.mpr (highest update listed))
        rw [same, step, step, if_pos below, if_pos through]
        exact overwrites.absorbs last member update listed state
    · have old : top ∈ rest := by
        rcases List.mem_append.mp member with old | new
        · exact old
        · exact absurd (List.mem_singleton.mp new).symm final
      rw [ih sub old fun update listed => highest update (List.mem_append_left _ listed)]
      have listed : last ∈ rest ++ [last] := by simp
      have lower : rank last < rank top :=
        lt_of_le_of_ne (highest last listed) fun equal =>
          final (overwrites.distinct _ listed _ member equal)
      rw [step]
      refine if_neg (not_le.mpr ?_)
      rw [step]
      split
      · rw [overwrites.ranked top member]
        exact WithBot.coe_lt_coe.mpr lower
      · rename_i outranks
        exact (WithBot.coe_lt_coe.mpr lower).trans (not_le.mp outranks)

theorem exists_top (rank : υ → τ) (some : updates ≠ []) :
    ∃ top ∈ updates, ∀ update ∈ updates, rank update ≤ rank top :=
  Set.exists_max_image _ rank (List.finite_toSet updates) (List.exists_mem_of_ne_nil _ some)

/-- Two sequences of the same updates leave the register alike. -/
theorem foldl_eq_of_same (overwrites : Overwrites rankOf rank apply updates)
    (same : ∀ update, update ∈ updates ↔ update ∈ rest) (state : σ) :
    updates.foldl (step rankOf rank apply) state = rest.foldl (step rankOf rank apply) state := by
  by_cases empty : updates = []
  · subst empty
    have none : rest = [] := List.eq_nil_iff_forall_not_mem.mpr fun update listed => by
      cases (same update).mpr listed
    rw [none]
  obtain ⟨top, member, highest⟩ := exists_top rank empty
  rw [foldl_top overwrites member highest,
    foldl_top (overwrites.mono fun update => (same update).mpr)
    ((same top).mp member) fun update listed => highest update ((same update).mpr listed)]

end ReplicateOnTag.LastWriterWins
