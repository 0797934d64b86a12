import Mathlib.Data.List.Basic
import Mathlib.Data.List.Induction

/-! A request raised by the first step that observes it and standing until the
first step, from that one on, that acts; and something that is renewed by steps
and lost by others. -/
namespace ReplicateOnTag.Awaiting

section Requests
variable {α : Type u} {observes acts : α → Prop}

/-- Some step was the first to observe, and none has acted since. -/
def Standing (observes acts : α → Prop) (steps : List α) : Prop :=
  ∃ before first after, steps = before ++ first :: after ∧ observes first ∧
    (∀ step ∈ before, ¬ observes step) ∧ ∀ step ∈ first :: after, ¬ acts step

/-- The next step is in its turn: it is the first to observe, or finds the request standing. -/
def Due (observes acts : α → Prop) (steps : List α) (next : α) : Prop :=
  Standing observes acts steps ∨ observes next ∧ ∀ step ∈ steps, ¬ observes step

theorem Standing.observed (standing : Standing observes acts steps) :
    ∃ step ∈ steps, observes step := by
  obtain ⟨before, first, after, rfl, saw, _⟩ := standing
  exact ⟨first, by simp, saw⟩

theorem standing_nil : ¬ Standing observes acts [] := by
  intro standing
  obtain ⟨step, member, _⟩ := standing.observed
  cases member

/-- After a step the request stands when it was due there and the step did not act. -/
theorem standing_next : Standing observes acts (steps ++ [next]) ↔
    Due observes acts steps next ∧ ¬ acts next := by
  constructor
  · rintro ⟨before, first, after, split, saw, unseen, idle⟩
    rcases after.eq_nil_or_concat with rfl | ⟨rest, last, rfl⟩
    · obtain ⟨rfl, same⟩ := List.append_inj' split rfl
      cases same
      exact ⟨.inr ⟨saw, unseen⟩, idle next List.mem_cons_self⟩
    · have shape : steps ++ [next] = (before ++ first :: rest) ++ [last] := by simpa using split
      obtain ⟨rfl, same⟩ := List.append_inj' shape rfl
      cases same
      refine ⟨.inl ⟨before, first, rest, rfl, saw, unseen, fun step member => idle step ?_⟩,
        idle next (by simp)⟩
      rw [List.concat_eq_append, ← List.cons_append]
      exact List.mem_append_left _ member
  · rintro ⟨⟨before, first, after, rfl, saw, unseen, idle⟩ | ⟨saw, unseen⟩, quiet⟩
    · refine ⟨before, first, after ++ [next], by simp, saw, unseen, fun step member => ?_⟩
      rw [← List.cons_append, List.mem_append, List.mem_singleton] at member
      rcases member with old | rfl
      · exact idle step old
      · exact quiet
    · exact ⟨steps, next, [], rfl, saw, unseen, by simpa using quiet⟩

/-- Once a step has acted on a request, it is never due again. -/
theorem not_standing_of_acted (saw : ∃ step ∈ steps, observes step)
    (gone : ¬ Standing observes acts steps) : ¬ Due observes acts steps next := by
  rintro (standing | ⟨_, unseen⟩)
  · exact gone standing
  · obtain ⟨step, member, observed⟩ := saw
    exact unseen step member observed

end Requests

section Renewals
variable {α : Type u} {renews loses : α → Prop} {steps : List α} {next : α}

/-- Some step renewed it, and none after the last that did has lost it. -/
def Held (renews loses : α → Prop) (steps : List α) : Prop :=
  ∃ before last after, steps = before ++ last :: after ∧ renews last ∧ ∀ step ∈ after, ¬ loses step

/-- Some step lost it, and none after has renewed it. -/
def Lost (renews loses : α → Prop) (steps : List α) : Prop :=
  ∃ before last after, steps = before ++ last :: after ∧ loses last ∧ ∀ step ∈ after, ¬ renews step

/-- Both are settled by the last step, or else by the steps before it. -/
theorem settled_next {last quiet : α → Prop} :
    (∃ before step after, steps ++ [next] = before ++ step :: after ∧ last step ∧
      ∀ other ∈ after, quiet other) ↔
      last next ∨ (∃ before step after, steps = before ++ step :: after ∧ last step ∧
        ∀ other ∈ after, quiet other) ∧ quiet next := by
  constructor
  · rintro ⟨before, step, after, split, settles, rest⟩
    rcases after.eq_nil_or_concat with rfl | ⟨init, final, rfl⟩
    · obtain ⟨rfl, same⟩ := List.append_inj' split rfl
      cases same
      exact .inl settles
    · have shape : steps ++ [next] = (before ++ step :: init) ++ [final] := by simpa using split
      obtain ⟨rfl, same⟩ := List.append_inj' shape rfl
      cases same
      refine .inr ⟨⟨before, step, init, rfl, settles, fun other member =>
        rest other ?_⟩, rest next (by simp)⟩
      rw [List.concat_eq_append]
      exact List.mem_append_left _ member
  · rintro (settles | ⟨⟨before, step, after, rfl, settles, rest⟩, quiets⟩)
    · exact ⟨steps, next, [], rfl, settles, by simp⟩
    · refine ⟨before, step, after ++ [next], by simp, settles, fun other member => ?_⟩
      rcases List.mem_append.mp member with old | new
      · exact rest other old
      · exact List.mem_singleton.mp new ▸ quiets

theorem held_next : Held renews loses (steps ++ [next]) ↔
    renews next ∨ Held renews loses steps ∧ ¬ loses next := settled_next

theorem lost_next : Lost renews loses (steps ++ [next]) ↔
    loses next ∨ Lost renews loses steps ∧ ¬ renews next := settled_next

theorem Lost.lost (lost : Lost renews loses steps) : ∃ step ∈ steps, loses step := by
  obtain ⟨before, last, after, rfl, loses, _⟩ := lost
  exact ⟨last, by simp, loses⟩

theorem not_held_nil : ¬ Held renews loses [] := by
  rintro ⟨before, last, after, split, _⟩
  simp at split

/-- What was renewed once is held unless it was lost since. -/
theorem held_of_not_lost (renewed : ∃ step ∈ steps, renews step)
    (kept : ¬ Lost renews loses steps) :
    Held renews loses steps := by
  induction steps using List.reverseRecOn with
  | nil =>
    obtain ⟨step, member, _⟩ := renewed
    cases member
  | append_singleton earlier next ih =>
    rw [lost_next, not_or, not_and_or, not_not] at kept
    obtain ⟨stays, earlierKept⟩ := kept
    rw [held_next]
    by_cases now : renews next
    · exact .inl now
    · refine .inr ⟨ih ?_ (earlierKept.resolve_right now), stays⟩
      obtain ⟨step, member, own⟩ := renewed
      rcases List.mem_append.mp member with old | new
      · exact ⟨step, old, own⟩
      · exact absurd (List.mem_singleton.mp new ▸ own) now

end Renewals
end ReplicateOnTag.Awaiting
