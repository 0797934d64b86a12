import Mathlib.Order.Lattice
import Mathlib.Data.List.Basic

/-! A memory that forgets everything at or below a moving bound answers the
same queries above that bound as the unbounded history of what was recorded. -/
namespace ReplicateOnTag.BoundedMemory
variable {ρ : Type u} {ι : Type v} {τ : Type w} [Preorder τ] (key : ρ → ι) (time : ρ → τ)

def Seen (entries : List ρ) (id : ι) (bound : τ) : Prop :=
  ∃ entry ∈ entries, key entry = id ∧ bound < time entry

/-- `after` keeps, for every key with an entry above `start`, one of its latest
entries and nothing at or below `start`. -/
structure Prunes (start : τ) (before after : List ρ) : Prop where
  sound : ∀ entry ∈ after, entry ∈ before ∧ start < time entry
  latest : ∀ entry ∈ before, start < time entry →
    ∃ kept ∈ after, key kept = key entry ∧ time entry ≤ time kept

structure Remembers (start : τ) (memory history : List ρ) : Prop where
  above : ∀ entry ∈ memory, start < time entry
  seen_iff : ∀ id bound, start ≤ bound →
    (Seen key time memory id bound ↔ Seen key time history id bound)

variable {key time}

theorem seen_append {first second : List ρ} {id : ι} {bound : τ} :
    Seen key time (first ++ second) id bound ↔
      Seen key time first id bound ∨ Seen key time second id bound := by
  simp only [Seen, List.mem_append, or_and_right, exists_or]

theorem Prunes.seen_iff {start bound : τ} {before after : List ρ} {id : ι}
    (pruned : Prunes key time start before after) (le : start ≤ bound) :
    Seen key time after id bound ↔ Seen key time before id bound := by
  constructor
  · rintro ⟨entry, member, same, later⟩
    exact ⟨entry, (pruned.sound entry member).1, same, later⟩
  · rintro ⟨entry, member, same, later⟩
    obtain ⟨kept, keptMember, keptSame, atLeast⟩ :=
      pruned.latest entry member (lt_of_le_of_lt le later)
    exact ⟨kept, keptMember, keptSame.trans same, lt_of_lt_of_le later atLeast⟩

theorem Remembers.nil (start : τ) : Remembers key time start [] [] :=
  ⟨fun _ member => absurd member List.not_mem_nil, fun _ _ _ => Iff.rfl⟩

/-- Recording fresh entries while the bound moves up keeps the agreement. -/
theorem Remembers.record {start later : τ} {memory history fresh pruned : List ρ}
    (old : Remembers key time start memory history) (advance : start ≤ later)
    (prune : Prunes key time later (memory ++ fresh) pruned) :
    Remembers key time later pruned (history ++ fresh) := by
  refine ⟨fun entry member => (prune.sound entry member).2, ?_⟩
  intro id bound le
  rw [prune.seen_iff le, seen_append, seen_append, old.seen_iff id bound (advance.trans le)]

theorem Remembers.mem_keys_iff {start : τ} {memory history : List ρ} {id : ι}
    (agree : Remembers key time start memory history) :
    id ∈ memory.map key ↔ Seen key time history id start := by
  rw [← agree.seen_iff id start le_rfl, List.mem_map]
  constructor
  · rintro ⟨entry, member, same⟩
    exact ⟨entry, member, same, agree.above entry member⟩
  · rintro ⟨entry, member, same, _⟩
    exact ⟨entry, member, same⟩

section Widening
variable {ρ : Type u} {ι : Type v} {τ : Type w} [LinearOrder τ] {key : ρ → ι} {time : ρ → τ}

/-- Asked below its own bound, a memory answers for what lies above both. -/
theorem Remembers.seen_below {start bound : τ} {memory history : List ρ} {id : ι}
    (agree : Remembers key time start memory history) :
    Seen key time memory id bound ↔
      ∃ entry ∈ history, key entry = id ∧ start < time entry ∧ bound < time entry := by
  constructor
  · rintro ⟨entry, member, same, later⟩
    have above := agree.above entry member
    rcases le_total start bound with le | le
    · obtain ⟨other, recorded, own, past⟩ :=
        (agree.seen_iff id bound le).mp ⟨entry, member, same, later⟩
      exact ⟨other, recorded, own, le.trans_lt past, past⟩
    · obtain ⟨other, recorded, own, past⟩ :=
        (agree.seen_iff id start le_rfl).mp ⟨entry, member, same, above⟩
      exact ⟨other, recorded, own, past, le.trans_lt past⟩
  · rintro ⟨entry, recorded, same, above, later⟩
    rcases le_total start bound with le | le
    · exact (agree.seen_iff id bound le).mpr ⟨entry, recorded, same, later⟩
    · obtain ⟨other, member, own, past⟩ :=
        (agree.seen_iff id start le_rfl).mpr ⟨entry, recorded, same, above⟩
      exact ⟨other, member, own, le.trans_lt past⟩

end Widening
end ReplicateOnTag.BoundedMemory
