import Mathlib.Data.List.Basic
import Mathlib.Logic.Function.Basic
import Mathlib.Order.Basic
import Mathlib.Data.Nat.Basic

/-! One object under conditional writes. Its token is the number of writes so
far, so every write issues a fresh one and zero stands for an absent object.
Clients read, compute and put in any interleaving; a put that succeeds is its
update applied to the content it replaces. -/
namespace ReplicateOnTag.ConditionalStore

/-- Written contents, newest first. -/
structure Register (α : Type u) where
  writes : List α

namespace Register
variable {α : Type u}

def content (register : Register α) : Option α := register.writes.head?

def token (register : Register α) : Nat := register.writes.length

/-- Succeeds only on the expected token; zero asks for an absent object. -/
def put (register : Register α) (expected : Nat) (body : α) : Option (Register α) :=
  if register.token = expected then some ⟨body :: register.writes⟩ else none

end Register

/-- A read-modify-write. `rereads` takes a second read before computing, and
`adopts` replaces a missing precondition by the token of its own read. -/
structure Update (α : Type u) where
  rereads : Bool
  adopts : Bool
  compute : Option α → Option α → Option α
  adoptsSingle : adopts = true → rereads = false

namespace Update
variable {α : Type u}

def readsNeeded (update : Update α) : Nat := if update.rereads then 2 else 1

/-- The update as one atomic step on the stored content. -/
def atomically (update : Update α) (stored : Option α) : Option α := update.compute stored stored

end Update

structure Snapshot (α : Type u) where
  token : Nat
  content : Option α

/-- An operation in flight: the token its caller observed and its reads, oldest first. -/
structure Attempt (Op : Type v) (α : Type u) where
  op : Op
  expected : Nat
  reads : List (Snapshot α)

structure Config (Op : Type v) (α : Type u) where
  register : Register α
  attempts : Nat → Option (Attempt Op α)

structure Written (Op : Type v) (α : Type u) where
  op : Op
  before : Option α
  after : α

variable {Op : Type v} {α : Type u} (program : Op → Update α)

def precondition (attempt : Attempt Op α) : Nat :=
  if (program attempt.op).adopts ∧ attempt.expected = 0 then
    (attempt.reads.head?.map Snapshot.token).getD 0
  else attempt.expected

def body (attempt : Attempt Op α) : Option α :=
  match attempt.reads.head?, attempt.reads.getLast? with
  | some first, some last => (program attempt.op).compute first.content last.content
  | _, _ => none

/-- Labels carry the operation of a successful put. A refused put, a failed
computation and a crash all abandon the attempt. -/
inductive Step : Config Op α → List (Written Op α) → Config Op α → Prop where
  | start {client expected : Nat} {op : Op} (idle : config.attempts client = none)
      (observed : expected ≤ config.register.token) :
      Step config []
        { config with attempts := Function.update config.attempts client (some ⟨op, expected, []⟩) }
  | read {client : Nat} {attempt : Attempt Op α} (active : config.attempts client = some attempt)
      (pending : attempt.reads.length < (program attempt.op).readsNeeded) :
      Step config []
        { config with
          attempts := Function.update config.attempts client (some { attempt with
            reads := attempt.reads ++ [⟨config.register.token, config.register.content⟩] }) }
  | put {client : Nat} {attempt : Attempt Op α} {written : α} {register : Register α}
      (active : config.attempts client = some attempt)
      (ready : attempt.reads.length = (program attempt.op).readsNeeded)
      (computed : body program attempt = some written)
      (accepted : config.register.put (precondition program attempt) written = some register) :
      Step config [⟨attempt.op, config.register.content, written⟩]
        ⟨register, Function.update config.attempts client none⟩
  | abandon {client : Nat} {attempt : Attempt Op α}
      (active : config.attempts client = some attempt) :
      Step config [] { config with attempts := Function.update config.attempts client none }

inductive Reaches : Config Op α → List (Written Op α) → Config Op α → Prop where
  | refl (config : Config Op α) : Reaches config [] config
  | next : Reaches first earlier middle → Step program middle later last →
      Reaches first (earlier ++ later) last

/-- Reads of an attempt lie between the observed token and the current one, and
a read at the current token saw the current content. -/
def Consistent (register : Register α) (attempt : Attempt Op α) : Prop :=
  attempt.expected ≤ register.token ∧ ∀ snapshot ∈ attempt.reads,
    attempt.expected ≤ snapshot.token ∧ snapshot.token ≤ register.token ∧
      (snapshot.token = register.token → snapshot.content = register.content)

def AllConsistent (config : Config Op α) : Prop :=
  ∀ client attempt, config.attempts client = some attempt → Consistent config.register attempt

def idle (register : Register α) : Config Op α := ⟨register, fun _ => none⟩

theorem idle_consistent (register : Register α) : AllConsistent (idle register : Config Op α) := by
  intro client attempt active
  cases active

theorem update_attempts (attempts : Nat → Option (Attempt Op α)) (client other : Nat)
    (stored : Option (Attempt Op α)) :
    Function.update attempts client stored other = if other = client then stored
      else attempts other := by
  by_cases same : other = client
  · subst other
    simp
  · simp [same]

theorem Consistent.write {attempt : Attempt Op α} (consistent : Consistent register attempt)
    (written : α) : Consistent ⟨written :: register.writes⟩ attempt := by
  have grows : register.token < Register.token ⟨written :: register.writes⟩ := by
    simp [Register.token]
  refine ⟨Nat.le_trans consistent.1 grows.le, ?_⟩
  intro snapshot member
  obtain ⟨observed, atMost, _⟩ := consistent.2 snapshot member
  exact ⟨observed, Nat.le_trans atMost grows.le,
    fun same => absurd (same ▸ grows) (Nat.not_lt.mpr atMost)⟩

variable {program}

theorem consistent_step (consistent : AllConsistent config)
    (step : Step program config written after) : AllConsistent after := by
  intro other attempt active
  cases step with
  | start _ observed =>
    simp only [update_attempts] at active
    split at active
    · cases active
      exact ⟨observed, by simp⟩
    · exact consistent other attempt active
  | @read client earlier found pending =>
    simp only [update_attempts] at active
    split at active
    · cases active
      have old := consistent client earlier found
      refine ⟨old.1, ?_⟩
      intro snapshot member
      rcases List.mem_append.mp member with seen | fresh
      · exact old.2 snapshot seen
      · rw [List.mem_singleton.mp fresh]
        exact ⟨old.1, le_rfl, fun _ => rfl⟩
    · exact consistent other attempt active
  | @put client finished written register found ready computed accepted =>
    simp only [Register.put] at accepted
    split at accepted
    · cases accepted
      simp only [update_attempts] at active
      split at active
      · cases active
      · exact (consistent other attempt active).write written
    · cases accepted
  | abandon found =>
    simp only [update_attempts] at active
    split at active
    · cases active
    · exact consistent other attempt active

theorem consistent_reaches (consistent : AllConsistent first)
    (path : Reaches program first written last) : AllConsistent last := by
  induction path with
  | refl => exact consistent
  | next _ step ih => exact consistent_step ih step

/-- At an accepted precondition, every read saw the content being replaced. -/
theorem reads_current {attempt : Attempt Op α} (consistent : Consistent register attempt)
    (ready : attempt.reads.length = (program attempt.op).readsNeeded)
    (accepted : register.token = precondition program attempt) :
    ∀ snapshot ∈ attempt.reads, snapshot.content = register.content := by
  intro snapshot member
  obtain ⟨observed, atMost, current⟩ := consistent.2 snapshot member
  apply current
  rw [precondition] at accepted
  split at accepted
  · rename_i adopted
    have single : attempt.reads.length = 1 := by
      rw [ready, Update.readsNeeded, (program attempt.op).adoptsSingle adopted.1]
      rfl
    obtain ⟨only, shape⟩ := List.length_eq_one_iff.mp single
    rw [shape, List.mem_singleton] at member
    simp only [shape, List.head?_cons, Option.map_some, Option.getD_some] at accepted
    rw [member, accepted]
  · exact le_antisymm atMost (accepted ▸ observed)

/-- A successful put is its operation applied atomically to what it replaced,
whatever the other clients did between its reads and its write. -/
theorem written_atomically (consistent : AllConsistent config)
    (step : Step program config written after) (event : entry ∈ written) :
    entry.before = config.register.content ∧ after.register.content = some entry.after ∧
      (program entry.op).atomically entry.before = some entry.after := by
  cases step with
  | start | read | abandon => simp at event
  | @put client attempt written register active ready computed accepted =>
    rw [List.mem_singleton] at event
    subst event
    simp only [Register.put] at accepted
    split at accepted
    · rename_i current
      cases accepted
      have needed : attempt.reads ≠ [] := by
        intro empty
        rw [empty, Update.readsNeeded] at ready
        cases rereads : (program attempt.op).rereads <;> simp [rereads] at ready
      have seen := reads_current (consistent client attempt active) ready current
      obtain ⟨first, head⟩ := Option.isSome_iff_exists.mp (List.isSome_head?.mpr needed)
      obtain ⟨last, tail⟩ : ∃ last, attempt.reads.getLast? = some last :=
        ⟨_, List.getLast?_eq_some_getLast needed⟩
      refine ⟨rfl, rfl, ?_⟩
      simp only [body, head, tail] at computed
      rw [seen first (List.mem_of_head? head), seen last (List.mem_of_getLast? tail)] at computed
      exact computed
    · cases accepted

/-- Steps without a successful put leave the register alone. -/
theorem register_unwritten (step : Step program config [] after) :
    after.register = config.register := by
  cases step <;> rfl

/-- What every write preserves is preserved by every run of every number of clients. -/
theorem reaches_preserves (related : Option α → Option α → Prop)
    (refl : ∀ stored, related stored stored)
    (trans : ∀ {a b c}, related a b → related b c → related a c)
    (consistent : AllConsistent first) (path : Reaches program first written last)
    (each : ∀ entry ∈ written, (program entry.op).atomically entry.before = some entry.after →
      related entry.before (some entry.after)) :
    related first.register.content last.register.content := by
  induction path with
  | refl => exact refl _
  | @next earlier middle later final path step ih =>
    have before := ih fun entry member => each entry (List.mem_append_left _ member)
    cases later with
    | nil => rwa [register_unwritten step]
    | cons entry rest =>
      have member : entry ∈ earlier ++ entry :: rest := by simp
      obtain ⟨same, stored, applied⟩ :=
        written_atomically (consistent_reaches consistent path) step List.mem_cons_self
      rw [stored]
      exact trans before (same ▸ each entry member applied)

section Execution
variable (program)

/-- What one client does next. -/
inductive Move (Op : Type v) where
  | start (client expected : Nat) (op : Op)
  | read (client : Nat)
  | put (client : Nat)
  | abandon (client : Nat)

/-- The step that a move makes, where it can be made. -/
def move (config : Config Op α) : Move Op → Option (List (Written Op α) × Config Op α)
  | .start client expected op =>
      if (config.attempts client).isNone ∧ expected ≤ config.register.token then
        some ([], { config with
          attempts := Function.update config.attempts client (some ⟨op, expected, []⟩) })
      else none
  | .read client =>
      (config.attempts client).bind fun attempt =>
        if attempt.reads.length < (program attempt.op).readsNeeded then
          some ([], { config with
            attempts := Function.update config.attempts client (some { attempt with
              reads := attempt.reads ++ [⟨config.register.token, config.register.content⟩] }) })
        else none
  | .put client =>
      (config.attempts client).bind fun attempt =>
        if attempt.reads.length = (program attempt.op).readsNeeded then
          (body program attempt).bind fun written =>
            (config.register.put (precondition program attempt) written).map fun register =>
              ([⟨attempt.op, config.register.content, written⟩],
                ⟨register, Function.update config.attempts client none⟩)
        else none
  | .abandon client =>
      (config.attempts client).map fun _ =>
        ([], { config with attempts := Function.update config.attempts client none })

/-- Moves one after the other, and what they wrote. -/
def moves : Config Op α → List (Move Op) → Option (List (Written Op α) × Config Op α)
  | config, [] => some ([], config)
  | config, next :: rest =>
      (move program config next).bind fun stepped =>
        (moves stepped.2 rest).map fun run => (stepped.1 ++ run.1, run.2)

variable {program}

theorem step_move {next : Move Op} (moved : move program config next = some (written, later)) :
    Step program config written later := by
  cases next with
  | start client expected op =>
    simp only [move, Option.ite_none_right_eq_some, Option.isNone_iff_eq_none] at moved
    obtain ⟨⟨free, observed⟩, ⟨⟩⟩ := moved
    exact .start free observed
  | read client =>
    simp only [move, Option.bind_eq_some_iff, Option.ite_none_right_eq_some] at moved
    obtain ⟨attempt, active, pending, ⟨⟩⟩ := moved
    exact .read active pending
  | put client =>
    simp only [move, Option.bind_eq_some_iff, Option.ite_none_right_eq_some,
      Option.map_eq_some_iff] at moved
    obtain ⟨attempt, active, ready, _, computed, _, accepted, ⟨⟩⟩ := moved
    exact .put active ready computed accepted
  | abandon client =>
    obtain ⟨attempt, active, ⟨⟩⟩ := Option.map_eq_some_iff.mp moved
    exact .abandon active

theorem Reaches.trans {first middle last : Config Op α}
    (path : Reaches program first written middle)
    (rest : Reaches program middle more last) : Reaches program first (written ++ more) last := by
  induction rest with
  | refl => rwa [List.append_nil]
  | next _ step ih =>
    rw [← List.append_assoc]
    exact .next ih step

theorem reaches_moves {config : Config Op α} {list : List (Move Op)}
    (moved : moves program config list = some (written, last)) :
    Reaches program config written last := by
  induction list generalizing config written with
  | nil =>
    cases moved
    exact .refl _
  | cons next rest ih =>
    simp only [moves, Option.bind_eq_some_iff, Option.map_eq_some_iff] at moved
    obtain ⟨⟨first, middle⟩, stepped, ⟨more, later⟩, ran, ⟨⟩⟩ := moved
    have one : Reaches program config ([] ++ first) middle :=
      .next (.refl config) (step_move stepped)
    exact Reaches.trans (List.nil_append first ▸ one) (ih ran)

end Execution
end ReplicateOnTag.ConditionalStore
