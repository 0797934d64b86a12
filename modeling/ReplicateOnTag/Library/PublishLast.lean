import Mathlib.Data.List.Basic
import Mathlib.Data.List.Nodup
import Mathlib.Logic.Function.Basic

/-! Writers that each put objects under keys of their own, one after another, in any
order among themselves. A writer that stops at its first error shows an object
only behind everything it put before. -/
namespace ReplicateOnTag.PublishLast

section Programs
variable (Key Object Answer Error α : Type*)

/-- A program of puts that goes on from each reply. -/
inductive Putting where
  | done (result : α)
  | put (key : Key) (object : Object) (next : Except Error Answer → Putting)

/-- What becomes of a put. -/
inductive Fate where
  | answered (answer : Answer)
  /-- Not stored. -/
  | refused (error : Error)
  /-- Stored, and the writer meets an error all the same. -/
  | unanswered (error : Error)

end Programs

variable {Key Object Answer Error α ι : Type*}

def Putting.map {β : Type*} (f : α → β) : Putting Key Object Answer Error α →
    Putting Key Object Answer Error β
  | done result => .done (f result)
  | put key object next => .put key object fun reply => (next reply).map f

namespace Fate

def stores : Fate Answer Error → Bool
  | answered _ => true
  | refused _ => false
  | unanswered _ => true

def reply : Fate Answer Error → Except Error Answer
  | answered answer => .ok answer
  | refused error => .error error
  | unanswered error => .error error

end Fate

section Worlds

structure World (Key Object Answer Error α ι : Type*) where
  objects : Key → Option Object
  writers : ι → Putting Key Object Answer Error α

inductive Act (Key Object Answer Error ι : Type*) where
  | turn (writer : ι) (fate : Fate Answer Error)
  /-- An object that no writer puts. -/
  | foreign (key : Key) (object : Object)

variable [DecidableEq Key] [DecidableEq ι]

namespace World

def turn (world : World Key Object Answer Error α ι) (i : ι) (fate : Fate Answer Error) :
    World Key Object Answer Error α ι :=
  match world.writers i with
  | .done _ => world
  | .put key object next =>
      { objects := if fate.stores
        then Function.update world.objects key (some object) else world.objects
        writers := Function.update world.writers i (next fate.reply) }

def step (world : World Key Object Answer Error α ι) : Act Key Object Answer Error ι →
    World Key Object Answer Error α ι
  | .turn i fate => world.turn i fate
  | .foreign key object => { world with objects := Function.update world.objects key (some object) }

def run (world : World Key Object Answer Error α ι) (acts : List (Act Key Object Answer Error ι)) :
    World Key Object Answer Error α ι := acts.foldl step world

end World
end Worlds

section Plans
variable {succeeds : α → Prop}

/-- The program puts the planned objects in their order, stops at an error, and
succeeds only past the last. -/
inductive Follows (succeeds : α → Prop) : Putting Key Object Answer Error α →
    List (Key × Object) → Prop where
  | done {result todo} (last : succeeds result → todo = []) : Follows succeeds (.done result) todo
  | put {key object next todo}
      (stops : ∀ error, ∃ result, next (.error error) = .done result ∧ ¬ succeeds result)
      (later : ∀ answer, Follows succeeds (next (.ok answer)) todo) :
      Follows succeeds (.put key object next) ((key, object) :: todo)

theorem Follows.map {β : Type*} {succeeds' : β → Prop} {f : α → β}
    {program : Putting Key Object Answer Error α}
    {plan : List (Key × Object)} (follows : Follows succeeds program plan)
    (same : ∀ result, succeeds' (f result) → succeeds result) :
    Follows succeeds' (program.map f) plan := by
  induction follows with
  | done last => exact .done fun success => last (same _ success)
  | put stops _ ih =>
    refine .put (fun error => ?_) ih
    obtain ⟨result, stopped, failed⟩ := stops error
    refine ⟨f result, ?_, fun success => failed (same _ success)⟩
    rw [stopped, Putting.map]

/-- Every result that the program may end with. -/
def Promises (good : α → Prop) : Putting Key Object Answer Error α → Prop
  | .done result => good result
  | .put _ _ next => ∀ reply, Promises good (next reply)

theorem Promises.map {β : Type*} {good : α → Prop} {good' : β → Prop} {f : α → β}
    {program : Putting Key Object Answer Error α} (promises : Promises good program)
    (same : ∀ result, good result → good' (f result)) : Promises good' (program.map f) := by
  induction program with
  | done result => exact same result promises
  | put _ _ next ih => exact fun reply => ih reply (promises reply)

/-- How far a writer is: what it put stands, what it has yet to put does not. -/
structure Staged (succeeds : α → Prop) (objects : Key → Option Object) (plan : List (Key × Object))
    (writer : Putting Key Object Answer Error α) (seen todo : List (Key × Object)) : Prop where
  whole : plan = seen ++ todo
  stands : ∀ entry ∈ seen, objects entry.1 = some entry.2
  absent : ∀ entry ∈ todo, objects entry.1 = none
  follows : Follows succeeds writer todo

variable {objects objects' : Key → Option Object} {plan seen todo : List (Key × Object)}
  {writer : Putting Key Object Answer Error α}

theorem Staged.congr (staged : Staged succeeds objects plan writer seen todo)
    (same : ∀ entry ∈ plan, objects' entry.1 = objects entry.1) :
    Staged succeeds objects' plan writer seen todo where
  whole := staged.whole
  stands entry member := by
    rw [same entry (staged.whole ▸ List.mem_append_left _ member)]
    exact staged.stands entry member
  absent entry member := by
    rw [same entry (staged.whole ▸ List.mem_append_right _ member)]
    exact staged.absent entry member
  follows := staged.follows

/-- An object that is there is the planned one, behind all that was planned before it. -/
theorem Staged.behind (staged : Staged succeeds objects plan writer seen todo)
    {before after : List (Key × Object)}
    {entry : Key × Object} (place : plan = before ++ entry :: after)
    (there : (objects entry.1).isSome) :
    ∀ earlier ∈ before ++ [entry], objects earlier.1 = some earlier.2 := by
  have stays : entry ∉ todo := by
    intro member
    rw [staged.absent entry member] at there
    cases there
  obtain ⟨further, longer⟩ : ∃ further, seen = before ++ entry :: further := by
    rcases List.append_eq_append_iff.mp (staged.whole.symm.trans place) with ⟨more, early,
      late⟩ | ⟨more, early, late⟩
    · exact absurd (late ▸ List.mem_append_right _ List.mem_cons_self) stays
    · cases more with
      | nil => exact absurd (by rw [← List.nil_append todo, ← late]; exact List.mem_cons_self) stays
      | cons head more =>
        rw [List.cons_append, List.cons.injEq] at late
        exact ⟨more, by rw [early, late.1]⟩
  intro earlier member
  refine staged.stands earlier ?_
  rw [longer]
  rcases List.mem_append.mp member with old | own
  · exact List.mem_append_left _ old
  · rw [List.mem_singleton.mp own]
    exact List.mem_append_right _ List.mem_cons_self

/-- What stands under a planned key is what was planned. -/
theorem Staged.planned (staged : Staged succeeds objects plan writer seen todo)
    {entry : Key × Object} {object : Object}
    (member : entry ∈ plan) (there : objects entry.1 = some object) : object = entry.2 := by
  rw [staged.whole] at member
  rcases List.mem_append.mp member with stands | absent
  · exact Option.some.inj (there.symm.trans (staged.stands entry stands))
  · rw [staged.absent entry absent] at there
    cases there

/-- A writer that succeeded put everything. -/
theorem Staged.complete {result : α} (staged : Staged succeeds objects plan writer seen todo)
    (finished : writer = .done result) (success : succeeds result) : ∀ entry ∈ plan,
      objects entry.1 = some entry.2 := by
  have follows := staged.follows
  rw [finished] at follows
  cases follows with
  | done last =>
    rw [staged.whole, last success, List.append_nil]
    exact staged.stands

/-- The next object lands. -/
theorem Staged.stored [DecidableEq Key] {key : Key} {object : Object}
    {next : Putting Key Object Answer Error α}
    (distinct : (plan.map Prod.fst).Nodup)
    (staged : Staged succeeds objects plan writer seen ((key, object) :: todo))
    (follows : Follows succeeds next todo) :
    Staged succeeds (Function.update objects key (some object)) plan next
      (seen ++ [(key, object)]) todo := by
  rw [staged.whole, List.map_append, List.map_cons, List.nodup_append] at distinct
  obtain ⟨_, afterwards, apart⟩ := distinct
  refine ⟨by rw [staged.whole, List.append_assoc, List.singleton_append], fun entry member => ?_,
    fun entry member => ?_, follows⟩
  · rcases List.mem_append.mp member with old | own
    · have other := apart entry.1 (List.mem_map_of_mem old) key List.mem_cons_self
      rw [Function.update_of_ne other]
      exact staged.stands entry old
    · rw [List.mem_singleton.mp own, Function.update_self]
  · have other : entry.1 ≠ key := by
      rintro rfl
      exact (List.nodup_cons.mp afterwards).1 (List.mem_map.mpr ⟨entry, member, rfl⟩)
    rw [Function.update_of_ne other]
    exact staged.absent entry (List.mem_cons_of_mem _ member)

end Plans

section Runs
variable [DecidableEq Key] [DecidableEq ι] {succeeds : α → Prop} {plans : ι → List (Key × Object)}
  {world : World Key Object Answer Error α ι}

/-- No key is planned twice. -/
structure Apart (plans : ι → List (Key × Object)) : Prop where
  within : ∀ i, ((plans i).map Prod.fst).Nodup
  between : ∀ i j, i ≠ j → ∀ entry ∈ plans i, ∀ other ∈ plans j, entry.1 ≠ other.1

def AllStaged (succeeds : α → Prop) (plans : ι → List (Key × Object))
    (world : World Key Object Answer Error α ι) : Prop :=
  ∀ i, ∃ seen todo, Staged succeeds world.objects (plans i) (world.writers i) seen todo

omit [DecidableEq Key] [DecidableEq ι] in
theorem allStaged_start (follows : ∀ i, Follows succeeds (world.writers i) (plans i))
    (fresh : ∀ i, ∀ entry ∈ plans i, world.objects entry.1 = none) :
    AllStaged succeeds plans world :=
  fun i => ⟨[], plans i, rfl, fun _ none => absurd none List.not_mem_nil, fresh i, follows i⟩

theorem AllStaged.turn (apart : Apart plans) (all : AllStaged succeeds plans world) (i : ι)
    (fate : Fate Answer Error) :
    AllStaged succeeds plans (world.turn i fate) := by
  rw [World.turn]
  split
  · exact all
  · rename_i key object next acting
    obtain ⟨seen, todo, staged⟩ := all i
    have follows := staged.follows
    rw [acting] at follows
    cases follows with
    | @put _ _ _ todo stops later =>
      have stopped (error : Error) : Follows succeeds (next (.error error)) todo := by
        obtain ⟨result, done, failed⟩ := stops error
        rw [done]
        exact .done fun success => absurd success failed
      have planned : (key, object) ∈ plans i := by
        rw [staged.whole]
        exact List.mem_append_right _ List.mem_cons_self
      intro j
      by_cases own : j = i
      · subst own
        dsimp only
        rw [Function.update_self]
        cases fate with
        | answered answer => exact ⟨_, _, staged.stored (apart.within j) (later answer)⟩
        | unanswered error => exact ⟨_, _, staged.stored (apart.within j) (stopped error)⟩
        | refused error =>
          obtain ⟨result, done, failed⟩ := stops error
          refine ⟨seen, (key, object) :: todo, staged.whole, staged.stands, staged.absent, ?_⟩
          rw [Fate.reply, done]
          exact .done fun success => absurd success failed
      · simp only [Function.update_of_ne own]
        obtain ⟨seen', todo', other⟩ := all j
        refine ⟨seen', todo', other.congr fun entry member => ?_⟩
        split
        · rw [Function.update_of_ne (apart.between j i own entry member _ planned)]
        · rfl

theorem allStaged_run (apart : Apart plans) (acts : List (Act Key Object Answer Error ι))
    (elsewhere : ∀ key object, .foreign key object ∈ acts → ∀ i, ∀ entry ∈ plans i, entry.1 ≠ key)
    (all : AllStaged succeeds plans world) : AllStaged succeeds plans (world.run acts) := by
  induction acts generalizing world with
  | nil => exact all
  | cons act acts ih =>
    refine ih (fun key object member => elsewhere key object (List.mem_cons_of_mem _ member)) ?_
    cases act with
    | turn i fate => exact all.turn apart i fate
    | foreign key object =>
      intro i
      obtain ⟨seen, todo, staged⟩ := all i
      refine ⟨seen, todo, staged.congr fun entry member => ?_⟩
      exact Function.update_of_ne (elsewhere key object List.mem_cons_self i entry member) _ _

theorem promises_run {good : ι → α → Prop} (acts : List (Act Key Object Answer Error ι))
    (promises : ∀ i, Promises (good i) (world.writers i))
    (i : ι) : Promises (good i) ((world.run acts).writers i) := by
  induction acts generalizing world with
  | nil => exact promises i
  | cons act acts ih =>
    refine ih fun j => ?_
    cases act with
    | foreign => exact promises j
    | turn k fate =>
      simp only [World.step, World.turn]
      split
      · exact promises j
      · rename_i acting
        by_cases own : j = k
        · subst own
          have goes := promises j
          rw [acting] at goes
          simp only [Function.update_self]
          exact goes _
        · simp only [Function.update_of_ne own]
          exact promises j

end Runs
end ReplicateOnTag.PublishLast
