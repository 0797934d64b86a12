import ReplicateOnTag.Library.HeldToken

/-! Clients with held tokens that contend for one object, each of them keeping
to a protocol with a section that is entered and left by writes. Of two clients
that enter, one took its token after the other had entered. -/
namespace ReplicateOnTag.Contention
open ConditionalStore HeldToken

/-- What became of a put: it did not land, or it did and was answered or not. -/
inductive Fate where
  | refused
  | answered
  | unanswered
  deriving DecidableEq

/-- The phases of a client with a section among them that is entered and left
once, and only by writes that land. -/
structure Phases (Op : Type u) (Phase : Type v) where
  start : Phase
  next : Phase → Op → Fate → Phase
  entered : Phase → Prop
  left : Phase → Prop
  outside : ¬ entered start
  entered_next : ∀ {phase op fate}, entered phase → entered (next phase op fate)
  left_next : ∀ {phase op fate}, left phase → left (next phase op fate)
  entered_refused : ∀ {phase op}, entered (next phase op .refused) → entered phase
  left_refused : ∀ {phase op}, left (next phase op .refused) → left phase

variable {Op : Type u} {Phase : Type v} {α : Type w} {β γ : Type x} {phases : Phases Op Phase}
  {allowed : Phase → Op → Prop}

section Obeying

/-- Every put of the client is allowed in its phase, whatever the answers and
the contents it meets, and `post` holds of the phase it ends in. -/
def Obeys (phases : Phases Op Phase) (allowed : Phase → Op → Prop) (post : Phase → β → Prop) :
    Phase → Client Op α β → Prop
  | phase, .done result => post phase result
  | phase, .look next => ∀ content, Obeys phases allowed post phase (next content)
  | phase, .put op transport next =>
      allowed phase op ∧ ∀ content,
        Obeys phases allowed post (phases.next phase op .refused) (next false content) ∧
          (transport = .clean →
            Obeys phases allowed post (phases.next phase op .answered) (next true content)) ∧
          (transport = .unanswered →
            Obeys phases allowed post (phases.next phase op .unanswered) (next false content))

theorem Obeys.mono {client : Client Op α β} {weaker : Phase → β → Prop}
    (obeys : Obeys phases allowed post phase client)
    (imp : ∀ phase result, post phase result → weaker phase result) :
    Obeys phases allowed weaker phase client := by
  induction client generalizing phase with
  | done result => exact imp phase result obeys
  | look next ih => exact fun content => ih content (obeys content)
  | put op transport next ih =>
    refine ⟨obeys.1, fun content => ?_⟩
    obtain ⟨refused, answered, unanswered⟩ := obeys.2 content
    exact ⟨ih false content refused, fun clean => ih true content (answered clean),
      fun lost => ih false content (unanswered lost)⟩

theorem Obeys.bind {client : Client Op α β} {next : β → Client Op α γ} {post : Phase → γ → Prop}
    (obeys : Obeys phases allowed (fun phase result =>
      Obeys phases allowed post phase (next result))
      phase client) :
    Obeys phases allowed post phase (client.bind next) := by
  induction client generalizing phase with
  | done result => exact obeys
  | look rest ih => exact fun content => ih content (obeys content)
  | put op transport rest ih =>
    refine ⟨obeys.1, fun content => ?_⟩
    obtain ⟨refused, answered, unanswered⟩ := obeys.2 content
    exact ⟨ih false content refused, fun clean => ih true content (answered clean),
      fun lost => ih false content (unanswered lost)⟩

/-- The client puts nothing but what it `may`, and `post` holds of its result. -/
def Puts (may : Op → Prop) (post : β → Prop) : Client Op α β → Prop
  | .done result => post result
  | .look next => ∀ content, Puts may post (next content)
  | .put op _ next => may op ∧ ∀ ok content, Puts may post (next ok content)

theorem Puts.bind {may : Op → Prop} {client : Client Op α β}
    {next : β → Client Op α γ} {middle : β → Prop}
    {post : γ → Prop} (first : Puts may middle client)
    (rest : ∀ result, middle result → Puts may post (next result)) :
    Puts may post (client.bind next) := by
  induction client with
  | done result => exact rest result first
  | look more ih => exact fun content => ih content (first content)
  | put op transport more ih =>
      exact ⟨first.1, fun ok content => ih ok content (first.2 ok content)⟩

theorem Puts.mono {may more : Op → Prop} {client : Client Op α β} {post : β → Prop}
    (puts : Puts may post client) (imp : ∀ op, may op → more op) : Puts more post client := by
  induction client with
  | done result => exact puts
  | look next ih => exact fun content => ih content (puts content)
  | put op transport next ih =>
      exact ⟨imp op puts.1, fun ok content => ih ok content (puts.2 ok content)⟩

/-- A client that puts only what leaves its phase alone ends in that phase. -/
theorem Puts.obeys {may : Op → Prop} {client : Client Op α β} {post : β → Prop}
    (puts : Puts may post client)
    (permitted : ∀ op, may op → allowed phase op)
    (still : ∀ op fate, may op → phases.next phase op fate = phase) :
    Obeys phases allowed (fun last result => last = phase ∧ post result) phase client := by
  induction client with
  | done result => exact ⟨rfl, puts⟩
  | look next ih => exact fun content => ih content (puts content)
  | put op transport next ih =>
    refine ⟨permitted op puts.1, fun content => ?_⟩
    rw [still op _ puts.1, still op _ puts.1, still op _ puts.1]
    exact ⟨ih false content (puts.2 false content), fun _ => ih true content (puts.2 true content),
      fun _ => ih false content (puts.2 false content)⟩

/-- Before it holds a token a client puts nothing. What it may put later depends
on the content it takes the token with. -/
def OpeningObeys (phases : Phases Op Phase) (allowed : Option α → Phase → Op → Prop) :
    Opening Op α β → Prop
  | .quit _ => True
  | .look next => ∀ content, OpeningObeys phases allowed (next content)
  | .hold next => ∀ content,
      Obeys phases (allowed content) (fun _ _ => True) phases.start (next content)

end Obeying

/-- What is known of a client: its phase, and once it holds a token, the content
and the phases of all clients when it took it. -/
structure Watch (ι : Type y) (Phase : Type v) (α : Type w) where
  phase : Phase
  held : Option α
  seen : ι → Phase

structure Contest (ι : Type y) (Op : Type u) (Phase : Type v) (α : Type w) (β : Type x) where
  register : Register α
  stage : ι → Stage Op α β
  watch : ι → Watch ι Phase α

/-- A client takes its next turn, or a write of another party lands. -/
inductive Act (ι : Type y) (Op : Type u) where
  | client (i : ι)
  | foreign (op : Op)

namespace Contest
variable {ι : Type y}

def phase (contest : Contest ι Op Phase α β) (i : ι) : Phase := (contest.watch i).phase

/-- What becomes of the put a client is about to make, if its reads are done. -/
def fate? (program : Op → Update α) (register : Register α) : Stage Op α β → Option (Op × Fate)
  | .holding token reads (.put op transport _) =>
      if reads.length < (program op).readsNeeded then none
      else
        match Exchange.accepted program register token reads op transport with
        | none => some (op, .refused)
        | some _ => some (op, if transport = .clean then .answered else .unanswered)
  | _ => none

/-- What is known of a client after its turn. -/
def observed (program : Op → Update α) (phases : Phases Op Phase) (contest : Contest ι Op Phase α β)
    (i : ι) : Watch ι Phase α :=
  match contest.stage i with
  | .opening (.hold _) => ⟨contest.phase i, contest.register.content, contest.phase⟩
  | stage =>
      match fate? program contest.register stage with
      | none => contest.watch i
      | some (op, fate) => { contest.watch i with phase := phases.next (contest.phase i) op fate }

variable [DecidableEq ι]

def step (program : Op → Update α) (phases : Phases Op Phase) (contest : Contest ι Op Phase α β) :
    Act ι Op → Contest ι Op Phase α β
  | .client i =>
      let met := (Exchange.mk contest.register (contest.stage i)).clientStep program
      { register := met.register
        stage := Function.update contest.stage i met.stage
        watch := Function.update contest.watch i (contest.observed program phases i) }
  | .foreign op =>
      match (program op).atomically contest.register.content with
      | none => contest
      | some body => { contest with register := ⟨body :: contest.register.writes⟩ }

def run (program : Op → Update α) (phases : Phases Op Phase) (acts : List (Act ι Op))
    (contest : Contest ι Op Phase α β) : Contest ι Op Phase α β :=
  acts.foldl (step program phases) contest

/-- What a client's turn changes, by what the client was about to do. -/
inductive Turned (program : Op → Update α) (phases : Phases Op Phase)
    (contest later : Contest ι Op Phase α β)
    (k : ι) : Prop where
  | opening (rest : Opening Op α β) (before : contest.stage k = .opening opening)
      (after : later.stage k = .opening rest)
      (watch : later.watch k = contest.watch k) (register : later.register = contest.register)
      (obeys : ∀ {allowed}, OpeningObeys phases allowed opening → OpeningObeys phases allowed rest)
  | hold (before : contest.stage k = .opening (.hold next))
      (after : later.stage k = .holding contest.register.token [] (next contest.register.content))
      (watch : later.watch k = ⟨contest.phase k, contest.register.content, contest.phase⟩)
      (register : later.register = contest.register)
  | quiet {current : Phase} (more : List (Option α)) (rest : Client Op α β)
      (before : contest.stage k = .holding token reads client)
      (after : later.stage k = .holding token more rest)
      (watch : later.watch k = { contest.watch k with phase := current })
      (register : later.register = contest.register)
      (refused : current = contest.phase k ∨ ∃ op transport next, client = .put op transport next ∧
        current = phases.next (contest.phase k) op .refused)
      (read : ∀ content ∈ more, content ∈ reads ∨ content = contest.register.content)
      (obeys : ∀ {allowed}, Obeys phases allowed (fun _ _ => True) (contest.phase k) client →
        Obeys phases allowed (fun _ _ => True) current rest)
  | landed {op : Op} {transport : Transport} {next : Bool → Option α → Client Op α β} {written : α}
      (fate : Fate) (token : Nat) (rest : Client Op α β)
      (before : contest.stage k = .holding contest.register.token reads (.put op transport next))
      (after : later.stage k = .holding token [] rest)
      (watch : later.watch k =
        { contest.watch k with phase := phases.next (contest.phase k) op fate })
      (register : later.register = ⟨written :: contest.register.writes⟩)
      (ready : ¬ reads.length < (program op).readsNeeded)
      (computed : (program op).compute reads.head?.join reads.getLast?.join = some written)
      (ending : fate = .answered ∧ token = later.register.token ∨
        fate = .unanswered ∧ token = contest.register.token)
      (obeys : ∀ {allowed},
        Obeys phases allowed (fun _ _ => True) (contest.phase k) (.put op transport next) →
          Obeys phases allowed (fun _ _ => True) (phases.next (contest.phase k) op fate) rest)

/-- A client's turn leaves the others alone. -/
theorem others_client (program : Op → Update α) (phases : Phases Op Phase)
    (contest : Contest ι Op Phase α β) (other : i ≠ k) :
    (contest.step program phases (.client k)).stage i = contest.stage i ∧
      (contest.step program phases (.client k)).watch i = contest.watch i :=
  ⟨Function.update_of_ne other _ _, Function.update_of_ne other _ _⟩

/-- What a turn keeps of the watch of its own client it keeps of every watch. -/
theorem watch_alike {watch later : ι → Watch ι Phase α} (f : Watch ι Phase α → γ)
    (others : ∀ i, i ≠ k → later i = watch i) (own : f (later k) = f (watch k)) (i : ι) :
    f (later i) = f (watch i) := by
  by_cases acting : i = k
  · exact acting ▸ own
  · rw [others i acting]

theorem accepted_eq_some {register after : Register α} {reads : List (Option α)}
    (put : Exchange.accepted program register token reads op transport = some after) :
    token = register.token ∧ transport ≠ .blocked ∧
      ∃ written, (program op).compute reads.head?.join reads.getLast?.join = some written ∧
        after = ⟨written :: register.writes⟩ := by
  rw [Exchange.accepted] at put
  split at put
  · cases put
  · rename_i sent
    obtain ⟨written, computed, current⟩ := Option.bind_eq_some_iff.mp put
    rw [Register.put] at current
    split at current
    · rename_i same
      cases current
      exact ⟨same.symm, sent, written, computed, rfl⟩
    · cases current

theorem turned_client (program : Op → Update α) (phases : Phases Op Phase)
    (contest : Contest ι Op Phase α β) (k : ι) :
    Turned program phases contest (contest.step program phases (.client k)) k := by
  cases before : contest.stage k with
  | opening opening =>
    cases opening with
    | quit result =>
      refine .opening (.quit result) before ?_ ?_ ?_ id <;>
        simp [step, Exchange.clientStep, observed, before, fate?]
    | look next =>
      refine .opening (next contest.register.content) before ?_ ?_ ?_
        (fun obeys => obeys contest.register.content) <;>
        simp [step, Exchange.clientStep, observed, before, fate?]
    | hold next =>
      refine .hold before ?_ ?_ ?_ <;> simp [step, Exchange.clientStep, observed, before]
  | holding token reads client =>
    cases client with
    | done result =>
      refine .quiet reads (.done result) before ?_ ?_ ?_ (.inl rfl)
        (fun _ member => .inl member) id <;>
        simp [step, Exchange.clientStep, observed, before, fate?, phase]
    | look next =>
      refine .quiet reads (next contest.register.content) before ?_ ?_ ?_ (.inl rfl)
        (fun _ member => .inl member) (fun obeys => obeys contest.register.content) <;>
        simp [step, Exchange.clientStep, observed, before, fate?, phase]
    | put op transport next =>
      by_cases short : reads.length < (program op).readsNeeded
      · refine .quiet (reads ++ [contest.register.content]) (.put op transport next)
          before ?_ ?_ ?_ (.inl rfl)
          (by simp) id <;>
          simp [step, Exchange.clientStep, observed, before, fate?, phase, short]
      · cases put : Exchange.accepted program contest.register token reads op transport with
        | none =>
          refine .quiet [] (next false reads.getLast?.join) before ?_ ?_ ?_
            (.inr ⟨op, transport, next, rfl, rfl⟩) (by simp) (fun obeys =>
              (obeys.2 reads.getLast?.join).1) <;>
            simp [step, Exchange.clientStep, observed, before, fate?, short, put]
        | some after =>
          obtain ⟨same, sent, written, computed, rfl⟩ := accepted_eq_some put
          subst same
          cases transport with
          | clean =>
            refine .landed .answered (Register.token ⟨written :: contest.register.writes⟩)
              (next true reads.getLast?.join) before ?_ ?_ ?_ short computed (.inl ⟨rfl, ?_⟩)
              (fun obeys => (obeys.2 reads.getLast?.join).2.1 rfl) <;>
              simp [step, Exchange.clientStep, observed, before, fate?, short, put]
          | blocked => exact absurd rfl sent
          | unanswered =>
            refine .landed .unanswered contest.register.token
              (next false reads.getLast?.join) before ?_ ?_ ?_ short
              computed (.inr ⟨rfl, rfl⟩)
              (fun obeys => (obeys.2 reads.getLast?.join).2.2 rfl) <;>
              simp [step, Exchange.clientStep, observed, before, fate?, short, put]

end Contest

section Order
variable {ι : Type y} {contest later : Contest ι Op Phase α β}

/-- The client holds the token of the last write. -/
def Current (contest : Contest ι Op Phase α β) (i : ι) : Prop :=
  ∃ reads client, contest.stage i = .holding contest.register.token reads client

/-- Each client keeps to its protocol, its token was issued, and what it has
read on a current token is the content. -/
structure Obedient (phases : Phases Op Phase) (allowed : ι → Option α → Phase → Op → Prop)
    (contest : Contest ι Op Phase α β) (i : ι) : Prop where
  opening : ∀ {opening}, contest.stage i = .opening opening →
    contest.phase i = phases.start ∧ OpeningObeys phases (allowed i) opening
  holding : ∀ {token reads client}, contest.stage i = .holding token reads client →
    token ≤ contest.register.token ∧
      Obeys phases (allowed i (contest.watch i).held) (fun _ _ => True) (contest.phase i) client
  reads : ∀ {reads client}, contest.stage i = .holding contest.register.token reads client →
    ∀ read ∈ reads, read = contest.register.content

/-- What holds between clients: one whose token is current has missed no entry
and no leaving, and one that entered after another keeps that other inside. -/
structure Ordered (phases : Phases Op Phase) (contest : Contest ι Op Phase α β) : Prop where
  grown : ∀ {i j}, phases.entered ((contest.watch i).seen j) → phases.entered (contest.phase j)
  fresh : ∀ {i j}, Current contest i → i ≠ j →
    (phases.entered (contest.phase j) → phases.entered ((contest.watch i).seen j)) ∧
      (phases.left (contest.phase j) → phases.left ((contest.watch i).seen j))
  ordered : ∀ {i j}, i ≠ j → phases.entered (contest.phase i) → phases.entered (contest.phase j) →
    phases.entered ((contest.watch i).seen j) ∨ phases.entered ((contest.watch j).seen i)
  behind : ∀ {i j}, i ≠ j → phases.entered (contest.phase i) →
    phases.entered ((contest.watch i).seen j) →
    phases.left ((contest.watch i).seen j) ∨ ¬ phases.left (contest.phase j) ∧ ¬ Current contest j

/-- The contest goes on without a landed put or a token taken. -/
structure Idle (phases : Phases Op Phase) (contest later : Contest ι Op Phase α β) : Prop where
  seen : ∀ i, (later.watch i).seen = (contest.watch i).seen
  entered : ∀ i, phases.entered (later.phase i) ↔ phases.entered (contest.phase i)
  left : ∀ i, phases.left (later.phase i) ↔ phases.left (contest.phase i)
  current : ∀ i, Current later i → Current contest i

theorem Ordered.idle (ordered : Ordered phases contest) (idle : Idle phases contest later) :
    Ordered phases later where
  grown := by
    intro i j
    rw [idle.seen, idle.entered]
    exact ordered.grown
  fresh := by
    intro i j holds other
    rw [idle.seen, idle.entered, idle.left]
    exact ordered.fresh (idle.current i holds) other
  ordered := by
    intro i j
    rw [idle.seen, idle.seen, idle.entered, idle.entered]
    exact ordered.ordered
  behind := by
    intro i j
    rw [idle.seen, idle.entered, idle.left]
    intro other entered before
    exact (ordered.behind other entered before).imp_right fun stays =>
      ⟨stays.1, fun holds => stays.2 (idle.current j holds)⟩

/-- A client that takes a token has entered nothing, and sees every entry. -/
theorem Ordered.hold {k : ι} (ordered : Ordered phases contest)
    (outside : ¬ phases.entered (contest.phase k))
    (phase : ∀ i, later.phase i = contest.phase i) (seen : (later.watch k).seen = contest.phase)
    (others : ∀ i, i ≠ k → (later.watch i).seen = (contest.watch i).seen)
    (current : ∀ i, i ≠ k → Current later i → Current contest i) : Ordered phases later where
  grown := by
    intro i j
    by_cases acting : i = k
    · subst acting
      rw [seen, phase]
      exact id
    · rw [others i acting, phase]
      exact ordered.grown
  fresh := by
    intro i j holds other
    by_cases acting : i = k
    · subst acting
      rw [seen, phase]
      exact ⟨id, id⟩
    · rw [others i acting, phase]
      exact ordered.fresh (current i acting holds) other
  ordered := by
    intro i j other first second
    rw [phase] at first second
    rw [others i (by rintro rfl; exact outside first),
      others j (by rintro rfl; exact outside second)]
    exact ordered.ordered other first second
  behind := by
    intro i j other entered before
    rw [phase] at entered ⊢
    rw [others i (by rintro rfl; exact outside entered)] at before ⊢
    refine (ordered.behind other entered before).imp_right fun stays => ⟨stays.1, fun holds => ?_⟩
    have inside := ordered.grown before
    exact stays.2 (current j (by rintro rfl; exact outside inside) holds)

/-- A put that lands makes every other token a past one. -/
theorem Ordered.landed (ordered : Ordered phases contest) (holds : Current contest k)
    (past : ∀ i, i ≠ k → ¬ Current later i)
    (seen : ∀ i, (later.watch i).seen = (contest.watch i).seen)
    (others : ∀ i, i ≠ k → later.phase i = contest.phase i)
    (entered : phases.entered (contest.phase k) → phases.entered (later.phase k)) :
    Ordered phases later where
  grown := by
    intro i j before
    rw [seen] at before
    by_cases acting : j = k
    · subst acting
      exact entered (ordered.grown before)
    · rw [others j acting]
      exact ordered.grown before
  fresh := by
    intro i j current other
    by_cases acting : i = k
    · subst acting
      rw [seen, others j other.symm]
      exact ordered.fresh holds other
    · exact absurd current (past i acting)
  ordered := by
    intro i j other first second
    rw [seen, seen]
    by_cases acting : i = k
    · subst acting
      rw [others j other.symm] at second
      exact .inl ((ordered.fresh holds other).1 second)
    · rw [others i acting] at first
      by_cases last : j = k
      · subst last
        exact .inr ((ordered.fresh holds other.symm).1 first)
      · rw [others j last] at second
        exact ordered.ordered other first second
  behind := by
    intro i j other inside before
    rw [seen] at before ⊢
    by_cases acting : i = k
    · subst acting
      rw [others j other.symm]
      by_cases gone : phases.left (contest.phase j)
      · exact .inl ((ordered.fresh holds other).2 gone)
      · exact .inr ⟨gone, past j other.symm⟩
    · rw [others i acting] at inside
      by_cases last : j = k
      · subst last
        rcases ordered.behind other inside before with gone | ⟨_, overtaken⟩
        · exact .inl gone
        · exact absurd holds overtaken
      · rw [others j last]
        exact (ordered.behind other inside before).imp_right fun stays => ⟨stays.1, past j last⟩

end Order

section Steps
variable {ι : Type y} [DecidableEq ι] {contest : Contest ι Op Phase α β} {program : Op → Update α}
  {allowed : ι → Option α → Phase → Op → Prop}

structure Disciplined (phases : Phases Op Phase) (allowed : ι → Option α → Phase → Op → Prop)
    (contest : Contest ι Op Phase α β) : Prop where
  obedient : ∀ i, Obedient phases allowed contest i
  ordered : Ordered phases contest

/-- A client's turn as its protocol and the object see it. -/
inductive Effect (program : Op → Update α) (phases : Phases Op Phase) (allowed : Phase → Op → Prop)
    (contest later : Contest ι Op Phase α β) (k : ι) : Prop where
  | idle (register : later.register = contest.register) (watch : later.watch k = contest.watch k)
  | hold (register : later.register = contest.register) (start : contest.phase k = phases.start)
      (watch : later.watch k = ⟨contest.phase k, contest.register.content, contest.phase⟩)
  | put {op : Op} {fate : Fate} (permitted : allowed (contest.phase k) op)
      (watch : later.watch k = { contest.watch
        k with phase := phases.next (contest.phase k) op fate })
      (current : fate ≠ .refused → Current contest k)
      (written : fate = .refused ∧ later.register = contest.register ∨
        fate ≠ .refused ∧ ∃ content,
          (program op).atomically contest.register.content = some content ∧
          later.register = ⟨content :: contest.register.writes⟩)

theorem Disciplined.effect (disciplined : Disciplined phases allowed contest) (k : ι) :
    Effect program phases (allowed k (contest.watch k).held) contest
      (contest.step program phases (.client k)) k := by
  cases Contest.turned_client program phases contest k with
  | opening rest before after watch register obeys => exact .idle register watch
  | hold before after watch register =>
    exact .hold register ((disciplined.obedient k).opening before).1 watch
  | quiet more rest before after watch register refused read obeys =>
    rcases refused with same | ⟨op, transport, next, put, same⟩
    · exact .idle register (by rw [watch, same]; rfl)
    · subst put
      exact .put ((disciplined.obedient k).holding before).2.1 (same ▸ watch) (by simp)
        (.inl ⟨rfl, register⟩)
  | @landed reads op _ _ content fate _ _ before after watch register ready computed ending obeys =>
    have seen := (disciplined.obedient k).reads before
    have landed : fate ≠ .refused := by
      rcases ending with ⟨rfl, _⟩ | ⟨rfl, _⟩ <;> nofun
    refine .put ((disciplined.obedient k).holding before).2.1 watch (fun _ => ⟨_, _, before⟩)
      (.inr ⟨landed, content, ?_, register⟩)
    -- what the client read on a current token is the content it replaces
    have needed : reads ≠ [] := by
      intro empty
      have positive := readsNeeded_pos (program op)
      rw [empty, List.length_nil] at ready
      omega
    have first : reads.head?.join = contest.register.content := by
      rw [List.head?_eq_some_head needed, Option.join_some]
      exact seen _ (List.head_mem needed)
    have last : reads.getLast?.join = contest.register.content := by
      rw [List.getLast?_eq_some_getLast needed, Option.join_some]
      exact seen _ (List.getLast_mem needed)
    rw [Update.atomically, ← computed, first, last]

theorem obedient_client (disciplined : Disciplined phases allowed contest) (k : ι) :
    Obedient phases allowed (contest.step program phases (.client k)) k := by
  have kept := disciplined.obedient k
  generalize met : contest.step program phases (.client k) = later
  cases met ▸ Contest.turned_client program phases contest k with
  | opening rest before after watch register obeys =>
    obtain ⟨start, opened⟩ := kept.opening before
    have phase : later.phase k = contest.phase k := congrArg Watch.phase watch
    refine ⟨fun stage => ?_, fun stage => ?_, fun stage => ?_⟩
    · cases after.symm.trans stage
      exact ⟨phase.trans start, obeys opened⟩
    · cases after.symm.trans stage
    · cases after.symm.trans stage
  | hold before after watch register =>
    obtain ⟨start, opened⟩ := kept.opening before
    have phase : later.phase k = phases.start := (congrArg Watch.phase watch).trans start
    refine ⟨fun stage => ?_, fun stage => ?_, fun stage => ?_⟩
    · cases after.symm.trans stage
    · cases after.symm.trans stage
      rw [register, phase, watch]
      exact ⟨le_rfl, opened _⟩
    · have none := after.symm.trans stage
      simp only [Stage.holding.injEq] at none
      simp [← none.2.1]
  | quiet more rest before after watch register refused read obeys =>
    obtain ⟨bound, obeyed⟩ := kept.holding before
    refine ⟨fun stage => ?_, fun stage => ?_, fun stage => ?_⟩
    · cases after.symm.trans stage
    · cases after.symm.trans stage
      rw [register, Contest.phase, watch]
      exact ⟨bound, obeys obeyed⟩
    · have same := after.symm.trans stage
      rw [register] at same ⊢
      cases same
      intro content member
      exact (read content member).elim (kept.reads before content) id
  | landed fate token rest before after watch register ready computed ending obeys =>
    obtain ⟨_, obeyed⟩ := kept.holding before
    refine ⟨fun stage => ?_, fun stage => ?_, fun stage => ?_⟩
    · cases after.symm.trans stage
    · cases after.symm.trans stage
      rw [Contest.phase, watch]
      refine ⟨?_, obeys obeyed⟩
      rcases ending with ⟨_, rfl⟩ | ⟨_, rfl⟩
      · exact le_rfl
      · simp [register, Register.token]
    · have none := after.symm.trans stage
      simp only [Stage.holding.injEq] at none
      simp [← none.2.1]

/-- The clients that did not take the turn keep to their protocols; a put that
lands leaves their tokens behind. -/
theorem obedient_other (disciplined : Disciplined phases allowed contest) (other : i ≠ k) :
    Obedient phases allowed (contest.step program phases (.client k)) i := by
  have kept := disciplined.obedient i
  obtain ⟨stage, watch⟩ := Contest.others_client program phases contest other
  generalize met : contest.step program phases (.client k) = later at stage watch
  have phase : later.phase i = contest.phase i := congrArg Watch.phase watch
  have grown : later.register = contest.register ∨
      contest.register.token < later.register.token := by
    cases met ▸ Contest.turned_client program phases contest k with
    | opening _ _ _ _ register | hold _ _ _ register | quiet _ _ _ _ _ register =>
        exact .inl register
    | landed _ _ _ _ _ _ register => exact .inr (by simp [register, Register.token])
  refine ⟨fun opened => ?_, fun holds => ?_, fun holds => ?_⟩
  · rw [phase]
    exact kept.opening (stage.symm.trans opened)
  · rw [phase, watch]
    obtain ⟨bound, obeyed⟩ := kept.holding (stage.symm.trans holds)
    exact ⟨grown.elim (fun same => same ▸ bound) fun more => bound.trans more.le, obeyed⟩
  · rcases grown with same | more
    · rw [same] at holds ⊢
      exact kept.reads (stage.symm.trans holds)
    · exact absurd (kept.holding (stage.symm.trans holds)).1 (not_le.mpr more)

theorem ordered_client (disciplined : Disciplined phases allowed contest) (k : ι) :
    Ordered phases (contest.step program phases (.client k)) := by
  have others := fun i (other : i ≠ k) => Contest.others_client program phases contest other
  have step := disciplined.ordered
  generalize met : contest.step program phases (.client k) = later at others
  have still : ∀ i, i ≠ k → later.phase i = contest.phase i := fun i other =>
    congrArg Watch.phase (others i other).2
  have current : later.register = contest.register → ∀ i, i ≠ k → Current later i →
      Current contest i := by
    rintro same i other ⟨reads, client, holds⟩
    exact ⟨reads, client, by rw [← (others i other).1, holds, same]⟩
  cases met ▸ Contest.turned_client program phases contest k with
  | opening rest before after watch register obeys =>
    have watches := fun i (other : i ≠ k) => (others i other).2
    have phase : ∀ i, later.phase i = contest.phase i :=
      Contest.watch_alike Watch.phase watches (congrArg Watch.phase watch)
    refine step.idle ⟨Contest.watch_alike Watch.seen watches (congrArg Watch.seen watch),
      fun i => by rw [phase], fun i => by rw [phase], fun i holds => ?_⟩
    · by_cases acting : i = k
      · obtain ⟨_, _, holds⟩ := holds
        subst acting
        cases after.symm.trans holds
      · exact current register i acting holds
  | hold before after watch register =>
    refine step.hold ?_ (fun i => ?_) (by rw [watch]) (fun i other => by rw [(others i other).2])
      (current register)
    · rw [((disciplined.obedient k).opening before).1]
      exact phases.outside
    · by_cases acting : i = k
      · subst acting
        exact (congrArg Watch.phase watch :)
      · exact still i acting
  | quiet more rest before after watch register refused read obeys =>
    have phase := congrArg Watch.phase watch
    have kept : (phases.entered (later.phase k) ↔ phases.entered (contest.phase k)) ∧
        (phases.left (later.phase k) ↔ phases.left (contest.phase k)) := by
      rw [show later.phase k = _ from phase]
      rcases refused with rfl | ⟨op, _, _, _, rfl⟩
      · exact ⟨Iff.rfl, Iff.rfl⟩
      · exact ⟨⟨phases.entered_refused, phases.entered_next⟩,
          ⟨phases.left_refused, phases.left_next⟩⟩
    refine step.idle ⟨fun i => ?_, fun i => ?_, fun i => ?_, fun i holds => ?_⟩
    · by_cases acting : i = k
      · rw [acting, watch]
      · rw [(others i acting).2]
    · by_cases acting : i = k
      · exact acting ▸ kept.1
      · rw [still i acting]
    · by_cases acting : i = k
      · exact acting ▸ kept.2
      · rw [still i acting]
    · by_cases acting : i = k
      · obtain ⟨_, _, holds⟩ := holds
        subst acting
        cases after.symm.trans holds
        exact ⟨_, _, register ▸ before⟩
      · exact current register i acting holds
  | landed fate token rest before after watch register ready computed ending obeys =>
    refine step.landed ⟨_, _, before⟩ (fun i other => ?_) (fun i => ?_) still fun entered => ?_
    · rintro ⟨_, _, holds⟩
      have bound := ((disciplined.obedient i).holding ((others i other).1.symm.trans holds)).1
      simp only [register, Register.token, List.length_cons] at bound
      omega
    · by_cases acting : i = k
      · rw [acting, watch]
      · rw [(others i acting).2]
    · rw [show later.phase k = _ from congrArg Watch.phase watch]
      exact phases.entered_next entered

theorem Disciplined.client (disciplined : Disciplined phases allowed contest) (k : ι) :
    Disciplined phases allowed (contest.step program phases (.client k)) where
  obedient i := by
    by_cases acting : i = k
    · subst acting
      exact obedient_client disciplined i
    · exact obedient_other disciplined acting
  ordered := ordered_client disciplined k

theorem Disciplined.foreign (disciplined : Disciplined phases allowed contest) (op : Op) :
    Disciplined phases allowed (contest.step program phases (.foreign op)) := by
  simp only [Contest.step]
  split
  · exact disciplined
  · rename_i written _
    -- the write makes every token that is held a past one
    have past : ∀ {i reads client}, contest.stage i ≠
        .holding (Register.token ⟨written :: contest.register.writes⟩) reads client := by
      intro i reads client holds
      have bound := ((disciplined.obedient i).holding holds).1
      simp only [Register.token, List.length_cons] at bound
      omega
    refine ⟨fun i => ⟨(disciplined.obedient i).opening, ?_, fun holds => absurd holds past⟩,
      disciplined.ordered.grown, fun current => ?_, disciplined.ordered.ordered,
        fun other entered before => ?_⟩
    · intro token reads client holds
      obtain ⟨bound, obeys⟩ := (disciplined.obedient i).holding holds
      exact ⟨bound.trans (by simp [Register.token]), obeys⟩
    · obtain ⟨_, _, holds⟩ := current
      exact absurd holds past
    · refine (disciplined.ordered.behind other entered before).imp_right fun stays => ⟨stays.1, ?_⟩
      rintro ⟨_, _, holds⟩
      exact past holds

end Steps
end ReplicateOnTag.Contention
