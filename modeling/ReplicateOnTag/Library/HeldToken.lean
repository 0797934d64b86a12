import ReplicateOnTag.Library.ConditionalStore

/-! A client that keeps one token: it reads an object once for its token, writes
on the token of its last write from then on, and never reads a token again.
Followed alone, and with the writes of others between its reads and puts. -/
namespace ReplicateOnTag.HeldToken
open ConditionalStore

/-- What becomes of a put and its answer on the way. -/
inductive Transport where
  | clean
  | blocked
  | unanswered
  deriving DecidableEq

/-- A client that holds a token. A put goes on with its success as the client
sees it, and the content it was computed from. -/
inductive Client (Op : Type u) (α : Type v) (β : Type w) where
  | done (result : β)
  | look (next : Option α → Client Op α β)
  | put (op : Op) (transport : Transport) (next : Bool → Option α → Client Op α β)

/-- A client before the read whose token it holds. -/
inductive Opening (Op : Type u) (α : Type v) (β : Type w) where
  | quit (result : β)
  | look (next : Option α → Opening Op α β)
  | hold (next : Option α → Client Op α β)

/-- How a client ends. `landed` are the operations that reached the object, and
`current` says that it holds the token of the last write. -/
structure Outcome (Op : Type u) (α : Type v) (β : Type w) where
  result : β
  stored : Option α
  current : Bool
  landed : List Op

variable {Op : Type u} {α : Type v} {β γ : Type w}

/-- The outcome of a client whose earlier part landed these operations. -/
def Outcome.following (rest : Outcome Op α β) (landed : List Op) : Outcome Op α β :=
  { rest with landed := landed ++ rest.landed }

namespace Client

def bind (client : Client Op α β) (next : β → Client Op α γ) : Client Op α γ :=
  match client with
  | done result => next result
  | look rest => look fun content => (rest content).bind next
  | put op transport rest => put op transport fun ok content => (rest ok content).bind next

instance : Monad (Client Op α) where
  pure := done
  bind := bind

/-- The client without other writers. -/
def alone (program : Op → Update α) : Client Op α β → Option α → Bool → Outcome Op α β
  | done result, stored, current => ⟨result, stored, current, []⟩
  | look next, stored, current => (next stored).alone program stored current
  | put op transport next, stored, current =>
      match if current ∧ transport ≠ .blocked then (program op).atomically stored else none with
      | none => (next false stored).alone program stored current
      | some after =>
          ((next (transport = .clean) stored).alone program (some after)
            (transport = .clean)).following [op]

end Client

def Opening.alone (program : Op → Update α) : Opening Op α β → Option α → Outcome Op α β
  | quit result, stored => ⟨result, stored, false, []⟩
  | look next, stored => (next stored).alone program stored
  | hold next, stored => (next stored).alone program stored true

inductive Stage (Op : Type u) (α : Type v) (β : Type w) where
  | opening (opening : Opening Op α β)
  | holding (token : Nat) (reads : List (Option α)) (client : Client Op α β)

/-- The object and the client. `reads` are those of the put under way, oldest first. -/
structure Exchange (Op : Type u) (α : Type v) (β : Type w) where
  register : Register α
  stage : Stage Op α β

inductive Turn (Op : Type u) where
  | client
  | foreign (op : Op)
  deriving DecidableEq

namespace Exchange
variable (program : Op → Update α)

/-- The object after a put on the held token, if it is accepted. -/
def accepted (register : Register α) (token : Nat) (reads : List (Option α)) (op : Op)
    (transport : Transport) : Option (Register α) :=
  if transport = .blocked then none
  else ((program op).compute reads.head?.join reads.getLast?.join).bind (register.put token)

/-- One read or put of the client. -/
def clientStep (exchange : Exchange Op α β) : Exchange Op α β :=
  let content := exchange.register.content
  match exchange.stage with
  | .opening (.quit _) => exchange
  | .opening (.look next) => { exchange with stage := .opening (next content) }
  | .opening (.hold next) =>
      { exchange with stage := .holding exchange.register.token [] (next content) }
  | .holding _ _ (.done _) => exchange
  | .holding token reads (.look next) =>
      { exchange with stage := .holding token reads (next content) }
  | .holding token reads (.put op transport next) =>
      if reads.length < (program op).readsNeeded then
        { exchange with stage := .holding token (reads ++ [content]) (.put op transport next) }
      else
        match accepted program exchange.register token reads op transport with
        | none => { exchange with stage := .holding token [] (next false reads.getLast?.join) }
        | some register =>
            { register
              stage := .holding (if transport = .clean then register.token else token) []
                (next (transport = .clean) reads.getLast?.join) }

/-- A write of another party that lands: it replaces the content it was computed from. -/
def foreignStep (op : Op) (exchange : Exchange Op α β) : Exchange Op α β :=
  match (program op).atomically exchange.register.content with
  | none => exchange
  | some body => { exchange with register := ⟨body :: exchange.register.writes⟩ }

def step (exchange : Exchange Op α β) : Turn Op → Exchange Op α β
  | .client => exchange.clientStep program
  | .foreign op => exchange.foreignStep program op

def interleave (turns : List (Turn Op)) (exchange : Exchange Op α β) : Exchange Op α β :=
  turns.foldl (step program) exchange

/-- What the client returns, once it is through. -/
def result? (exchange : Exchange Op α β) : Option β :=
  match exchange.stage with
  | .opening (.quit result) => some result
  | .holding _ _ (.done result) => some result
  | _ => none

/-- How the client would end if no other party wrote from here on. -/
def rest (exchange : Exchange Op α β) : Outcome Op α β :=
  match exchange.stage with
  | .opening opening => opening.alone program exchange.register.content
  | .holding token _ client =>
      client.alone program exchange.register.content (token = exchange.register.token)

/-- Another write is harmless here: the client has no token yet, and that is
`early` enough, or the rest of it, left alone, lands nothing that is guarded. -/
def Calm (guarded : Op → Prop) (early : Prop) (exchange : Exchange Op α β) : Prop :=
  match exchange.stage with
  | .opening _ => early
  | .holding .. => ∀ op ∈ (exchange.rest program).landed, ¬ guarded op

instance (guarded : Op → Prop) [DecidablePred guarded] (early : Prop) [Decidable early]
    (exchange : Exchange Op α β) : Decidable (exchange.Calm program guarded early) :=
  match exchange with
  | ⟨_, .opening _⟩ => inferInstanceAs (Decidable early)
  | ⟨register, .holding token reads client⟩ =>
      inferInstanceAs (Decidable (∀ op ∈ ((Exchange.mk register (.holding token reads client)).rest
        program).landed, ¬ guarded op))

/-- Every foreign write of the interleaving lands at a calm point. -/
def CalmTurns (guarded : Op → Prop) (early : Prop) : List (Turn Op) → Exchange Op α β → Prop
  | [], _ => True
  | .client :: turns, exchange => CalmTurns guarded early turns (exchange.clientStep program)
  | .foreign op :: turns, exchange =>
      exchange.Calm program guarded early ∧
        CalmTurns guarded early turns (exchange.foreignStep program op)

instance decidableCalmTurns (guarded : Op → Prop) [DecidablePred guarded] (early : Prop)
    [Decidable early] : (turns : List (Turn Op)) → (exchange : Exchange Op α β) →
      Decidable (exchange.CalmTurns program guarded early turns)
  | [], _ => isTrue trivial
  | .client :: turns, exchange =>
      decidableCalmTurns guarded early turns (exchange.clientStep program)
  | .foreign op :: turns, exchange =>
      @instDecidableAnd _ _ _ (decidableCalmTurns guarded early turns
        (exchange.foreignStep program op))

end Exchange

section Alone
variable {program : Op → Update α}

theorem alone_bind (client : Client Op α β) (next : β → Client Op α γ) (stored : Option α)
    (current : Bool) :
    (client.bind next).alone program stored current =
      ((next (client.alone program stored current).result).alone program
        (client.alone program stored current).stored
        (client.alone program stored current).current).following
          (client.alone program stored current).landed := by
  induction client generalizing stored current with
  | done result => rfl
  | look rest ih =>
    simp only [Client.bind, Client.alone]
    exact ih stored stored current
  | put op transport rest ih =>
    simp only [Client.bind, Client.alone]
    split
    · exact ih false stored stored current
    · rename_i after _
      rw [ih]
      rfl

/-- Every put that lands applies its operation, so what they all keep is kept. -/
theorem alone_keeps {kept : Option α → Option α → Prop} (refl : ∀ a, kept a a)
    (trans : ∀ {a b c}, kept a b → kept b c → kept a c) (client : Client Op α β) (stored : Option α)
    (current : Bool)
    (each : ∀ op ∈ (client.alone program stored current).landed, ∀ before after,
      (program op).atomically before = some after → kept before (some after)) :
    kept stored (client.alone program stored current).stored := by
  induction client generalizing stored current with
  | done result => exact refl stored
  | look next ih => exact ih stored stored current each
  | put op transport next ih =>
    simp only [Client.alone] at each ⊢
    generalize written : (if current = true ∧ transport ≠ .blocked then
      (program op).atomically stored else none) = attempt at each ⊢
    cases attempt with
    | none => exact ih false stored stored current each
    | some after =>
      have applied : (program op).atomically stored = some after := by
        split at written
        · exact written
        · cases written
      have first := each op List.mem_cons_self stored after applied
      refine trans first (ih _ stored (some after) _ ?_)
      intro other landed
      exact each other (List.mem_cons_of_mem _ landed)

end Alone

section Alike

/-- Two clients that differ only in `minor` writes they make on the way, and in
what they read of contents that are the `same` but for such writes. -/
inductive Alike (same : Option α → Option α → Prop) (minor : Op → Prop) :
    Client Op α β → Client Op α β → Prop where
  | done (result : β) : Alike same minor (.done result) (.done result)
  | look : (∀ a b, same a b → Alike same minor (first a) (second b)) →
      Alike same minor (.look first) (.look second)
  | put : (∀ ok a b, same a b → Alike same minor (first ok a) (second ok b)) →
      Alike same minor (.put op transport first) (.put op transport second)
  | left : minor op → transport ≠ .unanswered → (∀ ok a, Alike same minor (first ok a) second) →
      Alike same minor (.put op transport first) second
  | right : minor op → transport ≠ .unanswered → (∀ ok b, Alike same minor first (second ok b)) →
      Alike same minor first (.put op transport second)

inductive AlikeOpening (same : Option α → Option α → Prop) (minor : Op → Prop) :
    Opening Op α β → Opening Op α β → Prop where
  | quit (result : β) : AlikeOpening same minor (.quit result) (.quit result)
  | look : (∀ a b, same a b → AlikeOpening same minor (first a) (second b)) →
      AlikeOpening same minor (.look first) (.look second)
  | hold : (∀ a b, same a b → Alike same minor (first a) (second b)) →
      AlikeOpening same minor (.hold first) (.hold second)

/-- What the two relations on contents promise about the operations. -/
structure Separates (program : Op → Update α) (same kept : Option α → Option α → Prop)
    (minor guarded : Op → Prop) : Prop where
  same_refl : ∀ a, same a a
  same_symm : ∀ {a b}, same a b → same b a
  same_trans : ∀ {a b c}, same a b → same b c → same a c
  kept_of_same : ∀ {a b}, same a b → kept a b
  kept_symm : ∀ {a b}, kept a b → kept b a
  kept_trans : ∀ {a b c}, kept a b → kept b c → kept a c
  respects : ∀ {op a b a'}, same a b → (program op).atomically a = some a' →
    ∃ b', (program op).atomically b = some b' ∧ same (some a') (some b')
  hides : ∀ {op a a'}, minor op → (program op).atomically a = some a' → same a (some a')
  keeps : ∀ {op a a'}, ¬ guarded op → (program op).atomically a = some a' → kept a (some a')

variable {program : Op → Update α} {same kept : Option α → Option α → Prop}
  {minor guarded : Op → Prop}

theorem Alike.bind {first second : Client Op α β} {next other : β → Client Op α γ}
    (alike : Alike same minor first second)
    (rest : ∀ result, Alike same minor (next result) (other result)) :
    Alike same minor (first.bind next) (second.bind other) := by
  induction alike with
  | done result => exact rest result
  | look _ ih => exact .look ih
  | put _ ih => exact .put ih
  | left hidden answered _ ih => exact .left hidden answered ih
  | right hidden answered _ ih => exact .right hidden answered ih

/-- A minor write that is answered, or does not land, leaves a client's course
and its token as they were. -/
theorem alone_minor (separates : Separates program same kept minor guarded) (hidden : minor op)
    (answered : transport ≠ .unanswered)
    (next : Bool → Option α → Client Op α β) (stored : Option α)
    (current : Bool) :
    ∃ ok after, same stored after ∧
      ((Client.put op transport next).alone program stored current).result =
        ((next ok stored).alone program after current).result ∧
      ((Client.put op transport next).alone program stored current).stored =
        ((next ok stored).alone program after current).stored := by
  rw [Client.alone]
  split
  · exact ⟨false, stored, separates.same_refl stored, rfl, rfl⟩
  · rename_i after written
    split at written
    · rename_i sent
      have clean : transport = .clean := by
        cases transport with
        | clean => rfl
        | blocked => exact absurd rfl sent.2
        | unanswered => exact absurd rfl answered
      have token : current = true := sent.1
      subst clean token
      exact ⟨true, some after, separates.hides hidden written, rfl, rfl⟩
    · cases written

theorem Alike.alone (separates : Separates program same kept minor guarded)
    {first second : Client Op α β} (alike : Alike same minor first second) (current : Bool)
    (agree : same a b) :
    (first.alone program a current).result = (second.alone program b current).result ∧
      same (first.alone program a current).stored (second.alone program b current).stored := by
  induction alike generalizing a b current with
  | done result => exact ⟨rfl, agree⟩
  | look _ ih => exact ih a b agree current agree
  | @put first second op transport _ ih =>
    rw [Client.alone, Client.alone]
    by_cases sent : current ∧ transport ≠ .blocked
    · simp only [if_pos sent]
      cases left : (program op).atomically a with
      | none =>
        cases right : (program op).atomically b with
        | none => exact ih false a b agree current agree
        | some after =>
          obtain ⟨_, found, _⟩ := separates.respects (separates.same_symm agree) right
          exact absurd (found.symm.trans left) (by simp)
      | some after =>
        obtain ⟨other, right, still⟩ := separates.respects agree left
        simp only [right]
        exact ih _ a b agree _ still
    · simp only [if_neg sent]
      exact ih false a b agree current agree
  | left hidden answered _ ih =>
    obtain ⟨ok, after, unseen, result, stored⟩ := alone_minor separates hidden answered _ a current
    rw [result, stored]
    exact ih ok a current (separates.same_trans (separates.same_symm unseen) agree)
  | right hidden answered _ ih =>
    obtain ⟨ok, after, unseen, result, stored⟩ := alone_minor separates hidden answered _ b current
    rw [result, stored]
    exact ih ok b current (separates.same_trans agree unseen)

theorem AlikeOpening.alone (separates : Separates program same kept minor guarded)
    {first second : Opening Op α β}
    (alike : AlikeOpening same minor first second) (agree : same a b) :
    same (first.alone program a).stored (second.alone program b).stored := by
  induction alike generalizing a b with
  | quit result => exact agree
  | look _ ih => exact ih a b agree agree
  | hold held => exact ((held a b agree).alone separates true agree).2

end Alike

section Interleaving
variable {program : Op → Update α} {same kept : Option α → Option α → Prop}
  {minor guarded : Op → Prop}

/-- The interleaving is on course for `goal`: other writes so far were met
before the token was taken, or the client is overtaken and has nothing left to
write that `goal` does not have already. -/
inductive Follows (program : Op → Update α) (same kept : Option α → Option α → Prop)
    (minor : Op → Prop) (early : Prop) (goal : Option α) : Exchange Op α β → Prop where
  | opening (alike : early → AlikeOpening same minor opening opening)
      (ends : kept goal (opening.alone program register.content).stored) :
      Follows program same kept minor early goal ⟨register, .opening opening⟩
  | holding (bound : token ≤ register.token) (seen : ∀ read ∈ reads, read = register.content)
      (ends : kept goal (client.alone program register.content (token = register.token)).stored) :
      Follows program same kept minor early goal ⟨register, .holding token reads client⟩
  | overtaken (behind : token < register.token) (ends : kept goal register.content) :
      Follows program same kept minor early goal ⟨register, .holding token reads client⟩

theorem readsNeeded_pos (update : Update α) : 0 < update.readsNeeded := by
  rw [Update.readsNeeded]
  split <;> omega

/-- Reads that all saw the content make a put on the current token atomic. -/
theorem accepted_current {register : Register α} {reads : List (Option α)}
    (seen : ∀ read ∈ reads, read = register.content)
    (ready : ¬ reads.length < (program op).readsNeeded) (token : Nat) (transport : Transport) :
    reads.getLast?.join = register.content ∧
    Exchange.accepted program register token reads op transport =
      (if (token = register.token : Bool) ∧ transport ≠ .blocked then
        (program op).atomically register.content else none).map fun body =>
          ⟨body :: register.writes⟩ := by
  have needed : reads ≠ [] := by
    intro empty
    have positive := readsNeeded_pos (program op)
    rw [empty, List.length_nil] at ready
    omega
  obtain ⟨first, head⟩ := Option.isSome_iff_exists.mp (List.isSome_head?.mpr needed)
  obtain ⟨last, tail⟩ : ∃ last, reads.getLast? = some last :=
    ⟨_, List.getLast?_eq_some_getLast needed⟩
  have oldest := seen first (List.mem_of_head? head)
  have newest := seen last (List.mem_of_getLast? tail)
  subst oldest newest
  refine ⟨by simp [tail], ?_⟩
  simp only [Exchange.accepted, head, tail, Option.join_some, Update.atomically]
  by_cases blocked : transport = .blocked
  · simp [blocked]
  · by_cases current : token = register.token
    · subst current
      cases computed : (program op).compute register.content register.content with
      | none => simp [blocked]
      | some body => simp [blocked, Register.put]
    · have stale : ¬ register.token = token := fun equal => current equal.symm
      simp [blocked, current, stale, Register.put]

/-- A token that was overtaken is refused. -/
theorem accepted_overtaken {register : Register α} (behind : token < register.token)
    (reads : List (Option α)) (op : Op) (transport : Transport) :
    Exchange.accepted program register token reads op transport = none := by
  have stale : ¬ register.token = token := by omega
  simp [Exchange.accepted, Register.put, stale]

theorem follows_client (separates : Separates program same kept minor guarded)
    {exchange : Exchange Op α β} (follows : Follows program same kept minor early goal exchange) :
    Follows program same kept minor early goal (exchange.clientStep program) := by
  cases follows with
  | @opening opening register alike ends =>
    cases opening with
    | quit result => exact .opening alike ends
    | look next =>
      refine .opening ?_ ends
      intro soon
      cases alike soon with
      | look each => exact each _ _ (separates.same_refl _)
    | hold next => exact .holding le_rfl (by simp) (by simpa [Opening.alone] using ends)
  | @holding token reads register client bound seen ends =>
    cases client with
    | done result => exact .holding bound seen ends
    | look next => exact .holding bound seen ends
    | put op transport next =>
      simp only [Exchange.clientStep]
      split
      · refine .holding bound ?_ ends
        intro read member
        rcases List.mem_append.mp member with old | new
        · exact seen read old
        · exact List.mem_singleton.mp new
      · rename_i ready
        obtain ⟨last, put⟩ := accepted_current seen ready token transport
        rw [put, last]
        rw [Client.alone] at ends
        generalize (if (token = register.token : Bool) ∧ transport ≠ .blocked then
          (program op).atomically register.content else none) = attempt at ends ⊢
        cases attempt with
        | none => exact .holding bound (by simp) ends
        | some body =>
          have grows : register.token < Register.token ⟨body :: register.writes⟩ := by
            simp [Register.token]
          by_cases clean : transport = .clean
          · simp only [clean, if_true, decide_true, Option.map_some] at ends ⊢
            refine .holding le_rfl (by simp) ?_
            simp only [decide_true]
            exact ends
          · have behind : ¬ token = Register.token ⟨body :: register.writes⟩ := by omega
            simp only [clean, if_false, decide_false, Option.map_some] at ends ⊢
            refine .holding (by omega) (by simp) ?_
            simp only [behind, decide_false]
            exact ends
  | @overtaken token register reads client behind ends =>
    cases client with
    | done result => exact .overtaken behind ends
    | look next => exact .overtaken behind ends
    | put op transport next =>
      simp only [Exchange.clientStep, accepted_overtaken behind]
      split <;> exact .overtaken behind ends

theorem follows_foreign (separates : Separates program same kept minor guarded)
    {exchange : Exchange Op α β} (hidden : minor op) (calm : exchange.Calm program guarded early)
    (follows : Follows program same kept minor early goal exchange) :
    Follows program same kept minor early goal (exchange.foreignStep program op) := by
  rw [Exchange.foreignStep]
  cases landed : (program op).atomically exchange.register.content with
  | none => exact follows
  | some body =>
    have unseen := separates.hides hidden landed
    cases follows with
    | opening alike ends =>
      exact .opening alike
        (separates.kept_trans ends (separates.kept_of_same ((alike calm).alone separates unseen)))
    | @holding token reads register client bound seen ends =>
      have idle : kept register.content
          (client.alone program register.content (token = register.token)).stored := by
        refine alone_keeps (fun a =>
          separates.kept_of_same (separates.same_refl a)) separates.kept_trans
          client register.content _ ?_
        intro other member before after applied
        exact separates.keeps (calm other member) applied
      refine .overtaken ?_ ?_
      · simp only [Register.token, List.length_cons] at bound ⊢
        omega
      · exact separates.kept_trans (separates.kept_trans ends (separates.kept_symm idle))
          (separates.kept_of_same unseen)
    | overtaken behind ends =>
      refine .overtaken ?_ (separates.kept_trans ends (separates.kept_of_same unseen))
      simp only [Register.token, List.length_cons] at behind ⊢
      omega

theorem follows_interleave (separates : Separates program same kept minor guarded)
    (turns : List (Turn Op)) (hidden : ∀ op, .foreign op ∈ turns → minor op)
    {exchange : Exchange Op α β}
    (calm : exchange.CalmTurns program guarded early turns)
    (follows : Follows program same kept minor early goal exchange) :
    Follows program same kept minor early goal (exchange.interleave program turns) := by
  induction turns generalizing exchange with
  | nil => exact follows
  | cons turn turns ih =>
    have later : ∀ op, .foreign op ∈ turns → minor op :=
      fun op member => hidden op (List.mem_cons_of_mem _ member)
    cases turn with
    | client => exact ih later calm (follows_client separates follows)
    | foreign op =>
      exact ih later calm.2
        (follows_foreign separates (hidden op List.mem_cons_self) calm.1 follows)

theorem Follows.finished {exchange : Exchange Op α β}
    (follows : Follows program same kept minor early goal exchange)
    (through : exchange.result?.isSome) : kept goal exchange.register.content := by
  cases follows with
  | @opening opening register alike ends =>
    cases opening with
    | quit result => exact ends
    | look | hold => cases through
  | @holding token reads register client bound seen ends =>
    cases client with
    | done result => exact ends
    | look | put => cases through
  | overtaken behind ends => exact ends

/-- Other writes at calm points do not change what the client ends with. -/
theorem calm_interleaving (separates : Separates program same kept minor guarded)
    (register : Register α) (opening : Opening Op α β)
    (alike : early → AlikeOpening same minor opening opening)
    (turns : List (Turn Op)) (hidden : ∀ op, .foreign op ∈ turns → minor op)
    (calm : (Exchange.mk register (.opening opening)).CalmTurns program guarded early turns)
    (through : ((Exchange.mk register (.opening opening)).interleave program
      turns).result?.isSome) :
    kept (opening.alone program register.content).stored
      ((Exchange.mk register (.opening opening)).interleave program turns).register.content :=
  (follows_interleave separates turns hidden calm
    (.opening alike (separates.kept_of_same (separates.same_refl _)))).finished through

/-- The token a client holds was issued. -/
def Issued (exchange : Exchange Op α β) : Prop :=
  match exchange.stage with
  | .opening _ => True
  | .holding token _ _ => token ≤ exchange.register.token

theorem issued_step (turn : Turn Op) {exchange : Exchange Op α β} (issued : Issued exchange) :
    Issued (exchange.step program turn) := by
  obtain ⟨register, stage⟩ := exchange
  cases turn with
  | foreign op =>
    simp only [Exchange.step, Exchange.foreignStep]
    cases landed : (program op).atomically register.content with
    | none => exact issued
    | some body =>
      cases stage with
      | opening opening => trivial
      | holding token reads client =>
        simp only [Issued, Register.token, List.length_cons] at issued ⊢
        omega
  | client =>
    cases stage with
    | opening opening =>
      cases opening with
      | quit | look => trivial
      | hold next => exact le_refl register.token
    | holding token reads client =>
      cases client with
      | done | look => exact issued
      | put op transport next =>
        simp only [Exchange.step, Exchange.clientStep]
        split
        · exact issued
        · split
          · exact issued
          · rename_i after accepted
            have grown : after.token = register.token + 1 := by
              rw [Exchange.accepted] at accepted
              split at accepted
              · cases accepted
              · obtain ⟨body, _, put⟩ := Option.bind_eq_some_iff.mp accepted
                rw [Register.put] at put
                split at put
                · cases put
                  rfl
                · cases put
            simp only [Issued] at issued ⊢
            split <;> omega

theorem issued_interleave (turns : List (Turn Op)) {exchange : Exchange Op α β}
    (issued : Issued exchange) : Issued (exchange.interleave program turns) := by
  induction turns generalizing exchange with
  | nil => exact issued
  | cons turn turns ih => exact ih (issued_step turn issued)

/-- A foreign write that lands while the client holds a token ends what the
client can do: the guarded part of the content stays as it is then. -/
theorem overtaken_interleaving (separates : Separates program same kept minor guarded)
    (turns : List (Turn Op)) (hidden : ∀ op, .foreign op ∈ turns → minor op)
    {register : Register α} (behind : token < register.token) (reads : List (Option α))
    (client : Client Op α β) (ends : kept goal register.content) :
    kept goal ((Exchange.mk register (.holding token reads client)).interleave program
      turns).register.content := by
  induction turns generalizing register reads client with
  | nil => exact ends
  | cons turn turns ih =>
    have later : ∀ op, .foreign op ∈ turns → minor op :=
      fun op member => hidden op (List.mem_cons_of_mem _ member)
    cases turn with
    | foreign op =>
      simp only [Exchange.interleave, List.foldl_cons, Exchange.step, Exchange.foreignStep]
      cases landed : (program op).atomically register.content with
      | none => exact ih later behind reads client ends
      | some body =>
        have unseen := separates.hides (hidden op List.mem_cons_self) landed
        refine @ih later ⟨body :: register.writes⟩ ?_ reads client
          (separates.kept_trans ends (separates.kept_of_same unseen))
        simp only [Register.token, List.length_cons] at behind ⊢
        omega
    | client =>
      simp only [Exchange.interleave, List.foldl_cons, Exchange.step]
      cases client with
      | done result => exact ih later behind reads _ ends
      | look next => exact ih later behind reads _ ends
      | put op transport next =>
        simp only [Exchange.clientStep, accepted_overtaken behind]
        split
        · exact ih later behind _ _ ends
        · exact ih later behind _ _ ends

theorem separates_eq : Separates program Eq Eq (fun _ => False) fun _ => True where
  same_refl _ := rfl
  same_symm := Eq.symm
  same_trans := Eq.trans
  kept_of_same := id
  kept_symm := Eq.symm
  kept_trans := Eq.trans
  respects := by
    rintro op a _ after rfl applied
    exact ⟨after, applied, rfl⟩
  hides := nofun
  keeps free := absurd trivial free

theorem calmTurns_of_solitary (turns : List (Turn Op)) (solitary : ∀ op, .foreign op ∉ turns)
    (exchange : Exchange Op α β) : exchange.CalmTurns program guarded early turns := by
  induction turns generalizing exchange with
  | nil => trivial
  | cons turn turns ih =>
    cases turn with
    | client => exact ih (fun op member => solitary op (List.mem_cons_of_mem _ member)) _
    | foreign op => exact absurd List.mem_cons_self (solitary op)

/-- Without other writes a client that is through has met exactly its own. -/
theorem solitary_interleaving (register : Register α) (opening : Opening Op α β)
    (turns : List (Turn Op)) (solitary : ∀ op, .foreign op ∉ turns)
    (through : ((Exchange.mk register (.opening opening)).interleave program
      turns).result?.isSome) :
    (opening.alone program register.content).stored =
      ((Exchange.mk register (.opening opening)).interleave program turns).register.content :=
  calm_interleaving separates_eq register opening False.elim turns
    (fun op member => absurd member (solitary op)) (calmTurns_of_solitary turns solitary _) through

/-- Some number of the client's own turns brings it through. -/
def Finishes (program : Op → Update α) (exchange : Exchange Op α β) : Prop :=
  ∃ n, (exchange.interleave program (List.replicate n .client)).result?.isSome

theorem Finishes.step {exchange : Exchange Op α β}
    (later : Finishes program (exchange.clientStep program)) : Finishes program exchange := by
  obtain ⟨n, through⟩ := later
  exact ⟨n + 1, through⟩

theorem client_finishes (client : Client Op α β) (register : Register α) (token : Nat)
    (reads : List (Option α)) : Finishes program ⟨register, .holding token reads client⟩ := by
  induction client generalizing register token reads with
  | done result => exact ⟨0, rfl⟩
  | look next ih => exact .step (ih register.content register token reads)
  | put op transport next ih =>
    -- the reads that the put still lacks come first
    generalize missing : (program op).readsNeeded - reads.length = count
    induction count generalizing reads with
    | zero =>
      have ready : ¬ reads.length < (program op).readsNeeded := by omega
      refine .step ?_
      simp only [Exchange.clientStep, if_neg ready]
      split
      · exact ih false _ register token []
      · exact ih _ _ _ _ []
    | succ count more =>
      have short : reads.length < (program op).readsNeeded := by omega
      refine .step ?_
      simp only [Exchange.clientStep, if_pos short]
      refine more (reads ++ [register.content]) ?_
      rw [List.length_append, List.length_singleton]
      omega

theorem finishes (exchange : Exchange Op α β) : Finishes program exchange := by
  obtain ⟨register, stage⟩ := exchange
  cases stage with
  | holding token reads client => exact client_finishes client register token reads
  | opening opening =>
    induction opening with
    | quit result => exact ⟨0, rfl⟩
    | look next ih => exact .step (ih register.content)
    | hold next => exact .step (client_finishes (next register.content) register register.token [])

end Interleaving
end ReplicateOnTag.HeldToken
