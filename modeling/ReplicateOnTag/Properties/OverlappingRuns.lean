import ReplicateOnTag.Orchestrator.Overlap

/-! Runs of one bucket that overlap: every order of their reads and writes on
the state object, among writes of the other functions. -/
namespace ReplicateOnTag.Orchestrator
open StateStore HeldToken Contention Watermark CheckpointLogic JournalDedup ConditionalStore

abbrev Race (ι : Type) := Contest ι StateOp RunPhase Payload Unit

section Race
variable {ι : Type} [DecidableEq ι] (settings : Settings) (envs : ι → RunEnv)

/-- Runs about to start, on an object of any content. -/
def starting (initial : Register Payload) : Race ι :=
  { register := initial
    stage := fun i => .opening (RunClient.runBucket settings (envs i))
    watch := fun _ => ⟨.idle, none, fun _ => .idle⟩ }

def race (initial : Register Payload) (acts : List (Act ι StateOp)) : Race ι :=
  (starting settings envs initial).run (StateOp.program settings.bucketName) RunPhase.phases acts

/-- The refs of the job that a run has created, or may have: under its lease, and
past a release without refs when the answer of `CreateJob` was lost. -/
def jobRefs (contest : Race ι) (i : ι) : List ProcessedRef :=
  match contest.phase i with
  | .idle | .stranded => []
  | .leased => offeredRefs settings (envs i) (contest.watch i).held
  | .released (some refs) => refs
  | .released none =>
      match (envs i).createJob with
      | .lost .. => offeredRefs settings (envs i) (contest.watch i).held
      | _ => []

end Race

section Content
variable {settings : Settings} {env other : RunEnv} {content : Option Payload} {ref : ProcessedRef}

/-- The checkpoint keeps the ref from being eligible again: it is below the
lookback tail, or the window knows its identity. -/
structure Absorbed (settings : Settings) (content : Option Payload)
    (ref : ProcessedRef) : Prop where
  reached : ref.watermark ≤ (payloadOrDefault settings.bucketName content).lastProcessedWatermark
  recorded : subtract (payloadOrDefault settings.bucketName content).lastProcessedWatermark
      settings.lookback < ref.watermark →
    ∃ kept ∈ (payloadOrDefault settings.bucketName content).processedWindow,
      kept.logicalOperationId = ref.logicalOperationId ∧ ref.watermark ≤ kept.watermark

theorem Absorbed.keeps (absorbed : Absorbed settings content ref)
    (keeps : KeepsWindow settings.bucketName content after) : Absorbed settings after ref := by
  refine ⟨?_, ?_⟩
  · rw [keeps.watermark]
    exact absorbed.reached
  · rw [keeps.watermark, keeps.window]
    exact absorbed.recorded

/-- A release keeps what was absorbed and absorbs its own refs. -/
theorem absorbed_release {refs : List ProcessedRef}
    (applied : (StateOp.releaseLease now (some refs) settings.lookback candidate).apply
      settings.bucketName content = some after)
    (before : Absorbed settings content ref ∨ ref ∈ refs) : Absorbed settings (some after) ref := by
  cases refs with
  | nil =>
    obtain ⟨state, read, rfl⟩ := StateOp.apply_releaseLease applied
    obtain ⟨_, watermark, window⟩ := getCheckpoint_fields read
    exact (before.resolve_right List.not_mem_nil).keeps ⟨watermark, window⟩
  | cons first rest =>
    obtain ⟨state, read, rfl⟩ := StateOp.apply_releaseLease applied
    obtain ⟨_, watermark, window⟩ := getCheckpoint_fields read
    rw [advanceCheckpoint_submitted (List.cons_ne_nil first rest)]
    have grown : ref.watermark ≤
        advancedWatermark state.lastProcessedWatermark (first :: rest) candidate := by
      rcases before with absorbed | member
      · exact (watermark ▸ absorbed.reached).trans (le_advancedWatermark _ _ _)
      · exact ref_le_advancedWatermark member
    refine ⟨grown, fun above => ?_⟩
    have kept : ∃ kept ∈ state.processedWindow ++ first :: rest,
        kept.logicalOperationId = ref.logicalOperationId ∧ ref.watermark ≤ kept.watermark := by
      rcases before with absorbed | member
      · have tail := subtract_mono settings.lookback
          (le_advancedWatermark state.lastProcessedWatermark (first :: rest) candidate)
        rw [watermark] at tail
        obtain ⟨kept, recorded, same, later⟩ :=
          absorbed.recorded (tail.trans_lt (watermark ▸ above))
        exact ⟨kept, List.mem_append_left _ (window ▸ recorded), same, later⟩
      · exact ⟨ref, List.mem_append_right _ member, rfl, le_rfl⟩
    obtain ⟨kept, recorded, same, later⟩ := kept
    obtain ⟨latest, stays, own, last⟩ :=
      (pruneWindow_prunes (state.processedWindow ++ first :: rest) _).latest kept recorded
        (above.trans_le later)
    exact ⟨latest, stays, own.trans same, later.trans last⟩

/-- The operations behind the offered refs. -/
theorem mem_offeredRefs (offered : ref ∈ offeredRefs settings env content) :
    ∃ checkpoint op, getCheckpoint env.now settings.bucketName content = some checkpoint ∧
      isEligible op checkpoint settings.lookback ∧ ref = ⟨op.logicalOperationId, op.watermark⟩ ∧
      (∃ row ∈ env.journal, op.watermark = toWatermark row.recordTimestamp) ∧
      ∃ candidate, candidate? settings env content = some candidate ∧ op.watermark ≤ candidate := by
  simp only [offeredRefs] at offered
  cases chose : chosen? settings env content with
  | none => simp [chose] at offered
  | some chosen =>
    simp only [chose, Chosen.refs] at offered
    split at offered
    · cases offered
    · obtain ⟨op, member, _, rfl⟩ := mem_buildSubmittedRefs.mp offered
      simp only [chosen?, Option.bind_eq_some_iff, Option.map_eq_some_iff] at chose
      obtain ⟨checkpoint, found, window, read, rfl⟩ := chose
      obtain ⟨reads, _⟩ := readJournalWindow_some (Prod.ext read rfl)
      have eligible := (mem_dedupedOps.mp member).1
      obtain ⟨listed, _, admitted⟩ := eligible_mem_ops eligible
      rw [reads.ops] at listed
      obtain ⟨row, inJournal, tagging, _, accepted⟩ := AthenaJournal.mem_readJournal.mp listed
      obtain ⟨candidate, top⟩ : ∃ candidate,
          (selectEligible settings window.ops checkpoint).candidateHwm = some candidate := by
        rw [← Option.ne_none_iff_exists', selectEligible_candidate, Ne, maxWatermark_eq_none_iff]
        exact List.ne_nil_of_mem eligible
      refine ⟨checkpoint, op, found, admitted, rfl,
        ⟨row, inJournal, (AthenaJournal.parseRow_ok tagging accepted).2.2.2⟩, candidate, ?_,
        dedupedOps_le_candidate top member⟩
      simp only [candidate?, chosen?, found, Option.bind_some, read, Option.map_some, top]

theorem candidate_dated (found : candidate? settings env content = some candidate) :
    ∃ row ∈ env.journal, candidate = toWatermark row.recordTimestamp := by
  simp only [candidate?, chosen?, Option.bind_eq_some_iff, Option.map_eq_some_iff] at found
  obtain ⟨_, ⟨checkpoint, _, window, read, rfl⟩, top⟩ := found
  obtain ⟨reads, _⟩ := readJournalWindow_some (Prod.ext read rfl)
  rw [selectEligible_candidate] at top
  obtain ⟨op, eligible, rfl⟩ := maxWatermark_attained top
  have listed := (eligible_mem_ops eligible).1
  rw [reads.ops] at listed
  obtain ⟨row, inJournal, tagging, _, accepted⟩ := AthenaJournal.mem_readJournal.mp listed
  exact ⟨row, inJournal, (AthenaJournal.parseRow_ok tagging accepted).2.2.2⟩

theorem not_offered_of_absorbed (absorbed : Absorbed settings content ref) :
    ref ∉ offeredRefs settings env content := by
  intro offered
  obtain ⟨checkpoint, op, found, eligible, rfl, ⟨row, _, dated⟩, _⟩ := mem_offeredRefs offered
  obtain ⟨_, watermark, window⟩ := getCheckpoint_fields found
  have reached := absorbed.reached
  have recorded := absorbed.recorded
  rw [← watermark] at reached recorded
  rw [← window] at recorded
  rcases ((isEligible_iff op checkpoint settings.lookback).mp eligible).2 with first | newer | tail
  · rw [first] at reached
    exact absurd reached (not_le.mpr (dated ▸ epoch_lt_toWatermark _))
  · exact absurd reached (not_le.mpr newer)
  · obtain ⟨kept, member, same, _⟩ := recorded tail.1
    exact tail.2 (List.mem_map.mpr ⟨kept, member, same⟩)

/-- A lease that reads as plausible keeps its holder's operations from another run. -/
theorem disjoint_of_lease (found : candidate? settings env held = some candidate)
    (leased : (payloadOrDefault settings.bucketName content).lease = some (newLease env candidate))
    (believed : isPlausible candidate other.now) :
    List.Disjoint (offeredRefs settings env held) (offeredRefs settings other content) := by
  intro ref mine theirs
  obtain ⟨_, op, _, _, rfl, _, top, same, below⟩ := mem_offeredRefs mine
  obtain ⟨checkpoint, rival, read, eligible, shape, _⟩ := mem_offeredRefs theirs
  cases found.symm.trans same
  have watermark : op.watermark = rival.watermark := congrArg ProcessedRef.watermark shape
  have lease : checkpoint.lease = some (newLease env candidate) := by
    cases content with
    | none => cases leased
    | some payload =>
      rw [(deserialize_eq_some (getCheckpoint_some read).1).2.2.2.2,
        show payload.lease = _ from leased]
      simp [deserializeLease, newLease, believed]
  have free := ((isEligible_iff rival checkpoint settings.lookback).mp eligible).1
  rw [lease] at free
  simp [leaseHolds, newLease, ← watermark, below] at free

end Content

theorem spares_owned {op : StateOp} (spares : SparesLease op) (key : PayloadKey)
    (checkpoint : key ∈ StateOp.checkpointKeys) : key ∉ op.ownedKeys := by
  simp only [StateOp.checkpointKeys, List.mem_cons, List.not_mem_nil, or_false] at checkpoint
  rcases checkpoint with rfl | rfl | rfl | rfl <;>
    cases op <;> first | exact spares.elim | simp [StateOp.ownedKeys]

section Records
variable {ι : Type} {settings : Settings} {envs : ι → RunEnv} {content : Option Payload}
  {phase : ι → RunPhase} {held : ι → Option Payload}

/-- What the object holds of the runs that have entered: the refs of those that
released, and the lease of one that has not, unless another run entered too. -/
structure Records (settings : Settings) (envs : ι → RunEnv) (content : Option Payload)
    (phase : ι → RunPhase) (held : ι → Option Payload) : Prop where
  absorbed : ∀ {i refs ref}, phase i = .released (some refs) → ref ∈ refs →
    Absorbed settings content ref
  offered : ∀ {i refs}, phase i = .released (some refs) →
    refs = offeredRefs settings (envs i) (held i)
  shielded : ∀ {i}, phase i ≠ .idle → ¬ (phase i).Left →
    (∃ candidate, candidate? settings (envs i) (held i) = some candidate ∧
      (payloadOrDefault settings.bucketName content).lease = some (newLease (envs i) candidate)) ∨
    ∃ k, k ≠ i ∧ phase k ≠ .idle

/-- Only contents of runs that have entered matter. -/
theorem Records.reheld {taken : ι → Option Payload}
    (records : Records settings envs content phase held)
    (same : ∀ i, phase i ≠ .idle → taken i = held i) :
    Records settings envs content phase taken where
  absorbed := records.absorbed
  offered := by
    intro i refs released
    rw [same i (by rw [released]; nofun)]
    exact records.offered released
  shielded := by
    intro i entered inside
    rw [same i entered]
    exact records.shielded entered inside

theorem Records.spares {op : StateOp} (records : Records settings envs content phase held)
    (spares : SparesLease op) (applied : op.apply settings.bucketName content = some after) :
    Records settings envs (some after) phase held := by
  have lease : (payloadOrDefault settings.bucketName content).lease = after.lease :=
    StateOp.frame applied (spares_owned spares .lease (by decide))
  have keeps : KeepsWindow settings.bucketName content (some after) :=
    keepsWindow_frame applied (spares_owned spares _ (by decide))
      (spares_owned spares _ (by decide))
  refine ⟨fun released member =>
    (records.absorbed released member).keeps keeps, records.offered, ?_⟩
  intro i entered inside
  refine (records.shielded entered inside).imp_left ?_
  rintro ⟨candidate, found, leased⟩
  exact ⟨candidate, found, lease.symm.trans leased⟩

variable [DecidableEq ι]

/-- The run that acquires has its lease in the object, and replaces any other. -/
theorem Records.acquire (records : Records settings envs content phase held) {k : ι}
    (entered : next = .leased ∨ next = .stranded)
    (found : candidate? settings (envs k) (held k) = some candidate)
    (applied : (StateOp.acquireLease now (newLease (envs k) candidate)).apply
      settings.bucketName content =
      some after) : Records settings envs (some after) (Function.update phase k next) held := by
  have busy : Function.update phase k next k ≠ .idle := by
    rw [Function.update_self]
    rcases entered with rfl | rfl <;> nofun
  have quiet : IsQuietOp (.acquireLease now (newLease (envs k) candidate)) := trivial
  have keeps := keepsWindow_quiet quiet applied
  have others : ∀ {i refs}, Function.update phase k next i = .released refs →
      phase i = .released refs := by
    intro i refs released
    by_cases acting : i = k
    · subst acting
      rw [Function.update_self] at released
      rcases entered with rfl | rfl <;> cases released
    · rwa [Function.update_of_ne acting] at released
  refine ⟨fun released member => (records.absorbed (others released) member).keeps keeps,
    fun released => records.offered (others released), ?_⟩
  intro i _ _
  by_cases acting : i = k
  · subst acting
    obtain ⟨state, _, rfl⟩ := StateOp.apply_acquireLease applied
    exact .inl ⟨candidate, found, rfl⟩
  · exact .inr ⟨k, Ne.symm acting, busy⟩

/-- The run that releases leaves its refs in the object. -/
theorem Records.release (records : Records settings envs content phase held) {k : ι}
    (refs : submitted = none ∨ submitted = some (offeredRefs settings (envs k) (held k)))
    (applied : (StateOp.releaseLease now submitted settings.lookback
      candidate).apply settings.bucketName
      content = some after) :
    Records settings envs (some after) (Function.update phase k (.released submitted)) held := by
  have busy : Function.update phase k (.released submitted) k ≠ .idle := by
    rw [Function.update_self]
    nofun
  have kept : ∀ {ref}, Absorbed settings content ref → Absorbed settings (some after) ref := by
    intro ref absorbed
    cases submitted with
    | none =>
      have quiet : IsQuietOp (.releaseLease now none settings.lookback candidate) := rfl
      exact absorbed.keeps (keepsWindow_quiet quiet applied)
    | some refs => exact absorbed_release applied (.inl absorbed)
  refine ⟨?_, ?_, ?_⟩
  · intro i refs ref released member
    by_cases acting : i = k
    · subst acting
      rw [Function.update_self] at released
      cases released
      exact absorbed_release applied (.inr member)
    · rw [Function.update_of_ne acting] at released
      exact kept (records.absorbed released member)
  · intro i list released
    by_cases acting : i = k
    · subst acting
      rw [Function.update_self] at released
      cases released
      exact Option.some.inj (refs.resolve_left nofun)
    · rw [Function.update_of_ne acting] at released
      exact records.offered released
  · intro i _ inside
    by_cases acting : i = k
    · subst acting
      rw [Function.update_self] at inside
      exact absurd trivial inside
    · exact .inr ⟨k, Ne.symm acting, busy⟩

end Records

section Race
variable {ι : Type} [DecidableEq ι] {settings : Settings} {envs : ι → RunEnv} {contest : Race ι}

/-- What holds in every state of a race, now and when each run took its token. -/
structure Raced (settings : Settings) (envs : ι → RunEnv) (contest : Race ι) : Prop where
  disciplined : Disciplined RunPhase.phases (fun i held => MayWrite settings (envs i) held) contest
  now : Records settings envs contest.register.content contest.phase fun i => (contest.watch i).held
  taken : ∀ j, Records settings envs (contest.watch j).held (contest.watch j).seen fun i =>
    (contest.watch i).held
  settled : ∀ j i, ((contest.watch j).seen i).Left → contest.phase i = (contest.watch j).seen i
  unseen : ∀ j, (contest.watch j).seen j = .idle

omit [DecidableEq ι] in
theorem raced_starting (unfailing : ∀ i, Unfailing settings (envs i)) (initial : Register Payload) :
    Raced settings envs (starting settings envs initial) where
  disciplined :=
    { obedient := fun i =>
        { opening := by
            intro opening same
            cases same
            exact ⟨rfl, runBucket_obeys (unfailing i)⟩
          holding := nofun
          reads := nofun }
      ordered :=
        { grown := fun entered => absurd rfl entered
          fresh := by
            rintro i j ⟨_, _, holds⟩
            cases holds
          ordered := fun _ entered => absurd rfl entered
          behind := fun _ entered => absurd rfl entered } }
  now := ⟨nofun, nofun, fun entered => absurd rfl entered⟩
  taken _ := ⟨nofun, nofun, fun entered => absurd rfl entered⟩
  settled _ _ left := left.elim
  unseen _ := rfl

/-- The records after a put of a run that lands. -/
theorem Raced.landed (raced : Raced settings envs contest) {k : ι} {op : StateOp} {fate : Fate}
    (permitted : MayWrite settings (envs k) (contest.watch k).held (contest.phase k) op)
    (landed : fate ≠ .refused)
    (applied : op.apply settings.bucketName contest.register.content = some after) :
    Records settings envs (some after)
      (Function.update contest.phase k (RunPhase.phases.next (contest.phase k) op fate))
      fun i => (contest.watch i).held := by
  by_cases spares : SparesLease op
  · rw [next_spares spares, Function.update_eq_self]
    exact raced.now.spares spares applied
  · cases op with
    | putCheckpoint => exact permitted.elim
    | acquireLease now lease =>
      obtain ⟨idle, _, candidate, found, rfl⟩ := permitted
      rw [idle]
      refine raced.now.acquire ?_ found applied
      cases fate with
      | refused => exact absurd rfl landed
      | answered => exact .inl rfl
      | unanswered => exact .inr rfl
    | releaseLease now refs lookback candidate =>
      obtain ⟨leased, _, rfl, _, offered⟩ := permitted
      have next : RunPhase.phases.next (contest.phase k)
          (.releaseLease now refs settings.lookback candidate) fate = .released refs := by
        rw [leased]
        cases fate with
        | refused => exact absurd rfl landed
        | answered | unanswered => rfl
      rw [next]
      exact raced.now.release offered applied
    | _ => exact absurd trivial spares

theorem Raced.client (raced : Raced settings envs contest) (k : ι) :
    Raced settings envs
      (contest.step (StateOp.program settings.bucketName) RunPhase.phases (.client k)) := by
  generalize met : contest.step (StateOp.program settings.bucketName)
    RunPhase.phases (.client k) = later
  have disciplined : Disciplined RunPhase.phases (fun i held =>
      MayWrite settings (envs i) held) later :=
    met ▸ raced.disciplined.client k
  have others : ∀ i, i ≠ k → later.watch i = contest.watch i := fun i other =>
    met ▸ (Contest.others_client _ RunPhase.phases contest other).2
  have still : ∀ i, i ≠ k → later.phase i = contest.phase i := fun i other =>
    congrArg Watch.phase (others i other)
  cases (met ▸ raced.disciplined.effect k :
    Effect (StateOp.program settings.bucketName) RunPhase.phases
    (MayWrite settings (envs k) (contest.watch k).held) contest later k) with
  | idle register watch =>
    have watches : later.watch = contest.watch := funext (Contest.watch_alike id others watch)
    have phase : later.phase = contest.phase :=
      funext fun i => congrArg (fun watch => (watch i).phase) watches
    refine ⟨disciplined, ?_, ?_, ?_, ?_⟩
    · rw [register, phase, watches]
      exact raced.now
    · rw [watches]
      exact raced.taken
    · rw [phase, watches]
      exact raced.settled
    · rw [watches]
      exact raced.unseen
  | hold register start watch =>
    have phase : later.phase = contest.phase :=
      funext (Contest.watch_alike Watch.phase others (congrArg Watch.phase watch :))
    have held : ∀ i, contest.phase i ≠ .idle → (later.watch i).held = (contest.watch i).held := by
      intro i entered
      rw [others i (by rintro rfl; exact entered start)]
    have now : Records settings envs contest.register.content contest.phase
        fun i => (later.watch i).held := raced.now.reheld held
    refine ⟨disciplined, by rw [register, phase]; exact now, ?_, ?_, ?_⟩
    · intro j
      by_cases acting : j = k
      · subst acting
        rw [watch]
        exact now
      · rw [others j acting]
        exact (raced.taken j).reheld fun i entered =>
          held i (raced.disciplined.ordered.grown entered)
    · intro j i
      by_cases acting : j = k
      · subst acting
        rw [watch, phase]
        exact fun _ => rfl
      · rw [others j acting, phase]
        exact raced.settled j i
    · intro j
      by_cases acting : j = k
      · subst acting
        rw [watch]
        exact start
      · rw [others j acting]
        exact raced.unseen j
  | @put op fate permitted watch current written =>
    have seen : ∀ i, (later.watch i).seen = (contest.watch i).seen :=
      Contest.watch_alike Watch.seen others (congrArg Watch.seen watch :)
    have held : (fun i => (later.watch i).held) = fun i => (contest.watch i).held :=
      funext (Contest.watch_alike Watch.held others (congrArg Watch.held watch :))
    have phase : later.phase =
        Function.update contest.phase k (RunPhase.phases.next (contest.phase k) op fate) := by
      funext i
      by_cases acting : i = k
      · subst acting
        rw [Function.update_self]
        exact (congrArg Watch.phase watch :)
      · rw [Function.update_of_ne acting]
        exact still i acting
    refine ⟨disciplined, ?_, ?_, ?_, ?_⟩
    · rw [phase, held]
      rcases written with ⟨rfl, register⟩ | ⟨landed, content, applied, register⟩
      · rw [register, show RunPhase.phases.next (contest.phase k) op .refused = _ from
          RunPhase.next_refused _ op, Function.update_eq_self]
        exact raced.now
      · rw [register]
        exact raced.landed permitted landed applied
    · intro j
      rw [seen, held, congrFun held j]
      exact raced.taken j
    · intro j i left
      rw [seen] at left ⊢
      rw [phase]
      by_cases acting : i = k
      · subst acting
        rw [Function.update_self, raced.settled j i left]
        cases gone : (contest.watch j).seen i with
        | released refs => rfl
        | idle | leased | stranded =>
          rw [gone] at left
          exact left.elim
      · rw [Function.update_of_ne acting]
        exact raced.settled j i left
    · intro j
      rw [seen]
      exact raced.unseen j

theorem Raced.foreign (raced : Raced settings envs contest) {op : StateOp}
    (spares : SparesLease op) :
    Raced settings envs
      (contest.step (StateOp.program settings.bucketName) RunPhase.phases (.foreign op)) := by
  have disciplined : Disciplined RunPhase.phases _
      (contest.step (StateOp.program settings.bucketName) RunPhase.phases (.foreign op)) :=
        raced.disciplined.foreign op
  simp only [Contest.step] at disciplined ⊢
  split at disciplined
  · exact raced
  · rename_i written applied
    exact ⟨disciplined, raced.now.spares spares applied, raced.taken, raced.settled, raced.unseen⟩

theorem raced_race (unfailing : ∀ i, Unfailing settings (envs i)) (initial : Register Payload)
    (acts : List (Act ι StateOp)) (foreign : ∀ op, .foreign op ∈ acts → SparesLease op) :
    Raced settings envs (race settings envs initial acts) := by
  rw [race, Contest.run]
  generalize begun : starting settings envs initial = contest
  have raced : Raced settings envs contest := begun ▸ raced_starting unfailing initial
  clear begun
  induction acts generalizing contest with
  | nil => exact raced
  | cons act acts ih =>
    have rest := fun op member => foreign op (List.mem_cons_of_mem act member)
    cases act with
    | client k => exact ih rest _ (raced.client k)
    | foreign op => exact ih rest _ (raced.foreign (foreign op List.mem_cons_self))

omit [DecidableEq ι] in
/-- What a run may have submitted is what it offers. -/
theorem jobRefs_offered (raced : Raced settings envs contest) (i : ι) :
    ∀ ref ∈ jobRefs settings envs contest i,
      ref ∈ offeredRefs settings (envs i) (contest.watch i).held := by
  intro ref member
  simp only [jobRefs] at member
  cases phase : contest.phase i with
  | idle | stranded => simp [phase] at member
  | leased => simpa [phase] using member
  | released refs =>
    cases refs with
    | none =>
      simp only [phase] at member
      split at member
      · exact member
      · cases member
    | some refs => simpa [phase, raced.now.offered phase] using member

omit [DecidableEq ι] in
theorem entered_of_jobRefs (member : ref ∈ jobRefs settings envs contest i) :
    contest.phase i ≠ .idle := by
  intro idle
  simp [jobRefs, idle] at member

omit [DecidableEq ι] in
/-- A run that took its token after another had entered submits none of its refs. -/
theorem disjoint_of_seen (raced : Raced settings envs contest)
    (clocks : ∀ i j, ∀ row ∈ (envs i).journal,
      isPlausible (toWatermark row.recordTimestamp) (envs j).now)
    (other : i ≠ j) (first : (contest.watch j).seen i ≠ .idle)
    (heard : contest.phase i = .released none → (envs i).createJob.IsHeard)
    (third : (contest.phase i).Left ∨ ∀ k, contest.phase k ≠ .idle → k = i ∨ k = j) :
    List.Disjoint (jobRefs settings envs contest i) (jobRefs settings envs contest j) := by
  intro ref mine theirs
  have rival := jobRefs_offered raced j ref theirs
  by_cases left : ((contest.watch j).seen i).Left
  · -- the checkpoint that the later run read had absorbed the refs
    cases gone : (contest.watch j).seen i with
    | idle | leased | stranded =>
      rw [gone] at left
      exact left
    | released refs =>
      have phase := (raced.settled j i left).trans gone
      cases refs with
      | none =>
        have heard := heard phase
        simp only [jobRefs, phase] at mine
        cases reply : (envs i).createJob with
        | created jobId | rejected failureClass => simp [reply] at mine
        | lost jobId failureClass =>
          rw [reply] at heard
          exact heard
      | some refs =>
        have absorbed : Absorbed settings (contest.watch j).held ref :=
          (raced.taken j).absorbed gone (by simpa [jobRefs, phase] using mine)
        exact not_offered_of_absorbed absorbed rival
  · -- the earlier run never releases, so its lease stood when the later one took its token
    have behind := raced.disciplined.ordered.behind other.symm (entered_of_jobRefs theirs) first
    obtain ⟨inside, _⟩ := behind.resolve_left left
    rcases (raced.taken j).shielded first left with ⟨candidate, found,
      leased⟩ | ⟨k, different, entered⟩
    · obtain ⟨row, listed, rfl⟩ := candidate_dated found
      exact disjoint_of_lease found leased (clocks i j row listed)
        (jobRefs_offered raced i ref mine) rival
    · rcases third.resolve_left inside k (raced.disciplined.ordered.grown entered) with same | rfl
      · exact different same
      · exact entered (raced.unseen k)

/-- In any order of the reads and writes of any number of runs of a bucket, two
of them never create jobs for the same operation, if both releases landed or no
third run acquired the lease, and neither released it with a job created unheard. -/
theorem overlapping_runs_disjoint (settings : Settings) (envs : ι → RunEnv)
    (initial : Register Payload)
    (acts : List (Act ι StateOp)) (unfailing : ∀ i, Unfailing settings (envs i))
    (clocks : ∀ i j, ∀ row ∈ (envs i).journal,
      isPlausible (toWatermark row.recordTimestamp) (envs j).now)
    (foreign : ∀ op, .foreign op ∈ acts → SparesLease op) (other : i ≠ j)
    (heard : ∀ k, k = i ∨ k = j → (race settings envs initial acts).phase k = .released none →
      (envs k).createJob.IsHeard)
    (third : ((race settings envs initial acts).phase i).Left ∧
      ((race settings envs initial acts).phase j).Left ∨
      ∀ k, (race settings envs initial acts).phase k ≠ .idle → k = i ∨ k = j) :
    List.Disjoint (jobRefs settings envs (race settings envs initial acts) i)
      (jobRefs settings envs (race settings envs initial acts) j) := by
  have raced := raced_race unfailing initial acts foreign
  intro ref mine theirs
  rcases raced.disciplined.ordered.ordered other (entered_of_jobRefs mine)
      (entered_of_jobRefs theirs) with
    later | later
  · exact disjoint_of_seen raced (fun i j => clocks i j) other.symm later (heard j (.inr rfl))
      (third.imp And.right fun only k entered => (only k entered).symm) theirs mine
  · exact disjoint_of_seen raced clocks other later (heard i (.inl rfl))
      (third.imp_left And.left) mine theirs

end Race

section Sample
open Settings

/-- The later run reads one row more; the job of the first is created unheard. -/
def overtakenRuns : Bool → RunEnv
  | false => .smooth 20 [photosRow "ant" "yes" 11] (fun _ => none) (.lost "job-1" .timeout)
  | true => .smooth 30 [photosRow "ant" "yes" 11, photosRow "bee" "yes" 12] (fun _ =>
      none) (.created "job-2")

/-- The first run acquires the lease, the second goes through, and the first goes on. -/
def overtaking : List (Act Bool StateOp) :=
  List.replicate 8 (.client false) ++ List.replicate 20 (.client true) ++
    List.replicate 20 (.client false)

/-- Both runs create a job, and the release of the first is refused. -/
theorem overlapping_runs_overtaken :
    jobRefs photos overtakenRuns (race photos overtakenRuns ⟨[]⟩ overtaking) false ≠ [] ∧
      jobRefs photos overtakenRuns (race photos overtakenRuns ⟨[]⟩ overtaking) true ≠ [] ∧
      List.Disjoint (jobRefs photos overtakenRuns (race photos overtakenRuns ⟨[]⟩ overtaking) false)
        (jobRefs photos overtakenRuns (race photos overtakenRuns ⟨[]⟩ overtaking) true) := by
  refine ⟨by decide +kernel, by decide +kernel,
    overlapping_runs_disjoint photos overtakenRuns ⟨[]⟩ overtaking ?_ (by decide) ?_
      (by decide) ?_ (.inr ?_)⟩
  · intro i rec outcome scored
    cases i <;> cases scored
  · intro op listed
    simp [overtaking] at listed
  · have kept : (race photos overtakenRuns ⟨[]⟩ overtaking).phase false ≠
      .released none := by decide +kernel
    intro k _ released
    cases k with
    | false => exact absurd released kept
    | true => trivial
  · intro k _
    cases k <;> simp

/-- One run after the other. -/
def inTurn : List (Act Bool StateOp) :=
  List.replicate 20 (.client false) ++ List.replicate 20 (.client true)

-- what was created unheard is created again once its lease is released
example : ∃ ref ∈ jobRefs photos overtakenRuns (race photos overtakenRuns ⟨[]⟩ inTurn) false,
    ref ∈ jobRefs photos overtakenRuns (race photos overtakenRuns ⟨[]⟩ inTurn)
      true := by decide +kernel

end Sample
end ReplicateOnTag.Orchestrator
