import ReplicateOnTag.Orchestrator.Timeline
import ReplicateOnTag.Properties.StaleLease

/-! The watermark passes an operation that arrived in time only in a run that
submitted a job and had found a record of its identity eligible. -/
namespace ReplicateOnTag.Orchestrator
open StateStore Watermark CheckpointLogic JournalDedup

/-- A run that found a record of this identity eligible and submitted a job. -/
def Attends (settings : Settings) (ran : Ran) (id : String) : Prop :=
  (ran.report settings).submission.isSome ∧
    ∃ op, EligibleIn settings ran.env ran.found op ∧ op.logicalOperationId = id

/-- The run lets no lease linger, and does not pass the operation unseen. -/
structure InTime (settings : Settings) (op : TaggingOperation) (env : RunEnv)
    (stored : Option Payload) :
    Prop where
  named : ∀ jobId, env.createJob = .created jobId → jobId ≠ ""
  acquire : env.writes .acquire ≠ .lost
  release : env.writes .release ≠ .refused
  seen : InJournal settings env.journal op ∨
    watermarkOf settings.bucketName (runBucket settings env stored).stored < op.watermark

def StaysInTime (settings : Settings) (op : TaggingOperation) (_ : List Moment) (event : Event)
    (stored : Option Payload) : Prop :=
  ∀ env, event = .run env → InTime settings op env stored

section Lease
variable {settings : Settings} {env : RunEnv} {stored : Option Payload}

abbrev Unleased (bucket : String) (stored : Option Payload) : Prop :=
  (payloadOrDefault bucket stored).lease = none

theorem unleased_evolves (path : Evolves bucket allowed stored after)
    (foreign : ∀ op, allowed op → PayloadKey.lease ∉ op.ownedKeys) (free : Unleased bucket stored) :
    Unleased bucket after :=
  (Eq.symm (path.frame foreign)).trans free

theorem unleased_write (site : WriteSite) {op : StateOp} (foreign : PayloadKey.lease ∉ op.ownedKeys)
    (free : Unleased settings.bucketName stored) :
    Unleased settings.bucketName (write settings env site op stored).stored :=
  have same : (payloadOrDefault settings.bucketName stored).lease = _ :=
    write_frame settings env site op stored foreign
  same.symm.trans free

theorem unleased_report (path : Evolves bucket IsReportOp stored after)
    (free : Unleased bucket stored) :
    Unleased bucket after :=
  unleased_evolves path (fun op report => by cases op
    <;> first | exact report.elim | simp [StateOp.ownedKeys]) free

theorem unleased_scoring (path : Evolves bucket (IsScoringOp jobIds) stored after)
    (free : Unleased bucket stored) : Unleased bucket after :=
  unleased_evolves path (fun op scoring => by cases op
    <;> first | exact scoring.elim | simp [StateOp.ownedKeys]) free

theorem unleased_body (path : Evolves bucket IsBodyOp stored after)
    (free : Unleased bucket stored) :
    Unleased bucket after :=
  (Eq.symm (body_lease path)).trans free

theorem unleased_concluded (check : JobCheck) (body : LeaseBody) (released : Write)
    (free : Unleased settings.bucketName released.stored) :
    Unleased settings.bucketName (concludeRun settings env check body released).stored := by
  have persisted : ∀ record, Unleased settings.bucketName
      (persistSubmission settings env record check.terminalJobIds released.stored) := by
    intro record
    cases record with
    | none => exact free
    | some submission =>
      exact unleased_write .persist (by simp [StateOp.ownedKeys]) free
  have kept : ∀ record, Unleased settings.bucketName
      (if released.ok then persistSubmission settings env record
        check.terminalJobIds released.stored
        else released.stored) := by
    intro record
    split
    · exact persisted record
    · exact free
  rw [concludeRun]
  split
  · exact free
  · rename_i outcome _
    dsimp only
    split
    · exact unleased_scoring (commitRecoveryScored_evolves settings env _ _) (kept _)
    · exact kept _

/-- A release that is not refused leaves no lease. -/
theorem unleased_release (readable : Readable env.now settings.bucketName stored)
    (release : env.writes .release ≠ .refused) (refs : Option (List ProcessedRef))
    (candidate : Option Watermark) :
    Unleased settings.bucketName
      (write settings env .release
        (.releaseLease env.now refs settings.lookback candidate) stored).stored := by
  obtain ⟨state, read⟩ := Option.isSome_iff_exists.mp (getCheckpoint_isSome_iff.mpr readable)
  have applied : (StateOp.releaseLease env.now refs settings.lookback candidate).apply
      settings.bucketName stored =
      some (putCheckpoint (advanceCheckpoint state refs settings.lookback candidate) stored) := by
    simp only [StateOp.apply, StateOp.program, ConditionalStore.Update.atomically, StateOp.compute,
      StateStore.releaseLease, read]
    rfl
  rw [write_landed applied release]
  exact advanceCheckpoint_lease state refs settings.lookback candidate

/-- A run that acquires its lease with an answer and releases it leaves none. -/
theorem unleased_run (acquire : env.writes .acquire ≠ .lost)
    (release : env.writes .release ≠ .refused)
    (free : Unleased settings.bucketName stored) :
    Unleased settings.bucketName (runBucket settings env stored).stored := by
  have shape := runBucket_shape settings env stored
  generalize runBucket settings env stored = report at shape ⊢
  cases shape with
  | skipped => exact free
  | breached prepares tripped =>
    obtain ⟨reason, _, _, stores⟩ := prepares.breached tripped
    rw [stores]
    refine unleased_scoring (commitRecoveryScored_evolves settings env _ _) ?_
    exact unleased_write .disable (by simp [StateOp.ownedKeys])
      (unleased_report (settledObject_evolves settings env stored) free)
  | unread prepares ready evolves =>
    refine unleased_evolves evolves ?_ (unleased_report (prepares.evolves ready) free)
    intro op alert
    cases op <;> first | exact alert.elim | simp [StateOp.ownedKeys]
  | @selected prep checkpoint window prepares ready reads =>
    have prepared := unleased_report (prepares.evolves ready) free
    have body := fun object => leasedManifestAndSubmit_evolves settings env
      (selectEligible settings window.ops checkpoint) window prep.plan.consecutiveFailures
      checkpoint.lastProcessedWatermark object
    dsimp only [runSelected]
    cases (selectEligible settings window.ops checkpoint).candidateHwm with
    | none => exact unleased_concluded _ _ _ (unleased_body (body _) prepared)
    | some candidateHwm =>
      dsimp only
      split
      · rename_i unanswered
        cases reply : env.writes .acquire with
        | lost => exact absurd reply acquire
        | refused =>
          rw [write_refused reply]
          exact prepared
        | served =>
          rcases write_cases settings env .acquire
            (.acquireLease env.now (newLease env candidateHwm))
            prep.stored with ⟨same, _⟩ | ⟨after, applied, _⟩
          · rw [same]
            exact prepared
          · rw [write_served applied reply] at unanswered
            cases unanswered
      · rename_i answered
        obtain ⟨after, applied, _, same⟩ := write_ok (by simpa using answered)
        obtain ⟨state, read, _⟩ := StateOp.apply_acquireLease applied
        have quiet : IsQuietOp (.acquireLease env.now (newLease env candidateHwm)) := trivial
        have readable := readable_evolves (body (some after))
          (fun _ => isQuietOp_unsubmitted ∘ isUnsubmittedOp_of_body)
          (readable_quiet quiet applied (readable_of_getCheckpoint read))
        rw [same]
        exact unleased_concluded _ _ _ (unleased_release readable release _ _)

end Lease

section Reading
variable {settings : Settings} {env : RunEnv} {stored : Option Payload}
  {checkpoint : CheckpointState}
  {window : JournalWindow}

/-- No record starts above the stored watermark. -/
def LowsReached (bucket : String) (stored : Option Payload) : Prop :=
  ∀ jobId record, recordFor bucket stored jobId = some record →
    record.watermarkLow ≤ watermarkOf bucket stored

/-- Every entry of the stored window was submitted by a run. -/
def Sourced (settings : Settings) (past : List Moment) (stored : Option Payload) : Prop :=
  ∀ ref ∈ (payloadOrDefault settings.bucketName stored).processedWindow,
    ∃ ran ∈ runs past, ∃ submission, (ran.report settings).submission = some submission ∧
      ref ∈ submission.refs

/-- The checkpoint a run works on reaches no further than the stored one. -/
structure WorksOn (settings : Settings) (stored : Option Payload)
    (checkpoint : CheckpointState) : Prop where
  watermark : checkpoint.lastProcessedWatermark ≤ watermarkOf settings.bucketName stored
  window : ∀ ref ∈ checkpoint.processedWindow,
    ref ∈ (payloadOrDefault settings.bucketName stored).processedWindow
  lease : checkpoint.lease = none

theorem lease_of_unleased (free : Unleased bucket stored)
    (found : getCheckpoint now bucket stored = some state) : state.lease = none := by
  cases stored with
  | none =>
    cases found
    rfl
  | some payload =>
    rw [(deserialize_eq_some (getCheckpoint_some found).1).2.2.2.2,
      show payload.lease = none from free]
    rfl

theorem worksOn (lows : LowsReached settings.bucketName stored)
    (free : Unleased settings.bucketName stored)
    (prepares : Prepares settings env stored prep) (ready : prep.checkpoint = some checkpoint) :
    WorksOn settings stored checkpoint := by
  obtain ⟨_, watermark, window⟩ := getCheckpoint_fields prepares.found
  have lease := lease_of_unleased free prepares.found
  cases (prepares.ready checkpoint ready).1 with
  | unchanged => exact ⟨watermark.le, fun ref member => window ▸ member, lease⟩
  | @rolledBack target failed planned =>
    -- the target is the low of a record that a failed job has in the object
    rw [prepares.plan] at planned
    obtain ⟨_, outcome, scored, _, rfl⟩ :=
      JobRecovery.mem_usableLows.mp (JobRecovery.minWatermark_mem planned)
    rw [← prepares.check] at scored
    obtain ⟨record, job, found, _, _, rfl⟩ := record_of_outcome prepares scored
    exact ⟨lows _ record found, fun ref member => window ▸ (List.mem_filter.mp member).1, lease⟩

/-- A run whose window reaches an operation above its watermark finds a record
of its identity eligible, unless the checkpoint has recorded that identity. -/
theorem eligible_of_journal (valid : isValid op) (journal : InJournal settings env.journal op)
    (read : (runBucket settings env stored).window = some window)
    (worked : (runBucket settings env stored).checkpoint = some checkpoint)
    (free : checkpoint.lease = none)
    (newer : checkpoint.lastProcessedWatermark < op.watermark)
    (reached : ∀ bound, window.upTo = some bound → op.watermark ≤ bound) :
    (∃ kept, EligibleIn settings env stored kept ∧
      kept.logicalOperationId = op.logicalOperationId) ∨
      op.logicalOperationId ∈ processedIds checkpoint := by
  obtain ⟨_, _, _, reads, _⟩ := window_shape read worked
  have listed : op ∈ window.ops := by
    rw [reads.ops]
    exact AthenaJournal.mem_readJournal_iff_range.mpr ⟨journal, reads.since.trans_lt newer, reached⟩
  obtain ⟨kept, deduped, same, _⟩ := dedupe_represents (List.mem_filter.mpr ⟨listed, valid⟩)
  by_cases recorded : op.logicalOperationId ∈ processedIds checkpoint
  · exact .inr recorded
  · refine .inl ⟨kept, ⟨window, checkpoint, read, worked, mem_eligible_iff.mpr ⟨deduped, ?_⟩⟩, same⟩
    have inWindow := (List.mem_filter.mp (mem_dedupe_sound deduped)).1
    rw [reads.ops] at inWindow
    have above := (AthenaJournal.mem_readJournal_iff_range.mp inWindow).2.1
    refine (isEligible_iff _ _ _).mpr ⟨by rw [free]; rfl, .inr (.inr ⟨?_, same ▸ recorded⟩)⟩
    exact reads.start.trans_lt above

theorem checkpoint_of_window (read : (runBucket settings env stored).window = some window) :
    ∃ checkpoint, (runBucket settings env stored).checkpoint = some checkpoint := by
  have shape := runBucket_shape settings env stored
  generalize runBucket settings env stored = report at shape read
  cases shape with
  | skipped | breached | unread => cases read
  | selected prepares ready reads => exact ⟨_, ready⟩

/-- A run that moves the watermark past an instant has read up to it. -/
theorem window_reaches (waiting : watermarkOf settings.bucketName stored < instant)
    (passed : instant ≤ watermarkOf settings.bucketName (runBucket settings env stored).stored) :
    ∃ window, (runBucket settings env stored).window = some window ∧
      (runBucket settings env stored).submission.isSome ∧
      ∀ bound, window.upTo = some bound → instant ≤ bound := by
  cases submitted : (runBucket settings env stored).submission with
  | none =>
    have keeps := keepsWindow_evolves (runBucket_unsubmitted submitted) fun _ => isQuietOp_run
    exact absurd (passed.trans keeps.watermark.le) (not_le.mpr waiting)
  | some submission =>
    obtain ⟨prep, checkpoint, window, prepares, ready, reads, shape, ⟨submits⟩⟩ :=
      submission_shape submitted
    refine ⟨window, by rw [shape], rfl, fun bound capped => ?_⟩
    have settled := keepsWindow_evolves (prepares.evolves ready) fun _ => isQuietOp_report
    have below : instant ≤ submits.candidateHwm := by
      rw [shape] at passed
      rcases submits.persisted with keeps | advances
      · exact absurd (passed.trans (settled.trans keeps).watermark.le) (not_le.mpr waiting)
      · refine not_lt.mp fun above => absurd passed (not_le.mpr ?_)
        simp only [watermarkOf]
        rw [(advances.before settled).watermark]
        refine (advancedWatermark_le_iff _ _ _ _).mpr
          ⟨le_max_left _ submits.candidateHwm, ?_, ?_⟩ |>.trans_lt
          (max_lt waiting above)
        · exact fun ref member => ((submits.ref_of_selected member).1).trans (le_max_right _ _)
        · rintro value ⟨⟩
          exact le_max_right _ _
    obtain ⟨last, eligible, top⟩ :=
      maxWatermark_attained (selectEligible_candidate ▸ submits.candidate)
    have listed := (eligible_mem_ops eligible).1
    rw [reads.ops] at listed
    exact below.trans (top ▸ (AthenaJournal.mem_readJournal_iff_range.mp listed).2.2 bound capped)

theorem lowsReached_run (named : ∀ jobId, env.createJob = .created jobId → jobId ≠ "")
    (lows : LowsReached settings.bucketName stored) (free : Unleased settings.bucketName stored) :
    LowsReached settings.bucketName (runBucket settings env stored).stored := by
  intro jobId record found
  have grown := watermark_le_runBucket settings env stored
  obtain ⟨_, _, _, origin⟩ := runBucket_record named found
  rcases origin with ⟨submission, submitted, _, rfl⟩ | ⟨old, before, rfl⟩
  · obtain ⟨prep, checkpoint, window, prepares, ready, _, _, ⟨submits⟩⟩ :=
      submission_shape submitted
    have low : submission.record.watermarkLow = checkpoint.lastProcessedWatermark := by
      rw [submits.record]
      rfl
    exact (low ▸ (worksOn lows free prepares ready).watermark).trans grown
  · exact (lows jobId old before).trans grown

theorem sourced_run (sourced : Sourced settings past stored) :
    Sourced settings (past ++ [⟨.run env, stored⟩]) (runBucket settings env stored).stored := by
  intro ref member
  rw [runs_run]
  have earlier : ∀ {ref}, ref ∈ (payloadOrDefault settings.bucketName stored).processedWindow →
      ∃ ran ∈ runs past ++ [⟨env, stored⟩], ∃ submission,
        (ran.report settings).submission = some submission ∧
        ref ∈ submission.refs := by
    intro ref recorded
    obtain ⟨ran, listed, source⟩ := sourced ref recorded
    exact ⟨ran, List.mem_append_left _ listed, source⟩
  rcases runBucket_persisted settings env stored with keeps | ⟨submission,
    candidate, submitted, advances⟩
  · exact earlier (keeps.window ▸ member)
  · rw [advances.window] at member
    rcases List.mem_append.mp ((pruneWindow_prunes _ _).sound ref member).1 with old | new
    · exact earlier old
    · exact ⟨⟨env, stored⟩, by simp, submission, submitted, new⟩

/-- What a run submitted it had found eligible. -/
theorem attends_of_ref (submitted : (ran.report settings).submission = some submission)
    (member : ref ∈ submission.refs) : Attends settings ran ref.logicalOperationId := by
  refine ⟨by rw [submitted]; rfl, ?_⟩
  obtain ⟨prep, checkpoint, window, _, ready, _, shape, ⟨submits⟩⟩ := submission_shape submitted
  obtain ⟨_, op, listed, rfl⟩ := submits.ref_of_selected member
  exact ⟨op, ⟨window, checkpoint, by rw [shape], by rw [shape]; exact ready,
    (mem_dedupedOps.mp listed).1⟩, rfl⟩

end Reading

section History
variable {settings : Settings} {op : TaggingOperation} {env : RunEnv} {past : List Moment}
  {stored : Option Payload}

/-- What holds all along for one operation. -/
structure Waits (settings : Settings) (op : TaggingOperation) (past : List Moment)
    (stored : Option Payload) :
    Prop where
  unleased : Unleased settings.bucketName stored
  lows : LowsReached settings.bucketName stored
  sourced : Sourced settings past stored
  attended : op.watermark ≤ watermarkOf settings.bucketName stored →
    ∃ ran ∈ runs past, Attends settings ran op.logicalOperationId

/-- The next run that reads far enough attends to the operation, if none has before. -/
theorem Waits.eligible (waits : Waits settings op past stored) (valid : isValid op)
    (journal : InJournal settings env.journal op)
    (waiting : watermarkOf settings.bucketName stored < op.watermark)
    (read : (runBucket settings env stored).window = some window)
    (reached : ∀ bound, window.upTo = some bound → op.watermark ≤ bound) :
    (∃ kept, EligibleIn settings env stored kept ∧
      kept.logicalOperationId = op.logicalOperationId) ∨
      ∃ ran ∈ runs past, Attends settings ran op.logicalOperationId := by
  obtain ⟨checkpoint, worked⟩ := checkpoint_of_window read
  obtain ⟨prep, prepared, ready⟩ := Option.bind_eq_some_iff.mp worked
  have works := worksOn waits.lows waits.unleased (prepares_of_preparation prepared) ready
  rcases eligible_of_journal valid journal read worked works.lease
      (works.watermark.trans_lt waiting) reached with
    found | recorded
  · exact .inl found
  · obtain ⟨ref, listed, same⟩ := List.mem_map.mp recorded
    obtain ⟨ran, earlier, submission, submitted, member⟩ :=
      waits.sourced ref (works.window ref listed)
    exact .inr ⟨ran, earlier, same ▸ attends_of_ref submitted member⟩

theorem waits_run (waits : Waits settings op past stored) (valid : isValid op)
    (timely : InTime settings op env stored) :
    Waits settings op (past ++ [⟨.run env, stored⟩]) (runBucket settings env stored).stored := by
  refine ⟨unleased_run timely.acquire timely.release waits.unleased,
    lowsReached_run timely.named waits.lows waits.unleased,
      sourced_run waits.sourced, fun passed => ?_⟩
  rw [runs_run]
  have earlier : (∃ ran ∈ runs past, Attends settings ran op.logicalOperationId) →
      ∃ ran ∈ runs past ++ [⟨env, stored⟩], Attends settings ran op.logicalOperationId := by
    rintro ⟨ran, listed, attends⟩
    exact ⟨ran, List.mem_append_left _ listed, attends⟩
  by_cases before : op.watermark ≤ watermarkOf settings.bucketName stored
  · exact earlier (waits.attended before)
  · have waiting := not_le.mp before
    obtain ⟨window, read, submitted, reached⟩ := window_reaches waiting passed
    rcases waits.eligible valid (timely.seen.resolve_right (not_lt.mpr passed))
        waiting read reached with
      found | attended
    · exact ⟨⟨env, stored⟩, by simp, submitted, found⟩
    · exact earlier attended

/-- Other events leave the checkpoint and the records alone. -/
theorem waits_frame (waits : Waits settings op past stored) (unmoved : runs later = runs past)
    (same : ∀ key, key ∈ [PayloadKey.lease, .lastProcessedWatermark,
      .processedWindow, .submissionRecords] →
      (payloadOrDefault settings.bucketName stored).Agrees
        (payloadOrDefault settings.bucketName after) key) :
    Waits settings op later after := by
  have lease : (payloadOrDefault settings.bucketName stored).lease = _ := same .lease (by simp)
  have watermark : watermarkOf settings.bucketName stored = watermarkOf settings.bucketName after :=
    same .lastProcessedWatermark (by simp)
  have window : (payloadOrDefault settings.bucketName stored).processedWindow = _ :=
    same .processedWindow (by simp)
  refine ⟨lease.symm.trans waits.unleased, fun jobId record found => ?_, ?_, ?_⟩
  · rw [← watermark]
    exact waits.lows jobId record (recordFor_of_agrees (same .submissionRecords (by simp)) ▸ found)
  · rw [Sourced, unmoved, ← window]
    exact waits.sourced
  · rw [unmoved, ← watermark]
    exact waits.attended

theorem waits_deployed (deployed : Deployed settings stored)
    (ahead : watermarkOf settings.bucketName stored < op.watermark) :
    Waits settings op [] stored := by
  refine ⟨?_, fun jobId record found => ?_, fun ref member => ?_, fun passed =>
    absurd passed (not_le.mpr ahead)⟩
  · rcases deployed with rfl | ⟨now, rfl⟩ <;> rfl
  · rcases deployed with rfl | ⟨now, rfl⟩ <;> cases found
  · rcases deployed with rfl | ⟨now, rfl⟩ <;> cases member

theorem timeline_waits (valid : isValid op)
    (path : Timeline settings
      (fun stored => Deployed settings stored ∧
        watermarkOf settings.bucketName stored < op.watermark)
      (StaysInTime settings op) past stored) : Waits settings op past stored := by
  induction path with
  | start begins => exact waits_deployed begins.1 begins.2
  | @next past stored event path permitted ih =>
    cases event with
    | run env => exact waits_run ih valid (permitted env rfl)
    | publish env =>
      refine waits_frame ih (runs_publish _ _ _) fun key listed =>
        publish_frame env key fun keys => ?_
      simp only [List.mem_cons, List.not_mem_nil, or_false] at listed
      rcases listed with rfl | rfl | rfl | rfl <;> simp [StateOp.ownedKeys]
    | alerted jobId =>
      refine waits_frame ih (runs_alerted _ _ _) fun key listed => alerted_frame jobId key ?_
      simp only [List.mem_cons, List.not_mem_nil, or_false] at listed
      rcases listed with rfl | rfl | rfl | rfl <;> simp [StateOp.ownedKeys]

/-- In any history of runs, publish phases and alerts, the watermark passes an
operation only in a run that submitted a job and found its identity eligible;
until then the next run that reads far enough finds it. -/
theorem no_operation_skipped (settings : Settings) (op : TaggingOperation) (valid : isValid op)
    (path : Timeline settings
      (fun stored => Deployed settings stored ∧
        watermarkOf settings.bucketName stored < op.watermark)
      (StaysInTime settings op) past stored) :
    (op.watermark ≤ watermarkOf settings.bucketName stored →
      ∃ ran ∈ runs past, Attends settings ran op.logicalOperationId) ∧
    ∀ env window, InJournal settings env.journal op →
      watermarkOf settings.bucketName stored < op.watermark →
      (runBucket settings env stored).window = some window →
      (∀ bound, window.upTo = some bound → op.watermark ≤ bound) →
      (∃ kept, EligibleIn settings env stored kept ∧
        kept.logicalOperationId = op.logicalOperationId) ∨
        ∃ ran ∈ runs past, Attends settings ran op.logicalOperationId := by
  have waits := timeline_waits valid path
  exact ⟨waits.attended, fun env window journal waiting read reached =>
    waits.eligible valid journal waiting read reached⟩

end History

section Sample
open Settings

/-- A run before the operation on `ant` is in the journal. -/
def earlyRun : RunEnv := .smooth 15 [photosRow "bee" "yes" 11] (fun _ => none) (.created "job-1")

def timelyRun : RunEnv :=
  .smooth 40 [photosRow "bee" "yes" 11, photosRow "ant" "yes" 18] (fun _ =>
    some (.plain "Complete")) (.created "job-2")

def antEvents : List Event :=
  [.run earlyRun, .publish (.smooth 20), .alerted "job-1", .run timelyRun]

/-- The first run leaves the operation to the second, which passes it. -/
theorem no_operation_skipped_ant :
    let start := some (seedCheckpoint "photos" 10)
    watermarkOf "photos" (happen photos (antEvents.take 3) [] start).2 <
      (photosOp "ant" "yes" 18).watermark ∧
      ∃ ran ∈ runs (happen photos antEvents [] start).1,
        Attends photos ran (photosOp "ant" "yes" 18).logicalOperationId := by
  intro start
  have begins : Timeline photos (fun stored => Deployed photos stored ∧
      watermarkOf "photos" stored < (photosOp "ant" "yes" 18).watermark)
      (StaysInTime photos (photosOp "ant" "yes" 18)) [] start :=
        .start ⟨.inr ⟨10, rfl⟩, by decide +kernel⟩
  have permitted : Allows photos (StaysInTime photos (photosOp "ant" "yes" 18))
      antEvents [] start := by
    refine ⟨?_, nofun, nofun, ?_, trivial⟩
    · rintro env ⟨⟩
      exact ⟨by simp [earlyRun, RunEnv.smooth], by decide, by decide, .inr (by decide +kernel)⟩
    · rintro env ⟨⟩
      exact ⟨by simp [timelyRun, RunEnv.smooth], by decide, by decide, .inl (by decide +kernel)⟩
  have path := timeline_happen photos antEvents begins permitted
  exact ⟨by decide +kernel,
    (no_operation_skipped photos (photosOp "ant" "yes" 18) (by decide) path).1 (by decide +kernel)⟩

end Sample
end ReplicateOnTag.Orchestrator
