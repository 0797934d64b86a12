import ReplicateOnTag.Orchestrator.AlertMarks
import ReplicateOnTag.Orchestrator.History
import ReplicateOnTag.Orchestrator.ReportCheck

/-! Report checks beside runs of the bucket, in every order of their reads and
writes: a job whose mark was there when a check began is not escalated by it. -/
namespace ReplicateOnTag.Orchestrator
open StateStore HeldToken Contention AnnounceOnce
open ConditionalStore (Register)

/-- Runs and checks on one object. -/
structure Patrol (ι κ : Type) where
  contest : Contest ι StateOp AlertPhase Payload Unit
  checks : κ → Check
  log : List (Note κ SubmissionRecord String)

/-- The next read or put of a run, a delete of the publish phase that lands, or the
next look or write of a check. -/
inductive PatrolAct (ι κ : Type) where
  | run (i : ι)
  | published (itemKeys : List String)
  | check (k : κ) (reply : WriteReply)

section Patrol
variable {ι κ : Type} [DecidableEq ι] [DecidableEq κ] (settings : Settings) (envs : ι → RunEnv)
  (checks : κ → CheckEnv)

def setOut (initial : Register Payload) : Patrol ι κ :=
  { contest :=
      { register := initial
        stage := fun i => .opening (RunClient.runBucket settings (envs i))
        watch := fun _ => ⟨AlertPhase.phases.start, none, fun _ => AlertPhase.phases.start⟩ }
    checks := fun _ => .idle
    log := [] }

namespace Patrol

def content (patrol : Patrol ι κ) : Option Payload := patrol.contest.register.content

def act (patrol : Patrol ι κ) (turn : Act ι StateOp) : Contest ι StateOp AlertPhase Payload Unit :=
  patrol.contest.step (StateOp.program settings.bucketName) AlertPhase.phases turn

def step (patrol : Patrol ι κ) : PatrolAct ι κ → Patrol ι κ
  | .run i => { patrol with contest := patrol.act settings (.client i) }
  | .published itemKeys => { patrol with contest := patrol.act settings (.foreign
      (.deleteCompletionItems itemKeys)) }
  | .check k reply =>
      let move := checkMove settings.bucketName (checks k) k patrol.content reply (patrol.checks k)
      { contest :=
          match move.put with
          | none => patrol.contest
          | some op => patrol.act settings (.foreign op)
        checks := Function.update patrol.checks k move.check
        log := patrol.log ++ move.note.toList }

end Patrol

def patrol (initial : Register Payload) (acts : List (PatrolAct ι κ)) : Patrol ι κ :=
  acts.foldl (Patrol.step settings checks) (setOut settings envs initial)

end Patrol

/-- Batch Operations issues job ids that are not empty and never repeat. -/
structure FreshJobs (bucket : String) (envs : ι → RunEnv) (initial : Option Payload) : Prop where
  named : ∀ i jobId, (envs i).createJob = .created jobId → jobId ≠ ""
  apart : ∀ i j jobId, (envs i).createJob = .created jobId →
    (envs j).createJob = .created jobId → i = j
  unknown : ∀ i jobId, (envs i).createJob = .created jobId → recordFor bucket initial jobId = none

/-- The object as the checks read it. -/
def records (bucket : String) : Board (Option Payload) String where
  suppressed := alertedConfigs
  listed content jobId := (recordFor bucket content jobId).isSome
  settled content jobId := jobId ∈ processedJobIds bucket content

section Advancing
variable {bucket : String} {stored : Option Payload} {after : Payload} {op : StateOp}
  {issued later : String → Prop}

theorem proceeds_apply (applied : op.apply bucket stored = some after)
    (known : ∀ jobId, (recordFor bucket stored jobId).isSome → issued jobId)
    (issues : ∀ jobId, issued jobId → later jobId)
    (files : ∀ submission terminal tracking limit,
      op = .recordSubmission submission terminal tracking limit →
      submission.jobId ≠ "" ∧ ¬ issued submission.jobId ∧ later submission.jobId)
    (clears : ∀ jobId, op = .clearAlertedConfig jobId → jobId ∈ processedJobIds bucket stored) :
    Proceeds (records bucket) stored (some after) issued later := by
  have leaves (jobId : String) (out : issued jobId)
    (present : (recordFor bucket (some after) jobId).isSome) :
      (recordFor bucket stored jobId).isSome := by
    refine record_before applied (fun submission terminal tracking limit same => ?_) present
    obtain ⟨named, fresh, _⟩ := files submission terminal tracking limit same
    exact ⟨named, by rintro rfl; exact fresh out⟩
  refine ⟨issues, fun jobId present => ?_, leaves, fun jobId => processed_stays applied,
    fun jobId out hushed => ?_⟩
  · by_cases own : ∃ submission terminal tracking limit,
      op = .recordSubmission submission terminal tracking limit ∧ submission.jobId = jobId
    · obtain ⟨submission, terminal, tracking, limit, same, rfl⟩ := own
      exact (files submission terminal tracking limit same).2.2
    · refine issues jobId (known jobId (record_before applied ?_ present))
      intro submission terminal tracking limit same
      exact ⟨(files submission terminal tracking limit same).1,
        fun other => own ⟨submission, terminal, tracking, limit, same, other⟩⟩
  · rcases hushed with mark | processed | left
    · by_cases cleared : op = .clearAlertedConfig jobId
      · exact .inr (.inl (processed_stays applied (clears jobId cleared)))
      · rcases mark_stays applied mark cleared fun _ _ _ _ same =>
          (files _ _ _ _ same).1 with mark | gone
        · exact .inl mark
        · exact .inr (.inr (by simp [records, gone]))
    · exact .inr (.inl (processed_stays applied processed))
    · exact .inr (.inr fun present => left (leaves jobId out present))

end Advancing
section Patrolling
variable {ι κ : Type} {settings : Settings} {envs : ι → RunEnv}
  {checks : κ → CheckEnv} {patrol : Patrol ι κ}

/-- No run is still to file the record of a job of this id. -/
def JobIssued (envs : ι → RunEnv) (phase : ι → AlertPhase) (jobId : String) : Prop :=
  ∀ i, (envs i).createJob = .created jobId → (phase i).filed = true

/-- What the checks see of a patrol. -/
def Patrol.world (envs : ι → RunEnv)
    (patrol : Patrol ι κ) : World (Option Payload) SubmissionRecord String κ :=
  ⟨patrol.content, JobIssued envs patrol.contest.phase, patrol.checks, patrol.log⟩

structure Patrolled (settings : Settings) (envs : ι → RunEnv) (patrol : Patrol ι κ) : Prop where
  disciplined : Disciplined AlertPhase.phases (fun i (_ : Option Payload) =>
    MayPut (envs i)) patrol.contest
  merged : ∀ i, ∀ jobId ∈ (patrol.contest.phase i).merged,
    jobId ∈ processedJobIds settings.bucketName patrol.content
  known : ∀ jobId, (recordFor settings.bucketName patrol.content jobId).isSome →
    JobIssued envs patrol.contest.phase jobId

theorem filed_next {phase : AlertPhase} {op : StateOp} {fate : Fate} (filed : phase.filed = true) :
    (phase.next op fate).filed = true := by
  cases op <;> cases fate <;> first | exact filed | rfl

/-- A write of the publish phase or of a check. -/
theorem proceeds_foreign (patrolled : Patrolled settings envs patrol) {op : StateOp}
    (foreign : IsForeignOp op)
    (applied : op.apply settings.bucketName patrol.content = some after) :
    Proceeds (records settings.bucketName) patrol.content (some after)
      (JobIssued envs patrol.contest.phase)
      (JobIssued envs patrol.contest.phase) :=
  proceeds_apply applied patrolled.known (fun _ => id) (by rintro _ _ _ _ rfl; exact foreign.elim)
    (by rintro _ rfl; exact foreign.elim)

/-- A turn of a run that leaves the object as it is. -/
theorem Patrolled.stands (patrolled : Patrolled settings envs patrol) {later : Patrol ι κ}
    (register : later.contest.register = patrol.contest.register)
    (issues : ∀ jobId, JobIssued envs patrol.contest.phase jobId →
      JobIssued envs later.contest.phase jobId) :
    Proceeds (records settings.bucketName) patrol.content later.content
      (JobIssued envs patrol.contest.phase) (JobIssued envs later.contest.phase) := by
  rw [Patrol.content, Patrol.content, register]
  exact ⟨issues, fun jobId present => issues jobId (patrolled.known jobId present),
    fun _ _ => id, fun _ => id, fun _ _ => id⟩

/-- A turn of a run that moves none of the runs either. -/
theorem Patrolled.quiet (patrolled : Patrolled settings envs patrol) {later : Patrol ι κ}
    (disciplined : Disciplined AlertPhase.phases (fun i (_ : Option Payload) =>
      MayPut (envs i)) later.contest)
    (register : later.contest.register = patrol.contest.register)
    (phase : later.contest.phase = patrol.contest.phase) :
    Patrolled settings envs later ∧
      Proceeds (records settings.bucketName) patrol.content later.content
        (JobIssued envs patrol.contest.phase) (JobIssued envs later.contest.phase) := by
  have stands := patrolled.stands register (by rw [phase]; exact fun _ => id)
  refine ⟨⟨disciplined, ?_, stands.lists⟩, stands⟩
  rw [Patrol.content, register, phase]
  exact patrolled.merged

variable [DecidableEq ι]

theorem act_foreign {op : StateOp}
    (applied : op.apply settings.bucketName patrol.content = some after) :
    patrol.act settings (.foreign op) =
      { patrol.contest with register := ⟨after :: patrol.contest.register.writes⟩ } := by
  have atomically : (StateOp.program settings.bucketName op).atomically
    patrol.contest.register.content =
    some after := applied
  simp only [Patrol.act, Contest.step, atomically]

theorem Patrolled.foreign (patrolled : Patrolled settings envs patrol) {op : StateOp}
    (foreign : IsForeignOp op)
    (applied : op.apply settings.bucketName patrol.content = some after) {later : Patrol ι κ}
    (same : later.contest = patrol.act settings (.foreign op)) : Patrolled settings envs later := by
  have proceeds := proceeds_foreign patrolled foreign applied
  have shape := same.trans (act_foreign applied)
  have content : later.content = some after := by rw [Patrol.content, shape]; rfl
  have phase : later.contest.phase = patrol.contest.phase := by rw [shape]; rfl
  refine ⟨?_, ?_, ?_⟩
  · rw [same]
    exact patrolled.disciplined.foreign op
  · rw [content, phase]
    exact fun i jobId member => processed_stays applied (patrolled.merged i jobId member)
  · rw [content, phase]
    exact proceeds.lists

/-- What a put that lands does for the run that made it. -/
theorem merged_next {phase : AlertPhase} {op : StateOp} {fate : Fate} (landed : fate ≠ .refused)
    (applied : op.apply bucket stored = some after)
    (merged : ∀ jobId ∈ phase.merged, jobId ∈ processedJobIds bucket stored) :
    ∀ jobId ∈ (phase.next op fate).merged, jobId ∈ processedJobIds bucket (some after) := by
  have kept : ∀ jobId ∈ phase.merged, jobId ∈ processedJobIds bucket (some after) :=
    fun jobId member => processed_stays applied (merged jobId member)
  cases op with
  | mergeCompletionReport report configId jobId createdAt timestamps =>
    cases fate with
    | refused => exact absurd rfl landed
    | answered =>
      intro other member
      rcases List.mem_cons.mp member with rfl | before
      · exact merge_processes applied
      · exact kept other before
    | unanswered => exact kept
  | _ => cases fate <;> exact kept

/-- A job that was issued stays so when a run moves on after a put. -/
theorem issued_next {k : ι} {op : StateOp} {fate : Fate} {before after : ι → AlertPhase}
    (acting : after k = (before k).next op fate) (still : ∀ i, i ≠ k → after i = before i) :
    ∀ jobId, JobIssued envs before jobId → JobIssued envs after jobId := by
  intro jobId filed i created
  by_cases same : i = k
  · rw [same, acting]
    exact filed_next (same ▸ filed i created)
  · rw [still i same]
    exact filed i created

/-- A run that puts what it may, whatever becomes of the put. -/
theorem Patrolled.put (patrolled : Patrolled settings envs patrol)
    (fresh : FreshJobs settings.bucketName envs initial)
    {k : ι} {op : StateOp} {fate : Fate} (permitted : MayPut (envs k) (patrol.contest.phase k) op)
    (applied : op.apply settings.bucketName patrol.content = some after) {phase : ι → AlertPhase}
    (acting : phase k = (patrol.contest.phase k).next op fate)
    (still : ∀ i, i ≠ k → phase i = patrol.contest.phase i) :
    Proceeds (records settings.bucketName) patrol.content (some after)
      (JobIssued envs patrol.contest.phase)
      (JobIssued envs phase) := by
  refine proceeds_apply applied patrolled.known (issued_next acting still) ?_ ?_
  · rintro submission terminal tracking limit rfl
    obtain ⟨open_, created⟩ := permitted
    refine ⟨fresh.named k _ created, fun filed => ?_, fun i other => ?_⟩
    · rw [filed k created] at open_
      cases open_
    · rw [fresh.apart i k _ other created, acting]
      cases fate <;> rfl
  · rintro jobId rfl
    exact patrolled.merged k jobId permitted

theorem Patrolled.run (patrolled : Patrolled settings envs patrol)
    (fresh : FreshJobs settings.bucketName envs initial) {k : ι} {later : Patrol ι κ}
    (same : later.contest = patrol.act settings (.client k)) :
    Patrolled settings envs later ∧
      Proceeds (records settings.bucketName) patrol.content later.content
        (JobIssued envs patrol.contest.phase)
        (JobIssued envs later.contest.phase) := by
  have disciplined : Disciplined AlertPhase.phases (fun i (_ : Option Payload) =>
      MayPut (envs i)) later.contest :=
    same ▸ patrolled.disciplined.client k
  have others : ∀ i, i ≠ k → later.contest.watch i = patrol.contest.watch i := fun i other =>
    same ▸ (Contest.others_client _ AlertPhase.phases patrol.contest other).2
  have still : ∀ i, i ≠ k → later.contest.phase i = patrol.contest.phase i := fun i other =>
    congrArg Watch.phase (others i other)
  cases (same ▸ patrolled.disciplined.effect k :
    Effect (StateOp.program settings.bucketName) AlertPhase.phases
    (MayPut (envs k)) patrol.contest later.contest k) with
  | idle register watch =>
    exact patrolled.quiet disciplined register
      (funext (Contest.watch_alike Watch.phase others (congrArg Watch.phase watch :)))
  | hold register start watch =>
    exact patrolled.quiet disciplined register
      (funext (Contest.watch_alike Watch.phase others (congrArg Watch.phase watch :)))
  | @put op fate permitted watch current written =>
    have acting : later.contest.phase k = (patrol.contest.phase k).next op fate :=
      congrArg Watch.phase watch
    rcases written with ⟨rfl, register⟩ | ⟨landed, after, applied, register⟩
    · have stands := patrolled.stands register (issued_next acting still)
      refine ⟨⟨disciplined, ?_, stands.lists⟩, stands⟩
      rw [Patrol.content, register]
      intro i jobId member
      by_cases own : i = k
      · rw [own, acting] at member
        refine patrolled.merged k jobId ?_
        cases op <;> exact member
      · exact patrolled.merged i jobId (still i own ▸ member)
    · have content : later.content = some after := by rw [Patrol.content, register]; rfl
      have proceeds := patrolled.put fresh permitted applied acting still
      rw [content]
      refine ⟨⟨disciplined, ?_, ?_⟩, proceeds⟩
      · rw [content]
        intro i jobId member
        by_cases own : i = k
        · rw [own, acting] at member
          exact merged_next landed applied (patrolled.merged k) jobId member
        · exact processed_stays applied (patrolled.merged i jobId (still i own ▸ member))
      · rw [content]
        exact proceeds.lists

variable [DecidableEq κ]

theorem recorded_values (bucket : String) {content : Option Payload} :
    (∀ rec ∈ (getSubmissionRecords content).values, (recordFor bucket content rec.jobId).isSome) ∧
      ((getSubmissionRecords content).values.map SubmissionRecord.jobId).Nodup := by
  have owned : OwnKeyed (getSubmissionRecords content) := by
    rw [getSubmissionRecords_eq bucket]
    exact ownKeyed_byJobId _
  constructor
  · intro rec member
    obtain ⟨jobId, found⟩ := mem_getSubmissionRecords.mp member
    rw [(recordFor_jobId found).1, found]
    rfl
  · have keys : (getSubmissionRecords content).values.map SubmissionRecord.jobId =
        (getSubmissionRecords content).keys := by
      rw [Dict.values, Dict.keys, List.map_map]
      refine List.map_congr_left fun entry member => ?_
      exact (owned entry.1 entry.2 (Dict.mem_entries_iff.mp member)).1
    rw [keys]
    exact Dict.keys_nodup _

/-- What the sweeps see of one another, under this object and these clocks. -/
abbrev Sweeps (settings : Settings) (checks : κ → CheckEnv) :
    World (Option Payload) SubmissionRecord String κ →
      World (Option Payload) SubmissionRecord String κ → Prop :=
  AnnounceOnce.Reaches (records settings.bucketName) SubmissionRecord.jobId
    fun k rec => EscalationDue settings.bucketName (checks k) rec

/-- A look of a check that puts nothing. -/
theorem Patrolled.look (patrolled : Patrolled settings envs patrol) {k : κ}
    {reply : WriteReply} (check : Check)
    (note : Option (Note κ SubmissionRecord String))
    (moved : checkMove settings.bucketName (checks k) k patrol.content reply
      (patrol.checks k) = ⟨check, none, note⟩)
    (path : Sweeps settings checks (patrol.world envs)
      { patrol.world envs with
        announcers := Function.update patrol.checks k check
        log := patrol.log ++ note.toList }) :
    Patrolled settings envs (patrol.step settings checks (.check k reply)) ∧
      Sweeps settings checks (patrol.world envs)
        ((patrol.step settings checks (.check k reply)).world envs) := by
  have stepped : patrol.step settings checks (.check k reply) =
      ⟨patrol.contest, Function.update patrol.checks k check, patrol.log ++ note.toList⟩ := by
    simp only [Patrol.step, moved]
  rw [stepped]
  exact ⟨⟨patrolled.disciplined, patrolled.merged, patrolled.known⟩, path⟩

/-- A mark that lands. -/
theorem Patrolled.mark (patrolled : Patrolled settings envs patrol) {k : κ} {reply : WriteReply}
    {alerted : List String} {jobId : String} {todo : List SubmissionRecord} (more : List String)
    (marking : patrol.checks k = .marking alerted jobId todo)
    (moved : checkMove settings.bucketName (checks k) k patrol.content reply (patrol.checks k) =
      ⟨.looking more todo, some (.addAlertedConfig jobId), some (.marked k jobId)⟩)
    (kept : alerted ⊆ more) (only : more ⊆ jobId :: alerted) :
    Patrolled settings envs (patrol.step settings checks (.check k reply)) ∧
      Sweeps settings checks (patrol.world envs)
        ((patrol.step settings checks (.check k reply)).world envs) := by
  have foreign : IsForeignOp (.addAlertedConfig jobId) := trivial
  have applied : (StateOp.addAlertedConfig jobId).apply settings.bucketName patrol.content =
      some (addAlertedConfig settings.bucketName jobId patrol.content) := rfl
  have stepped : patrol.step settings checks (.check k reply) =
      ⟨patrol.act settings (.foreign (.addAlertedConfig jobId)),
        Function.update patrol.checks k (.looking more todo),
        patrol.log ++ [.marked k jobId]⟩ := by
    simp only [Patrol.step, moved, Option.toList_some]
  refine ⟨patrolled.foreign foreign applied (by rw [stepped]), ?_⟩
  rw [stepped, Patrol.world, Patrol.content, act_foreign applied]
  exact .single (.mark k marking (proceeds_foreign patrolled foreign applied)
    List.mem_insert_self kept only)

/-- A check comes to the next record of its list. -/
theorem Patrolled.visit (patrolled : Patrolled settings envs patrol) {k : κ} (reply : WriteReply)
    {alerted : List String} {rec : SubmissionRecord} {todo : List SubmissionRecord}
    (stage : patrol.checks k = .looking alerted (rec :: todo)) :
    Patrolled settings envs (patrol.step settings checks (.check k reply)) ∧
      Sweeps settings checks (patrol.world envs)
        ((patrol.step settings checks (.check k reply)).world envs) := by
  have skips (moved : checkMove settings.bucketName (checks k) k patrol.content
      reply (patrol.checks k) =
      ⟨.looking alerted todo, none, none⟩)
      (excused : rec.jobId ∈ alerted ∨
        rec.jobId ∈ processedJobIds settings.bucketName patrol.content ∨
        ¬ EscalationDue settings.bucketName (checks k) rec) := by
    refine patrolled.look (.looking alerted todo) none moved ?_
    rw [Option.toList_none, List.append_nil]
    exact .single (.skip k stage excused)
  by_cases passed : (rec.jobId = "" || rec.jobId ∈ alerted ||
      !(checks k).readsProcessed rec.jobId ||
      completionJobExists patrol.content rec.jobId) = true
  · refine skips (by simp only [stage, checkMove, if_pos passed]) ?_
    simp only [Bool.or_eq_true, decide_eq_true_eq, Bool.not_eq_true',
      completionJobExists_iff settings.bucketName] at passed
    rcases passed with ((unnamed | held) | unread) | processed
    · exact .inr (.inr fun owed => owed.1 unnamed)
    · exact .inl held
    · exact .inr (.inr fun owed => by rw [owed.2.1] at unread; cases unread)
    · exact .inr (.inl processed)
  · cases reason : alertReason settings.bucketName (checks k) rec with
    | none =>
      refine skips (by simp only [stage, checkMove, if_neg passed, reason])
        (.inr (.inr fun owed => ?_))
      rw [EscalationDue, reason] at owed
      cases owed.2.2.1
    | some why =>
      cases logged : (checks k).logs rec.jobId with
      | false =>
        refine skips ?_ (.inr (.inr fun owed => ?_))
        · simp only [stage, checkMove, if_neg passed, reason, logged, Bool.not_false, if_true]
        · rw [EscalationDue, logged] at owed
          cases owed.2.2.2
      | true =>
        have skipped := passed
        simp only [Bool.or_eq_true, decide_eq_true_eq, not_or,
          completionJobExists_iff settings.bucketName] at passed
        obtain ⟨⟨⟨_, fresh⟩, _⟩, unprocessed⟩ := passed
        have announced : AnnounceOnce.Step (records settings.bucketName) SubmissionRecord.jobId
            (fun k rec => EscalationDue settings.bucketName (checks k) rec) (patrol.world envs)
            { patrol.world envs with
              announcers := Function.update patrol.checks k (.marking alerted rec.jobId todo)
              log := patrol.log ++ [.announced k rec.jobId] } :=
                .announce k stage fresh unprocessed
        cases published : (checks k).publishes rec.jobId with
        | true =>
          refine patrolled.look (.marking alerted rec.jobId todo)
            (some (.announced k rec.jobId)) ?_
            (.single announced)
          simp only [stage, checkMove, if_neg skipped, reason, logged, published, Bool.not_true,
            Bool.false_eq_true, if_false]
        | false =>
          refine patrolled.look (.looking alerted todo) (some (.announced k rec.jobId)) ?_
            (.tail (.single announced) ?_)
          · simp only [stage, checkMove, if_neg skipped, reason, logged, published,
              Bool.not_true, Bool.not_false, Bool.false_eq_true, if_false, if_true]
          · have twice : Function.update patrol.checks k (.looking alerted todo) =
                Function.update (Function.update patrol.checks k
                  (.marking alerted rec.jobId todo)) k
                  (.looking alerted todo) := (Function.update_idem ..).symm
            rw [twice]
            exact .unmarked k (Function.update_self ..)

theorem Patrolled.check (patrolled : Patrolled settings envs patrol) (k : κ) (reply : WriteReply) :
    Patrolled settings envs (patrol.step settings checks (.check k reply)) ∧
      Sweeps settings checks (patrol.world envs)
        ((patrol.step settings checks (.check k reply)).world envs) := by
  cases stage : patrol.checks k with
  | idle =>
    by_cases begins : (!(checks k).starts || !(checks k).readsAlerted) = true
    · refine patrolled.look .through none (by simp only [stage, checkMove, if_pos begins]) ?_
      rw [Option.toList_none, List.append_nil]
      exact .single (.quit k (.inl stage))
    · refine patrolled.look (.begun (alertedConfigs patrol.content))
        (some (.began k (alertedConfigs patrol.content)))
        (by simp only [stage, checkMove, if_neg begins]) ?_
      exact .single (.begin k stage)
  | begun alerted =>
    by_cases reads : (!(checks k).readsRecords) = true
    · refine patrolled.look .through none (by simp only [stage, checkMove, if_pos reads]) ?_
      rw [Option.toList_none, List.append_nil]
      exact .single (.quit k (.inr ⟨alerted, stage⟩))
    · refine patrolled.look (.looking alerted (getSubmissionRecords patrol.content).values)
        (some (.read k (getSubmissionRecords patrol.content).values))
        (by simp only [stage, checkMove, if_neg reads]) ?_
      obtain ⟨recorded, distinct⟩ := recorded_values settings.bucketName
      exact .single (.read k stage recorded distinct)
  | looking alerted todo =>
    cases todo with
    | nil =>
      refine patrolled.look .through none (by simp only [stage, checkMove]) ?_
      rw [Option.toList_none, List.append_nil]
      exact .single (.finish k stage)
    | cons rec todo => exact patrolled.visit reply stage
  | marking alerted jobId todo =>
    cases reply with
    | refused =>
      refine patrolled.look (.looking alerted todo) none
        (by simp only [stage, checkMove, markMove]) ?_
      rw [Option.toList_none, List.append_nil]
      exact .single (.unmarked k stage)
    | served =>
      refine patrolled.mark (alerted.insert jobId) stage
        (by simp only [stage, checkMove, markMove]) ?_ ?_
      · exact fun _ => List.mem_insert_of_mem
      · exact fun _ member => List.mem_cons.mpr (List.mem_insert_iff.mp member)
    | lost =>
      refine patrolled.mark alerted stage (by simp only [stage, checkMove, markMove])
        (List.Subset.refl _) ?_
      exact List.subset_cons_self _ _
  | through =>
    refine patrolled.look .through none (by simp only [stage, checkMove]) ?_
    rw [Option.toList_none, List.append_nil, ← stage, Function.update_eq_self]
    exact .refl

theorem Patrolled.step (patrolled : Patrolled settings envs patrol)
    (fresh : FreshJobs settings.bucketName envs initial) (act : PatrolAct ι κ) :
    Patrolled settings envs (patrol.step settings checks act) ∧
      Sweeps settings checks (patrol.world envs)
        ((patrol.step settings checks act).world envs) := by
  cases act with
  | run k =>
    have same : (patrol.step settings checks (.run k)).contest =
      patrol.act settings (.client k) := rfl
    obtain ⟨later, proceeds⟩ := patrolled.run fresh same
    exact ⟨later, .single (.advance proceeds)⟩
  | published itemKeys =>
    have foreign : IsForeignOp (.deleteCompletionItems itemKeys) := trivial
    have applied : (StateOp.deleteCompletionItems itemKeys).apply
        settings.bucketName patrol.content =
        some (deleteCompletionItems settings.bucketName itemKeys patrol.content) := rfl
    refine ⟨patrolled.foreign foreign applied rfl, ?_⟩
    rw [Patrol.step, act_foreign applied]
    exact .single (.advance (proceeds_foreign patrolled foreign applied))
  | check k reply => exact patrolled.check k reply

theorem patrolled_patrol (fresh : FreshJobs settings.bucketName envs initial.content)
    (acts : List (PatrolAct ι κ)) :
    Sweeps settings checks ((setOut settings envs initial : Patrol ι κ).world envs)
      ((Orchestrator.patrol settings envs checks initial acts).world envs) := by
  have start : Patrolled settings envs (setOut settings envs initial : Patrol ι κ) := by
    refine ⟨⟨fun i => ⟨?_, nofun, nofun⟩, ⟨nofun, fun _ _ => ⟨nofun, nofun⟩, nofun, nofun⟩⟩, nofun,
      ?_⟩
    · intro opening same
      cases same
      exact ⟨rfl, runBucket_obeysMarks settings (envs i)⟩
    · intro jobId present i created
      have unknown := fresh.unknown i jobId created
      rw [Patrol.content] at present
      exact absurd (present.symm.trans (congrArg Option.isSome unknown)) nofun
  rw [Orchestrator.patrol]
  generalize (setOut settings envs initial : Patrol ι κ) = first at start
  induction acts generalizing first with
  | nil => exact .refl
  | cons act acts ih =>
    obtain ⟨later, path⟩ : Patrolled settings envs (first.step settings checks act) ∧
      _ := start.step fresh act
    exact path.trans (ih _ later)

end Patrolling

section Escalation
variable {ι κ : Type} [DecidableEq ι] [DecidableEq κ]

/-- However runs, checks and publish phases interleave, a check escalates no job
whose mark was in the object when it began or had been put there by a check, and
none twice; and when it is through, every job it was to escalate has been, or was
suppressed, or is processed. -/
theorem escalated_once (settings : Settings) (envs : ι → RunEnv) (checks : κ → CheckEnv)
    (initial : Register Payload)
    (fresh : FreshJobs settings.bucketName envs initial.content)
    (acts : List (PatrolAct ι κ)) (k : κ) :
    (∀ alerted, .began k alerted ∈ (patrol settings envs checks initial acts).log →
      ∀ jobId ∈ alerted, .announced k jobId ∉ (patrol settings envs checks initial acts).log) ∧
    (∀ earlier alerted later,
      (patrol settings envs checks initial acts).log = earlier ++ .began k alerted :: later →
      ∀ other jobId, .marked other jobId ∈ earlier →
        .announced k jobId ∉ (patrol settings envs checks initial acts).log) ∧
    (announcedBy k (patrol settings envs checks initial acts).log).Nodup ∧
    ((patrol settings envs checks initial acts).checks k = .through →
      ∀ todo, .read k todo ∈ (patrol settings envs checks initial acts).log →
        ∀ rec ∈ todo, EscalationDue settings.bucketName (checks k) rec →
          Excused (records settings.bucketName)
            ((patrol settings envs checks initial acts).world envs) k rec.jobId) := by
  have start : Fresh (records settings.bucketName)
      ((setOut settings envs initial : Patrol ι κ).world envs) := by
    refine ⟨fun _ => rfl, rfl, fun jobId present i created => ?_⟩
    exact absurd (present.symm.trans (congrArg Option.isSome (fresh.unknown i jobId created))) nofun
  have path : Sweeps settings checks _ ((patrol settings envs checks initial acts).world envs) :=
    patrolled_patrol fresh acts
  obtain ⟨heeds, once, distinct⟩ := announced_once start path k
  exact ⟨heeds, once, distinct, fun through todo read rec member owed =>
    swept_through start path through read member owed⟩

end Escalation

section Sample
open Settings

def unreportedRecord (jobId : String) : SubmissionRecord :=
  ⟨"photos", "photos", jobId, "manifests/run.csv", 10, .submitted, Watermark.epoch,
    Watermark.toWatermark 15, 0, true,
    true⟩

/-- Jobs that ended at the instant 20 and have no report two hours later. -/
def lateCheck : CheckEnv where
  now := 20 + 2 * reportOverdueThreshold
  starts := true
  readsAlerted := true
  readsRecords := true
  readsProcessed _ := true
  describeJob _ := some ⟨"Complete", some 1, some 0, some 10, some 20⟩
  reportManifestWrittenAt _ _ := some none
  logs _ := true
  publishes _ := true

/-- Two jobs without a report, one of them with a mark. -/
def unreported : Register Payload :=
  ⟨[{ Payload.ofCheckpoint (defaultState "photos") with
      submissionRecords := Dict.ofList [("job-1", .readable (unreportedRecord "job-1")),
        ("job-9", .readable (unreportedRecord "job-9"))]
      completionReportAlertedConfigs := ["job-9"] }]⟩

/-- A run takes its token, and the first check sweeps before the second begins. -/
def checksInTurn : List (PatrolAct Unit Bool) :=
  [.run (), .check false .served, .run (), .check false .served,
    .check false .served, .check false .lost,
    .check false .served, .check false .served, .check true .served,
      .check true .served, .check true .served]

def checkedInTurn : Patrol Unit Bool :=
  patrol photos (fun _ => RunEnv.smooth 30 [] (fun _ => none) (.created "job-2"))
    (fun _ => lateCheck) unreported
    checksInTurn

theorem escalated_once_missing :
    .announced false "job-9" ∉ checkedInTurn.log ∧ .announced true "job-1" ∉ checkedInTurn.log ∧
      (announcedBy false checkedInTurn.log).Nodup ∧
      Excused (records "photos")
        (checkedInTurn.world fun _ =>
          RunEnv.smooth 30 [] (fun _ => none) (.created "job-2")) false "job-1" := by
  have fresh : FreshJobs "photos" (fun _ : Unit =>
      RunEnv.smooth 30 [] (fun _ => none) (.created "job-2"))
      unreported.content := by
    refine ⟨?_, fun _ _ _ _ _ => rfl, ?_⟩ <;> rintro _ _ ⟨⟩ <;> decide
  have log : checkedInTurn.log =
      [.began false ["job-9"], .read false [unreportedRecord "job-1", unreportedRecord "job-9"],
        .announced false "job-1", .marked false "job-1"] ++
        .began true ["job-1", "job-9"] ::
          [.read true [unreportedRecord "job-1", unreportedRecord "job-9"]] := rfl
  obtain ⟨heeds, _, distinct, answered⟩ :=
    escalated_once photos _ (fun _ : Bool => lateCheck) unreported fresh checksInTurn false
  obtain ⟨_, once, _, _⟩ :=
    escalated_once photos _ (fun _ : Bool => lateCheck) unreported fresh checksInTurn true
  have began : .began false ["job-9"] ∈ checkedInTurn.log := log ▸ List.mem_cons_self
  have read : .read false [unreportedRecord "job-1",
      unreportedRecord "job-9"] ∈ checkedInTurn.log :=
    log ▸ List.mem_cons_of_mem _ List.mem_cons_self
  refine ⟨heeds _ began "job-9" List.mem_cons_self, once _ _ _ log false "job-1" ?_, distinct, ?_⟩
  · exact List.mem_append_right [_, _, _] List.mem_cons_self
  · exact answered rfl _ read (unreportedRecord "job-1") List.mem_cons_self (by decide)

end Sample
end ReplicateOnTag.Orchestrator
