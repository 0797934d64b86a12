import ReplicateOnTag.Orchestrator.AlertBlind
import ReplicateOnTag.Orchestrator.History
import ReplicateOnTag.Orchestrator.RunAlone

/-! The report checker beside a run: its writes leave the run alone before the
checkpoint is read and after the last write of the checkpoint and the records,
and cost the run every later write in between. -/
namespace ReplicateOnTag.Orchestrator
open StateStore HeldToken ConditionalStore Watermark

/-- The keys a run is for: the checkpoint and the records of its jobs. -/
def runKeys : List PayloadKey :=
  [.lastProcessedWatermark, .processedWindow, .lease, .submissionRecords]

abbrev OwnsRunKey (op : StateOp) : Prop := ∃ key ∈ runKeys, key ∈ op.ownedKeys

/-- The next read or put of the run, or a write of the checker that lands. The
checker puts on the token of its own read, so what it replaces is what it read. -/
inductive Move where
  | run
  | checker (configId : String)
  deriving DecidableEq

def Move.turn : Move → Turn StateOp
  | .run => .client
  | .checker configId => .foreign (.addAlertedConfig configId)

section Interleaved
variable (settings : Settings) (env : RunEnv) (initial : Register Payload)

def startRun : Exchange StateOp Payload Unit :=
  ⟨initial, .opening (RunClient.runBucket settings env)⟩

/-- A run and the checker on one object, in the order of the moves. -/
def interleavedRun (moves : List Move) : Exchange StateOp Payload Unit :=
  (startRun settings env initial).interleave
    (StateOp.program settings.bucketName) (moves.map Move.turn)

/-- The run is through. -/
abbrev Through (moves : List Move) : Prop :=
  (interleavedRun settings env initial moves).result?.isSome

def finalPayload (moves : List Move) : Payload :=
  payloadOrDefault settings.bucketName (interleavedRun settings env initial moves).register.content

/-- The run ends with the checkpoint and records it has without the checker. -/
def Undisturbed (moves : List Move) : Prop :=
  ∀ n, Through settings env initial (List.replicate n .run) → ∀ key ∈ runKeys,
    (finalPayload settings env initial (List.replicate n .run)).Agrees
      (finalPayload settings env initial moves) key

/-- The checker writes before the checkpoint is read, with no answer to a
cleared alert lost, or once the rest of the run, left alone, lands no write of
the checkpoint or the records. -/
def CalmMoves (moves : List Move) : Prop :=
  (startRun settings env initial).CalmTurns (StateOp.program settings.bucketName) OwnsRunKey
    (∀ jobId, env.writes (.clearAlerted jobId) ≠ .lost) (moves.map Move.turn)

end Interleaved

section Calm
variable {settings : Settings} {env : RunEnv} {initial : Register Payload} {moves : List Move}

/-- Both objects agree on the keys of a run. -/
def KeepsRunKeys (bucket : String) (first second : Option Payload) : Prop :=
  ∀ key ∈ runKeys, (payloadOrDefault bucket first).Agrees (payloadOrDefault bucket second) key

theorem agrees_symm {first second : Payload} (agree : first.Agrees second key) :
    second.Agrees first key := by
  cases key <;> exact Eq.symm agree

theorem separates_run (bucket : String) :
    Separates (StateOp.program bucket) (SameButAlerts bucket) (KeepsRunKeys bucket)
      IsAlertOp OwnsRunKey where
  same_refl _ := rfl
  same_symm := Eq.symm
  same_trans := Eq.trans
  kept_of_same same key member :=
    agrees_of_same same (by rintro rfl; simp [runKeys] at member)
  kept_symm agree key member := agrees_symm (agree key member)
  kept_trans left right key member := agrees_trans (left key member) (right key member)
  respects := apply_same
  hides := alert_same
  keeps foreign applied key member := StateOp.frame applied fun owned =>
    foreign ⟨key, member, owned⟩

theorem isAlertOp_of_move (member : .foreign op ∈ moves.map Move.turn) : IsAlertOp op := by
  obtain ⟨move, _, same⟩ := List.mem_map.mp member
  cases move with
  | run => cases same
  | checker configId =>
    cases same
    trivial

theorem interleavedRun_append (settings : Settings) (env : RunEnv) (initial : Register Payload)
    (moves later : List Move) :
    interleavedRun settings env initial (moves ++ later) =
      (interleavedRun settings env initial moves).interleave (StateOp.program settings.bucketName)
        (later.map Move.turn) := by
  simp only [interleavedRun, Exchange.interleave, List.map_append, List.foldl_append]

/-- Every interleaving is finished by further moves of the run. -/
theorem interleavedRun_finishes (settings : Settings) (env : RunEnv) (initial : Register Payload)
    (moves : List Move) : ∃ n, Through settings env initial (moves ++ List.replicate n .run) := by
  obtain ⟨n, through⟩ := @finishes _ _ _ (StateOp.program settings.bucketName)
    (interleavedRun settings env initial moves)
  refine ⟨n, ?_⟩
  rw [Through, interleavedRun_append, List.map_replicate]
  exact through

theorem alone_of_solitary (through : Through settings env initial (List.replicate n .run)) :
    ((RunClient.runBucket settings env).alone (StateOp.program settings.bucketName)
      initial.content).stored =
      (interleavedRun settings env initial (List.replicate n .run)).register.content := by
  refine solitary_interleaving initial _ _ ?_ through
  intro op member
  rw [List.map_replicate] at member
  cases List.eq_of_mem_replicate member

/-- A run that is left alone, and loses no answer, is the run of one call. -/
theorem solitary_run (unlost : ∀ site, env.writes site ≠ .lost)
    (through : Through settings env initial (List.replicate n .run)) :
    (interleavedRun settings env initial (List.replicate n .run)).register.content =
      (runBucket settings env initial.content).stored := by
  rw [← alone_of_solitary through]
  exact RunClient.runBucket_alone unlost initial.content

/-- A checker's write past the checkpoint read is the end of the run's own: from
then on the checkpoint and the records stay as they are. -/
theorem overtaken_run (held : (interleavedRun settings env initial moves).stage =
    .holding token reads client)
    (configId : String) (later : List Move) : ∀ key ∈ runKeys,
    (finalPayload settings env initial moves).Agrees
      (finalPayload settings env initial (moves ++ .checker configId :: later)) key := by
  have issued : Issued (interleavedRun settings env initial moves) := issued_interleave _ trivial
  rw [finalPayload, finalPayload, interleavedRun_append]
  generalize interleavedRun settings env initial moves = met at held issued ⊢
  obtain ⟨register, stage⟩ := met
  subst held
  have behind : token < Register.token
      ⟨addAlertedConfig settings.bucketName configId register.content :: register.writes⟩ := by
    simp only [Issued, Register.token, List.length_cons] at issued ⊢
    omega
  exact overtaken_interleaving (separates_run settings.bucketName) (later.map Move.turn)
    (fun op => isAlertOp_of_move) behind reads client
    ((separates_run settings.bucketName).kept_of_same
      (@alert_same settings.bucketName register.content _ (.addAlertedConfig configId) trivial rfl))

/-- Checker writes at calm points leave the run undisturbed, and no order of
moves keeps the run from ending. -/
theorem checker_leaves_run_undisturbed (settings : Settings) (env : RunEnv)
    (initial : Register Payload)
    (moves : List Move) (calm : CalmMoves settings env initial moves) :
    (∃ n, Through settings env initial (moves ++ List.replicate n .run)) ∧
      (Through settings env initial moves → Undisturbed settings env initial moves) := by
  refine ⟨interleavedRun_finishes settings env initial moves, ?_⟩
  intro through n alone key member
  have kept := calm_interleaving (separates_run settings.bucketName) initial _ runBucket_blind
    (moves.map Move.turn) (fun op => isAlertOp_of_move) calm through
  rw [alone_of_solitary alone] at kept
  exact kept key member

end Calm

section Sample
open Settings

def trackedPhotos : Settings := { photos with completionTracking := true }

/-- A job that an earlier run submitted and scored. -/
def overdueRecord : SubmissionRecord :=
  { replicationConfigId := "photos"
    sourceBucket := "photos"
    jobId := "job-1"
    manifestKey := "manifests/run.csv"
    submittedAt := 10
    status := .submitted
    watermarkLow := toWatermark 5
    watermarkHigh := toWatermark 10
    consecutiveFailures := 0
    reportDiagnosed := false
    recoveryScored := true }

def beforeRun : Register Payload :=
  ⟨[recordSubmission overdueRecord [] true none (some (seedCheckpoint "photos" 10))]⟩

/-- Two hours later the report of the first job is still missing, and a tagged
object waits to be submitted. -/
def overdueRun : RunEnv :=
  .smooth 7200000000 [photosRow "bee" "yes" 100]
    (fun _ => some ⟨"Complete", some 1, some 0, some 12, some 15⟩) (.created "job-2")

/-- The checker suppresses its alert before the run reads the checkpoint, and
again when the run is through. -/
def calmMoves : List Move :=
  .run :: .checker "job-1" :: (List.replicate 20 .run ++ [.checker "job-1"])

/-- The checker's write lands between the run's acquire and its release. -/
def interferingMoves : List Move :=
  List.replicate 7 .run ++ .checker "job-1" :: List.replicate 18 .run

theorem calmMoves_calm : CalmMoves trackedPhotos overdueRun beforeRun calmMoves := by
  have answered : (∀ jobId, overdueRun.writes (.clearAlerted jobId) ≠ .lost) = True :=
    eq_true fun _ => nofun
  rw [CalmMoves, answered]
  decide +kernel

theorem checker_leaves_run_undisturbed_twice :
    Undisturbed trackedPhotos overdueRun beforeRun calmMoves :=
  (checker_leaves_run_undisturbed trackedPhotos overdueRun beforeRun calmMoves calmMoves_calm).2
    (by decide +kernel)

/-- The release and the record of the second job are refused: the lease stays. -/
theorem checker_disturbs_run :
    ¬ ∀ settings env initial moves, Through settings env initial moves →
      Undisturbed settings env initial moves := by
  intro undisturbed
  have same := undisturbed trackedPhotos overdueRun beforeRun interferingMoves
    (by decide +kernel) 18
    (by decide +kernel) .lease (by simp [runKeys])
  have released : (finalPayload trackedPhotos overdueRun beforeRun (List.replicate 18 .run)).lease =
      none := by
    decide +kernel
  have stranded : (finalPayload trackedPhotos overdueRun beforeRun interferingMoves).lease ≠
      none := by
    decide +kernel
  exact stranded (same.symm.trans released)

end Sample
end ReplicateOnTag.Orchestrator
