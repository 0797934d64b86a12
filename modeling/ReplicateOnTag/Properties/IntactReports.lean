import ReplicateOnTag.Orchestrator.ReportAccess

/-! Only a complete and intact report changes what is tracked: it is read exactly when
it is intact, and a job without one leaves the items and the processed ids alone. -/
namespace ReplicateOnTag.Orchestrator
open StateStore ReportReader

variable {source : Source} {settings : Settings} {env : RunEnv} {found stored : Option Payload}

theorem OnlyReported.retryable (only : OnlyReported source settings env found stored)
    (unprocessed : completionJobExists found jobId = false)
    (unreported : ¬ Reported source settings env found jobId) :
    completionJobExists stored jobId = false := by
  rw [Bool.eq_false_iff, ne_eq, completionJobExists_iff settings.bucketName] at unprocessed ⊢
  intro processed
  rcases only.processed jobId processed with before | reported
  · exact unprocessed before
  · exact unreported reported

theorem OnlyReported.untouched (only : OnlyReported source settings env found stored)
    (unreported : ∀ jobId, ¬ Reported source settings env found jobId) :
    itemsOf settings.bucketName stored = itemsOf settings.bucketName found ∧
      processedJobIds settings.bucketName stored = processedJobIds settings.bucketName found := by
  rcases only.tracked with same | ⟨jobId, _, _, reported⟩
  · exact same
  · exact absurd reported (unreported jobId)

/-- A report is read exactly when it is intact, under either order of the two
columns. Where a job has none, its consumers write nothing, and no run processes it
or tracks its objects. -/
theorem only_intact_reports_tracked (repr : String → String) (source : Source) :
    (∀ reportPrefix jobId expectedRowCount report,
      readBopsCompletionReport source reportPrefix jobId expectedRowCount = .ok report ↔
        IntactReport source reportPrefix jobId expectedRowCount report) ∧
    (∀ row : Row, Xor (LooksLikeStatus row.first) (LooksLikeStatus row.second) →
      parseRow row.columns = parseRow row.swapped.columns) ∧
    (∀ settings env rec job stored, (∀ report, ¬ HasReport source settings rec job report) →
      settleFrom settings env (readReport repr source settings.bucketName rec job) rec
        job stored = stored) ∧
    ∀ settings env found, let after :=
      (runBucket settings (env.reading repr source settings found) found).stored
      (∀ jobId, completionJobExists found jobId = false →
        ¬ Reported source settings env found jobId →
        completionJobExists after jobId = false) ∧
      ((∀ jobId, ¬ Reported source settings env found jobId) →
        itemsOf settings.bucketName after = itemsOf settings.bucketName found ∧
          processedJobIds settings.bucketName after =
            processedJobIds settings.bucketName found) := by
  refine ⟨fun _ _ _ _ => read_ok, fun _ => parseRow_swapped, ?_, ?_⟩
  · intro settings env rec job stored unreported
    cases outcome : readReport repr source settings.bucketName rec job with
    | error error => exact settleFrom_error error
    | ok report => exact absurd (readReport_ok.mp outcome) (unreported report)
  · intro settings env found after
    have only : OnlyReported source settings env found after := runBucket_onlyReported env found
    exact ⟨fun _ => only.retryable, only.untouched⟩

end ReplicateOnTag.Orchestrator
