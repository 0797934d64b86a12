import ReplicateOnTag.Adapters.SharedPayload
import ReplicateOnTag.Properties.PoisonedState

/-! The state codecs are inverse to one another through JSON text, alone and on
the payload they share. -/
namespace ReplicateOnTag.SharedPayload
open CivilTime
open IsoTime
open CheckpointSerializer
open CompletionSerializer
open Json

/-- Written under its key and sent through JSON text, the value reads as the result. -/
def ThroughJson (key : String) (value : Json) (reader : Members → Except DecodeError α)
    (result : α) : Prop :=
  ∃ payload, loads (dumps (.object [(key, value)])) = some (.object payload) ∧
    reader payload = .ok result

structure RoundTrips : Prop where
  checkpoint : ∀ now state, PlausibleState now state →
    deserialize fromisoformat now (serialize state) = .ok state
  submissionRecord : ∀ rec_,
    deserializeSubmissionRecord fromisoformat (serializeSubmissionRecord rec_) = .ok rec_
  completionItems : ∀ items, ThroughJson "completion_items" (serializeCompletionItems items)
    (deserializeCompletionItems fromisoformat) items
  /-- In whatever order the set is listed. -/
  processedJobIds : ∀ (ids : Finset String) (listed : List String), listed.toFinset = ids →
    ThroughJson "completion_processed_job_ids" (serializeProcessedJobIds listed)
      deserializeProcessedJobIds ids
  scanState : ∀ states, ThroughJson "completion_scan_state" (serializeScanState states)
    (deserializeScanState fromisoformat) states
  /-- On a payload read from any text, after any writes, the last write of its owner is read
  back. -/
  lastWrite : ∀ now text payload, loads text = some (.object payload) → ∀ writes write later,
    Plausible now write → (∀ other ∈ later, Write.owner other ≠ Write.owner write) →
      ∃ stored, loads (dumps (.object (applyAll (writes ++ write :: later) payload))) =
        some (.object stored) ∧
        Returns fromisoformat now stored write
  /-- A reader whose owner has not written returns what it did before. -/
  otherReaders : ∀ now text payload, loads text = some (.object payload) → ∀ writes owner,
    (∀ write ∈ writes, Write.owner write ≠ owner) →
      ∃ stored, loads (dumps (.object (applyAll writes payload))) = some (.object stored) ∧
        Agree fromisoformat now stored payload owner

theorem returns_alone {now : Civil} {write : Write} (credible : Plausible now write) :
    Returns fromisoformat now write.fields write :=
  returns_of_lookups fromisoformat_isoformat (exact_object_fields write) credible
    fun _ field => lookup_fields field

theorem loads_fields (write : Write) : loads (dumps (.object write.fields)) =
    some (.object write.fields) :=
  loads_dumps _ (exact_object_fields write)

theorem state_codecs_round_trip : RoundTrips where
  checkpoint now state credible := by
    have alone : Returns fromisoformat now _ (.checkpoint state) := returns_alone credible
    exact alone
  submissionRecord := deserializeSubmissionRecord_serialize fromisoformat_isoformat
  completionItems items := by
    have alone : Returns fromisoformat default _ (.completionItems items) := returns_alone trivial
    exact ⟨_, loads_fields (.completionItems items), alone⟩
  processedJobIds ids listed same := by
    have alone : Returns fromisoformat default _ (.processedJobIds listed) := returns_alone trivial
    rw [Returns, same] at alone
    exact ⟨_, loads_fields (.processedJobIds listed), alone⟩
  scanState states := by
    have alone : Returns fromisoformat default _ (.scanState states) := returns_alone trivial
    exact ⟨_, loads_fields (.scanState states), alone⟩
  lastWrite now text payload read writes write later credible others := by
    have whole := exact_of_loads read
    exact ⟨_, loads_dumps _ (exact_applyAll whole _),
      returns_applyAll fromisoformat_isoformat whole credible others⟩
  otherReaders now text payload read writes owner others := by
    have whole := exact_of_loads read
    exact ⟨_, loads_dumps _ (exact_applyAll whole _), agree_applyAll whole others⟩

theorem state_codecs_round_trip_november :
    deserialize fromisoformat StateText.midNovember
        (serialize ⟨"b", "2024-11-15T00:00:00.000000Z", some StateText.pastLease, [⟨"op", ""⟩]⟩) =
      .ok ⟨"b", "2024-11-15T00:00:00.000000Z", some StateText.pastLease, [⟨"op", ""⟩]⟩ := by
  apply state_codecs_round_trip.checkpoint
  constructor
  · decide +kernel
  · rintro held same
    cases same
    decide +kernel

end ReplicateOnTag.SharedPayload
