import Signatory.Proofs.ConsensusOutcomes
import Signatory.Proofs.FirstFailure
import Signatory.Proofs.Flagged

/-!
What the signers of a scheduled operation sign. The check at consensus looks for that operation anew
when its signers have been told. Main statement: where any were told it finds the operation that
they were told for, with bytes to sign, so that it never ends for want of them; and a transaction
that creates a schedule and has bytes itself is never refused for an operation without.
-/
namespace Signatory
open Wire

namespace RequiredKey

theorem filter_flagged (keys : List Key) (asked : Key) (required : List RequiredKey) :
    (keys.map direct ++ .scheduled asked :: required.map deferred).filter (·.forScheduled) =
      .scheduled asked :: required.map deferred := by
  rw [List.filter_append, List.filter_eq_nil_iff.mpr (by simp [direct]), List.nil_append,
    List.filter_eq_self]
  simp [scheduled, deferred]

end RequiredKey

/-- The operation is the one that the flagged keys are required for, and there is a message for
their signatures. -/
structure Resolver.Signs (resolver : Resolver) (body : TransactionBody)
    (required : List RequiredKey) (scheduled : Operation) (message : Bytes) : Prop where
  found : resolver.scheduledOperation? body = .ok (some scheduled)
  schedulable : scheduled.isSchedulable = true
  encoded : scheduled.encode = .ok message
  flagged : ∃ payer adminKey schedule,
    body.Defers resolver.ledger scheduled payer adminKey schedule ∧
    ∀ inner : TransactionBody, inner.operation = scheduled →
      ∃ info parties, resolver.ledger.account payer = .ok info ∧
        resolver.otherKeys inner = .ok parties ∧
        required.filter (·.forScheduled) = .scheduled info.key :: parties.map RequiredKey.deferred

namespace Resolver

variable {resolver : Resolver} {body : TransactionBody} {required : List RequiredKey}
  {scheduled : Operation} {payer : AccountId} {adminKey : Option Key}
  {schedule : Option ScheduleId}

theorem scheduledOperation?_of_defers
    (defers : body.Defers resolver.ledger scheduled payer adminKey schedule) :
    resolver.scheduledOperation? body = .ok (some scheduled) := by
  cases defers with
  | creates creates => simp only [scheduledOperation?, creates]
  | signs signs found =>
    simp only [scheduledOperation?, signs, found]
    rfl

theorem collects_of_flagged (resolved : resolver.otherKeys body = .ok required)
    (flagged : ∃ asked ∈ required, asked.forScheduled = true) :
    body.operation.collectsSignatures = true ∧ resolver.includeScheduled = true := by
  obtain ⟨direct, scheduled, rfl, only⟩ := exists_direct_append_scheduled resolved
  apply only
  rintro rfl
  simp [RequiredKey.direct] at flagged

theorem exists_signs (resolved : resolver.otherKeys body = .ok required)
    (flagged : ∃ asked ∈ required, asked.forScheduled = true) :
    ∃ scheduled message, resolver.Signs body required scheduled message := by
  obtain ⟨collects, included⟩ := collects_of_flagged resolved flagged
  obtain ⟨scheduled, payer, adminKey, schedule, signers, defers, scheduling, rfl⟩ :=
    exists_signers collects resolved
  obtain ⟨excluded, _⟩ | ⟨_, ⟨message, encoded⟩, _⟩ := scheduledKeys_eq_ok scheduling
  · cases included.symm.trans excluded
  have schedulable : scheduled.isSchedulable = true := by
    by_contra unschedulable
    rw [scheduledKeys_of_unschedulable (by simpa using unschedulable)] at scheduling
    cases scheduling
  refine ⟨scheduled, message, scheduledOperation?_of_defers defers, schedulable, encoded, payer,
    adminKey, schedule, defers, fun inner carries => ?_⟩
  rw [scheduledKeys_eq_direct included schedulable encoded carries] at scheduling
  obtain ⟨info, found, scheduling⟩ := bind_eq_ok_iff.mp scheduling
  obtain ⟨parties, direct, scheduling⟩ := bind_eq_ok_iff.mp scheduling
  cases scheduling
  exact ⟨info, parties, mapError_eq_ok_iff.mp found, direct, RequiredKey.filter_flagged _ _ _⟩

end Resolver

section Lengths

variable {body : TransactionBody} {scheduled : Operation} {adminKey : Option Key}
  {payer : Option AccountId} {memo : String}

theorem Operation.length_wire_le_createSchedule (scheduled : Operation) (adminKey : Option Key)
    (payer : Option AccountId) (memo : String) :
    scheduled.wire.length ≤ (createSchedule scheduled adminKey payer memo).wire.length := by
  simp only [wire, List.length_append]
  omega

theorem TransactionBody.length_operation_wire_le (body : TransactionBody) :
    body.operation.wire.length ≤ body.wire.length := by
  simp only [wire, List.length_append]
  omega

theorem TransactionBody.scheduled_encodes
    (creates : body.operation = .createSchedule scheduled adminKey payer memo) {bytes : Bytes}
    (encoded : body.encode = .ok bytes) : scheduled.encode = .ok scheduled.wire := by
  have whole := (mapError_bounded_eq_ok encoded).2
  have within := body.length_operation_wire_le
  rw [creates] at within
  have inner := Operation.length_wire_le_createSchedule scheduled adminKey payer memo
  rw [Operation.encode, mapError_bounded, if_pos (by omega)]

end Lengths

theorem Entity.refusal_reason_ne (entity : Entity) (failure : LookupFailure) :
    (entity.refusal failure).reason ≠ .generalError := by
  obtain ⟨kind, id⟩ := entity
  cases kind <;> cases failure <;> simp [refusal]

theorem ResolutionStep.unencodable_of_generalError {ledger : Ledger} {step : ResolutionStep}
    {e : OrderError} (reported : step.report? ledger = some e) (general : e.reason = .generalError) :
    ∃ scheduled schedule, step = .encodable scheduled schedule ∧ scheduled.encode.isOk = false := by
  cases step with
  | lookup entity =>
    simp only [report?] at reported
    split at reported
    · cases reported
    · cases reported
      exact absurd general (entity.refusal_reason_ne _)
  | encodable scheduled schedule =>
    refine ⟨scheduled, schedule, rfl, ?_⟩
    by_contra encodes
    simp only [Bool.not_eq_false] at encodes
    rw [report?, if_pos encodes] at reported
    cases reported
  | schedulable | administered =>
    simp only [report?] at reported
    split at reported
    · cases reported
    · cases reported
      cases general

theorem Party.not_mem_steps (parties : List Party) (scheduled : Operation)
    (schedule : Option ScheduleId) :
    ResolutionStep.encodable scheduled schedule ∉ parties.flatMap steps := by
  simp [steps]

namespace Resolver

variable {resolver : Resolver} {body : TransactionBody} {scheduled : Operation}
  {adminKey : Option Key} {payer : Option AccountId} {memo : String}

theorem reason_ne_generalError
    (creates : body.operation = .createSchedule scheduled adminKey payer memo) {bytes : Bytes}
    (encoded : body.encode = .ok bytes) {e : OrderError}
    (failed : resolver.otherKeys body = .error e) : e.reason ≠ .generalError := by
  intro general
  -- Such a report comes from the step that asks for bytes, and what is scheduled has some.
  obtain ⟨step, member, reported⟩ := List.exists_of_findSome?_eq_some
    ((failsAtFirst_otherKeys resolver body e).mp failed)
  obtain ⟨unencodable, schedule, rfl, fails⟩ :=
    ResolutionStep.unencodable_of_generalError reported general
  have written := body.scheduled_encodes creates encoded
  simp only [steps, creates, Operation.deferredSteps, List.mem_cons, reduceCtorEq, false_or]
    at member
  split at member
  · rcases List.mem_cons.mp member with same | looked
    · cases same
      rw [written] at fails
      cases fails
    · exact Party.not_mem_steps _ _ _ looked
  · cases member

end Resolver

section Errors

variable {ε δ α β : Type}

theorem bind_ne_error {first : Except ε α} {next : α → Except ε β} {e : ε}
    (one : first ≠ .error e) (rest : ∀ value, next value ≠ .error e) :
    (first >>= next) ≠ .error e := by
  cases first with
  | error other =>
    rintro ⟨⟩
    exact one rfl
  | ok value => exact rest value

theorem mapError_ne_error {outcome : Except ε α} {rename : ε → δ} {e : δ}
    (other : ∀ fault, outcome = .error fault → rename fault ≠ e) :
    outcome.mapError rename ≠ .error e := by
  cases outcome with
  | error fault => simpa [Except.mapError] using other fault rfl
  | ok value => nofun

end Errors

theorem RecordCreation.complete_ne_scheduledOperation (source : SignatureSource) (message : Bytes)
    (keys : List Key) (reason : String) :
    (ofKeys source message keys).complete ≠ .error (.scheduledOperation reason) := by
  intro failed
  obtain ⟨leaf, _, failed⟩ := exists_recordFor_error failed
  have ends := recordFor_ends source message leaf
  rw [failed] at ends
  cases ends

theorem ConsensusCheck.verdict_ne_scheduledOperation (check : ConsensusCheck)
    (transaction : AcceptedTransaction) (reason : String) :
    check.verdict transaction ≠ .error (.records (.scheduledOperation reason)) := by
  have recorded {batch : Except RecordError (List SignatureRecord)}
      (made : batch ≠ .error (.scheduledOperation reason)) :
      batch.mapError ConsensusError.records ≠ .error (.records (.scheduledOperation reason)) :=
    mapError_ne_error fun fault failed same => made (by cases same; exact failed)
  have verified {outcome : Except VerifierError (List SignatureRecord)} :
      outcome.mapError ConsensusError.verifier ≠ .error (.records (.scheduledOperation reason)) :=
    mapError_ne_error fun _ _ => nofun
  obtain ⟨message, _, made⟩ := exists_scheduledRecords_eq check transaction.body
  have scheduled := RecordCreation.complete_ne_scheduledOperation
  unfold verdict
  -- Of the three batches only the last is made over an operation that has to be found anew.
  refine bind_ne_error (recorded (scheduled _ _ _ _)) fun _ => ?_
  refine bind_ne_error (recorded (scheduled _ _ _ _)) fun _ => ?_
  refine bind_ne_error (recorded ?_) fun _ => ?_
  · change check.scheduledRecords _ _ (RequiredKey.scheduledKeys _) ≠ _
    rw [made]
    exact scheduled _ _ _ _
  exact bind_ne_error verified fun _ => bind_ne_error verified fun _ =>
    bind_ne_error verified fun _ => nofun

/-- Whoever asks for the flagged keys can have them held against a message, which is the one their
signers were told to sign. -/
theorem Resolver.flagged_keys_have_message (resolver : Resolver) (body : TransactionBody) :
    (∀ required, resolver.otherKeys body = .ok required →
      (∃ asked ∈ required, asked.forScheduled = true) →
      ∃ scheduled message, resolver.Signs body required scheduled message) ∧
    (∀ (collected : CollectedSignatures) (verifier : Verifier) (transaction : AcceptedTransaction)
      (reason : String), ConsensusCheck.verdict ⟨resolver, collected, verifier⟩ transaction ≠
        .error (.records (.scheduledOperation reason))) ∧
    ∀ scheduled adminKey payer memo bytes,
      body.operation = .createSchedule scheduled adminKey payer memo → body.encode = .ok bytes →
      ∀ e, resolver.otherKeys body = .error e → e.reason ≠ .generalError := by
  refine ⟨fun _ => exists_signs, ?_, ?_⟩
  · intro collected verifier transaction reason
    exact ConsensusCheck.verdict_ne_scheduledOperation _ transaction reason
  · intro scheduled adminKey payer memo bytes creates encoded e failed
    exact reason_ne_generalError creates encoded failed

namespace Sample

def updateForNobody : TransactionBody :=
  carrying (.createSchedule (.plain fileUpdate) none (some ⟨0, 0, 999⟩) "")

theorem updateForNobody_fails :
    registry.otherKeys updateForNobody = .error ⟨.missingAccount, some ⟨.account, ⟨0, 0, 999⟩⟩⟩ := by
  cbv

end Sample

theorem Resolver.kept_update_has_message :
    (∃ scheduled message, Sample.registry.Signs (Sample.carrying (.signSchedule ⟨0, 0, 700⟩))
      [.scheduled (Sample.keyOf 2), .scheduled (Sample.keyOf 20)] scheduled message) ∧
    Sample.registry.otherKeys Sample.updateForNobody =
      .error ⟨.missingAccount, some ⟨.account, ⟨0, 0, 999⟩⟩⟩ ∧
    OrderFailure.missingAccount ≠ .generalError := by
  refine ⟨?_, Sample.updateForNobody_fails, ?_⟩
  · have resolved : Sample.registry.otherKeys (Sample.carrying (.signSchedule ⟨0, 0, 700⟩)) =
        .ok [.scheduled (Sample.keyOf 2), .scheduled (Sample.keyOf 20)] := by cbv
    exact (flagged_keys_have_message _ _).1 _ resolved ⟨_, List.mem_cons_self .., rfl⟩
  · have encoded : Sample.updateForNobody.encode = .ok Sample.updateForNobody.wire := rfl
    exact (flagged_keys_have_message _ _).2.2 _ _ _ _ _ rfl encoded _ Sample.updateForNobody_fails

end Signatory
