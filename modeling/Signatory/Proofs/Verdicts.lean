import Signatory.Consensus
import Signatory.Proofs.Authority

/-!
What the check of an ordered transaction says. Main statements: a role is active just if it is
resolved and its keys are satisfied by their own leaves, whatever is required for a scheduled
operation; and where the signatures can be read there is a verdict, unless a record that is asked
for is too long to be made.
-/
namespace Signatory

namespace RequiredKey

def directKeys (required : List RequiredKey) : List Key :=
  (required.filter (!·.forScheduled)).map key

def scheduledKeys (required : List RequiredKey) : List Key :=
  (required.filter (·.forScheduled)).map key

theorem directKeys_of_flagged {required : List RequiredKey}
    (flagged : ∀ key ∈ required, key.forScheduled = true) : directKeys required = [] := by
  simpa [directKeys, List.filter_eq_nil_iff] using flagged

theorem scheduledKeys_of_not_flagged {required : List RequiredKey}
    (direct : ∀ key ∈ required, key.forScheduled = false) : scheduledKeys required = [] := by
  simpa [scheduledKeys, List.filter_eq_nil_iff] using direct

end RequiredKey

theorem SigningOrder.keys_ok (required : List RequiredKey) :
    SigningOrder.keys (.ok required) = required := rfl

theorem SigningOrder.error?_eq_some_iff (order : SigningOrder) (e : OrderError) :
    order.error? = some e ↔ order = .error e := by
  cases order <;> simp [SigningOrder.error?]

theorem SigningOrder.exists_directKeys_iff (order : SigningOrder) (property : List Key → Prop) :
    (∃ required, order = .ok required ∧ property (RequiredKey.directKeys required)) ↔
      ∃ keys, order.toOption.map RequiredKey.directKeys = some keys ∧ property keys := by
  cases order <;> simp [Except.toOption]

namespace ConsensusCheck

variable {resolver : Resolver} {collected : CollectedSignatures}
  {transaction : AcceptedTransaction} {verdict : Verdict}

def payerBatch (check : ConsensusCheck) (transaction : AcceptedTransaction) :
    Except RecordError (List SignatureRecord) :=
  (RecordCreation.ofKeys (SignatureViews.of transaction check.collected).payer
    transaction.signedBytes
    ((check.resolver.payerKeys transaction.body).keys.map RequiredKey.key)).complete

def directBatch (check : ConsensusCheck) (transaction : AcceptedTransaction) :
    Except RecordError (List SignatureRecord) :=
  (RecordCreation.ofKeys (SignatureViews.of transaction check.collected).others
    transaction.signedBytes
    (RequiredKey.directKeys (check.resolver.otherKeys transaction.body).keys)).complete

def scheduledBatch (check : ConsensusCheck) (transaction : AcceptedTransaction) :
    Except RecordError (List SignatureRecord) :=
  check.scheduledRecords transaction.body (SignatureViews.of transaction check.collected).others
    (RequiredKey.scheduledKeys (check.resolver.otherKeys transaction.body).keys)

/-- The verdict is what three batches of records make of the two roles, each batch made from its own
keys and verified apart. -/
structure Reached (resolver : Resolver) (collected : CollectedSignatures)
    (transaction : AcceptedTransaction) (verdict : Verdict)
    (payerRecords directRecords scheduledRecords : List SignatureRecord) : Prop where
  payer : payerBatch ⟨resolver, collected, batchVerifier⟩ transaction = .ok payerRecords
  direct : directBatch ⟨resolver, collected, batchVerifier⟩ transaction = .ok directRecords
  scheduled : scheduledBatch ⟨resolver, collected, batchVerifier⟩ transaction = .ok scheduledRecords
  payerActive : verdict.payerActive = roleActive (resolver.payerKeys transaction.body)
    ((resolver.payerKeys transaction.body).keys.map RequiredKey.key)
    (.ofRecords (payerRecords.map SignatureRecord.verify))
  othersActive : verdict.othersActive = roleActive (resolver.otherKeys transaction.body)
    (RequiredKey.directKeys (resolver.otherKeys transaction.body).keys)
    (.ofRecords (directRecords.map SignatureRecord.verify))
  signatories : verdict.scheduledSignatories = validSignatories
    (RequiredKey.scheduledKeys (resolver.otherKeys transaction.body).keys)
    (.ofRecords (scheduledRecords.map SignatureRecord.verify))
  payerError : verdict.payerError = (resolver.payerKeys transaction.body).error?
  othersError : verdict.othersError = (resolver.otherKeys transaction.body).error?

theorem verdict_eq_ok_iff :
    ConsensusCheck.verdict ⟨resolver, collected, batchVerifier⟩ transaction = .ok verdict ↔
      ∃ payerRecords directRecords scheduledRecords, Reached resolver collected transaction verdict
        payerRecords directRecords scheduledRecords := by
  simp only [ConsensusCheck.verdict, bind_eq_ok_iff, mapError_eq_ok_iff, batchVerifier_eq,
    Except.ok.injEq, exists_eq_left', pure, Except.pure]
  constructor
  · rintro ⟨_, payer, _, direct, _, scheduled, rfl⟩
    exact ⟨_, _, _, payer, direct, scheduled, rfl, rfl, rfl, rfl, rfl⟩
  · rintro ⟨payers, directs, scheduleds, reached⟩
    refine ⟨payers, reached.payer, directs, reached.direct, scheduleds, reached.scheduled, ?_⟩
    cases verdict
    simp only [Verdict.mk.injEq]
    exact ⟨reached.payerActive.symm, reached.othersActive.symm, reached.signatories.symm,
      reached.payerError.symm, reached.othersError.symm⟩

theorem roleActive_verified {selected : Bytes → Bytes → Prop} {source : SignatureSource}
    {message : Bytes} {keys : List Key} {records : List SignatureRecord} (order : SigningOrder)
    (serves : source.Serves message selected)
    (created : (RecordCreation.ofKeys source message keys).complete = .ok records) :
    roleActive order keys (.ofRecords (records.map SignatureRecord.verify)) = true ↔
      order.isOk = true ∧
        ∀ key ∈ keys, key.Satisfied fun leaf => Vouched selected message keys leaf.bytes := by
  rw [roleActive, Bool.and_eq_true, RecordCreation.allActive_verified serves created]

section Roles

variable {payerRecords directRecords scheduledRecords : List SignatureRecord}

theorem Reached.payerActive_iff (reached : Reached resolver collected transaction verdict
    payerRecords directRecords scheduledRecords) :
    verdict.payerActive = true ↔
      ∃ info, resolver.ledger.account transaction.body.payer = .ok info ∧
        transaction.Authorizes [info.key] := by
  rw [reached.payerActive, roleActive_verified _ SignatureViews.serves_payer_of reached.payer]
  constructor
  · rintro ⟨resolved, all⟩
    cases paid : resolver.payerKeys transaction.body with
    | error e => simp [paid, Except.isOk, Except.toBool] at resolved
    | ok required =>
      obtain ⟨info, found, rfl⟩ := Resolver.payerKeys_eq_ok_iff.mp paid
      rw [paid] at all
      exact ⟨info, found, all⟩
  · rintro ⟨info, found, authorized⟩
    rw [Resolver.payerKeys_eq_ok_iff.mpr ⟨info, found, rfl⟩]
    exact ⟨rfl, authorized⟩

theorem Reached.others_satisfied_iff (reached : Reached resolver collected transaction verdict
    payerRecords directRecords scheduledRecords) :
    verdict.othersActive = true ↔
      ∃ required, resolver.otherKeys transaction.body = .ok required ∧
        transaction.Authorizes (RequiredKey.directKeys required) := by
  rw [reached.othersActive]
  cases resolved : resolver.otherKeys transaction.body with
  | error e => simp [roleActive, Except.isOk, Except.toBool]
  | ok required =>
    simp only [Except.ok.injEq, exists_eq_left']
    have created := reached.direct
    rw [directBatch, resolved, SigningOrder.keys_ok] at created
    rw [SigningOrder.keys_ok]
    by_cases signs : ∃ schedule, transaction.body.operation = .signSchedule schedule
    · obtain ⟨schedule, signs⟩ := signs
      rw [RequiredKey.directKeys_of_flagged (Resolver.flagged_of_signSchedule signs resolved)]
      simp [roleActive, allActive, AcceptedTransaction.Authorizes, Except.isOk, Except.toBool]
    · rw [roleActive_verified _ (SignatureViews.serves_others_of (not_exists.mp signs)) created]
      exact and_iff_right rfl

theorem roleActive_of_error? {order : SigningOrder} {e : OrderError}
    (failed : order.error? = some e) (keys : List Key) (statuses : StatusMap) :
    roleActive order keys statuses = false := by
  rw [(SigningOrder.error?_eq_some_iff order e).mp failed]
  rfl

end Roles

theorem scheduledRecords_of_encodes {check : ConsensusCheck} {body : TransactionBody}
    {scheduled : Operation} {message : Bytes}
    (found : check.resolver.scheduledOperation? body = .ok (some scheduled))
    (encoded : scheduled.encode = .ok message) (source : SignatureSource) (keys : List Key) :
    check.scheduledRecords body source keys =
      (RecordCreation.ofKeys (.verifying source message) message keys).complete := by
  unfold scheduledRecords
  split
  · rename_i empty
    rw [List.isEmpty_iff.mp empty]
    rfl
  · simp only [found, encoded, Except.mapError, bind, Except.bind]

theorem scheduledKeys_eq_nil {body : TransactionBody}
    (unscheduled : (∃ e, resolver.otherKeys body = .error e) ∨
      body.operation.collectsSignatures = false ∨ resolver.includeScheduled = false) :
    RequiredKey.scheduledKeys (resolver.otherKeys body).keys = [] := by
  cases resolved : resolver.otherKeys body with
  | error e => rfl
  | ok required =>
    rw [resolved] at unscheduled
    rcases unscheduled with ⟨_, failed⟩ | ordinary | excluded
    · cases failed
    · exact RequiredKey.scheduledKeys_of_not_flagged
        (Resolver.not_flagged_of_ordinary ordinary resolved)
    · exact RequiredKey.scheduledKeys_of_not_flagged
        (Resolver.not_flagged_of_excluded excluded resolved)

def Collects (resolver : Resolver) (body : TransactionBody) (message : Bytes) : Prop :=
  body.operation.collectsSignatures = true ∧
    ∃ scheduled, resolver.scheduledOperation? body = .ok (some scheduled) ∧
      scheduled.encode = .ok message

theorem exists_scheduledRecords_eq (check : ConsensusCheck) (body : TransactionBody) :
    ∃ message,
      (RequiredKey.scheduledKeys (check.resolver.otherKeys body).keys = [] ∨
        Collects check.resolver body message) ∧
      ∀ source : SignatureSource,
        check.scheduledRecords body source
            (RequiredKey.scheduledKeys (check.resolver.otherKeys body).keys) =
          (RecordCreation.ofKeys (.verifying source message) message
            (RequiredKey.scheduledKeys (check.resolver.otherKeys body).keys)).complete := by
  by_cases unscheduled : (∃ e, check.resolver.otherKeys body = .error e) ∨
      body.operation.collectsSignatures = false ∨ check.resolver.includeScheduled = false
  · rw [scheduledKeys_eq_nil unscheduled]
    exact ⟨[], .inl rfl, fun _ => rfl⟩
  · simp only [not_or, not_exists, Bool.not_eq_false] at unscheduled
    obtain ⟨resolves, collects, included⟩ := unscheduled
    cases resolved : check.resolver.otherKeys body with
    | error e => exact absurd resolved (resolves e)
    | ok required =>
      obtain ⟨scheduled, message, _, found, encoded⟩ :=
        Resolver.scheduled_encodes included collects resolved
      exact ⟨message, .inr ⟨collects, scheduled, found, encoded⟩,
        fun source => scheduledRecords_of_encodes found encoded source _⟩

theorem exists_reached {payerRecords directRecords scheduledRecords : List SignatureRecord}
    (payer : payerBatch ⟨resolver, collected, batchVerifier⟩ transaction = .ok payerRecords)
    (direct : directBatch ⟨resolver, collected, batchVerifier⟩ transaction = .ok directRecords)
    (scheduled : scheduledBatch ⟨resolver, collected, batchVerifier⟩ transaction =
      .ok scheduledRecords) :
    ∃ verdict, Reached resolver collected transaction verdict payerRecords directRecords
      scheduledRecords :=
  ⟨⟨_, _, _, _, _⟩, payer, direct, scheduled, rfl, rfl, rfl, rfl, rfl⟩

section Failures

/-- A record that is asked for has a part of this length, which is too long for a word: one for a
key that is required of the transaction itself, or one for a key that is required for the operation
that the transaction collects signatures for. -/
inductive Unaddressable (resolver : Resolver) (collected : CollectedSignatures)
    (transaction : AcceptedTransaction) (length : Nat) : Prop where
  | direct (long : RecordCreation.Overlong transaction.Offers transaction.envelope.body
      ((resolver.payerKeys transaction.body).keys.map RequiredKey.key ++
        RequiredKey.directKeys (resolver.otherKeys transaction.body).keys) length) :
      Unaddressable resolver collected transaction length
  | scheduled {message : Bytes} (collects : Collects resolver transaction.body message)
      (long : RecordCreation.Overlong (transaction.Gathers collected) message
        (RequiredKey.scheduledKeys (resolver.otherKeys transaction.body).keys) length) :
      Unaddressable resolver collected transaction length

variable {check : ConsensusCheck} {length : Nat}

theorem directKeys_of_signs {schedule : ScheduleId}
    (signs : transaction.body.operation = .signSchedule schedule) :
    RequiredKey.directKeys (resolver.otherKeys transaction.body).keys = [] := by
  cases resolved : resolver.otherKeys transaction.body with
  | error e => rfl
  | ok required =>
    exact RequiredKey.directKeys_of_flagged (Resolver.flagged_of_signSchedule signs resolved)

theorem overlong_of_payerBatch
    (failed : check.payerBatch transaction = .error (.oversized length)) :
    RecordCreation.Overlong transaction.Offers transaction.envelope.body
      ((check.resolver.payerKeys transaction.body).keys.map RequiredKey.key) length :=
  RecordCreation.overlong_of_oversized SignatureViews.gives_payer_of failed

theorem overlong_of_directBatch
    (failed : check.directBatch transaction = .error (.oversized length)) :
    RecordCreation.Overlong transaction.Offers transaction.envelope.body
      (RequiredKey.directKeys (check.resolver.otherKeys transaction.body).keys) length := by
  -- the view of the others lists what is collected only where they have no direct keys
  by_cases signs : ∃ schedule, transaction.body.operation = .signSchedule schedule
  · obtain ⟨schedule, signs⟩ := signs
    rw [directBatch, directKeys_of_signs signs] at failed
    cases failed
  · exact RecordCreation.overlong_of_oversized
      (SignatureViews.gives_others_of (not_exists.mp signs)) failed

theorem overlong_of_scheduledBatch
    (failed : check.scheduledBatch transaction = .error (.oversized length)) :
    ∃ message, Collects check.resolver transaction.body message ∧
      RecordCreation.Overlong (transaction.Gathers check.collected) message
        (RequiredKey.scheduledKeys (check.resolver.otherKeys transaction.body).keys) length := by
  obtain ⟨message, nothing | collects, made⟩ := exists_scheduledRecords_eq check transaction.body
  · rw [scheduledBatch, nothing] at failed
    cases failed
  · rw [scheduledBatch, made] at failed
    exact ⟨message, collects, RecordCreation.overlong_of_oversized
      (SignatureViews.lists_others_of collects.1).gives failed⟩

theorem exists_verdict_eq (check : ConsensusCheck) (transaction : AcceptedTransaction) :
    ∃ conclude : List SignatureRecord → List SignatureRecord → List SignatureRecord →
        Except ConsensusError Verdict,
      check.verdict transaction = (do
        let payer ← (check.payerBatch transaction).mapError .records
        let direct ← (check.directBatch transaction).mapError .records
        let scheduled ← (check.scheduledBatch transaction).mapError .records
        conclude payer direct scheduled) :=
  ⟨_, rfl⟩

theorem verdict_of_payerBatch {e : RecordError} (failed : check.payerBatch transaction = .error e) :
    check.verdict transaction = .error (.records e) := by
  obtain ⟨conclude, made⟩ := exists_verdict_eq check transaction
  rw [made, failed]
  rfl

theorem exists_batch_error {e : ConsensusError}
    (failed : ConsensusCheck.verdict ⟨resolver, collected, batchVerifier⟩ transaction = .error e) :
    ∃ fault, e = .records fault ∧
      (payerBatch ⟨resolver, collected, batchVerifier⟩ transaction = .error fault ∨
        directBatch ⟨resolver, collected, batchVerifier⟩ transaction = .error fault ∨
        scheduledBatch ⟨resolver, collected, batchVerifier⟩ transaction = .error fault) := by
  obtain ⟨conclude, made⟩ := exists_verdict_eq ⟨resolver, collected, batchVerifier⟩ transaction
  cases payer : payerBatch ⟨resolver, collected, batchVerifier⟩ transaction with
  | error fault =>
    rw [made, payer] at failed
    cases failed
    exact ⟨fault, rfl, .inl rfl⟩
  | ok payerRecords =>
    cases direct : directBatch ⟨resolver, collected, batchVerifier⟩ transaction with
    | error fault =>
      rw [made, payer, direct] at failed
      cases failed
      exact ⟨fault, rfl, .inr (.inl rfl)⟩
    | ok directRecords =>
      cases scheduled : scheduledBatch ⟨resolver, collected, batchVerifier⟩ transaction with
      | error fault =>
        rw [made, payer, direct, scheduled] at failed
        cases failed
        exact ⟨fault, rfl, .inr (.inr rfl)⟩
      | ok scheduledRecords =>
        obtain ⟨verdict, reached⟩ := exists_reached payer direct scheduled
        cases failed.symm.trans (verdict_eq_ok_iff.mpr ⟨_, _, _, reached⟩)

theorem unaddressable_of_verdict
    (failed : ConsensusCheck.verdict ⟨resolver, collected, batchVerifier⟩ transaction =
      .error (.records (.oversized length))) :
    Unaddressable resolver collected transaction length := by
  obtain ⟨fault, same, payer | direct | scheduled⟩ := exists_batch_error failed
  · cases same
    have long := overlong_of_payerBatch payer
    exact .direct (long.mono (List.subset_append_left ..) fun _ _ => id)
  · cases same
    have long := overlong_of_directBatch direct
    exact .direct (long.mono (List.subset_append_right ..) fun _ _ => id)
  · cases same
    obtain ⟨message, collects, long⟩ := overlong_of_scheduledBatch scheduled
    exact .scheduled collects long

theorem unaddressable_of_error {pairs : SignatureMap} {e : ConsensusError}
    (read : SignatureMap.decode transaction.envelope.signatureMap = .ok pairs)
    (failed : ConsensusCheck.verdict ⟨resolver, collected, batchVerifier⟩ transaction = .error e) :
    ∃ length, e = .records (.oversized length) ∧
      Unaddressable resolver collected transaction length := by
  obtain ⟨payerReadable, othersReadable⟩ := SignatureViews.readable_of collected read
  obtain ⟨message, _, made⟩ := exists_scheduledRecords_eq ⟨resolver, collected, batchVerifier⟩
    transaction.body
  obtain ⟨fault, rfl, batch⟩ := exists_batch_error failed
  have oversized : ∃ length, fault = .oversized length := by
    rcases batch with payer | direct | scheduled
    · exact RecordCreation.oversized_of_error payerReadable payer
    · exact RecordCreation.oversized_of_error othersReadable direct
    · rw [scheduledBatch, made] at scheduled
      have preferring : (SignatureSource.verifying (SignatureViews.of transaction collected).others
        message).Readable := othersReadable
      exact RecordCreation.oversized_of_error preferring scheduled
  obtain ⟨length, rfl⟩ := oversized
  exact ⟨length, rfl, unaddressable_of_verdict failed⟩

theorem exists_verdict {pairs : SignatureMap}
    (read : SignatureMap.decode transaction.envelope.signatureMap = .ok pairs)
    (short : ∀ length, ¬ Unaddressable resolver collected transaction length) :
    ∃ verdict, ConsensusCheck.verdict ⟨resolver, collected, batchVerifier⟩ transaction =
      .ok verdict := by
  cases outcome : ConsensusCheck.verdict ⟨resolver, collected, batchVerifier⟩ transaction with
  | ok verdict => exact ⟨verdict, rfl⟩
  | error e =>
    obtain ⟨length, _, long⟩ := unaddressable_of_error read outcome
    exact absurd long (short length)

end Failures

/-- What the verdict says of the two roles. The last part compares any two checks of the transaction
that tell the same payer and the same direct keys: what they require of a scheduled operation, and
what has been collected for it, makes no difference. -/
theorem verdict_roles (resolver : Resolver) (collected : CollectedSignatures)
    (transaction : AcceptedTransaction) (verdict : Verdict)
    (returned : ConsensusCheck.verdict ⟨resolver, collected, batchVerifier⟩ transaction =
      .ok verdict) :
    (verdict.payerActive = true ↔
      ∃ info, resolver.ledger.account transaction.body.payer = .ok info ∧
        transaction.Authorizes [info.key]) ∧
    (verdict.othersActive = true ↔
      ∃ required, resolver.otherKeys transaction.body = .ok required ∧
        transaction.Authorizes (RequiredKey.directKeys required)) ∧
    (∀ e, verdict.payerError = some e ↔ resolver.payerKeys transaction.body = .error e) ∧
    (∀ e, verdict.othersError = some e ↔ resolver.otherKeys transaction.body = .error e) ∧
    (∀ e, verdict.payerError = some e → verdict.payerActive = false) ∧
    (∀ e, verdict.othersError = some e → verdict.othersActive = false) ∧
    (∀ (another : Resolver) (elsewhere : CollectedSignatures) (other : Verdict),
      ConsensusCheck.verdict ⟨another, elsewhere, batchVerifier⟩ transaction = .ok other →
      another.ledger.account transaction.body.payer =
        resolver.ledger.account transaction.body.payer →
      (another.otherKeys transaction.body).toOption.map RequiredKey.directKeys =
        (resolver.otherKeys transaction.body).toOption.map RequiredKey.directKeys →
      other.payerActive = verdict.payerActive ∧ other.othersActive = verdict.othersActive) := by
  obtain ⟨_, _, _, reached⟩ := verdict_eq_ok_iff.mp returned
  refine ⟨reached.payerActive_iff, reached.others_satisfied_iff, fun e => ?_, fun e => ?_,
    fun e failed => ?_, fun e failed => ?_, ?_⟩
  · rw [reached.payerError, SigningOrder.error?_eq_some_iff]
  · rw [reached.othersError, SigningOrder.error?_eq_some_iff]
  · rw [reached.payerActive]
    exact roleActive_of_error? (reached.payerError.symm.trans failed) _ _
  · rw [reached.othersActive]
    exact roleActive_of_error? (reached.othersError.symm.trans failed) _ _
  · intro another elsewhere other alike samePayer sameKeys
    obtain ⟨_, _, _, compared⟩ := verdict_eq_ok_iff.mp alike
    constructor
    · rw [Bool.eq_iff_iff, reached.payerActive_iff, compared.payerActive_iff, samePayer]
    · rw [Bool.eq_iff_iff, reached.others_satisfied_iff, compared.others_satisfied_iff]
      rw [SigningOrder.exists_directKeys_iff, SigningOrder.exists_directKeys_iff, sameKeys]

end ConsensusCheck

namespace Sample

theorem payment_addressable (included : Bool) (collected : CollectedSignatures) (length : Nat) :
    ¬ ConsensusCheck.Unaddressable ⟨ledger, included⟩ collected payment length := by
  intro long
  cases long with
  | direct long => exact payment_not_overlong (by cases included <;> decide) length long
  | scheduled collects _ => cases collects.1

theorem payment_judged (included : Bool) (collected : CollectedSignatures) :
    ∃ verdict, ConsensusCheck.verdict ⟨⟨ledger, included⟩, collected, batchVerifier⟩ payment =
      .ok verdict :=
  ConsensusCheck.exists_verdict payment_read (payment_addressable included collected)

end Sample

namespace ConsensusCheck

theorem payment_authorized :
    (∃ verdict, ConsensusCheck.verdict ⟨⟨Sample.ledger, true⟩, fun _ => [], batchVerifier⟩
        Sample.payment = .ok verdict ∧
      verdict.payerActive = true ∧ verdict.othersActive = true) ∧
    ConsensusCheck.verdict ⟨⟨Sample.contractLedger, true⟩, fun _ => [], batchVerifier⟩
        Sample.freeze = .ok ⟨false, true, [], none, none⟩ ∧
      ¬ Sample.freeze.Authorizes [.list [.contract ⟨0, 0, 9⟩]] := by
  constructor
  · obtain ⟨verdict, returned⟩ := Sample.payment_judged true fun _ => []
    obtain ⟨payer, others, _⟩ := verdict_roles _ _ _ _ returned
    refine ⟨verdict, returned, payer.mpr ⟨_, rfl, ?_⟩, others.mpr ⟨_, rfl, ?_⟩⟩
    · exact Sample.payment_authorizes (by simp)
    · exact Sample.payment_authorizes (by decide)
  · refine (fun returned => ⟨returned, fun authorized => ?_⟩) rfl
    exact absurd ((verdict_roles _ _ _ _ returned).1.mpr ⟨_, rfl, authorized⟩) Bool.false_ne_true

end ConsensusCheck

end Signatory
