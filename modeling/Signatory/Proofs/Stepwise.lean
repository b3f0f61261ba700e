import Signatory.Proofs.Agreement
import Signatory.Proofs.Signatories

/-!
The checks of a node, taken step by step. A caller has the required keys told, records made for them
from one of the views, the records verified, and every key judged alone. The checks as a whole look
at other views: ingest at the one for all parties with nothing collected, consensus at those that
what is collected suits. Main statement: the steps over the payer's keys say what consensus says of
the payer and, of a transaction that pays for no query, what ingest says; and the steps over all
keys and the view for all parties say what ingest says of a query payment.
-/
namespace Signatory

theorem SignatureViews.of_eq_uncollected {transaction : AcceptedTransaction}
    (ordinary : transaction.body.operation.collectsSignatures = false)
    (collected : CollectedSignatures) :
    SignatureViews.of transaction collected = uncollected transaction := by
  rw [of_eq_ofMap ordinary, uncollected_eq_ofMap ordinary]

namespace Service

/-- Whether the records made for the keys from the source are verified and satisfy each key. -/
def stepByStep (service : Service) (transaction : AcceptedTransaction)
    (required : List RequiredKey) (source : SignatureSource) : Except IngestError Bool := do
  let records ← (service.createRecords transaction required source).complete.mapError .records
  let verified ← (service.verify records).mapError .verifier
  return required.all fun asked => service.isActive asked.key verified .strict

variable {config : ServiceConfig} {ledger : Ledger} {collected : CollectedSignatures}
  {transaction : AcceptedTransaction} {source : SignatureSource}

theorem stepByStep_of_error {service : Service} {required : List RequiredKey} {e : RecordError}
    (failed : (service.createRecords transaction required source).complete = .error e) :
    service.stepByStep transaction required source = .error (.records e) := by
  rw [stepByStep, failed]
  rfl

theorem stepByStep_of_complete {required : List RequiredKey} {records : List SignatureRecord}
    (created : ((batching config ledger collected).createRecords transaction required
      source).complete = .ok records) :
    (batching config ledger collected).stepByStep transaction required source =
      .ok (allActive (required.map RequiredKey.key)
        (.ofRecords (records.map SignatureRecord.verify))) := by
  have checked : (batching config ledger collected).verify records =
      .ok (records.map SignatureRecord.verify) := batchVerifier_eq records
  simp only [stepByStep, created, checked, Except.mapError, bind, Except.bind, pure, Except.pure,
    allActive, List.all_map]
  rfl

theorem exists_oversized_of_error {required : List RequiredKey} {e : IngestError}
    (readable : source.Readable)
    (failed : (batching config ledger collected).stepByStep transaction required source =
      .error e) :
    ∃ length, e = .records (.oversized length) ∧ ((batching config ledger collected).createRecords
      transaction required source).complete = .error (.oversized length) := by
  cases created : ((batching config ledger collected).createRecords transaction required
      source).complete with
  | ok records => cases failed.symm.trans (stepByStep_of_complete created)
  | error fault =>
    cases failed.symm.trans (stepByStep_of_error created)
    obtain ⟨length, rfl⟩ := RecordCreation.oversized_of_error readable created
    exact ⟨length, rfl, rfl⟩

theorem stepByStep_congr {service : Service} {other : SignatureSource}
    (alike : ∀ publicKey, source.signature? publicKey = other.signature? publicKey)
    (required : List RequiredKey) :
    service.stepByStep transaction required source =
      service.stepByStep transaction required other := by
  simp only [stepByStep, createRecords, RecordCreation.ofKeys_congr alike]

theorem satisfied_eq_stepByStep (required : List RequiredKey) :
    (batching config ledger collected).ingest.satisfied transaction
        (required.map RequiredKey.key) =
      (batching config ledger collected).stepByStep transaction required
        (SignatureViews.uncollected transaction).all := by
  simp only [IngestCheck.satisfied, stepByStep, allActive, List.all_map]
  rfl

theorem admits_of_furtherKeys {payer others : List RequiredKey}
    (resolved : (batching config ledger collected).payerKeys transaction.body = .ok payer)
    (further : (batching config ledger collected).ingest.furtherKeys transaction.body =
      .ok others) :
    (batching config ledger collected).admits transaction =
      (batching config ledger collected).stepByStep transaction (payer ++ others)
        (SignatureViews.uncollected transaction).all := by
  have paid : (batching config ledger collected).ingest.resolver.payerKeys transaction.body =
      .ok payer := resolved
  rw [admits, IngestCheck.admits, paid, further]
  exact satisfied_eq_stepByStep _

theorem payerBatch_eq_createRecords {payer : List RequiredKey}
    (resolved : (batching config ledger collected).payerKeys transaction.body = .ok payer) :
    (batching config ledger collected).consensus.payerBatch transaction =
      ((batching config ledger collected).createRecords transaction payer
        ((batching config ledger collected).views transaction).payer).complete := by
  have told : (batching config ledger collected).consensus.resolver.payerKeys transaction.body =
      .ok payer := (Resolver.payerKeys_congr rfl).trans resolved
  rw [ConsensusCheck.payerBatch, told]
  rfl

theorem stepByStep_of_returned {payer : List RequiredKey} {verdict : Verdict}
    (resolved : (batching config ledger collected).payerKeys transaction.body = .ok payer)
    (returned : (batching config ledger collected).verdict transaction = .ok verdict) :
    (batching config ledger collected).stepByStep transaction payer
      ((batching config ledger collected).views transaction).payer = .ok verdict.payerActive := by
  obtain ⟨payerRecords, _, _, reached⟩ := ConsensusCheck.verdict_eq_ok_iff.mp returned
  have told : Resolver.payerKeys ⟨ledger, config.consensusScheduled⟩ transaction.body =
      .ok payer := (Resolver.payerKeys_congr rfl).trans resolved
  have active : verdict.payerActive = ConsensusCheck.roleActive
      (Resolver.payerKeys ⟨ledger, config.consensusScheduled⟩ transaction.body)
      ((Resolver.payerKeys ⟨ledger, config.consensusScheduled⟩ transaction.body).keys.map
        RequiredKey.key) (.ofRecords (payerRecords.map SignatureRecord.verify)) :=
    reached.payerActive
  rw [stepByStep_of_complete ((payerBatch_eq_createRecords resolved).symm.trans reached.payer),
    active, told]
  rfl

/-- Whatever is configured and whatever schedules have collected, of any operation. Only a record
that cannot be made keeps the steps, or a check, from an answer. -/
theorem steps_reproduce_verdicts (config : ServiceConfig) (ledger : Ledger)
    (collected : CollectedSignatures) (transaction : AcceptedTransaction) (pairs : SignatureMap)
    (read : SignatureMap.decode transaction.envelope.signatureMap = .ok pairs)
    (payer : List RequiredKey)
    (resolved : (batching config ledger collected).payerKeys transaction.body = .ok payer) :
    let service := batching config ledger collected
    let views := service.views transaction
    let steps := service.stepByStep transaction payer views.payer
    (∀ verdict, service.verdict transaction = .ok verdict → steps = .ok verdict.payerActive) ∧
    (∀ e, service.verdict transaction = .error e → ∃ length, e = .records (.oversized length) ∧
      ConsensusCheck.Unaddressable ⟨ledger, config.consensusScheduled⟩ collected transaction
        length) ∧
    (∀ e, steps = .error e → ∃ length, e = .records (.oversized length) ∧
      service.verdict transaction = .error (.records (.oversized length))) ∧
    (¬ transaction.body.PaysForQuery config.node → service.admits transaction = steps) ∧
    (transaction.body.PaysForQuery config.node →
      ∀ others, service.otherKeys transaction.body = .ok others →
        let further := service.stepByStep transaction (payer ++ others) views.all
        service.admits transaction = further ∧
        ∀ e, further = .error e → ∃ length, e = .records (.oversized length) ∧
          RecordCreation.Overlong transaction.Offers transaction.envelope.body
            ((payer ++ others).map RequiredKey.key) length) := by
  intro service views steps
  refine ⟨fun verdict returned => stepByStep_of_returned resolved returned,
    fun e => ConsensusCheck.unaddressable_of_error read, fun e failed => ?_, fun free => ?_,
    fun pays others parties => ?_⟩
  · obtain ⟨length, rfl, created⟩ :=
      exists_oversized_of_error (SignatureViews.readable_of collected read).1 failed
    exact ⟨length, rfl, ConsensusCheck.verdict_of_payerBatch
      ((payerBatch_eq_createRecords resolved).trans created)⟩
  · have further : service.ingest.furtherKeys transaction.body = .ok [] :=
      (IngestCheck.furtherKeys_eq_ok_iff ..).mpr (.inr ⟨free, rfl⟩)
    rw [admits_of_furtherKeys resolved further, List.append_nil]
    exact stepByStep_congr (SignatureViews.signature?_all_uncollected transaction collected) payer
  · have further : service.ingest.furtherKeys transaction.body = .ok others :=
      (IngestCheck.furtherKeys_eq_ok_iff ..).mpr (.inl ⟨pays, parties⟩)
    -- a payment for a query collects no signatures, so that its views are those of ingest
    have same : views = SignatureViews.uncollected transaction :=
      SignatureViews.of_eq_uncollected pays.ordinary collected
    rw [same]
    refine ⟨admits_of_furtherKeys resolved further, fun e failed => ?_⟩
    obtain ⟨length, rfl, created⟩ :=
      exists_oversized_of_error (SignatureViews.readable_uncollected read) failed
    exact ⟨length, rfl,
      RecordCreation.overlong_of_oversized SignatureViews.gives_all_uncollected created⟩

theorem payment_and_approval_step_by_step :
    (batching .standard Sample.ledger Sample.signerCollected).stepByStep Sample.payment
      ([.direct (.simple Sample.signer)] ++ [.direct (.simple Sample.signer)])
      ((batching .standard Sample.ledger Sample.signerCollected).views Sample.payment).all =
        .ok true ∧
    let service := batching .standard Sample.scheduleResolver.ledger Sample.signerCollected
    let approval := Sample.approval Sample.wrongMap
    ∃ verdict, service.verdict approval = .ok verdict ∧
      service.stepByStep approval [.direct (.simple Sample.signer)] (service.views approval).payer =
        .ok verdict.payerActive ∧
      service.admits approval = .ok verdict.payerActive := by
  constructor
  · obtain ⟨_, _, _, _, paid⟩ := steps_reproduce_verdicts .standard Sample.ledger
      Sample.signerCollected Sample.payment _ Sample.payment_read _ rfl
    exact (paid Sample.payment_pays _ rfl).1.symm.trans (Sample.payment_admits false)
  · have free : ¬ (Sample.approval Sample.wrongMap).body.PaysForQuery ⟨0, 0, 3⟩ := by
      rintro ⟨transfers, same, _⟩
      cases same
    obtain ⟨active, _, _, admitted, _⟩ := steps_reproduce_verdicts .standard
      Sample.scheduleResolver.ledger Sample.signerCollected (Sample.approval Sample.wrongMap) _
      Sample.wrongMap_read _ rfl
    obtain ⟨verdict, returned⟩ : ∃ verdict, (batching .standard Sample.scheduleResolver.ledger
        Sample.signerCollected).verdict (Sample.approval Sample.wrongMap) = .ok verdict :=
      Sample.approval_judged Sample.wrongMap_read (by decide) Sample.collectsShort_signerCollected
    exact ⟨verdict, returned, active verdict returned,
      (admitted free).trans (active verdict returned)⟩

end Service

end Signatory
