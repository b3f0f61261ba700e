import Signatory.Proofs.Admission
import Signatory.Proofs.Verdicts
import Signatory.Service

/-!
The two checks of a node over one ledger. They look at different views of the signatures, judge the
parties together or apart, and may be configured apart. Main statement: what consensus authorizes
is admitted at ingest, and ingest says no more than consensus will, unless the same bytes are asked
for under both schemes: judged together, a signature under either serves all parties.
-/
namespace Signatory

namespace Key

/-- No bytes are a public key of one scheme at one leaf and of the other at another. -/
def OneSchemeEach (keys : List Key) : Prop :=
  ∀ leaf other, LeafAmong keys leaf → LeafAmong keys other →
    leaf.bytes = other.bytes → leaf.scheme = other.scheme

end Key

namespace RequiredKey

theorem directKeys_of_not_flagged {required : List RequiredKey}
    (direct : ∀ key ∈ required, key.forScheduled = false) :
    directKeys required = required.map key := by
  rw [directKeys, List.filter_eq_self.mpr (by simpa using direct)]

end RequiredKey

namespace AcceptedTransaction

variable {transaction : AcceptedTransaction} {keys part : List Key}

theorem Authorizes.restrict (authorized : transaction.Authorizes keys)
    (apart : Key.OneSchemeEach keys) (within : part ⊆ keys) : transaction.Authorizes part := by
  intro key member
  apply (authorized key (within member)).mono
  intro leaf own vouched
  -- the leaf that vouches may belong to a key outside of `part`, but it is of the same scheme
  obtain ⟨other, among, same, signature, counts, verified⟩ := vouched
  have scheme : other.scheme = leaf.scheme :=
    apart other leaf among ⟨key, within member, own⟩ same
  exact ⟨leaf, ⟨key, member, own⟩, rfl, signature, counts, scheme ▸ verified⟩

theorem authorizes_append_iff {more : List Key} (apart : Key.OneSchemeEach (keys ++ more)) :
    transaction.Authorizes (keys ++ more) ↔
      transaction.Authorizes keys ∧ transaction.Authorizes more := by
  constructor
  · intro authorized
    exact ⟨authorized.restrict apart (List.subset_append_left ..),
      authorized.restrict apart (List.subset_append_right ..)⟩
  · rintro ⟨one, two⟩
    exact one.append two

end AcceptedTransaction

theorem TransactionBody.PaysForQuery.ordinary {node : AccountId} {body : TransactionBody}
    (pays : body.PaysForQuery node) : body.operation.collectsSignatures = false := by
  obtain ⟨transfers, same, _⟩ := pays
  rw [same]
  rfl

namespace Resolver

theorem payerKeys_congr {one two : Resolver} {body : TransactionBody}
    (same : one.ledger.account body.payer = two.ledger.account body.payer) :
    one.payerKeys body = two.payerKeys body := by
  rw [payerKeys_eq, payerKeys_eq, same]

theorem otherKeys_of_ordinary (resolver other : Resolver) {body : TransactionBody}
    (ordinary : body.operation.collectsSignatures = false) (same : resolver.ledger = other.ledger) :
    resolver.otherKeys body = other.otherKeys body := by
  cases operation : body.operation with
  | plain | deleteSchedule => simp only [otherKeys_eq, requiredKeys, operation, same]
  | createSchedule | signSchedule => simp [operation, Operation.collectsSignatures] at ordinary

end Resolver

namespace ConsensusCheck

variable {resolver : Resolver} {collected : CollectedSignatures}
  {transaction : AcceptedTransaction} {verdict : Verdict}

theorem payerActive_iff
    (returned : ConsensusCheck.verdict ⟨resolver, collected, batchVerifier⟩ transaction =
      .ok verdict) :
    verdict.payerActive = true ↔
      ∃ info, resolver.ledger.account transaction.body.payer = .ok info ∧
        transaction.Authorizes [info.key] := by
  obtain ⟨_, _, _, reached⟩ := verdict_eq_ok_iff.mp returned
  exact reached.payerActive_iff

theorem othersActive_iff
    (returned : ConsensusCheck.verdict ⟨resolver, collected, batchVerifier⟩ transaction =
      .ok verdict) :
    verdict.othersActive = true ↔
      ∃ required, resolver.otherKeys transaction.body = .ok required ∧
        transaction.Authorizes (RequiredKey.directKeys required) := by
  obtain ⟨_, _, _, reached⟩ := verdict_eq_ok_iff.mp returned
  exact reached.others_satisfied_iff

theorem isAuthorized_iff
    (returned : ConsensusCheck.verdict ⟨resolver, collected, batchVerifier⟩ transaction =
      .ok verdict) :
    verdict.isAuthorized = true ↔
      ∃ info required, resolver.ledger.account transaction.body.payer = .ok info ∧
        resolver.otherKeys transaction.body = .ok required ∧ transaction.Authorizes [info.key] ∧
        transaction.Authorizes (RequiredKey.directKeys required) := by
  rw [Verdict.isAuthorized, Bool.and_eq_true, payerActive_iff returned, othersActive_iff returned]
  constructor
  · rintro ⟨⟨info, found, payer⟩, required, resolved, others⟩
    exact ⟨info, required, found, resolved, payer, others⟩
  · rintro ⟨info, required, found, resolved, payer, others⟩
    exact ⟨⟨info, found, payer⟩, required, resolved, others⟩

end ConsensusCheck

namespace Service

def batching (config : ServiceConfig) (ledger : Ledger) (collected : CollectedSignatures) :
    Service :=
  ⟨config, ledger, collected, batchVerifier⟩

variable {config : ServiceConfig} {ledger : Ledger} {collected : CollectedSignatures}
  {transaction : AcceptedTransaction} {verdict : Verdict}

theorem recordsFor_of_returned
    (returned : (batching config ledger collected).verdict transaction = .ok verdict)
    {keys : List Key} (requires : IngestCheck.Requires ⟨ledger, config.ingestScheduled⟩ config.node
      transaction.body keys) :
    ∃ records, IngestCheck.recordsFor transaction keys = .ok records := by
  obtain ⟨payerRecords, directRecords, _, reached⟩ := ConsensusCheck.verdict_eq_ok_iff.mp returned
  have payer : (RecordCreation.ofKeys (SignatureViews.of transaction collected).payer
      transaction.signedBytes
      ((Resolver.payerKeys ⟨ledger, config.consensusScheduled⟩ transaction.body).keys.map
        RequiredKey.key)).complete = .ok payerRecords := reached.payer
  have direct : (RecordCreation.ofKeys (SignatureViews.of transaction collected).others
      transaction.signedBytes (RequiredKey.directKeys
        (Resolver.otherKeys ⟨ledger, config.consensusScheduled⟩ transaction.body).keys)).complete =
      .ok directRecords := reached.direct
  have paid {info : AccountInfo} (found : ledger.account transaction.body.payer = .ok info) :
      Resolver.payerKeys ⟨ledger, config.consensusScheduled⟩ transaction.body =
        .ok [.direct info.key] := Resolver.payerKeys_eq_ok_iff.mpr ⟨info, found, rfl⟩
  unfold IngestCheck.recordsFor
  rw [RecordCreation.ofKeys_congr (SignatureViews.signature?_all_uncollected transaction collected)]
  cases requires with
  | payer found _ =>
    rw [paid found] at payer
    exact ⟨payerRecords, payer⟩
  | everyone found pays resolved =>
    have same := Resolver.otherKeys_of_ordinary ⟨ledger, config.ingestScheduled⟩
      ⟨ledger, config.consensusScheduled⟩ pays.ordinary rfl
    rw [paid found] at payer
    rw [← same, resolved, SigningOrder.keys_ok, RequiredKey.directKeys_of_not_flagged
      (Resolver.not_flagged_of_ordinary pays.ordinary resolved)] at direct
    -- the map of an ordinary transaction is the one view of all parties
    rw [SignatureViews.of_eq_ofMap pays.ordinary] at payer direct ⊢
    exact RecordCreation.complete_append_of_ok ⟨payerRecords, payer⟩ ⟨directRecords, direct⟩

theorem admits_ne_oversized
    (returned : (batching config ledger collected).verdict transaction = .ok verdict)
    (length : Nat) :
    (batching config ledger collected).admits transaction ≠
      .error (.records (.oversized length)) := by
  intro failed
  obtain ⟨keys, requires, failed⟩ := IngestCheck.exists_requires_of_records failed
  obtain ⟨records, created⟩ := recordsFor_of_returned returned requires
  cases created.symm.trans ((IngestCheck.satisfied_eq_records_iff _ _ _).mp failed)

theorem admits_iff_requires
    (returned : (batching config ledger collected).verdict transaction = .ok verdict) :
    (batching config ledger collected).admits transaction = .ok true ↔
      ∃ keys, IngestCheck.Requires ⟨ledger, config.ingestScheduled⟩ config.node transaction.body
        keys ∧ transaction.Authorizes keys :=
  (IngestCheck.admits_iff_authorizes _ _ _).trans (and_iff_left (admits_ne_oversized returned))

theorem admits_iff_of_free (free : ¬ transaction.body.PaysForQuery config.node)
    (returned : (batching config ledger collected).verdict transaction = .ok verdict) :
    (batching config ledger collected).admits transaction = .ok true ↔
      ∃ info, ledger.account transaction.body.payer = .ok info ∧
        transaction.Authorizes [info.key] := by
  rw [admits_iff_requires returned]
  constructor
  · rintro ⟨keys, requires, authorized⟩
    cases requires with
    | payer found _ => exact ⟨_, found, authorized⟩
    | everyone _ pays _ => exact absurd pays free
  · rintro ⟨info, found, authorized⟩
    exact ⟨_, .payer found free, authorized⟩

theorem admits_iff_of_pays (pays : transaction.body.PaysForQuery config.node)
    (returned : (batching config ledger collected).verdict transaction = .ok verdict) :
    (batching config ledger collected).admits transaction = .ok true ↔
      ∃ info required, ledger.account transaction.body.payer = .ok info ∧
        Resolver.otherKeys ⟨ledger, config.consensusScheduled⟩ transaction.body = .ok required ∧
        transaction.Authorizes ([info.key] ++ RequiredKey.directKeys required) := by
  have same := Resolver.otherKeys_of_ordinary ⟨ledger, config.ingestScheduled⟩
    ⟨ledger, config.consensusScheduled⟩ pays.ordinary rfl
  rw [admits_iff_requires returned]
  constructor
  · rintro ⟨keys, requires, authorized⟩
    cases requires with
    | payer _ free => exact absurd pays free
    | @everyone info others found _ resolved =>
      have direct := RequiredKey.directKeys_of_not_flagged
        (Resolver.not_flagged_of_ordinary pays.ordinary resolved)
      exact ⟨info, others, found, same ▸ resolved, direct ▸ authorized⟩
  · rintro ⟨info, required, found, resolved, authorized⟩
    have direct := RequiredKey.directKeys_of_not_flagged
      (Resolver.not_flagged_of_ordinary pays.ordinary resolved)
    exact ⟨_, .everyone found pays (same.trans resolved), direct ▸ authorized⟩

theorem oneSchemeEach_of_pays (pays : transaction.body.PaysForQuery config.node)
    {info : AccountInfo} {required : List RequiredKey}
    (found : ledger.account transaction.body.payer = .ok info)
    (resolved : Resolver.otherKeys ⟨ledger, config.consensusScheduled⟩ transaction.body =
      .ok required)
    (apart : ∀ keys, IngestCheck.Requires ⟨ledger, config.ingestScheduled⟩ config.node
      transaction.body keys → Key.OneSchemeEach keys) :
    Key.OneSchemeEach ([info.key] ++ RequiredKey.directKeys required) := by
  have same := Resolver.otherKeys_of_ordinary ⟨ledger, config.ingestScheduled⟩
    ⟨ledger, config.consensusScheduled⟩ pays.ordinary rfl
  rw [RequiredKey.directKeys_of_not_flagged
    (Resolver.not_flagged_of_ordinary pays.ordinary resolved)]
  exact apart _ (.everyone found pays (same.trans resolved))

/-- Ingest and consensus over one ledger, each configured as it may be and whatever schedules have
collected. -/
theorem admission_meets_verdict (config : ServiceConfig) (ledger : Ledger)
    (collected : CollectedSignatures) (transaction : AcceptedTransaction) (verdict : Verdict)
    (returned : (batching config ledger collected).verdict transaction = .ok verdict) :
    (verdict.isAuthorized = true →
      (batching config ledger collected).admits transaction = .ok true) ∧
    ∀ admitted, (batching config ledger collected).admits transaction = .ok admitted →
      (¬ transaction.body.PaysForQuery config.node → admitted = verdict.payerActive) ∧
      (transaction.body.PaysForQuery config.node →
        (∀ keys, IngestCheck.Requires ⟨ledger, config.ingestScheduled⟩ config.node transaction.body
          keys → Key.OneSchemeEach keys) →
        admitted = verdict.isAuthorized) := by
  have authority := ConsensusCheck.isAuthorized_iff returned
  constructor
  · intro authorized
    obtain ⟨info, required, found, resolved, payer, others⟩ := authority.mp authorized
    by_cases pays : transaction.body.PaysForQuery config.node
    · exact (admits_iff_of_pays pays returned).mpr
        ⟨info, required, found, resolved, payer.append others⟩
    · exact (admits_iff_of_free pays returned).mpr ⟨info, found, payer⟩
  · intro admitted answered
    have holds : admitted = true ↔
        (batching config ledger collected).admits transaction = .ok true := by
      rw [answered, Except.ok.injEq]
    constructor
    · intro free
      rw [Bool.eq_iff_iff, holds, admits_iff_of_free free returned]
      exact (ConsensusCheck.payerActive_iff returned).symm
    · intro pays apart
      rw [Bool.eq_iff_iff, holds, admits_iff_of_pays pays returned]
      refine Iff.trans ?_ authority.symm
      apply exists_congr
      intro info
      apply exists_congr
      intro required
      apply and_congr_right
      intro found
      apply and_congr_right
      intro resolved
      exact AcceptedTransaction.authorizes_append_iff
        (oneSchemeEach_of_pays pays found resolved apart)

theorem payment_admitted_as_authorized :
    ∃ verdict, (batching .standard Sample.ledger fun _ => []).verdict Sample.payment =
        .ok verdict ∧
      verdict.isAuthorized = true ∧
      (batching .standard Sample.ledger fun _ => []).admits Sample.payment = .ok true := by
  obtain ⟨verdict, returned⟩ := Sample.payment_judged true fun _ => []
  have authorized : verdict.isAuthorized = true :=
    (ConsensusCheck.isAuthorized_iff returned).mpr ⟨⟨.simple Sample.signer, false⟩,
      [.direct (.simple Sample.signer)], rfl, rfl, Sample.payment_authorizes (by simp),
      Sample.payment_authorizes (by simp [RequiredKey.directKeys, RequiredKey.direct])⟩
  exact ⟨verdict, returned, authorized,
    (admission_meets_verdict .standard _ _ _ verdict returned).1 authorized⟩

end Service

end Signatory
