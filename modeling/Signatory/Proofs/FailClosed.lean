import Mathlib.Data.List.Forall2
import Signatory.Proofs.Admission
import Signatory.Proofs.Verdicts
import Signatory.Service

/-!
Authority under any verifier. A verifier may leave records as they are, refuse good signatures or
fail; all that is asked of it is to change nothing but statuses and to mark as valid only what
verifies. Main statement: even then nothing is authorized but by signatures in the transaction's own
map that verify over its body, at least one of them by a leaf of the payer.
-/
namespace Signatory

namespace SignatureRecord

/-- What a verifier may make of a record. -/
structure MayBecome (before after : SignatureRecord) : Prop where
  key : after.key = before.key
  signature : after.signature = before.signature
  message : after.message = before.message
  sound : after.status = .valid → before.status = .valid ∨ before.verifies = true

theorem mayBecome_settle (record : SignatureRecord) (outcome : VerificationStatus)
    (sound : outcome = .valid → record.verifies = true) :
    record.MayBecome (record.settle outcome) := by
  unfold settle
  split
  · exact ⟨rfl, rfl, rfl, fun valid => .inr (sound valid)⟩
  · exact ⟨rfl, rfl, rfl, .inl⟩

theorem mayBecome_verify (record : SignatureRecord) : record.MayBecome record.verify := by
  unfold verify
  split
  · exact ⟨rfl, rfl, rfl, .inl⟩
  · exact record.mayBecome_settle _ fun valid => by simpa using valid

end SignatureRecord

/-- The verifier answers, if it does, with what its records may become, in their order. -/
def Verifier.Honest (verifier : Verifier) : Prop :=
  ∀ records verified, verifier records = .ok verified →
    List.Forall₂ SignatureRecord.MayBecome records verified

theorem Verifier.honest_batchVerifier : Verifier.Honest batchVerifier := by
  intro records verified answered
  rw [batchVerifier_eq] at answered
  cases answered
  rw [List.forall₂_map_right_iff, List.forall₂_same]
  intro record _
  exact record.mayBecome_verify

theorem SignatureRecord.exists_before {records verified : List SignatureRecord}
    {after : SignatureRecord} (related : List.Forall₂ MayBecome records verified)
    (member : after ∈ verified) : ∃ before ∈ records, before.MayBecome after := by
  induction related with
  | nil => simp at member
  | cons head _ ih =>
    rcases List.mem_cons.mp member with rfl | rest
    · exact ⟨_, List.mem_cons_self .., head⟩
    · obtain ⟨before, made, may⟩ := ih rest
      exact ⟨before, List.mem_cons_of_mem _ made, may⟩

namespace RecordCreation

variable {source : SignatureSource} {message : Bytes} {keys : List Key}
  {records verified : List SignatureRecord} {selected : Bytes → Bytes → Prop}

theorem vouched_of_valid (serves : source.Serves message selected)
    (created : (ofKeys source message keys).complete = .ok records)
    (related : List.Forall₂ SignatureRecord.MayBecome records verified) {publicKey : Bytes}
    (valid : StatusMap.statusOf (.ofRecords verified) publicKey = some .valid) :
    Vouched selected message keys publicKey := by
  obtain ⟨after, member, same, valid⟩ := (StatusMap.statusOf_ofRecords_valid_iff _ _).mp valid
  obtain ⟨before, made, may⟩ := SignatureRecord.exists_before related member
  obtain ⟨leaf, required, recorded⟩ := (mem_complete created before).mp made
  obtain ⟨found, answered, rfl⟩ := recordFor_eq_some recorded
  have own : leaf.bytes = publicKey := by rw [← same, may.key]; rfl
  -- a new record is unknown, so it can only have become valid by verifying
  rcases may.sound valid with known | verifies
  · cases known
  · rw [Key.mem_flatMap_leaves_iff] at required
    exact ⟨leaf, required, own, own ▸ (serves leaf.bytes found answered leaf.scheme).mp verifies⟩

theorem satisfied_of_allActive (serves : source.Serves message selected)
    (created : (ofKeys source message keys).complete = .ok records)
    (related : List.Forall₂ SignatureRecord.MayBecome records verified)
    (active : allActive keys (.ofRecords verified) = true) :
    ∀ key ∈ keys, key.Satisfied fun leaf => Vouched selected message keys leaf.bytes := by
  rw [allActive_iff] at active
  intro key member
  apply (active key member).mono
  intro leaf _ valid
  exact vouched_of_valid serves created related valid

end RecordCreation

namespace AcceptedTransaction

def Carries (transaction : AcceptedTransaction) (publicKey signature : Bytes) : Prop :=
  ∃ pairs, SignatureMap.decode transaction.envelope.signatureMap = .ok pairs ∧
    ∃ pair ∈ pairs, pair.Fits publicKey ∧ pair.signature = signature

/-- The keys are satisfied by leaves whose bytes have signed the body in the transaction's own map,
under the scheme of one of the leaves with these bytes. -/
def Backs (transaction : AcceptedTransaction) (keys : List Key) : Prop :=
  ∀ key ∈ keys, key.Satisfied fun leaf =>
    Vouched transaction.Carries transaction.envelope.body keys leaf.bytes

variable {transaction : AcceptedTransaction}

theorem Offers.carries {publicKey signature : Bytes}
    (offered : transaction.Offers publicKey signature) :
    transaction.Carries publicKey signature := by
  obtain ⟨pairs, read, selected⟩ := offered
  exact ⟨pairs, read, selected.exists_pair⟩

theorem Authorizes.backs {keys : List Key} (authorized : transaction.Authorizes keys) :
    transaction.Backs keys := by
  intro key member
  exact (authorized key member).vouched_mono (List.Subset.refl _) fun _ _ => Offers.carries

end AcceptedTransaction

namespace IngestCheck

theorem authorizes_of_honest {check : IngestCheck} {transaction : AcceptedTransaction}
    {keys : List Key} (honest : check.verifier.Honest)
    (holds : check.satisfied transaction keys = .ok true) : transaction.Authorizes keys := by
  obtain ⟨records, verified, created, checked, active⟩ := (satisfied_eq_ok_iff _ _ _).mp holds
  exact RecordCreation.satisfied_of_allActive SignatureViews.serves_all_uncollected created
    (honest records verified checked) active

theorem Requires.payer_mem {resolver : Resolver} {node : AccountId} {body : TransactionBody}
    {keys : List Key} (requires : Requires resolver node body keys) :
    ∃ info, resolver.ledger.account body.payer = .ok info ∧ info.key ∈ keys := by
  cases requires with
  | payer found _ => exact ⟨_, found, List.mem_singleton_self _⟩
  | everyone found _ _ => exact ⟨_, found, List.mem_cons_self ..⟩

end IngestCheck

namespace ConsensusCheck

variable {check : ConsensusCheck} {transaction : AcceptedTransaction} {verdict : Verdict}

def Judged (check : ConsensusCheck) (transaction : AcceptedTransaction) (source : SignatureSource)
    (order : SigningOrder) (keys : List Key) (active : Bool) : Prop :=
  ∃ records verified,
    (RecordCreation.ofKeys source transaction.signedBytes keys).complete = .ok records ∧
    check.verifier records = .ok verified ∧
    active = roleActive order keys (.ofRecords verified)

theorem judged_of_verdict (returned : check.verdict transaction = .ok verdict) :
    check.Judged transaction (SignatureViews.of transaction check.collected).payer
        (check.resolver.payerKeys transaction.body)
        ((check.resolver.payerKeys transaction.body).keys.map RequiredKey.key)
        verdict.payerActive ∧
      check.Judged transaction (SignatureViews.of transaction check.collected).others
        (check.resolver.otherKeys transaction.body)
        (RequiredKey.directKeys (check.resolver.otherKeys transaction.body).keys)
        verdict.othersActive := by
  simp only [ConsensusCheck.verdict, bind_eq_ok_iff, mapError_eq_ok_iff, pure, Except.pure,
    Except.ok.injEq] at returned
  obtain ⟨_, payer, _, direct, _, _, _, payerChecked, _, directChecked, _, _, rfl⟩ := returned
  exact ⟨⟨_, _, payer, payerChecked, rfl⟩, ⟨_, _, direct, directChecked, rfl⟩⟩

theorem Judged.authorizes {source : SignatureSource} {order : SigningOrder} {keys : List Key}
    (judged : check.Judged transaction source order keys true) (honest : check.verifier.Honest)
    (serves : source.Serves transaction.envelope.body transaction.Offers) :
    transaction.Authorizes keys := by
  obtain ⟨records, verified, created, checked, active⟩ := judged
  rw [roleActive, eq_comm, Bool.and_eq_true] at active
  exact RecordCreation.satisfied_of_allActive serves created (honest records verified checked)
    active.2

theorem Judged.resolved {source : SignatureSource} {order : SigningOrder} {keys : List Key}
    (judged : check.Judged transaction source order keys true) :
    ∃ required, order = .ok required := by
  obtain ⟨_, _, _, _, active⟩ := judged
  cases order with
  | error e => cases active
  | ok required => exact ⟨required, rfl⟩

theorem payer_authorizes (honest : check.verifier.Honest)
    (returned : check.verdict transaction = .ok verdict) (active : verdict.payerActive = true) :
    ∃ info, check.resolver.ledger.account transaction.body.payer = .ok info ∧
      transaction.Authorizes [info.key] := by
  have judged := (judged_of_verdict returned).1
  rw [active] at judged
  obtain ⟨required, paid⟩ := judged.resolved
  obtain ⟨info, found, rfl⟩ := Resolver.payerKeys_eq_ok_iff.mp paid
  have authorized := judged.authorizes honest SignatureViews.serves_payer_of
  rw [paid] at authorized
  exact ⟨info, found, authorized⟩

theorem others_authorize (honest : check.verifier.Honest)
    (returned : check.verdict transaction = .ok verdict) (active : verdict.othersActive = true) :
    ∃ required, check.resolver.otherKeys transaction.body = .ok required ∧
      transaction.Authorizes (RequiredKey.directKeys required) := by
  have judged := (judged_of_verdict returned).2
  rw [active] at judged
  obtain ⟨required, resolved⟩ := judged.resolved
  refine ⟨required, resolved, ?_⟩
  -- what a schedule has collected is looked at only where no direct keys are asked for
  by_cases signs : ∃ schedule, transaction.body.operation = .signSchedule schedule
  · obtain ⟨schedule, signs⟩ := signs
    rw [RequiredKey.directKeys_of_flagged (Resolver.flagged_of_signSchedule signs resolved)]
    simp [AcceptedTransaction.Authorizes]
  · have authorized := judged.authorizes honest
      (SignatureViews.serves_others_of (not_exists.mp signs))
    rwa [resolved] at authorized

end ConsensusCheck

namespace Service

/-- Authority at ingest and at consensus, whatever the map of the transaction holds, be it readable
or not, and however little the verifier does. -/
theorem authority_is_signed (service : Service) (honest : service.verifier.Honest)
    (transaction : AcceptedTransaction) :
    (service.admits transaction = .ok true →
      ∃ info keys, service.ledger.account transaction.body.payer = .ok info ∧ info.key ∈ keys ∧
        IngestCheck.Requires service.ingest.resolver service.config.node transaction.body keys ∧
        transaction.Backs keys ∧
        ∃ leaf, Key.Occurs (.simple leaf) info.key ∧
          Vouched transaction.Carries transaction.envelope.body keys leaf.bytes) ∧
    ∀ verdict, service.verdict transaction = .ok verdict → verdict.isAuthorized = true →
      ∃ info required, service.ledger.account transaction.body.payer = .ok info ∧
        service.consensus.resolver.otherKeys transaction.body = .ok required ∧
        transaction.Backs [info.key] ∧ transaction.Backs (RequiredKey.directKeys required) ∧
        ∃ leaf, Key.Occurs (.simple leaf) info.key ∧
          Vouched transaction.Carries transaction.envelope.body [info.key] leaf.bytes := by
  constructor
  · intro admitted
    obtain ⟨keys, requires, holds⟩ := (IngestCheck.admits_eq_true_iff _).mp admitted
    have backed := (IngestCheck.authorizes_of_honest honest holds).backs
    obtain ⟨info, found, member⟩ := requires.payer_mem
    exact ⟨info, keys, found, member, requires, backed, (backed _ member).signed_leaf⟩
  · intro verdict returned authorized
    rw [Verdict.isAuthorized, Bool.and_eq_true] at authorized
    obtain ⟨info, found, payer⟩ :=
      ConsensusCheck.payer_authorizes honest returned authorized.1
    obtain ⟨required, resolved, others⟩ :=
      ConsensusCheck.others_authorize honest returned authorized.2
    exact ⟨info, required, found, resolved, payer.backs, others.backs,
      (payer.backs _ (List.mem_singleton_self _)).signed_leaf⟩

theorem payment_is_signed :
    Verifier.Honest batchVerifier ∧
      Service.admits ⟨.standard, Sample.ledger, fun _ => [], batchVerifier⟩ Sample.payment =
        .ok true ∧
      ∃ info keys, Sample.ledger.account ⟨0, 0, 2⟩ = .ok info ∧ info.key ∈ keys ∧
        Sample.payment.Backs keys ∧
        ∃ leaf, Key.Occurs (.simple leaf) info.key ∧
          Vouched Sample.payment.Carries Sample.paymentBytes keys leaf.bytes := by
  have admitted : Service.admits ⟨.standard, Sample.ledger, fun _ => [], batchVerifier⟩
      Sample.payment = .ok true := Sample.payment_admits false
  obtain ⟨info, keys, found, member, _, backed, leaf⟩ :=
    (authority_is_signed ⟨.standard, Sample.ledger, fun _ => [], batchVerifier⟩
      Verifier.honest_batchVerifier Sample.payment).1 admitted
  exact ⟨Verifier.honest_batchVerifier, admitted, info, keys, found, member, backed, leaf⟩

end Service

end Signatory
