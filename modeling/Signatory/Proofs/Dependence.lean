import Signatory.Proofs.Agreement
import Signatory.Proofs.Signatories

/-!
What the two checks of a node depend on, told by comparing runs that differ in everything else. Main
statements: what schedules have collected changes nothing of the check at consensus but whom it
names, unless a record with what is collected is too long to be made, and changes nothing at all
unless the transaction signs a schedule; and the check at ingest depends on the account of the payer
alone and, for a payment to the node, on the accounts that are adjusted.
-/
namespace Signatory

inductive Alike {ε α : Type} (related : α → α → Prop) : Except ε α → Except ε α → Prop where
  | failed (e : ε) : Alike related (.error e) (.error e)
  | answered {one two : α} (both : related one two) : Alike related (.ok one) (.ok two)

namespace Alike

variable {ε δ α β : Type} {related : α → α → Prop} {further : β → β → Prop}
  {one two : Except ε α}

theorem refl (same : ∀ value, related value value) (outcome : Except ε α) :
    Alike related outcome outcome := by
  cases outcome with
  | error e => exact .failed e
  | ok value => exact .answered (same value)

theorem bind {f g : α → Except ε β} (alike : Alike related one two)
    (next : ∀ first second, related first second → Alike further (f first) (g second)) :
    Alike further (one >>= f) (two >>= g) := by
  cases alike with
  | failed e => exact .failed e
  | answered both => exact next _ _ both

theorem bind_same (outcome : Except ε α) {f g : α → Except ε β}
    (next : ∀ value, Alike further (f value) (g value)) :
    Alike further (outcome >>= f) (outcome >>= g) := by
  cases outcome with
  | error e => exact .failed e
  | ok value => exact next value

theorem mapError (alike : Alike related one two) (rename : ε → δ) :
    Alike related (one.mapError rename) (two.mapError rename) := by
  cases alike with
  | failed e => exact .failed (rename e)
  | answered both => exact .answered both

end Alike

/-- The computations are alike, or one of them fails with an error that is excepted of it. -/
def AlikeUnless {ε α : Type} (excepted exempted : ε → Prop) (related : α → α → Prop)
    (one two : Except ε α) : Prop :=
  Alike related one two ∨ (∃ e, one = .error e ∧ excepted e) ∨ ∃ e, two = .error e ∧ exempted e

namespace AlikeUnless

variable {ε δ α β : Type} {excepted exempted : ε → Prop} {related : α → α → Prop}
  {further : β → β → Prop} {one two : Except ε α}

theorem bind {f g : α → Except ε β} (alike : AlikeUnless excepted exempted related one two)
    (next : ∀ first second, related first second →
      AlikeUnless excepted exempted further (f first) (g second)) :
    AlikeUnless excepted exempted further (one >>= f) (two >>= g) := by
  rcases alike with alike | ⟨e, rfl, own⟩ | ⟨e, rfl, own⟩
  · cases alike with
    | failed e => exact .inl (.failed e)
    | answered both => exact next _ _ both
  · exact .inr (.inl ⟨e, rfl, own⟩)
  · exact .inr (.inr ⟨e, rfl, own⟩)

theorem bind_same (outcome : Except ε α) {f g : α → Except ε β}
    (next : ∀ value, AlikeUnless excepted exempted further (f value) (g value)) :
    AlikeUnless excepted exempted further (outcome >>= f) (outcome >>= g) := by
  cases outcome with
  | error e => exact .inl (.failed e)
  | ok value => exact next value

theorem mapError (alike : AlikeUnless excepted exempted related one two) {rename : ε → δ}
    {others further : δ → Prop} (first : ∀ e, one = .error e → excepted e → others (rename e))
    (second : ∀ e, two = .error e → exempted e → further (rename e)) :
    AlikeUnless others further related (one.mapError rename) (two.mapError rename) := by
  rcases alike with alike | ⟨e, rfl, own⟩ | ⟨e, rfl, own⟩
  · exact .inl (alike.mapError rename)
  · exact .inr (.inl ⟨_, rfl, first e rfl own⟩)
  · exact .inr (.inr ⟨_, rfl, second e rfl own⟩)

end AlikeUnless

structure SignatureRecord.SameTask (one two : SignatureRecord) : Prop where
  key : one.key = two.key
  message : one.message = two.message
  status : one.status = two.status

/-- Whether the verifier fails, and how, does not depend on the signatures in the batch. -/
def Verifier.FailsAlike (verifier : Verifier) : Prop :=
  ∀ records others, List.Forall₂ SignatureRecord.SameTask records others →
    Alike (fun _ _ => True) (verifier records) (verifier others)

theorem Verifier.failsAlike_batchVerifier : Verifier.FailsAlike batchVerifier := by
  intro records others _
  rw [batchVerifier_eq, batchVerifier_eq]
  exact .answered trivial

namespace SignatureSource

def AnswerAlike (one two : SignatureSource) : Prop :=
  ∀ publicKey, Alike (fun _ _ => True) (one.signature? publicKey) (two.signature? publicKey)

def ListAlike (one two : SignatureSource) : Prop :=
  ∀ publicKey, Alike (fun _ _ => True) (one.candidates publicKey) (two.candidates publicKey)

theorem listAlike_chained (source : SignatureSource) (signatures others : Table Bytes Bytes) :
    ListAlike (.chained source (.accumulated signatures))
      (.chained source (.accumulated others)) := by
  intro publicKey
  exact Alike.bind_same (source.candidates publicKey) fun _ => .answered trivial

variable {one two : SignatureSource} {signed : Bytes}

theorem ListAlike.verifying (alike : ListAlike one two) :
    ListAlike (.verifying one signed) (.verifying two signed) := by
  intro publicKey
  exact (alike publicKey).bind fun _ _ _ => .answered trivial

theorem ListAlike.answerAlike (alike : ListAlike one two) :
    AnswerAlike (.verifying one signed) (.verifying two signed) := by
  intro publicKey
  exact (alike.verifying publicKey).bind fun _ _ _ => .answered trivial

end SignatureSource

def RecordError.IsOversized (e : RecordError) : Prop :=
  ∃ length, e = .oversized length

theorem SignatureRecord.create_alike (key : PublicKey) (one two message : Bytes) :
    AlikeUnless RecordError.IsOversized RecordError.IsOversized SameTask (create key one message)
      (create key two message) := by
  have ends := create_ends key one message
  have others := create_ends key two message
  generalize create key one message = outcome, create key two message = other at ends others ⊢
  cases ends with
  | oversized => exact .inr (.inl ⟨_, rfl, _, rfl⟩)
  | made =>
    cases others with
    | oversized => exact .inr (.inr ⟨_, rfl, _, rfl⟩)
    | made => exact .inl (.answered ⟨rfl, rfl, rfl⟩)

namespace RecordCreation

variable {one two : SignatureSource}

theorem recordFor_alike (alike : one.AnswerAlike two) (message : Bytes) (leaf : PublicKey) :
    AlikeUnless RecordError.IsOversized RecordError.IsOversized
      (fun made other => List.Forall₂ SignatureRecord.SameTask made.toList other.toList)
      (recordFor one message leaf) (recordFor two message leaf) := by
  unfold recordFor
  split
  · exact .inl (.answered .nil)
  · refine AlikeUnless.bind (.inl ((alike leaf.bytes).mapError _)) fun found other _ => ?_
    refine (SignatureRecord.create_alike leaf _ _ message).bind fun made another same => ?_
    exact .inl (.answered (.cons same .nil))

theorem complete_alike (alike : one.AnswerAlike two) (message : Bytes) (keys : List Key) :
    AlikeUnless RecordError.IsOversized RecordError.IsOversized
      (List.Forall₂ SignatureRecord.SameTask) (ofKeys one message keys).complete
      (ofKeys two message keys).complete := by
  unfold ofKeys
  induction keys.flatMap Key.leaves with
  | nil => exact .inl (.answered .nil)
  | cons leaf leaves ih =>
    rw [complete_ofLeaves_cons, complete_ofLeaves_cons]
    refine (recordFor_alike alike message leaf).bind fun made other same => ?_
    refine ih.bind fun rest others both => ?_
    exact .inl (.answered (List.rel_append same both))

end RecordCreation

namespace SignatureViews

variable {transaction : AcceptedTransaction} (collected elsewhere : CollectedSignatures)

theorem payer_of_eq :
    (SignatureViews.of transaction collected).payer =
      (SignatureViews.of transaction elsewhere).payer := by
  unfold SignatureViews.of
  split
  · unfold ofCollected
    split <;> rfl
  · rfl

theorem of_eq_of_not_signs
    (signs : ∀ schedule, transaction.body.operation ≠ .signSchedule schedule) :
    SignatureViews.of transaction collected = SignatureViews.of transaction elsewhere := by
  unfold SignatureViews.of
  split
  · unfold ofCollected
    split
    · rename_i schedule same
      exact absurd same (signs schedule)
    all_goals rfl
  · rfl

theorem others_of_listAlike {schedule : ScheduleId}
    (signs : transaction.body.operation = .signSchedule schedule) :
    (SignatureViews.of transaction collected).others.ListAlike
      (SignatureViews.of transaction elsewhere).others := by
  have own (kept : CollectedSignatures) : SignatureViews.of transaction kept =
      ofSchedule transaction (kept schedule) := by
    simp [SignatureViews.of, ofCollected, signs, Operation.collectsSignatures]
  rw [own, own]
  exact (SignatureSource.listAlike_chained _ _ _).verifying

end SignatureViews

/-- The verdicts differ in nothing but whom they name. -/
structure Verdict.SameRoles (one two : Verdict) : Prop where
  payerActive : one.payerActive = two.payerActive
  othersActive : one.othersActive = two.othersActive
  payerError : one.payerError = two.payerError
  othersError : one.othersError = two.othersError

namespace ConsensusCheck

variable {resolver : Resolver} {verifier : Verifier} {transaction : AcceptedTransaction}
  (collected elsewhere : CollectedSignatures)

theorem verdict_eq_of_not_signs
    (signs : ∀ schedule, transaction.body.operation ≠ .signSchedule schedule) :
    ConsensusCheck.verdict ⟨resolver, collected, verifier⟩ transaction =
      ConsensusCheck.verdict ⟨resolver, elsewhere, verifier⟩ transaction := by
  simp only [ConsensusCheck.verdict, scheduledRecords,
    SignatureViews.of_eq_of_not_signs collected elsewhere signs]

theorem scheduledRecords_alike {schedule : ScheduleId}
    (signs : transaction.body.operation = .signSchedule schedule) (keys : List Key) :
    AlikeUnless RecordError.IsOversized RecordError.IsOversized
      (List.Forall₂ SignatureRecord.SameTask)
      (scheduledRecords ⟨resolver, collected, verifier⟩ transaction.body
        (SignatureViews.of transaction collected).others keys)
      (scheduledRecords ⟨resolver, elsewhere, verifier⟩ transaction.body
        (SignatureViews.of transaction elsewhere).others keys) := by
  have alike := SignatureViews.others_of_listAlike collected elsewhere signs
  unfold scheduledRecords
  split
  · exact .inl (.answered .nil)
  · apply AlikeUnless.bind_same
    intro found
    cases found with
    | none => exact .inl (.failed _)
    | some operation =>
      apply AlikeUnless.bind_same
      intro message
      exact RecordCreation.complete_alike alike.answerAlike message keys

/-- The error of a record for the parties of the scheduled operation that is too long to be made,
given what is collected. -/
def OverlongScheduled (resolver : Resolver) (transaction : AcceptedTransaction)
    (collected : CollectedSignatures) (e : ConsensusError) : Prop :=
  ∃ length message, e = .records (.oversized length) ∧
    Collects resolver transaction.body message ∧
    RecordCreation.Overlong (transaction.Gathers collected) message
      (RequiredKey.scheduledKeys (resolver.otherKeys transaction.body).keys) length

theorem overlongScheduled_of_batch (check : ConsensusCheck) {e : RecordError}
    (failed : check.scheduledBatch transaction = .error e) (oversized : e.IsOversized) :
    OverlongScheduled check.resolver transaction check.collected (.records e) := by
  obtain ⟨length, rfl⟩ := oversized
  obtain ⟨message, collects, long⟩ := overlong_of_scheduledBatch failed
  exact ⟨length, message, rfl, collects, long⟩

theorem verdict_alike (steady : verifier.FailsAlike) :
    AlikeUnless (OverlongScheduled resolver transaction collected)
      (OverlongScheduled resolver transaction elsewhere) Verdict.SameRoles
      (ConsensusCheck.verdict ⟨resolver, collected, verifier⟩ transaction)
      (ConsensusCheck.verdict ⟨resolver, elsewhere, verifier⟩ transaction) := by
  by_cases signs : ∃ schedule, transaction.body.operation = .signSchedule schedule
  · obtain ⟨schedule, signs⟩ := signs
    have nobody : ((resolver.otherKeys transaction.body).keys.filter (!·.forScheduled)).map
        RequiredKey.key = [] := directKeys_of_signs signs
    have scheduled := (scheduledRecords_alike collected elsewhere signs _).mapError
      (fun _ => overlongScheduled_of_batch ⟨resolver, collected, verifier⟩)
      (fun _ => overlongScheduled_of_batch ⟨resolver, elsewhere, verifier⟩)
    -- with no direct key to speak for, the view of the others makes no records of theirs
    simp only [ConsensusCheck.verdict, SignatureViews.payer_of_eq collected elsewhere, nobody]
    apply AlikeUnless.bind_same
    intro payerRecords
    apply AlikeUnless.bind_same
    intro directRecords
    refine scheduled.bind fun scheduledRecords others same => ?_
    apply AlikeUnless.bind_same
    intro payerVerified
    apply AlikeUnless.bind_same
    intro directVerified
    refine AlikeUnless.bind (.inl ((steady scheduledRecords others same).mapError _)) ?_
    intro scheduledVerified othersVerified _
    exact .inl (.answered ⟨rfl, rfl, rfl, rfl⟩)
  · rw [verdict_eq_of_not_signs collected elsewhere (not_exists.mp signs)]
    exact .inl (.refl (fun _ => ⟨rfl, rfl, rfl, rfl⟩) _)

end ConsensusCheck

def TransactionBody.Adjusts (body : TransactionBody) (account : AccountId) : Prop :=
  ∃ transfers, body.operation = .plain (.transfer transfers) ∧
    ∃ transfer ∈ transfers, transfer.account = account

namespace Resolver

variable {one two : Resolver} {body : TransactionBody}

theorem otherKeys_congr_of_pays {node : AccountId} (pays : body.PaysForQuery node)
    (same : ∀ account, body.Adjusts account →
      one.ledger.account account = two.ledger.account account) :
    one.otherKeys body = two.otherKeys body := by
  obtain ⟨transfers, operation, _⟩ := pays
  have keys : (PlainOperation.transfer transfers).partyKeys one.ledger =
      (PlainOperation.transfer transfers).partyKeys two.ledger := by
    apply Party.resolveAll_congr
    intro party named
    obtain ⟨transfer, member, rfl⟩ := List.mem_map.mp named
    have found := same transfer.account ⟨transfers, operation, transfer, member, rfl⟩
    simp only [Party.resolve, Ledger.partyAccount, found]
  simp only [otherKeys_eq, requiredKeys, operation, keys]

end Resolver

namespace IngestCheck

variable {one two : IngestCheck} {transaction : AcceptedTransaction}

theorem satisfied_congr (same : one.verifier = two.verifier) (keys : List Key) :
    one.satisfied transaction keys = two.satisfied transaction keys := by
  simp only [satisfied, same]

theorem furtherKeys_congr (node : one.node = two.node) {body : TransactionBody}
    (same : body.PaysForQuery one.node →
      one.resolver.otherKeys body = two.resolver.otherKeys body) :
    one.furtherKeys body = two.furtherKeys body := by
  unfold furtherKeys
  rw [← node]
  split
  · rename_i payment
    rw [same ((TransactionBody.isQueryPayment_iff _ _).mp payment)]
  · rfl

end IngestCheck

namespace Service

/-- Two nodes with one account, whose ledgers, settings and collected signatures may differ, but for
the accounts named here, admit the same transactions and refuse the others alike. -/
theorem admits_reads_parties (one two : Service) (verifier : one.verifier = two.verifier)
    (node : one.config.node = two.config.node) (transaction : AcceptedTransaction)
    (payer : one.ledger.account transaction.body.payer =
      two.ledger.account transaction.body.payer)
    (parties : transaction.body.PaysForQuery one.config.node →
      ∀ account, transaction.body.Adjusts account →
        one.ledger.account account = two.ledger.account account) :
    one.admits transaction = two.admits transaction := by
  have paying : one.ingest.resolver.payerKeys transaction.body =
      two.ingest.resolver.payerKeys transaction.body := Resolver.payerKeys_congr payer
  have further : one.ingest.furtherKeys transaction.body =
      two.ingest.furtherKeys transaction.body := by
    apply IngestCheck.furtherKeys_congr node
    intro pays
    exact Resolver.otherKeys_congr_of_pays pays (parties pays)
  have judging : one.ingest.satisfied transaction = two.ingest.satisfied transaction :=
    funext fun keys => IngestCheck.satisfied_congr verifier keys
  unfold Service.admits IngestCheck.admits
  rw [paying, further, judging]

theorem payment_admitted_elsewhere :
    Service.admits
      ⟨{ ServiceConfig.standard with ingestScheduled := true, consensusScheduled := false },
        ⟨fun
          | .account, id =>
            if id = ⟨0, 0, 2⟩ ∨ id = ⟨0, 0, 3⟩ then Sample.ledger.account id else .error .deleted
          | .file, _ | .contract, _ | .topic, _ | .schedule, _ => .error .unusable⟩,
        fun _ => [([], [7])], batchVerifier⟩ Sample.payment = .ok true := by
  have admitted : (batching .standard Sample.ledger fun _ => []).admits Sample.payment =
      .ok true := Sample.payment_admits false
  rw [← admitted]
  apply admits_reads_parties
  · rfl
  · rfl
  · rfl
  · intro _ account adjusted
    obtain ⟨transfers, operation, transfer, member, rfl⟩ := adjusted
    cases operation
    simp only [List.mem_cons, List.not_mem_nil, or_false] at member
    rcases member with rfl | rfl <;> rfl

end Service

end Signatory
