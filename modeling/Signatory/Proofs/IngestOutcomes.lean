import Signatory.Proofs.Admission
import Signatory.Proofs.Unreadable

/-!
How the check at ingest ends, with any verifier. Its stages come in a fixed order, and the first
that is not passed tells the end: the payer, then the other parties of a query payment, then the
creation of the records, then the verifier. Main statement: this is how it ends and nothing else is,
so that no signature in a map that can be read makes it fail but one that is too long for a record.
-/
namespace Signatory

namespace IngestError

theorem ofOrderError_of_not_missing {e : OrderError}
    (other : ∀ account : AccountId, e ≠ ⟨.missingAccount, some account.entity⟩) :
    ofOrderError e = .unresolvable e := by
  unfold ofOrderError
  split
  · rename_i account
    exact absurd rfl (other account)
  · rfl

end IngestError

namespace IngestCheck

/-- How the check ends: each way belongs to a stage, and asks that the stages before it have been
passed. Keys are required only where the payer is found and, of a query payment, all parties are. -/
inductive Ends (check : IngestCheck) (transaction : AcceptedTransaction) :
    Except IngestError Bool → Prop where
  | payerLost {failure : LookupFailure}
      (lost : check.resolver.ledger.account transaction.body.payer = .error failure) :
      Ends check transaction (.ok false)
  | partyMissing {info : AccountInfo} {account : AccountId}
      (found : check.resolver.ledger.account transaction.body.payer = .ok info)
      (pays : transaction.body.PaysForQuery check.node)
      (unresolved : check.resolver.otherKeys transaction.body =
        .error ⟨.missingAccount, some account.entity⟩) :
      Ends check transaction (.error (.missingParty account))
  | unresolvable {info : AccountInfo} {e : OrderError}
      (found : check.resolver.ledger.account transaction.body.payer = .ok info)
      (pays : transaction.body.PaysForQuery check.node)
      (unresolved : check.resolver.otherKeys transaction.body = .error e)
      (other : ∀ account : AccountId, e ≠ ⟨.missingAccount, some account.entity⟩) :
      Ends check transaction (.error (.unresolvable e))
  | unreadable {keys : List Key} {cause : TransactionError}
      (requires : Requires check.resolver check.node transaction.body keys)
      (unreadable : transaction.Unreadable keys cause) :
      Ends check transaction (.error (.records (.source (.malformedMap cause))))
  | oversized {keys : List Key} {length : Nat}
      (requires : Requires check.resolver check.node transaction.body keys)
      (readable : ∀ cause, ¬ transaction.Unreadable keys cause)
      (long : RecordCreation.Overlong transaction.Offers transaction.envelope.body keys length)
      (created : recordsFor transaction keys = .error (.oversized length)) :
      Ends check transaction (.error (.records (.oversized length)))
  | unverified {keys : List Key} {records : List SignatureRecord} {e : VerifierError}
      (requires : Requires check.resolver check.node transaction.body keys)
      (readable : ∀ cause, ¬ transaction.Unreadable keys cause)
      (created : recordsFor transaction keys = .ok records)
      (rejected : check.verifier records = .error e) :
      Ends check transaction (.error (.verifier e))
  | answered {keys : List Key} {records verified : List SignatureRecord}
      (requires : Requires check.resolver check.node transaction.body keys)
      (readable : ∀ cause, ¬ transaction.Unreadable keys cause)
      (created : recordsFor transaction keys = .ok records)
      (checked : check.verifier records = .ok verified) :
      Ends check transaction (.ok (allActive keys (.ofRecords verified)))

variable {check : IngestCheck} {transaction : AcceptedTransaction} {keys : List Key}

theorem recordsFor_of_unreadable {cause : TransactionError}
    (unreadable : transaction.Unreadable keys cause) :
    recordsFor transaction keys = .error (.source (.malformedMap cause)) :=
  RecordCreation.complete_of_failsWith (SignatureViews.failsWith_uncollected unreadable.malformed)
    transaction.signedBytes unreadable.present

theorem oversized_of_recordsFor {e : RecordError}
    (readable : ∀ cause, ¬ transaction.Unreadable keys cause)
    (failed : recordsFor transaction keys = .error e) : ∃ length, e = .oversized length := by
  rcases AcceptedTransaction.readable_or_absent readable with ⟨pairs, read⟩ | absent
  · exact RecordCreation.oversized_of_error (SignatureViews.readable_uncollected read) failed
  · cases failed.symm.trans (RecordCreation.complete_of_not_anyPresent _ _ absent)

theorem admits_of_unresolved {info : AccountInfo} {e : OrderError}
    (found : check.resolver.ledger.account transaction.body.payer = .ok info)
    (pays : transaction.body.PaysForQuery check.node)
    (unresolved : check.resolver.otherKeys transaction.body = .error e) :
    check.admits transaction = .error (.ofOrderError e) := by
  have further : check.furtherKeys transaction.body = .error (.ofOrderError e) := by
    rw [furtherKeys, if_pos ((TransactionBody.isQueryPayment_iff _ _).mpr pays), unresolved]
    rfl
  rw [admits_of_found found, further]
  rfl

theorem Ends.admits_eq {outcome : Except IngestError Bool}
    (ends : check.Ends transaction outcome) : check.admits transaction = outcome := by
  cases ends with
  | payerLost lost => exact admits_of_lost lost
  | partyMissing found pays unresolved => exact admits_of_unresolved found pays unresolved
  | unresolvable found pays unresolved other =>
    rw [admits_of_unresolved found pays unresolved, IngestError.ofOrderError_of_not_missing other]
  | unreadable requires unreadable =>
    rw [admits_of_requires requires]
    exact (satisfied_eq_records_iff ..).mpr (recordsFor_of_unreadable unreadable)
  | oversized requires readable long created =>
    rw [admits_of_requires requires]
    exact (satisfied_eq_records_iff ..).mpr created
  | unverified requires readable created rejected =>
    rw [admits_of_requires requires, satisfied_of_recordsFor created, rejected]
    rfl
  | answered requires readable created checked =>
    rw [admits_of_requires requires, satisfied_of_recordsFor created, checked]
    rfl

theorem exists_ends_of_requires
    (requires : Requires check.resolver check.node transaction.body keys) :
    ∃ outcome, check.Ends transaction outcome := by
  by_cases unreadable : ∃ cause, transaction.Unreadable keys cause
  · obtain ⟨cause, unreadable⟩ := unreadable
    exact ⟨_, .unreadable requires unreadable⟩
  · have readable := not_exists.mp unreadable
    cases created : recordsFor transaction keys with
    | error e =>
      obtain ⟨length, rfl⟩ := oversized_of_recordsFor readable created
      have long := RecordCreation.overlong_of_oversized SignatureViews.gives_all_uncollected created
      exact ⟨_, .oversized requires readable long created⟩
    | ok records =>
      cases checked : check.verifier records with
      | error e => exact ⟨_, .unverified requires readable created checked⟩
      | ok verified => exact ⟨_, .answered requires readable created checked⟩

theorem exists_ends (check : IngestCheck) (transaction : AcceptedTransaction) :
    ∃ outcome, check.Ends transaction outcome := by
  cases found : check.resolver.ledger.account transaction.body.payer with
  | error failure => exact ⟨_, .payerLost found⟩
  | ok info =>
    by_cases pays : transaction.body.PaysForQuery check.node
    · cases resolved : check.resolver.otherKeys transaction.body with
      | ok others => exact exists_ends_of_requires (.everyone found pays resolved)
      | error e =>
        by_cases missing : ∃ account : AccountId, e = ⟨.missingAccount, some account.entity⟩
        · obtain ⟨account, rfl⟩ := missing
          exact ⟨_, .partyMissing found pays resolved⟩
        · exact ⟨_, .unresolvable found pays resolved (not_exists.mp missing)⟩
    · exact exists_ends_of_requires (.payer found pays)

end IngestCheck

namespace Sample

def unreadablePayment : AcceptedTransaction := ⟨⟨paymentBytes, [255]⟩, payment.body, by cbv⟩

theorem unreadablePayment_malformed :
    SignatureMap.decode unreadablePayment.envelope.signatureMap =
      .error (.malformedSignatureMap .reservedMarker) := by
  cbv

def outage : Verifier := fun _ => .error (.unavailable "")

end Sample

namespace IngestCheck

end IngestCheck

end Signatory
