import Signatory.Ingest
import Signatory.Proofs.Authority

/-!
What a transaction needs to be admitted. Main statement: it is admitted just if its parties can be
told and every key that is asked for is satisfied by the leaves that the transaction's own
signatures vouch for, unless a record for one of these keys is too long to be made.
-/
namespace Signatory

def TransactionBody.PaysForQuery (node : AccountId) (body : TransactionBody) : Prop :=
  ∃ transfers, body.operation = .plain (.transfer transfers) ∧
    ∃ transfer ∈ transfers, transfer.account = node ∧ 0 < transfer.amount

theorem TransactionBody.isQueryPayment_iff (node : AccountId) (body : TransactionBody) :
    body.isQueryPayment node = true ↔ body.PaysForQuery node := by
  unfold isQueryPayment PaysForQuery
  split
  · rename_i transfers same
    simp [same]
  · rename_i other
    simp only [Bool.false_eq_true, false_iff]
    rintro ⟨transfers, same, _⟩
    exact other transfers same

namespace IngestCheck

/-- The keys that a node asks for: the payer's, and everyone's if the transaction pays the node for
a query. There are none to ask for if one of the parties cannot be told. -/
inductive Requires (resolver : Resolver) (node : AccountId) (body : TransactionBody) :
    List Key → Prop where
  | payer {info : AccountInfo} (found : resolver.ledger.account body.payer = .ok info)
      (free : ¬ body.PaysForQuery node) : Requires resolver node body [info.key]
  | everyone {info : AccountInfo} {others : List RequiredKey}
      (found : resolver.ledger.account body.payer = .ok info) (pays : body.PaysForQuery node)
      (resolved : resolver.otherKeys body = .ok others) :
      Requires resolver node body (info.key :: others.map RequiredKey.key)

variable {resolver : Resolver} {node : AccountId} {transaction : AcceptedTransaction}

theorem furtherKeys_eq_ok_iff (check : IngestCheck) (body : TransactionBody)
    (others : List RequiredKey) :
    check.furtherKeys body = .ok others ↔
      (body.PaysForQuery check.node ∧ check.resolver.otherKeys body = .ok others) ∨
        (¬ body.PaysForQuery check.node ∧ others = []) := by
  unfold furtherKeys
  by_cases pays : body.PaysForQuery check.node
  · simp [(TransactionBody.isQueryPayment_iff check.node body).mpr pays, pays, mapError_eq_ok_iff]
  · rw [if_neg (fun payment => pays ((TransactionBody.isQueryPayment_iff _ _).mp payment))]
    simp [pays, eq_comm]

theorem furtherKeys_ne_records (check : IngestCheck) (body : TransactionBody) (e : RecordError) :
    check.furtherKeys body ≠ .error (.records e) := by
  unfold furtherKeys
  split
  · cases check.resolver.otherKeys body with
    | ok others => nofun
    | error cause =>
      simp only [Except.mapError, ne_eq, Except.error.injEq]
      unfold IngestError.ofOrderError
      split <;> nofun
  · nofun

theorem admits_of_lost {check : IngestCheck} {failure : LookupFailure}
    (lost : check.resolver.ledger.account transaction.body.payer = .error failure) :
    check.admits transaction = .ok false := by
  have unpaid : check.resolver.payerKeys transaction.body =
      .error ⟨.invalidPayerAccount, some transaction.body.payer.entity⟩ := by
    rw [Resolver.payerKeys_eq, lost]
    rfl
  rw [admits, unpaid]

theorem admits_of_found {check : IngestCheck} {info : AccountInfo}
    (found : check.resolver.ledger.account transaction.body.payer = .ok info) :
    check.admits transaction = (check.furtherKeys transaction.body).bind fun others =>
      check.satisfied transaction (info.key :: others.map RequiredKey.key) := by
  rw [admits, Resolver.payerKeys_eq_ok_iff.mpr ⟨info, found, rfl⟩]
  rfl

theorem admits_of_requires {check : IngestCheck} {keys : List Key}
    (requires : Requires check.resolver check.node transaction.body keys) :
    check.admits transaction = check.satisfied transaction keys := by
  cases requires with
  | payer found free =>
    have further := (furtherKeys_eq_ok_iff check transaction.body []).mpr (.inr ⟨free, rfl⟩)
    rw [admits_of_found found, further]
    rfl
  | @everyone info others found pays resolved =>
    have further := (furtherKeys_eq_ok_iff check transaction.body others).mpr
      (.inl ⟨pays, resolved⟩)
    rw [admits_of_found found, further]
    rfl

theorem admits_eq_true_iff (check : IngestCheck) :
    check.admits transaction = .ok true ↔
      ∃ keys, Requires check.resolver check.node transaction.body keys ∧
        check.satisfied transaction keys = .ok true := by
  constructor
  · intro admitted
    cases found : check.resolver.ledger.account transaction.body.payer with
    | error failure =>
      rw [admits_of_lost found] at admitted
      cases admitted
    | ok info =>
      rw [admits_of_found found] at admitted
      obtain ⟨others, further, holds⟩ := bind_eq_ok_iff.mp admitted
      rcases (furtherKeys_eq_ok_iff ..).mp further with ⟨pays, resolved⟩ | ⟨free, rfl⟩
      · exact ⟨_, .everyone found pays resolved, holds⟩
      · exact ⟨_, .payer found free, holds⟩
  · rintro ⟨keys, requires, holds⟩
    rwa [admits_of_requires requires]

theorem Requires.ne_nil {body : TransactionBody} {keys : List Key}
    (requires : Requires resolver node body keys) : keys ≠ [] := by
  cases requires <;> simp

def recordsFor (transaction : AcceptedTransaction) (keys : List Key) :
    Except RecordError (List SignatureRecord) :=
  (RecordCreation.ofKeys (SignatureViews.uncollected transaction).all transaction.signedBytes
    keys).complete

theorem satisfied_eq_ok_iff (check : IngestCheck) (keys : List Key) (answer : Bool) :
    check.satisfied transaction keys = .ok answer ↔
      ∃ records verified, recordsFor transaction keys = .ok records ∧
        check.verifier records = .ok verified ∧ allActive keys (.ofRecords verified) = answer := by
  simp only [satisfied, recordsFor, bind_eq_ok_iff, mapError_eq_ok_iff, pure, Except.pure,
    Except.ok.injEq, exists_and_left]

theorem satisfied_of_recordsFor {check : IngestCheck} {keys : List Key}
    {records : List SignatureRecord} (created : recordsFor transaction keys = .ok records) :
    check.satisfied transaction keys =
      ((check.verifier records).mapError .verifier).map fun verified =>
        allActive keys (.ofRecords verified) := by
  unfold recordsFor at created
  rw [satisfied, created]
  rfl

theorem satisfied_eq_records_iff (check : IngestCheck) (keys : List Key) (e : RecordError) :
    check.satisfied transaction keys = .error (.records e) ↔
      recordsFor transaction keys = .error e := by
  cases created : recordsFor transaction keys with
  | error cause =>
    unfold recordsFor at created
    rw [satisfied, created]
    simp [Except.mapError, bind, Except.bind]
  | ok records =>
    rw [satisfied_of_recordsFor created]
    cases check.verifier records <;> simp [Except.mapError, Except.map]

theorem Requires.unique {body : TransactionBody} {keys others : List Key}
    (one : Requires resolver node body keys) (two : Requires resolver node body others) :
    keys = others := by
  cases one with
  | payer found free =>
    cases two with
    | payer again _ =>
      cases found.symm.trans again
      rfl
    | everyone _ pays _ => exact absurd pays free
  | everyone found pays resolved =>
    cases two with
    | payer _ free => exact absurd pays free
    | everyone again _ same =>
      cases found.symm.trans again
      cases resolved.symm.trans same
      rfl

inductive Judged (transaction : AcceptedTransaction) (keys : List Key) :
    Except IngestError Bool → Prop where
  | answered {answer : Bool} (holds : answer = true ↔ transaction.Authorizes keys) :
      Judged transaction keys (.ok answer)
  | oversized {length : Nat} (long : RecordCreation.Overlong transaction.Offers
        transaction.envelope.body keys length) :
      Judged transaction keys (.error (.records (.oversized length)))

theorem judged_satisfied {pairs : SignatureMap}
    (read : SignatureMap.decode transaction.envelope.signatureMap = .ok pairs) (keys : List Key) :
    Judged transaction keys (satisfied ⟨resolver, batchVerifier, node⟩ transaction keys) := by
  cases created : recordsFor transaction keys with
  | ok records =>
    have active : allActive keys (.ofRecords (records.map SignatureRecord.verify)) = true ↔
        transaction.Authorizes keys :=
      RecordCreation.allActive_verified SignatureViews.serves_all_uncollected created
    rw [(satisfied_eq_ok_iff _ _ _).mpr ⟨records, _, created, batchVerifier_eq records, rfl⟩]
    exact .answered active
  | error e =>
    obtain ⟨length, rfl⟩ :=
      RecordCreation.oversized_of_error (SignatureViews.readable_uncollected read) created
    rw [(satisfied_eq_records_iff _ _ _).mpr created]
    exact .oversized
      (RecordCreation.overlong_of_oversized SignatureViews.gives_all_uncollected created)

theorem authorizes_of_satisfied {keys : List Key}
    (holds : satisfied ⟨resolver, batchVerifier, node⟩ transaction keys = .ok true) :
    transaction.Authorizes keys := by
  obtain ⟨records, verified, created, checked, active⟩ := (satisfied_eq_ok_iff _ _ _).mp holds
  cases (batchVerifier_eq records).symm.trans checked
  exact (RecordCreation.allActive_verified SignatureViews.serves_all_uncollected created).mp active

theorem satisfied_eq_true_iff (keys : List Key) (asked : keys ≠ []) :
    satisfied ⟨resolver, batchVerifier, node⟩ transaction keys = .ok true ↔
      transaction.Authorizes keys ∧ ∀ length,
        satisfied ⟨resolver, batchVerifier, node⟩ transaction keys ≠
          .error (.records (.oversized length)) := by
  constructor
  · intro holds
    rw [holds]
    exact ⟨authorizes_of_satisfied holds, nofun⟩
  · rintro ⟨authorized, made⟩
    obtain ⟨pairs, read⟩ := authorized.read asked
    have judged : Judged transaction keys
        (satisfied ⟨resolver, batchVerifier, node⟩ transaction keys) := judged_satisfied read keys
    generalize satisfied _ transaction keys = outcome at judged made ⊢
    cases judged with
    | answered holds => rw [holds.mpr authorized]
    | oversized long => exact absurd rfl (made _)

theorem admits_iff_authorizes (resolver : Resolver) (node : AccountId)
    (transaction : AcceptedTransaction) :
    admits ⟨resolver, batchVerifier, node⟩ transaction = .ok true ↔
      (∃ keys, Requires resolver node transaction.body keys ∧ transaction.Authorizes keys) ∧
        ∀ length, admits ⟨resolver, batchVerifier, node⟩ transaction ≠
          .error (.records (.oversized length)) := by
  rw [admits_eq_true_iff]
  constructor
  · rintro ⟨keys, requires, holds⟩
    rw [admits_of_requires requires, holds]
    exact ⟨⟨keys, requires, authorizes_of_satisfied holds⟩, nofun⟩
  · rintro ⟨⟨keys, requires, authorized⟩, made⟩
    rw [admits_of_requires requires] at made
    exact ⟨keys, requires, (satisfied_eq_true_iff keys requires.ne_nil).mpr ⟨authorized, made⟩⟩

theorem exists_requires_of_records {check : IngestCheck} {e : RecordError}
    (failed : check.admits transaction = .error (.records e)) :
    ∃ keys, Requires check.resolver check.node transaction.body keys ∧
      check.satisfied transaction keys = .error (.records e) := by
  cases found : check.resolver.ledger.account transaction.body.payer with
  | error failure =>
    rw [admits_of_lost found] at failed
    cases failed
  | ok info =>
    rw [admits_of_found found] at failed
    cases further : check.furtherKeys transaction.body with
    | ok others =>
      rw [further] at failed
      rcases (furtherKeys_eq_ok_iff ..).mp further with ⟨pays, resolved⟩ | ⟨free, rfl⟩
      · exact ⟨_, .everyone found pays resolved, failed⟩
      · exact ⟨_, .payer found free, failed⟩
    | error cause =>
      rw [further] at failed
      cases failed
      exact absurd further (furtherKeys_ne_records check transaction.body e)

/-- A record for a key that is asked for has a part of this length, which is too long for a word. -/
def Unaddressable (resolver : Resolver) (node : AccountId) (transaction : AcceptedTransaction)
    (length : Nat) : Prop :=
  ∃ keys, Requires resolver node transaction.body keys ∧
    RecordCreation.Overlong transaction.Offers transaction.envelope.body keys length

theorem unaddressable_of_admits {check : IngestCheck} {length : Nat}
    (failed : check.admits transaction = .error (.records (.oversized length))) :
    Unaddressable check.resolver check.node transaction length := by
  obtain ⟨keys, requires, failed⟩ := exists_requires_of_records failed
  rw [satisfied_eq_records_iff] at failed
  exact ⟨keys, requires,
    RecordCreation.overlong_of_oversized SignatureViews.gives_all_uncollected failed⟩

theorem unaddressable_of_error_of_free {pairs : SignatureMap} {e : IngestError}
    (read : SignatureMap.decode transaction.envelope.signatureMap = .ok pairs)
    (free : ¬ transaction.body.PaysForQuery node)
    (failed : admits ⟨resolver, batchVerifier, node⟩ transaction = .error e) :
    ∃ length, e = .records (.oversized length) ∧
      Unaddressable resolver node transaction length := by
  cases found : resolver.ledger.account transaction.body.payer with
  | error failure => cases (admits_of_lost found).symm.trans failed
  | ok info =>
    have requires : Requires resolver node transaction.body [info.key] := .payer found free
    have judged : Judged transaction [info.key]
        (satisfied ⟨resolver, batchVerifier, node⟩ transaction [info.key]) :=
      judged_satisfied read _
    rw [admits_of_requires requires] at failed
    rw [failed] at judged
    cases judged with
    | oversized long => exact ⟨_, rfl, _, requires, long⟩

end IngestCheck

namespace Sample

theorem payment_pays : payment.body.PaysForQuery ⟨0, 0, 3⟩ :=
  ⟨_, rfl, _, List.mem_cons_of_mem _ (List.mem_singleton_self _), rfl, by decide⟩

theorem payment_requires (included : Bool) : IngestCheck.Requires ⟨ledger, included⟩ ⟨0, 0, 3⟩
    payment.body [.simple signer, .simple signer] :=
  @IngestCheck.Requires.everyone _ _ _ ⟨.simple signer, false⟩ [.direct (.simple signer)] rfl
    payment_pays rfl

theorem payment_admits (included : Bool) :
    IngestCheck.admits ⟨⟨ledger, included⟩, batchVerifier, ⟨0, 0, 3⟩⟩ payment = .ok true := by
  rw [IngestCheck.admits_iff_authorizes]
  refine ⟨⟨_, payment_requires included, payment_authorizes (by simp)⟩, fun length failed => ?_⟩
  obtain ⟨keys, requires, long⟩ := IngestCheck.unaddressable_of_admits failed
  cases requires.unique (payment_requires included)
  exact payment_not_overlong (by simp) length long

end Sample

namespace IngestCheck

end IngestCheck

end Signatory
