import Signatory.Proofs.Deferral
import Signatory.Proofs.IngestOutcomes
import Signatory.Proofs.Signatories

/-!
How the check at consensus ends. All that is wrong with the parties, with their signatures or with
what is scheduled is said in the verdict. Main statement: where no part of a record is too long for
a word, the check fails for one reason only, that a signature is looked for in a map that cannot be
read.
-/
namespace Signatory

/-- All keys that could be told, whatever they are asked for: none of a role that could not. -/
def Resolver.resolvedKeys (resolver : Resolver) (body : TransactionBody) : List Key :=
  ((resolver.payerKeys body).keys ++ (resolver.otherKeys body).keys).map RequiredKey.key

namespace RequiredKey

theorem mem_map_key_iff (required : List RequiredKey) (asked : Key) :
    asked ∈ required.map key ↔ asked ∈ directKeys required ++ scheduledKeys required := by
  simp only [directKeys, scheduledKeys, List.mem_append, List.mem_map, List.mem_filter]
  constructor
  · rintro ⟨one, member, rfl⟩
    cases flagged : one.forScheduled with
    | false => exact .inl ⟨one, ⟨member, by simp [flagged]⟩, rfl⟩
    | true => exact .inr ⟨one, ⟨member, flagged⟩, rfl⟩
  · rintro (⟨one, ⟨member, _⟩, rfl⟩ | ⟨one, ⟨member, _⟩, rfl⟩)
    · exact ⟨one, member, rfl⟩
    · exact ⟨one, member, rfl⟩

end RequiredKey

theorem Resolver.anyPresent_resolvedKeys (resolver : Resolver) (body : TransactionBody) :
    Key.AnyPresent (resolver.resolvedKeys body) ↔
      Key.AnyPresent ((resolver.payerKeys body).keys.map RequiredKey.key) ∨
        Key.AnyPresent (RequiredKey.directKeys (resolver.otherKeys body).keys) ∨
        Key.AnyPresent (RequiredKey.scheduledKeys (resolver.otherKeys body).keys) := by
  rw [resolvedKeys, List.map_append, Key.anyPresent_append]
  apply or_congr_right
  rw [← Key.anyPresent_append]
  exact Key.anyPresent_congr (RequiredKey.mem_map_key_iff _)

namespace ConsensusCheck

variable {check : ConsensusCheck} {resolver : Resolver} {collected : CollectedSignatures}
  {transaction : AcceptedTransaction} {cause : TransactionError}

theorem verdict_of_unreadable
    (unreadable : transaction.Unreadable (check.resolver.resolvedKeys transaction.body) cause) :
    check.verdict transaction = .error (.records (.source (.malformedMap cause))) := by
  obtain ⟨payerFails, othersFails⟩ :=
    SignatureViews.failsWith_of unreadable.malformed check.collected
  obtain ⟨message, _, made⟩ := exists_scheduledRecords_eq check transaction.body
  obtain ⟨conclude, verdict⟩ := exists_verdict_eq check transaction
  have present := (Resolver.anyPresent_resolvedKeys _ _).mp unreadable.present
  rw [verdict]
  by_cases payer : Key.AnyPresent
      ((check.resolver.payerKeys transaction.body).keys.map RequiredKey.key)
  · rw [payerBatch, RecordCreation.complete_of_failsWith payerFails _ payer]
    rfl
  rw [payerBatch, RecordCreation.complete_of_not_anyPresent _ _ payer]
  by_cases direct : Key.AnyPresent
      (RequiredKey.directKeys (check.resolver.otherKeys transaction.body).keys)
  · rw [directBatch, RecordCreation.complete_of_failsWith othersFails _ direct]
    rfl
  rw [directBatch, RecordCreation.complete_of_not_anyPresent _ _ direct]
  have scheduled := (present.resolve_left payer).resolve_left direct
  rw [scheduledBatch, made,
    RecordCreation.complete_of_failsWith (othersFails.verifying message) _ scheduled]
  rfl

theorem exists_verdict_of_readable
    (short : ∀ length, ¬ Unaddressable resolver collected transaction length)
    (readable : ∀ cause, ¬ transaction.Unreadable (resolver.resolvedKeys transaction.body) cause) :
    ∃ verdict, ConsensusCheck.verdict ⟨resolver, collected, batchVerifier⟩ transaction =
      .ok verdict := by
  rcases AcceptedTransaction.readable_or_absent readable with ⟨pairs, read⟩ | absent
  · exact exists_verdict read short
  · rw [Resolver.anyPresent_resolvedKeys, not_or, not_or] at absent
    obtain ⟨payer, direct, scheduled⟩ := absent
    obtain ⟨message, _, made⟩ := exists_scheduledRecords_eq ⟨resolver, collected, batchVerifier⟩
      transaction.body
    obtain ⟨verdict, reached⟩ := exists_reached
      (RecordCreation.complete_of_not_anyPresent _ _ payer)
      (RecordCreation.complete_of_not_anyPresent _ _ direct)
      ((made (SignatureViews.of transaction collected).others).trans
        (RecordCreation.complete_of_not_anyPresent _ _ scheduled))
    exact ⟨verdict, verdict_eq_ok_iff.mpr ⟨_, _, _, reached⟩⟩

/-- What a verdict reports in place of an error: a role is not satisfied, or cannot be told, and
why; what is scheduled may be of a kind that cannot be, or have no bytes to sign. -/
structure Reports (resolver : Resolver) (transaction : AcceptedTransaction) (verdict : Verdict) :
    Prop where
  payerError : ∀ e, verdict.payerError = some e ↔ resolver.payerKeys transaction.body = .error e
  othersError : ∀ e, verdict.othersError = some e ↔ resolver.otherKeys transaction.body = .error e
  payerActive : verdict.payerActive = true ↔
    ∃ info, resolver.ledger.account transaction.body.payer = .ok info ∧
      transaction.Authorizes [info.key]
  othersActive : verdict.othersActive = true ↔
    ∃ required, resolver.otherKeys transaction.body = .ok required ∧
      transaction.Authorizes (RequiredKey.directKeys required)
  unschedulable : ∀ scheduled payer adminKey schedule,
    transaction.body.Defers resolver.ledger scheduled payer adminKey schedule →
    scheduled.isSchedulable = false →
    verdict.othersError = some ⟨.unschedulableTransaction, none⟩
  unencodable : ∀ scheduled payer adminKey schedule fault,
    transaction.body.Defers resolver.ledger scheduled payer adminKey schedule →
    scheduled.isSchedulable = true → resolver.includeScheduled = true →
    scheduled.encode = .error fault →
    verdict.othersError = some ⟨.generalError, schedule.map EntityId.entity⟩

theorem reports_of_returned {verdict : Verdict}
    (returned : ConsensusCheck.verdict ⟨resolver, collected, batchVerifier⟩ transaction =
      .ok verdict) : Reports resolver transaction verdict := by
  obtain ⟨_, _, _, reached⟩ := verdict_eq_ok_iff.mp returned
  have othersError (e : OrderError) :
      verdict.othersError = some e ↔ resolver.otherKeys transaction.body = .error e := by
    rw [reached.othersError, SigningOrder.error?_eq_some_iff]
  constructor
  case payerError =>
    intro e
    rw [reached.payerError, SigningOrder.error?_eq_some_iff]
  case othersError => exact othersError
  case payerActive => exact reached.payerActive_iff
  case othersActive => exact reached.others_satisfied_iff
  case unschedulable =>
    intro scheduled payer adminKey schedule defers unschedulable
    rw [othersError, Resolver.otherKeys_of_defers defers,
      Resolver.scheduledKeys_of_unschedulable unschedulable]
    rfl
  case unencodable =>
    intro scheduled payer adminKey schedule fault defers schedulable included unencodable
    rw [othersError, Resolver.otherKeys_of_defers defers,
      Resolver.scheduledKeys_of_unencodable schedulable included unencodable]
    rfl

/-- The only error of the check at consensus, over a ledger and whatever schedules have collected,
with a verifier that verifies every record itself, where words can tell all lengths. -/
theorem verdict_eq_error_iff_unreadable (resolver : Resolver) (collected : CollectedSignatures)
    (transaction : AcceptedTransaction)
    (short : ∀ length, ¬ Unaddressable resolver collected transaction length) :
    (∀ e, ConsensusCheck.verdict ⟨resolver, collected, batchVerifier⟩ transaction = .error e ↔
      ∃ cause, transaction.Unreadable (resolver.resolvedKeys transaction.body) cause ∧
        e = .records (.source (.malformedMap cause))) ∧
    ((∀ cause, ¬ transaction.Unreadable (resolver.resolvedKeys transaction.body) cause) →
      ∃ verdict, ConsensusCheck.verdict ⟨resolver, collected, batchVerifier⟩ transaction =
        .ok verdict ∧ Reports resolver transaction verdict) := by
  constructor
  · intro e
    constructor
    · intro failed
      by_cases unreadable :
          ∃ cause, transaction.Unreadable (resolver.resolvedKeys transaction.body) cause
      · obtain ⟨cause, unreadable⟩ := unreadable
        cases failed.symm.trans (verdict_of_unreadable unreadable)
        exact ⟨cause, unreadable, rfl⟩
      · obtain ⟨verdict, returned⟩ :=
          exists_verdict_of_readable short (not_exists.mp unreadable)
        cases failed.symm.trans returned
    · rintro ⟨cause, unreadable, rfl⟩
      exact verdict_of_unreadable unreadable
  · intro readable
    obtain ⟨verdict, returned⟩ := exists_verdict_of_readable short readable
    exact ⟨verdict, returned, reports_of_returned returned⟩

end ConsensusCheck

namespace Sample

def oversizedResolver : Resolver :=
  ⟨(LedgerTables.empty.putSchedule ⟨0, 0, 9⟩ ⟨none, ⟨0, 0, 2⟩, call 6144⟩).ledger, true⟩

theorem oversized_defers (signatureMap : Bytes) :
    (approval signatureMap).body.Defers oversizedResolver.ledger (call 6144) ⟨0, 0, 2⟩ none
      (some ⟨0, 0, 9⟩) :=
  @TransactionBody.Defers.signs _ _ _ ⟨none, ⟨0, 0, 2⟩, call 6144⟩ rfl rfl

theorem oversized_otherKeys (signatureMap : Bytes) :
    oversizedResolver.otherKeys (approval signatureMap).body =
      .error ⟨.generalError, some ⟨.schedule, ⟨0, 0, 9⟩⟩⟩ := by
  have unencodable : (call 6144).encode = .error _ := encode_call (Nat.le_refl _)
  rw [Resolver.otherKeys_of_defers (oversized_defers signatureMap),
    Resolver.scheduledKeys_of_unencodable rfl rfl unencodable]
  rfl

theorem oversized_resolvedKeys (signatureMap : Bytes) :
    oversizedResolver.resolvedKeys (approval signatureMap).body = [] := by
  rw [Resolver.resolvedKeys, oversized_otherKeys]
  rfl

theorem oversized_addressable (signatureMap : Bytes) (collected : CollectedSignatures)
    (length : Nat) :
    ¬ ConsensusCheck.Unaddressable oversizedResolver collected (approval signatureMap) length := by
  intro unaddressable
  cases unaddressable with
  | direct long =>
    obtain ⟨_, leaf, ⟨key, member, _⟩, _⟩ := long
    rw [oversized_otherKeys] at member
    cases member
  | scheduled _ long =>
    obtain ⟨_, leaf, ⟨key, member, _⟩, _⟩ := long
    rw [oversized_otherKeys] at member
    cases member

theorem unreadablePayment_addressable (collected : CollectedSignatures) (length : Nat) :
    ¬ ConsensusCheck.Unaddressable ⟨ledger, true⟩ collected unreadablePayment length := by
  have offered (publicKey signature : Bytes)
      (offers : unreadablePayment.Offers publicKey signature) : signature.length ≤ 64 := by
    obtain ⟨pairs, read, _⟩ := offers
    cases unreadablePayment_malformed.symm.trans read
  intro unaddressable
  cases unaddressable with
  | direct long => exact not_overlong (by decide) offered (by decide) length long
  | scheduled collects _ => cases collects.1

end Sample

namespace ConsensusCheck

theorem unreadable_payment_fails_approval_reported :
    ConsensusCheck.verdict ⟨⟨Sample.ledger, true⟩, fun _ => [], batchVerifier⟩
        Sample.unreadablePayment =
      .error (.records (.source (.malformedMap (.malformedSignatureMap .reservedMarker)))) ∧
    ∃ verdict, ConsensusCheck.verdict ⟨Sample.oversizedResolver, fun _ => [], batchVerifier⟩
        (Sample.approval [255]) = .ok verdict ∧
      verdict.payerError = some ⟨.invalidPayerAccount, some ⟨.account, ⟨0, 0, 2⟩⟩⟩ ∧
      verdict.othersError = some ⟨.generalError, some ⟨.schedule, ⟨0, 0, 9⟩⟩⟩ := by
  constructor
  · apply ((verdict_eq_error_iff_unreadable _ _ _
      (Sample.unreadablePayment_addressable fun _ => [])).1 _).mpr
    refine ⟨_, ⟨Sample.unreadablePayment_malformed, ?_⟩, rfl⟩
    exact ⟨Sample.signer, ⟨_, List.mem_cons_self .., .here⟩, by decide⟩
  · have readable : ∀ cause, ¬ (Sample.approval [255]).Unreadable
        (Sample.oversizedResolver.resolvedKeys (Sample.approval [255]).body) cause := by
      intro cause unreadable
      rw [Sample.oversized_resolvedKeys] at unreadable
      obtain ⟨_, leaf, ⟨_, member, _⟩, _⟩ := unreadable
      cases member
    obtain ⟨verdict, returned, reports⟩ := (verdict_eq_error_iff_unreadable
      Sample.oversizedResolver (fun _ => []) (Sample.approval [255])
      (Sample.oversized_addressable [255] fun _ => [])).2 readable
    refine ⟨verdict, returned, (reports.payerError _).mpr rfl, ?_⟩
    exact reports.unencodable _ _ _ _ _ (Sample.oversized_defers _) rfl rfl
      (Sample.encode_call (Nat.le_refl _))

end ConsensusCheck

end Signatory
