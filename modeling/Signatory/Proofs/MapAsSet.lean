import Signatory.Proofs.Agreement
import Signatory.Proofs.Signatories

/-!
The signature map of a transaction that creates or signs a schedule. Every pair that fits a key is
a candidate for it, so only which pairs there are can matter. Main statement: further pairs take
nothing away, wherever they stand, and maps with the same pairs, in any order and number, have the
same outcome, as far as records can be made at all.
-/
namespace Signatory

/-- Every pair of the map that is not of a contract is a pair of the other map. -/
def SignatureMap.Within (pairs more : SignatureMap) : Prop :=
  ∀ pair ∈ pairs, pair.kind ≠ .contract → pair ∈ more

theorem SignatureMap.matching_subset {pairs more : SignatureMap} (within : pairs.Within more)
    (publicKey : Bytes) : pairs.matching publicKey ⊆ more.matching publicKey := by
  intro signature member
  obtain ⟨pair, given, fits, same⟩ := (mem_matching_iff _ _ _).mp member
  exact (mem_matching_iff _ _ _).mpr ⟨pair, within pair given fits.1, fits, same⟩

namespace AcceptedTransaction

variable {less more : AcceptedTransaction}

theorem body_eq_of_envelope (same : less.envelope.body = more.envelope.body) :
    less.body = more.body := by
  have read := less.body_read
  rw [same, more.body_read] at read
  exact (Except.ok.inj read).symm

/-- The same body with at least the signatures that count. -/
structure Covers (more less : AcceptedTransaction) : Prop where
  envelope : less.envelope.body = more.envelope.body
  offers : ∀ publicKey signature, less.Offers publicKey signature → more.Offers publicKey signature

theorem covers_of_within (same : less.envelope.body = more.envelope.body)
    (collects : less.body.operation.collectsSignatures = true) {pairs further : SignatureMap}
    (readLess : SignatureMap.decode less.envelope.signatureMap = .ok pairs)
    (readMore : SignatureMap.decode more.envelope.signatureMap = .ok further)
    (within : pairs.Within further) : more.Covers less := by
  refine ⟨same, ?_⟩
  intro publicKey signature offered
  rw [offers_iff readLess, SignatureMap.selected_iff_mem_matching collects] at offered
  rw [offers_iff readMore, SignatureMap.selected_iff_mem_matching
    (body_eq_of_envelope same ▸ collects)]
  exact SignatureMap.matching_subset within publicKey offered

namespace Covers

variable (covers : more.Covers less)

include covers

theorem body : less.body = more.body := body_eq_of_envelope covers.envelope

theorem authorizes {keys : List Key} (authorized : less.Authorizes keys) :
    more.Authorizes keys := by
  intro key member
  have satisfied := authorized key member
  rw [covers.envelope] at satisfied
  exact satisfied.vouched_mono (List.Subset.refl _) covers.offers

theorem gathers (collects : less.body.operation.collectsSignatures = true)
    {collected : CollectedSignatures} {publicKey signature : Bytes}
    (gathered : less.Gathers collected publicKey signature) :
    more.Gathers collected publicKey signature := by
  rw [gathers_iff collects, covers.body] at gathered
  rw [gathers_iff (covers.body ▸ collects)]
  exact gathered.imp_left (covers.offers publicKey signature)

end Covers

end AcceptedTransaction

namespace IngestCheck

variable {resolver : Resolver} {node : AccountId} {less more : AcceptedTransaction}

theorem admits_of_covers (covers : more.Covers less)
    (admitted : admits ⟨resolver, batchVerifier, node⟩ less = .ok true) :
    admits ⟨resolver, batchVerifier, node⟩ more = .ok true ∨
      ∃ length, admits ⟨resolver, batchVerifier, node⟩ more =
          .error (.records (.oversized length)) ∧
        Unaddressable resolver node more length := by
  by_cases made : ∃ length,
      admits ⟨resolver, batchVerifier, node⟩ more = .error (.records (.oversized length))
  · obtain ⟨length, failed⟩ := made
    exact .inr ⟨length, failed, unaddressable_of_admits failed⟩
  · rw [admits_iff_authorizes] at admitted ⊢
    obtain ⟨⟨keys, requires, authorized⟩, _⟩ := admitted
    exact .inl ⟨⟨keys, covers.body ▸ requires, covers.authorizes authorized⟩, not_exists.mp made⟩

theorem answer_of_covers (covers : more.Covers less) {answer reply : Bool}
    (first : admits ⟨resolver, batchVerifier, node⟩ less = .ok answer)
    (second : admits ⟨resolver, batchVerifier, node⟩ more = .ok reply) (good : answer = true) :
    reply = true := by
  subst good
  rcases admits_of_covers covers first with admitted | ⟨_, failed, _⟩
  · exact Except.ok.inj (second.symm.trans admitted)
  · cases second.symm.trans failed

end IngestCheck

namespace ConsensusCheck

variable {resolver : Resolver} {collected : CollectedSignatures} {less more : AcceptedTransaction}
  {before after : Verdict}

theorem payerActive_of_covers (covers : more.Covers less)
    (first : ConsensusCheck.verdict ⟨resolver, collected, batchVerifier⟩ less = .ok before)
    (second : ConsensusCheck.verdict ⟨resolver, collected, batchVerifier⟩ more = .ok after)
    (active : before.payerActive = true) : after.payerActive = true := by
  rw [payerActive_iff first] at active
  rw [payerActive_iff second]
  obtain ⟨info, found, authorized⟩ := active
  exact ⟨info, covers.body ▸ found, covers.authorizes authorized⟩

theorem othersActive_of_covers (covers : more.Covers less)
    (first : ConsensusCheck.verdict ⟨resolver, collected, batchVerifier⟩ less = .ok before)
    (second : ConsensusCheck.verdict ⟨resolver, collected, batchVerifier⟩ more = .ok after)
    (active : before.othersActive = true) : after.othersActive = true := by
  rw [othersActive_iff first] at active
  rw [othersActive_iff second]
  obtain ⟨required, resolved, authorized⟩ := active
  exact ⟨required, covers.body ▸ resolved, covers.authorizes authorized⟩

theorem signatories_of_covers (covers : more.Covers less)
    (first : ConsensusCheck.verdict ⟨resolver, collected, batchVerifier⟩ less = .ok before)
    (second : ConsensusCheck.verdict ⟨resolver, collected, batchVerifier⟩ more = .ok after) :
    before.scheduledSignatories ⊆ after.scheduledSignatories := by
  obtain ⟨_, _, _, reached⟩ := verdict_eq_ok_iff.mp first
  obtain ⟨_, _, _, compared⟩ := verdict_eq_ok_iff.mp second
  by_cases collects : ∃ message, Collects resolver less.body message
  · obtain ⟨message, collects⟩ := collects
    intro publicKey named
    rw [reached.mem_signatories_iff collects] at named
    rw [compared.mem_signatories_iff (covers.body ▸ collects), ← covers.body]
    exact named.mono (List.Subset.refl _) fun _ => covers.gathers collects.1
  · rw [reached.signatories_eq_nil (not_exists.mp collects)]
    exact List.nil_subset _

theorem verdict_eq_of_covers (covers : more.Covers less) (back : less.Covers more)
    (first : ConsensusCheck.verdict ⟨resolver, collected, batchVerifier⟩ less = .ok before)
    (second : ConsensusCheck.verdict ⟨resolver, collected, batchVerifier⟩ more = .ok after) :
    before = after := by
  have payer : before.payerActive = after.payerActive := Bool.eq_iff_iff.mpr
    ⟨payerActive_of_covers covers first second, payerActive_of_covers back second first⟩
  have others : before.othersActive = after.othersActive := Bool.eq_iff_iff.mpr
    ⟨othersActive_of_covers covers first second, othersActive_of_covers back second first⟩
  have named (publicKey : Bytes) : publicKey ∈ before.scheduledSignatories ↔
      publicKey ∈ after.scheduledSignatories :=
    ⟨fun member => signatories_of_covers covers first second member,
      fun member => signatories_of_covers back second first member⟩
  obtain ⟨_, _, _, reached⟩ := verdict_eq_ok_iff.mp first
  obtain ⟨_, _, _, compared⟩ := verdict_eq_ok_iff.mp second
  have signatories := reached.signatories_ext compared covers.body named
  have payerError : before.payerError = after.payerError := by
    rw [reached.payerError, compared.payerError, covers.body]
  have othersError : before.othersError = after.othersError := by
    rw [reached.othersError, compared.othersError, covers.body]
  cases before
  cases after
  simp only [Verdict.mk.injEq]
  exact ⟨payer, others, signatories, payerError, othersError⟩

end ConsensusCheck

namespace Service

end Service

end Signatory
