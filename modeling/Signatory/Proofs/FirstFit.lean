import Signatory.Proofs.Arrival
import Signatory.Proofs.MapAsSet

/-!
The signature map of an ordinary transaction. Of the pairs that fit a key the first is the only one
that counts, so the order of the pairs may matter. Main statement: pairs that are appended to a map
take nothing away; and where no prefix is the beginning of another, so that no two pairs fit one
key, the order of the pairs makes no difference to what ingest and consensus say.
-/
namespace Signatory

namespace SignatureMap

variable {pairs others : SignatureMap}

theorem Selected.append {operation : Operation} {publicKey signature : Bytes}
    (selected : Selected operation pairs publicKey signature) (further : SignatureMap) :
    Selected operation (pairs ++ further) publicKey signature := by
  cases selected with
  | any collects member fits => exact .any collects (List.mem_append_left further member) fits
  | @first before after pair ordinary split fits earlier =>
    have split : pairs ++ further = before ++ pair :: (after ++ further) := by
      rw [split, List.append_assoc, List.cons_append]
    exact .first ordinary split fits earlier

/-- No pair has a prefix that begins that of another, or is the same. Pairs of contracts, which fit
no key, may have any. -/
def Unambiguous (pairs : SignatureMap) : Prop :=
  pairs.Pairwise fun one two => one.kind ≠ .contract → two.kind ≠ .contract →
    ¬ one.keyPrefix <+: two.keyPrefix ∧ ¬ two.keyPrefix <+: one.keyPrefix

theorem Unambiguous.pairwise_not_fits (unambiguous : pairs.Unambiguous) (publicKey : Bytes) :
    pairs.Pairwise fun one two => one.Fits publicKey → ¬ two.Fits publicKey := by
  apply List.Pairwise.imp _ unambiguous
  intro one two apart ⟨oneKey, oneBegins⟩ ⟨twoKey, twoBegins⟩
  obtain ⟨oneFirst, twoFirst⟩ := apart oneKey twoKey
  rcases List.prefix_or_prefix_of_prefix oneBegins twoBegins with within | within
  · exact oneFirst within
  · exact twoFirst within

theorem Unambiguous.pairwise_matching (unambiguous : pairs.Unambiguous) (publicKey : Bytes) :
    (pairs.matching publicKey).Pairwise fun _ _ => False := by
  rw [matching, List.pairwise_filterMap]
  apply List.Pairwise.imp _ (unambiguous.pairwise_not_fits publicKey)
  intro one two clash signature fits other also
  rw [SignaturePair.signatureFor?_eq_some_iff] at fits also
  exact clash fits.1 also.1

theorem Unambiguous.matching_eq (unambiguous : pairs.Unambiguous) (permuted : pairs.Perm others)
    (publicKey : Bytes) : pairs.matching publicKey = others.matching publicKey := by
  have listed : (pairs.matching publicKey).Perm (others.matching publicKey) :=
    permuted.filterMap _
  have alone := unambiguous.pairwise_matching publicKey
  have alsoAlone := listed.pairwise alone id
  exact listed.eq_of_pairwise (fun _ _ _ _ clash _ => clash.elim) alone alsoAlone

end SignatureMap

namespace AcceptedTransaction

variable {one two : AcceptedTransaction} {pairs others : SignatureMap}

theorem covers_of_prefix (same : one.envelope.body = two.envelope.body)
    (readOne : SignatureMap.decode one.envelope.signatureMap = .ok pairs)
    (readTwo : SignatureMap.decode two.envelope.signatureMap = .ok others)
    (begins : pairs <+: others) : two.Covers one := by
  obtain ⟨further, rfl⟩ := begins
  refine ⟨same, ?_⟩
  intro publicKey signature offered
  rw [offers_iff readOne] at offered
  rw [offers_iff readTwo, ← body_eq_of_envelope same]
  exact offered.append further

structure SignedAlike (one two : AcceptedTransaction) : Prop where
  envelope : one.envelope.body = two.envelope.body
  signature? : ∀ publicKey,
    one.signatureMap.signature? publicKey = two.signatureMap.signature? publicKey

theorem signedAlike_of_perm (same : one.envelope.body = two.envelope.body)
    (readOne : SignatureMap.decode one.envelope.signatureMap = .ok pairs)
    (readTwo : SignatureMap.decode two.envelope.signatureMap = .ok others)
    (unambiguous : pairs.Unambiguous) (permuted : pairs.Perm others) : one.SignedAlike two := by
  refine ⟨same, ?_⟩
  intro publicKey
  rw [signatureMap_of_read readOne, signatureMap_of_read readTwo,
    (SignatureSource.answersFrom_map pairs publicKey).2,
    (SignatureSource.answersFrom_map others publicKey).2,
    unambiguous.matching_eq permuted publicKey]

end AcceptedTransaction

section Checks

variable {one two : AcceptedTransaction} (alike : one.SignedAlike two)
  (ordinary : one.body.operation.collectsSignatures = false)

include alike ordinary

theorem IngestCheck.admits_of_signedAlike (check : IngestCheck) :
    check.admits one = check.admits two := by
  have body : one.body = two.body := AcceptedTransaction.body_eq_of_envelope alike.envelope
  have message : one.signedBytes = two.signedBytes := alike.envelope
  have judging : check.satisfied one = check.satisfied two := by
    funext keys
    simp only [satisfied, SignatureViews.uncollected_eq_ofMap ordinary,
      SignatureViews.uncollected_eq_ofMap (body ▸ ordinary), SignatureViews.ofMap, message,
      RecordCreation.ofKeys_congr alike.signature?]
  simp only [admits, body, judging]

theorem ConsensusCheck.verdict_of_signedAlike (check : ConsensusCheck) :
    check.verdict one = check.verdict two := by
  have body : one.body = two.body := AcceptedTransaction.body_eq_of_envelope alike.envelope
  have message : one.signedBytes = two.signedBytes := alike.envelope
  have other : two.body.operation.collectsSignatures = false := body ▸ ordinary
  have nobody : ((check.resolver.otherKeys two.body).keys.filter (·.forScheduled)).map
      RequiredKey.key = [] := scheduledKeys_eq_nil (.inr (.inl other))
  have nothing (source : SignatureSource) :
      check.scheduledRecords two.body source [] = .ok [] := rfl
  simp only [verdict, SignatureViews.of_eq_ofMap ordinary, SignatureViews.of_eq_ofMap other,
    SignatureViews.ofMap, body, message, nobody, nothing,
    RecordCreation.ofKeys_congr alike.signature?]

end Checks

namespace Service

end Service

namespace Sample

def paymentUnder (signatureMap : Bytes) : AcceptedTransaction :=
  ⟨⟨paymentBytes, signatureMap⟩, payment.body, payment.body_read⟩

theorem paymentUnder_addressable {signatureMap : Bytes} {pairs : SignatureMap}
    (read : SignatureMap.decode signatureMap = .ok pairs)
    (short : ∀ pair ∈ pairs, pair.signature.length ≤ 64) (included : Bool) (length : Nat) :
    ¬ IngestCheck.Unaddressable ⟨ledger, included⟩ ⟨0, 0, 3⟩ (paymentUnder signatureMap)
      length := by
  rintro ⟨keys, requires, long⟩
  cases requires.unique (payment_requires included)
  have both : 64 + (paymentUnder signatureMap).envelope.body.length < UInt32.size :=
    (by decide : 64 + paymentBytes.length < UInt32.size)
  exact not_overlong (by simp) (fun _ _ offered => offered.length_le read short) both length long

def mixedPairs : SignatureMap :=
  [⟨[2], .key .secp256k1, paymentSignature⟩, ⟨[3, 1], .key .ed25519, [7]⟩, ⟨[2], .contract, [8]⟩]

theorem mixedPairs_unambiguous : mixedPairs.Unambiguous := by
  unfold SignatureMap.Unambiguous mixedPairs
  decide

end Sample

namespace Service

end Service

end Signatory
