import Signatory.Proofs.Sourcing
import Signatory.Views

/-!
The signatures that count on a transaction, and the views that its parties have of them. Main
statements: every view serves just the signatures that count, whatever chains and preferences it is
made of; the view held against a scheduled operation lists all that is gathered for it; and no view
of a readable map fails.
-/
namespace Signatory

namespace AcceptedTransaction

/-- The signatures that count for a public key on the transaction itself; none if its map cannot be
read. -/
def Offers (transaction : AcceptedTransaction) (publicKey signature : Bytes) : Prop :=
  ∃ pairs, SignatureMap.decode transaction.envelope.signatureMap = .ok pairs ∧
    SignatureMap.Selected transaction.body.operation pairs publicKey signature

/-- The signatures that may be over the scheduled operation: all of the map that fit, and what the
schedule that is signed has collected under the whole public key. -/
inductive Gathers (transaction : AcceptedTransaction) (collected : CollectedSignatures)
    (publicKey : Bytes) : Bytes → Prop where
  | submitted {pairs : SignatureMap} {pair : SignaturePair}
      (read : SignatureMap.decode transaction.envelope.signatureMap = .ok pairs)
      (member : pair ∈ pairs) (fits : pair.Fits publicKey) :
      Gathers transaction collected publicKey pair.signature
  | collected {schedule : ScheduleId} {signature : Bytes}
      (signs : transaction.body.operation = .signSchedule schedule)
      (kept : Table.find? (collected schedule) publicKey = some signature) :
      Gathers transaction collected publicKey signature

variable {transaction : AcceptedTransaction} {collected : CollectedSignatures}

theorem signatureMap_of_read {pairs : SignatureMap}
    (read : SignatureMap.decode transaction.envelope.signatureMap = .ok pairs) :
    transaction.signatureMap = .map (.ok pairs) := by
  simp [signatureMap, SignatureSource.ofBytes, read, Except.mapError]

theorem signatureMap_cases (transaction : AcceptedTransaction) :
    (∃ cause, transaction.signatureMap = .map (.error cause)) ∨
      ∃ pairs, SignatureMap.decode transaction.envelope.signatureMap = .ok pairs ∧
        transaction.signatureMap = .map (.ok pairs) := by
  cases read : SignatureMap.decode transaction.envelope.signatureMap with
  | error cause =>
    exact .inl ⟨.malformedMap cause,
      by simp [signatureMap, SignatureSource.ofBytes, read, Except.mapError]⟩
  | ok pairs => exact .inr ⟨pairs, rfl, signatureMap_of_read read⟩

theorem offers_iff {pairs : SignatureMap}
    (read : SignatureMap.decode transaction.envelope.signatureMap = .ok pairs)
    (publicKey signature : Bytes) :
    transaction.Offers publicKey signature ↔
      SignatureMap.Selected transaction.body.operation pairs publicKey signature := by
  simp [Offers, read]

theorem lists_signatureMap (collects : transaction.body.operation.collectsSignatures = true) :
    transaction.signatureMap.Lists transaction.Offers := by
  intro publicKey listed told signature
  rcases signatureMap_cases transaction with ⟨cause, broken⟩ | ⟨pairs, read, map⟩
  · rw [broken] at told; cases told
  · rw [map] at told
    cases told
    rw [offers_iff read, SignatureMap.selected_iff_mem_matching collects]

theorem serves_signatureMap (ordinary : transaction.body.operation.collectsSignatures = false)
    (signed : Bytes) : transaction.signatureMap.Serves signed transaction.Offers := by
  intro publicKey found answered scheme
  rcases signatureMap_cases transaction with ⟨cause, broken⟩ | ⟨pairs, read, map⟩
  · rw [broken] at answered; cases answered
  · rw [map] at answered
    cases answered
    simp only [offers_iff read, SignatureMap.selected_iff_findSome? ordinary]
    cases pairs.findSome? (SignaturePair.signatureFor? publicKey) with
    | none => simpa using fun verified => Scheme.signature_ne_nil_of_verifies verified rfl
    | some signature => simp

theorem gives_signatureMap (ordinary : transaction.body.operation.collectsSignatures = false) :
    transaction.signatureMap.Gives transaction.Offers := by
  intro publicKey signature given
  rcases signatureMap_cases transaction with ⟨cause, broken⟩ | ⟨pairs, read, map⟩
  · rw [broken] at given
    cases given
  · rw [map] at given
    rw [offers_iff read, SignatureMap.selected_iff_findSome? ordinary]
    exact Except.ok.inj given

theorem lists_alone (collects : transaction.body.operation.collectsSignatures = true) :
    (SignatureSource.chained transaction.signatureMap (.accumulated [])).Lists
      transaction.Offers := by
  intro publicKey listed told signature
  rw [(lists_signatureMap collects).chained (SignatureSource.lists_accumulated []) publicKey listed
    told signature]
  simp

theorem gathers_iff (collects : transaction.body.operation.collectsSignatures = true)
    (publicKey signature : Bytes) :
    transaction.Gathers collected publicKey signature ↔
      transaction.Offers publicKey signature ∨
        ∃ schedule, transaction.body.operation = .signSchedule schedule ∧
          Table.find? (collected schedule) publicKey = some signature := by
  constructor
  · intro gathered
    cases gathered with
    | submitted read member fits => exact .inl ⟨_, read, .any collects member fits⟩
    | collected signs kept => exact .inr ⟨_, signs, kept⟩
  · rintro (⟨pairs, read, selected⟩ | ⟨schedule, signs, kept⟩)
    · cases selected with
      | any _ member fits => exact .submitted read member fits
      | first ordinary => simp [collects] at ordinary
    · exact .collected signs kept

theorem readable_signatureMap {pairs : SignatureMap}
    (read : SignatureMap.decode transaction.envelope.signatureMap = .ok pairs) :
    transaction.signatureMap.Readable := by
  rw [signatureMap_of_read read]
  exact ⟨pairs, rfl⟩

end AcceptedTransaction

namespace SignatureViews

variable {transaction : AcceptedTransaction} {collected : CollectedSignatures}

section Ordinary

variable (ordinary : transaction.body.operation.collectsSignatures = false)

include ordinary

theorem of_eq_ofMap : SignatureViews.of transaction collected = ofMap transaction := by
  rw [SignatureViews.of, ordinary]
  rfl

theorem uncollected_eq_ofMap : uncollected transaction = ofMap transaction := by
  rw [uncollected, ordinary]
  rfl

end Ordinary

theorem serves_all_uncollected :
    (uncollected transaction).all.Serves transaction.envelope.body transaction.Offers := by
  unfold uncollected
  split
  · rename_i collects
    exact (AcceptedTransaction.lists_signatureMap collects).serves.chained
      (AcceptedTransaction.lists_alone collects).serves
  · rename_i ordinary
    exact AcceptedTransaction.serves_signatureMap (by simpa using ordinary) _

theorem serves_payer_of :
    (SignatureViews.of transaction collected).payer.Serves transaction.envelope.body
      transaction.Offers := by
  unfold SignatureViews.of
  split
  · rename_i collects
    have lists := AcceptedTransaction.lists_signatureMap collects
    unfold ofCollected
    split <;> exact lists.serves
  · rename_i ordinary
    exact AcceptedTransaction.serves_signatureMap (by simpa using ordinary) _

theorem serves_others_of
    (signs : ∀ schedule, transaction.body.operation ≠ .signSchedule schedule) :
    (SignatureViews.of transaction collected).others.Serves transaction.envelope.body
      transaction.Offers := by
  unfold SignatureViews.of
  split
  · rename_i collects
    have lists := AcceptedTransaction.lists_alone collects
    unfold ofCollected
    split
    · rename_i schedule same
      exact absurd same (signs schedule)
    all_goals exact lists.serves
  · rename_i ordinary
    exact AcceptedTransaction.serves_signatureMap (by simpa using ordinary) _

theorem lists_others_of (collects : transaction.body.operation.collectsSignatures = true) :
    (SignatureViews.of transaction collected).others.Lists (transaction.Gathers collected) := by
  intro publicKey listed told signature
  rw [AcceptedTransaction.gathers_iff collects]
  unfold SignatureViews.of at told
  rw [if_pos collects] at told
  unfold ofCollected at told
  have lists := AcceptedTransaction.lists_signatureMap collects
  split at told
  · rename_i schedule same
    rw [((lists.chained (SignatureSource.lists_accumulated (collected schedule))).verifying)
      publicKey listed told signature]
    simp [same]
  all_goals
    rename_i same
    rw [(AcceptedTransaction.lists_alone collects).verifying publicKey listed told signature]
    simp [same]

theorem gives_all_uncollected : (uncollected transaction).all.Gives transaction.Offers := by
  unfold uncollected
  split
  · rename_i collects
    exact (AcceptedTransaction.lists_signatureMap collects).gives.chained
      (AcceptedTransaction.lists_alone collects).gives
  · rename_i ordinary
    exact AcceptedTransaction.gives_signatureMap (by simpa using ordinary)

theorem gives_payer_of :
    (SignatureViews.of transaction collected).payer.Gives transaction.Offers := by
  unfold SignatureViews.of
  split
  · rename_i collects
    have lists := AcceptedTransaction.lists_signatureMap collects
    unfold ofCollected
    split <;> exact lists.gives
  · rename_i ordinary
    exact AcceptedTransaction.gives_signatureMap (by simpa using ordinary)

theorem gives_others_of
    (signs : ∀ schedule, transaction.body.operation ≠ .signSchedule schedule) :
    (SignatureViews.of transaction collected).others.Gives transaction.Offers := by
  unfold SignatureViews.of
  split
  · rename_i collects
    have lists := AcceptedTransaction.lists_alone collects
    unfold ofCollected
    split
    · rename_i schedule same
      exact absurd same (signs schedule)
    all_goals exact lists.gives
  · rename_i ordinary
    exact AcceptedTransaction.gives_signatureMap (by simpa using ordinary)

theorem signature?_all_uncollected (transaction : AcceptedTransaction)
    (collected : CollectedSignatures) (publicKey : Bytes) :
    (uncollected transaction).all.signature? publicKey =
      (SignatureViews.of transaction collected).payer.signature? publicKey := by
  unfold uncollected SignatureViews.of
  cases collects : transaction.body.operation.collectsSignatures with
  | false => rfl
  | true =>
    have payer : (ofCollected transaction collected).payer =
        .verifying transaction.signatureMap transaction.signedBytes := by
      unfold ofCollected
      split <;> rfl
    rw [if_pos rfl, if_pos rfl, payer]
    exact SignatureSource.signature?_behind_itself _ _ _

theorem readable_of (collected : CollectedSignatures) {pairs : SignatureMap}
    (read : SignatureMap.decode transaction.envelope.signatureMap = .ok pairs) :
    (SignatureViews.of transaction collected).payer.Readable ∧
      (SignatureViews.of transaction collected).others.Readable := by
  have readable := AcceptedTransaction.readable_signatureMap read
  unfold SignatureViews.of
  split
  · unfold ofCollected
    split <;> exact ⟨readable, readable, trivial⟩
  · exact ⟨readable, readable⟩

theorem readable_uncollected {pairs : SignatureMap}
    (read : SignatureMap.decode transaction.envelope.signatureMap = .ok pairs) :
    (uncollected transaction).all.Readable := by
  have readable := AcceptedTransaction.readable_signatureMap read
  unfold uncollected
  split
  · exact ⟨readable, readable, trivial⟩
  · exact readable

end SignatureViews

end Signatory
