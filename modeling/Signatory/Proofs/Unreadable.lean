import Signatory.Proofs.Views
import Signatory.Proofs.Vouching

/-!
Signature maps that cannot be read. A source that asks such a map first has nothing but its fault to
answer with, whatever else it could ask. Main statements: so it is with every view of a transaction
whose map cannot be read; and the creation of records then fails just if a leaf of the keys has a
public key, since nothing is asked for the others.
-/
namespace Signatory

namespace SignatureSource

structure FailsWith (source : SignatureSource) (cause : SourceError) : Prop where
  candidates : ∀ publicKey, source.candidates publicKey = .error cause
  signature? : ∀ publicKey, source.signature? publicKey = .error cause

variable {source first : SignatureSource} {cause : SourceError}

theorem failsWith_map (cause : SourceError) : (map (.error cause)).FailsWith cause :=
  ⟨fun _ => rfl, fun _ => rfl⟩

theorem FailsWith.chained (fails : first.FailsWith cause) (second : SignatureSource) :
    (chained first second).FailsWith cause := by
  constructor
  · intro publicKey
    rw [SignatureSource.candidates, fails.candidates]
    rfl
  · intro publicKey
    rw [SignatureSource.signature?, fails.signature?]
    rfl

theorem FailsWith.verifying (fails : source.FailsWith cause) (signed : Bytes) :
    (verifying source signed).FailsWith cause := by
  have listing (publicKey : Bytes) :
      (SignatureSource.verifying source signed).candidates publicKey = .error cause := by
    rw [SignatureSource.candidates, fails.candidates]
    rfl
  refine ⟨listing, fun publicKey => ?_⟩
  rw [SignatureSource.signature?, listing]
  rfl

end SignatureSource

section Maps

variable {transaction : AcceptedTransaction} {cause : TransactionError}

theorem AcceptedTransaction.failsWith_signatureMap
    (malformed : SignatureMap.decode transaction.envelope.signatureMap = .error cause) :
    transaction.signatureMap.FailsWith (.malformedMap cause) := by
  rw [signatureMap, SignatureSource.ofBytes, malformed]
  exact SignatureSource.failsWith_map _

namespace SignatureViews

theorem failsWith_ofSchedule
    (malformed : SignatureMap.decode transaction.envelope.signatureMap = .error cause)
    (collected : Table Bytes Bytes) :
    (ofSchedule transaction collected).payer.FailsWith (.malformedMap cause) ∧
      (ofSchedule transaction collected).others.FailsWith (.malformedMap cause) :=
  have fails := AcceptedTransaction.failsWith_signatureMap malformed
  ⟨fails.verifying _, (fails.chained _).verifying _⟩

theorem failsWith_of
    (malformed : SignatureMap.decode transaction.envelope.signatureMap = .error cause)
    (collected : CollectedSignatures) :
    (SignatureViews.of transaction collected).payer.FailsWith (.malformedMap cause) ∧
      (SignatureViews.of transaction collected).others.FailsWith (.malformedMap cause) := by
  have fails := AcceptedTransaction.failsWith_signatureMap malformed
  unfold SignatureViews.of
  split
  · unfold ofCollected
    split <;> exact failsWith_ofSchedule malformed _
  · exact ⟨fails, fails⟩

theorem failsWith_uncollected
    (malformed : SignatureMap.decode transaction.envelope.signatureMap = .error cause) :
    (uncollected transaction).all.FailsWith (.malformedMap cause) := by
  unfold uncollected
  split
  · exact (failsWith_ofSchedule malformed []).1.chained _
  · exact AcceptedTransaction.failsWith_signatureMap malformed

end SignatureViews

end Maps

def Key.AnyPresent (keys : List Key) : Prop := ∃ leaf, Key.LeafAmong keys leaf ∧ leaf.bytes ≠ []

theorem PublicKey.isAbsent_iff (key : PublicKey) : key.isAbsent = true ↔ key.bytes = [] :=
  List.isEmpty_iff

namespace Key

theorem anyPresent_append (keys others : List Key) :
    AnyPresent (keys ++ others) ↔ AnyPresent keys ∨ AnyPresent others := by
  simp only [AnyPresent, leafAmong_append_iff, or_and_right, exists_or]

theorem anyPresent_congr {keys others : List Key} (same : ∀ key, key ∈ keys ↔ key ∈ others) :
    AnyPresent keys ↔ AnyPresent others := by
  simp only [AnyPresent, LeafAmong, same]

end Key

namespace RecordCreation

variable {source : SignatureSource} {cause : SourceError} {keys : List Key}

theorem complete_of_failsWith (fails : source.FailsWith cause) (message : Bytes)
    (present : Key.AnyPresent keys) :
    (ofKeys source message keys).complete = .error (.source cause) := by
  obtain ⟨leaf, among, some⟩ := present
  rw [← Key.mem_flatMap_leaves_iff] at among
  have asked : leaf.isAbsent = false := by
    rwa [← Bool.not_eq_true, PublicKey.isAbsent_iff]
  cases created : (ofKeys source message keys).complete with
  | ok records =>
    obtain ⟨made, own⟩ := exists_complete_iff.mp ⟨records, created⟩ leaf among
    cases own.symm.trans (recordFor_of_error asked (fails.signature? leaf.bytes))
  | error e =>
    obtain ⟨first, _, failed⟩ := exists_recordFor_error created
    have ends := recordFor_ends source message first
    rw [failed] at ends
    cases ends with
    | unanswered _ unanswered =>
      cases (fails.signature? first.bytes).symm.trans unanswered
      rfl
    | oversized _ told _ => cases (fails.signature? first.bytes).symm.trans told

theorem complete_of_not_anyPresent (source : SignatureSource) (message : Bytes)
    (absent : ¬ Key.AnyPresent keys) : (ofKeys source message keys).complete = .ok [] := by
  have none_made (leaf : PublicKey) (among : leaf ∈ keys.flatMap Key.leaves) :
      recordFor source message leaf = .ok none := by
    rw [Key.mem_flatMap_leaves_iff] at among
    apply recordFor_of_absent
    rw [PublicKey.isAbsent_iff]
    exact by_contra fun present => absent ⟨leaf, among, present⟩
  obtain ⟨records, created⟩ := exists_complete_iff.mpr fun leaf among => ⟨_, none_made leaf among⟩
  have empty : records = [] := by
    refine List.eq_nil_iff_forall_not_mem.mpr fun record member => ?_
    obtain ⟨leaf, among, own⟩ := (mem_complete created record).mp member
    cases (none_made leaf among).symm.trans own
  rw [ofKeys, created, empty]

end RecordCreation

/-- A signature is looked for in the map of the transaction, which cannot be read. -/
structure AcceptedTransaction.Unreadable (transaction : AcceptedTransaction) (keys : List Key)
    (cause : TransactionError) : Prop where
  malformed : SignatureMap.decode transaction.envelope.signatureMap = .error cause
  present : Key.AnyPresent keys

namespace AcceptedTransaction

variable {transaction : AcceptedTransaction} {keys : List Key}

theorem readable_or_absent (readable : ∀ cause, ¬ transaction.Unreadable keys cause) :
    (∃ pairs, SignatureMap.decode transaction.envelope.signatureMap = .ok pairs) ∨
      ¬ Key.AnyPresent keys := by
  cases read : SignatureMap.decode transaction.envelope.signatureMap with
  | ok pairs => exact .inl ⟨pairs, rfl⟩
  | error cause => exact .inr fun present => readable cause ⟨read, present⟩

end AcceptedTransaction

end Signatory
