import Signatory.Proofs.FailClosed

/-!
What the records of signatures say of a single leaf. Statuses are kept under the bytes of a public
key and forget the scheme of the record. Main statement: a leaf is active just if a record with its
bytes is valid, of whichever scheme; where records are valid because they were verified that scheme
is the one that the number of bytes tells, so the two schemes meet only at leaves whose bytes do not
have the length of their own.
-/
namespace Signatory

namespace SignatureRecord

/-- The record is not called valid unless its signature verifies. -/
def Earned (record : SignatureRecord) : Prop := record.status = .valid → record.verifies = true

theorem MayBecome.verifies_eq {before after : SignatureRecord} (may : before.MayBecome after) :
    after.verifies = before.verifies := by
  rw [verifies, verifies, may.key, may.signature, may.message]

theorem MayBecome.earned {before after : SignatureRecord} (may : before.MayBecome after)
    (earned : before.Earned) : after.Earned := by
  intro valid
  rw [may.verifies_eq]
  exact (may.sound valid).elim earned id

theorem Earned.length {record : SignatureRecord} (earned : record.Earned)
    (valid : record.status = .valid) : record.key.bytes.length = record.key.scheme.keyLength :=
  Scheme.length_of_verifies (earned valid)

end SignatureRecord

namespace Key

theorem isActive_leaf_iff (records : List SignatureRecord) (leaf : PublicKey) :
    (simple leaf).isActive (StatusMap.statusOf (.ofRecords records)) .strict = true ↔
      ∃ record ∈ records, record.key.bytes = leaf.bytes ∧ record.status = .valid := by
  rw [isActive_strict_iff, satisfied_simple_iff, StatusMap.statusOf_ofRecords_valid_iff]

/-- A leaf under the strict policy, whatever outcomes were recorded. If they are those of
verification, the length of the leaf's bytes tells whose signatures can make it active. -/
theorem leaf_active_iff (records : List SignatureRecord) (leaf : PublicKey) :
    ((simple leaf).isActive (StatusMap.statusOf (.ofRecords records)) .strict = true ↔
      ∃ record ∈ records, record.key.bytes = leaf.bytes ∧ record.status = .valid) ∧
    ((∀ record ∈ records, record.Earned) →
      ∀ scheme : Scheme, leaf.bytes.length = scheme.keyLength →
        ((simple leaf).isActive (StatusMap.statusOf (.ofRecords records)) .strict = true ↔
          ∃ record ∈ records, record.key = ⟨scheme, leaf.bytes⟩ ∧ record.status = .valid)) := by
  refine ⟨isActive_leaf_iff records leaf, fun earned scheme length => ?_⟩
  rw [isActive_leaf_iff]
  constructor
  · rintro ⟨record, member, same, valid⟩
    have told : record.key.scheme = scheme := by
      apply Scheme.keyLength_inj
      rw [← (earned record member).length valid, same, length]
    exact ⟨record, member, by rw [← told, ← same], valid⟩
  · rintro ⟨record, member, same, valid⟩
    exact ⟨record, member, by rw [same], valid⟩

end Key

namespace Sample

def paymentRecord : SignatureRecord :=
  (SignatureRecord.unverified signer paymentSignature paymentBytes).verify

theorem paymentRecord_key : paymentRecord.key = signer := SignatureRecord.key_verify _

theorem paymentRecord_valid : paymentRecord.status = .valid :=
  (SignatureRecord.verify_unverified_valid_iff _ _ _).mpr verifies_payment

end Sample

namespace Key

theorem leaf_active_by_payment :
    (simple Sample.signer).isActive (StatusMap.statusOf (.ofRecords [Sample.paymentRecord]))
        .strict = true ∧
      ∃ record ∈ [Sample.paymentRecord], record.key = ⟨.secp256k1, Sample.signer.bytes⟩ ∧
        record.status = .valid := by
  obtain ⟨active, told⟩ := leaf_active_iff [Sample.paymentRecord] Sample.signer
  have holds := active.mpr ⟨_, List.mem_singleton_self _, congrArg PublicKey.bytes
    Sample.paymentRecord_key, Sample.paymentRecord_valid⟩
  refine ⟨holds, (told (fun record member => ?_) .secp256k1 (by decide)).mp holds⟩
  rw [List.mem_singleton.mp member]
  exact (SignatureRecord.mayBecome_verify _).earned (by simp [SignatureRecord.Earned,
    SignatureRecord.unverified])

/-- The bytes of the signer at an Ed25519 leaf: there is no record of that scheme, and yet the leaf
is active, by the signature that was made with the other. -/
theorem leaf_active_by_other_scheme :
    (simple ⟨.ed25519, Sample.signer.bytes⟩).isActive
        (StatusMap.statusOf (.ofRecords [Sample.paymentRecord])) .strict = true ∧
      ¬ ∃ record ∈ [Sample.paymentRecord], record.key = ⟨.ed25519, Sample.signer.bytes⟩ ∧
        record.status = .valid := by
  constructor
  · refine (isActive_leaf_iff _ _).mpr ⟨_, List.mem_singleton_self _, ?_, ?_⟩
    · rw [Sample.paymentRecord_key]
    · exact Sample.paymentRecord_valid
  · rintro ⟨record, member, same, _⟩
    rw [List.mem_singleton.mp member, Sample.paymentRecord_key] at same
    exact absurd (congrArg PublicKey.scheme same) (by decide)

end Key

end Signatory
