import Signatory.Proofs.Creation
import Signatory.StoredRecord

/-!
What a stored record holds. Its parts are read back from buffers by offsets and lengths. Main
statement: a record is stored just if it can be made, what is stored is read back as it was given,
one part directly behind the other, and no outcome changes any of it.
-/
namespace Signatory

namespace StoredRecord

structure Holds (stored : StoredRecord) (key : PublicKey) (sign text : Bytes) : Prop where
  scheme : stored.scheme = key.scheme
  publicKey : stored.publicKey = key.bytes
  signature : stored.signature = sign
  message : stored.message = text
  contents : stored.contents = sign ++ text

variable {key : PublicKey} {sign text : Bytes} {stored : StoredRecord}

theorem holds_of_store (made : store key sign text = .ok stored) :
    stored.Holds key sign text ∧ stored.status = .unknown := by
  obtain ⟨keyLength, _, made⟩ := bind_eq_ok_iff.mp made
  obtain ⟨signatureLength, _, made⟩ := bind_eq_ok_iff.mp made
  obtain ⟨messageLength, _, made⟩ := bind_eq_ok_iff.mp made
  obtain ⟨_, _, made⟩ := bind_eq_ok_iff.mp made
  cases made
  refine ⟨⟨rfl, ?_, ?_, ?_, rfl⟩, rfl⟩
  · rw [publicKey, Segment.bytes, keyLength.2]
    exact List.take_length
  · exact Segment.bytes_append_left sign text _ rfl signatureLength.2
  · exact Segment.bytes_append_right sign text _ signatureLength.2 messageLength.2

theorem Holds.record_eq (holds : stored.Holds key sign text) :
    stored.record = ⟨key, sign, text, stored.status⟩ := by
  rw [record, holds.scheme, holds.publicKey, holds.signature, holds.message]

theorem record_of_store (made : store key sign text = .ok stored) :
    stored.record = .unverified key sign text := by
  obtain ⟨holds, status⟩ := holds_of_store made
  rw [holds.record_eq, status]
  rfl

theorem map_record_store (key : PublicKey) (sign text : Bytes) :
    (store key sign text).map record = SignatureRecord.create key sign text := by
  -- the lengths are looked at in the same order
  cases own : addressed key.bytes.length with
  | error e => rw [store, SignatureRecord.create, own]; rfl
  | ok keyLength =>
    cases ahead : addressed sign.length with
    | error e => rw [store, SignatureRecord.create, own, ahead]; rfl
    | ok signatureLength =>
      cases behind : addressed text.length with
      | error e => rw [store, SignatureRecord.create, own, ahead, behind]; rfl
      | ok messageLength =>
        cases both : addressed (sign.length + text.length) with
        | error e => rw [store, SignatureRecord.create, own, ahead, behind, both]; rfl
        | ok bufferLength =>
          have kept : ∃ stored, store key sign text = .ok stored := by
            rw [store, own, ahead, behind, both]
            exact ⟨_, rfl⟩
          obtain ⟨stored, kept⟩ := kept
          rw [kept, SignatureRecord.create, own, ahead, behind, both]
          exact congrArg Except.ok (record_of_store kept)

theorem exists_store (fits : SignatureRecord.Fits key sign text) :
    ∃ stored, store key sign text = .ok stored := by
  have made := map_record_store key sign text
  rw [SignatureRecord.create_of_fits fits] at made
  cases kept : store key sign text with
  | ok stored => exact ⟨stored, rfl⟩
  | error e =>
    rw [kept] at made
    cases made

theorem settle_eq (stored : StoredRecord) (outcome : VerificationStatus) :
    (stored.settle outcome).2 =
      if stored.status.isTerminal || !outcome.isTerminal then stored
      else { stored with status := outcome } := by
  unfold settle
  split <;> rfl

theorem Holds.settle (holds : stored.Holds key sign text) (outcome : VerificationStatus) :
    (stored.settle outcome).2.Holds key sign text := by
  rw [settle_eq]
  split
  · exact holds
  · exact ⟨holds.scheme, holds.publicKey, holds.signature, holds.message, holds.contents⟩

end StoredRecord

end Signatory
