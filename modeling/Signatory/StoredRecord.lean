import Signatory.RecordCreation

/-!
Signature records as they are kept. The signature and the message share a buffer, in which each is
found by an offset and a length; these are words of 32 bits, so what is longer cannot be kept. A
batch of records is verified in place, by parts. Main statement: recording an outcome and verifying
do to the record that is kept what they do to a record.
-/
namespace Signatory

structure Segment (buffer : Bytes) where
  offset : UInt32
  length : UInt32
  inside : offset.toNat + length.toNat ≤ buffer.length

def Segment.bytes {buffer : Bytes} (segment : Segment buffer) : Bytes :=
  (buffer.drop segment.offset.toNat).take segment.length.toNat

theorem Segment.bytes_append_left (first second : Bytes) (segment : Segment (first ++ second))
    (offset : segment.offset.toNat = 0) (length : segment.length.toNat = first.length) :
    segment.bytes = first := by
  rw [bytes, offset, length, List.drop_zero, List.take_left]

theorem Segment.bytes_append_right (first second : Bytes) (segment : Segment (first ++ second))
    (offset : segment.offset.toNat = first.length) (length : segment.length.toNat = second.length) :
    segment.bytes = second := by
  rw [bytes, offset, length, List.drop_left, List.take_length]

structure StoredRecord where
  contents : Bytes
  expandedKey : Bytes
  keySegment : Segment expandedKey
  signatureSegment : Segment contents
  messageSegment : Segment contents
  scheme : Scheme
  status : VerificationStatus

namespace StoredRecord

def publicKey (record : StoredRecord) : Bytes := record.keySegment.bytes

def signature (record : StoredRecord) : Bytes := record.signatureSegment.bytes

def message (record : StoredRecord) : Bytes := record.messageSegment.bytes

def record (stored : StoredRecord) : SignatureRecord :=
  ⟨⟨stored.scheme, stored.publicKey⟩, stored.signature, stored.message, stored.status⟩

def store (key : PublicKey) (signature message : Bytes) : Except RecordError StoredRecord := do
  let keyLength ← addressed key.bytes.length
  let signatureLength ← addressed signature.length
  let messageLength ← addressed message.length
  let _ ← addressed (signature.length + message.length)
  return {
    contents := signature ++ message
    expandedKey := key.bytes
    keySegment := ⟨0, keyLength.1, by simp [keyLength.2]⟩
    signatureSegment := ⟨0, signatureLength.1, by simp [signatureLength.2]⟩
    messageSegment := ⟨signatureLength.1, messageLength.1, by
      simp [signatureLength.2, messageLength.2]⟩
    scheme := key.scheme
    status := .unknown }

def settle (record : StoredRecord) (outcome : VerificationStatus) : Bool × StoredRecord :=
  if record.status.isTerminal || !outcome.isTerminal then (false, record)
  else (true, { record with status := outcome })

def verifies (record : StoredRecord) : Bool :=
  record.scheme.verifies record.publicKey record.message record.signature

def verify (record : StoredRecord) : StoredRecord :=
  if record.status.isTerminal then record
  else (record.settle (if record.verifies then .valid else .invalid)).2

theorem record_settle (record : StoredRecord) (outcome : VerificationStatus) :
    (record.settle outcome).2.record = record.record.settle outcome := by
  unfold settle SignatureRecord.settle SignatureRecord.accepts
  cases known : record.status.isTerminal <;> cases decides : outcome.isTerminal <;>
    simp [StoredRecord.record, known, publicKey, signature, message]

theorem record_verify (record : StoredRecord) : record.verify.record = record.record.verify := by
  unfold verify SignatureRecord.verify
  split
  · rename_i known
    exact (if_pos known).symm
  · rename_i unsettled
    rw [record_settle]
    exact (if_neg unsettled).symm

end StoredRecord

/-- A batch divided among parts, each of which verifies its records in an order of its own. Every
record belongs to one part. Parts that run at the same time are a single part in the order in which
their records are done. -/
structure Division (size : Nat) where
  parts : List (List Nat)
  once : parts.flatten.Perm (List.range size)

namespace StoredRecord

def verifyAt (records : List StoredRecord) (place : Nat) : List StoredRecord :=
  records.modify place verify

/-- Verifies the batch in place. The error is for records that are left without an outcome. -/
def verifyBatch {size : Nat} (division : Division size) (records : List StoredRecord) :
    Except VerifierError Unit × List StoredRecord :=
  let verified := division.parts.foldl (fun records part => part.foldl verifyAt records) records
  let left := verified.countP fun record => !record.status.isTerminal
  (if left = 0 then .ok () else .error (.incomplete left), verified)

end StoredRecord

structure StoredCreation where
  records : List StoredRecord
  failure : Option RecordError

namespace StoredCreation

def complete (creation : StoredCreation) : Except RecordError (List StoredRecord) :=
  match creation.failure with
  | none => .ok creation.records
  | some e => .error e

-- whatever answers for public keys can be asked, also what is none of the sources
variable (answer : Bytes → Except SourceError (Option Bytes)) (message : Bytes)

def recordFor (leaf : PublicKey) : Except RecordError (Option StoredRecord) :=
  if leaf.isAbsent then .ok none
  else do
    let found ← (answer leaf.bytes).mapError .source
    let record ← StoredRecord.store leaf (found.getD []) message
    return some record

def ofLeaves : List PublicKey → StoredCreation
  | [] => ⟨[], none⟩
  | leaf :: leaves =>
    match recordFor answer message leaf with
    | .error e => ⟨[], some e⟩
    | .ok made =>
      let rest := ofLeaves leaves
      ⟨made.toList ++ rest.records, rest.failure⟩

def ofKeys : List Key → StoredCreation
  | [] => ⟨[], none⟩
  | key :: keys =>
    let made := ofLeaves answer message key.leaves
    match made.failure with
    | some _ => made
    | none =>
      let rest := ofKeys keys
      ⟨made.records ++ rest.records, rest.failure⟩

end StoredCreation

end Signatory
