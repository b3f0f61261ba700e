import Signatory.Proofs.Wire.NormalForm

/-!
Limits of length. They bind what is written and not what is read. Main statements: the envelope of
two parts that are written is itself written, unless the parts together come within six bytes of
its limit; and decoders accept bytes of any length, with values that are too long to be written.
-/
namespace Signatory
open Wire

namespace Wire

theorem length_number {n : Nat} (fits : n < 65536) :
    (number n).length = if n ≤ 250 then 1 else 3 := by
  have two : n < capacity 2 := fits
  rw [number, if_pos two]
  split
  · rfl
  · rw [List.length_cons, length_toLittleEndian]

theorem length_number_le (n : Nat) : (number n).length ≤ 9 := by
  unfold number
  repeat' split
  all_goals simp

theorem length_byteString {bytes : Bytes} (large : 250 < bytes.length)
    (fits : bytes.length < 65536) : (byteString bytes).length = bytes.length + 3 := by
  have header := length_number fits
  rw [if_neg (Nat.not_le.mpr large)] at header
  rw [byteString, List.length_append, header, Nat.add_comm]

theorem length_byteString_le (bytes : Bytes) : (byteString bytes).length ≤ bytes.length + 9 := by
  have header := length_number_le bytes.length
  rw [byteString, List.length_append]
  omega

theorem lt_length_byteString (bytes : Bytes) : bytes.length < (byteString bytes).length := by
  have header := List.length_pos_of_ne_nil (number_ne_nil bytes.length)
  rw [byteString, List.length_append]
  omega

end Wire

namespace Envelope

theorem length_wire_le_iff {body pairs : Bytes} (short : body.length ≤ maxPartLength)
    (few : pairs.length ≤ maxPartLength) :
    (wire ⟨body, pairs⟩).length ≤ maxLength ↔ body.length + pairs.length ≤ 12282 := by
  simp only [maxPartLength] at short few
  have first := length_number (n := body.length) (by omega)
  have second := length_number (n := pairs.length) (by omega)
  simp only [wire, byteString, List.length_append, maxLength, maxPartLength, first, second]
  split <;> split <;> omega

theorem ofParts_eq_ok_iff {body : TransactionBody} {pairs : SignatureMap} {envelope : Envelope} :
    ofParts body pairs = .ok envelope ↔ body.wire.length ≤ maxPartLength ∧
      (SignatureMap.wire pairs).length ≤ maxPartLength ∧
      envelope = ⟨body.wire, SignatureMap.wire pairs⟩ := by
  simp only [ofParts, TransactionBody.encode, SignatureMap.encode, mapError_bounded]
  by_cases short : body.wire.length ≤ maxPartLength
  · rw [if_pos short]
    by_cases few : (SignatureMap.wire pairs).length ≤ maxPartLength
    · rw [if_pos few]
      simp [bind, Except.bind, pure, Except.pure, short, few, eq_comm]
    · rw [if_neg few]
      simp [bind, Except.bind, few]
  · rw [if_neg short]
    simp [bind, Except.bind, short]

end Envelope

namespace Sample

def messageBody (length : Nat) : TransactionBody :=
  ⟨⟨⟨0, 0, 2⟩, 0, false⟩, none, "", .plain (.submitMessage ⟨0, 0, 7⟩ (List.replicate length 0))⟩

def longSignature (length : Nat) : SignatureMap := [⟨[], .key .ed25519, List.replicate length 0⟩]

theorem wire_messageBody (length : Nat) : (messageBody length).wire =
    [0, 0, 2, 0, 0, 0, 0, 15, 0, 0, 7] ++ byteString (List.replicate length 0) := rfl

theorem wire_longSignature (length : Nat) : SignatureMap.wire (longSignature length) =
    [1, 0, 0] ++ byteString (List.replicate length 0) := by
  have pair : SignaturePair.wire ⟨[], .key .ed25519, List.replicate length 0⟩ =
      [0, 0] ++ byteString (List.replicate length 0) := rfl
  simp only [longSignature, SignatureMap.wire, Wire.sequence, List.flatMap_singleton, pair]
  rfl

theorem length_byteString_replicate {length : Nat} (large : 250 < length) (fits : length < 65536) :
    (byteString (List.replicate length 0)).length = length + 3 := by
  have count := List.length_replicate (n := length) (a := (0 : UInt8))
  rw [← count] at large fits
  rw [length_byteString large fits, count]

theorem length_wire_messageBody {length : Nat} (large : 250 < length) (fits : length < 65536) :
    (messageBody length).wire.length = length + 14 := by
  rw [wire_messageBody, List.length_append, length_byteString_replicate large fits, Nat.add_comm]
  rfl

theorem length_wire_longSignature {length : Nat} (large : 250 < length) (fits : length < 65536) :
    (SignatureMap.wire (longSignature length)).length = length + 6 := by
  rw [wire_longSignature, List.length_append, length_byteString_replicate large fits, Nat.add_comm]
  rfl

theorem ofParts_longest (message signature : Nat) (large : 250 < message) (short : message ≤ 6130)
    (long : 250 < signature) (fits : signature ≤ 6138) :
    Envelope.ofParts (messageBody message) (longSignature signature) =
      .ok ⟨(messageBody message).wire, SignatureMap.wire (longSignature signature)⟩ := by
  have body := length_wire_messageBody large (by omega)
  have pairs := length_wire_longSignature long (by omega)
  refine Envelope.ofParts_eq_ok_iff.mpr ⟨?_, ?_, rfl⟩
  · rw [body, maxPartLength]
    omega
  · rw [pairs, maxPartLength]
    omega

def longKey (length : Nat) : Key := .simple ⟨.ed25519, List.replicate length 0⟩

def longEnvelope (length : Nat) : Envelope := ⟨[], List.replicate length 0⟩

end Sample

/-- The envelope comes back where it is written. It is not written if its parts have more than
12282 bytes together, six fewer than it may have itself. -/
theorem Envelope.encode_of_parts (body : TransactionBody) (pairs : SignatureMap)
    (envelope : Envelope) (made : ofParts body pairs = .ok envelope) :
    (envelope.encode = if body.wire.length + (SignatureMap.wire pairs).length ≤ 12282
      then .ok envelope.wire else .error (.malformedEnvelope .sizeLimit)) ∧
    decode envelope.wire = .ok envelope := by
  obtain ⟨short, few, rfl⟩ := ofParts_eq_ok_iff.mp made
  constructor
  · simp only [encode, mapError_bounded, length_wire_le_iff short few]
  · apply decode_wire
    have first := length_byteString_le body.wire
    have second := length_byteString_le (SignatureMap.wire pairs)
    simp only [maxPartLength] at short few
    simp only [wire, List.length_append]
    omega

theorem Envelope.written_at_limit :
    ∃ envelope, ofParts (Sample.messageBody 6130) (Sample.longSignature 6132) = .ok envelope ∧
      envelope.encode = .ok envelope.wire ∧ decode envelope.wire = .ok envelope := by
  have made := Sample.ofParts_longest 6130 6132 (by decide) (by decide) (by decide) (by decide)
  obtain ⟨written, read⟩ := encode_of_parts _ _ _ made
  refine ⟨_, made, ?_, read⟩
  rw [written, Sample.length_wire_messageBody (by decide) (by decide),
    Sample.length_wire_longSignature (by decide) (by decide)]
  rfl

/-- Both parts have greatest length. -/
theorem Envelope.longest_parts_not_written :
    ¬ ∀ (body : TransactionBody) (pairs : SignatureMap) (envelope : Envelope),
      ofParts body pairs = .ok envelope → ∃ bytes, envelope.encode = .ok bytes := by
  intro always
  have made := Sample.ofParts_longest 6130 6138 (by decide) (by decide) (by decide) (by decide)
  obtain ⟨bytes, written⟩ := always _ _ _ made
  obtain ⟨short, few, _⟩ := ofParts_eq_ok_iff.mp made
  have fits := (length_wire_le_iff short few).mp (mapError_bounded_eq_ok written).2
  rw [Sample.length_wire_messageBody (by decide) (by decide),
    Sample.length_wire_longSignature (by decide) (by decide)] at fits
  exact absurd fits (by decide)

namespace Sample

theorem wire_longKey (length : Nat) :
    (longKey length).wire = [0] ++ byteString (List.replicate length 0) := rfl

theorem wire_longEnvelope (length : Nat) :
    (longEnvelope length).wire = [0] ++ byteString (List.replicate length 0) := rfl

theorem decode_longKey {length : Nat} (short : (longKey length).wire.length < 2 ^ 64) :
    Key.decode (longKey length).wire = .ok (longKey length) := by
  rw [Key.decode_wire _ short]
  rfl

theorem decode_messageBody {length : Nat} (short : (messageBody length).wire.length < 2 ^ 64) :
    TransactionBody.decode (messageBody length).wire = .ok (messageBody length) := by
  rw [TransactionBody.decode_wire_of_within short (Nat.zero_le _) (Nat.zero_le _)]
  rfl

def long (length : Nat) : (format : Format) → format.Value
  | .key => longKey length
  | .body => messageBody length
  | .signatureMap => longSignature length
  | .envelope => longEnvelope length

theorem write_long (length : Nat) (format : Format) : ∃ front : Bytes, front.length ≤ 11 ∧
    format.write (long length format) = front ++ byteString (List.replicate length 0) := by
  cases format with
  | key => exact ⟨_, by decide, wire_longKey length⟩
  | body => exact ⟨_, by decide, wire_messageBody length⟩
  | signatureMap => exact ⟨_, by decide, wire_longSignature length⟩
  | envelope => exact ⟨_, by decide, wire_longEnvelope length⟩

theorem length_write_long (length : Nat) (format : Format) :
    length < (format.write (long length format)).length ∧
      (format.write (long length format)).length ≤ length + 20 := by
  obtain ⟨front, few, layout⟩ := write_long length format
  have least := lt_length_byteString (List.replicate length 0)
  have most := length_byteString_le (List.replicate length 0)
  rw [List.length_replicate] at least most
  rw [layout, List.length_append]
  omega

theorem decode_long {length : Nat} {format : Format}
    (short : (format.write (long length format)).length < 2 ^ 64) :
    format.decode (format.write (long length format)) = .ok (long length format) := by
  cases format with
  | key => exact decode_longKey short
  | body => exact decode_messageBody short
  | signatureMap => exact SignatureMap.decode_wire short
  | envelope => exact Envelope.decode_wire short

end Sample

/-- A value that is read can be written just if some bytes within the limit are read as it. But
bytes longer than any length are read, and their values cannot be written. -/
theorem Format.limit_binds_writing_alone (format : Format) :
    (∀ (bytes : Bytes) (value : format.Value), format.decode bytes = .ok value →
      ((∃ written, format.encode value = .ok written) ↔
        ∃ other : Bytes, other.length ≤ format.limit ∧ format.decode other = .ok value)) ∧
    ∀ length, format.limit ≤ length → length < 2 ^ 63 → ∃ (bytes : Bytes) (value : format.Value),
      length < bytes.length ∧ format.decode bytes = .ok value ∧
        format.encode value = .error (format.refusal .sizeLimit) := by
  constructor
  · intro bytes value accepted
    constructor
    · rintro ⟨written, encoded⟩
      have fits := length_of_encode encoded
      have short := Nat.lt_of_le_of_lt fits format.limit_lt
      exact ⟨format.write value, fits, decode_write_of_decode accepted short⟩
    · rintro ⟨other, within, read⟩
      exact ⟨_, encode_of_le (Nat.le_trans (spells_of_decode read).length_le within)⟩
  · intro length beyond fits
    obtain ⟨longer, few⟩ := Sample.length_write_long length format
    exact ⟨_, _, longer, Sample.decode_long (by omega),
      encode_of_lt (Nat.lt_of_le_of_lt beyond longer)⟩

theorem Format.guarded_topic_written :
    (∃ written, TransactionBody.encode
        ⟨⟨⟨0, 0, 2⟩, 0, false⟩, none, "", Sample.guardedTopic⟩ = .ok written) ∧
    ∃ (bytes : Bytes) (body : TransactionBody), 1000000 < bytes.length ∧
      TransactionBody.decode bytes = .ok body ∧
        body.encode = .error (.malformedBody .sizeLimit) := by
  obtain ⟨writable, unbounded⟩ := limit_binds_writing_alone .body
  have read := TransactionBody.decode_guardedTopicBytes
  constructor
  · exact (writable _ _ read).mpr ⟨Sample.guardedTopicBytes, by decide, read⟩
  · exact unbounded 1000000 (by decide) (by decide)

theorem Key.long_key_accepted :
    2048 < ([0, 251, 0, 8] ++ List.replicate 2048 0 : Bytes).length ∧
    Key.decode ([0, 251, 0, 8] ++ List.replicate 2048 0) = .ok (Sample.longKey 2048) ∧
    (Sample.longKey 2048).encode = .error (.encoding .sizeLimit) := by
  have layout : (Sample.longKey 2048).wire = [0, 251, 0, 8] ++ List.replicate 2048 0 := by
    rw [Sample.wire_longKey, byteString, List.length_replicate]
    rfl
  have length : (Sample.longKey 2048).wire.length = 2052 := by
    rw [layout, List.length_append, List.length_replicate]
    rfl
  rw [← layout]
  refine ⟨by omega, Sample.decode_longKey (by omega), ?_⟩
  rw [Key.encode, mapError_bounded, if_neg (by rw [length]; decide)]

end Signatory
