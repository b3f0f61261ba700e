import Signatory.Proofs.Wire.Acceptance
import Signatory.Proofs.Wire.Format
import Signatory.Proofs.Wire.Spelling

/-!
Normal forms. Main statement: bytes that are accepted in any of the formats, and are no longer than
what may be written in it, are written anew in bytes that are fewer or the same, and that give the
same value.
-/
namespace Signatory
open Wire

theorem EntityId.normalizes_read {kind : EntityKind} :
    Normalizes [] (EntityId.read : Reader (EntityId kind)) EntityId.wire :=
  normalizes_readWord.bind fun _ => normalizes_readWord.bind fun _ =>
    normalizes_readWord.bind fun _ => .done rfl

theorem Threshold.normalizes_read : Normalizes [] Threshold.read Threshold.wire := by
  refine normalizes_readShort.bind fun count => ?_
  unfold ofCount?
  split
  · rename_i needed found
    split at found
    · cases found
      exact .done rfl
    · cases found
  · exact .fail _

theorem Key.normalizes_children {levels : Nat}
    (child : Normalizes [] (Key.read levels) Key.wire) :
    Normalizes [] (readSequence (Key.read levels))
      fun keys => number keys.length ++ Key.wireAll keys := by
  simp only [wireAll_eq]
  exact normalizes_readSequence child

theorem Key.normalizes_read (levels : Nat) : Normalizes [] (Key.read levels) Key.wire := by
  induction levels using Nat.strongRecOn with
  | ind levels ih =>
    rw [Key.read.eq_def]
    refine normalizes_readVariant.bind fun variant => ?_
    split
    case h_1 | h_2 => exact normalizes_readByteString.bind fun _ => .done (by simp [Key.wire])
    case h_3 =>
      cases levels with
      | zero => exact .fail _
      | succ fewer =>
        have children := Key.normalizes_children (ih fewer (Nat.lt_succ_self fewer))
        exact children.bind fun _ => .done (by simp [Key.wire])
    case h_4 =>
      refine Threshold.normalizes_read.bind fun _ => ?_
      cases levels with
      | zero => exact .fail _
      | succ fewer =>
        have children := Key.normalizes_children (ih fewer (Nat.lt_succ_self fewer))
        exact children.bind fun _ => .done (by simp [Key.wire])
    case h_5 => exact EntityId.normalizes_read.bind fun _ => .done (by simp [Key.wire])
    case h_6 => exact .fail _

theorem Transfer.normalizes_read : Normalizes [] Transfer.read Transfer.wire :=
  EntityId.normalizes_read.bind fun _ => normalizes_readSigned.bind fun _ => .done rfl

theorem Key.normalizes_readNested : Normalizes [] Key.readNested Key.wire :=
  Key.normalizes_read maxDepth

theorem normalizes_optionalKey :
    Normalizes [] (readOption Key.readNested) (option Key.wire) :=
  normalizes_readOption Key.normalizes_readNested

theorem normalizes_optionalId {kind : EntityKind} :
    Normalizes [] (readOption (EntityId.read : Reader (EntityId kind))) (option EntityId.wire) :=
  normalizes_readOption EntityId.normalizes_read

theorem Operation.normalizes_read (levels : Nat) :
    Normalizes [] (Operation.read levels) Operation.wire := by
  induction levels using Nat.strongRecOn with
  | ind levels ih =>
    rw [Operation.read.eq_def]
    refine normalizes_readVariant.bind fun variant => ?_
    -- each case goes through the fields in order, and ends with all of them written
    split
    case h_1 =>
      exact Key.normalizes_readNested.bind fun _ => normalizes_readFlag.bind fun _ =>
        normalizes_readWord.bind fun _ => .done (by simp [Operation.wire, PlainOperation.wire])
    case h_2 =>
      exact (normalizes_readSequence Transfer.normalizes_read).bind fun _ =>
        .done (by simp [Operation.wire, PlainOperation.wire])
    case h_3 =>
      exact EntityId.normalizes_read.bind fun _ => normalizes_optionalKey.bind fun _ =>
        (normalizes_readOption normalizes_readFlag).bind fun _ =>
          .done (by simp [Operation.wire, PlainOperation.wire])
    case h_4 =>
      exact EntityId.normalizes_read.bind fun _ => EntityId.normalizes_read.bind fun _ =>
        .done (by simp [Operation.wire, PlainOperation.wire])
    case h_5 =>
      exact Key.normalizes_readNested.bind fun _ => normalizes_readByteString.bind fun _ =>
        .done (by simp [Operation.wire, PlainOperation.wire])
    case h_6 | h_16 =>
      exact EntityId.normalizes_read.bind fun _ => normalizes_readByteString.bind fun _ =>
        .done (by simp [Operation.wire, PlainOperation.wire])
    case h_7 =>
      exact EntityId.normalizes_read.bind fun _ => normalizes_optionalKey.bind fun _ =>
        (normalizes_readOption normalizes_readByteString).bind fun _ =>
          .done (by simp [Operation.wire, PlainOperation.wire])
    case h_8 | h_15 | h_18 | h_19 =>
      exact EntityId.normalizes_read.bind fun _ =>
        .done (by simp [Operation.wire, PlainOperation.wire])
    case h_9 =>
      exact normalizes_optionalKey.bind fun _ => normalizes_optionalId.bind fun _ =>
        normalizes_readWord.bind fun _ => .done (by simp [Operation.wire, PlainOperation.wire])
    case h_10 =>
      exact EntityId.normalizes_read.bind fun _ => normalizes_readWord.bind fun _ =>
        normalizes_readByteString.bind fun _ =>
          .done (by simp [Operation.wire, PlainOperation.wire])
    case h_11 =>
      exact EntityId.normalizes_read.bind fun _ => normalizes_optionalKey.bind fun _ =>
        normalizes_optionalId.bind fun _ => .done (by simp [Operation.wire, PlainOperation.wire])
    case h_12 =>
      exact EntityId.normalizes_read.bind fun _ => normalizes_optionalId.bind fun _ =>
        .done (by simp [Operation.wire, PlainOperation.wire])
    case h_13 =>
      exact normalizes_optionalKey.bind fun _ => normalizes_optionalKey.bind fun _ =>
        normalizes_optionalId.bind fun _ => .done (by simp [Operation.wire, PlainOperation.wire])
    case h_14 =>
      exact EntityId.normalizes_read.bind fun _ => normalizes_optionalKey.bind fun _ =>
        normalizes_optionalKey.bind fun _ => normalizes_optionalId.bind fun _ =>
          .done (by simp [Operation.wire, PlainOperation.wire])
    case h_17 =>
      cases levels with
      | zero => exact .fail _
      | succ fewer =>
        exact (ih fewer (Nat.lt_succ_self fewer)).bind fun _ => normalizes_optionalKey.bind fun _ =>
          normalizes_optionalId.bind fun _ => normalizes_readText.bind fun _ =>
            .done (by simp [Operation.wire])
    case h_20 =>
      exact normalizes_readWord.bind fun _ => .done (by simp [Operation.wire, PlainOperation.wire])
    case h_21 => exact .fail _

theorem TransactionId.normalizes_read : Normalizes [] TransactionId.read TransactionId.wire :=
  EntityId.normalizes_read.bind fun _ => normalizes_readWord.bind fun _ =>
    normalizes_readFlag.bind fun _ => .done (by simp [TransactionId.wire])

theorem TransactionBody.normalizes_read :
    Normalizes [] TransactionBody.read TransactionBody.wire :=
  TransactionId.normalizes_read.bind fun _ => normalizes_optionalId.bind fun _ =>
    normalizes_readText.bind fun _ => (Operation.normalizes_read _).bind fun _ =>
      .done (by simp [TransactionBody.wire])

theorem SignatureKind.normalizes_read : Normalizes [] SignatureKind.read SignatureKind.wire := by
  refine normalizes_readVariant.bind fun variant => ?_
  split
  case h_1 | h_2 | h_3 => exact .done rfl
  case h_4 => exact .fail _

theorem SignaturePair.normalizes_read : Normalizes [] SignaturePair.read SignaturePair.wire :=
  normalizes_readByteString.bind fun _ => SignatureKind.normalizes_read.bind fun _ =>
    normalizes_readByteString.bind fun _ => .done (by simp [SignaturePair.wire])

theorem SignatureMap.normalizes_read : Normalizes [] SignatureMap.read SignatureMap.wire :=
  normalizes_readSequence SignaturePair.normalizes_read

theorem Envelope.normalizes_read : Normalizes [] Envelope.read Envelope.wire :=
  normalizes_readByteString.bind fun _ => normalizes_readByteString.bind fun _ =>
    .done (by simp [Envelope.wire])

section ReadBack

variable {faults : Fault → Prop}

theorem SignatureKind.readsBack (kind : SignatureKind) :
    ReadsBack faults SignatureKind.read kind.wire kind True := by
  cases kind with
  | key scheme => cases scheme <;> exact .always fun _ _ => rfl
  | contract => exact .always fun _ _ => rfl

theorem SignaturePair.readsBack (pair : SignaturePair) :
    ReadsBack faults SignaturePair.read pair.wire pair True :=
  ((readsBack_byteString pair.keyPrefix).bind
    (pair.kind.readsBack.bind (readsBack_byteString pair.signature).done)).of_iff (by simp)

theorem byteString_ne_nil (bytes : Bytes) : byteString bytes ≠ [] :=
  List.append_ne_nil_of_left_ne_nil (number_ne_nil _) _

theorem SignatureMap.readsBack (pairs : SignatureMap) :
    ReadsBack faults SignatureMap.read (SignatureMap.wire pairs) pairs True :=
  (readsBack_sequence (fun pair _ => SignaturePair.readsBack pair)
    fun pair _ => List.append_ne_nil_of_left_ne_nil (byteString_ne_nil pair.keyPrefix) _).of_iff
    (by simp)

theorem Envelope.readsBack (envelope : Envelope) :
    ReadsBack faults Envelope.read envelope.wire envelope True :=
  ((readsBack_byteString envelope.body).bind
    (readsBack_byteString envelope.signatureMap).done).of_iff (by simp)

end ReadBack

theorem SignatureMap.decode_wire {pairs : SignatureMap} (short : (wire pairs).length < 2 ^ 64) :
    decode (wire pairs) = .ok pairs := by
  have law : ReadsBack (fun _ => False) SignatureMap.read (wire pairs) pairs True :=
    SignatureMap.readsBack pairs
  exact decode_eq_ok_iff.mpr (law.read_alone short trivial)

theorem Envelope.decode_wire {envelope : Envelope} (short : envelope.wire.length < 2 ^ 64) :
    decode envelope.wire = .ok envelope := by
  have law : ReadsBack (fun _ => False) Envelope.read envelope.wire envelope True :=
    envelope.readsBack
  exact decode_eq_ok_iff.mpr (law.read_alone short trivial)

theorem Key.decode_wire_of_decode {bytes : Bytes} {key : Key} (accepted : decode bytes = .ok key)
    (short : key.wire.length < 2 ^ 64) : decode key.wire = .ok key := by
  have shallow := (decode_eq_ok_iff.mp accepted).2
  have nested := Nat.le_trans key.depth_bounds.1 shallow
  rw [decode_wire key short, if_neg (Nat.not_lt.mpr nested), if_pos shallow]

theorem TransactionBody.decode_wire_of_decode {bytes : Bytes} {body : TransactionBody}
    (accepted : decode bytes = .ok body) (short : body.wire.length < 2 ^ 64) :
    decode body.wire = .ok body := by
  have shallow := (decode_eq_ok_iff.mp accepted).2
  exact decode_wire_of_limits short (scheduleLevels_le_of_decode accepted) shallow

namespace Format

variable {format : Format} {bytes : Bytes} {value : format.Value}

theorem normalizes_read (format : Format) : Normalizes [] format.read format.write := by
  cases format with
  | key => exact Key.normalizes_readNested
  | body => exact TransactionBody.normalizes_read
  | signatureMap => exact SignatureMap.normalizes_read
  | envelope => exact Envelope.normalizes_read

theorem decode_write_of_decode (accepted : format.decode bytes = .ok value)
    (short : (format.write value).length < 2 ^ 64) :
    format.decode (format.write value) = .ok value := by
  cases format with
  | key => exact Key.decode_wire_of_decode accepted short
  | body => exact TransactionBody.decode_wire_of_decode accepted short
  | signatureMap => exact SignatureMap.decode_wire short
  | envelope => exact Envelope.decode_wire short

theorem spells_of_decode (accepted : format.decode bytes = .ok value) :
    Spells bytes (format.write value) :=
  (normalizes_read format).spells_of_read (read_of_decode accepted)

/-- What is written is the shortest form of what was read, and the only one of its length. -/
theorem accepted_bytes_normalize (format : Format) (bytes : Bytes) (value : format.Value)
    (accepted : format.decode bytes = .ok value) (within : bytes.length ≤ format.limit) :
    ∃ written, format.encode value = .ok written ∧ written.length ≤ bytes.length ∧
      format.decode written = .ok value ∧ (written.length = bytes.length → written = bytes) := by
  have spelled := spells_of_decode accepted
  have fits := Nat.le_trans spelled.length_le within
  have short := Nat.lt_of_le_of_lt fits format.limit_lt
  exact ⟨format.write value, encode_of_le fits, spelled.length_le,
    decode_write_of_decode accepted short, spelled.eq_of_length_eq⟩

theorem guarded_topic_normalizes :
    ∃ written, TransactionBody.encode
        ⟨⟨⟨0, 0, 2⟩, 0, false⟩, none, "", Sample.guardedTopic⟩ = .ok written ∧
      written.length ≤ Sample.guardedTopicBytes.length ∧
      TransactionBody.decode written =
        .ok ⟨⟨⟨0, 0, 2⟩, 0, false⟩, none, "", Sample.guardedTopic⟩ ∧
      (written.length = Sample.guardedTopicBytes.length → written = Sample.guardedTopicBytes) :=
  accepted_bytes_normalize .body _ _ TransactionBody.decode_guardedTopicBytes (by decide)

end Format

end Signatory
