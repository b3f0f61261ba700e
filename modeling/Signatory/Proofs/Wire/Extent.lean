import Signatory.Proofs.Wire.Acceptance
import Signatory.Proofs.Wire.Format

/-!
Where a message ends. How far a reader goes is told by the bytes that it reads: what it answers does
not change when more bytes follow, unless it was at the end of the bytes that it asked for more.
Main statement: no accepted message is the beginning of another one. One that goes on is refused for
the bytes left over, and one that breaks off for the bytes it lacks.
-/
namespace Signatory
open Wire

def Wire.Fault.IsEnd (fault : Fault) : Prop := fault = .endOfInput ∨ fault = .endOfText

namespace Wire

/-- More bytes behind those that are read change nothing, but that they are left as well. Only a
reader that is at the end of the bytes may go on with them. -/
structure Steady {α : Type} (read : Reader α) : Prop where
  returns : ∀ ⦃bytes value rest⦄, read bytes = .ok (value, rest) →
    ∀ more, read (bytes ++ more) = .ok (value, rest ++ more)
  refuses : ∀ ⦃bytes fault⦄, read bytes = .error fault →
    fault.IsEnd ∨ ∀ more, read (bytes ++ more) = .error fault

namespace Steady

variable {α β : Type} {read : Reader α}

theorem bind {first : Reader α} {next : α → Reader β} (one : Steady first)
    (others : ∀ found, Steady (next found)) : Steady (first >>= next) := by
  constructor
  · intro bytes value rest answered more
    obtain ⟨found, behind, head, tail⟩ := Reader.bind_eq_ok_iff.mp answered
    rw [Reader.bind_of_ok (one.returns head more)]
    exact (others found).returns tail more
  · intro bytes fault failed
    cases Reader.bind_eq_error_iff.mp failed with
    | inl early =>
      cases one.refuses early with
      | inl ended => exact .inl ended
      | inr always =>
        right
        intro more
        exact Reader.bind_of_error (always more)
    | inr late =>
      obtain ⟨found, behind, head, failed⟩ := late
      cases (others found).refuses failed with
      | inl ended => exact .inl ended
      | inr always =>
        right
        intro more
        rw [Reader.bind_of_ok (one.returns head more)]
        exact always more

theorem pure (value : α) : Steady (Pure.pure value : Reader α) := by
  constructor
  · intro bytes found rest answered more
    obtain ⟨rfl, rfl⟩ := Reader.pure_eq_ok_iff.mp answered
    rfl
  · intro bytes fault failed
    cases failed

theorem fail (fault : Fault) : Steady (Reader.fail fault : Reader α) := by
  constructor
  · intro bytes value rest answered
    cases answered
  · intro bytes cause failed
    cases failed
    exact .inr fun _ => rfl

theorem map {f : α → β} (steady : Steady read) : Steady (f <$> read) := by
  rw [← bind_pure_comp]
  exact steady.bind fun _ => .pure _

theorem ite {chosen : Prop} [Decidable chosen] {this other : Reader α} (one : Steady this)
    (another : Steady other) : Steady (if chosen then this else other) := by
  split
  · exact one
  · exact another

theorem run_append (steady : Steady read) {bytes more : Bytes} {value : α}
    (answered : read bytes = .ok (value, [])) (longer : more ≠ []) :
    read.run (bytes ++ more) = .error .trailingBytes := by
  obtain ⟨b, rest, rfl⟩ := List.exists_cons_of_ne_nil longer
  have left := steady.returns answered (b :: rest)
  simp only [Reader.run, left, List.nil_append]

theorem run_front (steady : Steady read) {front back : Bytes} {value : α}
    (answered : read (front ++ back) = .ok (value, [])) (shorter : back ≠ []) :
    ∃ fault : Fault, fault.IsEnd ∧ read.run front = .error fault := by
  cases early : read front with
  | ok found =>
    -- the whole would have left what the front leaves, and all that is behind it
    have left := (steady.returns early back).symm.trans answered
    simp [shorter] at left
  | error fault =>
    refine ⟨fault, ?_, by simp only [Reader.run, early]⟩
    cases steady.refuses early with
    | inl ended => exact ended
    | inr always => cases (always back).symm.trans answered

end Steady

section Primitives

theorem steady_readByte : Steady readByte := by
  constructor
  · intro bytes b rest answered more
    rw [readByte_eq_ok answered]
    rfl
  · intro bytes fault failed
    cases bytes with
    | nil => cases failed; exact .inl (.inl rfl)
    | cons b rest => cases failed

theorem steady_readExactly {short : Fault} (ended : short.IsEnd) (count : Nat) :
    Steady (readExactly short count) := by
  constructor
  · intro bytes taken rest answered more
    obtain ⟨rfl, rfl⟩ := readExactly_eq_ok answered
    rw [List.append_assoc]
    exact readExactly_append short taken (rest ++ more)
  · intro bytes fault failed
    left
    unfold readExactly at failed
    simp only at failed
    split at failed
    · cases failed
    · cases failed
      exact ended

theorem steady_readLittleEndian (width : Nat) : Steady (readLittleEndian width) :=
  (steady_readExactly (.inl rfl) width).map

theorem steady_readNumber : Steady readNumber :=
  steady_readByte.bind fun _ => .ite (.pure _) <| .ite (steady_readLittleEndian 2) <|
    .ite (steady_readLittleEndian 4) <| .ite (steady_readLittleEndian 8) <|
    .ite (.fail _) (.fail _)

theorem steady_readWord : Steady readWord := steady_readNumber.map

theorem steady_readShort : Steady readShort :=
  steady_readNumber.bind fun _ => .ite (.pure _) (.fail _)

theorem steady_readVariant : Steady readVariant := steady_readShort.map

theorem steady_readSigned : Steady readSigned := steady_readNumber.map

theorem steady_readFlag : Steady readFlag :=
  steady_readByte.bind fun _ => .ite (.pure _) <| .ite (.pure _) (.fail _)

theorem steady_readByteString : Steady readByteString :=
  steady_readNumber.bind fun count => steady_readExactly (.inl rfl) count

theorem steady_readText : Steady readText := by
  refine steady_readNumber.bind fun count => ?_
  refine (steady_readExactly (.inr rfl) count).bind fun taken => ?_
  split
  · exact .pure _
  · exact .fail _

end Primitives

section Collections

variable {α : Type} {read : Reader α}

theorem steady_readOption (inner : Steady read) : Steady (readOption read) :=
  steady_readByte.bind fun _ => .ite (.pure _) <| .ite (inner.bind fun _ => .pure _) (.fail _)

theorem steady_readMany (inner : Steady read) (count : Nat) : Steady (readMany read count) := by
  induction count with
  | zero => exact .pure _
  | succ count ih => exact inner.bind fun _ => ih.bind fun _ => .pure _

theorem steady_readSequence (inner : Steady read) : Steady (readSequence read) :=
  steady_readNumber.bind fun count => steady_readMany inner count

end Collections

end Wire

theorem EntityId.steady_read {kind : EntityKind} :
    Steady (EntityId.read : Reader (EntityId kind)) :=
  steady_readWord.bind fun _ => steady_readWord.bind fun _ => steady_readWord.bind fun _ => .pure _

theorem Threshold.steady_read : Steady Threshold.read := by
  refine steady_readShort.bind fun count => ?_
  split
  · exact .pure _
  · exact .fail _

theorem Key.steady_read (levels : Nat) : Steady (Key.read levels) := by
  induction levels using Nat.strongRecOn with
  | ind levels ih =>
    rw [Key.read.eq_def]
    refine steady_readVariant.bind fun variant => ?_
    split
    case h_1 | h_2 => exact steady_readByteString.bind fun _ => .pure _
    case h_3 =>
      cases levels with
      | zero => exact .fail _
      | succ fewer =>
        exact (steady_readSequence (ih fewer (Nat.lt_succ_self fewer))).bind fun _ => .pure _
    case h_4 =>
      refine Threshold.steady_read.bind fun _ => ?_
      cases levels with
      | zero => exact .fail _
      | succ fewer =>
        exact (steady_readSequence (ih fewer (Nat.lt_succ_self fewer))).bind fun _ => .pure _
    case h_5 => exact EntityId.steady_read.bind fun _ => .pure _
    case h_6 => exact .fail _

theorem Key.steady_readNested : Steady Key.readNested := Key.steady_read maxDepth

theorem steady_optionalKey : Steady (readOption Key.readNested) :=
  steady_readOption Key.steady_readNested

theorem steady_optionalId {kind : EntityKind} :
    Steady (readOption (EntityId.read : Reader (EntityId kind))) :=
  steady_readOption EntityId.steady_read

theorem Transfer.steady_read : Steady Transfer.read :=
  EntityId.steady_read.bind fun _ => steady_readSigned.bind fun _ => .pure _

theorem Operation.steady_read (levels : Nat) : Steady (Operation.read levels) := by
  induction levels using Nat.strongRecOn with
  | ind levels ih =>
    rw [Operation.read.eq_def]
    refine steady_readVariant.bind fun variant => ?_
    -- the number of the operation tells its fields, and each case goes through them in order
    split
    case h_1 =>
      exact Key.steady_readNested.bind fun _ => steady_readFlag.bind fun _ =>
        steady_readWord.bind fun _ => .pure _
    case h_2 => exact (steady_readSequence Transfer.steady_read).bind fun _ => .pure _
    case h_3 =>
      exact EntityId.steady_read.bind fun _ => steady_optionalKey.bind fun _ =>
        (steady_readOption steady_readFlag).bind fun _ => .pure _
    case h_4 =>
      exact EntityId.steady_read.bind fun _ => EntityId.steady_read.bind fun _ => .pure _
    case h_5 =>
      exact Key.steady_readNested.bind fun _ => steady_readByteString.bind fun _ => .pure _
    case h_6 | h_16 =>
      exact EntityId.steady_read.bind fun _ => steady_readByteString.bind fun _ => .pure _
    case h_7 =>
      exact EntityId.steady_read.bind fun _ => steady_optionalKey.bind fun _ =>
        (steady_readOption steady_readByteString).bind fun _ => .pure _
    case h_8 | h_15 | h_18 | h_19 => exact EntityId.steady_read.bind fun _ => .pure _
    case h_9 =>
      exact steady_optionalKey.bind fun _ => steady_optionalId.bind fun _ =>
        steady_readWord.bind fun _ => .pure _
    case h_10 =>
      exact EntityId.steady_read.bind fun _ => steady_readWord.bind fun _ =>
        steady_readByteString.bind fun _ => .pure _
    case h_11 =>
      exact EntityId.steady_read.bind fun _ => steady_optionalKey.bind fun _ =>
        steady_optionalId.bind fun _ => .pure _
    case h_12 => exact EntityId.steady_read.bind fun _ => steady_optionalId.bind fun _ => .pure _
    case h_13 =>
      exact steady_optionalKey.bind fun _ => steady_optionalKey.bind fun _ =>
        steady_optionalId.bind fun _ => .pure _
    case h_14 =>
      exact EntityId.steady_read.bind fun _ => steady_optionalKey.bind fun _ =>
        steady_optionalKey.bind fun _ => steady_optionalId.bind fun _ => .pure _
    case h_17 =>
      cases levels with
      | zero => exact .fail _
      | succ fewer =>
        exact (ih fewer (Nat.lt_succ_self fewer)).bind fun _ => steady_optionalKey.bind fun _ =>
          steady_optionalId.bind fun _ => steady_readText.bind fun _ => .pure _
    case h_20 => exact steady_readWord.bind fun _ => .pure _
    case h_21 => exact .fail _

theorem TransactionId.steady_read : Steady TransactionId.read :=
  EntityId.steady_read.bind fun _ => steady_readWord.bind fun _ =>
    steady_readFlag.bind fun _ => .pure _

theorem TransactionBody.steady_read : Steady TransactionBody.read :=
  TransactionId.steady_read.bind fun _ => steady_optionalId.bind fun _ =>
    steady_readText.bind fun _ => (Operation.steady_read _).bind fun _ => .pure _

theorem SignatureKind.steady_read : Steady SignatureKind.read := by
  unfold SignatureKind.read
  refine steady_readVariant.bind fun variant => ?_
  split
  case h_1 | h_2 | h_3 => exact .pure _
  case h_4 => exact .fail _

theorem SignaturePair.steady_read : Steady SignaturePair.read :=
  steady_readByteString.bind fun _ => SignatureKind.steady_read.bind fun _ =>
    steady_readByteString.bind fun _ => .pure _

theorem SignatureMap.steady_read : Steady SignatureMap.read :=
  steady_readSequence SignaturePair.steady_read

theorem Envelope.steady_read : Steady Envelope.read :=
  steady_readByteString.bind fun _ => steady_readByteString.bind fun _ => .pure _

namespace Format

theorem steady_read (format : Format) : Steady format.read := by
  cases format with
  | key => exact Key.steady_readNested
  | body => exact TransactionBody.steady_read
  | signatureMap => exact SignatureMap.steady_read
  | envelope => exact Envelope.steady_read

/-- Bytes that are accepted are a whole message, neither longer than one nor shorter, in whatever
widths their numbers are spelled. -/
theorem accepted_bytes_whole (format : Format) (bytes : Bytes) (value : format.Value)
    (accepted : format.decode bytes = .ok value) :
    (∀ more, more ≠ [] →
      format.decode (bytes ++ more) = .error (format.refusal .trailingBytes)) ∧
    ∀ front back, bytes = front ++ back → back ≠ [] →
      ∃ fault : Fault, fault.IsEnd ∧ format.decode front = .error (format.refusal fault) := by
  have answered := read_of_decode accepted
  constructor
  · intro more longer
    exact decode_of_run_error (format.steady_read.run_append answered longer)
  · intro front back same shorter
    rw [same] at answered
    obtain ⟨fault, ended, failed⟩ := format.steady_read.run_front answered shorter
    exact ⟨fault, ended, decode_of_run_error failed⟩

theorem guarded_topic_bytes_whole :
    TransactionBody.decode Sample.guardedTopicBytes =
      .ok ⟨⟨⟨0, 0, 2⟩, 0, false⟩, none, "", Sample.guardedTopic⟩ ∧
    TransactionBody.decode (Sample.guardedTopicBytes ++ [0]) =
      .error (Format.body.refusal .trailingBytes) ∧
    ∃ fault : Fault, fault.IsEnd ∧
      TransactionBody.decode Sample.guardedTopicBytes.dropLast =
        .error (Format.body.refusal fault) := by
  have accepted := TransactionBody.decode_guardedTopicBytes
  obtain ⟨longer, shorter⟩ := accepted_bytes_whole .body _ _ accepted
  refine ⟨accepted, longer [0] (List.cons_ne_nil 0 []), ?_⟩
  exact shorter Sample.guardedTopicBytes.dropLast [0] (by rfl) (List.cons_ne_nil 0 [])

end Format

end Signatory
