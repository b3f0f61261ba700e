import Signatory.Proofs.Wire.Reading

/-!
What is encoded and decoded on its own: keys, bodies, signature maps and envelopes. Each has a limit
for what is written of it. Statements about all of them are made once, about any format.
-/
namespace Signatory
open Wire

inductive Format where
  | key
  | body
  | signatureMap
  | envelope
deriving DecidableEq, Repr

namespace Format

def Value : Format → Type
  | .key => Key
  | .body => TransactionBody
  | .signatureMap => SignatureMap
  | .envelope => Envelope

def Refusal : Format → Type
  | .key => KeyError
  | .body | .signatureMap | .envelope => TransactionError

def limit : Format → Nat
  | .key => 2048
  | .body => 6144
  | .signatureMap => 6144
  | .envelope => 12288

def encode : (format : Format) → format.Value → Except format.Refusal Bytes
  | .key => Key.encode
  | .body => TransactionBody.encode
  | .signatureMap => SignatureMap.encode
  | .envelope => Envelope.encode

def decode : (format : Format) → Bytes → Except format.Refusal format.Value
  | .key => Key.decode
  | .body => TransactionBody.decode
  | .signatureMap => SignatureMap.decode
  | .envelope => Envelope.decode

def refusal : (format : Format) → Fault → format.Refusal
  | .key => .encoding
  | .body => .malformedBody
  | .signatureMap => .malformedSignatureMap
  | .envelope => .malformedEnvelope

def write : (format : Format) → format.Value → Bytes
  | .key => Key.wire
  | .body => TransactionBody.wire
  | .signatureMap => SignatureMap.wire
  | .envelope => Envelope.wire

def read : (format : Format) → Reader format.Value
  | .key => Key.readNested
  | .body => TransactionBody.read
  | .signatureMap => SignatureMap.read
  | .envelope => Envelope.read

variable {format : Format} {bytes : Bytes} {value : format.Value}

theorem limit_lt (format : Format) : format.limit < 2 ^ 64 := by
  cases format <;> decide

theorem encode_eq (format : Format) (value : format.Value) : format.encode value =
    if (format.write value).length ≤ format.limit then .ok (format.write value)
    else .error (format.refusal .sizeLimit) := by
  cases format <;> exact mapError_bounded _ _ _

theorem encode_of_le (fits : (format.write value).length ≤ format.limit) :
    format.encode value = .ok (format.write value) := by
  rw [encode_eq, if_pos fits]

theorem encode_of_lt (long : format.limit < (format.write value).length) :
    format.encode value = .error (format.refusal .sizeLimit) := by
  rw [encode_eq, if_neg (Nat.not_le.mpr long)]

theorem length_of_encode {written : Bytes} (encoded : format.encode value = .ok written) :
    (format.write value).length ≤ format.limit := by
  by_contra long
  rw [encode_of_lt (Nat.not_le.mp long)] at encoded
  cases encoded

theorem read_of_decode (accepted : format.decode bytes = .ok value) :
    format.read bytes = .ok (value, []) := by
  cases format with
  | key => exact (Key.decode_eq_ok_iff.mp accepted).1
  | body => exact (TransactionBody.decode_eq_ok_iff.mp accepted).1
  | signatureMap => exact SignatureMap.decode_eq_ok_iff.mp accepted
  | envelope => exact Envelope.decode_eq_ok_iff.mp accepted

theorem decode_of_run_error {fault : Fault} (failed : format.read.run bytes = .error fault) :
    format.decode bytes = .error (format.refusal fault) := by
  cases format with
  | key =>
    change Key.readNested.run bytes = .error fault at failed
    change Key.decode bytes = .error (.encoding fault)
    rw [Key.decode, failed]
  | body =>
    change TransactionBody.read.run bytes = .error fault at failed
    change TransactionBody.decode bytes = .error (.malformedBody fault)
    rw [TransactionBody.decode, failed]
  | signatureMap =>
    change SignatureMap.read.run bytes = .error fault at failed
    change SignatureMap.decode bytes = .error (.malformedSignatureMap fault)
    rw [SignatureMap.decode, failed, Except.mapError]
  | envelope =>
    change Envelope.read.run bytes = .error fault at failed
    change Envelope.decode bytes = .error (.malformedEnvelope fault)
    rw [Envelope.decode, failed, Except.mapError]

end Format

end Signatory
