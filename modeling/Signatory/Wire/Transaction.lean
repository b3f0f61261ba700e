import Signatory.Transaction
import Signatory.Wire.Operation

/-!
Bodies, signature maps and envelopes as bytes. A body is accepted only if the keys in it, those of
scheduled operations included, are no deeper than keys may be.
-/
namespace Signatory
open Wire

namespace TransactionId

def wire (id : TransactionId) : Bytes := id.payer.wire ++ (word id.validStart ++ flag id.scheduled)

def read : Reader TransactionId := do
  return ⟨← EntityId.read, ← readWord, ← readFlag⟩

end TransactionId

namespace TransactionBody

def wire (body : TransactionBody) : Bytes :=
  body.id.wire ++ (option EntityId.wire body.nodeAccount ++ (text body.memo ++ body.operation.wire))

def read : Reader TransactionBody := do
  return ⟨← TransactionId.read, ← readOption EntityId.read, ← readText,
    ← Operation.read Operation.maxScheduleNesting⟩

def encode (body : TransactionBody) : Except TransactionError Bytes :=
  (bounded maxPartLength body.wire).mapError .malformedBody

def decode (bytes : Bytes) : Except TransactionError TransactionBody :=
  match read.run bytes with
  | .error fault => .error (.malformedBody fault)
  | .ok body =>
    let depth := Key.greatestDepth body.operation.embeddedKeys
    if depth ≤ Key.maxDepth then .ok body else .error (.keyTooDeep depth Key.maxDepth)

end TransactionBody

namespace SignatureKind

def wire : SignatureKind → Bytes
  | .key .ed25519 => number 0
  | .key .secp256k1 => number 1
  | .contract => number 2

def read : Reader SignatureKind := do
  match ← readVariant with
  | 0 => return .key .ed25519
  | 1 => return .key .secp256k1
  | 2 => return .contract
  | index => Reader.fail (.unknownVariant index 3)

end SignatureKind

namespace SignaturePair

def wire (pair : SignaturePair) : Bytes :=
  byteString pair.keyPrefix ++ (pair.kind.wire ++ byteString pair.signature)

def read : Reader SignaturePair := do
  return ⟨← readByteString, ← SignatureKind.read, ← readByteString⟩

end SignaturePair

namespace SignatureMap

def wire (pairs : SignatureMap) : Bytes := sequence SignaturePair.wire pairs

def read : Reader SignatureMap := readSequence SignaturePair.read

def encode (pairs : SignatureMap) : Except TransactionError Bytes :=
  (bounded maxPartLength (wire pairs)).mapError .malformedSignatureMap

def decode (bytes : Bytes) : Except TransactionError SignatureMap :=
  (read.run bytes).mapError .malformedSignatureMap

end SignatureMap

namespace Envelope

def maxLength : Nat := 2 * maxPartLength

def wire (envelope : Envelope) : Bytes :=
  byteString envelope.body ++ byteString envelope.signatureMap

def read : Reader Envelope := do
  return ⟨← readByteString, ← readByteString⟩

def ofParts (body : TransactionBody) (pairs : SignatureMap) : Except TransactionError Envelope := do
  return ⟨← body.encode, ← SignatureMap.encode pairs⟩

def encode (envelope : Envelope) : Except TransactionError Bytes :=
  (bounded maxLength envelope.wire).mapError .malformedEnvelope

def decode (bytes : Bytes) : Except TransactionError Envelope :=
  (read.run bytes).mapError .malformedEnvelope

end Envelope

end Signatory
