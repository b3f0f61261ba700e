import Signatory.Operation
import Signatory.Wire.Key

/-!
Operations as bytes: the number of the operation, then its fields in order. The bytes of a
scheduled operation alone are what its signers sign, so they do not depend on who submits it.
-/
namespace Signatory
open Wire

def maxPartLength : Nat := 6144

inductive TransactionError where
  | malformedEnvelope (fault : Fault)
  | malformedBody (fault : Fault)
  | keyTooDeep (depth limit : Nat)
  | malformedSignatureMap (fault : Fault)
deriving DecidableEq, Repr

def TransactionError.message : TransactionError → String
  | .malformedEnvelope fault => "Malformed signed transaction: " ++ fault.message
  | .malformedBody fault => "Malformed transaction body: " ++ fault.message
  | .keyTooDeep depth limit =>
    "Embedded key depth " ++ toString depth ++ " exceeds maximum " ++ toString limit
  | .malformedSignatureMap fault => "Malformed signature map: " ++ fault.message

namespace Transfer

def wire (transfer : Transfer) : Bytes := transfer.account.wire ++ signed transfer.amount

def read : Reader Transfer := do
  return ⟨← EntityId.read, ← readSigned⟩

end Transfer

namespace PlainOperation

def wire : PlainOperation → Bytes
  | .createAccount key receiverSigRequired initialBalance =>
    number 0 ++ (key.wire ++ (flag receiverSigRequired ++ word initialBalance))
  | .transfer transfers => number 1 ++ sequence Transfer.wire transfers
  | .updateAccount account key receiverSigRequired =>
    number 2 ++ (account.wire ++ (option Key.wire key ++ option flag receiverSigRequired))
  | .deleteAccount account beneficiary => number 3 ++ (account.wire ++ beneficiary.wire)
  | .createFile wacl contents => number 4 ++ (wacl.wire ++ byteString contents)
  | .appendFile file contents => number 5 ++ (file.wire ++ byteString contents)
  | .updateFile file wacl contents =>
    number 6 ++ (file.wire ++ (option Key.wire wacl ++ option byteString contents))
  | .deleteFile file => number 7 ++ file.wire
  | .createContract adminKey autoRenew gas =>
    number 8 ++ (option Key.wire adminKey ++ (option EntityId.wire autoRenew ++ word gas))
  | .callContract contract gas parameters =>
    number 9 ++ (contract.wire ++ (word gas ++ byteString parameters))
  | .updateContract contract adminKey autoRenew =>
    number 10 ++ (contract.wire ++ (option Key.wire adminKey ++ option EntityId.wire autoRenew))
  | .deleteContract contract beneficiary =>
    number 11 ++ (contract.wire ++ option EntityId.wire beneficiary)
  | .createTopic adminKey submitKey autoRenew =>
    number 12 ++
      (option Key.wire adminKey ++ (option Key.wire submitKey ++ option EntityId.wire autoRenew))
  | .updateTopic topic adminKey submitKey autoRenew =>
    number 13 ++ (topic.wire ++ (option Key.wire adminKey ++
      (option Key.wire submitKey ++ option EntityId.wire autoRenew)))
  | .deleteTopic topic => number 14 ++ topic.wire
  | .submitMessage topic message => number 15 ++ (topic.wire ++ byteString message)
  | .freeze start => number 19 ++ word start

end PlainOperation

namespace Operation

def wire : Operation → Bytes
  | .plain operation => operation.wire
  | .createSchedule scheduled adminKey payer memo =>
    number 16 ++ (wire scheduled ++
      (option Key.wire adminKey ++ (option EntityId.wire payer ++ text memo)))
  | .signSchedule schedule => number 17 ++ schedule.wire
  | .deleteSchedule schedule => number 18 ++ schedule.wire

def read (levels : Nat) : Reader Operation := do
  match ← readVariant with
  | 0 => return .plain (.createAccount (← Key.readNested) (← readFlag) (← readWord))
  | 1 => return .plain (.transfer (← readSequence Transfer.read))
  | 2 =>
    return .plain (.updateAccount (← EntityId.read) (← readOption Key.readNested)
      (← readOption readFlag))
  | 3 => return .plain (.deleteAccount (← EntityId.read) (← EntityId.read))
  | 4 => return .plain (.createFile (← Key.readNested) (← readByteString))
  | 5 => return .plain (.appendFile (← EntityId.read) (← readByteString))
  | 6 =>
    return .plain (.updateFile (← EntityId.read) (← readOption Key.readNested)
      (← readOption readByteString))
  | 7 => return .plain (.deleteFile (← EntityId.read))
  | 8 =>
    return .plain (.createContract (← readOption Key.readNested) (← readOption EntityId.read)
      (← readWord))
  | 9 => return .plain (.callContract (← EntityId.read) (← readWord) (← readByteString))
  | 10 =>
    return .plain (.updateContract (← EntityId.read) (← readOption Key.readNested)
      (← readOption EntityId.read))
  | 11 => return .plain (.deleteContract (← EntityId.read) (← readOption EntityId.read))
  | 12 =>
    return .plain (.createTopic (← readOption Key.readNested) (← readOption Key.readNested)
      (← readOption EntityId.read))
  | 13 =>
    return .plain (.updateTopic (← EntityId.read) (← readOption Key.readNested)
      (← readOption Key.readNested) (← readOption EntityId.read))
  | 14 => return .plain (.deleteTopic (← EntityId.read))
  | 15 => return .plain (.submitMessage (← EntityId.read) (← readByteString))
  | 16 =>
    match levels with
    | 0 => Reader.fail (.scheduleNesting maxScheduleNesting)
    | levels + 1 =>
      return .createSchedule (← read levels) (← readOption Key.readNested)
        (← readOption EntityId.read) (← readText)
  | 17 => return .signSchedule (← EntityId.read)
  | 18 => return .deleteSchedule (← EntityId.read)
  | 19 => return .plain (.freeze (← readWord))
  | index => Reader.fail (.unknownVariant index 20)

/-- The bytes of the operation alone, which the signers of a scheduled operation sign. -/
def encode (operation : Operation) : Except TransactionError Bytes :=
  (bounded maxPartLength operation.wire).mapError .malformedBody

end Operation

end Signatory
