import Signatory.Wire.Transaction

/-!
The layout of keys, operations and bodies, apart from how nested values are kept within bounds: how
the children of a key and the operation in a schedule are read is left to whoever uses a layout.
Main statement: the readers of keys, operations and bodies follow these layouts.
-/
namespace Signatory
open Wire

section Layouts

-- readers of whatever kind, among which are all plain ones
variable {m : Type → Type} [Monad m] [MonadLiftT Reader m]

namespace Wire

def readOptionWith {α : Type} (read : m α) : m (Option α) := do
  let b ← readByte
  if b = 0 then return none
  else if b = 1 then return some (← read)
  else Reader.fail (.notOption b)

def readManyWith {α : Type} (read : m α) : (count : Nat) → m (List α)
  | 0 => pure []
  | count + 1 => do
    let value ← read
    let rest ← readManyWith read count
    return value :: rest

def readSequenceWith {α : Type} (read : m α) : m (List α) := do
  readManyWith read (← readNumber)

def readEnd : Reader Unit
  | [] => .ok ((), [])
  | _ :: _ => .error .trailingBytes

def readWholeWith {α : Type} (read : m α) : m α := do
  let value ← read
  readEnd
  return value

end Wire

def Key.readWith (children : m (List Key)) : m Key := do
  match ← readVariant with
  | 0 => return .simple ⟨.ed25519, ← readByteString⟩
  | 1 => return .simple ⟨.secp256k1, ← readByteString⟩
  | 2 => return .list (← children)
  | 3 => return .threshold (← Threshold.read) (← children)
  | 4 => return .contract (← EntityId.read)
  | index => Reader.fail (.unknownVariant index 5)

def Operation.readWith (key : m Key) (scheduled : m Operation) : m Operation := do
  match ← readVariant with
  | 0 => return .plain (.createAccount (← key) (← readFlag) (← readWord))
  | 1 => return .plain (.transfer (← readSequence Transfer.read))
  | 2 =>
    return .plain (.updateAccount (← EntityId.read) (← readOptionWith key)
      (← readOption readFlag))
  | 3 => return .plain (.deleteAccount (← EntityId.read) (← EntityId.read))
  | 4 => return .plain (.createFile (← key) (← readByteString))
  | 5 => return .plain (.appendFile (← EntityId.read) (← readByteString))
  | 6 =>
    return .plain (.updateFile (← EntityId.read) (← readOptionWith key)
      (← readOption readByteString))
  | 7 => return .plain (.deleteFile (← EntityId.read))
  | 8 =>
    return .plain (.createContract (← readOptionWith key) (← readOption EntityId.read)
      (← readWord))
  | 9 => return .plain (.callContract (← EntityId.read) (← readWord) (← readByteString))
  | 10 =>
    return .plain (.updateContract (← EntityId.read) (← readOptionWith key)
      (← readOption EntityId.read))
  | 11 => return .plain (.deleteContract (← EntityId.read) (← readOption EntityId.read))
  | 12 =>
    return .plain (.createTopic (← readOptionWith key) (← readOptionWith key)
      (← readOption EntityId.read))
  | 13 =>
    return .plain (.updateTopic (← EntityId.read) (← readOptionWith key)
      (← readOptionWith key) (← readOption EntityId.read))
  | 14 => return .plain (.deleteTopic (← EntityId.read))
  | 15 => return .plain (.submitMessage (← EntityId.read) (← readByteString))
  | 16 =>
    return .createSchedule (← scheduled) (← readOptionWith key) (← readOption EntityId.read)
      (← readText)
  | 17 => return .signSchedule (← EntityId.read)
  | 18 => return .deleteSchedule (← EntityId.read)
  | 19 => return .plain (.freeze (← readWord))
  | index => Reader.fail (.unknownVariant index 20)

def TransactionBody.readWith (operation : m Operation) : m TransactionBody := do
  return ⟨← TransactionId.read, ← readOption EntityId.read, ← readText, ← operation⟩

end Layouts

theorem Wire.readManyWith_eq {α : Type} (read : Reader α) (count : Nat) :
    readManyWith read count = readMany read count := by
  induction count with
  | zero => rfl
  | succ count ih => rw [readManyWith, readMany, ih]

theorem Wire.readSequenceWith_eq {α : Type} (read : Reader α) :
    readSequenceWith read = readSequence read := by
  unfold readSequenceWith readSequence
  simp only [readManyWith_eq]
  rfl

theorem Wire.Reader.run_eq_readWholeWith {α : Type} (read : Reader α) (bytes : Bytes) :
    read.run bytes = (readWholeWith read bytes).map Prod.fst := by
  change read.run bytes =
    (read bytes >>= fun found => readEnd found.2 >>= fun ended => pure (found.1, ended.2)).map _
  unfold Reader.run
  cases read bytes with
  | error fault => rfl
  | ok found =>
    obtain ⟨value, rest⟩ := found
    cases rest <;> rfl

theorem Key.read_zero :
    Key.read 0 = Key.readWith (Reader.fail (.keyNesting maxDepth) : Reader (List Key)) := by
  rw [Key.read.eq_def]
  rfl

theorem Key.read_succ (levels : Nat) :
    Key.read (levels + 1) = Key.readWith (readSequenceWith (Key.read levels)) := by
  rw [Key.read.eq_def, readSequenceWith_eq]
  rfl

theorem Operation.read_zero :
    Operation.read 0 = Operation.readWith Key.readNested
      (Reader.fail (.scheduleNesting maxScheduleNesting) : Reader Operation) := by
  rw [Operation.read.eq_def]
  rfl

theorem Operation.read_succ (levels : Nat) :
    Operation.read (levels + 1) = Operation.readWith Key.readNested (Operation.read levels) := by
  rw [Operation.read.eq_def]
  rfl

theorem TransactionBody.read_eq :
    TransactionBody.read =
      TransactionBody.readWith (Operation.read Operation.maxScheduleNesting) := rfl

end Signatory
