import Signatory.Key
import Signatory.Wire.Reader

/-!
Keys as bytes. Any key has a written form; a key is written if that form is within the limit, and
read if it nests no deeper than keys may. Branches are counted while they are read, so that no
bytes lead the reader deeper than one level beyond the limit.
-/
namespace Signatory
open Wire

inductive KeyError where
  | zeroThreshold
  | tooDeep (depth limit : Nat)
  | encoding (fault : Fault)
deriving DecidableEq, Repr

def KeyError.message : KeyError → String
  | .zeroThreshold => "Threshold must be at least 1"
  | .tooDeep depth limit =>
    "Key depth " ++ toString depth ++ " exceeds maximum " ++ toString limit
  | .encoding fault => "Key encoding error: " ++ fault.message

namespace EntityId

variable {kind : EntityKind}

def wire (id : EntityId kind) : Bytes := word id.shard ++ word id.realm ++ word id.num

def read : Reader (EntityId kind) := do
  return ⟨← readWord, ← readWord, ← readWord⟩

end EntityId

namespace Threshold

def wire (threshold : Threshold) : Bytes := short threshold.count

def read : Reader Threshold := do
  match ofCount? (← readShort) with
  | some threshold => return threshold
  | none => Reader.fail .zeroThreshold

end Threshold

namespace Key

def maxLength : Nat := 2048

mutual

def wire : Key → Bytes
  | .simple ⟨.ed25519, bytes⟩ => number 0 ++ byteString bytes
  | .simple ⟨.secp256k1, bytes⟩ => number 1 ++ byteString bytes
  | .list keys => number 2 ++ (number keys.length ++ wireAll keys)
  | .threshold needed keys => number 3 ++ (needed.wire ++ (number keys.length ++ wireAll keys))
  | .contract id => number 4 ++ id.wire

def wireAll : List Key → Bytes
  | [] => []
  | key :: keys => wire key ++ wireAll keys

end

/-- Reads a key in which at most `levels` branches lie on one path. -/
def read (levels : Nat) : Reader Key := do
  match ← readVariant with
  | 0 => return .simple ⟨.ed25519, ← readByteString⟩
  | 1 => return .simple ⟨.secp256k1, ← readByteString⟩
  | 2 =>
    match levels with
    | 0 => Reader.fail (.keyNesting maxDepth)
    | levels + 1 => return .list (← readSequence (read levels))
  | 3 =>
    let needed ← Threshold.read
    match levels with
    | 0 => Reader.fail (.keyNesting maxDepth)
    | levels + 1 => return .threshold needed (← readSequence (read levels))
  | 4 => return .contract (← EntityId.read)
  | index => Reader.fail (.unknownVariant index 5)

/-- Reads a key anywhere in a message. A valid key opens one branch less than is let through, so
that a key that is too deep by one can be told by its depth. -/
def readNested : Reader Key := read maxDepth

def encode (key : Key) : Except KeyError Bytes :=
  (bounded maxLength key.wire).mapError .encoding

def decode (bytes : Bytes) : Except KeyError Key :=
  match readNested.run bytes with
  | .error fault => .error (.encoding fault)
  | .ok key =>
    if key.depth ≤ maxDepth then .ok key else .error (.tooDeep key.depth maxDepth)

theorem wireAll_eq (keys : List Key) : wireAll keys = keys.flatMap wire := by
  induction keys with
  | nil => rfl
  | cons key keys ih => simp [wireAll, ih]

end Key

end Signatory
