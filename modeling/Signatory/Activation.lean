import Signatory.Key
import Signatory.StatusMap

/-!
Whether a key is satisfied by verified signatures. A public key is judged by a policy; a list needs
all of its children and at least one; a threshold needs as many as it says; a contract is never
satisfied. Evaluation stops as soon as the answer is known, and asks for the status of the same
bytes only once, also when several keys are evaluated one after another.
-/
namespace Signatory

/-- Whether a public key with a signature of this status, or without one, is satisfied. -/
abbrev Policy := PublicKey → Option VerificationStatus → Bool

namespace Policy

def strict : Policy := fun _ status => status == some .valid

/-- A signature counts unless it is known to be invalid. This never authorizes a transaction. -/
def permissive : Policy := fun _ status => status == some .valid || status == some .unknown

end Policy

namespace Activation

/-- What an evaluation has done: the statuses it remembers, the bytes it asked the status of, in
order, and how many public keys were judged. -/
structure Progress where
  remembered : Table Bytes (Option VerificationStatus)
  asked : List Bytes
  judged : Nat
deriving Repr

def Progress.start : Progress := ⟨[], [], 0⟩

abbrev Evaluation := StateM Progress

variable (statusOf : Bytes → Option VerificationStatus) (policy : Policy)

def consult (publicKey : Bytes) : Evaluation (Option VerificationStatus) := fun progress =>
  match Table.find? progress.remembered publicKey with
  | some status => (status, progress)
  | none =>
    let status := statusOf publicKey
    (status, { progress with
      remembered := Table.insert progress.remembered publicKey status
      asked := progress.asked ++ [publicKey] })

def judge (key : PublicKey) (status : Option VerificationStatus) : Evaluation Bool :=
  fun progress => (policy key status, { progress with judged := progress.judged + 1 })

mutual

def evaluate : Key → Evaluation Bool
  | .simple key => do judge policy key (← consult statusOf key.bytes)
  | .list keys => if keys.isEmpty then pure false else evaluateAll keys
  | .threshold needed keys => evaluateSome needed.children keys
  | .contract _ => pure false

def evaluateAll : List Key → Evaluation Bool
  | [] => pure true
  | key :: keys => do if ← evaluate key then evaluateAll keys else pure false

def evaluateSome (missing : Nat) : List Key → Evaluation Bool
  | [] => pure false
  | key :: keys => do
    let missing := if ← evaluate key then missing - 1 else missing
    if missing = 0 then pure true
    else if keys.length < missing then pure false
    else evaluateSome missing keys

end

end Activation

def Key.isActive (statusOf : Bytes → Option VerificationStatus) (policy : Policy) (key : Key) :
    Bool :=
  (Activation.evaluate statusOf policy key .start).1

def allActive (keys : List Key) (statuses : StatusMap) : Bool :=
  keys.all fun key => key.isActive (StatusMap.statusOf statuses) .strict

end Signatory
