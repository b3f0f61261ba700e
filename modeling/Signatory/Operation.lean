import Signatory.Key

/-!
The operations a transaction can carry. A plain operation acts at once and may be deferred by a
schedule; the operations on schedules themselves may not.
-/
namespace Signatory

/-- An adjustment of a balance: negative for a debit, positive for a credit. -/
structure Transfer where
  account : AccountId
  amount : Int64
deriving DecidableEq, Repr

inductive PlainOperation where
  | createAccount (key : Key) (receiverSigRequired : Bool) (initialBalance : UInt64)
  | transfer (transfers : List Transfer)
  | updateAccount (account : AccountId) (key : Option Key) (receiverSigRequired : Option Bool)
  | deleteAccount (account beneficiary : AccountId)
  | createFile (wacl : Key) (contents : Bytes)
  | appendFile (file : FileId) (contents : Bytes)
  | updateFile (file : FileId) (wacl : Option Key) (contents : Option Bytes)
  | deleteFile (file : FileId)
  | createContract (adminKey : Option Key) (autoRenew : Option AccountId) (gas : UInt64)
  | callContract (contract : ContractId) (gas : UInt64) (parameters : Bytes)
  | updateContract (contract : ContractId) (adminKey : Option Key) (autoRenew : Option AccountId)
  | deleteContract (contract : ContractId) (beneficiary : Option AccountId)
  | createTopic (adminKey submitKey : Option Key) (autoRenew : Option AccountId)
  | updateTopic (topic : TopicId) (adminKey submitKey : Option Key) (autoRenew : Option AccountId)
  | deleteTopic (topic : TopicId)
  | submitMessage (topic : TopicId) (message : Bytes)
  | freeze (start : UInt64)
deriving DecidableEq, Repr

inductive Operation where
  | plain (operation : PlainOperation)
  /-- Defers an operation until its signers have signed. Its payer is that of the enclosing
  transaction unless one is named. -/
  | createSchedule (scheduled : Operation) (adminKey : Option Key) (payer : Option AccountId)
      (memo : String)
  | signSchedule (schedule : ScheduleId)
  | deleteSchedule (schedule : ScheduleId)
deriving DecidableEq, Repr

def PlainOperation.embeddedKeys : PlainOperation → List Key
  | .createAccount key _ _ => [key]
  | .updateAccount _ key _ => key.toList
  | .createFile wacl _ => [wacl]
  | .updateFile _ wacl _ => wacl.toList
  | .createContract adminKey _ _ => adminKey.toList
  | .updateContract _ adminKey _ => adminKey.toList
  | .createTopic adminKey submitKey _ => adminKey.toList ++ submitKey.toList
  | .updateTopic _ adminKey submitKey _ => adminKey.toList ++ submitKey.toList
  | .transfer _ | .deleteAccount _ _ | .appendFile _ _ | .deleteFile _ | .callContract _ _ _
  | .deleteContract _ _ | .deleteTopic _ | .submitMessage _ _ | .freeze _ => []

namespace Operation

/-- The longest chain of schedules, each deferring the next, that is read from bytes. A schedule
of a schedule can be read, so that it can be refused as unschedulable. -/
def maxScheduleNesting : Nat := 2

def embeddedKeys : Operation → List Key
  | .plain operation => operation.embeddedKeys
  | .createSchedule scheduled adminKey _ _ => adminKey.toList ++ embeddedKeys scheduled
  | .signSchedule _ | .deleteSchedule _ => []

def isSchedulable : Operation → Bool
  | .plain _ => true
  | .createSchedule .. | .signSchedule _ | .deleteSchedule _ => false

/-- Whether the operation creates a schedule or signs one, so that its signatures may be for two
messages. -/
def collectsSignatures : Operation → Bool
  | .createSchedule .. | .signSchedule _ => true
  | .plain _ | .deleteSchedule _ => false

end Operation

end Signatory
