import Signatory.Key

/-!
What is required of the parties of a transaction: keys in order, some of them for a scheduled
operation only, or a report of why they cannot be told. The keys are put into the order one by one,
and a flag says whether they are for a scheduled operation.
-/
namespace Signatory

structure RequiredKey where
  key : Key
  forScheduled : Bool
deriving DecidableEq, Repr

namespace RequiredKey

def direct (key : Key) : RequiredKey := ⟨key, false⟩

def scheduled (key : Key) : RequiredKey := ⟨key, true⟩

end RequiredKey

inductive OrderFailure where
  | missingAccount
  | invalidAccount
  | invalidPayerAccount
  | missingFile
  | invalidContract
  | immutableContract
  | invalidTopic
  | invalidSchedule
  | immutableSchedule
  | unschedulableTransaction
  | generalError
deriving DecidableEq, Repr

def OrderFailure.message : OrderFailure → String
  | .missingAccount => "missing account"
  | .invalidAccount => "invalid account"
  | .invalidPayerAccount => "invalid payer account"
  | .missingFile => "missing file"
  | .invalidContract => "invalid contract"
  | .immutableContract => "immutable contract"
  | .invalidTopic => "invalid topic"
  | .invalidSchedule => "invalid schedule"
  | .immutableSchedule => "immutable schedule"
  | .unschedulableTransaction => "unschedulable transaction"
  | .generalError => "general resolution error"

structure OrderError where
  reason : OrderFailure
  entity : Option Entity
deriving DecidableEq, Repr

def OrderError.message (e : OrderError) : String :=
  e.reason.message ++ " (" ++ (e.entity.elim "no entity" Entity.text) ++ ")"

abbrev SigningOrder := Except OrderError (List RequiredKey)

def SigningOrder.keys (order : SigningOrder) : List RequiredKey := order.toOption.getD []

def SigningOrder.error? (order : SigningOrder) : Option OrderError :=
  match order with
  | .ok _ => none
  | .error e => some e

/-- An order that is being made. The flag is that of the keys that are added next. -/
structure OrderDraft where
  keys : List RequiredKey
  forScheduled : Bool
deriving DecidableEq, Repr

/-- What adds to an order, or fails with a report. The order is there also after a failure. -/
abbrev Drafting := ExceptT OrderError (StateM OrderDraft)

namespace Drafting

def add (key : Key) : Drafting Unit :=
  modify fun draft => { draft with keys := draft.keys ++ [⟨key, draft.forScheduled⟩] }

def addIfPresent (key : Option Key) : Drafting Unit := key.forM add

def addUnlessEmpty (key : Key) : Drafting Unit := if key.isEmpty then return () else add key

def addNewAdmin : Option Key → Drafting Unit
  | none | some (.contract _) => return ()
  | some key => addUnlessEmpty key

/-- Switches the flag on meanwhile, and back to what it was, however it ends. -/
def forScheduled (drafting : Drafting Unit) : Drafting Unit := do
  let before := (← get).forScheduled
  modify fun draft => { draft with forScheduled := true }
  let outcome ← ExceptT.lift drafting.run
  modify fun draft => { draft with forScheduled := before }
  outcome

def order (drafting : Drafting Unit) : SigningOrder :=
  let (outcome, draft) := (drafting.run.run ⟨[], false⟩).run
  outcome.map fun _ => draft.keys

end Drafting

end Signatory
