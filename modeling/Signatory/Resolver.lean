import Signatory.Ledger
import Signatory.SigningOrder
import Signatory.Wire.Transaction

/-!
Which keys have to sign a transaction: those of the payer, and those of every other party that the
operation names, in the order it names them. The first entity that cannot be used ends the
resolution. A schedule requires, for the operation it defers, the keys of its payer and of the
parties of the operation, which is never a schedule again.
-/
namespace Signatory

namespace Ledger

def reporting {kind : EntityKind} {α : Type} (id : EntityId kind)
    (reason : LookupFailure → OrderFailure) (found : Except LookupFailure α) :
    Except OrderError α :=
  found.mapError fun failure => ⟨reason failure, some id.entity⟩

def partyAccount (ledger : Ledger) (id : AccountId) : Except OrderError AccountInfo :=
  reporting id (fun
    | .notFound => .missingAccount
    | .deleted | .unusable => .invalidAccount) (ledger.account id)

def partyFile (ledger : Ledger) (id : FileId) : Except OrderError FileInfo :=
  reporting id (fun _ => .missingFile) (ledger.file id)

def partyContract (ledger : Ledger) (id : ContractId) : Except OrderError ContractInfo :=
  reporting id (fun
    | .unusable => .immutableContract
    | .notFound | .deleted => .invalidContract) (ledger.contract id)

def partyTopic (ledger : Ledger) (id : TopicId) : Except OrderError TopicInfo :=
  reporting id (fun _ => .invalidTopic) (ledger.topic id)

def partySchedule (ledger : Ledger) (id : ScheduleId) : Except OrderError ScheduleInfo :=
  reporting id (fun _ => .invalidSchedule) (ledger.schedule id)

def addTransfer (ledger : Ledger) (transfer : Transfer) : Drafting Unit := do
  let party ← ledger.partyAccount transfer.account
  if transfer.amount < 0 || (transfer.amount > 0 && party.receiverSigRequired) then
    Drafting.add party.key

def addBeneficiary (ledger : Ledger) (id : AccountId) : Drafting Unit := do
  let party ← ledger.partyAccount id
  if party.receiverSigRequired then Drafting.add party.key

def addAutoRenew (ledger : Ledger) : Option AccountId → Drafting Unit
  | none => return ()
  | some id => do
    let party ← ledger.partyAccount id
    Drafting.add party.key

end Ledger

open Drafting in
def PlainOperation.addParties (ledger : Ledger) : PlainOperation → Drafting Unit
  | .createAccount key receiverSigRequired _ => if receiverSigRequired then add key else return ()
  | .transfer transfers => transfers.forM ledger.addTransfer
  | .updateAccount account key _ => do
    let target ← ledger.partyAccount account
    add target.key
    addIfPresent key
  | .deleteAccount account beneficiary => do
    let target ← ledger.partyAccount account
    add target.key
    ledger.addBeneficiary beneficiary
  | .createFile wacl _ => addUnlessEmpty wacl
  | .appendFile file _ | .deleteFile file => do
    let current ← ledger.partyFile file
    addUnlessEmpty current.wacl
  | .updateFile file wacl _ => do
    let current ← ledger.partyFile file
    addUnlessEmpty current.wacl
    wacl.forM addUnlessEmpty
  | .createContract adminKey autoRenew _ => do
    addNewAdmin adminKey
    ledger.addAutoRenew autoRenew
  | .callContract _ _ _ => return ()
  | .updateContract contract adminKey autoRenew => do
    let current ← ledger.partyContract contract
    add current.adminKey
    addNewAdmin adminKey
    ledger.addAutoRenew autoRenew
  | .deleteContract contract beneficiary => do
    let current ← ledger.partyContract contract
    add current.adminKey
    match beneficiary with
    | some account => ledger.addBeneficiary account
    | none => return ()
  | .createTopic adminKey _ autoRenew => do
    addIfPresent adminKey
    ledger.addAutoRenew autoRenew
  | .updateTopic topic adminKey _ autoRenew => do
    let current ← ledger.partyTopic topic
    addIfPresent current.adminKey
    addIfPresent adminKey
    ledger.addAutoRenew autoRenew
  | .deleteTopic topic => do
    let current ← ledger.partyTopic topic
    addIfPresent current.adminKey
  | .submitMessage topic _ => do
    let current ← ledger.partyTopic topic
    addIfPresent current.submitKey
  | .freeze _ => return ()

/-- Tells the keys of a transaction from a ledger, those of scheduled operations only if asked. -/
structure Resolver where
  ledger : Ledger
  includeScheduled : Bool

namespace Resolver

def payerKeys (resolver : Resolver) (body : TransactionBody) : SigningOrder :=
  Drafting.order do
    let payer ← Ledger.reporting body.payer (fun _ => .invalidPayerAccount)
      (resolver.ledger.account body.payer)
    Drafting.add payer.key

/-- Adds the keys that a scheduled operation requires when `payer` pays for it; `schedule` is where
it is kept, if it is kept already. Without bytes to sign nothing could satisfy them. -/
def addScheduledSigners (resolver : Resolver) (scheduled : Operation) (payer : AccountId)
    (schedule : Option ScheduleId) : Drafting Unit :=
  match scheduled with
  | .plain operation =>
    if !resolver.includeScheduled then return ()
    else
      match scheduled.encode with
      | .error _ => throw ⟨.generalError, schedule.map EntityId.entity⟩
      | .ok _ => Drafting.forScheduled do
        let payer ← resolver.ledger.partyAccount payer
        Drafting.add payer.key
        operation.addParties resolver.ledger
  | .createSchedule .. | .signSchedule _ | .deleteSchedule _ =>
    throw ⟨.unschedulableTransaction, none⟩

def addOtherParties (resolver : Resolver) (operation : Operation) (payer : AccountId) :
    Drafting Unit :=
  match operation with
  | .plain operation => operation.addParties resolver.ledger
  | .createSchedule scheduled adminKey named _ => do
    Drafting.addIfPresent adminKey
    resolver.addScheduledSigners scheduled (named.getD payer) none
  | .signSchedule schedule => do
    let info ← resolver.ledger.partySchedule schedule
    resolver.addScheduledSigners info.scheduled info.payer (some schedule)
  | .deleteSchedule schedule => do
    let info ← resolver.ledger.partySchedule schedule
    match info.adminKey with
    | some adminKey => Drafting.add adminKey
    | none => throw ⟨.immutableSchedule, some schedule.entity⟩

def otherKeys (resolver : Resolver) (body : TransactionBody) : SigningOrder :=
  Drafting.order (resolver.addOtherParties body.operation body.payer)

def scheduledOperation? (resolver : Resolver) (body : TransactionBody) :
    Except LookupFailure (Option Operation) :=
  match body.operation with
  | .createSchedule scheduled _ _ _ => .ok (some scheduled)
  | .signSchedule schedule => return some (← resolver.ledger.schedule schedule).scheduled
  | .plain _ | .deleteSchedule _ => .ok none

end Resolver

end Signatory
