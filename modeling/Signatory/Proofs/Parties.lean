import Signatory.Proofs.Drafting

/-!
The parties that an operation names, as rows of a table: a row for each operation, an entry for
each party in it that may have to sign. Main statement: what a resolution adds to an order are the
keys of the entries of a row, one entry after another, until something cannot be found; so the keys
of the other parties of a transaction are those of a list.
-/
namespace Signatory

/-- An entry of a row: whose key is asked for, if anybody's. -/
inductive Party where
  | brought (key : Option Key)
  | newFile (wacl : Key)
  | nextFile (wacl : Option Key)
  | nextContract (adminKey : Option Key)
  | account (id : AccountId)
  | receiver (id : AccountId)
  | adjusted (transfer : Transfer)
  | file (id : FileId)
  | contract (id : ContractId)
  | topicAdmin (id : TopicId)
  | topicSubmit (id : TopicId)
deriving DecidableEq, Repr

def PlainOperation.parties : PlainOperation → List Party
  | .createAccount key receiverSigRequired _ =>
    [.brought (if receiverSigRequired then some key else none)]
  | .transfer transfers => transfers.map .adjusted
  | .updateAccount account key _ => [.account account, .brought key]
  | .deleteAccount account beneficiary => [.account account, .receiver beneficiary]
  | .createFile wacl _ => [.newFile wacl]
  | .appendFile file _ | .deleteFile file => [.file file]
  | .updateFile file wacl _ => [.file file, .nextFile wacl]
  | .createContract adminKey autoRenew _ => .nextContract adminKey :: autoRenew.toList.map .account
  | .callContract _ _ _ => []
  | .updateContract contract adminKey autoRenew =>
    .contract contract :: .nextContract adminKey :: autoRenew.toList.map .account
  | .deleteContract contract beneficiary => .contract contract :: beneficiary.toList.map .receiver
  | .createTopic adminKey _ autoRenew => .brought adminKey :: autoRenew.toList.map .account
  | .updateTopic topic adminKey _ autoRenew =>
    .topicAdmin topic :: .brought adminKey :: autoRenew.toList.map .account
  | .deleteTopic topic => [.topicAdmin topic]
  | .submitMessage topic _ => [.topicSubmit topic]
  | .freeze _ => []

def Key.unlessEmpty (key : Key) : List Key := if key.isEmpty then [] else [key]

def newAdminKeys : Option Key → List Key
  | none | some (.contract _) => []
  | some key => key.unlessEmpty

namespace Party

def resolve (ledger : Ledger) : Party → Except OrderError (List Key)
  | .brought key => return key.toList
  | .newFile wacl => return wacl.unlessEmpty
  | .nextFile wacl => return wacl.toList.flatMap Key.unlessEmpty
  | .nextContract adminKey => return newAdminKeys adminKey
  | .account id => do return [(← ledger.partyAccount id).key]
  | .receiver id => do
    let party ← ledger.partyAccount id
    return if party.receiverSigRequired then [party.key] else []
  | .adjusted transfer => do
    let party ← ledger.partyAccount transfer.account
    let signs := transfer.amount < 0 || (transfer.amount > 0 && party.receiverSigRequired)
    return if signs then [party.key] else []
  | .file id => do return (← ledger.partyFile id).wacl.unlessEmpty
  | .contract id => do return [(← ledger.partyContract id).adminKey]
  | .topicAdmin id => do return (← ledger.partyTopic id).adminKey.toList
  | .topicSubmit id => do return (← ledger.partyTopic id).submitKey.toList

def resolveAll (ledger : Ledger) : List Party → Except OrderError (List Key)
  | [] => return []
  | party :: parties => do
    let keys ← party.resolve ledger
    (keys ++ ·) <$> resolveAll ledger parties

theorem resolveAll_congr {one two : Ledger} {parties : List Party}
    (same : ∀ party ∈ parties, party.resolve one = party.resolve two) :
    resolveAll one parties = resolveAll two parties := by
  induction parties with
  | nil => rfl
  | cons party parties ih =>
    have first := same party (List.mem_cons_self ..)
    have rest := ih fun other among => same other (List.mem_cons_of_mem _ among)
    rw [resolveAll, resolveAll, first, rest]

end Party

def PlainOperation.partyKeys (ledger : Ledger) (operation : PlainOperation) :
    Except OrderError (List Key) :=
  Party.resolveAll ledger operation.parties

section Entries

open Drafting

variable {ledger : Ledger}

theorem Drafting.AddsKeys.unlessEmpty (key : Key) :
    AddsKeys (addUnlessEmpty key) (.ok key.unlessEmpty) := by
  unfold addUnlessEmpty Key.unlessEmpty
  split
  · exact .nothing
  · exact .key key

theorem Drafting.AddsKeys.entry {drafting further : Drafting Unit} {party : Party}
    {parties : List Party} (one : drafting.AddsKeys (party.resolve ledger))
    (rest : further.AddsKeys (Party.resolveAll ledger parties)) :
    AddsKeys (do drafting; further) (Party.resolveAll ledger (party :: parties)) :=
  one.seq rest

theorem Drafting.AddsKeys.foundEntry {α : Type} {found : Except OrderError α}
    {first : α → Drafting Unit} {further : Drafting Unit} {party : Party} {parties : List Party}
    (one : AddsKeys (do first (← found)) (party.resolve ledger))
    (rest : further.AddsKeys (Party.resolveAll ledger parties)) :
    AddsKeys (do first (← found); further) (Party.resolveAll ledger (party :: parties)) := by
  have adds := one.entry rest
  rwa [bind_assoc] at adds

theorem Drafting.AddsKeys.single {drafting : Drafting Unit} {party : Party}
    (adds : drafting.AddsKeys (party.resolve ledger)) :
    drafting.AddsKeys (Party.resolveAll ledger [party]) :=
  adds.congr (by simp [Party.resolveAll])

namespace Ledger

theorem addsKeys_if (condition : Bool) (key : Key) :
    AddsKeys (if condition then add key else return ())
      (.ok (if condition then [key] else [])) := by
  cases condition with
  | true => exact .key key
  | false => exact .nothing

theorem addsKeys_brought (key : Option Key) :
    AddsKeys (addIfPresent key) ((Party.brought key).resolve ledger) :=
  .ifPresent key

theorem addsKeys_newFile (wacl : Key) :
    AddsKeys (addUnlessEmpty wacl) ((Party.newFile wacl).resolve ledger) :=
  .unlessEmpty wacl

theorem addsKeys_nextFile (wacl : Option Key) :
    AddsKeys (wacl.forM addUnlessEmpty) ((Party.nextFile wacl).resolve ledger) := by
  cases wacl with
  | none => exact .nothing
  | some wacl =>
    exact (AddsKeys.unlessEmpty wacl).congr (by simp [Party.resolve, pure, Except.pure])

theorem addsKeys_nextContract (adminKey : Option Key) :
    AddsKeys (addNewAdmin adminKey) ((Party.nextContract adminKey).resolve ledger) := by
  cases adminKey with
  | none => exact .nothing
  | some key =>
    cases key with
    | contract => exact .nothing
    | simple | list | threshold => exact .unlessEmpty _

theorem addsKeys_transfer (transfer : Transfer) :
    (ledger.addTransfer transfer).AddsKeys ((Party.adjusted transfer).resolve ledger) :=
  .lookUp (ledger.partyAccount transfer.account) fun party => addsKeys_if _ party.key

theorem addsKeys_beneficiary (id : AccountId) :
    (ledger.addBeneficiary id).AddsKeys ((Party.receiver id).resolve ledger) :=
  .lookUp (ledger.partyAccount id) fun party => addsKeys_if _ party.key

theorem addsKeys_account (id : AccountId) :
    AddsKeys (do add (← ledger.partyAccount id).key) ((Party.account id).resolve ledger) :=
  .lookUp (ledger.partyAccount id) fun party => .key party.key

theorem addsKeys_file (id : FileId) :
    AddsKeys (do addUnlessEmpty (← ledger.partyFile id).wacl) ((Party.file id).resolve ledger) :=
  .lookUp (ledger.partyFile id) fun current => .unlessEmpty current.wacl

theorem addsKeys_contract (id : ContractId) :
    AddsKeys (do add (← ledger.partyContract id).adminKey) ((Party.contract id).resolve ledger) :=
  .lookUp (ledger.partyContract id) fun current => .key current.adminKey

theorem addsKeys_topicAdmin (id : TopicId) :
    AddsKeys (do addIfPresent (← ledger.partyTopic id).adminKey)
      ((Party.topicAdmin id).resolve ledger) :=
  .lookUp (ledger.partyTopic id) fun current => .ifPresent current.adminKey

theorem addsKeys_topicSubmit (id : TopicId) :
    AddsKeys (do addIfPresent (← ledger.partyTopic id).submitKey)
      ((Party.topicSubmit id).resolve ledger) :=
  .lookUp (ledger.partyTopic id) fun current => .ifPresent current.submitKey

theorem addsKeys_autoRenew (autoRenew : Option AccountId) :
    (ledger.addAutoRenew autoRenew).AddsKeys
      (Party.resolveAll ledger (autoRenew.toList.map .account)) := by
  cases autoRenew with
  | none => exact .nothing
  | some id => exact (addsKeys_account id).single

theorem addsKeys_transfers (transfers : List Transfer) :
    AddsKeys (transfers.forM ledger.addTransfer)
      (Party.resolveAll ledger (transfers.map .adjusted)) := by
  induction transfers with
  | nil => exact .nothing
  | cons transfer transfers ih => exact (addsKeys_transfer transfer).entry ih

end Ledger

open Ledger in
theorem PlainOperation.addsKeys (ledger : Ledger) (operation : PlainOperation) :
    (operation.addParties ledger).AddsKeys (operation.partyKeys ledger) := by
  cases operation with
  | createAccount key receiverSigRequired =>
    cases receiverSigRequired with
    | true => exact .key key
    | false => exact .nothing
  | transfer transfers => exact addsKeys_transfers transfers
  | updateAccount account key =>
    exact (addsKeys_account account).foundEntry (addsKeys_brought key).single
  | deleteAccount account beneficiary =>
    exact (addsKeys_account account).foundEntry (addsKeys_beneficiary beneficiary).single
  | createFile wacl => exact AddsKeys.single (addsKeys_newFile wacl)
  | appendFile file | deleteFile file => exact (addsKeys_file file).single
  | updateFile file wacl => exact (addsKeys_file file).foundEntry (addsKeys_nextFile wacl).single
  | createContract adminKey autoRenew =>
    exact (addsKeys_nextContract adminKey).entry (addsKeys_autoRenew autoRenew)
  | callContract | freeze => exact .nothing
  | updateContract contract adminKey autoRenew =>
    refine (addsKeys_contract contract).foundEntry ?_
    exact (addsKeys_nextContract adminKey).entry (addsKeys_autoRenew autoRenew)
  | deleteContract contract beneficiary =>
    refine (addsKeys_contract contract).foundEntry ?_
    cases beneficiary with
    | none => exact .nothing
    | some id => exact (addsKeys_beneficiary id).single
  | createTopic adminKey submitKey autoRenew =>
    exact (addsKeys_brought adminKey).entry (addsKeys_autoRenew autoRenew)
  | updateTopic topic adminKey submitKey autoRenew =>
    refine (addsKeys_topicAdmin topic).foundEntry ?_
    exact (addsKeys_brought adminKey).entry (addsKeys_autoRenew autoRenew)
  | deleteTopic topic => exact (addsKeys_topicAdmin topic).single
  | submitMessage topic => exact (addsKeys_topicSubmit topic).single

end Entries

namespace Resolver

def scheduledKeys (resolver : Resolver) (scheduled : Operation) (payer : AccountId)
    (schedule : Option ScheduleId) : SigningOrder :=
  match scheduled with
  | .plain operation =>
    if !resolver.includeScheduled then .ok []
    else
      match scheduled.encode with
      | .error _ => .error ⟨.generalError, schedule.map EntityId.entity⟩
      | .ok _ => do
        let payer ← resolver.ledger.partyAccount payer
        let parties ← operation.partyKeys resolver.ledger
        return (payer.key :: parties).map .scheduled
  | .createSchedule .. | .signSchedule _ | .deleteSchedule _ =>
    .error ⟨.unschedulableTransaction, none⟩

def requiredKeys (resolver : Resolver) (body : TransactionBody) : SigningOrder :=
  match body.operation with
  | .plain operation => return (← operation.partyKeys resolver.ledger).map .direct
  | .createSchedule scheduled adminKey payer _ => do
    let signers ← resolver.scheduledKeys scheduled (payer.getD body.payer) none
    return adminKey.toList.map .direct ++ signers
  | .signSchedule schedule => do
    let info ← resolver.ledger.partySchedule schedule
    resolver.scheduledKeys info.scheduled info.payer (some schedule)
  | .deleteSchedule schedule => do
    let info ← resolver.ledger.partySchedule schedule
    match info.adminKey with
    | some adminKey => return [.direct adminKey]
    | none => .error ⟨.immutableSchedule, some schedule.entity⟩

variable (resolver : Resolver)

theorem adds_scheduledKeys (scheduled : Operation) (payer : AccountId)
    (schedule : Option ScheduleId) :
    (resolver.addScheduledSigners scheduled payer schedule).Adds fun _ =>
      resolver.scheduledKeys scheduled payer schedule := by
  cases scheduled with
  | createSchedule | signSchedule | deleteSchedule => exact .refused _
  | plain operation =>
    simp only [addScheduledSigners, scheduledKeys]
    cases resolver.includeScheduled with
    | false => exact .nothing
    | true =>
      cases (Operation.plain operation).encode with
      | error => exact .refused _
      | ok message =>
        have payerFirst := Drafting.AddsKeys.lookUp (resolver.ledger.partyAccount payer)
          fun info => (Drafting.AddsKeys.key info.key).seq (operation.addsKeys resolver.ledger)
        refine payerFirst.meanwhile.congr fun _ => ?_
        cases resolver.ledger.partyAccount payer with
        | error => rfl
        | ok info => cases operation.partyKeys resolver.ledger <;> rfl

/-- The resolution of the other parties puts the listed keys behind those of any order, flagged as
listed, and leaves the flag of the order as it was, also when it fails. -/
theorem ends_requiredKeys (body : TransactionBody) (draft : OrderDraft)
    (direct : draft.forScheduled = false) :
    Drafting.Ends draft (resolver.requiredKeys body)
      ((resolver.addOtherParties body.operation body.payer).run.run draft) := by
  unfold requiredKeys
  cases body.operation with
  | plain operation =>
    have ends := operation.addsKeys resolver.ledger draft
    rw [direct] at ends
    exact ends
  | createSchedule scheduled adminKey named memo =>
    have signers := resolver.adds_scheduledKeys scheduled (named.getD body.payer) none
    have ends := Drafting.Adds.seq (Drafting.AddsKeys.ifPresent adminKey) signers draft
    rw [direct] at ends
    exact ends
  | signSchedule schedule =>
    exact Drafting.Adds.lookUp (resolver.ledger.partySchedule schedule)
      (fun info => resolver.adds_scheduledKeys info.scheduled info.payer (some schedule)) draft
  | deleteSchedule schedule =>
    have told (info : ScheduleInfo) : Drafting.Adds
        (match info.adminKey with
          | some adminKey => Drafting.add adminKey
          | none => throw ⟨.immutableSchedule, some schedule.entity⟩)
        fun forScheduled => match info.adminKey with
          | some adminKey => .ok [⟨adminKey, forScheduled⟩]
          | none => .error ⟨.immutableSchedule, some schedule.entity⟩ := by
      cases info.adminKey with
      | none => exact .refused _
      | some adminKey => exact .key adminKey
    have ends := Drafting.Adds.lookUp (resolver.ledger.partySchedule schedule) told draft
    rw [direct] at ends
    exact ends

theorem otherKeys_eq (body : TransactionBody) :
    resolver.otherKeys body = resolver.requiredKeys body :=
  (resolver.ends_requiredKeys body ⟨[], false⟩ rfl).order_eq

theorem payerKeys_eq (body : TransactionBody) :
    resolver.payerKeys body = (do
      let payer ← Ledger.reporting body.payer (fun _ => .invalidPayerAccount)
        (resolver.ledger.account body.payer)
      return [.direct payer.key]) := by
  let found := Ledger.reporting body.payer (fun _ => .invalidPayerAccount)
    (resolver.ledger.account body.payer)
  exact (Drafting.Adds.lookUp found fun payer => .key payer.key).order_eq

end Resolver

end Signatory
