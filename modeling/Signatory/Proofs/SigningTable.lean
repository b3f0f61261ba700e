import Signatory.Proofs.Resolution
import Signatory.Proofs.Wire.Lengths

/-!
The signing order as a table: a row for each operation, an entry for each party in it that may have
to sign, and for each entry the condition on which its key is listed. Main statement: where
everything that a transaction names can be looked up, the keys of its other parties are those of its
row, in order and each as often as it is listed, but for new keys of files and contracts that are
empty; and there are exactly three ways in which a resolution still comes to nothing.
-/
namespace Signatory
open Wire

abbrev KnownEntities := (kind : EntityKind) → EntityId kind → EntityInfo kind

namespace KnownEntities

variable (known : KnownEntities)

def account (id : AccountId) : AccountInfo := known .account id

def file (id : FileId) : FileInfo := known .file id

def contract (id : ContractId) : ContractInfo := known .contract id

def topic (id : TopicId) : TopicInfo := known .topic id

def schedule (id : ScheduleId) : ScheduleInfo := known .schedule id

def HeldBy (ledger : Ledger) (entity : Entity) : Prop :=
  ledger.lookup entity.kind entity.id = .ok (known entity.kind entity.id)

end KnownEntities

def Operation.scheduledParties (payer : AccountId) : Operation → List Party
  | .plain operation => .account payer :: operation.parties
  | .createSchedule .. | .signSchedule _ | .deleteSchedule _ => []

namespace Party

def entity? : Party → Option Entity
  | .brought _ | .newFile _ | .nextFile _ | .nextContract _ => none
  | .account id | .receiver id => some id.entity
  | .adjusted transfer => some transfer.account.entity
  | .file id => some id.entity
  | .contract id => some id.entity
  | .topicAdmin id | .topicSubmit id => some id.entity

/-- The keys of the entry, its condition taken as it is written. -/
def listedKeys (known : KnownEntities) : Party → List Key
  | .brought key => key.toList
  | .newFile wacl => if wacl.isEmpty then [] else [wacl]
  | .nextFile wacl => wacl.toList
  | .nextContract none | .nextContract (some (.contract _)) => []
  | .nextContract (some adminKey) => [adminKey]
  | .account id => [(known.account id).key]
  | .receiver id => if (known.account id).receiverSigRequired then [(known.account id).key] else []
  | .adjusted transfer =>
    let party := known.account transfer.account
    if transfer.amount < 0 ∨ (0 < transfer.amount ∧ party.receiverSigRequired = true) then
      [party.key]
    else []
  | .file id => if (known.file id).wacl.isEmpty then [] else [(known.file id).wacl]
  | .contract id => [(known.contract id).adminKey]
  | .topicAdmin id => (known.topic id).adminKey.toList
  | .topicSubmit id => (known.topic id).submitKey.toList

def isSuccessor : Party → Bool
  | .nextFile _ | .nextContract _ => true
  | _ => false

/-- The keys of the entry, where a successor that is empty counts as absent. -/
def keys (known : KnownEntities) (party : Party) : List Key :=
  (party.listedKeys known).filter fun key => !(party.isSuccessor && key.isEmpty)

end Party

namespace Operation

variable (includeScheduled : Bool)

def deferredKeys (keysOf : Party → List Key) (payer : AccountId) (scheduled : Operation) :
    List RequiredKey :=
  if includeScheduled then
    ((scheduled.scheduledParties payer).flatMap keysOf).map .scheduled
  else []

def deferredEntities (payer : AccountId) (scheduled : Operation) : List Entity :=
  if includeScheduled then (scheduled.scheduledParties payer).filterMap Party.entity? else []

def deferredRefusal? (schedule : Option ScheduleId) (scheduled : Operation) : Option OrderError :=
  if !scheduled.isSchedulable then some ⟨.unschedulableTransaction, none⟩
  else if includeScheduled && !scheduled.encode.isOk then
    some ⟨.generalError, schedule.map EntityId.entity⟩
  else none

end Operation

namespace TransactionBody

variable (includeScheduled : Bool) (known : KnownEntities)

def tableKeys (keysOf : KnownEntities → Party → List Key) (body : TransactionBody) :
    List RequiredKey :=
  match body.operation with
  | .plain operation => (operation.parties.flatMap (keysOf known)).map .direct
  | .createSchedule scheduled adminKey payer _ => adminKey.toList.map .direct ++
    scheduled.deferredKeys includeScheduled (keysOf known) (payer.getD body.payer)
  | .signSchedule schedule =>
    let info := known.schedule schedule
    info.scheduled.deferredKeys includeScheduled (keysOf known) info.payer
  | .deleteSchedule schedule => (known.schedule schedule).adminKey.toList.map .direct

def tableEntities (body : TransactionBody) : List Entity :=
  match body.operation with
  | .plain operation => operation.parties.filterMap Party.entity?
  | .createSchedule scheduled _ payer _ =>
    scheduled.deferredEntities includeScheduled (payer.getD body.payer)
  | .signSchedule schedule =>
    let info := known.schedule schedule
    schedule.entity :: info.scheduled.deferredEntities includeScheduled info.payer
  | .deleteSchedule schedule => [schedule.entity]

def tableRefusal? (body : TransactionBody) : Option OrderError :=
  match body.operation with
  | .plain _ => none
  | .createSchedule scheduled _ _ _ => scheduled.deferredRefusal? includeScheduled none
  | .signSchedule schedule =>
    (known.schedule schedule).scheduled.deferredRefusal? includeScheduled (some schedule)
  | .deleteSchedule schedule =>
    if (known.schedule schedule).adminKey.isNone then
      some ⟨.immutableSchedule, some schedule.entity⟩
    else none

end TransactionBody

theorem Key.filter_singleton (key : Key) : [key].filter (!·.isEmpty) = key.unlessEmpty := by
  cases empty : key.isEmpty <;> simp [unlessEmpty, empty]

section Found

variable {ledger : Ledger} {known : KnownEntities}

theorem Ledger.reporting_of_held {kind : EntityKind} {id : EntityId kind}
    {reason : LookupFailure → OrderFailure} (held : known.HeldBy ledger id.entity) :
    reporting id reason (ledger.lookup kind id) = .ok (known kind id) :=
  mapError_eq_ok_iff.mpr held

namespace Party

theorem keys_of_kept {party : Party} (kept : party.isSuccessor = false) :
    party.keys known = party.listedKeys known := by
  simp [keys, kept]

theorem keys_nextFile (wacl : Option Key) :
    (nextFile wacl).keys known = wacl.toList.flatMap Key.unlessEmpty := by
  cases wacl with
  | none => rfl
  | some key => rw [Option.toList_some, List.flatMap_singleton, ← Key.filter_singleton]; rfl

theorem keys_nextContract (adminKey : Option Key) :
    (nextContract adminKey).keys known = newAdminKeys adminKey := by
  cases adminKey with
  | none => rfl
  | some key =>
    cases key with
    | contract id => rfl
    | simple | list | threshold => exact Key.filter_singleton _

theorem resolve_of_held (party : Party)
    (held : ∀ entity ∈ party.entity?, known.HeldBy ledger entity) :
    party.resolve ledger = .ok (party.keys known) := by
  cases party with
  | brought key | newFile key =>
    rw [keys_of_kept rfl]
    rfl
  | nextFile wacl =>
    rw [keys_nextFile]
    rfl
  | nextContract adminKey =>
    rw [keys_nextContract]
    rfl
  | account id | receiver id =>
    have found : ledger.partyAccount id = .ok (known.account id) :=
      Ledger.reporting_of_held (held _ rfl)
    rw [keys_of_kept rfl, resolve, found]
    rfl
  | adjusted transfer =>
    have found : ledger.partyAccount transfer.account = .ok (known.account transfer.account) :=
      Ledger.reporting_of_held (held _ rfl)
    rw [keys_of_kept rfl, resolve, found]
    simp [listedKeys, bind, Except.bind, pure, Except.pure]
  | file id =>
    have found : ledger.partyFile id = .ok (known.file id) := Ledger.reporting_of_held (held _ rfl)
    rw [keys_of_kept rfl, resolve, found]
    rfl
  | contract id =>
    have found : ledger.partyContract id = .ok (known.contract id) :=
      Ledger.reporting_of_held (held _ rfl)
    rw [keys_of_kept rfl, resolve, found]
    rfl
  | topicAdmin id | topicSubmit id =>
    have found : ledger.partyTopic id = .ok (known.topic id) :=
      Ledger.reporting_of_held (held _ rfl)
    rw [keys_of_kept rfl, resolve, found]
    rfl

theorem resolveAll_of_held (parties : List Party)
    (held : ∀ entity ∈ parties.filterMap entity?, known.HeldBy ledger entity) :
    resolveAll ledger parties = .ok (parties.flatMap (keys known)) := by
  induction parties with
  | nil => rfl
  | cons party parties ih =>
    have own : ∀ entity ∈ party.entity?, known.HeldBy ledger entity := by
      intro entity named
      exact held entity (List.mem_filterMap.mpr ⟨party, List.mem_cons_self .., named⟩)
    have others : ∀ entity ∈ parties.filterMap entity?, known.HeldBy ledger entity := by
      intro entity member
      obtain ⟨other, among, named⟩ := List.mem_filterMap.mp member
      exact held entity (List.mem_filterMap.mpr ⟨other, List.mem_cons_of_mem _ among, named⟩)
    rw [resolveAll, resolve_of_held party own, ih others, List.flatMap_cons]
    rfl

end Party

namespace Resolver

variable {resolver : Resolver} {body : TransactionBody}

theorem scheduledKeys_eq_resolveAll {operation : PlainOperation} {message : Bytes}
    (included : resolver.includeScheduled = true)
    (encoded : (Operation.plain operation).encode = .ok message) (payer : AccountId)
    (schedule : Option ScheduleId) :
    resolver.scheduledKeys (.plain operation) payer schedule =
      List.map .scheduled <$>
        Party.resolveAll resolver.ledger ((Operation.plain operation).scheduledParties payer) := by
  simp [scheduledKeys, included, encoded, Operation.scheduledParties, Party.resolveAll,
    Party.resolve, PlainOperation.partyKeys]

theorem scheduledKeys_of_unencodable {scheduled : Operation} {e : TransactionError}
    (schedulable : scheduled.isSchedulable = true) (included : resolver.includeScheduled = true)
    (unencodable : scheduled.encode = .error e) (payer : AccountId) (schedule : Option ScheduleId) :
    resolver.scheduledKeys scheduled payer schedule =
      .error ⟨.generalError, schedule.map EntityId.entity⟩ := by
  cases scheduled with
  | createSchedule | signSchedule | deleteSchedule => cases schedulable
  | plain operation => simp [scheduledKeys, included, unencodable]

theorem scheduledKeys_of_held (scheduled : Operation) (payer : AccountId)
    (schedule : Option ScheduleId)
    (held : ∀ entity ∈ scheduled.deferredEntities resolver.includeScheduled payer,
      known.HeldBy resolver.ledger entity) :
    resolver.scheduledKeys scheduled payer schedule =
      (scheduled.deferredRefusal? resolver.includeScheduled schedule).elim
        (.ok (scheduled.deferredKeys resolver.includeScheduled (Party.keys known) payer))
        .error := by
  cases scheduled with
  | createSchedule | signSchedule | deleteSchedule => rfl
  | plain operation =>
    unfold Operation.deferredEntities at held
    unfold Operation.deferredKeys Operation.deferredRefusal?
    cases included : resolver.includeScheduled with
    | false => simp [scheduledKeys, included, Operation.isSchedulable]
    | true =>
      rw [included] at held
      cases encoded : (Operation.plain operation).encode with
      | error e =>
        rw [scheduledKeys_of_unencodable rfl included encoded]
        rfl
      | ok message =>
        rw [scheduledKeys_eq_resolveAll included encoded, Party.resolveAll_of_held _ held]
        rfl

/-- The keys of the other parties of a transaction, where everything can be looked up that its row
names: those of the row, or the one report of why there are none. -/
theorem otherKeys_eq_table (resolver : Resolver) (known : KnownEntities) (body : TransactionBody)
    (held : ∀ entity ∈ body.tableEntities resolver.includeScheduled known,
      known.HeldBy resolver.ledger entity) :
    resolver.otherKeys body =
      (body.tableRefusal? resolver.includeScheduled known).elim
        (.ok (body.tableKeys resolver.includeScheduled known Party.keys)) .error := by
  unfold TransactionBody.tableEntities at held
  rw [otherKeys_eq]
  unfold requiredKeys TransactionBody.tableRefusal? TransactionBody.tableKeys
  cases operation : body.operation with
  | plain operation' =>
    simp only [operation] at held ⊢
    rw [PlainOperation.partyKeys, Party.resolveAll_of_held _ held]
    rfl
  | createSchedule scheduled adminKey payer memo =>
    simp only [operation] at held ⊢
    rw [scheduledKeys_of_held _ _ _ held]
    cases scheduled.deferredRefusal? resolver.includeScheduled none <;> rfl
  | signSchedule schedule =>
    simp only [operation, List.forall_mem_cons] at held ⊢
    have found : resolver.ledger.partySchedule schedule = .ok (known.schedule schedule) :=
      Ledger.reporting_of_held held.1
    rw [found]
    exact scheduledKeys_of_held _ _ _ held.2
  | deleteSchedule schedule =>
    simp only [operation] at held ⊢
    have found : resolver.ledger.partySchedule schedule = .ok (known.schedule schedule) :=
      Ledger.reporting_of_held (held _ (List.mem_singleton_self _))
    rw [found]
    cases admin : (known.schedule schedule).adminKey with
    | none => simp [admin, bind, Except.bind]
    | some adminKey => simp [admin, bind, Except.bind, pure, Except.pure]

end Resolver

end Found

namespace Sample

def keyOf (number : UInt8) : Key := .simple ⟨.ed25519, List.replicate 32 number⟩

def empty : Key := .list []

def fileUpdate : PlainOperation := .updateFile ⟨0, 0, 150⟩ (some empty) none

def registered : KnownEntities
  | .account, _ => (⟨keyOf 2, false⟩ : AccountInfo)
  | .file, _ => (⟨keyOf 20⟩ : FileInfo)
  | .contract, _ => (⟨keyOf 30, false⟩ : ContractInfo)
  | .topic, _ => (⟨none, none⟩ : TopicInfo)
  | .schedule, _ => (⟨none, ⟨0, 0, 2⟩, .plain fileUpdate⟩ : ScheduleInfo)

def registry : Resolver where
  ledger := ((((LedgerTables.empty.putAccount ⟨0, 0, 2⟩ ⟨keyOf 2, false⟩).putFile ⟨0, 0, 150⟩
    ⟨keyOf 20⟩).putContract ⟨0, 0, 300⟩ (some (keyOf 30)) false).putSchedule ⟨0, 0, 700⟩
    ⟨none, ⟨0, 0, 2⟩, .plain fileUpdate⟩).ledger
  includeScheduled := true

def call (length : Nat) : Operation := .plain (.callContract ⟨0, 0, 5⟩ 0 (List.replicate length 0))

theorem encode_call {length : Nat} (long : maxPartLength ≤ length) :
    (call length).encode = .error (.malformedBody .sizeLimit) := by
  have message := lt_length_byteString (List.replicate length 0)
  rw [List.length_replicate] at message
  have written : (call length).wire =
      [9, 0, 0, 5, 0] ++ byteString (List.replicate length 0) := rfl
  have beyond : maxPartLength < (call length).wire.length := by
    rw [written, List.length_append]
    omega
  rw [Operation.encode, mapError_bounded, if_neg (Nat.not_le.mpr beyond)]

def carrying (operation : Operation) : TransactionBody :=
  ⟨⟨⟨0, 0, 2⟩, 0, false⟩, none, "", operation⟩

def entities : List Entity :=
  [⟨.account, ⟨0, 0, 2⟩⟩, ⟨.file, ⟨0, 0, 150⟩⟩, ⟨.contract, ⟨0, 0, 300⟩⟩, ⟨.schedule, ⟨0, 0, 700⟩⟩]

theorem held_of_mem {entity : Entity} (member : entity ∈ entities) :
    registered.HeldBy registry.ledger entity := by
  simp only [entities, List.mem_cons, List.not_mem_nil, or_false] at member
  rcases member with rfl | rfl | rfl | rfl <;> rfl

end Sample

namespace Resolver

theorem kept_update_follows_table :
    (∀ entity ∈ (Sample.carrying (.signSchedule ⟨0, 0, 700⟩)).tableEntities true Sample.registered,
      entity ∈ Sample.entities) ∧
    Sample.registry.otherKeys (Sample.carrying (.signSchedule ⟨0, 0, 700⟩)) =
      .ok [.scheduled (Sample.keyOf 2), .scheduled (Sample.keyOf 20)] := by
  have named : ∀ entity ∈ (Sample.carrying (.signSchedule ⟨0, 0, 700⟩)).tableEntities true
      Sample.registered, entity ∈ Sample.entities := by decide
  refine ⟨named, ?_⟩
  rw [otherKeys_eq_table Sample.registry Sample.registered _ fun entity member =>
    Sample.held_of_mem (named entity member)]
  cbv

/-- The keys are those that the table lists, its conditions taken as they are written. -/
def FollowsTable (resolver : Resolver) (known : KnownEntities) (body : TransactionBody) : Prop :=
  (∀ entity ∈ body.tableEntities resolver.includeScheduled known,
    known.HeldBy resolver.ledger entity) →
  resolver.otherKeys body =
    .ok (body.tableKeys resolver.includeScheduled known Party.listedKeys)

theorem listed_of_followsTable {body : TransactionBody}
    (follows : FollowsTable Sample.registry Sample.registered body)
    (named : ∀ entity ∈ body.tableEntities true Sample.registered, entity ∈ Sample.entities) :
    Sample.registry.otherKeys body =
      .ok (body.tableKeys true Sample.registered Party.listedKeys) :=
  follows fun entity member => Sample.held_of_mem (named entity member)

/-- An empty key is listed for the file and for the two contracts, and not returned; the key of its
payer is listed for a call that is too long to be written, and the call is refused. -/
theorem table_not_followed :
    ¬ FollowsTable Sample.registry Sample.registered (Sample.carrying (.plain Sample.fileUpdate)) ∧
    ¬ FollowsTable Sample.registry Sample.registered
      (Sample.carrying (.plain (.createContract (some Sample.empty) none 0))) ∧
    ¬ FollowsTable Sample.registry Sample.registered
      (Sample.carrying (.plain (.updateContract ⟨0, 0, 300⟩ (some Sample.empty) none))) ∧
    ¬ FollowsTable Sample.registry Sample.registered
      (Sample.carrying (.createSchedule (Sample.call 6144) none none "")) := by
  refine ⟨?_, ?_, ?_, ?_⟩
  all_goals intro follows
  · exact absurd (listed_of_followsTable follows (by decide)) (by decide)
  · exact absurd (listed_of_followsTable follows (by decide)) (by decide)
  · exact absurd (listed_of_followsTable follows (by decide)) (by decide)
  · have refused : Sample.registry.scheduledKeys (Sample.call 6144) ⟨0, 0, 2⟩ none =
        .error ⟨.generalError, none⟩ :=
      scheduledKeys_of_unencodable rfl rfl (Sample.encode_call (Nat.le_refl _)) _ none
    have listed := listed_of_followsTable follows (by decide)
    rw [otherKeys_eq] at listed
    change (Sample.registry.scheduledKeys (Sample.call 6144) ⟨0, 0, 2⟩ none >>= _) = _ at listed
    rw [refused] at listed
    cases listed

end Resolver

end Signatory
