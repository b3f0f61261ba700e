import Signatory.Proofs.Collection
import Signatory.Proofs.DistinctKeys

/-!
A ledger in tables and a store of collected signatures, over all that may be done to them. What a
lookup says is told by the history alone: by the last time the entity was entered, and by whether it
was marked as deleted since. Main statement: entities never entered are not found, those marked
since are deleted, whatever was entered, and all others are as they were last entered, where a
contract without a key that could administer it is unusable; and a schedule has collected the last
signature added under each public key.
-/
namespace Signatory

inductive StoreOperation where
  | putAccount (id : AccountId) (info : AccountInfo)
  | putFile (id : FileId) (info : FileInfo)
  | putContract (id : ContractId) (adminKey : Option Key) (receiverSigRequired : Bool)
  | putTopic (id : TopicId) (info : TopicInfo)
  | putSchedule (id : ScheduleId) (info : ScheduleInfo)
  | markDeleted (entity : Entity)
  | addSignature (schedule : ScheduleId) (publicKey signature : Bytes)
  | lookUp (entity : Entity)
  | collect (schedule : ScheduleId)
deriving DecidableEq

structure Stores where
  tables : LedgerTables
  collected : SignatureStore

namespace Stores

def empty : Stores := ⟨.empty, .empty⟩

def step (stores : Stores) : StoreOperation → Stores
  | .putAccount id info => { stores with tables := stores.tables.putAccount id info }
  | .putFile id info => { stores with tables := stores.tables.putFile id info }
  | .putContract id adminKey required =>
    { stores with tables := stores.tables.putContract id adminKey required }
  | .putTopic id info => { stores with tables := stores.tables.putTopic id info }
  | .putSchedule id info => { stores with tables := stores.tables.putSchedule id info }
  | .markDeleted entity => { stores with tables := stores.tables.markDeleted entity.id }
  | .addSignature schedule publicKey signature =>
    { stores with collected := stores.collected.add schedule publicKey signature }
  | .lookUp _ => stores
  | .collect _ => stores

def run (stores : Stores) (history : List StoreOperation) : Stores := history.foldl step stores

end Stores

inductive CannotAdminister : Option Key → Prop where
  | absent : CannotAdminister none
  | ofContract (id : ContractId) : CannotAdminister (some (.contract id))
  | ofNobody {key : Key} (empty : key.isEmpty = true) : CannotAdminister (some key)

namespace StoreOperation

/-- The operation enters the entity, so that lookups are to give this answer. -/
inductive Enters : {kind : EntityKind} → StoreOperation → EntityId kind →
    Except LookupFailure (EntityInfo kind) → Prop where
  | account (id : AccountId) (info : AccountInfo) : Enters (.putAccount id info) id (.ok info)
  | file (id : FileId) (info : FileInfo) : Enters (.putFile id info) id (.ok info)
  | contract (id : ContractId) (key : Key) (required : Bool)
      (usable : ¬ CannotAdminister (some key)) :
      Enters (.putContract id (some key) required) id (.ok (⟨key, required⟩ : ContractInfo))
  | immutable (id : ContractId) (adminKey : Option Key) (required : Bool)
      (unusable : CannotAdminister adminKey) :
      Enters (.putContract id adminKey required) id (.error .unusable)
  | topic (id : TopicId) (info : TopicInfo) : Enters (.putTopic id info) id (.ok info)
  | schedule (id : ScheduleId) (info : ScheduleInfo) : Enters (.putSchedule id info) id (.ok info)

def Puts {kind : EntityKind} (operation : StoreOperation) (id : EntityId kind) : Prop :=
  ∃ answer, operation.Enters id answer

theorem puts_putContract (id : ContractId) (adminKey : Option Key) (required : Bool) :
    (putContract id adminKey required).Puts id := by
  by_cases unusable : CannotAdminister adminKey
  · exact ⟨_, .immutable id adminKey required unusable⟩
  · cases adminKey with
    | none => exact absurd .absent unusable
    | some key => exact ⟨_, .contract id key required unusable⟩

theorem Enters.answer_ne {kind : EntityKind} {operation : StoreOperation} {id : EntityId kind}
    {answer : Except LookupFailure (EntityInfo kind)} (enters : operation.Enters id answer) :
    answer ≠ .error .notFound ∧ answer ≠ .error .deleted := by
  cases enters <;> simp

theorem entity_ne_of_puts {kind other : EntityKind} {operation : StoreOperation}
    {own : EntityId kind} {id : EntityId other} (puts : operation.Puts own)
    (unput : ¬ operation.Puts id) : own.entity ≠ id.entity := by
  intro same
  cases same
  exact unput puts

end StoreOperation

/-- The last operation of the history that enters the entity, and all that came after it. -/
structure LastPut {kind : EntityKind} (history : List StoreOperation) (id : EntityId kind)
    (put : StoreOperation) (after : List StoreOperation) : Prop where
  split : ∃ before, history = before ++ put :: after
  puts : put.Puts id
  last : ∀ operation ∈ after, ¬ operation.Puts id

section Last

variable {α : Type} {property : α → Prop}

theorem exists_last {values : List α} (some : ∃ value ∈ values, property value) :
    ∃ before found after, values = before ++ found :: after ∧ property found ∧
      ∀ value ∈ after, ¬ property value := by
  induction values with
  | nil => simp at some
  | cons value values ih =>
    by_cases later : ∃ value ∈ values, property value
    · obtain ⟨before, found, after, split, holds, last⟩ := ih later
      exact ⟨value :: before, found, after, by rw [split, List.cons_append], holds, last⟩
    · rw [List.exists_mem_cons_iff] at some
      have here := some.resolve_right later
      exact ⟨[], value, values, rfl, here, fun other member holds => later ⟨other, member, holds⟩⟩

end Last

namespace Table

variable {κ α : Type} [DecidableEq κ]

theorem modify_of_absent {table : Table κ α} {key : κ} (absent : table.find? key = none)
    (change : α → α) : table.modify key change = table := by
  induction table with
  | nil => rfl
  | cons entry rest ih =>
    rw [find?_cons] at absent
    by_cases same : entry.1 = key
    · simp [same] at absent
    · rw [if_neg same] at absent
      have kept : (modify (entry :: rest) key change) = entry :: modify rest key change := by
        simp [modify, same]
      rw [kept, ih absent]

end Table

namespace LedgerTables

variable (tables : LedgerTables) {kind other : EntityKind}

theorem table_update_same (change : Table (EntityId kind) (LedgerEntry kind) →
    Table (EntityId kind) (LedgerEntry kind)) :
    (tables.update kind change).table kind = change (tables.table kind) := by
  simp [update]

theorem table_update_of_ne (change : Table (EntityId kind) (LedgerEntry kind) →
    Table (EntityId kind) (LedgerEntry kind)) (differ : kind ≠ other) :
    (tables.update kind change).table other = tables.table other := by
  simp [update, differ]

def kept? (id : EntityId kind) : Option (LedgerEntry kind) := Table.find? (tables.table kind) id

theorem kept?_put_same (id : EntityId kind) (info : Option (EntityInfo kind)) :
    (tables.put id info).kept? id = some ⟨info, false⟩ := by
  rw [kept?, put, table_update_same, Table.find?_insert, if_pos rfl]

theorem kept?_put_of_ne (id : EntityId kind) (info : Option (EntityInfo kind))
    (asked : EntityId other) (differ : id.entity ≠ asked.entity) :
    (tables.put id info).kept? asked = tables.kept? asked := by
  rw [kept?, put]
  by_cases same : kind = other
  · subst same
    have away : id ≠ asked := fun h => differ (by rw [h])
    rw [table_update_same, Table.find?_insert, if_neg away]
    rfl
  · rw [table_update_of_ne _ _ same]
    rfl

theorem kept?_markDeleted_same (id : EntityId kind) :
    (tables.markDeleted id).kept? id =
      (tables.kept? id).map fun entry => { entry with deleted := true } := by
  rw [kept?, markDeleted, table_update_same, Table.find?_modify, if_pos rfl]
  rfl

theorem kept?_markDeleted_of_ne (id : EntityId kind) (asked : EntityId other)
    (differ : id.entity ≠ asked.entity) :
    (tables.markDeleted id).kept? asked = tables.kept? asked := by
  rw [kept?, markDeleted]
  by_cases same : kind = other
  · subst same
    have away : id ≠ asked := fun h => differ (by rw [h])
    rw [table_update_same, Table.find?_modify, if_neg away]
    rfl
  · rw [table_update_of_ne _ _ same]
    rfl

def answerOf : Option (LedgerEntry kind) → Except LookupFailure (EntityInfo kind)
  | none => .error .notFound
  | some ⟨_, true⟩ => .error .deleted
  | some ⟨none, false⟩ => .error .unusable
  | some ⟨some info, false⟩ => .ok info

theorem lookup_eq (id : EntityId kind) :
    tables.ledger.lookup kind id = answerOf (tables.kept? id) := by
  unfold ledger kept? answerOf
  rfl

theorem cannotAdminister_iff (key : Key) :
    CannotAdminister (some key) ↔ canAdminister key = false := by
  constructor
  · intro cannot
    cases cannot with
    | ofContract id => rfl
    | ofNobody empty =>
      cases key with
      | contract id => rfl
      | simple | list | threshold => simp [canAdminister, empty]
  · intro refused
    cases key with
    | contract id => exact .ofContract id
    | simple key => exact .ofNobody (by simpa [canAdminister] using refused)
    | list keys => exact .ofNobody (by simpa [canAdminister] using refused)
    | threshold needed keys => exact .ofNobody (by simpa [canAdminister] using refused)

theorem filter_canAdminister {adminKey : Option Key} (unusable : CannotAdminister adminKey) :
    adminKey.filter canAdminister = none := by
  cases adminKey with
  | none => rfl
  | some key =>
    have refused := (cannotAdminister_iff key).mp unusable
    simp [Option.filter, refused]

theorem filter_canAdminister_some {key : Key} (usable : ¬ CannotAdminister (some key)) :
    (some key).filter canAdminister = some key := by
  rw [cannotAdminister_iff, Bool.not_eq_false] at usable
  simp [Option.filter, usable]

theorem markDeleted_of_absent {id : EntityId kind} (absent : tables.kept? id = none) :
    tables.markDeleted id = tables := by
  have same : (tables.markDeleted id).table = tables.table := by
    funext other
    by_cases own : kind = other
    · subst own
      rw [markDeleted, table_update_same]
      exact Table.modify_of_absent absent _
    · rw [markDeleted, table_update_of_ne _ _ own]
  cases tables
  exact congrArg LedgerTables.mk same

end LedgerTables

namespace Stores

open StoreOperation

variable {kind : EntityKind} (stores : Stores) {operation : StoreOperation} {id : EntityId kind}

theorem kept?_step_of_enters {answer : Except LookupFailure (EntityInfo kind)}
    (enters : operation.Enters id answer) :
    ∃ info, (stores.step operation).tables.kept? id = some ⟨info, false⟩ ∧
      LedgerTables.answerOf (some ⟨info, false⟩) = answer := by
  cases enters with
  | account id info | file id info | topic id info | schedule id info =>
    exact ⟨_, LedgerTables.kept?_put_same .., rfl⟩
  | contract id key required usable =>
    refine ⟨_, LedgerTables.kept?_put_same .., ?_⟩
    rw [LedgerTables.filter_canAdminister_some usable]
    rfl
  | immutable id adminKey required unusable =>
    refine ⟨_, LedgerTables.kept?_put_same .., ?_⟩
    rw [LedgerTables.filter_canAdminister unusable]
    rfl

theorem kept?_step_of_mark :
    (stores.step (.markDeleted id.entity)).tables.kept? id =
      (stores.tables.kept? id).map fun entry => { entry with deleted := true } :=
  LedgerTables.kept?_markDeleted_same stores.tables id

theorem kept?_step_of_other (unput : ¬ operation.Puts id)
    (unmarked : operation ≠ .markDeleted id.entity) :
    (stores.step operation).tables.kept? id = stores.tables.kept? id := by
  cases operation with
  | putAccount own info =>
    apply LedgerTables.kept?_put_of_ne
    exact entity_ne_of_puts ⟨_, .account own info⟩ unput
  | putFile own info =>
    apply LedgerTables.kept?_put_of_ne
    exact entity_ne_of_puts ⟨_, .file own info⟩ unput
  | putContract own adminKey required =>
    apply LedgerTables.kept?_put_of_ne
    exact entity_ne_of_puts (puts_putContract own adminKey required) unput
  | putTopic own info =>
    apply LedgerTables.kept?_put_of_ne
    exact entity_ne_of_puts ⟨_, .topic own info⟩ unput
  | putSchedule own info =>
    apply LedgerTables.kept?_put_of_ne
    exact entity_ne_of_puts ⟨_, .schedule own info⟩ unput
  | markDeleted entity =>
    apply LedgerTables.kept?_markDeleted_of_ne
    intro same
    exact unmarked (congrArg StoreOperation.markDeleted same)
  | addSignature | lookUp | collect => rfl

theorem kept?_run {after : List StoreOperation}
    (unput : ∀ operation ∈ after, ¬ operation.Puts id) :
    (stores.run after).tables.kept? id = (stores.tables.kept? id).map fun entry =>
      { entry with deleted := entry.deleted || decide (.markDeleted id.entity ∈ after) } := by
  induction after generalizing stores with
  | nil => simp [run]
  | cons operation after ih =>
    rw [List.forall_mem_cons] at unput
    have rest := ih (stores.step operation) unput.2
    rw [run, List.foldl_cons]
    rw [run] at rest
    rw [rest]
    by_cases marks : operation = .markDeleted id.entity
    · subst marks
      rw [kept?_step_of_mark]
      cases stores.tables.kept? id <;> simp
    · rw [kept?_step_of_other stores unput.1 marks]
      simp [Ne.symm marks]

theorem run_append (before after : List StoreOperation) :
    stores.run (before ++ after) = (stores.run before).run after := List.foldl_append

def after (history : List StoreOperation) : Stores := empty.run history

theorem kept?_of_never {history : List StoreOperation}
    (unput : ∀ operation ∈ history, ¬ operation.Puts id) :
    (after history).tables.kept? id = none := by
  rw [after, kept?_run empty unput]
  rfl

theorem lookup_of_lastPut {history later : List StoreOperation} {put : StoreOperation}
    {answer : Except LookupFailure (EntityInfo kind)} (last : LastPut history id put later)
    (enters : put.Enters id answer) :
    (after history).tables.ledger.lookup kind id =
      if .markDeleted id.entity ∈ later then .error .deleted else answer := by
  obtain ⟨before, rfl⟩ := last.split
  obtain ⟨info, entered, told⟩ := kept?_step_of_enters (empty.run before) enters
  have split : after (before ++ put :: later) = ((empty.run before).step put).run later :=
    run_append empty before (put :: later)
  rw [LedgerTables.lookup_eq, split, kept?_run _ last.last, entered]
  by_cases marked : .markDeleted id.entity ∈ later
  · rw [if_pos marked]
    simp [marked, LedgerTables.answerOf]
  · rw [if_neg marked, ← told]
    simp [marked]

theorem exists_lastPut {history : List StoreOperation}
    (entered : ∃ operation ∈ history, operation.Puts id) :
    ∃ put later, LastPut history id put later := by
  obtain ⟨before, put, later, split, puts, last⟩ := exists_last entered
  exact ⟨put, later, ⟨before, split⟩, puts, last⟩

theorem notFound_iff (history : List StoreOperation) (id : EntityId kind) :
    (after history).tables.ledger.lookup kind id = .error .notFound ↔
      ∀ operation ∈ history, ¬ operation.Puts id := by
  constructor
  · intro told operation member puts
    obtain ⟨put, later, last⟩ := exists_lastPut ⟨operation, member, puts⟩
    obtain ⟨answer, enters⟩ := last.puts
    rw [lookup_of_lastPut last enters] at told
    split at told
    · cases told
    · exact enters.answer_ne.1 told
  · intro unput
    rw [LedgerTables.lookup_eq, kept?_of_never unput]
    rfl

theorem deleted_iff (history : List StoreOperation) (id : EntityId kind) :
    (after history).tables.ledger.lookup kind id = .error .deleted ↔
      ∃ put later, LastPut history id put later ∧ .markDeleted id.entity ∈ later := by
  constructor
  · intro told
    have entered : ∃ operation ∈ history, operation.Puts id := by
      by_contra never
      have missing := (notFound_iff history id).mpr fun operation member puts =>
        never ⟨operation, member, puts⟩
      rw [missing] at told
      cases told
    obtain ⟨put, later, last⟩ := exists_lastPut entered
    obtain ⟨answer, enters⟩ := last.puts
    rw [lookup_of_lastPut last enters] at told
    refine ⟨put, later, last, ?_⟩
    by_contra unmarked
    rw [if_neg unmarked] at told
    exact enters.answer_ne.2 told
  · rintro ⟨put, later, last, marked⟩
    obtain ⟨answer, enters⟩ := last.puts
    rw [lookup_of_lastPut last enters, if_pos marked]

end Stores

namespace SignatureStore

theorem signaturesFor_add (store : SignatureStore) (schedule other : ScheduleId)
    (publicKey signature : Bytes) :
    (store.add schedule publicKey signature).signaturesFor other =
      if schedule = other then Table.insert (store.signaturesFor schedule) publicKey signature
      else store.signaturesFor other := by
  rw [signaturesFor, add, Table.find?_insert]
  split <;> rfl

end SignatureStore

namespace Stores

open StoreOperation

variable (stores : Stores) {operation : StoreOperation} {schedule : ScheduleId}
  {publicKey : Bytes}

def Adds (schedule : ScheduleId) (publicKey : Bytes) (operation : StoreOperation) : Prop :=
  ∃ signature, operation = .addSignature schedule publicKey signature

theorem forall_not_adds_iff (later : List StoreOperation) :
    (∀ operation ∈ later, ¬ Adds schedule publicKey operation) ↔
      ∀ other, .addSignature schedule publicKey other ∉ later := by
  constructor
  · intro never other member
    exact never _ member ⟨other, rfl⟩
  · rintro never _ member ⟨other, rfl⟩
    exact never other member

theorem signaturesFor_step_of_other
    (other : ∀ publicKey signature, operation ≠ .addSignature schedule publicKey signature) :
    (stores.step operation).collected.signaturesFor schedule =
      stores.collected.signaturesFor schedule := by
  cases operation with
  | addSignature own publicKey signature =>
    have differ : own ≠ schedule := fun same => other publicKey signature (by rw [same])
    rw [step, SignatureStore.signaturesFor_add, if_neg differ]
  | _ => rfl

theorem distinct_step
    (distinct : ∀ schedule, (stores.collected.signaturesFor schedule).Distinct)
    (operation : StoreOperation) (schedule : ScheduleId) :
    ((stores.step operation).collected.signaturesFor schedule).Distinct := by
  cases operation with
  | addSignature own publicKey signature =>
    rw [step, SignatureStore.signaturesFor_add]
    split
    · exact (distinct own).insert publicKey signature
    · exact distinct schedule
  | _ => exact distinct schedule

theorem distinct_run (history : List StoreOperation)
    (distinct : ∀ schedule, (stores.collected.signaturesFor schedule).Distinct) :
    ∀ schedule, ((stores.run history).collected.signaturesFor schedule).Distinct := by
  induction history generalizing stores with
  | nil => exact distinct
  | cons operation history ih =>
    exact ih (stores.step operation) (distinct_step stores distinct operation)

theorem distinct_after (history : List StoreOperation) (schedule : ScheduleId) :
    ((after history).collected.signaturesFor schedule).Distinct :=
  distinct_run empty history (fun _ => Table.distinct_nil) schedule

theorem find?_step_of_not_adds (unadded : ¬ Adds schedule publicKey operation) :
    Table.find? ((stores.step operation).collected.signaturesFor schedule) publicKey =
      Table.find? (stores.collected.signaturesFor schedule) publicKey := by
  cases operation with
  | addSignature own key signature =>
    have differ : ¬ (own = schedule ∧ key = publicKey) := by
      rintro ⟨rfl, rfl⟩
      exact unadded ⟨signature, rfl⟩
    rw [step, SignatureStore.find?_signaturesFor_add, if_neg differ]
  | _ => rfl

theorem find?_run_of_not_adds {later : List StoreOperation}
    (unadded : ∀ operation ∈ later, ¬ Adds schedule publicKey operation) :
    Table.find? ((stores.run later).collected.signaturesFor schedule) publicKey =
      Table.find? (stores.collected.signaturesFor schedule) publicKey := by
  induction later generalizing stores with
  | nil => rfl
  | cons operation later ih =>
    rw [List.forall_mem_cons] at unadded
    exact (ih (stores.step operation) unadded.2).trans (find?_step_of_not_adds stores unadded.1)

theorem mem_signaturesFor_iff (history : List StoreOperation) (schedule : ScheduleId)
    (publicKey signature : Bytes) :
    (publicKey, signature) ∈ (after history).collected.signaturesFor schedule ↔
      ∃ before later, history = before ++ .addSignature schedule publicKey signature :: later ∧
        ∀ operation ∈ later, ¬ Adds schedule publicKey operation := by
  rw [(distinct_after history schedule).mem_iff]
  have told : ∀ before later other,
      (∀ operation ∈ later, ¬ Adds schedule publicKey operation) →
      Table.find? ((after (before ++ .addSignature schedule publicKey other :: later)).collected
        |>.signaturesFor schedule) publicKey = some other := by
    intro before later other last
    rw [after, run_append]
    refine (find?_run_of_not_adds _ last).trans ?_
    exact (SignatureStore.find?_signaturesFor_add ..).trans (if_pos ⟨rfl, rfl⟩)
  constructor
  · intro found
    by_cases added : ∃ operation ∈ history, Adds schedule publicKey operation
    · obtain ⟨before, _, later, rfl, ⟨other, rfl⟩, last⟩ := exists_last added
      have same := (told before later other last).symm.trans found
      cases same
      exact ⟨before, later, rfl, last⟩
    · have never : ∀ operation ∈ history, ¬ Adds schedule publicKey operation :=
        fun operation member adds => added ⟨operation, member, adds⟩
      have missing := (find?_run_of_not_adds empty never).symm.trans found
      cases missing
  · rintro ⟨before, later, rfl, last⟩
    exact told before later signature last

/-- What the history says of an entity, and what another operation would make of it. -/
structure EntityTold {kind : EntityKind} (history : List StoreOperation) (id : EntityId kind) :
    Prop where
  notFound : (after history).tables.ledger.lookup kind id = .error .notFound ↔
    ∀ operation ∈ history, ¬ operation.Puts id
  deleted : (after history).tables.ledger.lookup kind id = .error .deleted ↔
    ∃ put later, LastPut history id put later ∧ .markDeleted id.entity ∈ later
  kept : ∀ put later, LastPut history id put later → .markDeleted id.entity ∉ later →
    ∀ answer, put.Enters id answer → (after history).tables.ledger.lookup kind id = answer
  unknown : (∀ operation ∈ history, ¬ operation.Puts id) →
    after (history ++ [.markDeleted id.entity]) = after history
  entered : ∀ put answer, put.Enters id answer →
    (after (history ++ [put])).tables.ledger.lookup kind id = answer
  apart : ∀ operation : StoreOperation,
    ¬ operation.Puts id → operation ≠ .markDeleted id.entity →
      (after (history ++ [operation])).tables.ledger.lookup kind id =
        (after history).tables.ledger.lookup kind id

structure ScheduleTold (history : List StoreOperation) (schedule : ScheduleId) : Prop where
  last : ∀ publicKey signature,
    (publicKey, signature) ∈ (after history).collected.signaturesFor schedule ↔
      ∃ before later, history = before ++ .addSignature schedule publicKey signature :: later ∧
        ∀ other, .addSignature schedule publicKey other ∉ later
  once : (((after history).collected.signaturesFor schedule).map Prod.fst).Nodup
  apart : ∀ operation : StoreOperation,
    (∀ publicKey signature, operation ≠ .addSignature schedule publicKey signature) →
      (after (history ++ [operation])).collected.signaturesFor schedule =
        (after history).collected.signaturesFor schedule

theorem after_concat (history : List StoreOperation) (operation : StoreOperation) :
    after (history ++ [operation]) = (after history).step operation :=
  run_append empty history [operation]

/-- Entities of every kind and schedules, after any history of puts, marks, additions and lookups. -/
theorem lookups_tell_last_write (history : List StoreOperation) :
    (∀ {kind : EntityKind} (id : EntityId kind), EntityTold history id) ∧
      ∀ schedule, ScheduleTold history schedule := by
  constructor
  · intro kind id
    refine ⟨notFound_iff history id, deleted_iff history id, ?_, ?_, ?_, ?_⟩
    · intro put later last unmarked answer enters
      rw [lookup_of_lastPut last enters, if_neg unmarked]
    · intro unput
      have absent := kept?_of_never unput
      rw [after_concat, step]
      exact congrArg (Stores.mk · (after history).collected)
        (LedgerTables.markDeleted_of_absent _ absent)
    · intro put answer enters
      have last : LastPut (history ++ [put]) id put [] :=
        ⟨⟨history, rfl⟩, ⟨answer, enters⟩, by simp⟩
      rw [lookup_of_lastPut last enters, if_neg (by simp)]
    · intro operation unput unmarked
      rw [LedgerTables.lookup_eq, LedgerTables.lookup_eq, after_concat,
        kept?_step_of_other _ unput unmarked]
  · intro schedule
    refine ⟨?_, distinct_after history schedule, ?_⟩
    · intro publicKey signature
      rw [mem_signaturesFor_iff]
      simp only [forall_not_adds_iff]
    · intro operation other
      rw [after_concat]
      exact signaturesFor_step_of_other _ other

end Stores

namespace Sample

def owned : ContractId := ⟨0, 0, 7⟩

def enterOwned : StoreOperation := .putContract owned (some (.contract ⟨0, 0, 8⟩)) false

end Sample

namespace Stores

theorem owned_contract_told :
    (after [Sample.enterOwned, .markDeleted Sample.owned.entity]).tables.ledger.contract
        Sample.owned = .error .deleted ∧
      (after [Sample.enterOwned, .markDeleted Sample.owned.entity,
        Sample.enterOwned]).tables.ledger.contract Sample.owned = .error .unusable := by
  have enters : Sample.enterOwned.Enters Sample.owned (.error .unusable) :=
    .immutable _ _ _ (.ofContract _)
  have marked := (lookups_tell_last_write [Sample.enterOwned, .markDeleted Sample.owned.entity]).1
    Sample.owned
  constructor
  · refine marked.deleted.mpr ⟨Sample.enterOwned, [.markDeleted Sample.owned.entity], ?_, ?_⟩
    · refine ⟨⟨[], rfl⟩, ⟨_, enters⟩, ?_⟩
      rintro _ member ⟨answer, puts⟩
      rw [List.mem_singleton.mp member] at puts
      cases puts
    · exact List.mem_singleton_self _
  · exact marked.entered Sample.enterOwned _ enters

end Stores

end Signatory
