import Signatory.Operation
import Signatory.Table

/-!
What the ledger says about the entities that transactions name, as far as signatures depend on it,
and a ledger that is kept in tables. In the tables the last entry under an identifier counts, an
entry stays marked as deleted until the next one, and entities of one kind do not affect another.
-/
namespace Signatory

inductive LookupFailure where
  | notFound
  | deleted
  /-- The entity is there but can authorize nothing. -/
  | unusable
deriving DecidableEq, Repr

def LookupFailure.message : LookupFailure → String
  | .notFound => "Entity not found"
  | .deleted => "Entity deleted"
  | .unusable => "Entity not usable"

structure AccountInfo where
  key : Key
  receiverSigRequired : Bool
deriving DecidableEq, Repr

/-- The key of a file is empty if nobody may change it. -/
structure FileInfo where
  wacl : Key
deriving DecidableEq, Repr

structure ContractInfo where
  adminKey : Key
  receiverSigRequired : Bool
deriving DecidableEq, Repr

structure TopicInfo where
  adminKey : Option Key
  submitKey : Option Key
deriving DecidableEq, Repr

structure ScheduleInfo where
  adminKey : Option Key
  payer : AccountId
  scheduled : Operation
deriving DecidableEq, Repr

def EntityInfo : EntityKind → Type
  | .account => AccountInfo
  | .file => FileInfo
  | .contract => ContractInfo
  | .topic => TopicInfo
  | .schedule => ScheduleInfo

structure Ledger where
  lookup : (kind : EntityKind) → EntityId kind → Except LookupFailure (EntityInfo kind)

namespace Ledger

def account (ledger : Ledger) (id : AccountId) : Except LookupFailure AccountInfo :=
  ledger.lookup .account id

def file (ledger : Ledger) (id : FileId) : Except LookupFailure FileInfo := ledger.lookup .file id

def contract (ledger : Ledger) (id : ContractId) : Except LookupFailure ContractInfo :=
  ledger.lookup .contract id

def topic (ledger : Ledger) (id : TopicId) : Except LookupFailure TopicInfo :=
  ledger.lookup .topic id

def schedule (ledger : Ledger) (id : ScheduleId) : Except LookupFailure ScheduleInfo :=
  ledger.lookup .schedule id

end Ledger

structure LedgerEntry (kind : EntityKind) where
  info : Option (EntityInfo kind)
  deleted : Bool

structure LedgerTables where
  table : (kind : EntityKind) → Table (EntityId kind) (LedgerEntry kind)

namespace LedgerTables

def empty : LedgerTables := ⟨fun _ => []⟩

def update (tables : LedgerTables) (kind : EntityKind)
    (change : Table (EntityId kind) (LedgerEntry kind) → Table (EntityId kind) (LedgerEntry kind)) :
    LedgerTables where
  table other :=
    if same : kind = other then same ▸ change (tables.table kind) else tables.table other

def put (tables : LedgerTables) {kind : EntityKind} (id : EntityId kind)
    (info : Option (EntityInfo kind)) : LedgerTables :=
  tables.update kind fun table => Table.insert table id ⟨info, false⟩

def putAccount (tables : LedgerTables) (id : AccountId) (info : AccountInfo) : LedgerTables :=
  tables.put id (some info)

def putFile (tables : LedgerTables) (id : FileId) (info : FileInfo) : LedgerTables :=
  tables.put id (some info)

def canAdminister : Key → Bool
  | .contract _ => false
  | key => !key.isEmpty

def putContract (tables : LedgerTables) (id : ContractId) (adminKey : Option Key)
    (receiverSigRequired : Bool) : LedgerTables :=
  let usable := adminKey.filter canAdminister
  tables.put id (usable.map fun key => (⟨key, receiverSigRequired⟩ : ContractInfo))

def putTopic (tables : LedgerTables) (id : TopicId) (info : TopicInfo) : LedgerTables :=
  tables.put id (some info)

def putSchedule (tables : LedgerTables) (id : ScheduleId) (info : ScheduleInfo) : LedgerTables :=
  tables.put id (some info)

def markDeleted (tables : LedgerTables) {kind : EntityKind} (id : EntityId kind) : LedgerTables :=
  tables.update kind fun table => Table.modify table id fun entry => { entry with deleted := true }

def ledger (tables : LedgerTables) : Ledger where
  lookup kind id :=
    match Table.find? (tables.table kind) id with
    | none => .error .notFound
    | some ⟨_, true⟩ => .error .deleted
    | some ⟨none, false⟩ => .error .unusable
    | some ⟨some info, false⟩ => .ok info

end LedgerTables

structure SignatureStore where
  collected : Table ScheduleId (Table Bytes Bytes)

namespace SignatureStore

def empty : SignatureStore := ⟨[]⟩

def signaturesFor (store : SignatureStore) (schedule : ScheduleId) : Table Bytes Bytes :=
  (Table.find? store.collected schedule).getD []

def add (store : SignatureStore) (schedule : ScheduleId) (publicKey signature : Bytes) :
    SignatureStore :=
  ⟨Table.insert store.collected schedule
    (Table.insert (store.signaturesFor schedule) publicKey signature)⟩

end SignatureStore

end Signatory
