/-!
The things a ledger knows by number: accounts, files, contracts, topics and schedules. An
identifier carries its kind in its type, so an account is never looked up among the files.
-/
namespace Signatory

inductive EntityKind where
  | account
  | file
  | contract
  | topic
  | schedule
deriving DecidableEq, Repr

structure EntityId (kind : EntityKind) where
  shard : UInt64
  realm : UInt64
  num : UInt64
deriving DecidableEq, Repr

abbrev AccountId := EntityId .account
abbrev FileId := EntityId .file
abbrev ContractId := EntityId .contract
abbrev TopicId := EntityId .topic
abbrev ScheduleId := EntityId .schedule

structure Entity where
  kind : EntityKind
  id : EntityId kind
deriving DecidableEq, Repr

def EntityKind.noun : EntityKind → String
  | .account => "account"
  | .file => "file"
  | .contract => "contract"
  | .topic => "topic"
  | .schedule => "schedule"

namespace EntityId

variable {kind : EntityKind}

def entity (id : EntityId kind) : Entity := ⟨kind, id⟩

def text (id : EntityId kind) : String :=
  toString id.shard.toNat ++ "." ++ toString id.realm.toNat ++ "." ++ toString id.num.toNat

protected def le (a b : EntityId kind) : Bool :=
  a.shard < b.shard ||
    (a.shard == b.shard && (a.realm < b.realm || (a.realm == b.realm && a.num ≤ b.num)))

def sort (ids : List (EntityId kind)) : List (EntityId kind) := ids.mergeSort EntityId.le

end EntityId

def Entity.text (entity : Entity) : String := entity.kind.noun ++ " " ++ entity.id.text

end Signatory
