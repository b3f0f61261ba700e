import Signatory.Entity
import Signatory.PublicKey

/-!
Authorization requirements. A key is a tree whose leaves are public keys and contracts and whose
branches ask for all of their children, or for a number of them. Main statements: equality of keys
is decidable, and what holds of every key whose children it holds of holds of all keys.
-/
namespace Signatory

/-- How many children of a threshold key have to be satisfied: at least one. It may exceed the
number of children; such a key can be built but is not valid. -/
structure Threshold where
  count : UInt32
  positive : count ≠ 0
deriving DecidableEq, Repr

namespace Threshold

def ofCount? (count : UInt32) : Option Threshold :=
  if positive : count ≠ 0 then some ⟨count, positive⟩ else none

def children (threshold : Threshold) : Nat := threshold.count.toNat

theorem children_pos (threshold : Threshold) : 0 < threshold.children := by
  have differ : threshold.count.toNat ≠ 0 := fun zero =>
    threshold.positive (UInt32.toNat.inj (by simpa using zero))
  exact Nat.pos_of_ne_zero differ

end Threshold

inductive Key where
  | simple (key : PublicKey)
  | list (keys : List Key)
  | threshold (needed : Threshold) (keys : List Key)
  | contract (id : ContractId)
deriving Repr

namespace Key

def maxDepth : Nat := 15

mutual

/-- Whether every leaf of the key is absent. A contract never is. -/
def isEmpty : Key → Bool
  | .simple key => key.isAbsent
  | .list keys => allEmpty keys
  | .threshold _ keys => allEmpty keys
  | .contract _ => false

def allEmpty : List Key → Bool
  | [] => true
  | key :: keys => isEmpty key && allEmpty keys

end

mutual

/-- The number of nodes on the longest path from the root to a leaf or an empty branch. -/
def depth : Key → Nat
  | .simple _ => 1
  | .list keys => 1 + greatestDepth keys
  | .threshold _ keys => 1 + greatestDepth keys
  | .contract _ => 1

def greatestDepth : List Key → Nat
  | [] => 0
  | key :: keys => max (depth key) (greatestDepth keys)

end

mutual

def isWellFormed : Key → Bool
  | .simple key => key.hasSchemeLength
  | .list keys => !keys.isEmpty && allWellFormed keys
  | .threshold needed keys => needed.children ≤ keys.length && allWellFormed keys
  | .contract _ => true

def allWellFormed : List Key → Bool
  | [] => true
  | key :: keys => isWellFormed key && allWellFormed keys

end

def isValid (key : Key) : Bool := !key.isEmpty && key.depth ≤ maxDepth && key.isWellFormed

mutual

def leaves : Key → List PublicKey
  | .simple key => [key]
  | .list keys => leavesOf keys
  | .threshold _ keys => leavesOf keys
  | .contract _ => []

def leavesOf : List Key → List PublicKey
  | [] => []
  | key :: keys => leaves key ++ leavesOf keys

end

def publicKey? : Key → Option PublicKey
  | .simple key => some key
  | _ => none

def ofThreshold? (count : UInt32) (keys : List Key) : Option Key :=
  (Threshold.ofCount? count).map fun needed => .threshold needed keys

theorem induct {motive : Key → Prop} (simple : ∀ key, motive (.simple key))
    (list : ∀ keys, (∀ key ∈ keys, motive key) → motive (.list keys))
    (threshold : ∀ needed keys, (∀ key ∈ keys, motive key) → motive (.threshold needed keys))
    (contract : ∀ id, motive (.contract id)) (key : Key) : motive key :=
  Key.rec (motive_1 := motive) (motive_2 := fun keys => ∀ key ∈ keys, motive key)
    simple list threshold contract (by simp)
    (fun _ _ head tail => by simpa using ⟨head, tail⟩) key

theorem allEmpty_eq (keys : List Key) : allEmpty keys = keys.all isEmpty := by
  induction keys with
  | nil => rfl
  | cons key keys ih => simp [allEmpty, ih]

theorem allWellFormed_eq (keys : List Key) : allWellFormed keys = keys.all isWellFormed := by
  induction keys with
  | nil => rfl
  | cons key keys ih => simp [allWellFormed, ih]

theorem leavesOf_eq (keys : List Key) : leavesOf keys = keys.flatMap leaves := by
  induction keys with
  | nil => rfl
  | cons key keys ih => simp [leavesOf, ih]

theorem greatestDepth_le_iff (keys : List Key) (bound : Nat) :
    greatestDepth keys ≤ bound ↔ ∀ key ∈ keys, key.depth ≤ bound := by
  induction keys with
  | nil => simp [greatestDepth]
  | cons key keys ih => simp only [greatestDepth, Nat.max_le, ih, List.forall_mem_cons]

mutual

def same : Key → Key → Bool
  | .simple key, .simple other => key = other
  | .list keys, .list others => allSame keys others
  | .threshold needed keys, .threshold other others => needed = other && allSame keys others
  | .contract id, .contract other => id = other
  | _, _ => false

def allSame : List Key → List Key → Bool
  | [], [] => true
  | key :: keys, other :: others => same key other && allSame keys others
  | _, _ => false

end

theorem allSame_iff (keys others : List Key)
    (children : ∀ key ∈ keys, ∀ other, same key other = true ↔ key = other) :
    allSame keys others = true ↔ keys = others := by
  induction keys generalizing others with
  | nil => cases others <;> simp [allSame]
  | cons key keys ih =>
    cases others with
    | nil => simp [allSame]
    | cons other others =>
      have tail := ih others fun k member => children k (List.mem_cons_of_mem _ member)
      simp [allSame, children key (by simp) other, tail]

theorem same_iff (key other : Key) : same key other = true ↔ key = other := by
  induction key using induct generalizing other with
  | simple key => cases other <;> simp [same]
  | list keys ih => cases other <;> simp [same, fun others => allSame_iff keys others ih]
  | threshold needed keys ih =>
    cases other <;> simp [same, fun others => allSame_iff keys others ih]
  | contract id => cases other <;> simp [same]

instance : DecidableEq Key := fun key other => decidable_of_iff _ (same_iff key other)

end Key

end Signatory
