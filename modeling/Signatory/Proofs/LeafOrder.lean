import Mathlib.Data.List.Nodup
import Signatory.Key

/-!
The leaves of keys by their places. A path to a leaf says at every branch which child to take, and
of two paths the one that takes the earlier child where they part comes first. Main statement: the
leaves of keys, without those that are absent, are what stands at the ends of all such paths, in
this order, and no other list of public keys is; so each leaf counts as often as it occurs.
-/
namespace Signatory

inductive Before : List Nat → List Nat → Prop where
  | parted {i j : Nat} (earlier : i < j) (path other : List Nat) : Before (i :: path) (j :: other)
  | further (i : Nat) {path other : List Nat} (before : Before path other) :
      Before (i :: path) (i :: other)

theorem Before.asymm {path other : List Nat} (before : Before path other) :
    ¬ Before other path := by
  induction before with
  | parted earlier =>
    intro back
    cases back with
    | parted later => omega
    | further _ _ => omega
  | further i _ ih =>
    intro back
    cases back with
    | parted later => omega
    | further _ back => exact ih back

/-- The leaves stand at the ends of all paths that lead to one, in the order of the paths. -/
def DepthFirst (leafAt? : List Nat → Option PublicKey) (leaves : List PublicKey) : Prop :=
  ∃ paths : List (List Nat), paths.Pairwise Before ∧
    (∀ path, path ∈ paths ↔ (leafAt? path).isSome = true) ∧ paths.map leafAt? = leaves.map some

namespace DepthFirst

variable {leafAt? : List Nat → Option PublicKey} {leaves others : List PublicKey}

theorem unique (one : DepthFirst leafAt? leaves) (two : DepthFirst leafAt? others) :
    leaves = others := by
  obtain ⟨paths, sorted, member, values⟩ := one
  obtain ⟨further, ordered, within, told⟩ := two
  have distinct : ∀ paths : List (List Nat), paths.Pairwise Before → paths.Nodup := by
    intro paths sorted
    apply sorted.imp
    intro path other before same
    exact before.asymm (same ▸ before)
  have permuted : paths.Perm further := by
    rw [List.perm_ext_iff_of_nodup (distinct _ sorted) (distinct _ ordered)]
    intro path
    rw [member, within]
  have same : paths = further :=
    permuted.eq_of_pairwise (fun _ _ _ _ before back => absurd back before.asymm) sorted ordered
  subst same
  exact (List.map_inj_right fun _ _ => Option.some.inj).mp (values.symm.trans told)

theorem mem_iff (order : DepthFirst leafAt? leaves) (leaf : PublicKey) :
    leaf ∈ leaves ↔ ∃ path, leafAt? path = some leaf := by
  obtain ⟨paths, _, member, values⟩ := order
  have listed : some leaf ∈ paths.map leafAt? ↔ leaf ∈ leaves := by
    rw [values]
    simp
  rw [← listed, List.mem_map]
  constructor
  · rintro ⟨path, _, told⟩
    exact ⟨path, told⟩
  · rintro ⟨path, told⟩
    exact ⟨path, (member path).mpr (by rw [told]; rfl), told⟩

end DepthFirst

namespace Key

def child? : Key → Nat → Option Key
  | .list keys, i => keys[i]?
  | .threshold _ keys, i => keys[i]?
  | _, _ => none

def presentLeaf? : List Nat → Key → Option PublicKey
  | [], key => key.publicKey?.filter fun leaf => !leaf.isAbsent
  | i :: path, key => (key.child? i).bind (presentLeaf? path)

end Key

def presentLeafOf? (keys : List Key) : List Nat → Option PublicKey
  | [] => none
  | i :: path => keys[i]?.bind (Key.presentLeaf? path)

def presentLeaves (keys : List Key) : List PublicKey :=
  (keys.flatMap Key.leaves).filter fun leaf => !leaf.isAbsent

def shifted : List Nat → List Nat
  | [] => []
  | i :: path => (i + 1) :: path

theorem Before.shifted {path other : List Nat} (before : Before path other) :
    Before (shifted path) (shifted other) := by
  cases before with
  | parted earlier path other => exact .parted (Nat.succ_lt_succ earlier) path other
  | further i before => exact .further (i + 1) before

theorem presentLeafOf?_shifted (key : Key) (keys : List Key) (path : List Nat) :
    presentLeafOf? (key :: keys) (shifted path) = presentLeafOf? keys path := by
  cases path with
  | nil => rfl
  | cons i path => rw [shifted, presentLeafOf?, presentLeafOf?, List.getElem?_cons_succ]

theorem mem_map_shifted_iff {paths : List (List Nat)} (rooted : [] ∉ paths) (path : List Nat) :
    path ∈ paths.map shifted ↔ ∃ i rest, path = (i + 1) :: rest ∧ i :: rest ∈ paths := by
  rw [List.mem_map]
  constructor
  · rintro ⟨found, member, rfl⟩
    cases found with
    | nil => exact absurd member rooted
    | cons i rest => exact ⟨i, rest, rfl, member⟩
  · rintro ⟨i, rest, rfl, member⟩
    exact ⟨i :: rest, member, rfl⟩

theorem depthFirst_cons {key : Key} {keys : List Key} {leaves others : List PublicKey}
    (first : DepthFirst (fun path => key.presentLeaf? path) leaves)
    (rest : DepthFirst (presentLeafOf? keys) others) :
    DepthFirst (presentLeafOf? (key :: keys)) (leaves ++ others) := by
  obtain ⟨paths, sorted, member, values⟩ := first
  obtain ⟨further, ordered, within, told⟩ := rest
  have rooted : [] ∉ further := by
    rw [within]
    simp [presentLeafOf?]
  refine ⟨paths.map (0 :: ·) ++ further.map shifted, ?_, ?_, ?_⟩
  · rw [List.pairwise_append, List.pairwise_map, List.pairwise_map]
    refine ⟨sorted.imp fun before => before.further 0, ordered.imp fun before => before.shifted, ?_⟩
    intro one front two behind
    obtain ⟨path, _, rfl⟩ := List.mem_map.mp front
    obtain ⟨i, other, rfl, _⟩ := (mem_map_shifted_iff rooted two).mp behind
    exact .parted (Nat.succ_pos i) path other
  · intro path
    rw [List.mem_append, mem_map_shifted_iff rooted]
    cases path with
    | nil => simp [presentLeafOf?]
    | cons i path =>
      cases i with
      | zero => simp [presentLeafOf?, member]
      | succ i =>
        have below : i :: path ∈ further ↔ (presentLeafOf? keys (i :: path)).isSome = true :=
          within (i :: path)
        simp [presentLeafOf?, below]
  · rw [List.map_append, List.map_map, List.map_map, List.map_append, ← values, ← told]
    congr 1
    apply List.map_congr_left
    intro path _
    exact presentLeafOf?_shifted key keys path

theorem depthFirst_presentLeafOf? (keys : List Key)
    (each : ∀ key ∈ keys, DepthFirst (fun path => key.presentLeaf? path) (presentLeaves [key])) :
    DepthFirst (presentLeafOf? keys) (presentLeaves keys) := by
  induction keys with
  | nil =>
    refine ⟨[], List.Pairwise.nil, ?_, rfl⟩
    intro path
    cases path <;> simp [presentLeafOf?]
  | cons key keys ih =>
    rw [List.forall_mem_cons] at each
    have split : presentLeaves (key :: keys) = presentLeaves [key] ++ presentLeaves keys := by
      simp [presentLeaves]
    rw [split]
    exact depthFirst_cons each.1 (ih each.2)

namespace Key

theorem depthFirst_of_children {key : Key} {keys : List Key}
    (paths : ∀ path, key.presentLeaf? path = presentLeafOf? keys path)
    (listed : key.leaves = leavesOf keys)
    (each : ∀ child ∈ keys,
      DepthFirst (fun path => child.presentLeaf? path) (presentLeaves [child])) :
    DepthFirst (fun path => key.presentLeaf? path) (presentLeaves [key]) := by
  have leaves : presentLeaves [key] = presentLeaves keys := by
    simp [presentLeaves, listed, leavesOf_eq]
  rw [funext paths, leaves]
  exact depthFirst_presentLeafOf? keys each

theorem depthFirst_presentLeaf? (key : Key) :
    DepthFirst (fun path => key.presentLeaf? path) (presentLeaves [key]) := by
  induction key using Key.induct with
  | simple leaf =>
    have here : ∀ path, (simple leaf).presentLeaf? path =
        if path = [] then (some leaf).filter fun leaf => !leaf.isAbsent else none := by
      intro path
      cases path <;> rfl
    cases presence : leaf.isAbsent with
    | true =>
      refine ⟨[], List.Pairwise.nil, ?_, ?_⟩
      · intro path
        simp [here, Option.filter, presence]
      · simp [presentLeaves, leaves, presence]
    | false =>
      refine ⟨[[]], List.pairwise_singleton _ _, ?_, ?_⟩
      · intro path
        by_cases start : path = [] <;> simp [here, Option.filter, presence, start]
      · simp [here, Option.filter, presentLeaves, leaves, presence]
  | list keys ih => exact depthFirst_of_children (by rintro (_ | _) <;> rfl) rfl ih
  | threshold needed keys ih => exact depthFirst_of_children (by rintro (_ | _) <;> rfl) rfl ih
  | contract id =>
    refine ⟨[], List.Pairwise.nil, ?_, rfl⟩
    intro path
    cases path <;> simp [presentLeaf?, publicKey?, child?]

end Key

theorem depthFirst_presentLeaves (keys : List Key) :
    DepthFirst (presentLeafOf? keys) (presentLeaves keys) :=
  depthFirst_presentLeafOf? keys fun key _ => key.depthFirst_presentLeaf?

end Signatory
