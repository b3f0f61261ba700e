import Signatory.Activation

/-!
What a key asks for, said of the tree alone: no order of evaluation, no memory, no early exit. A key
that is satisfied stays so when more public keys have signed, and none is satisfied unless one of
its own leaves has. Main statement: the evaluation of a key answers just this question, and leaves
behind a memory that is still right.
-/
namespace Signatory

namespace Key

/-- The keys that are satisfied when the public keys with the property have signed. A contract
never is. -/
inductive Satisfied (signed : PublicKey → Prop) : Key → Prop where
  | simple {key : PublicKey} (leaf : signed key) : Satisfied signed (.simple key)
  | list {keys : List Key} (nonempty : keys ≠ []) (all : ∀ key ∈ keys, Satisfied signed key) :
      Satisfied signed (.list keys)
  | threshold {needed : Threshold} {keys chosen : List Key} (among : chosen.Sublist keys)
      (enough : needed.children ≤ chosen.length) (all : ∀ key ∈ chosen, Satisfied signed key) :
      Satisfied signed (.threshold needed keys)

def AtLeast (count : Nat) (property : Key → Prop) (keys : List Key) : Prop :=
  ∃ chosen : List Key, chosen.Sublist keys ∧ count ≤ chosen.length ∧ ∀ key ∈ chosen, property key

variable {signed : PublicKey → Prop} {property : Key → Prop}

theorem satisfied_simple_iff (key : PublicKey) : Satisfied signed (.simple key) ↔ signed key :=
  ⟨fun | .simple leaf => leaf, .simple⟩

theorem satisfied_list_iff (keys : List Key) :
    Satisfied signed (.list keys) ↔ keys ≠ [] ∧ ∀ key ∈ keys, Satisfied signed key :=
  ⟨fun | .list nonempty all => ⟨nonempty, all⟩, fun ⟨nonempty, all⟩ => .list nonempty all⟩

theorem satisfied_threshold_iff (needed : Threshold) (keys : List Key) :
    Satisfied signed (.threshold needed keys) ↔
      AtLeast needed.children (Satisfied signed) keys :=
  ⟨fun | .threshold among enough all => ⟨_, among, enough, all⟩,
    fun ⟨_, among, enough, all⟩ => .threshold among enough all⟩

theorem not_satisfied_contract (id : ContractId) : ¬ Satisfied signed (.contract id) :=
  fun satisfied => by cases satisfied

theorem atLeast_zero (keys : List Key) : AtLeast 0 property keys :=
  ⟨[], List.nil_sublist keys, Nat.zero_le _, by simp⟩

theorem atLeast_le_length {count : Nat} {keys : List Key} (enough : AtLeast count property keys) :
    count ≤ keys.length := by
  obtain ⟨chosen, among, many, _⟩ := enough
  exact Nat.le_trans many among.length_le

theorem atLeast_cons_of_holds {count : Nat} {key : Key} {keys : List Key} (holds : property key) :
    AtLeast count property (key :: keys) ↔ AtLeast (count - 1) property keys := by
  constructor
  · rintro ⟨chosen, among, many, all⟩
    cases among with
    | cons _ rest => exact ⟨chosen, rest, by omega, all⟩
    | cons_cons _ rest =>
      exact ⟨_, rest, by simp only [List.length_cons] at many; omega,
        fun k member => all k (List.mem_cons_of_mem _ member)⟩
  · rintro ⟨chosen, among, many, all⟩
    refine ⟨key :: chosen, among.cons_cons key, by simp only [List.length_cons]; omega, ?_⟩
    intro k member
    rcases List.mem_cons.mp member with same | rest
    · exact same ▸ holds
    · exact all k rest

theorem atLeast_cons_of_fails {count : Nat} {key : Key} {keys : List Key} (fails : ¬ property key) :
    AtLeast count property (key :: keys) ↔ AtLeast count property keys := by
  constructor
  · rintro ⟨chosen, among, many, all⟩
    cases among with
    | cons _ rest => exact ⟨chosen, rest, many, all⟩
    | cons_cons _ rest => exact absurd (all key (List.mem_cons_self ..)) fails
  · rintro ⟨chosen, among, many, all⟩
    exact ⟨chosen, among.cons key, many, all⟩

/-- The key is the other one, or stands at some place in it. -/
inductive Occurs (inner : Key) : Key → Prop where
  | here : Occurs inner inner
  | list {keys : List Key} {child : Key} (member : child ∈ keys) (inside : Occurs inner child) :
      Occurs inner (.list keys)
  | threshold {needed : Threshold} {keys : List Key} {child : Key} (member : child ∈ keys)
      (inside : Occurs inner child) : Occurs inner (.threshold needed keys)

def LeafAmong (keys : List Key) (leaf : PublicKey) : Prop := ∃ key ∈ keys, Occurs (.simple leaf) key

section Leaves

variable {others : PublicKey → Prop} {leaf : PublicKey} {key : Key} {keys more : List Key}

theorem mem_leavesOf (member : key ∈ keys) (own : leaf ∈ key.leaves) : leaf ∈ leavesOf keys := by
  rw [leavesOf_eq]
  exact List.mem_flatMap_of_mem member own

theorem mem_leaves_iff (key : Key) (leaf : PublicKey) :
    leaf ∈ key.leaves ↔ Occurs (.simple leaf) key := by
  constructor
  · intro member
    induction key using Key.induct with
    | simple own =>
      cases List.mem_singleton.mp member
      exact .here
    | list keys ih =>
      rw [leaves, leavesOf_eq, List.mem_flatMap] at member
      obtain ⟨key, among, own⟩ := member
      exact .list among (ih key among own)
    | threshold needed keys ih =>
      rw [leaves, leavesOf_eq, List.mem_flatMap] at member
      obtain ⟨key, among, own⟩ := member
      exact .threshold among (ih key among own)
    | contract id => cases member
  · intro occurs
    induction occurs with
    | here => exact List.mem_singleton_self _
    | list member inside own | threshold member inside own => exact mem_leavesOf member own

theorem mem_flatMap_leaves_iff (keys : List Key) (leaf : PublicKey) :
    leaf ∈ keys.flatMap leaves ↔ LeafAmong keys leaf := by
  simp only [List.mem_flatMap, mem_leaves_iff, LeafAmong]

theorem LeafAmong.mono (among : LeafAmong keys leaf) (within : keys ⊆ more) :
    LeafAmong more leaf := by
  obtain ⟨key, member, occurs⟩ := among
  exact ⟨key, within member, occurs⟩

theorem leafAmong_append_iff :
    LeafAmong (keys ++ more) leaf ↔ LeafAmong keys leaf ∨ LeafAmong more leaf := by
  simp only [LeafAmong, List.mem_append, or_and_right, exists_or]

theorem Satisfied.mono (satisfied : Satisfied signed key)
    (carried : ∀ leaf, Occurs (.simple leaf) key → signed leaf → others leaf) :
    Satisfied others key := by
  induction satisfied with
  | simple leaf => exact .simple (carried _ .here leaf)
  | list nonempty all ih =>
    apply Satisfied.list nonempty
    intro key member
    apply ih key member
    intro leaf inside
    exact carried leaf (.list member inside)
  | threshold among enough all ih =>
    apply Satisfied.threshold among enough
    intro key member
    apply ih key member
    intro leaf inside
    exact carried leaf (.threshold (among.subset member) inside)

theorem Satisfied.signed_leaf (satisfied : Satisfied signed key) :
    ∃ leaf, Occurs (.simple leaf) key ∧ signed leaf := by
  induction satisfied with
  | simple leaf => exact ⟨_, .here, leaf⟩
  | @list keys nonempty all ih =>
    obtain ⟨first, rest, rfl⟩ := List.exists_cons_of_ne_nil nonempty
    obtain ⟨leaf, inside, holds⟩ := ih first (List.mem_cons_self ..)
    exact ⟨leaf, .list (List.mem_cons_self ..) inside, holds⟩
  | @threshold needed keys chosen among enough all ih =>
    have nonempty : chosen ≠ [] :=
      List.ne_nil_of_length_pos (Nat.lt_of_lt_of_le needed.children_pos enough)
    obtain ⟨first, rest, rfl⟩ := List.exists_cons_of_ne_nil nonempty
    obtain ⟨leaf, inside, holds⟩ := ih first (List.mem_cons_self ..)
    exact ⟨leaf, .threshold (among.subset (List.mem_cons_self ..)) inside, holds⟩

end Leaves

end Key

namespace Activation

variable (statusOf : Bytes → Option VerificationStatus) (policy : Policy)

def Progress.Faithful (progress : Progress) : Prop :=
  ∀ publicKey status, Table.find? progress.remembered publicKey = some status →
    status = statusOf publicKey

def Tells (evaluation : Evaluation Bool) (property : Prop) : Prop :=
  ∀ progress : Progress, progress.Faithful statusOf →
    ((evaluation progress).1 = true ↔ property) ∧ (evaluation progress).2.Faithful statusOf

variable {statusOf}

theorem tells_pure (b : Bool) : Tells statusOf (pure b) (b = true) :=
  fun _ faithful => ⟨Iff.rfl, faithful⟩

theorem Tells.congr {evaluation : Evaluation Bool} {p q : Prop}
    (tells : Tells statusOf evaluation p) (same : p ↔ q) : Tells statusOf evaluation q :=
  fun progress faithful => ⟨(tells progress faithful).1.trans same, (tells progress faithful).2⟩

theorem Tells.bind {first : Evaluation Bool} {next : Bool → Evaluation Bool} {p q : Prop}
    (tells : Tells statusOf first p) (yes : p → Tells statusOf (next true) q)
    (no : ¬ p → Tells statusOf (next false) q) : Tells statusOf (first >>= next) q := by
  intro progress faithful
  obtain ⟨answer, kept⟩ := tells progress faithful
  change (((next (first progress).1) (first progress).2).1 = true ↔ q) ∧
    ((next (first progress).1) (first progress).2).2.Faithful statusOf
  cases outcome : (first progress).1 with
  | true => exact yes (answer.mp outcome) _ kept
  | false => exact no (fun holds => by simp [answer.mpr holds] at outcome) _ kept

theorem consult_eq (publicKey : Bytes) (progress : Progress)
    (faithful : progress.Faithful statusOf) :
    (consult statusOf publicKey progress).1 = statusOf publicKey ∧
      (consult statusOf publicKey progress).2.Faithful statusOf := by
  unfold consult
  cases known : Table.find? progress.remembered publicKey with
  | some status => exact ⟨faithful publicKey status known, faithful⟩
  | none =>
    refine ⟨rfl, ?_⟩
    intro other status found
    rw [Table.find?_insert] at found
    split at found
    · rename_i same
      rw [← same]
      exact (Option.some.inj found).symm
    · exact faithful other status found

theorem tells_judged (key : PublicKey) :
    Tells statusOf (do judge policy key (← consult statusOf key.bytes))
      (policy key (statusOf key.bytes) = true) := by
  intro progress faithful
  obtain ⟨answer, kept⟩ := consult_eq key.bytes progress faithful
  change (policy key (consult statusOf key.bytes progress).1 = true ↔ _) ∧
    (consult statusOf key.bytes progress).2.Faithful statusOf
  rw [answer]
  exact ⟨Iff.rfl, kept⟩

variable {policy}

theorem tells_evaluateAll {property : Key → Prop} (keys : List Key)
    (children : ∀ key ∈ keys, Tells statusOf (evaluate statusOf policy key) (property key)) :
    Tells statusOf (evaluateAll statusOf policy keys) (∀ key ∈ keys, property key) := by
  induction keys with
  | nil => exact (tells_pure true).congr (by simp)
  | cons key keys ih =>
    refine (children key (List.mem_cons_self ..)).bind (fun holds => ?_) (fun fails => ?_)
    · exact (ih fun k member => children k (List.mem_cons_of_mem _ member)).congr (by simp [holds])
    · exact (tells_pure false).congr (by simp [fails])

theorem tells_evaluateSome {property : Key → Prop} (missing : Nat) (positive : missing ≠ 0)
    (keys : List Key)
    (children : ∀ key ∈ keys, Tells statusOf (evaluate statusOf policy key) (property key)) :
    Tells statusOf (evaluateSome statusOf policy missing keys)
      (Key.AtLeast missing property keys) := by
  induction keys generalizing missing with
  | nil =>
    refine (tells_pure false).congr ⟨by simp, fun enough => ?_⟩
    exact absurd (Key.atLeast_le_length enough) (by simp; omega)
  | cons key keys ih =>
    have rest : ∀ left, Tells statusOf
        (if left = 0 then pure true
          else if keys.length < left then pure false
          else evaluateSome statusOf policy left keys) (Key.AtLeast left property keys) := by
      intro left
      split
      · rename_i done
        exact (tells_pure true).congr (by simp [done, Key.atLeast_zero])
      · rename_i more
        split
        · rename_i short
          refine (tells_pure false).congr ⟨by simp, fun enough => ?_⟩
          exact absurd (Key.atLeast_le_length enough) (by omega)
        · exact ih left more fun k member => children k (List.mem_cons_of_mem _ member)
    refine (children key (List.mem_cons_self ..)).bind (fun holds => ?_) (fun fails => ?_)
    · exact (rest (missing - 1)).congr (Key.atLeast_cons_of_holds holds).symm
    · exact (rest missing).congr (Key.atLeast_cons_of_fails fails).symm

theorem tells_evaluate (key : Key) :
    Tells statusOf (evaluate statusOf policy key)
      (key.Satisfied fun leaf => policy leaf (statusOf leaf.bytes) = true) := by
  induction key using Key.induct with
  | simple key =>
    rw [evaluate]
    exact (tells_judged policy key).congr (by rw [Key.satisfied_simple_iff])
  | list keys ih =>
    rw [evaluate]
    split
    · rename_i empty
      refine (tells_pure false).congr ?_
      simp [Key.satisfied_list_iff, List.isEmpty_iff.mp empty]
    · rename_i nonempty
      refine (tells_evaluateAll keys ih).congr ?_
      rw [Key.satisfied_list_iff]
      exact ⟨fun all => ⟨fun empty => nonempty (by simp [empty]), all⟩, And.right⟩
  | threshold needed keys ih =>
    rw [evaluate]
    exact (tells_evaluateSome needed.children (Nat.pos_iff_ne_zero.mp needed.children_pos) keys
      ih).congr (Key.satisfied_threshold_iff needed keys).symm
  | contract id =>
    exact (tells_pure false).congr (by simp [Key.not_satisfied_contract])

end Activation

theorem Key.isActive_iff (statusOf : Bytes → Option VerificationStatus) (policy : Policy)
    (key : Key) :
    key.isActive statusOf policy = true ↔
      key.Satisfied fun leaf => policy leaf (statusOf leaf.bytes) = true :=
  (Activation.tells_evaluate key .start fun _ _ found => by cases found).1

theorem Key.isActive_strict_iff (statusOf : Bytes → Option VerificationStatus) (key : Key) :
    key.isActive statusOf .strict = true ↔
      key.Satisfied fun leaf => statusOf leaf.bytes = some .valid := by
  simp only [isActive_iff, Policy.strict, beq_iff_eq]

theorem allActive_iff (keys : List Key) (statuses : StatusMap) :
    allActive keys statuses = true ↔
      ∀ key ∈ keys, key.Satisfied fun leaf => statuses.statusOf leaf.bytes = some .valid := by
  simp only [allActive, List.all_eq_true, Key.isActive_strict_iff]

end Signatory
