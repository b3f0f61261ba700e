import Mathlib.Data.List.Nodup
import Signatory.Proofs.Satisfaction

/-!
The evaluation of keys, which stops early and remembers, beside a meaning of keys that does neither.
What an evaluation keeps, and what two evaluations have in common, is told by what they do with a
single public key. Main statements: keys evaluated one after another with one memory are answered by
their meaning, the status of the same bytes is asked for only once, and nothing depends on a status
that was not asked for; and a key that is active stays so where every leaf that was accepted still
is, although other leaves may then be looked at.
-/
namespace Signatory

namespace Key

section Meaning

variable (accepts : PublicKey → Bool)

mutual

/-- Whether a key is satisfied if these public keys are. Every leaf of the key is judged. -/
def meaning : Key → Bool
  | .simple key => accepts key
  | .list keys => !keys.isEmpty && (meanings keys).all id
  | .threshold needed keys => needed.children ≤ (meanings keys).count true
  | .contract _ => false

def meanings : List Key → List Bool
  | [] => []
  | key :: keys => meaning key :: meanings keys

end

theorem meanings_eq (keys : List Key) : meanings accepts keys = keys.map (meaning accepts) := by
  induction keys with
  | nil => rfl
  | cons key keys ih => rw [meanings, List.map_cons, ih]

variable {accepts}

theorem atLeast_iff_le_countP {count : Nat} {property : Key → Bool} {keys : List Key} :
    AtLeast count (property · = true) keys ↔ count ≤ keys.countP property := by
  constructor
  · rintro ⟨chosen, among, enough, all⟩
    calc count ≤ chosen.length := enough
      _ = chosen.countP property := (List.countP_eq_length.mpr all).symm
      _ ≤ keys.countP property := among.countP_le
  · intro enough
    refine ⟨keys.filter property, List.filter_sublist, ?_, fun key member => ?_⟩
    · rwa [← List.countP_eq_length_filter]
    · exact List.of_mem_filter member

theorem meaning_iff (key : Key) :
    key.meaning accepts = true ↔ key.Satisfied fun leaf => accepts leaf = true := by
  induction key using Key.induct with
  | simple key => rw [meaning, satisfied_simple_iff]
  | list keys ih =>
    rw [meaning, meanings_eq, satisfied_list_iff, ← forall₂_congr ih]
    simp
  | threshold needed keys ih =>
    have children : AtLeast needed.children (Satisfied fun leaf => accepts leaf = true) keys ↔
        AtLeast needed.children (meaning accepts · = true) keys := by
      constructor
      all_goals
        rintro ⟨chosen, among, enough, all⟩
        refine ⟨chosen, among, enough, fun key member => ?_⟩
      · exact (ih key (among.subset member)).mpr (all key member)
      · exact (ih key (among.subset member)).mp (all key member)
    rw [meaning, meanings_eq, satisfied_threshold_iff, children, atLeast_iff_le_countP]
    simp [List.count, List.countP_map, Function.comp_def]
  | contract id => simp [meaning, not_satisfied_contract]

end Meaning

end Key

namespace Activation

/-- A relation between evaluations that holds of an answer known beforehand, and that is kept when
both go on in the same way. -/
structure Compositional (related : Evaluation Bool → Evaluation Bool → Prop) : Prop where
  answer : ∀ known, related (pure known) (pure known)
  bind : ∀ {one two : Evaluation Bool} {next further : Bool → Evaluation Bool}, related one two →
    (∀ answer, related (next answer) (further answer)) → related (one >>= next) (two >>= further)

section Composition

variable {statusOf others : Bytes → Option VerificationStatus} {policy : Policy}
  {related : Evaluation Bool → Evaluation Bool → Prop}

namespace Compositional

variable (compositional : Compositional related)

include compositional

theorem related_evaluateAll (keys : List Key)
    (children : ∀ key ∈ keys,
      related (evaluate statusOf policy key) (evaluate others policy key)) :
    related (evaluateAll statusOf policy keys) (evaluateAll others policy keys) := by
  induction keys with
  | nil => exact compositional.answer true
  | cons key keys ih =>
    rw [List.forall_mem_cons] at children
    refine compositional.bind children.1 fun answer => ?_
    cases answer with
    | true => exact ih children.2
    | false => exact compositional.answer false

theorem related_evaluateSome (missing : Nat) (keys : List Key)
    (children : ∀ key ∈ keys,
      related (evaluate statusOf policy key) (evaluate others policy key)) :
    related (evaluateSome statusOf policy missing keys)
      (evaluateSome others policy missing keys) := by
  induction keys generalizing missing with
  | nil => exact compositional.answer false
  | cons key keys ih =>
    rw [List.forall_mem_cons] at children
    have rest (left : Nat) : related
        (if left = 0 then pure true
          else if keys.length < left then pure false
          else evaluateSome statusOf policy left keys)
        (if left = 0 then pure true
          else if keys.length < left then pure false
          else evaluateSome others policy left keys) := by
      split
      · exact compositional.answer true
      · split
        · exact compositional.answer false
        · exact ih left children.2
    refine compositional.bind children.1 fun answer => ?_
    cases answer with
    | true => exact rest (missing - 1)
    | false => exact rest missing

theorem related_evaluate (key : Key)
    (leaves : ∀ leaf ∈ key.leaves, related (do judge policy leaf (← consult statusOf leaf.bytes))
      (do judge policy leaf (← consult others leaf.bytes))) :
    related (evaluate statusOf policy key) (evaluate others policy key) := by
  induction key using Key.induct with
  | simple key => exact leaves key (List.mem_singleton_self _)
  | list keys ih =>
    have children : ∀ key ∈ keys, related (evaluate statusOf policy key)
        (evaluate others policy key) := fun key member =>
      ih key member fun leaf own => leaves leaf (Key.mem_leavesOf member own)
    rw [evaluate, evaluate]
    split
    · exact compositional.answer false
    · exact compositional.related_evaluateAll keys children
  | threshold needed keys ih =>
    have children : ∀ key ∈ keys, related (evaluate statusOf policy key)
        (evaluate others policy key) := fun key member =>
      ih key member fun leaf own => leaves leaf (Key.mem_leavesOf member own)
    exact compositional.related_evaluateSome needed.children keys children
  | contract id => exact compositional.answer false

end Compositional

end Composition

def Keeps (property : Progress → Prop) {α : Type} (evaluation : Evaluation α) : Prop :=
  ∀ progress, property progress → property (evaluation progress).2

def Follows (statusOf others : Bytes → Option VerificationStatus) {α : Type}
    (one two : Evaluation α) : Prop :=
  ∀ progress, progress.asked ⊆ (one progress).2.asked ∧
    ((∀ publicKey ∈ (one progress).2.asked, others publicKey = statusOf publicKey) →
      two progress = one progress)

section Rules

variable {α β : Type} {property : Progress → Prop}
  {statusOf others : Bytes → Option VerificationStatus} {policy : Policy}

theorem keeps_pure (value : α) : Keeps property (pure value) := fun _ kept => kept

theorem Keeps.bind {first : Evaluation α} {next : α → Evaluation β} (keeps : Keeps property first)
    (further : ∀ value, Keeps property (next value)) : Keeps property (first >>= next) :=
  fun progress kept => further _ _ (keeps progress kept)

theorem keeps_evaluate (key : Key)
    (leaves : ∀ leaf ∈ key.leaves,
      Keeps property (do judge policy leaf (← consult statusOf leaf.bytes))) :
    Keeps property (evaluate statusOf policy key) :=
  @Compositional.related_evaluate statusOf statusOf policy (fun one _ => Keeps property one)
    ⟨keeps_pure, Keeps.bind⟩ key leaves

theorem follows_pure (value : α) : Follows statusOf others (pure value) (pure value) :=
  fun _ => ⟨List.Subset.refl _, fun _ => rfl⟩

theorem Follows.bind {one two : Evaluation α} {next further : α → Evaluation β}
    (first : Follows statusOf others one two)
    (rest : ∀ value, Follows statusOf others (next value) (further value)) :
    Follows statusOf others (one >>= next) (two >>= further) := by
  intro progress
  obtain ⟨before, same⟩ := first progress
  obtain ⟨after, alike⟩ := rest (one progress).1 (one progress).2
  refine ⟨List.Subset.trans before after, fun agree => ?_⟩
  have here : two progress = one progress := same fun publicKey asked => agree _ (after asked)
  calc (two >>= further) progress
      = further (two progress).1 (two progress).2 := rfl
    _ = further (one progress).1 (one progress).2 := by rw [here]
    _ = next (one progress).1 (one progress).2 := alike agree

theorem compositional_follows : Compositional (Follows statusOf others) :=
  ⟨follows_pure, Follows.bind⟩

theorem follows_judged (key : PublicKey) : Follows statusOf others
    (do judge policy key (← consult statusOf key.bytes))
    (do judge policy key (← consult others key.bytes)) := by
  refine Follows.bind (fun progress => ?_) fun status progress =>
    ⟨List.Subset.refl _, fun _ => rfl⟩
  unfold consult
  cases Table.find? progress.remembered key.bytes with
  | some status => exact ⟨List.Subset.refl _, fun _ => rfl⟩
  | none =>
    refine ⟨List.subset_append_left .., fun agree => ?_⟩
    rw [agree key.bytes (List.mem_append_right _ (List.mem_singleton_self _))]

/-- Every status that was asked for is remembered, so that none was asked for twice. -/
structure Progress.Thrifty (among : Bytes → Prop) (progress : Progress) : Prop where
  once : progress.asked.Nodup
  remembered : ∀ publicKey ∈ progress.asked,
    Table.find? progress.remembered publicKey ≠ none
  own : ∀ publicKey ∈ progress.asked, among publicKey

theorem Progress.thrifty_start (among : Bytes → Prop) : Progress.start.Thrifty among :=
  ⟨List.nodup_nil, by simp [start], by simp [start]⟩

theorem keeps_thrifty_judged {among : Bytes → Prop} (key : PublicKey) (own : among key.bytes) :
    Keeps (Progress.Thrifty among) (do judge policy key (← consult statusOf key.bytes)) := by
  refine Keeps.bind (fun progress kept => ?_) fun status progress kept =>
    ⟨kept.once, kept.remembered, kept.own⟩
  unfold consult
  cases known : Table.find? progress.remembered key.bytes with
  | some status => exact kept
  | none =>
    have fresh : key.bytes ∉ progress.asked := fun asked => kept.remembered _ asked known
    refine ⟨?_, fun publicKey asked => ?_, fun publicKey asked => ?_⟩
    · exact List.nodup_append.mpr ⟨kept.once, List.nodup_singleton _, by
        rintro _ asked _ last rfl
        exact fresh (List.mem_singleton.mp last ▸ asked)⟩
    · rw [Table.find?_insert]
      split
      · exact Option.some_ne_none _
      · rename_i differs
        rcases List.mem_append.mp asked with before | last
        · exact kept.remembered _ before
        · exact absurd (List.mem_singleton.mp last).symm differs
    · rcases List.mem_append.mp asked with before | last
      · exact kept.own _ before
      · exact List.mem_singleton.mp last ▸ own

end Rules

section Sequence

variable (statusOf : Bytes → Option VerificationStatus) (policy : Policy)

def evaluateEach : List Key → Evaluation (List Bool)
  | [] => pure []
  | key :: keys => do
    let answer ← evaluate statusOf policy key
    return answer :: (← evaluateEach keys)

variable {statusOf policy}

theorem evaluate_eq_meaning (key : Key) (progress : Progress)
    (faithful : progress.Faithful statusOf) :
    (evaluate statusOf policy key progress).1 =
      key.meaning fun leaf => policy leaf (statusOf leaf.bytes) := by
  rw [Bool.eq_iff_iff, Key.meaning_iff]
  exact (tells_evaluate key progress faithful).1

theorem evaluateEach_eq_meaning (keys : List Key) (progress : Progress)
    (faithful : progress.Faithful statusOf) :
    (evaluateEach statusOf policy keys progress).1 =
      keys.map (Key.meaning fun leaf => policy leaf (statusOf leaf.bytes)) := by
  induction keys generalizing progress with
  | nil => rfl
  | cons key keys ih =>
    have kept : (evaluate statusOf policy key progress).2.Faithful statusOf :=
      (tells_evaluate key progress faithful).2
    calc (evaluateEach statusOf policy (key :: keys) progress).1
        = (evaluate statusOf policy key progress).1 ::
            (evaluateEach statusOf policy keys (evaluate statusOf policy key progress).2).1 := rfl
      _ = _ := by rw [evaluate_eq_meaning key progress faithful, ih _ kept, List.map_cons]

theorem keeps_evaluateEach {property : Progress → Prop} (keys : List Key)
    (keeps : ∀ key ∈ keys, Keeps property (evaluate statusOf policy key)) :
    Keeps property (evaluateEach statusOf policy keys) := by
  induction keys with
  | nil => exact keeps_pure []
  | cons key keys ih =>
    rw [List.forall_mem_cons] at keeps
    exact keeps.1.bind fun answer => (ih keeps.2).bind fun answers => keeps_pure _

theorem follows_evaluateEach (others : Bytes → Option VerificationStatus) (keys : List Key) :
    Follows statusOf others (evaluateEach statusOf policy keys)
      (evaluateEach others policy keys) := by
  induction keys with
  | nil => exact follows_pure []
  | cons key keys ih =>
    have first : Follows statusOf others (evaluate statusOf policy key)
        (evaluate others policy key) :=
      compositional_follows.related_evaluate key fun leaf _ => follows_judged leaf
    exact first.bind fun answer => ih.bind fun answers => follows_pure _

/-- Keys that are evaluated one after another with one memory: each answer is the meaning of its
key, and that of an evaluation of the key alone. The status of the same bytes is asked for once at
most, and only for leaves of the keys. That nothing was asked without being noted is the last part:
other statuses, if they are the same for the bytes that were asked for, change nothing. -/
theorem shared_evaluation (statusOf : Bytes → Option VerificationStatus) (policy : Policy)
    (keys : List Key) :
    ∃ progress : Progress,
      evaluateEach statusOf policy keys .start =
        (keys.map (Key.meaning fun leaf => policy leaf (statusOf leaf.bytes)), progress) ∧
      keys.map (Key.isActive statusOf policy) =
        keys.map (Key.meaning fun leaf => policy leaf (statusOf leaf.bytes)) ∧
      progress.asked.Nodup ∧
      (∀ publicKey ∈ progress.asked, ∃ key ∈ keys, ∃ leaf ∈ key.leaves, leaf.bytes = publicKey) ∧
      ∀ others : Bytes → Option VerificationStatus,
        (∀ publicKey ∈ progress.asked, others publicKey = statusOf publicKey) →
          evaluateEach others policy keys .start = evaluateEach statusOf policy keys .start := by
  have faithful : Progress.start.Faithful statusOf := fun _ _ found => by cases found
  have thrifty : Keeps (Progress.Thrifty fun publicKey => ∃ key ∈ keys, ∃ leaf ∈ key.leaves,
      leaf.bytes = publicKey) (evaluateEach statusOf policy keys) := by
    refine keeps_evaluateEach keys fun key member => ?_
    exact keeps_evaluate key fun leaf own =>
      keeps_thrifty_judged leaf ⟨key, member, leaf, own, rfl⟩
  have kept := thrifty .start (Progress.thrifty_start _)
  refine ⟨_, Prod.ext (evaluateEach_eq_meaning keys .start faithful) rfl, ?_, kept.once, kept.own,
    fun others agree => ?_⟩
  · exact List.map_congr_left fun key _ => evaluate_eq_meaning key .start faithful
  · exact (follows_evaluateEach others keys .start).2 agree

end Sequence

end Activation

namespace Key

theorem isActive_mono {key : Key} {statusOf others : Bytes → Option VerificationStatus}
    {policy further : Policy}
    (carried : ∀ leaf ∈ key.leaves, policy leaf (statusOf leaf.bytes) = true →
      further leaf (others leaf.bytes) = true)
    (active : key.isActive statusOf policy = true) : key.isActive others further = true := by
  rw [isActive_iff] at active ⊢
  apply active.mono
  intro leaf occurs
  exact carried leaf ((key.mem_leaves_iff leaf).mpr occurs)

theorem permissive_of_strict {leaf : PublicKey} {status : Option VerificationStatus}
    (accepted : Policy.strict leaf status = true) : Policy.permissive leaf status = true := by
  rw [Policy.permissive, Bool.or_eq_true]
  exact .inl accepted

/-- A key that is active stays so in any setting that accepts each of its leaves that was accepted:
under the permissive policy if it was under the strict one, and when further statuses turn valid. -/
theorem activation_monotone (key : Key) (statusOf others : Bytes → Option VerificationStatus) :
    (∀ policy further : Policy,
      (∀ leaf ∈ key.leaves, policy leaf (statusOf leaf.bytes) = true →
        further leaf (others leaf.bytes) = true) →
      key.isActive statusOf policy = true → key.isActive others further = true) ∧
    (key.isActive statusOf .strict = true → key.isActive statusOf .permissive = true) ∧
    ((∀ publicKey, others publicKey = statusOf publicKey ∨ others publicKey = some .valid) →
      key.isActive statusOf .strict = true → key.isActive others .strict = true) := by
  refine ⟨fun _ _ => isActive_mono, ?_, ?_⟩
  · exact isActive_mono fun leaf _ => permissive_of_strict
  · intro turned
    apply isActive_mono
    intro leaf _ accepted
    rcases turned leaf.bytes with same | valid
    · rwa [same]
    · rw [valid]
      rfl

theorem active_on_other_leaves :
    let key : Key := .threshold ⟨2, by decide⟩
      [.list [.simple ⟨.ed25519, [1]⟩, .simple ⟨.ed25519, [2]⟩], .contract ⟨0, 0, 9⟩,
        .simple ⟨.secp256k1, [3]⟩, .simple ⟨.ed25519, [4]⟩]
    let statuses : StatusMap :=
      .ofList [([1], .valid), ([2], .invalid), ([3], .valid), ([4], .valid)]
    let others : StatusMap :=
      .ofList [([1], .valid), ([2], .valid), ([3], .unknown), ([4], .valid)]
    let further : Policy := fun leaf status => leaf.scheme = .secp256k1 ∨ status = some .valid
    key.isActive statuses.statusOf .strict = true ∧ key.isActive others.statusOf further = true ∧
      (Activation.evaluate statuses.statusOf .strict key .start).2.asked = [[1], [2], [3], [4]] ∧
      (Activation.evaluate others.statusOf further key .start).2.asked = [[1], [2], [3]] := by
  intro key statuses others further
  have active : key.isActive statuses.statusOf .strict = true := by decide
  refine ⟨active, ?_, by decide, by decide⟩
  exact (activation_monotone key statuses.statusOf others.statusOf).1 .strict further (by decide)
    active

end Key

end Signatory
