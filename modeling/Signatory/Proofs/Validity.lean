import Signatory.Proofs.Satisfaction
import Signatory.Proofs.Wire.Acceptance

/-!
Validity beside activation. Validity is told by the shape of a key and the lengths of its public
keys, activation by the statuses of its leaves. Main statement: a valid key without contracts is
active once all of its leaves have signed; and no key is active unless one of its leaves has, so
that keys without leaves, and keys that are empty, never are.
-/
namespace Signatory

namespace Key

variable {signed : PublicKey → Prop}

theorem satisfied_of_wellFormed (key : Key) (wellFormed : key.isWellFormed = true)
    (free : ∀ id, ¬ Occurs (.contract id) key) (all : ∀ leaf ∈ key.leaves, signed leaf) :
    Satisfied signed key := by
  induction key using Key.induct with
  | simple key => exact .simple (all key (List.mem_singleton_self _))
  | list keys ih =>
    rw [isWellFormed, Bool.and_eq_true, allWellFormed_eq, List.all_eq_true] at wellFormed
    have nonempty : keys ≠ [] := by simpa using wellFormed.1
    have children : ∀ key ∈ keys, Satisfied signed key := fun key member =>
      ih key member (wellFormed.2 key member) (fun id occurs => free id (.list member occurs))
        fun leaf own => all leaf (mem_leavesOf member own)
    exact .list nonempty children
  | threshold needed keys ih =>
    rw [isWellFormed, Bool.and_eq_true, allWellFormed_eq, List.all_eq_true] at wellFormed
    have enough : needed.children ≤ keys.length := by simpa using wellFormed.1
    have children : ∀ key ∈ keys, Satisfied signed key := fun key member =>
      ih key member (wellFormed.2 key member) (fun id occurs => free id (.threshold member occurs))
        fun leaf own => all leaf (mem_leavesOf member own)
    exact .threshold (List.Sublist.refl keys) enough children
  | contract id => exact absurd .here (free id)

theorem isAbsent_of_isEmpty (key : Key) (empty : key.isEmpty = true) :
    ∀ leaf ∈ key.leaves, leaf.isAbsent = true := by
  induction key using Key.induct with
  | simple key =>
    intro leaf own
    rwa [List.mem_singleton.mp own]
  | list keys ih | threshold needed keys ih =>
    rw [isEmpty, allEmpty_eq, List.all_eq_true] at empty
    intro leaf own
    rw [leaves, leavesOf_eq, List.mem_flatMap] at own
    obtain ⟨key, member, own⟩ := own
    exact ih key member (empty key member) leaf own
  | contract id => simp [leaves]

variable {statusOf : Bytes → Option VerificationStatus}

theorem exists_valid_leaf {key : Key} (active : key.isActive statusOf .strict = true) :
    ∃ leaf ∈ key.leaves, statusOf leaf.bytes = some .valid := by
  obtain ⟨leaf, occurs, valid⟩ := ((isActive_strict_iff statusOf key).mp active).signed_leaf
  exact ⟨leaf, (key.mem_leaves_iff leaf).mpr occurs, valid⟩

theorem not_isEmpty_of_active {key : Key} (active : key.isActive statusOf .strict = true)
    (unknown : statusOf [] = none) : key.isEmpty = false := by
  obtain ⟨leaf, own, valid⟩ := exists_valid_leaf active
  rw [← Bool.not_eq_true]
  intro empty
  have absent : leaf.bytes = [] := by
    simpa [PublicKey.isAbsent] using isAbsent_of_isEmpty key empty leaf own
  rw [absent, unknown] at valid
  cases valid

/-- A valid key in which no contract occurs can be authorized; an active key, valid or not, owes it
to a leaf. -/
theorem validity_meets_activation (statusOf : Bytes → Option VerificationStatus) (key : Key) :
    (key.isValid = true → (∀ id, ¬ Occurs (.contract id) key) →
      (∀ leaf ∈ key.leaves, statusOf leaf.bytes = some .valid) →
        key.isActive statusOf .strict = true) ∧
    (key.isActive statusOf .strict = true →
      ∃ leaf ∈ key.leaves, statusOf leaf.bytes = some .valid) ∧
    (key.leaves = [] → key.isActive statusOf .strict = false) ∧
    (statusOf [] = none → key.isEmpty = true → key.isActive statusOf .strict = false) := by
  refine ⟨fun valid free all => ?_, exists_valid_leaf, fun none => ?_, fun unknown empty => ?_⟩
  · rw [isValid, Bool.and_eq_true, Bool.and_eq_true] at valid
    exact (isActive_strict_iff statusOf key).mpr (satisfied_of_wellFormed key valid.2 free all)
  · rw [← Bool.not_eq_true]
    intro active
    obtain ⟨leaf, own, _⟩ := exists_valid_leaf active
    simp [none] at own
  · rw [← Bool.not_eq_true]
    intro active
    simp [not_isEmpty_of_active active unknown] at empty

end Key

namespace Sample

def council : Key :=
  .threshold ⟨2, by decide⟩ [.simple ⟨.ed25519, List.replicate 32 1⟩,
    .list [.simple ⟨.ed25519, List.replicate 32 2⟩, .simple ⟨.secp256k1, List.replicate 33 3⟩],
    .simple ⟨.ed25519, List.replicate 32 4⟩]

def everyone (publicKey : Bytes) : Option VerificationStatus :=
  if publicKey = [] then none else some .valid

theorem not_occurs_council (id : ContractId) : ¬ Key.Occurs (.contract id) council := by
  intro occurs
  rcases occurs with _ | _ | ⟨member, inside⟩
  simp only [List.mem_cons, List.not_mem_nil, or_false] at member
  rcases member with rfl | rfl | rfl
  · cases inside
  · rcases inside with _ | ⟨member, inside⟩ | _
    simp only [List.mem_cons, List.not_mem_nil, or_false] at member
    rcases member with rfl | rfl <;> cases inside
  · cases inside

end Sample

namespace Key

theorem council_active :
    (Sample.council.isValid = true ∧ Sample.council.isActive Sample.everyone .strict = true) ∧
    (list []).isEmpty = true ∧ (list []).isActive Sample.everyone .strict = false := by
  have valid : Sample.council.isValid = true := by decide
  refine ⟨⟨valid, ?_⟩, rfl, ?_⟩
  · exact (validity_meets_activation Sample.everyone Sample.council).1 valid
      Sample.not_occurs_council (by decide)
  · exact (validity_meets_activation Sample.everyone (.list [])).2.2.2 rfl rfl

end Key

end Signatory
