import Mathlib.Data.List.Induction
import Signatory.Proofs.DistinctKeys
import Signatory.Service

/-!
The status of a public key as a maximum. Records are taken in one after another, and what is known
of a key so far is raised or left as it is. Main statement: whatever their order, the public keys of
the records are those that have a status, and the status is the greatest that a record with the key
has; so repeated records change nothing, the map of two lists joined is the pointwise maximum of
their maps, and no answer of the evaluation depends on the order of records.
-/
namespace Signatory

namespace VerificationStatus

inductive AtMost : VerificationStatus → VerificationStatus → Prop where
  | same (status : VerificationStatus) : AtMost status status
  | unknown (status : VerificationStatus) : AtMost .unknown status
  | valid (status : VerificationStatus) : AtMost status .valid

theorem atMost_iff (a b : VerificationStatus) : a.AtMost b ↔ a.rank ≤ b.rank := by
  constructor
  · intro atMost
    cases atMost with
    | same => exact Nat.le_refl _
    | unknown => exact Nat.zero_le _
    | valid => cases a <;> decide
  · intro below
    cases a with
    | unknown => exact .unknown b
    | invalid =>
      cases b with
      | unknown => simp [rank] at below
      | invalid => exact .same _
      | valid => exact .valid _
    | valid =>
      cases b with
      | valid => exact .same _
      | unknown | invalid => simp [rank] at below

variable {a b c : VerificationStatus}

theorem AtMost.antisymm (one : a.AtMost b) (two : b.AtMost a) : a = b := by
  rw [atMost_iff] at one two
  have same : a.rank = b.rank := Nat.le_antisymm one two
  cases a <;> cases b <;> first | rfl | simp [rank] at same

theorem AtMost.trans (one : a.AtMost b) (two : b.AtMost c) : a.AtMost c := by
  rw [atMost_iff] at one two ⊢
  exact Nat.le_trans one two

theorem stronger_eq (a b : VerificationStatus) :
    (a.stronger b = b ∧ a.AtMost b) ∨ (a.stronger b = a ∧ b.AtMost a) := by
  unfold stronger
  split
  · rename_i below
    exact .inl ⟨rfl, (atMost_iff a b).mpr (Nat.le_of_lt below)⟩
  · rename_i above
    exact .inr ⟨rfl, (atMost_iff b a).mpr (Nat.le_of_not_lt above)⟩

theorem atMost_stronger (a b : VerificationStatus) :
    a.AtMost (a.stronger b) ∧ b.AtMost (a.stronger b) := by
  rcases stronger_eq a b with ⟨taken, below⟩ | ⟨kept, above⟩
  · rw [taken]
    exact ⟨below, .same b⟩
  · rw [kept]
    exact ⟨.same a, above⟩

theorem stronger_assoc (a b c : VerificationStatus) :
    (a.stronger b).stronger c = a.stronger (b.stronger c) := by
  cases a <;> cases b <;> cases c <;> rfl

end VerificationStatus

namespace StatusMap

/-- The greatest status of a record with the public key, if there is such a record. -/
structure Strongest (records : List SignatureRecord) (publicKey : Bytes)
    (status : VerificationStatus) : Prop where
  reached : ∃ record ∈ records, record.key.bytes = publicKey ∧ record.status = status
  greatest : ∀ record ∈ records, record.key.bytes = publicKey → record.status.AtMost status

theorem Strongest.unique {records : List SignatureRecord} {publicKey : Bytes}
    {one two : VerificationStatus} (first : Strongest records publicKey one)
    (second : Strongest records publicKey two) : one = two := by
  obtain ⟨record, member, own, rfl⟩ := first.reached
  obtain ⟨other, within, same, rfl⟩ := second.reached
  exact (second.greatest record member own).antisymm (first.greatest other within same)

theorem statusOf_ofRecords_concat (records : List SignatureRecord) (record : SignatureRecord)
    (publicKey : Bytes) :
    statusOf (ofRecords (records ++ [record])) publicKey =
      if record.key.bytes = publicKey then
        Option.merge VerificationStatus.stronger (statusOf (ofRecords records) publicKey)
          (some record.status)
      else statusOf (ofRecords records) publicKey := by
  have last : ofRecords (records ++ [record]) =
      raise (ofRecords records) record.key.bytes record.status := by
    rw [ofRecords, List.foldl_append]
    rfl
  rw [last, statusOf_raise]
  split
  · rename_i own
    rw [own]
    cases statusOf (ofRecords records) publicKey <;> rfl
  · rfl

theorem statusOf_eq_none_iff (records : List SignatureRecord) (publicKey : Bytes) :
    statusOf (ofRecords records) publicKey = none ↔
      ∀ record ∈ records, record.key.bytes ≠ publicKey := by
  induction records using List.reverseRecOn with
  | nil => simp [statusOf, ofRecords]
  | append_singleton records record ih =>
    rw [statusOf_ofRecords_concat]
    by_cases own : record.key.bytes = publicKey
    · cases statusOf (ofRecords records) publicKey <;> simp [own]
    · simp only [own, ↓reduceIte, ih, List.forall_mem_append, List.forall_mem_singleton, ne_eq,
        not_false_eq_true, and_true]

theorem strongest_of_statusOf {records : List SignatureRecord} {publicKey : Bytes}
    {status : VerificationStatus}
    (told : statusOf (ofRecords records) publicKey = some status) :
    Strongest records publicKey status := by
  -- from the end: the last record taken in raises what those before it have left
  induction records using List.reverseRecOn generalizing status with
  | nil => cases told
  | append_singleton records record ih =>
    rw [statusOf_ofRecords_concat] at told
    by_cases own : record.key.bytes = publicKey
    · rw [if_pos own] at told
      cases before : statusOf (ofRecords records) publicKey with
      | none =>
        have first := (statusOf_eq_none_iff records publicKey).mp before
        rw [before] at told
        cases told
        refine ⟨⟨record, by simp, own, rfl⟩, ?_⟩
        intro other member same
        rcases List.mem_append.mp member with earlier | last
        · exact absurd same (first other earlier)
        · rw [List.mem_singleton.mp last]
          exact .same _
      | some known =>
        have strongest := ih before
        rw [before] at told
        cases told
        obtain ⟨below, above⟩ := VerificationStatus.atMost_stronger known record.status
        constructor
        · rcases VerificationStatus.stronger_eq known record.status with ⟨taken, _⟩ | ⟨kept, _⟩
          · exact ⟨record, by simp, own, taken.symm⟩
          · obtain ⟨other, member, same, held⟩ := strongest.reached
            exact ⟨other, List.mem_append_left _ member, same, held.trans kept.symm⟩
        · intro other member same
          rcases List.mem_append.mp member with earlier | last
          · exact (strongest.greatest other earlier same).trans below
          · rw [List.mem_singleton.mp last]
            exact above
    · rw [if_neg own] at told
      have strongest := ih told
      obtain ⟨other, member, same, held⟩ := strongest.reached
      refine ⟨⟨other, List.mem_append_left _ member, same, held⟩, ?_⟩
      intro further within same
      rcases List.mem_append.mp within with earlier | last
      · exact strongest.greatest further earlier same
      · rw [List.mem_singleton.mp last] at same
        exact absurd same own

theorem statusOf_eq_some_iff (records : List SignatureRecord) (publicKey : Bytes)
    (status : VerificationStatus) :
    statusOf (ofRecords records) publicKey = some status ↔
      Strongest records publicKey status := by
  constructor
  · exact strongest_of_statusOf
  · intro strongest
    cases told : statusOf (ofRecords records) publicKey with
    | none =>
      obtain ⟨record, member, own, _⟩ := strongest.reached
      exact absurd own ((statusOf_eq_none_iff records publicKey).mp told record member)
    | some other => rw [(strongest_of_statusOf told).unique strongest]

theorem statusOf_ofRecords_append (records others : List SignatureRecord) (publicKey : Bytes) :
    statusOf (ofRecords (records ++ others)) publicKey =
      Option.merge VerificationStatus.stronger (statusOf (ofRecords records) publicKey)
        (statusOf (ofRecords others) publicKey) := by
  induction others using List.reverseRecOn with
  | nil =>
    rw [List.append_nil]
    exact Option.merge_none_right.symm
  | append_singleton others record ih =>
    rw [← List.append_assoc, statusOf_ofRecords_concat, statusOf_ofRecords_concat, ih]
    split
    · cases statusOf (ofRecords records) publicKey with
      | none => rw [Option.merge_none_left, Option.merge_none_left]
      | some one =>
        cases statusOf (ofRecords others) publicKey with
        | none => rfl
        | some two =>
          simp only [Option.merge_some_some, VerificationStatus.stronger_assoc]
    · rfl

theorem distinct_ofRecords (records : List SignatureRecord) :
    Table.Distinct (ofRecords records) := by
  induction records using List.reverseRecOn with
  | nil => exact Table.distinct_nil
  | append_singleton records record ih =>
    rw [ofRecords, List.foldl_append]
    exact ih.insert record.key.bytes _

theorem statusOf_ofRecords_congr {records others : List SignatureRecord}
    (same : ∀ record, record ∈ others ↔ record ∈ records) :
    statusOf (ofRecords others) = statusOf (ofRecords records) := by
  funext publicKey
  apply Option.ext
  intro status
  rw [statusOf_eq_some_iff, statusOf_eq_some_iff]
  constructor
  · intro strongest
    obtain ⟨record, member, told⟩ := strongest.reached
    exact ⟨⟨record, (same record).mp member, told⟩,
      fun other within => strongest.greatest other ((same other).mpr within)⟩
  · intro strongest
    obtain ⟨record, member, told⟩ := strongest.reached
    exact ⟨⟨record, (same record).mpr member, told⟩,
      fun other within => strongest.greatest other ((same other).mp within)⟩

/-- The entries of the map, for any records: which keys have one, what it says, and what becomes of
it if the records are put in another order, are repeated, or are joined with others. -/
theorem map_is_maximum (records : List SignatureRecord) :
    (∀ publicKey status, (publicKey, status) ∈ ofRecords records ↔
      Strongest records publicKey status) ∧
    ((ofRecords records).map Prod.fst).Nodup ∧
    (∀ publicKey, (∃ status, statusOf (ofRecords records) publicKey = some status) ↔
      ∃ record ∈ records, record.key.bytes = publicKey) ∧
    (∀ publicKey status, statusOf (ofRecords records) publicKey = some status ↔
      Strongest records publicKey status) ∧
    (∀ others : List SignatureRecord, (∀ record, record ∈ others ↔ record ∈ records) →
      statusOf (ofRecords others) = statusOf (ofRecords records) ∧
        (ofRecords others).Perm (ofRecords records)) ∧
    (∀ others publicKey, statusOf (ofRecords (records ++ others)) publicKey =
      Option.merge VerificationStatus.stronger (statusOf (ofRecords records) publicKey)
        (statusOf (ofRecords others) publicKey)) ∧
    ∀ others, others.Perm records → ∀ (service : Service) (key : Key) (policy : Policy),
      service.isActive key others policy = service.isActive key records policy := by
  have distinct := distinct_ofRecords records
  refine ⟨?_, distinct, ?_, statusOf_eq_some_iff records, ?_, statusOf_ofRecords_append records, ?_⟩
  · intro publicKey status
    rw [distinct.mem_iff]
    exact statusOf_eq_some_iff records publicKey status
  · intro publicKey
    rw [← Option.ne_none_iff_exists', ne_eq, statusOf_eq_none_iff]
    simp
  · intro others same
    have alike := statusOf_ofRecords_congr same
    exact ⟨alike, (distinct_ofRecords others).perm distinct fun publicKey => congrFun alike publicKey⟩
  · intro others permuted service key policy
    rw [Service.isActive, statusOf_ofRecords_congr fun record => permuted.mem_iff]
    rfl

theorem map_of_all_outcomes :
    statusOf (ofRecords [⟨⟨.ed25519, [1]⟩, [], [], .invalid⟩, ⟨⟨.secp256k1, [1]⟩, [], [], .valid⟩,
        ⟨⟨.ed25519, [1]⟩, [], [], .unknown⟩]) [1] = some .valid ∧
      statusOf (ofRecords [⟨⟨.secp256k1, [1]⟩, [], [], .valid⟩, ⟨⟨.ed25519, [1]⟩, [], [], .unknown⟩,
        ⟨⟨.ed25519, [1]⟩, [], [], .invalid⟩]) [1] = some .valid := by
  obtain ⟨_, _, _, told, alike, _⟩ := map_is_maximum [⟨⟨.ed25519, [1]⟩, [], [], .invalid⟩,
    ⟨⟨.secp256k1, [1]⟩, [], [], .valid⟩, ⟨⟨.ed25519, [1]⟩, [], [], .unknown⟩]
  have first := (told [1] .valid).mpr ⟨⟨_, .tail _ (.head _), rfl, rfl⟩, fun _ _ _ => .valid _⟩
  refine ⟨first, ?_⟩
  rw [(alike _ ?_).1]
  · exact first
  · intro record
    simp only [List.mem_cons, List.not_mem_nil, or_false]
    tauto

end StatusMap

end Signatory
