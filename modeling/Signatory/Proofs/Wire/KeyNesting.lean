import Signatory.Proofs.Wire.RoundTrip

/-!
How deep a key may nest to be read. Two limits stand next to each other: the branches that are open
are counted while a key is read, and its depth is measured afterwards, in which a leaf counts and an
empty branch has no child that could. Main statement: of the keys that are written, those within the
depth of keys are read back; those with one level more and no more branches than that are told by
their depth; and all others are refused while they are read.
-/
namespace Signatory
open Wire

namespace Key

mutual

def nesting : Key → Nat
  | .simple _ => 0
  | .list keys => 1 + greatestNesting keys
  | .threshold _ keys => 1 + greatestNesting keys
  | .contract _ => 0

def greatestNesting : List Key → Nat
  | [] => 0
  | key :: keys => max (nesting key) (greatestNesting keys)

end

theorem greatestNesting_le_iff (keys : List Key) (bound : Nat) :
    greatestNesting keys ≤ bound ↔ ∀ key ∈ keys, key.nesting ≤ bound := by
  induction keys with
  | nil => simp [greatestNesting]
  | cons key keys ih => simp only [greatestNesting, Nat.max_le, ih, List.forall_mem_cons]

theorem greatestDepth_bounds (keys : List Key)
    (each : ∀ key ∈ keys, key.nesting ≤ key.depth ∧ key.depth ≤ key.nesting + 1) :
    greatestNesting keys ≤ greatestDepth keys ∧ greatestDepth keys ≤ greatestNesting keys + 1 := by
  have nested := (greatestNesting_le_iff keys _).mp (Nat.le_refl _)
  have deep := (greatestDepth_le_iff keys _).mp (Nat.le_refl _)
  constructor
  · rw [greatestNesting_le_iff]
    intro key member
    exact Nat.le_trans (each key member).1 (deep key member)
  · rw [greatestDepth_le_iff]
    intro key member
    exact Nat.le_trans (each key member).2 (Nat.succ_le_succ (nested key member))

theorem depth_bounds (key : Key) : key.nesting ≤ key.depth ∧ key.depth ≤ key.nesting + 1 := by
  induction key using induct with
  | simple key => simp [nesting, depth]
  | list keys ih =>
    have := greatestDepth_bounds keys ih
    simp only [nesting, depth]
    omega
  | threshold needed keys ih =>
    have := greatestDepth_bounds keys ih
    simp only [nesting, depth]
    omega
  | contract id => simp [nesting, depth]

theorem wire_ne_nil (key : Key) : key.wire ≠ [] := by
  cases key with
  | simple leaf =>
    obtain ⟨scheme, bytes⟩ := leaf
    cases scheme <;> exact List.append_ne_nil_of_left_ne_nil (number_ne_nil _) _
  | list keys | threshold needed keys | contract id =>
    exact List.append_ne_nil_of_left_ne_nil (number_ne_nil _) _

end Key

section Laws

variable {faults : Fault → Prop}

theorem EntityId.readsBack {kind : EntityKind} (id : EntityId kind) :
    ReadsBack faults EntityId.read id.wire id True := by
  rw [EntityId.wire, List.append_assoc]
  exact ((readsBack_word id.shard).bind
    ((readsBack_word id.realm).bind (readsBack_word id.num).done)).of_iff (by simp)

theorem Threshold.readsBack (threshold : Threshold) :
    ReadsBack faults Threshold.read threshold.wire threshold True := by
  apply ReadsBack.always
  intro _ rest
  have kept : Threshold.ofCount? threshold.count = some threshold := dif_pos threshold.positive
  refine Reader.bind_eq_ok_iff.mpr ⟨threshold.count, rest, readShort_short _ rest, ?_⟩
  rw [kept]
  rfl

theorem Key.readsBack_children {levels : Nat} {keys : List Key}
    (children : ∀ key ∈ keys,
      ReadsBack faults (Key.read levels) key.wire key (key.nesting ≤ levels)) :
    ReadsBack faults (readSequence (Key.read levels)) (number keys.length ++ Key.wireAll keys) keys
      (Key.greatestNesting keys ≤ levels) := by
  rw [Key.wireAll_eq]
  exact (readsBack_sequence children fun key _ => key.wire_ne_nil).of_iff
    (Key.greatestNesting_le_iff keys levels).symm

theorem Key.readsBack (refused : faults (.keyNesting Key.maxDepth)) (key : Key) (levels : Nat) :
    ReadsBack faults (Key.read levels) key.wire key (key.nesting ≤ levels) := by
  induction key using Key.induct generalizing levels with
  | simple leaf =>
    rw [Key.read.eq_def]
    obtain ⟨scheme, bytes⟩ := leaf
    cases scheme with
    | ed25519 =>
      apply ReadsBack.variant 0 (by decide)
      exact (readsBack_byteString bytes).done.of_iff (by simp [Key.nesting])
    | secp256k1 =>
      apply ReadsBack.variant 1 (by decide)
      exact (readsBack_byteString bytes).done.of_iff (by simp [Key.nesting])
  | list keys ih =>
    rw [Key.read.eq_def]
    apply ReadsBack.variant 2 (by decide)
    -- a branch takes one level, and is refused before its children if none is left
    cases levels with
    | zero => exact (ReadsBack.never refused).of_iff (by simp [Key.nesting])
    | succ levels =>
      have children := Key.readsBack_children fun key member => ih key member levels
      exact children.done.of_iff (by simp only [Key.nesting]; omega)
  | threshold needed keys ih =>
    rw [Key.read.eq_def]
    apply ReadsBack.variant 3 (by decide)
    cases levels with
    | zero =>
      exact (needed.readsBack.bind (.never refused)).of_iff (by simp [Key.nesting])
    | succ levels =>
      have children := Key.readsBack_children fun key member => ih key member levels
      exact (needed.readsBack.bind children.done).of_iff
        (by simp only [Key.nesting, true_and]; omega)
  | contract id =>
    rw [Key.read.eq_def]
    apply ReadsBack.variant 4 (by decide)
    exact id.readsBack.done.of_iff (by simp [Key.nesting])

end Laws

namespace Key

theorem gives_nesting_le (levels : Nat) :
    Reader.Gives (fun key => key.nesting ≤ levels) (Key.read levels) := by
  induction levels using Nat.strongRecOn with
  | ind levels ih =>
    -- both kinds of branch hand their children one level less
    have children {fewer : Nat} (below : fewer < levels) :
        Reader.Gives (fun keys => 1 + greatestNesting keys ≤ levels)
          (readSequence (Key.read fewer)) := by
      intro bytes keys rest answered
      have each := gives_readSequence (ih fewer below) answered
      have := (greatestNesting_le_iff keys fewer).mpr each
      omega
    rw [Key.read.eq_def]
    refine .bind fun variant => ?_
    split
    case h_1 | h_2 | h_5 => exact .bind fun _ => Reader.gives_pure (Nat.zero_le _)
    case h_3 =>
      cases levels with
      | zero => exact Reader.gives_fail _ _
      | succ fewer =>
        exact .bind_of (children (Nat.lt_succ_self fewer)) fun _ within => Reader.gives_pure within
    case h_4 =>
      refine .bind fun _ => ?_
      cases levels with
      | zero => exact Reader.gives_fail _ _
      | succ fewer =>
        exact .bind_of (children (Nat.lt_succ_self fewer)) fun _ within => Reader.gives_pure within
    case h_6 => exact Reader.gives_fail _ _

theorem tooDeep_of_decode {bytes : Bytes} {depth limit : Nat}
    (refused : decode bytes = .error (.tooDeep depth limit)) :
    depth = maxDepth + 1 ∧ limit = maxDepth := by
  unfold decode at refused
  split at refused
  · cases refused
  · rename_i key read
    split at refused
    · cases refused
    · rename_i deep
      cases refused
      have nested : key.nesting ≤ maxDepth := gives_nesting_le _ (Reader.run_eq_ok_iff.mp read)
      have bounds := key.depth_bounds
      exact ⟨by omega, rfl⟩

theorem decode_wire (key : Key) (short : key.wire.length < 2 ^ 64) :
    decode key.wire =
      if maxDepth < key.nesting then .error (.encoding (.keyNesting maxDepth))
      else if key.depth ≤ maxDepth then .ok key
      else .error (.tooDeep key.depth maxDepth) := by
  have law : ReadsBack (· = .keyNesting maxDepth) (Key.read maxDepth) key.wire key
      (key.nesting ≤ maxDepth) := key.readsBack (by rfl) maxDepth
  split
  · rename_i nested
    obtain ⟨_, rfl, failed⟩ := law.refused_alone short (Nat.not_le.mpr nested)
    simp only [decode, readNested, Reader.run, failed]
  · rename_i nested
    have read := law.read_alone short (Nat.not_lt.mp nested)
    simp only [decode, readNested, Reader.run, read]

/-- Both limits at once, for a key that is written; and no bytes at all are told to be of any other
depth. -/
theorem decode_of_encoded_key (key : Key) (bytes : Bytes) (encoded : key.encode = .ok bytes) :
    (decode bytes = .ok key ↔ key.depth ≤ 15) ∧
    (decode bytes = .error (.tooDeep 16 15) ↔ key.nesting ≤ 15 ∧ key.depth = 16) ∧
    (decode bytes = .error (.encoding (.keyNesting 15)) ↔
      ¬ key.depth ≤ 15 ∧ ¬ (key.nesting ≤ 15 ∧ key.depth = 16)) ∧
    Fault.message (.keyNesting 15) = "key list nesting exceeds 15 levels" ∧
    ∀ any depth limit, decode any = .error (.tooDeep depth limit) → depth = 16 ∧ limit = 15 := by
  obtain ⟨rfl, short⟩ := mapError_bounded_eq_ok encoded
  have answer := key.decode_wire (Nat.lt_of_le_of_lt short (by decide))
  have bounds := key.depth_bounds
  simp only [maxDepth] at answer
  refine ⟨?_, ?_, ?_, rfl, fun any depth limit => tooDeep_of_decode⟩
  · rw [answer]
    grind
  · rw [answer]
    grind
  · rw [answer]
    grind

def enclosed : (count : Nat) → Key → Key
  | 0, key => key
  | count + 1, key => .list [enclosed count key]

theorem sixteen_levels_told_apart :
    decode ((List.replicate 15 [2, 1]).flatten ++ [0, 0]) = .error (.tooDeep 16 15) ∧
    decode ((List.replicate 15 [2, 1]).flatten ++ [2, 0]) =
      .error (.encoding (.keyNesting 15)) := by
  constructor
  · exact (decode_of_encoded_key (enclosed 15 (.simple ⟨.ed25519, []⟩)) _ (by cbv)).2.1.mpr (by decide)
  · exact (decode_of_encoded_key (enclosed 15 (.list [])) _ (by cbv)).2.2.1.mpr (by decide)

end Key

end Signatory
