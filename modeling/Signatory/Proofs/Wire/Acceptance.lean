import Signatory.Proofs.Satisfaction
import Signatory.Proofs.Wire.BodyNesting

/-!
What decoders let through, whatever bytes arrive, also bytes that are never written. Main statement:
an accepted body has two levels of schedules at most, and every key at any place in it, keys within
keys included, is within the limit of depth and has no threshold of zero.
-/
namespace Signatory
open Wire

namespace Key

theorem Occurs.depth_le {inner outer : Key} (occurs : Occurs inner outer) :
    inner.depth ≤ outer.depth := by
  induction occurs with
  | here => exact Nat.le_refl _
  | list member _ ih | threshold member _ ih =>
    have deepest := (greatestDepth_le_iff _ _).mp (Nat.le_refl _) _ member
    rw [depth]
    omega

theorem read_zero_threshold {levels : Nat} {bytes behind rest : Bytes}
    (variant : readVariant bytes = .ok (3, behind)) (zero : readShort behind = .ok (0, rest)) :
    Key.read levels bytes = .error .zeroThreshold := by
  have refused : Threshold.read behind = .error .zeroThreshold := by
    rw [Threshold.read, Reader.bind_of_ok zero]
    rfl
  rw [Key.read.eq_def, Reader.bind_of_ok variant]
  exact Reader.bind_of_error refused

/-- At every place in the key the depth is at most 15, and a threshold asks for one child at least. -/
def WithinLimits (key : Key) : Prop :=
  ∀ inner, Occurs inner key →
    inner.depth ≤ 15 ∧ ∀ needed keys, inner = .threshold needed keys → needed.count ≠ 0

theorem withinLimits_of_depth_le {key : Key} (shallow : key.depth ≤ maxDepth) :
    key.WithinLimits := by
  intro inner occurs
  refine ⟨Nat.le_trans occurs.depth_le shallow, ?_⟩
  rintro needed keys rfl
  exact needed.positive

theorem withinLimits_of_decode {bytes : Bytes} {key : Key} (accepted : decode bytes = .ok key) :
    key.WithinLimits :=
  withinLimits_of_depth_le (decode_eq_ok_iff.mp accepted).2

end Key

theorem Operation.gives_scheduleLevels_le (levels : Nat) :
    Reader.Gives (scheduleLevels · ≤ levels) (Operation.read levels) := by
  induction levels using Nat.strongRecOn with
  | ind levels ih =>
    rw [Operation.read.eq_def]
    refine .bind fun variant => ?_
    split
    case h_2 | h_8 | h_15 | h_18 | h_19 | h_20 =>
      exact .bind fun _ => Reader.gives_pure (Nat.zero_le _)
    case h_4 | h_5 | h_6 | h_12 | h_16 =>
      exact .bind fun _ => .bind fun _ => Reader.gives_pure (Nat.zero_le _)
    case h_1 | h_3 | h_7 | h_9 | h_10 | h_11 | h_13 =>
      exact .bind fun _ => .bind fun _ => .bind fun _ => Reader.gives_pure (Nat.zero_le _)
    case h_14 =>
      exact .bind fun _ => .bind fun _ => .bind fun _ => .bind fun _ =>
        Reader.gives_pure (Nat.zero_le _)
    case h_17 =>
      cases levels with
      | zero => exact Reader.gives_fail _ _
      | succ fewer =>
        refine .bind_of (ih fewer (Nat.lt_succ_self fewer)) fun scheduled within => ?_
        exact .bind fun _ => .bind fun _ => .bind fun _ =>
          Reader.gives_pure (Nat.succ_le_succ within)
    case h_21 => exact Reader.gives_fail _ _

namespace TransactionBody

theorem scheduleLevels_le_of_decode {bytes : Bytes} {body : TransactionBody}
    (accepted : decode bytes = .ok body) : body.operation.scheduleLevels ≤ 2 := by
  have within : Reader.Gives (fun body : TransactionBody => body.operation.scheduleLevels ≤ 2)
      TransactionBody.read :=
    .bind fun _ => .bind fun _ => .bind fun _ =>
      .bind_of (Operation.gives_scheduleLevels_le _) fun _ within => Reader.gives_pure within
  exact within (decode_eq_ok_iff.mp accepted).1

theorem depth_le_of_decode {bytes : Bytes} {body : TransactionBody}
    (accepted : decode bytes = .ok body) {key : Key} (held : body.operation.Holds key) :
    key.depth ≤ Key.maxDepth := by
  have deepest := (decode_eq_ok_iff.mp accepted).2
  rw [Key.greatestDepth_le_iff] at deepest
  exact deepest key ((Operation.mem_embeddedKeys_iff key _).mpr held)

/-- This holds of any bytes that are accepted, as a body or as a key alone. Bytes that spell a
threshold of zero are refused for it. -/
theorem accepted_within_limits :
    (∀ (bytes : Bytes) (body : TransactionBody), decode bytes = .ok body →
      body.operation.scheduleLevels ≤ 2 ∧
      ∀ key, body.operation.Holds key → key.WithinLimits) ∧
    (∀ (bytes : Bytes) (key : Key), Key.decode bytes = .ok key → key.WithinLimits) ∧
    ∀ (levels : Nat) (bytes behind rest : Bytes), readVariant bytes = .ok (3, behind) →
      readShort behind = .ok (0, rest) → Key.read levels bytes = .error .zeroThreshold := by
  refine ⟨fun bytes body accepted => ⟨scheduleLevels_le_of_decode accepted, ?_⟩, ?_, ?_⟩
  · intro key held
    exact Key.withinLimits_of_depth_le (depth_le_of_decode accepted held)
  · intro bytes key accepted
    exact Key.withinLimits_of_decode accepted
  · intro levels bytes behind rest variant zero
    exact Key.read_zero_threshold variant zero

end TransactionBody

namespace Sample

def one : Threshold := ⟨1, by decide⟩

def guarded : (branches : Nat) → Key
  | 0 => .simple ⟨.ed25519, []⟩
  | branches + 1 => .threshold one [guarded branches]

def guardedTopic : Operation :=
  .createSchedule (.createSchedule (.plain (.createTopic none (some (guarded 14)) none)) none none "")
    (some (.list [.contract ⟨0, 0, 7⟩])) none ""

def guardedTopicBytes : Bytes :=
  [251, 0, 0, 0, 2, 0, 0, 0, 0] ++ [251, 16, 0, 16, 12, 0, 1, 3, 251, 1, 0, 1] ++
    (List.replicate 13 [3, 1, 1]).flatten ++ [0, 0, 0] ++ [0, 0, 0, 1, 2, 1, 4, 0, 0, 7, 0, 0]

end Sample

namespace TransactionBody

set_option maxRecDepth 4000 in
theorem decode_guardedTopicBytes : decode Sample.guardedTopicBytes =
    .ok ⟨⟨⟨0, 0, 2⟩, 0, false⟩, none, "", Sample.guardedTopic⟩ := by cbv

theorem guarded_topic_within_limits :
    (Sample.guardedTopic.scheduleLevels ≤ 2 ∧ (Sample.guarded 14).depth ≤ 15 ∧
      (Sample.guarded 13).depth ≤ 15) ∧
    Key.read 15 [251, 3, 0, 252, 0, 0, 0, 0, 0] = .error .zeroThreshold := by
  constructor
  · obtain ⟨levels, keys⟩ := accepted_within_limits.1 _ _ decode_guardedTopicBytes
    have guarded := keys (Sample.guarded 14) (.scheduled (.scheduled .createTopicSubmit))
    exact ⟨levels, (guarded _ .here).1,
      (guarded (Sample.guarded 13) (.threshold (List.mem_singleton_self _) .here)).1⟩
  · exact accepted_within_limits.2.2 15 _ _ _ (by rfl) (by rfl)

end TransactionBody

end Signatory
