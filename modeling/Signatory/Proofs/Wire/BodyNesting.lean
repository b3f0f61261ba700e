import Signatory.Proofs.Wire.KeyNesting

/-!
How deep a body may nest to be read: its keys, wherever they stand, and its schedules of schedules,
which are counted apart. Main statement: a body that is written is read back just if both are within
their limits; it is told by the depth of its keys if that is beyond the limit by one and nothing
else is; and it is malformed otherwise, whichever limit is met first.
-/
namespace Signatory
open Wire

inductive Operation.Holds (key : Key) : Operation → Prop where
  | createAccount {signs : Bool} {balance : UInt64} :
      Holds key (.plain (.createAccount key signs balance))
  | updateAccount {account : AccountId} {signs : Option Bool} :
      Holds key (.plain (.updateAccount account (some key) signs))
  | createFile {contents : Bytes} : Holds key (.plain (.createFile key contents))
  | updateFile {file : FileId} {contents : Option Bytes} :
      Holds key (.plain (.updateFile file (some key) contents))
  | createContract {autoRenew : Option AccountId} {gas : UInt64} :
      Holds key (.plain (.createContract (some key) autoRenew gas))
  | updateContract {contract : ContractId} {autoRenew : Option AccountId} :
      Holds key (.plain (.updateContract contract (some key) autoRenew))
  | createTopicAdmin {submitKey : Option Key} {autoRenew : Option AccountId} :
      Holds key (.plain (.createTopic (some key) submitKey autoRenew))
  | createTopicSubmit {adminKey : Option Key} {autoRenew : Option AccountId} :
      Holds key (.plain (.createTopic adminKey (some key) autoRenew))
  | updateTopicAdmin {topic : TopicId} {submitKey : Option Key} {autoRenew : Option AccountId} :
      Holds key (.plain (.updateTopic topic (some key) submitKey autoRenew))
  | updateTopicSubmit {topic : TopicId} {adminKey : Option Key} {autoRenew : Option AccountId} :
      Holds key (.plain (.updateTopic topic adminKey (some key) autoRenew))
  | scheduleAdmin {scheduled : Operation} {payer : Option AccountId} {memo : String} :
      Holds key (.createSchedule scheduled (some key) payer memo)
  | scheduled {scheduled : Operation} {adminKey : Option Key} {payer : Option AccountId}
      {memo : String} (inner : Holds key scheduled) :
      Holds key (.createSchedule scheduled adminKey payer memo)

namespace Operation

theorem mem_embeddedKeys_iff (key : Key) (operation : Operation) :
    key ∈ operation.embeddedKeys ↔ operation.Holds key := by
  constructor
  · intro member
    induction operation with
    | plain plain =>
      cases plain <;> simp [embeddedKeys, PlainOperation.embeddedKeys] at member
      case createAccount | createFile => subst member; constructor
      case updateAccount | updateFile | createContract | updateContract =>
        subst member
        constructor
      case createTopic | updateTopic =>
        rcases member with rfl | rfl <;> constructor
    | createSchedule scheduled adminKey payer memo ih =>
      simp only [embeddedKeys, List.mem_append, Option.mem_toList] at member
      rcases member with here | inner
      · cases here
        exact .scheduleAdmin
      · exact .scheduled (ih inner)
    | signSchedule schedule | deleteSchedule schedule => simp [embeddedKeys] at member
  · intro holds
    induction holds with
    | scheduled _ ih => exact List.mem_append_right _ ih
    | _ => simp [embeddedKeys, PlainOperation.embeddedKeys]

def scheduleLevels : Operation → Nat
  | .plain _ => 0
  | .createSchedule scheduled _ _ _ => scheduleLevels scheduled + 1
  | .signSchedule _ => 0
  | .deleteSchedule _ => 0

end Operation

namespace Wire.Fault

def IsNesting (fault : Fault) : Prop :=
  fault = .keyNesting Key.maxDepth ∨ fault = .scheduleNesting Operation.maxScheduleNesting

end Wire.Fault

section Laws

variable {faults : Fault → Prop}

theorem Transfer.readsBack (transfer : Transfer) :
    ReadsBack faults Transfer.read transfer.wire transfer True :=
  (transfer.account.readsBack.bind (readsBack_signed transfer.amount).done).of_iff (by simp)

theorem Transfer.wire_ne_nil (transfer : Transfer) : transfer.wire ≠ [] := by
  rw [Transfer.wire, EntityId.wire, List.append_assoc, List.append_assoc]
  exact List.append_ne_nil_of_left_ne_nil (number_ne_nil _) _

theorem Key.readsBack_nested (key : Key) :
    ReadsBack Fault.IsNesting Key.readNested key.wire key (key.nesting ≤ maxDepth) :=
  key.readsBack (.inl rfl) maxDepth

theorem readsBack_optionalKey (found : Option Key) :
    ReadsBack Fault.IsNesting (readOption Key.readNested) (option Key.wire found) found
      (∀ key ∈ found, Key.nesting key ≤ Key.maxDepth) :=
  readsBack_option fun key _ => Key.readsBack_nested key

theorem readsBack_optionalId {kind : EntityKind} (id : Option (EntityId kind)) :
    ReadsBack faults (readOption EntityId.read) (option EntityId.wire id) id True :=
  (readsBack_option fun id _ => EntityId.readsBack id).of_iff (by simp)

theorem PlainOperation.readsBack (operation : PlainOperation) (levels : Nat) :
    ReadsBack Fault.IsNesting (Operation.read levels) operation.wire (.plain operation)
      (∀ key ∈ operation.embeddedKeys, key.nesting ≤ Key.maxDepth) := by
  rw [Operation.read.eq_def]
  cases operation with
  | createAccount key receiverSigRequired initialBalance =>
    apply ReadsBack.variant 0 (by decide)
    exact (key.readsBack_nested.bind
      ((readsBack_flag receiverSigRequired).bind (readsBack_word initialBalance).done)).of_iff
      (by simp [embeddedKeys])
  | transfer transfers =>
    apply ReadsBack.variant 1 (by decide)
    exact (readsBack_sequence (fun transfer _ => Transfer.readsBack transfer)
      fun transfer _ => transfer.wire_ne_nil).done.of_iff
      (by simp [embeddedKeys])
  | updateAccount account key receiverSigRequired =>
    apply ReadsBack.variant 2 (by decide)
    exact (account.readsBack.bind ((readsBack_optionalKey key).bind
      (readsBack_option fun signs _ => readsBack_flag signs).done)).of_iff
      (by simp [embeddedKeys])
  | deleteAccount account beneficiary =>
    apply ReadsBack.variant 3 (by decide)
    exact (account.readsBack.bind beneficiary.readsBack.done).of_iff (by simp [embeddedKeys])
  | createFile wacl contents =>
    apply ReadsBack.variant 4 (by decide)
    exact (wacl.readsBack_nested.bind (readsBack_byteString contents).done).of_iff
      (by simp [embeddedKeys])
  | appendFile file contents =>
    apply ReadsBack.variant 5 (by decide)
    exact (file.readsBack.bind (readsBack_byteString contents).done).of_iff (by simp [embeddedKeys])
  | updateFile file wacl contents =>
    apply ReadsBack.variant 6 (by decide)
    exact (file.readsBack.bind ((readsBack_optionalKey wacl).bind
      (readsBack_option fun bytes _ => readsBack_byteString bytes).done)).of_iff
      (by simp [embeddedKeys])
  | deleteFile file =>
    apply ReadsBack.variant 7 (by decide)
    exact file.readsBack.done.of_iff (by simp [embeddedKeys])
  | createContract adminKey autoRenew gas =>
    apply ReadsBack.variant 8 (by decide)
    exact ((readsBack_optionalKey adminKey).bind
      ((readsBack_optionalId autoRenew).bind (readsBack_word gas).done)).of_iff
      (by simp [embeddedKeys])
  | callContract contract gas parameters =>
    apply ReadsBack.variant 9 (by decide)
    exact (contract.readsBack.bind
      ((readsBack_word gas).bind (readsBack_byteString parameters).done)).of_iff
      (by simp [embeddedKeys])
  | updateContract contract adminKey autoRenew =>
    apply ReadsBack.variant 10 (by decide)
    exact (contract.readsBack.bind
      ((readsBack_optionalKey adminKey).bind (readsBack_optionalId autoRenew).done)).of_iff
      (by simp [embeddedKeys])
  | deleteContract contract beneficiary =>
    apply ReadsBack.variant 11 (by decide)
    exact (contract.readsBack.bind (readsBack_optionalId beneficiary).done).of_iff
      (by simp [embeddedKeys])
  | createTopic adminKey submitKey autoRenew =>
    apply ReadsBack.variant 12 (by decide)
    exact ((readsBack_optionalKey adminKey).bind
      ((readsBack_optionalKey submitKey).bind (readsBack_optionalId autoRenew).done)).of_iff
      (by simp [embeddedKeys, or_imp, forall_and])
  | updateTopic topic adminKey submitKey autoRenew =>
    apply ReadsBack.variant 13 (by decide)
    exact (topic.readsBack.bind ((readsBack_optionalKey adminKey).bind
      ((readsBack_optionalKey submitKey).bind (readsBack_optionalId autoRenew).done))).of_iff
      (by simp [embeddedKeys, or_imp, forall_and])
  | deleteTopic topic =>
    apply ReadsBack.variant 14 (by decide)
    exact topic.readsBack.done.of_iff (by simp [embeddedKeys])
  | submitMessage topic message =>
    apply ReadsBack.variant 15 (by decide)
    exact (topic.readsBack.bind (readsBack_byteString message).done).of_iff (by simp [embeddedKeys])
  | freeze start =>
    apply ReadsBack.variant 19 (by decide)
    exact (readsBack_word start).done.of_iff (by simp [embeddedKeys])

theorem Operation.readsBack (operation : Operation) (levels : Nat) :
    ReadsBack Fault.IsNesting (Operation.read levels) operation.wire operation
      (operation.scheduleLevels ≤ levels ∧
        ∀ key ∈ operation.embeddedKeys, key.nesting ≤ Key.maxDepth) := by
  induction operation generalizing levels with
  | plain plain =>
    exact (plain.readsBack levels).of_iff (by simp [scheduleLevels, embeddedKeys])
  | createSchedule scheduled adminKey payer memo ih =>
    rw [Operation.read.eq_def]
    apply ReadsBack.variant 16 (by decide)
    -- what is scheduled has one level less of schedules, its keys have all their levels again
    cases levels with
    | zero => exact (ReadsBack.never (.inr rfl)).of_iff (by simp [scheduleLevels])
    | succ levels =>
      refine ((ih levels).bind ((readsBack_optionalKey adminKey).bind
        ((readsBack_optionalId payer).bind (readsBack_text memo).done))).of_iff ?_
      simp only [scheduleLevels, embeddedKeys, List.mem_append, Option.mem_toList, or_imp,
        forall_and, Nat.add_le_add_iff_right, Option.mem_def, and_true]
      tauto
  | signSchedule schedule =>
    rw [Operation.read.eq_def]
    apply ReadsBack.variant 17 (by decide)
    exact schedule.readsBack.done.of_iff (by simp [scheduleLevels, embeddedKeys])
  | deleteSchedule schedule =>
    rw [Operation.read.eq_def]
    apply ReadsBack.variant 18 (by decide)
    exact schedule.readsBack.done.of_iff (by simp [scheduleLevels, embeddedKeys])

theorem TransactionId.readsBack (id : TransactionId) :
    ReadsBack faults TransactionId.read id.wire id True :=
  (id.payer.readsBack.bind ((readsBack_word id.validStart).bind
    (readsBack_flag id.scheduled).done)).of_iff (by simp)

theorem TransactionBody.readsBack (body : TransactionBody) :
    ReadsBack Fault.IsNesting TransactionBody.read body.wire body
      (body.operation.scheduleLevels ≤ Operation.maxScheduleNesting ∧
        ∀ key ∈ body.operation.embeddedKeys, key.nesting ≤ Key.maxDepth) := by
  have operation := body.operation.readsBack Operation.maxScheduleNesting
  exact (body.id.readsBack.bind ((readsBack_optionalId body.nodeAccount).bind
    ((readsBack_text body.memo).bind operation.done))).of_iff (by simp)

end Laws

namespace TransactionBody

variable {body : TransactionBody}

theorem decode_wire_of_within (short : body.wire.length < 2 ^ 64)
    (schedules : body.operation.scheduleLevels ≤ Operation.maxScheduleNesting)
    (keys : Key.greatestNesting body.operation.embeddedKeys ≤ Key.maxDepth) :
    decode body.wire =
      if Key.greatestDepth body.operation.embeddedKeys ≤ Key.maxDepth then .ok body
      else .error (.keyTooDeep (Key.greatestDepth body.operation.embeddedKeys) Key.maxDepth) := by
  have within := (Key.greatestNesting_le_iff _ _).mp keys
  have read := body.readsBack.read_alone short ⟨schedules, within⟩
  simp only [decode, Reader.run, read]

theorem decode_wire_of_limits (short : body.wire.length < 2 ^ 64)
    (schedules : body.operation.scheduleLevels ≤ Operation.maxScheduleNesting)
    (shallow : Key.greatestDepth body.operation.embeddedKeys ≤ Key.maxDepth) :
    decode body.wire = .ok body := by
  have bounds := Key.greatestDepth_bounds body.operation.embeddedKeys fun key _ => key.depth_bounds
  have nested := Nat.le_trans bounds.1 shallow
  rw [decode_wire_of_within short schedules nested, if_pos shallow]

theorem decode_wire_of_nested (short : body.wire.length < 2 ^ 64)
    (nested : ¬ (body.operation.scheduleLevels ≤ Operation.maxScheduleNesting ∧
      Key.greatestNesting body.operation.embeddedKeys ≤ Key.maxDepth)) :
    ∃ fault : Fault, fault.IsNesting ∧ decode body.wire = .error (.malformedBody fault) := by
  rw [Key.greatestNesting_le_iff] at nested
  obtain ⟨fault, allowed, failed⟩ := body.readsBack.refused_alone short nested
  exact ⟨fault, allowed, by simp only [decode, Reader.run, failed]⟩

/-- The answers to a body that is written, by its schedules and by all the keys it holds. -/
theorem decode_of_encoded_body (body : TransactionBody) (bytes : Bytes)
    (encoded : body.encode = .ok bytes) :
    (∀ key, key ∈ body.operation.embeddedKeys ↔ body.operation.Holds key) ∧
    (decode bytes = .ok body ↔ body.operation.scheduleLevels ≤ 2 ∧
      Key.greatestDepth body.operation.embeddedKeys ≤ 15) ∧
    (decode bytes = .error (.keyTooDeep 16 15) ↔ body.operation.scheduleLevels ≤ 2 ∧
      Key.greatestNesting body.operation.embeddedKeys ≤ 15 ∧
      Key.greatestDepth body.operation.embeddedKeys = 16) ∧
    ((∃ fault : Fault, fault.IsNesting ∧ decode bytes = .error (.malformedBody fault)) ↔
      ¬ (body.operation.scheduleLevels ≤ 2 ∧
        Key.greatestDepth body.operation.embeddedKeys ≤ 15) ∧
      ¬ (body.operation.scheduleLevels ≤ 2 ∧
        Key.greatestNesting body.operation.embeddedKeys ≤ 15 ∧
        Key.greatestDepth body.operation.embeddedKeys = 16)) := by
  obtain ⟨rfl, written⟩ := mapError_bounded_eq_ok encoded
  have short : body.wire.length < 2 ^ 64 := Nat.lt_of_le_of_lt written (by decide)
  have bounds := Key.greatestDepth_bounds body.operation.embeddedKeys fun key _ => key.depth_bounds
  refine ⟨fun key => body.operation.mem_embeddedKeys_iff key, ?_⟩
  by_cases within : body.operation.scheduleLevels ≤ 2 ∧
      Key.greatestNesting body.operation.embeddedKeys ≤ 15
  · rw [decode_wire_of_within short within.1 within.2, Key.maxDepth]
    grind
  · obtain ⟨fault, allowed, failed⟩ := decode_wire_of_nested short within
    rw [failed]
    grind

end TransactionBody

namespace Sample

def deepTopic : (schedules : Nat) → Operation
  | 0 => .plain (.createTopic none (some (Key.enclosed 15 (.simple ⟨.ed25519, []⟩))) none)
  | schedules + 1 => .createSchedule (deepTopic schedules) none none ""

def deepTopicBody (schedules : Nat) : TransactionBody :=
  ⟨⟨⟨0, 0, 2⟩, 0, false⟩, none, "", deepTopic schedules⟩

end Sample

theorem TransactionBody.deep_topic_told_apart :
    (∃ bytes, (Sample.deepTopicBody 2).encode = .ok bytes ∧
      decode bytes = .error (.keyTooDeep 16 15)) ∧
    ∃ bytes, (Sample.deepTopicBody 3).encode = .ok bytes ∧
      ∃ fault : Fault, fault.IsNesting ∧ decode bytes = .error (.malformedBody fault) := by
  constructor
  · have encoded : (Sample.deepTopicBody 2).encode = .ok (Sample.deepTopicBody 2).wire := rfl
    exact ⟨_, encoded, (decode_of_encoded_body _ _ encoded).2.2.1.mpr (by decide)⟩
  · have encoded : (Sample.deepTopicBody 3).encode = .ok (Sample.deepTopicBody 3).wire := rfl
    exact ⟨_, encoded, (decode_of_encoded_body _ _ encoded).2.2.2.mpr (by decide)⟩

end Signatory
