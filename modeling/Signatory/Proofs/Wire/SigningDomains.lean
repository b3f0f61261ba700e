import Signatory.Proofs.Wire.Counting

/-!
Whether the bytes of an operation, which the signers of a schedule sign, can be the bytes of a
body, which the signers of a transaction sign. Nothing in the bytes says which they are. Main
statement: they can, but only for operations that carry enough of what their signers chose, and
only if the payer of the body is in the shard that has the number of the operation.
-/
namespace Signatory
open Wire

def MayFollowFlag (bytes : Bytes) : Prop :=
  (∃ behind, bytes = 0 :: behind ∧ 3 ≤ countNumbers behind) ∨
    ∃ behind, bytes = 1 :: behind ∧ 6 ≤ countNumbers behind

theorem MayFollowFlag.four_le_length {bytes : Bytes} (may : MayFollowFlag bytes) :
    4 ≤ bytes.length := by
  rcases may with ⟨behind, rfl, enough⟩ | ⟨behind, rfl, enough⟩
  · have := countNumbers_le_length behind
    simp only [List.length_cons]
    omega
  · have := countNumbers_le_length behind
    simp only [List.length_cons]
    omega

theorem not_mayFollowFlag_byteString {contents : Bytes} (fits : contents.length < 2 ^ 64) :
    ¬ MayFollowFlag (byteString contents) := by
  have held := countNumbers_le_length contents
  rintro (⟨behind, same, enough⟩ | ⟨behind, same, enough⟩)
  · obtain ⟨length, rfl⟩ := number_append_eq_cons fits (by decide) same
    have empty : contents.length = 0 := length
    omega
  · obtain ⟨length, rfl⟩ := number_append_eq_cons fits (by decide) same
    have one : contents.length = 1 := length
    omega

theorem not_mayFollowFlag_option {kind : EntityKind} (id : Option (EntityId kind)) :
    ¬ MayFollowFlag (option EntityId.wire id) := by
  cases id with
  | none =>
    intro may
    exact absurd may.four_le_length (by simp [option])
  | some id =>
    have three := id.countNumbers_wire_alone
    rintro (⟨_, same, _⟩ | ⟨behind, same, enough⟩)
    · cases same
    · cases same
      omega

theorem simple_of_mayFollowFlag {key : Key} {rest : Bytes}
    (may : MayFollowFlag (key.wire ++ rest)) : ∃ leaf, key = .simple leaf := by
  cases key with
  | simple leaf => exact ⟨leaf, rfl⟩
  | list keys | threshold needed keys | contract id =>
    rcases may with ⟨_, same, _⟩ | ⟨_, same, _⟩ <;> cases same

theorem ed25519_of_readWord {key : Key} {rest behind : Bytes}
    (zero : readWord (key.wire ++ rest) = .ok (0, behind)) :
    ∃ bytes, key = .simple ⟨.ed25519, bytes⟩ ∧ behind = byteString bytes ++ rest := by
  cases key with
  | simple leaf =>
    obtain ⟨scheme, bytes⟩ := leaf
    cases scheme with
    | ed25519 =>
      cases zero.symm.trans (readWord_word 0 _)
      exact ⟨bytes, rfl, rfl⟩
    | secp256k1 => cases zero.symm.trans (readWord_word 1 _)
  | list keys => cases zero.symm.trans (readWord_word 2 _)
  | threshold needed keys => cases zero.symm.trans (readWord_word 3 _)
  | contract id => cases zero.symm.trans (readWord_word 4 _)

namespace TransactionBody

variable {bytes rest tail : Bytes} {body : TransactionBody}

theorem read_eq_ok (answered : TransactionBody.read bytes = .ok (body, rest)) :
    ∃ behindPayer behindStart behindFlag behindNode behindMemo,
      EntityId.read bytes = .ok (body.payer, behindPayer) ∧
      readWord behindPayer = .ok (body.id.validStart, behindStart) ∧
      readFlag behindStart = .ok (body.id.scheduled, behindFlag) ∧
      readOption EntityId.read behindFlag = .ok (body.nodeAccount, behindNode) ∧
      readText behindNode = .ok (body.memo, behindMemo) ∧
      Operation.read Operation.maxScheduleNesting behindMemo = .ok (body.operation, rest) := by
  obtain ⟨id, behindFlag, whole, answered⟩ := Reader.bind_eq_ok_iff.mp answered
  obtain ⟨node, behindNode, named, answered⟩ := Reader.bind_eq_ok_iff.mp answered
  obtain ⟨memo, behindMemo, noted, answered⟩ := Reader.bind_eq_ok_iff.mp answered
  obtain ⟨operation, left, last, answered⟩ := Reader.bind_eq_ok_iff.mp answered
  obtain ⟨rfl, rfl⟩ := Reader.pure_eq_ok_iff.mp answered
  obtain ⟨payer, behindPayer, paid, whole⟩ := Reader.bind_eq_ok_iff.mp whole
  obtain ⟨start, behindStart, started, whole⟩ := Reader.bind_eq_ok_iff.mp whole
  obtain ⟨flag, _, flagged, whole⟩ := Reader.bind_eq_ok_iff.mp whole
  obtain ⟨rfl, rfl⟩ := Reader.pure_eq_ok_iff.mp whole
  exact ⟨_, _, _, _, _, paid, started, flagged, named, noted, last⟩

theorem countNumbers_of_readNode {node : Option AccountId}
    (named : readOption EntityId.read bytes = .ok (node, rest)) :
    bytes = 0 :: rest ∨
      ∃ behind, bytes = 1 :: behind ∧ countNumbers rest + 3 ≤ countNumbers behind := by
  rcases readOption_eq_ok named with ⟨same, _⟩ | ⟨behind, _, same, given, _⟩
  · exact .inl same
  · exact .inr ⟨behind, same, EntityId.takes_read given⟩

theorem three_le_countNumbers {memo : String} {operation : Operation} {levels : Nat}
    {behindNode behindMemo : Bytes} (noted : readText behindNode = .ok (memo, behindMemo))
    (last : Operation.read levels behindMemo = .ok (operation, rest)) :
    3 ≤ countNumbers behindNode := by
  have := takes_readText noted
  have := Operation.needs_read levels last
  omega

theorem nine_le_countNumbers (answered : TransactionBody.read bytes = .ok (body, rest)) :
    9 ≤ countNumbers bytes := by
  obtain ⟨_, _, _, _, _, paid, started, flagged, named, noted, last⟩ := read_eq_ok answered
  have := EntityId.takes_read paid
  have := takes_readWord started
  have := takes_readFlag flagged
  have := three_le_countNumbers noted last
  rcases countNumbers_of_readNode named with rfl | ⟨behind, rfl, _⟩
  · rw [countNumbers_cons (by decide)] at *
    omega
  · rw [countNumbers_cons (by decide)] at *
    omega

theorem payer_of_read (shard : UInt64)
    (answered : TransactionBody.read (word shard ++ tail) = .ok (body, rest)) :
    body.payer.shard = shard ∧ ∃ behindRealm behindPayer,
      readWord tail = .ok (body.payer.realm, behindRealm) ∧
      readWord behindRealm = .ok (body.payer.num, behindPayer) := by
  obtain ⟨_, _, _, _, _, paid, _⟩ := read_eq_ok answered
  obtain ⟨_, _, one, two, three⟩ := EntityId.read_eq_ok paid
  rw [readWord_word] at one
  cases one
  exact ⟨rfl, _, _, two, three⟩

theorem node_of_read (shard realm num start scheduled : UInt64)
    (answered : TransactionBody.read (word shard ++ (word realm ++ (word num ++ (word start ++
      (word scheduled ++ tail))))) = .ok (body, rest)) :
    scheduled.toNat ≤ 1 ∧ MayFollowFlag tail := by
  obtain ⟨_, behindStart, behindFlag, _, _, paid, started, flagged, named, noted, last⟩ :=
    read_eq_ok answered
  obtain ⟨_, _, one, two, three⟩ := EntityId.read_eq_ok paid
  rw [readWord_word] at one; cases one
  rw [readWord_word] at two; cases two
  rw [readWord_word] at three; cases three
  rw [readWord_word] at started; cases started
  obtain ⟨b, small, flag⟩ := readFlag_eq_ok flagged
  obtain ⟨same, rfl⟩ := number_append_eq_cons scheduled.toNat_lt
    (UInt8.le_trans small (by decide)) flag
  have := three_le_countNumbers noted last
  refine ⟨same ▸ UInt8.le_iff_toNat_le.mp small, ?_⟩
  rcases countNumbers_of_readNode named with rfl | ⟨behind, rfl, more⟩
  · exact .inl ⟨_, rfl, this⟩
  · exact .inr ⟨_, rfl, by omega⟩

end TransactionBody

namespace PlainOperation

def variant : PlainOperation → UInt64
  | .createAccount .. => 0
  | .transfer _ => 1
  | .updateAccount .. => 2
  | .deleteAccount .. => 3
  | .createFile .. => 4
  | .appendFile .. => 5
  | .updateFile .. => 6
  | .deleteFile _ => 7
  | .createContract .. => 8
  | .callContract .. => 9
  | .updateContract .. => 10
  | .deleteContract .. => 11
  | .createTopic .. => 12
  | .updateTopic .. => 13
  | .deleteTopic _ => 14
  | .submitMessage .. => 15
  | .freeze _ => 19

theorem wire_eq_variant (operation : PlainOperation) :
    ∃ fields, operation.wire = word operation.variant ++ fields := by
  cases operation <;> exact ⟨_, rfl⟩

/-- The operations whose bytes may be those of a body. They carry something after the four words
that the payer and the start take: a key, contents, transfers, or an account. -/
def MayBeBody : PlainOperation → Prop
  | .createAccount key _ _ | .createFile key _ => ∀ id, key ≠ .contract id
  | .transfer transfers => 2 ≤ transfers.length
  | .updateAccount _ key _ | .updateContract _ key _ => ∃ leaf, key = some (.simple leaf)
  | .updateFile _ wacl contents =>
    (wacl = none ∧ contents ≠ none) ∨ ∃ leaf, wacl = some (.simple leaf)
  | .createContract adminKey _ _ => adminKey ≠ none
  | .createTopic adminKey submitKey _ => ¬ (adminKey = none ∧ submitKey = none)
  | .updateTopic _ adminKey submitKey autoRenew =>
    ¬ (adminKey = none ∧ submitKey = none ∧ autoRenew = none)
  | .deleteAccount .. | .appendFile .. | .deleteFile _ | .callContract .. | .deleteContract ..
  | .deleteTopic _ | .submitMessage .. | .freeze _ => False

section Layouts

variable {kind : EntityKind} {id : EntityId kind} {body : TransactionBody}

theorem not_read_contents (variant : UInt64) {contents : Bytes} (fits : contents.length < 2 ^ 64) :
    TransactionBody.read (word variant ++ (id.wire ++ byteString contents)) ≠ .ok (body, []) := by
  rw [EntityId.wire, byteString, number_eq_word fits, List.append_assoc, List.append_assoc]
  intro answered
  obtain ⟨flag, may⟩ := TransactionBody.node_of_read _ _ _ _ _ answered
  rw [UInt64.toNat_ofNat', Nat.mod_eq_of_lt fits] at flag
  have := may.four_le_length
  omega

theorem key_of_read (variant : UInt64) {key : Option Key} {fields : Bytes}
    (answered : TransactionBody.read
      (word variant ++ (id.wire ++ (option Key.wire key ++ fields))) = .ok (body, [])) :
    (key = none ∧ MayFollowFlag fields) ∨ ∃ leaf, key = some (.simple leaf) := by
  rw [EntityId.wire, List.append_assoc, List.append_assoc] at answered
  cases key with
  | none => exact .inl ⟨rfl, (TransactionBody.node_of_read _ _ _ _ 0 answered).2⟩
  | some key =>
    obtain ⟨leaf, rfl⟩ :=
      simple_of_mayFollowFlag (TransactionBody.node_of_read _ _ _ _ 1 answered).2
    exact .inr ⟨leaf, rfl⟩

end Layouts

theorem mayBeBody_of_read {operation : PlainOperation} {body : TransactionBody}
    (short : operation.wire.length < 2 ^ 64)
    (answered : TransactionBody.read operation.wire = .ok (body, [])) : operation.MayBeBody := by
  have nine := TransactionBody.nine_le_countNumbers answered
  -- Where only numbers are written they can be counted; a key or contents are met after the flag.
  cases operation with
  | createAccount key receiverSigRequired initialBalance =>
    rintro id rfl
    cases receiverSigRequired <;> simp [PlainOperation.wire, Key.wire, flag] at nine
  | transfer transfers =>
    match transfers with
    | [] => simp [PlainOperation.wire, Wire.sequence] at nine
    | [adjusted] => simp [PlainOperation.wire, Wire.sequence, Transfer.wire] at nine
    | _ :: _ :: _ => exact Nat.le_add_left ..
  | updateAccount account key receiverSigRequired =>
    rcases key_of_read 2 answered with ⟨_, may⟩ | simple
    · have := may.four_le_length
      cases receiverSigRequired <;> simp [option, flag] at this
    · exact simple
  | deleteAccount account beneficiary => simp [PlainOperation.wire] at nine
  | createFile wacl contents =>
    rintro id rfl
    have fits : contents.length < 2 ^ 64 := by
      simp [PlainOperation.wire, byteString] at short
      omega
    rw [PlainOperation.wire, Key.wire, EntityId.wire, List.append_assoc, List.append_assoc,
      List.append_assoc] at answered
    exact not_mayFollowFlag_byteString fits (TransactionBody.node_of_read 4 4 _ _ _ answered).2
  | appendFile file contents =>
    refine absurd answered (not_read_contents 5 ?_)
    simp [PlainOperation.wire, byteString] at short
    omega
  | updateFile file wacl contents =>
    rcases key_of_read 6 answered with ⟨empty, may⟩ | simple
    · refine .inl ⟨empty, ?_⟩
      rintro rfl
      exact absurd may.four_le_length (by simp [option])
    · exact .inr simple
  | deleteFile file => simp [PlainOperation.wire] at nine
  | createContract adminKey autoRenew gas =>
    rintro rfl
    cases autoRenew <;> simp [PlainOperation.wire, option] at nine
  | callContract contract gas parameters =>
    have fits : parameters.length < 2 ^ 64 := by
      simp [PlainOperation.wire, byteString] at short
      omega
    rw [PlainOperation.wire, EntityId.wire, List.append_assoc, List.append_assoc] at answered
    exact not_mayFollowFlag_byteString fits (TransactionBody.node_of_read 9 _ _ _ _ answered).2
  | updateContract contract adminKey autoRenew =>
    rcases key_of_read 10 answered with ⟨_, may⟩ | simple
    · exact absurd may (not_mayFollowFlag_option autoRenew)
    · exact simple
  | deleteContract contract beneficiary =>
    cases beneficiary <;> simp [PlainOperation.wire, option] at nine
  | createTopic adminKey submitKey autoRenew =>
    rintro ⟨rfl, rfl⟩
    cases autoRenew <;> simp [PlainOperation.wire, option] at nine
  | updateTopic topic adminKey submitKey autoRenew =>
    rintro ⟨rfl, rfl, rfl⟩
    simp [PlainOperation.wire, option] at nine
  | deleteTopic topic => simp [PlainOperation.wire] at nine
  | submitMessage topic message =>
    refine absurd answered (not_read_contents 15 ?_)
    simp [PlainOperation.wire, byteString] at short
    omega
  | freeze start => simp [PlainOperation.wire] at nine

theorem shard_of_read {operation : PlainOperation} {body : TransactionBody} {rest : Bytes}
    (answered : TransactionBody.read operation.wire = .ok (body, rest)) :
    body.payer.shard = operation.variant := by
  obtain ⟨fields, layout⟩ := operation.wire_eq_variant
  rw [layout] at answered
  exact (TransactionBody.payer_of_read _ answered).1

theorem createAccount_of_payer {operation : PlainOperation} {body : TransactionBody}
    (short : operation.wire.length < 2 ^ 64)
    (answered : TransactionBody.read operation.wire = .ok (body, []))
    (shard : operation.variant = 0) (realm : body.payer.realm = 0) :
    ∃ key signs balance, operation = .createAccount (.simple ⟨.ed25519, key⟩) signs balance ∧
      body.payer.num.toNat = key.length := by
  cases operation with
  | createAccount key receiverSigRequired initialBalance =>
    obtain ⟨_, _, _, two, three⟩ := TransactionBody.payer_of_read 0 answered
    rw [realm] at two
    obtain ⟨bytes, rfl, rfl⟩ := ed25519_of_readWord two
    have fits : bytes.length < 2 ^ 64 := by
      simp [PlainOperation.wire, Key.wire, byteString] at short
      omega
    rw [byteString, number_eq_word fits, List.append_assoc, readWord_word] at three
    obtain ⟨length, _⟩ := Prod.mk.inj (Except.ok.inj three)
    refine ⟨bytes, _, _, rfl, ?_⟩
    rw [← length, UInt64.toNat_ofNat', Nat.mod_eq_of_lt fits]
  | _ => simp [variant] at shard

end PlainOperation

theorem TransactionBody.read_of_decode {bytes : Bytes} {body : TransactionBody}
    (accepted : TransactionBody.decode bytes = .ok body) :
    TransactionBody.read bytes = .ok (body, []) :=
  (TransactionBody.decode_eq_ok_iff.mp accepted).1

/-- The bytes that sign for the operation when it is scheduled are bytes of the body. -/
def PlainOperation.ReadsAs (operation : PlainOperation) (body : TransactionBody) : Prop :=
  ∃ bytes, (Operation.plain operation).encode = .ok bytes ∧ TransactionBody.decode bytes = .ok body

/-- If the bytes of an operation are those of a body, the operation carries what its signers chose,
and its number is the shard of the payer; in shard and realm 0 it creates an account, and the payer
is the account numbered as its key is long. There are such bytes for each kind of operation that is
not excluded so. -/
theorem PlainOperation.signing_domains_meet :
    (∀ (operation : PlainOperation) (body : TransactionBody), operation.ReadsAs body →
      operation.MayBeBody ∧ body.payer.shard = operation.variant ∧
        (body.payer.shard = 0 → body.payer.realm = 0 →
          ∃ key signs balance, operation = .createAccount (.simple ⟨.ed25519, key⟩) signs balance ∧
            body.payer.num.toNat = key.length)) ∧
    ∀ number ∈ [0, 1, 2, 4, 6, 8, 10, 12, 13],
      ∃ operation body, PlainOperation.variant operation = number ∧ operation.ReadsAs body := by
  constructor
  · rintro operation body ⟨bytes, encoded, accepted⟩
    obtain ⟨rfl, short⟩ := mapError_bounded_eq_ok encoded
    have answered : TransactionBody.read operation.wire = .ok (body, []) :=
      TransactionBody.read_of_decode accepted
    have fits : operation.wire.length < 2 ^ 64 := Nat.lt_of_le_of_lt short (by decide)
    have shard := shard_of_read answered
    refine ⟨mayBeBody_of_read fits answered, shard, fun zero realm => ?_⟩
    exact createAccount_of_payer fits answered (shard.symm.trans zero) realm
  · simp only [List.forall_mem_cons]
    refine ⟨?_, ?_, ?_, ?_, ?_, ?_, ?_, ?_, ?_, by simp⟩
    · exact ⟨.createAccount (.simple ⟨.ed25519, [0, 0, 0, 0, 12, 0]⟩) false 0,
        ⟨⟨⟨0, 0, 6⟩, 0, false⟩, none, "", .plain (.createTopic none none none)⟩, rfl,
        [0, 0, 6, 0, 0, 0, 0, 12, 0, 0, 0], by cbv, by cbv⟩
    · exact ⟨.transfer [⟨⟨0, 0, 0⟩, 0⟩, ⟨⟨1, 65, 19⟩, 0⟩],
        ⟨⟨⟨1, 2, 0⟩, 0, false⟩, none, "A", .plain (.freeze 0)⟩, rfl,
        [1, 2, 0, 0, 0, 0, 1, 65, 19, 0], by cbv, by cbv⟩
    · exact ⟨.updateAccount ⟨0, 0, 2⟩ (some (.simple ⟨.ed25519, [65]⟩)) (some false),
        ⟨⟨⟨2, 0, 0⟩, 2, true⟩, none, "A", .plain (.transfer [])⟩, rfl,
        [2, 0, 0, 2, 1, 0, 1, 65, 1, 0], by cbv, by cbv⟩
    · exact ⟨.createFile (.list []) [0, 0, 0, 19, 0],
        ⟨⟨⟨4, 2, 0⟩, 5, false⟩, none, "", .plain (.freeze 0)⟩, rfl,
        [4, 2, 0, 5, 0, 0, 0, 19, 0], by cbv, by cbv⟩
    · exact ⟨.updateFile ⟨0, 0, 2⟩ none (some [0, 0, 0, 19, 0]),
        ⟨⟨⟨6, 0, 0⟩, 2, false⟩, some ⟨5, 0, 0⟩, "", .plain (.freeze 0)⟩, rfl,
        [6, 0, 0, 2, 0, 1, 5, 0, 0, 0, 19, 0], by cbv, by cbv⟩
    · exact ⟨.createContract (some (.list [])) (some ⟨0, 0, 19⟩) 7,
        ⟨⟨⟨8, 1, 2⟩, 0, true⟩, none, "", .plain (.freeze 7)⟩, rfl,
        [8, 1, 2, 0, 1, 0, 0, 19, 7], by cbv, by cbv⟩
    · exact ⟨.updateContract ⟨0, 0, 2⟩ (some (.simple ⟨.secp256k1, [0, 0, 0, 19]⟩)) none,
        ⟨⟨⟨10, 0, 0⟩, 2, true⟩, some ⟨4, 0, 0⟩, "", .plain (.freeze 0)⟩, rfl,
        [10, 0, 0, 2, 1, 1, 4, 0, 0, 0, 19, 0], by cbv, by cbv⟩
    · exact ⟨.createTopic (some (.simple ⟨.ed25519, [0, 0, 0, 12, 0]⟩)) none none,
        ⟨⟨⟨12, 1, 0⟩, 5, false⟩, none, "", .plain (.createTopic none none none)⟩, rfl,
        [12, 1, 0, 5, 0, 0, 0, 12, 0, 0, 0], by cbv, by cbv⟩
    · exact ⟨.updateTopic ⟨0, 0, 2⟩ none none (some ⟨65, 19, 0⟩),
        ⟨⟨⟨13, 0, 0⟩, 2, false⟩, none, "A", .plain (.freeze 0)⟩, rfl,
        [13, 0, 0, 2, 0, 0, 1, 65, 19, 0], by cbv, by cbv⟩

/-- Bytes of the length of an Ed25519 public key make the creation of an account a message that the
account 0.0.32 pays for. -/
theorem PlainOperation.signing_domains_not_disjoint :
    ¬ ∀ (operation : Operation) (bytes : Bytes), operation.isSchedulable = true →
      operation.encode = .ok bytes → ∀ body, TransactionBody.decode bytes ≠ .ok body := by
  intro apart
  exact apart
    (.plain (.createAccount (.simple ⟨.ed25519,
      [0, 0, 0, 0, 15, 0, 0, 7, 25, 1, 1, 1, 1, 1, 1, 1,
        1, 1, 1, 1, 1, 1, 1, 1, 1, 1, 1, 1, 1, 1, 1, 1]⟩) false 0))
    [0, 0, 32, 0, 0, 0, 0, 15, 0, 0, 7, 25, 1, 1, 1, 1, 1, 1, 1,
      1, 1, 1, 1, 1, 1, 1, 1, 1, 1, 1, 1, 1, 1, 1, 1, 0, 0] rfl (by cbv)
    ⟨⟨⟨0, 0, 32⟩, 0, false⟩, none, "", .plain (.submitMessage ⟨0, 0, 7⟩
      [1, 1, 1, 1, 1, 1, 1, 1, 1, 1, 1, 1, 1, 1, 1, 1, 1, 1, 1, 1, 1, 1, 1, 0, 0])⟩ (by cbv)

end Signatory
