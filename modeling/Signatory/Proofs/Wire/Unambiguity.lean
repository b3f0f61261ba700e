import Signatory.Proofs.Signatories
import Signatory.Proofs.Wire.BodyNesting
import Signatory.Proofs.Wire.SigningDomains

/-!
What is written is written for one operation only. Readers do not tell, as they refuse what nests
too deep, so two written forms are compared part by part: where the first parts end at the same
place, so do the second ones. Only a key is compared by its reader, with as many levels as it takes.
Main statement: no two operations have the same bytes, however deep their keys and schedules are, so
that what signs for one scheduled operation signs for no other.
-/
namespace Signatory
open Wire

namespace Wire

/-- The two written forms are told apart unless `same` holds, whatever stands behind them; and if
they are not, the same bytes stand behind them. Forms that no number counts are left out. -/
def ToldApart (one other : Bytes) (same : Prop) : Prop :=
  one.length < 2 ^ 64 → other.length < 2 ^ 64 → ∀ behind rest,
    one ++ behind = other ++ rest → same ∧ behind = rest

namespace ToldApart

variable {one other next last : Bytes} {same further : Prop}

theorem mono (told : ToldApart one other same) (weaker : same → further) :
    ToldApart one other further := by
  intro short brief behind rest equal
  obtain ⟨holds, left⟩ := told short brief behind rest equal
  exact ⟨weaker holds, left⟩

theorem append_of (front : ToldApart one other same)
    (back : same → ToldApart next last further) :
    ToldApart (one ++ next) (other ++ last) (same ∧ further) := by
  intro short brief behind rest equal
  rw [List.length_append] at short brief
  rw [List.append_assoc, List.append_assoc] at equal
  obtain ⟨holds, left⟩ := front (by omega) (by omega) _ _ equal
  obtain ⟨more, finished⟩ := back holds (by omega) (by omega) _ _ left
  exact ⟨⟨holds, more⟩, finished⟩

theorem append (front : ToldApart one other same) (back : ToldApart next last further) :
    ToldApart (one ++ next) (other ++ last) (same ∧ further) :=
  front.append_of fun _ => back

theorem behind (front : Bytes) (back : ToldApart next last same) :
    ToldApart (front ++ next) (front ++ last) same := by
  have fixed : ToldApart front front True := by
    intro _ _ behind rest equal
    exact ⟨trivial, List.append_cancel_left equal⟩
  exact (fixed.append back).mono And.right

theorem of_reader {α : Type} {read : Reader α} {value found : α}
    (reads : ReadsBack (fun _ => True) read one value True)
    (finds : ReadsBack (fun _ => True) read other found True) :
    ToldApart one other (value = found) := by
  intro short brief behind rest equal
  have answer := reads.returns short trivial behind
  rw [equal, finds.returns brief trivial rest] at answer
  obtain ⟨rfl, rfl⟩ := Prod.mk.inj (Except.ok.inj answer)
  exact ⟨rfl, rfl⟩

theorem option {α : Type} {write : α → Bytes} (told : ∀ a b, ToldApart (write a) (write b) (a = b))
    (found sought : Option α) :
    ToldApart (Wire.option write found) (Wire.option write sought) (found = sought) := by
  cases found with
  | none =>
    cases sought with
    | none => exact fun _ _ behind rest equal => ⟨rfl, (List.cons.inj equal).2⟩
    | some b => exact fun _ _ behind rest equal => absurd (List.cons.inj equal).1 (by decide)
  | some a =>
    cases sought with
    | none => exact fun _ _ behind rest equal => absurd (List.cons.inj equal).1 (by decide)
    | some b => exact ((told a b).behind [1]).mono (congrArg some)

end ToldApart

section Primitives

theorem toldApart_word (one other : UInt64) : ToldApart (word one) (word other) (one = other) :=
  .of_reader (readsBack_word one) (readsBack_word other)

theorem toldApart_flag (one other : Bool) : ToldApart (flag one) (flag other) (one = other) :=
  .of_reader (readsBack_flag one) (readsBack_flag other)

theorem toldApart_byteString (one other : Bytes) :
    ToldApart (byteString one) (byteString other) (one = other) :=
  .of_reader (readsBack_byteString one) (readsBack_byteString other)

theorem toldApart_text (one other : String) : ToldApart (text one) (text other) (one = other) :=
  .of_reader (readsBack_text one) (readsBack_text other)

theorem toldApart_of_ne {one other : UInt64} (differ : one ≠ other) (fields others : Bytes)
    {same : Prop} : ToldApart (word one ++ fields) (word other ++ others) same := by
  have never (equal : one = other) : ToldApart fields others same := absurd equal differ
  exact ((toldApart_word one other).append_of never).mono And.right

end Primitives

end Wire

theorem EntityId.toldApart {kind : EntityKind} (one other : EntityId kind) :
    ToldApart one.wire other.wire (one = other) :=
  .of_reader one.readsBack other.readsBack

theorem Key.toldApart (one other : Key) : ToldApart one.wire other.wire (one = other) := by
  have reads (key : Key) (within : key.nesting ≤ max one.nesting other.nesting) :
      ReadsBack (fun _ => True) (Key.read (max one.nesting other.nesting)) key.wire key True :=
    (key.readsBack trivial _).of_iff (iff_true_intro within)
  exact .of_reader (reads one (Nat.le_max_left ..)) (reads other (Nat.le_max_right ..))

theorem Transfer.toldApart (one other : List Transfer) :
    ToldApart (sequence Transfer.wire one) (sequence Transfer.wire other) (one = other) := by
  have reads (transfers : List Transfer) : ReadsBack (fun _ => True) (readSequence Transfer.read)
      (sequence Transfer.wire transfers) transfers True :=
    (readsBack_sequence (fun transfer _ => transfer.readsBack)
      fun transfer _ => transfer.wire_ne_nil).of_iff (by simp)
  exact .of_reader (reads one) (reads other)

theorem toldApart_optionalKey (one other : Option Key) :
    ToldApart (option Key.wire one) (option Key.wire other) (one = other) :=
  .option Key.toldApart one other

theorem toldApart_optionalId {kind : EntityKind} (one other : Option (EntityId kind)) :
    ToldApart (option EntityId.wire one) (option EntityId.wire other) (one = other) :=
  .option EntityId.toldApart one other

namespace PlainOperation

theorem toldApart_of_variant {one other : PlainOperation} (kind : one.variant = other.variant) :
    ToldApart one.wire other.wire (one = other) := by
  cases one <;> cases other <;> simp [variant] at kind
  case createAccount.createAccount key signs balance key' signs' balance' =>
    exact (((key.toldApart key').append ((toldApart_flag signs signs').append
      (toldApart_word balance balance'))).behind (number 0)).mono (by grind)
  case transfer.transfer transfers transfers' =>
    exact ((Transfer.toldApart transfers transfers').behind (number 1)).mono (by grind)
  case updateAccount.updateAccount account key signs account' key' signs' =>
    exact (((account.toldApart account').append ((toldApart_optionalKey key key').append
      (.option toldApart_flag signs signs'))).behind (number 2)).mono (by grind)
  case deleteAccount.deleteAccount account beneficiary account' beneficiary' =>
    exact (((account.toldApart account').append
      (beneficiary.toldApart beneficiary')).behind (number 3)).mono (by grind)
  case createFile.createFile wacl contents wacl' contents' =>
    exact (((wacl.toldApart wacl').append
      (toldApart_byteString contents contents')).behind (number 4)).mono (by grind)
  case appendFile.appendFile file contents file' contents' =>
    exact (((file.toldApart file').append
      (toldApart_byteString contents contents')).behind (number 5)).mono (by grind)
  case updateFile.updateFile file wacl contents file' wacl' contents' =>
    exact (((file.toldApart file').append ((toldApart_optionalKey wacl wacl').append
      (.option toldApart_byteString contents contents'))).behind (number 6)).mono (by grind)
  case deleteFile.deleteFile file file' =>
    exact ((file.toldApart file').behind (number 7)).mono (by grind)
  case createContract.createContract adminKey autoRenew gas adminKey' autoRenew' gas' =>
    exact (((toldApart_optionalKey adminKey adminKey').append
      ((toldApart_optionalId autoRenew autoRenew').append
        (toldApart_word gas gas'))).behind (number 8)).mono (by grind)
  case callContract.callContract contract gas parameters contract' gas' parameters' =>
    exact (((contract.toldApart contract').append ((toldApart_word gas gas').append
      (toldApart_byteString parameters parameters'))).behind (number 9)).mono (by grind)
  case updateContract.updateContract contract adminKey autoRenew contract' adminKey' autoRenew' =>
    exact (((contract.toldApart contract').append
      ((toldApart_optionalKey adminKey adminKey').append
        (toldApart_optionalId autoRenew autoRenew'))).behind (number 10)).mono (by grind)
  case deleteContract.deleteContract contract beneficiary contract' beneficiary' =>
    exact (((contract.toldApart contract').append
      (toldApart_optionalId beneficiary beneficiary')).behind (number 11)).mono (by grind)
  case createTopic.createTopic adminKey submitKey autoRenew adminKey' submitKey' autoRenew' =>
    exact (((toldApart_optionalKey adminKey adminKey').append
      ((toldApart_optionalKey submitKey submitKey').append
        (toldApart_optionalId autoRenew autoRenew'))).behind (number 12)).mono (by grind)
  case updateTopic.updateTopic topic adminKey submitKey autoRenew topic' adminKey' submitKey'
      autoRenew' =>
    exact (((topic.toldApart topic').append ((toldApart_optionalKey adminKey adminKey').append
      ((toldApart_optionalKey submitKey submitKey').append
        (toldApart_optionalId autoRenew autoRenew')))).behind (number 13)).mono (by grind)
  case deleteTopic.deleteTopic topic topic' =>
    exact ((topic.toldApart topic').behind (number 14)).mono (by grind)
  case submitMessage.submitMessage topic message topic' message' =>
    exact (((topic.toldApart topic').append
      (toldApart_byteString message message')).behind (number 15)).mono (by grind)
  case freeze.freeze start start' =>
    exact ((toldApart_word start start').behind (number 19)).mono (by grind)

theorem variant_ne (operation : PlainOperation) :
    operation.variant ≠ 16 ∧ operation.variant ≠ 17 ∧ operation.variant ≠ 18 := by
  cases operation <;> simp [variant]

end PlainOperation

namespace Operation

def variant : Operation → UInt64
  | .plain operation => operation.variant
  | .createSchedule .. => 16
  | .signSchedule _ => 17
  | .deleteSchedule _ => 18

theorem wire_eq_variant (operation : Operation) :
    ∃ fields, operation.wire = word operation.variant ++ fields := by
  cases operation with
  | plain operation => exact operation.wire_eq_variant
  | createSchedule | signSchedule | deleteSchedule => exact ⟨_, rfl⟩

theorem toldApart_of_variant_ne {one other : Operation} (differ : one.variant ≠ other.variant) :
    ToldApart one.wire other.wire (one = other) := by
  obtain ⟨fields, layout⟩ := one.wire_eq_variant
  obtain ⟨others, form⟩ := other.wire_eq_variant
  rw [layout, form]
  exact toldApart_of_ne differ fields others

theorem toldApart (one other : Operation) : ToldApart one.wire other.wire (one = other) := by
  induction one generalizing other with
  | plain operation =>
    have differs := operation.variant_ne
    cases other with
    | plain another =>
      by_cases kind : operation.variant = another.variant
      · exact (PlainOperation.toldApart_of_variant kind).mono (congrArg Operation.plain)
      · exact toldApart_of_variant_ne kind
    | createSchedule => exact toldApart_of_variant_ne differs.1
    | signSchedule => exact toldApart_of_variant_ne differs.2.1
    | deleteSchedule => exact toldApart_of_variant_ne differs.2.2
  | createSchedule scheduled adminKey payer memo ih =>
    cases other with
    | plain another => exact toldApart_of_variant_ne another.variant_ne.1.symm
    | createSchedule inner adminKey' payer' memo' =>
      exact (((ih inner).append ((toldApart_optionalKey adminKey adminKey').append
        ((toldApart_optionalId payer payer').append (toldApart_text memo memo')))).behind
          (number 16)).mono (by grind)
    | signSchedule | deleteSchedule => exact toldApart_of_variant_ne (by simp [variant])
  | signSchedule schedule =>
    cases other with
    | plain another => exact toldApart_of_variant_ne another.variant_ne.2.1.symm
    | signSchedule another =>
      exact ((schedule.toldApart another).behind (number 17)).mono (by grind)
    | createSchedule | deleteSchedule => exact toldApart_of_variant_ne (by simp [variant])
  | deleteSchedule schedule =>
    cases other with
    | plain another => exact toldApart_of_variant_ne another.variant_ne.2.2.symm
    | deleteSchedule another =>
      exact ((schedule.toldApart another).behind (number 18)).mono (by grind)
    | createSchedule | signSchedule => exact toldApart_of_variant_ne (by simp [variant])

theorem eq_of_encode {one other : Operation} {bytes : Bytes} (encoded : one.encode = .ok bytes)
    (same : other.encode = .ok bytes) : one = other := by
  obtain ⟨rfl, fits⟩ := mapError_bounded_eq_ok encoded
  obtain ⟨equal, _⟩ := mapError_bounded_eq_ok same
  have short : one.wire.length < 2 ^ 64 := Nat.lt_of_le_of_lt fits (by decide)
  exact (one.toldApart other short (equal ▸ short) [] [] (by rw [equal])).1

end Operation

namespace Sample

def freezeCreation : TransactionBody :=
  ⟨⟨⟨0, 0, 2⟩, 0, false⟩, none, "", .createSchedule (.plain (.freeze 0)) none none ""⟩

def scheduleCheck : ConsensusCheck := ⟨scheduleResolver, fun _ => [], batchVerifier⟩

def freezeRecord : SignatureRecord := .unverified signer [] freezeBytes

end Sample

namespace ConsensusCheck

variable {check : ConsensusCheck} {body : TransactionBody} {source : SignatureSource}
  {keys : List Key} {records : List SignatureRecord}

theorem encode_of_mem_scheduledRecords
    (created : check.scheduledRecords body source keys = .ok records) {record : SignatureRecord}
    (member : record ∈ records) :
    ∃ operation, check.resolver.scheduledOperation? body = .ok (some operation) ∧
      operation.encode = .ok record.message := by
  unfold scheduledRecords at created
  split at created
  · cases created
    cases member
  · obtain ⟨found, named, created⟩ := bind_eq_ok_iff.mp created
    cases found with
    | none => cases created
    | some operation =>
      obtain ⟨message, encoded, created⟩ := bind_eq_ok_iff.mp created
      obtain ⟨_, _, own⟩ := (RecordCreation.mem_complete created record).mp member
      obtain ⟨_, _, rfl⟩ := RecordCreation.recordFor_eq_some own
      exact ⟨operation, mapError_eq_ok_iff.mp named, mapError_eq_ok_iff.mp encoded⟩

/-- Operations that have bytes at all have their own, also those that no body could carry. The
records for two scheduled operations, of any checks and at any time, are over different messages. -/
theorem scheduled_bytes_unambiguous :
    (∀ (one other : Operation) (bytes : Bytes), one.encode = .ok bytes →
      other.encode = .ok bytes → one = other) ∧
    ∀ (check later : ConsensusCheck) (body another : TransactionBody)
      (source further : SignatureSource) (keys others : List Key)
      (records more : List SignatureRecord),
      check.scheduledRecords body source keys = .ok records →
      later.scheduledRecords another further others = .ok more →
      ∀ record ∈ records, ∀ second ∈ more, record.message = second.message →
        ∃ operation, check.resolver.scheduledOperation? body = .ok (some operation) ∧
          later.resolver.scheduledOperation? another = .ok (some operation) := by
  constructor
  · intro one other bytes encoded same
    exact Operation.eq_of_encode encoded same
  · intro check later body another source further keys others records more created made
      record member second listed same
    obtain ⟨operation, named, encoded⟩ := encode_of_mem_scheduledRecords created member
    obtain ⟨scheduled, found, written⟩ := encode_of_mem_scheduledRecords made listed
    rw [same] at encoded
    have equal := Operation.eq_of_encode encoded written
    exact ⟨operation, named, equal ▸ found⟩

theorem scheduled_freeze_unambiguous :
    (∃ bytes, (Sample.deepTopic 3).encode = .ok bytes ∧
      Sample.deepTopic 3 = .createSchedule (Sample.deepTopic 2) none none "") ∧
    ∃ operation,
      Sample.scheduleResolver.scheduledOperation? Sample.freezeCreation = .ok (some operation) ∧
      Sample.scheduleResolver.scheduledOperation? (Sample.approval []).body =
        .ok (some operation) := by
  have created : Sample.scheduleCheck.scheduledRecords Sample.freezeCreation (.accumulated [])
      [.simple Sample.signer] = .ok [Sample.freezeRecord] := by rfl
  have signed : Sample.scheduleCheck.scheduledRecords (Sample.approval []).body (.accumulated [])
      [.simple Sample.signer] = .ok [Sample.freezeRecord] := by rfl
  have listed : Sample.freezeRecord ∈ [Sample.freezeRecord] := List.mem_singleton_self _
  constructor
  · have encoded : (Sample.deepTopic 3).encode = .ok (Sample.deepTopic 3).wire := rfl
    exact ⟨_, encoded, scheduled_bytes_unambiguous.1 _ _ _ encoded encoded⟩
  · exact scheduled_bytes_unambiguous.2 _ _ _ _ _ _ _ _ _ _ created signed _ listed _ listed rfl

end ConsensusCheck

end Signatory
