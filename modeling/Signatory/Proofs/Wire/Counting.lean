import Signatory.Proofs.Wire.Reading

/-!
How many numbers bytes hold in a row, which bounds what can be read from them: every field begins
with a number, and no text goes through a number that is wider than a byte. Main statement: an
operation takes two numbers at least.
-/
namespace Signatory.Wire

def countNumbers (bytes : Bytes) : Nat :=
  match read : readNumber bytes with
  | .ok (_, rest) => countNumbers rest + 1
  | .error _ => 0
termination_by bytes.length
decreasing_by exact length_of_readNumber read

theorem countNumbers_of_read {bytes rest : Bytes} {n : Nat}
    (read : readNumber bytes = .ok (n, rest)) : countNumbers bytes = countNumbers rest + 1 := by
  rw [countNumbers]
  split
  · rename_i same
    cases read.symm.trans same
    rfl
  · rename_i failed
    cases read.symm.trans failed

@[simp] theorem countNumbers_nil : countNumbers [] = 0 := by
  rw [countNumbers]
  rfl

@[simp] theorem countNumbers_number {n : Nat} (fits : n < 2 ^ 64) (rest : Bytes) :
    countNumbers (number n ++ rest) = countNumbers rest + 1 :=
  countNumbers_of_read (readNumber_number n fits rest)

@[simp] theorem countNumbers_number_alone {n : Nat} (fits : n < 2 ^ 64) :
    countNumbers (number n) = 1 := by
  have alone := countNumbers_number fits []
  rwa [List.append_nil, countNumbers_nil] at alone

@[simp] theorem countNumbers_word (w : UInt64) (rest : Bytes) :
    countNumbers (word w ++ rest) = countNumbers rest + 1 :=
  countNumbers_number w.toNat_lt rest

@[simp] theorem countNumbers_word_alone (w : UInt64) : countNumbers (word w) = 1 :=
  countNumbers_number_alone w.toNat_lt

@[simp] theorem countNumbers_signed_alone (i : Int64) : countNumbers (signed i) = 1 :=
  countNumbers_number_alone (zigzag_lt i)

@[simp] theorem countNumbers_cons {b : UInt8} (small : b ≤ 250) (rest : Bytes) :
    countNumbers (b :: rest) = countNumbers rest + 1 :=
  countNumbers_of_read (readNumber_cons small rest)

theorem countNumbers_append {front : Bytes} (small : ∀ b ∈ front, b ≤ 250) (rest : Bytes) :
    countNumbers (front ++ rest) = countNumbers rest + front.length := by
  induction front with
  | nil => rfl
  | cons b front ih =>
    rw [List.forall_mem_cons] at small
    rw [List.cons_append, countNumbers_cons small.1, ih small.2, List.length_cons, Nat.add_assoc]

theorem countNumbers_le_length (bytes : Bytes) : countNumbers bytes ≤ bytes.length := by
  induction size : bytes.length using Nat.strongRecOn generalizing bytes with
  | ind length ih =>
    rw [countNumbers]
    split
    · rename_i rest read
      have shorter := length_of_readNumber read
      have := ih rest.length (size ▸ shorter) rest rfl
      omega
    · exact Nat.zero_le _

theorem toNat_le_of_mem_utf8EncodeChar (c : Char) :
    ∀ b ∈ String.utf8EncodeChar c, b.toNat ≤ 250 := by
  unfold String.utf8EncodeChar
  generalize c.val.toNat = v
  simp only
  -- Characters of one byte to four bytes.
  repeat' split
  all_goals
    simp only [List.forall_mem_cons, UInt8.toNat_ofNat', List.not_mem_nil, false_imp_iff,
      implies_true, and_true]
    omega

theorem le_of_mem_textBytes {text : String} {b : UInt8} (member : b ∈ textBytes text) :
    b ≤ 250 := by
  rw [textBytes, ← String.utf8Encode_toList, List.utf8Encode, List.data_toByteArray,
    List.toList_toArray, List.mem_flatMap] at member
  obtain ⟨c, _, member⟩ := member
  exact UInt8.le_iff_toNat_le.mpr (toNat_le_of_mem_utf8EncodeChar c b member)

section Counts

variable {α β : Type}

def Takes (count : Nat) (read : Reader α) : Prop :=
  ∀ ⦃bytes value rest⦄, read bytes = .ok (value, rest) →
    countNumbers rest + count ≤ countNumbers bytes

/-- A value can be read only from bytes that hold at least `count` numbers in a row. After a byte
string, of what follows nothing is known. -/
def Needs (count : Nat) (read : Reader α) : Prop :=
  ∀ ⦃bytes value rest⦄, read bytes = .ok (value, rest) → count ≤ countNumbers bytes

theorem Takes.needs {count : Nat} {read : Reader α} (takes : Takes count read) : Needs count read :=
  fun _ _ _ answered => Nat.le_trans (Nat.le_add_left ..) (takes answered)

theorem Takes.bind {a b : Nat} {first : Reader α} {next : α → Reader β} (takes : Takes a first)
    (others : ∀ found, Takes b (next found)) : Takes (a + b) (first >>= next) := by
  intro bytes value rest read
  obtain ⟨found, behind, one, two⟩ := Reader.bind_eq_ok_iff.mp read
  have := takes one
  have := others found two
  omega

theorem Takes.bind_needs {a b : Nat} {first : Reader α} {next : α → Reader β}
    (takes : Takes a first) (others : ∀ found, Needs b (next found)) :
    Needs (a + b) (first >>= next) := by
  intro bytes value rest read
  obtain ⟨found, behind, one, two⟩ := Reader.bind_eq_ok_iff.mp read
  have := takes one
  have := others found two
  omega

theorem Needs.bind {count : Nat} {first : Reader α} {next : α → Reader β}
    (needs : Needs count first) : Needs count (first >>= next) := by
  intro bytes value rest read
  obtain ⟨found, behind, one, _⟩ := Reader.bind_eq_ok_iff.mp read
  exact needs one

theorem Takes.map {count : Nat} {read : Reader α} {f : α → β} (takes : Takes count read) :
    Takes count (f <$> read) := by
  intro bytes value rest answered
  obtain ⟨found, one, _⟩ := Reader.map_eq_ok_iff.mp answered
  exact takes one

theorem takes_pure (value : α) : Takes 0 (pure value : Reader α) :=
  fun _ _ _ answered => (Reader.pure_eq_ok_iff.mp answered).2 ▸ Nat.le_refl _

theorem takes_fail (count : Nat) (fault : Fault) : Takes count (Reader.fail fault : Reader α) :=
  fun _ _ _ answered => by cases answered

theorem takes_readNumber : Takes 1 readNumber :=
  fun _ _ _ read => Nat.le_of_eq (countNumbers_of_read read).symm

theorem takes_readWord : Takes 1 readWord := takes_readNumber.map

theorem takes_readShort : Takes 1 readShort := by
  unfold readShort
  refine Takes.bind (b := 0) takes_readNumber fun n => ?_
  split
  · exact takes_pure _
  · exact takes_fail 0 _

theorem takes_readVariant : Takes 1 readVariant := takes_readShort.map

theorem takes_readFlag : Takes 1 readFlag := by
  intro bytes value rest read
  obtain ⟨b, small, rfl⟩ := readFlag_eq_ok read
  exact Nat.le_of_eq (countNumbers_cons (UInt8.le_trans small (by decide)) rest).symm

theorem needs_readOption (read : Reader α) : Needs 1 (readOption read) := by
  intro bytes value rest answered
  rcases readOption_eq_ok answered with ⟨rfl, _⟩ | ⟨behind, _, rfl, _⟩
  · rw [countNumbers_cons (by decide)]
    exact Nat.le_add_left ..
  · rw [countNumbers_cons (by decide)]
    exact Nat.le_add_left ..

theorem takes_readText : Takes 1 readText := by
  intro bytes value rest read
  obtain ⟨length, behind, first, read⟩ := Reader.bind_eq_ok_iff.mp read
  obtain ⟨taken, left, exact, read⟩ := Reader.bind_eq_ok_iff.mp read
  have whole := (readExactly_eq_ok exact).2
  cases valid : textOfBytes taken with
  | error fault => simp only [valid] at read; cases read
  | ok text =>
    simp only [valid] at read
    obtain ⟨rfl, rfl⟩ := Reader.pure_eq_ok_iff.mp read
    have small : ∀ b ∈ taken, b ≤ 250 := by
      rw [← textBytes_of_textOfBytes valid]
      exact fun b member => le_of_mem_textBytes member
    have := takes_readNumber first
    rw [whole, countNumbers_append small] at this
    omega

end Counts

end Signatory.Wire

namespace Signatory
open Wire

@[simp] theorem EntityId.countNumbers_wire {kind : EntityKind} (id : EntityId kind) (rest : Bytes) :
    countNumbers (id.wire ++ rest) = countNumbers rest + 3 := by
  simp only [EntityId.wire, List.append_assoc, countNumbers_word]

@[simp] theorem EntityId.countNumbers_wire_alone {kind : EntityKind} (id : EntityId kind) :
    countNumbers id.wire = 3 := by
  simp only [EntityId.wire, List.append_assoc, countNumbers_word, countNumbers_word_alone]

theorem EntityId.takes_read {kind : EntityKind} :
    Takes 3 (EntityId.read : Reader (EntityId kind)) :=
  takes_readWord.bind fun _ => takes_readWord.bind fun _ =>
    takes_readWord.bind fun _ => takes_pure _

theorem Key.needs_read (levels : Nat) : Needs 1 (Key.read levels) := by
  rw [Key.read.eq_def]
  exact takes_readVariant.needs.bind

theorem needs_readSequence {α : Type} (read : Reader α) : Needs 1 (readSequence read) :=
  takes_readNumber.needs.bind

theorem Operation.needs_read (levels : Nat) : Needs 2 (Operation.read levels) := by
  have entity {kind : EntityKind} : Needs 1 (EntityId.read : Reader (EntityId kind)) :=
    takes_readWord.needs.bind
  have key : Needs 1 Key.readNested := Key.needs_read _
  have operation (levels : Nat) : Needs 1 (Operation.read levels) := by
    rw [Operation.read.eq_def]
    exact takes_readVariant.needs.bind
  rw [Operation.read.eq_def]
  refine Takes.bind_needs (a := 1) (b := 1) takes_readVariant fun variant => ?_
  split
  case h_1 | h_5 => exact key.bind
  case h_2 => exact (needs_readSequence _).bind
  case h_3 | h_4 | h_6 | h_7 | h_8 | h_10 | h_11 | h_12 | h_14 | h_15 | h_16 | h_18 | h_19 =>
    exact entity.bind
  case h_9 | h_13 => exact (needs_readOption _).bind
  case h_17 =>
    split
    · exact (takes_fail 1 _).needs
    · exact (operation _).bind
  case h_20 => exact takes_readWord.needs.bind
  case h_21 => exact (takes_fail 1 _).needs

end Signatory
