import Signatory.Proofs.Wire.Reading

/-!
Reading what was written. A reader may refuse a value for its nesting alone, so the law of a reader
names the condition under which it gives the value back, and the faults it may have otherwise. Laws
are put together as readers are. Main statements: numbers, flags, byte strings and texts are always
read back; an option or a sequence is read back just if all that it holds is.
-/
namespace Signatory.Wire

/-- What the reader makes of the bytes written for a value, whatever follows them: the value if
`within` holds, and one of the faults if not. Bytes that no number counts are left out. -/
structure ReadsBack {α : Type} (faults : Fault → Prop) (read : Reader α) (written : Bytes)
    (value : α) (within : Prop) : Prop where
  returns : written.length < 2 ^ 64 → within → ∀ rest, read (written ++ rest) = .ok (value, rest)
  refuses : written.length < 2 ^ 64 → ¬ within → ∀ rest,
    ∃ fault, faults fault ∧ read (written ++ rest) = .error fault

namespace ReadsBack

variable {α β : Type} {faults : Fault → Prop} {read : Reader α} {written : Bytes} {value : α}
  {within : Prop}

theorem of_iff (law : ReadsBack faults read written value within) {condition : Prop}
    (same : within ↔ condition) : ReadsBack faults read written value condition := by
  rw [← same]
  exact law

theorem always (exact : written.length < 2 ^ 64 → ∀ rest,
    read (written ++ rest) = .ok (value, rest)) : ReadsBack faults read written value True :=
  ⟨fun short _ => exact short, fun _ never => absurd trivial never⟩

theorem never {fault : Fault} (refused : faults fault) :
    ReadsBack faults (Reader.fail fault) written value False :=
  ⟨fun _ never => never.elim, fun _ _ _ => ⟨fault, refused, rfl⟩⟩

theorem read_alone (law : ReadsBack faults read written value within)
    (short : written.length < 2 ^ 64) (holds : within) : read written = .ok (value, []) := by
  have alone := law.returns short holds []
  rwa [List.append_nil] at alone

theorem refused_alone (law : ReadsBack faults read written value within)
    (short : written.length < 2 ^ 64) (beyond : ¬ within) :
    ∃ fault, faults fault ∧ read written = .error fault := by
  have alone := law.refuses short beyond []
  rwa [List.append_nil] at alone

theorem bind {next : α → Reader β} {front back : Bytes} {result : β} {further : Prop}
    (one : ReadsBack faults read front value within)
    (two : ReadsBack faults (next value) back result further) :
    ReadsBack faults (read >>= next) (front ++ back) result (within ∧ further) := by
  constructor
  · intro short holds rest
    rw [List.length_append] at short
    rw [List.append_assoc]
    exact Reader.bind_eq_ok_iff.mpr ⟨value, back ++ rest, one.returns (by omega) holds.1 _,
      two.returns (by omega) holds.2 rest⟩
  · intro short fails rest
    rw [List.length_append] at short
    rw [List.append_assoc]
    -- the second part is only reached behind a first that is read back
    by_cases holds : within
    · have first := one.returns (by omega) holds (back ++ rest)
      obtain ⟨fault, allowed, last⟩ :=
        two.refuses (by omega) (fun others => fails ⟨holds, others⟩) rest
      exact ⟨fault, allowed, (Reader.bind_of_ok first).trans last⟩
    · obtain ⟨fault, allowed, first⟩ := one.refuses (by omega) holds (back ++ rest)
      exact ⟨fault, allowed, Reader.bind_of_error first⟩

theorem done {f : α → β} (law : ReadsBack faults read written value within) :
    ReadsBack faults (read >>= fun found => pure (f found)) written (f value) within := by
  have nothing : ReadsBack faults (pure (f value) : Reader β) [] (f value) True :=
    always fun _ _ => rfl
  have whole : ReadsBack faults (read >>= fun found => pure (f found)) (written ++ []) (f value)
      (within ∧ True) := law.bind nothing
  rw [List.append_nil] at whole
  exact whole.of_iff (and_iff_left trivial)

end ReadsBack

section Primitives

variable {faults : Fault → Prop}

theorem number_ne_nil (n : Nat) : number n ≠ [] := by
  unfold number
  split
  · exact List.cons_ne_nil _ _
  · split
    · exact List.cons_ne_nil _ _
    · split <;> exact List.cons_ne_nil _ _

theorem readsBack_number {n : Nat} (fits : n < 2 ^ 64) :
    ReadsBack faults readNumber (number n) n True :=
  .always fun _ rest => readNumber_number n fits rest

theorem readsBack_word (w : UInt64) : ReadsBack faults readWord (word w) w True :=
  .always fun _ rest => readWord_word w rest

theorem readShort_short (n : UInt32) (rest : Bytes) : readShort (short n ++ rest) = .ok (n, rest) := by
  have fits : n.toNat < capacity 4 := n.toNat_lt
  have number := readNumber_number n.toNat (Nat.lt_trans fits (by decide)) rest
  refine Reader.bind_eq_ok_iff.mpr ⟨n.toNat, rest, number, ?_⟩
  rw [if_pos fits, UInt32.ofNat_toNat]
  rfl

theorem ReadsBack.variant {α : Type} {next : Nat → Reader α} {fields : Bytes} {value : α}
    {within : Prop} (n : Nat) (fits : n < 2 ^ 32)
    (law : ReadsBack faults (next n) fields value within) :
    ReadsBack faults (readVariant >>= next) (number n ++ fields) value within := by
  have same : (UInt32.ofNat n).toNat = n := by
    rw [UInt32.toNat_ofNat', Nat.mod_eq_of_lt fits]
  have tag : ReadsBack faults readVariant (number n) n True := by
    apply ReadsBack.always
    intro _ rest
    have read := readShort_short (.ofNat n) rest
    rw [short, same] at read
    exact Reader.map_eq_ok_iff.mpr ⟨.ofNat n, read, same⟩
  exact (tag.bind law).of_iff (and_iff_right trivial)

theorem unzigzag_zigzag (i : Int) : unzigzag (zigzag i) = i := by
  unfold zigzag
  split
  · rw [unzigzag, if_pos (by omega)]
    omega
  · rw [unzigzag, if_neg (by omega)]
    omega

theorem readsBack_signed (i : Int64) : ReadsBack faults readSigned (signed i) i True := by
  apply ReadsBack.always
  intro _ rest
  refine Reader.map_eq_ok_iff.mpr ⟨zigzag i.toInt, readNumber_number _ (zigzag_lt i) rest, ?_⟩
  rw [unzigzag_zigzag, Int64.ofInt_toInt]

theorem readsBack_flag (b : Bool) : ReadsBack faults readFlag (flag b) b True := by
  apply ReadsBack.always
  intro _ rest
  cases b <;> rfl

theorem readsBack_byteString (bytes : Bytes) :
    ReadsBack faults readByteString (byteString bytes) bytes True := by
  apply ReadsBack.always
  intro short rest
  rw [byteString, List.length_append] at short
  rw [byteString, List.append_assoc]
  exact Reader.bind_eq_ok_iff.mpr ⟨bytes.length, bytes ++ rest,
    readNumber_number _ (by omega) _, readExactly_append .endOfInput bytes rest⟩

theorem readsBack_text (s : String) : ReadsBack faults readText (text s) s True := by
  apply ReadsBack.always
  intro short rest
  rw [text, byteString, List.length_append] at short
  rw [text, byteString, List.append_assoc]
  refine Reader.bind_eq_ok_iff.mpr ⟨(textBytes s).length, textBytes s ++ rest,
    readNumber_number _ (by omega) _, ?_⟩
  refine Reader.bind_eq_ok_iff.mpr ⟨textBytes s, rest,
    readExactly_append .endOfText (textBytes s) rest, ?_⟩
  rw [textOfBytes_textBytes]
  rfl

end Primitives

section Collections

variable {α : Type} {faults : Fault → Prop} {read : Reader α} {write : α → Bytes}
  {within : α → Prop}

theorem readsBack_option {found : Option α}
    (inner : ∀ value ∈ found, ReadsBack faults read (write value) value (within value)) :
    ReadsBack faults (readOption read) (option write found) found
      (∀ value ∈ found, within value) := by
  cases found with
  | none => exact (ReadsBack.always fun _ _ => rfl).of_iff (by simp)
  | some value =>
    have tag : ReadsBack faults readByte [1] 1 True := .always fun _ _ => rfl
    have whole : ReadsBack faults (readOption read) ([1] ++ write value) (some value)
        (True ∧ within value) := tag.bind (inner value rfl).done
    exact whole.of_iff (by simp)

theorem length_le_length_flatMap {values : List α} (shown : ∀ value ∈ values, write value ≠ []) :
    values.length ≤ (values.flatMap write).length := by
  induction values with
  | nil => exact Nat.le_refl _
  | cons value values ih =>
    rw [List.forall_mem_cons] at shown
    have one := List.length_pos_of_ne_nil shown.1
    have others := ih shown.2
    rw [List.flatMap_cons, List.length_append, List.length_cons]
    omega

theorem readsBack_many {values : List α}
    (inner : ∀ value ∈ values, ReadsBack faults read (write value) value (within value)) :
    ReadsBack faults (readMany read values.length) (values.flatMap write) values
      (∀ value ∈ values, within value) := by
  induction values with
  | nil => exact (ReadsBack.always fun _ _ => rfl).of_iff (by simp)
  | cons value values ih =>
    rw [List.forall_mem_cons] at inner
    exact (inner.1.bind (ih inner.2).done).of_iff List.forall_mem_cons.symm

theorem readsBack_sequence {values : List α}
    (inner : ∀ value ∈ values, ReadsBack faults read (write value) value (within value))
    (shown : ∀ value ∈ values, write value ≠ []) :
    ReadsBack faults (readSequence read) (sequence write values) values
      (∀ value ∈ values, within value) := by
  have several := length_le_length_flatMap shown
  -- the count fits if the whole does, as every value is written with one byte at least
  by_cases fits : values.length < 2 ^ 64
  · exact ((readsBack_number fits).bind (readsBack_many inner)).of_iff (and_iff_right trivial)
  · have long : ¬ (sequence write values).length < 2 ^ 64 := by
      rw [sequence, List.length_append]
      omega
    exact ⟨fun short => absurd short long, fun short => absurd short long⟩

end Collections

end Signatory.Wire
