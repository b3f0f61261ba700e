import Signatory.Proofs.Wire.RoundTrip

/-!
Spellings. A number is read in any width that holds it and written in the least, so bytes that are
read may be longer than those that are written, but each width holds one spelling alone. Readers
are followed with what has been written so far for what they have read. Main statements: numbers,
flags, texts, options and sequences, read from any bytes, are written in fewer bytes or in the same.
-/
namespace Signatory.Wire

def Spells (taken written : Bytes) : Prop := taken = written ∨ written.length < taken.length

namespace Spells

variable {taken written : Bytes}

theorem length_le (spells : Spells taken written) : written.length ≤ taken.length := by
  rcases spells with rfl | longer
  · exact Nat.le_refl _
  · exact Nat.le_of_lt longer

theorem eq_of_length_eq (spells : Spells taken written) (same : written.length = taken.length) :
    written = taken := by
  rcases spells with rfl | longer
  · rfl
  · exact absurd same (Nat.ne_of_lt longer)

theorem append {further behind : Bytes} (one : Spells taken written)
    (two : Spells further behind) : Spells (taken ++ further) (written ++ behind) := by
  have first := one.length_le
  have second := two.length_le
  rcases one with rfl | longer
  · rcases two with rfl | longer
    · exact .inl rfl
    · right
      rw [List.length_append, List.length_append]
      omega
  · right
    rw [List.length_append, List.length_append]
    omega

end Spells

/-- Behind `front`, which is written already, what the reader takes spells the rest of what is
written for its value. -/
def Normalizes {α : Type} (front : Bytes) (read : Reader α) (write : α → Bytes) : Prop :=
  ∀ ⦃bytes value rest⦄, read bytes = .ok (value, rest) → ∃ taken written,
    bytes = taken ++ rest ∧ write value = front ++ written ∧ Spells taken written

namespace Normalizes

variable {α β : Type} {front : Bytes} {read : Reader α} {write : α → Bytes}

theorem bind {next : α → Reader β} {whole : β → Bytes} (one : Normalizes [] read write)
    (two : ∀ found, Normalizes (front ++ write found) (next found) whole) :
    Normalizes front (read >>= next) whole := by
  intro bytes value rest answered
  obtain ⟨found, behind, first, second⟩ := Reader.bind_eq_ok_iff.mp answered
  obtain ⟨taken, written, rfl, here, spelled⟩ := one first
  obtain ⟨further, others, rfl, all, following⟩ := two found second
  rw [List.nil_append] at here
  refine ⟨taken ++ further, written ++ others, ?_, ?_, spelled.append following⟩
  · rw [List.append_assoc]
  · rw [all, here, List.append_assoc]

theorem done {value : α} (whole : write value = front) :
    Normalizes front (pure value : Reader α) write := by
  intro bytes found rest answered
  obtain ⟨rfl, rfl⟩ := Reader.pure_eq_ok_iff.mp answered
  exact ⟨[], [], rfl, by rw [whole, List.append_nil], .inl rfl⟩

theorem fail (fault : Fault) : Normalizes front (Reader.fail fault : Reader α) write :=
  fun _ _ _ answered => by cases answered

theorem map {f : α → β} {whole : β → Bytes} (law : Normalizes [] read write)
    (same : ∀ ⦃bytes found rest⦄, read bytes = .ok (found, rest) → whole (f found) = write found) :
    Normalizes [] (f <$> read) whole := by
  intro bytes value rest answered
  obtain ⟨found, first, rfl⟩ := Reader.map_eq_ok_iff.mp answered
  rw [same first]
  exact law first

theorem spells_of_read (law : Normalizes [] read write) {bytes : Bytes} {value : α}
    (answered : read bytes = .ok (value, [])) : Spells bytes (write value) := by
  obtain ⟨taken, written, rfl, same, spelled⟩ := law answered
  rw [List.append_nil, same]
  exact spelled

end Normalizes

section Numbers

theorem normalizes_readByte : Normalizes [] readByte fun b => [b] := by
  intro bytes b rest read
  exact ⟨[b], [b], readByte_eq_ok read, rfl, .inl rfl⟩

def Announces (marker : UInt8) (width : Nat) : Prop :=
  (marker = 251 ∧ width = 2) ∨ (marker = 252 ∧ width = 4) ∨ (marker = 253 ∧ width = 8)

theorem Announces.number_eq {marker : UInt8} {width n : Nat} (announced : Announces marker width)
    (fits : n < capacity width) :
    number n = marker :: toLittleEndian width n ∨ (number n).length < width + 1 := by
  rcases announced with ⟨rfl, rfl⟩ | ⟨rfl, rfl⟩ | ⟨rfl, rfl⟩
  all_goals
    unfold number
    repeat' split
    all_goals simp_all

theorem Announces.spells {marker : UInt8} {width : Nat} (announced : Announces marker width)
    {digits : Bytes} (exact : digits.length = width) :
    Spells (marker :: digits) (number (littleEndian digits)) := by
  have fits := littleEndian_lt digits
  have same := toLittleEndian_littleEndian digits
  rw [exact] at fits same
  rcases announced.number_eq fits with least | shorter
  · rw [same] at least
    exact .inl least.symm
  · right
    rwa [List.length_cons, exact]

theorem Announces.capacity_le {marker : UInt8} {width : Nat} (announced : Announces marker width) :
    capacity width ≤ 2 ^ 64 := by
  rcases announced with ⟨_, rfl⟩ | ⟨_, rfl⟩ | ⟨_, rfl⟩ <;> decide

theorem readNumber_eq_ok {bytes rest : Bytes} {n : Nat} (read : readNumber bytes = .ok (n, rest)) :
    (∃ b : UInt8, b ≤ 250 ∧ n = b.toNat ∧ bytes = b :: rest) ∨
      ∃ marker digits, Announces marker digits.length ∧ n = littleEndian digits ∧
        bytes = marker :: (digits ++ rest) := by
  obtain ⟨marker, behind, first, read⟩ := Reader.bind_eq_ok_iff.mp read
  rw [readByte_eq_ok first]
  have wide {width : Nat} (announced : Announces marker width)
      (read : readLittleEndian width behind = .ok (n, rest)) :
      ∃ lead digits, Announces lead digits.length ∧ n = littleEndian digits ∧
        marker :: behind = lead :: (digits ++ rest) := by
    obtain ⟨digits, given, rfl⟩ := Reader.map_eq_ok_iff.mp read
    obtain ⟨rfl, rfl⟩ := readExactly_eq_ok given
    exact ⟨marker, digits, announced, rfl, rfl⟩
  split at read
  · rename_i small
    obtain ⟨rfl, rfl⟩ := Reader.pure_eq_ok_iff.mp read
    exact .inl ⟨marker, small, rfl, rfl⟩
  · split at read
    · rename_i two
      exact .inr (wide (.inl ⟨two, rfl⟩) read)
    · split at read
      · rename_i four
        exact .inr (wide (.inr (.inl ⟨four, rfl⟩)) read)
      · split at read
        · rename_i eight
          exact .inr (wide (.inr (.inr ⟨eight, rfl⟩)) read)
        · split at read <;> cases read

theorem lt_of_readNumber {bytes rest : Bytes} {n : Nat} (read : readNumber bytes = .ok (n, rest)) :
    n < 2 ^ 64 := by
  rcases readNumber_eq_ok read with ⟨b, _, rfl, _⟩ | ⟨marker, digits, announced, rfl, _⟩
  · exact Nat.lt_trans b.toNat_lt (by decide)
  · exact Nat.lt_of_lt_of_le (littleEndian_lt digits) announced.capacity_le

theorem number_of_small {b : UInt8} (small : b ≤ 250) : number b.toNat = [b] := by
  have fits : b.toNat ≤ 250 := UInt8.le_iff_toNat_le.mp small
  rw [number, if_pos fits, UInt8.ofNat_toNat]

theorem normalizes_readNumber : Normalizes [] readNumber number := by
  intro bytes n rest read
  rcases readNumber_eq_ok read with ⟨b, small, rfl, rfl⟩ | ⟨marker, digits, announced, rfl, rfl⟩
  · exact ⟨[b], [b], rfl, number_of_small small, .inl rfl⟩
  · exact ⟨marker :: digits, _, rfl, rfl, announced.spells rfl⟩

theorem normalizes_readWord : Normalizes [] readWord word := by
  apply normalizes_readNumber.map
  intro bytes n rest read
  rw [word, UInt64.toNat_ofNat', Nat.mod_eq_of_lt (lt_of_readNumber read)]

theorem normalizes_readShort : Normalizes [] readShort short := by
  refine normalizes_readNumber.bind fun n => ?_
  split
  · rename_i fits
    have small : n < 2 ^ 32 := fits
    have same : short (UInt32.ofNat n) = number n := by
      rw [short, UInt32.toNat_ofNat', Nat.mod_eq_of_lt small]
    exact .done same
  · exact .fail _

theorem normalizes_readVariant : Normalizes [] readVariant number :=
  normalizes_readShort.map fun _ _ _ _ => rfl

theorem zigzag_unzigzag (n : Nat) : zigzag (unzigzag n) = n := by
  unfold unzigzag
  split
  · rw [zigzag, if_pos (by omega)]
    omega
  · rw [zigzag, if_neg (by omega)]
    omega

theorem normalizes_readSigned : Normalizes [] readSigned signed := by
  apply normalizes_readNumber.map
  intro bytes n rest read
  have fits := lt_of_readNumber read
  have low : -2 ^ 63 ≤ unzigzag n := by
    unfold unzigzag
    split <;> omega
  have high : unzigzag n < 2 ^ 63 := by
    unfold unzigzag
    split <;> omega
  rw [signed, Int64.toInt_ofInt_of_le low high, zigzag_unzigzag]

end Numbers

section Fields

theorem normalizes_readFlag : Normalizes [] readFlag flag := by
  refine normalizes_readByte.bind fun b => ?_
  split
  · rename_i zero
    exact .done (by rw [zero]; rfl)
  · split
    · rename_i one
      exact .done (by rw [one]; rfl)
    · exact .fail _

theorem normalizes_counted (short : Fault) :
    Normalizes [] (readNumber >>= readExactly short) byteString := by
  intro bytes value rest answered
  obtain ⟨count, behind, first, exact⟩ := Reader.bind_eq_ok_iff.mp answered
  obtain ⟨rfl, rfl⟩ := readExactly_eq_ok exact
  obtain ⟨taken, written, rfl, same, spelled⟩ := normalizes_readNumber first
  refine ⟨taken ++ value, written ++ value, ?_, ?_, spelled.append (.inl rfl)⟩
  · rw [List.append_assoc]
  · rw [byteString, same, List.append_assoc]

theorem normalizes_readByteString : Normalizes [] readByteString byteString :=
  normalizes_counted .endOfInput

theorem normalizes_readText : Normalizes [] readText text := by
  intro bytes value rest answered
  obtain ⟨count, behind, first, answered⟩ := Reader.bind_eq_ok_iff.mp answered
  obtain ⟨taken, left, exact, answered⟩ := Reader.bind_eq_ok_iff.mp answered
  -- the bytes of a text are those of no other, so the text is as long as it was said to be
  cases valid : textOfBytes taken with
  | error fault => simp only [valid] at answered; cases answered
  | ok found =>
    simp only [valid] at answered
    obtain ⟨rfl, rfl⟩ := Reader.pure_eq_ok_iff.mp answered
    have counted : (readNumber >>= readExactly .endOfText) bytes = .ok (taken, left) :=
      Reader.bind_eq_ok_iff.mpr ⟨count, behind, first, exact⟩
    rw [text, textBytes_of_textOfBytes valid]
    exact normalizes_counted .endOfText counted

end Fields

section Collections

variable {α : Type} {read : Reader α} {write : α → Bytes}

theorem normalizes_readOption (inner : Normalizes [] read write) :
    Normalizes [] (readOption read) (option write) := by
  refine normalizes_readByte.bind fun b => ?_
  split
  · rename_i zero
    exact .done (by rw [zero]; rfl)
  · split
    · rename_i one
      exact inner.bind fun value => .done (by rw [one]; rfl)
    · exact .fail _

theorem normalizes_readMany (inner : Normalizes [] read write) (count : Nat) :
    Normalizes [] (readMany read count) fun values => values.flatMap write := by
  induction count with
  | zero => exact .done rfl
  | succ count ih =>
    refine inner.bind fun value => ih.bind fun values => .done ?_
    rw [List.flatMap_cons, List.nil_append]

theorem normalizes_readSequence (inner : Normalizes [] read write) :
    Normalizes [] (readSequence read) (sequence write) := by
  refine normalizes_readNumber.bind fun count => ?_
  intro bytes values rest answered
  obtain ⟨taken, written, rfl, same, spelled⟩ := normalizes_readMany inner count answered
  refine ⟨taken, written, rfl, ?_, spelled⟩
  have all : Reader.Gives (fun _ => True) read := fun _ _ _ _ => trivial
  rw [sequence, (gives_readMany all count answered).1]
  exact congrArg (number count ++ ·) same

end Collections

end Signatory.Wire
