import Mathlib
import Signatory.Wire.Transaction

/-!
What readers do, step by step: a reader that succeeds has succeeded in each of its parts. Main
statement: a number that was written is read back, whatever follows it.
-/
namespace Signatory.Wire

namespace Reader

variable {α β : Type}

theorem bind_eq_ok_iff {first : Reader α} {next : α → Reader β} {bytes rest : Bytes} {value : β} :
    (first >>= next) bytes = .ok (value, rest) ↔ ∃ found behind,
      first bytes = .ok (found, behind) ∧ next found behind = .ok (value, rest) := by
  change (first bytes >>= fun read => next read.1 read.2) = _ ↔ _
  cases first bytes with
  | error fault => simp [bind, Except.bind]
  | ok read =>
    constructor
    · exact fun answered => ⟨read.1, read.2, rfl, answered⟩
    · rintro ⟨_, _, same, answered⟩
      cases same
      exact answered

theorem bind_of_ok {first : Reader α} {next : α → Reader β} {bytes rest : Bytes} {value : α}
    (answered : first bytes = .ok (value, rest)) : (first >>= next) bytes = next value rest := by
  change (first bytes >>= fun read => next read.1 read.2) = _
  rw [answered]
  rfl

theorem bind_of_error {first : Reader α} {next : α → Reader β} {bytes : Bytes} {fault : Fault}
    (failed : first bytes = .error fault) : (first >>= next) bytes = .error fault := by
  change (first bytes >>= fun read => next read.1 read.2) = _
  rw [failed]
  rfl

theorem bind_eq_error_iff {first : Reader α} {next : α → Reader β} {bytes : Bytes}
    {fault : Fault} :
    (first >>= next) bytes = .error fault ↔ first bytes = .error fault ∨
      ∃ found behind, first bytes = .ok (found, behind) ∧ next found behind = .error fault := by
  cases answer : first bytes with
  | error cause => simp [bind_of_error answer]
  | ok read => simp [bind_of_ok answer, Prod.ext_iff, and_assoc]

theorem pure_eq_ok_iff {value found : α} {bytes rest : Bytes} :
    (pure value : Reader α) bytes = .ok (found, rest) ↔ value = found ∧ bytes = rest := by
  change Except.ok (value, bytes) = .ok (found, rest) ↔ _
  simp

theorem map_eq_ok_iff {read : Reader α} {f : α → β} {bytes rest : Bytes} {value : β} :
    (f <$> read) bytes = .ok (value, rest) ↔
      ∃ found, read bytes = .ok (found, rest) ∧ f found = value := by
  rw [← bind_pure_comp, bind_eq_ok_iff]
  constructor
  · rintro ⟨found, _, answered, last⟩
    obtain ⟨same, rfl⟩ := pure_eq_ok_iff.mp last
    exact ⟨found, answered, same⟩
  · rintro ⟨found, answered, same⟩
    exact ⟨found, rest, answered, pure_eq_ok_iff.mpr ⟨same, rfl⟩⟩

theorem run_eq_ok_iff {read : Reader α} {bytes : Bytes} {value : α} :
    read.run bytes = .ok value ↔ read bytes = .ok (value, []) := by
  unfold run
  split <;> simp_all

theorem mapError_run_eq_ok_iff {ε : Type} {read : Reader α} {rename : Fault → ε} {bytes : Bytes}
    {value : α} : (read.run bytes).mapError rename = .ok value ↔ read bytes = .ok (value, []) := by
  rw [← run_eq_ok_iff]
  cases read.run bytes <;> simp [Except.mapError]

def Gives (property : α → Prop) (read : Reader α) : Prop :=
  ∀ ⦃bytes value rest⦄, read bytes = .ok (value, rest) → property value

theorem Gives.bind {first : Reader α} {next : α → Reader β} {property : β → Prop}
    (others : ∀ found, Gives property (next found)) : Gives property (first >>= next) := by
  intro bytes value rest answered
  obtain ⟨found, behind, _, last⟩ := bind_eq_ok_iff.mp answered
  exact others found last

theorem Gives.bind_of {first : Reader α} {next : α → Reader β} {condition : α → Prop}
    {property : β → Prop} (one : Gives condition first)
    (others : ∀ found, condition found → Gives property (next found)) :
    Gives property (first >>= next) := by
  intro bytes value rest answered
  obtain ⟨found, behind, given, last⟩ := bind_eq_ok_iff.mp answered
  exact others found (one given) last

theorem gives_pure {property : α → Prop} {value : α} (holds : property value) :
    Gives property (pure value : Reader α) :=
  fun _ _ _ answered => (pure_eq_ok_iff.mp answered).1 ▸ holds

theorem gives_fail (property : α → Prop) (fault : Fault) :
    Gives property (Reader.fail fault : Reader α) :=
  fun _ _ _ answered => by cases answered

end Reader

theorem mapError_bounded {ε : Type} (rename : Fault → ε) (limit : Nat) (bytes : Bytes) :
    (bounded limit bytes).mapError rename =
      if bytes.length ≤ limit then .ok bytes else .error (rename .sizeLimit) := by
  unfold bounded
  split <;> rfl

theorem mapError_bounded_eq_ok {ε : Type} {rename : Fault → ε} {limit : Nat} {bytes written : Bytes}
    (encoded : (bounded limit bytes).mapError rename = .ok written) :
    written = bytes ∧ bytes.length ≤ limit := by
  rw [mapError_bounded] at encoded
  split at encoded
  · rename_i short
    cases encoded
    exact ⟨rfl, short⟩
  · cases encoded

theorem capacity_eight : capacity 8 = 2 ^ 64 := rfl

theorem readExactly_append (short : Fault) (bytes rest : Bytes) :
    readExactly short bytes.length (bytes ++ rest) = .ok (bytes, rest) := by
  simp [readExactly]

theorem readExactly_eq_ok {short : Fault} {count : Nat} {bytes taken rest : Bytes}
    (read : readExactly short count bytes = .ok (taken, rest)) :
    taken.length = count ∧ bytes = taken ++ rest := by
  unfold readExactly at read
  simp only at read
  split at read
  · rename_i enough
    cases read
    exact ⟨enough, (List.take_append_drop count bytes).symm⟩
  · cases read

theorem readLittleEndian_toLittleEndian (width n : Nat) (fits : n < capacity width) (rest : Bytes) :
    readLittleEndian width (toLittleEndian width n ++ rest) = .ok (n, rest) := by
  have exact := readExactly_append .endOfInput (toLittleEndian width n) rest
  rw [length_toLittleEndian] at exact
  exact Reader.map_eq_ok_iff.mpr ⟨_, exact, littleEndian_toLittleEndian width n fits⟩

theorem readNumber_cons {b : UInt8} (small : b ≤ 250) (rest : Bytes) :
    readNumber (b :: rest) = .ok (b.toNat, rest) := by
  refine Reader.bind_eq_ok_iff.mpr ⟨b, rest, rfl, ?_⟩
  rw [if_pos small]
  rfl

theorem readNumber_number (n : Nat) (fits : n < 2 ^ 64) (rest : Bytes) :
    readNumber (number n ++ rest) = .ok (n, rest) := by
  unfold number
  split
  · rename_i small
    have byte : (UInt8.ofNat n).toNat = n := by
      rw [UInt8.toNat_ofNat']
      omega
    have fits : UInt8.ofNat n ≤ 250 := by
      rw [UInt8.le_iff_toNat_le, byte]
      exact small
    have read := readNumber_cons fits rest
    rwa [byte] at read
  · split
    · rename_i two
      exact readLittleEndian_toLittleEndian 2 n two rest
    · split
      · rename_i four
        exact readLittleEndian_toLittleEndian 4 n four rest
      · exact readLittleEndian_toLittleEndian 8 n (capacity_eight ▸ fits) rest

theorem readWord_word (w : UInt64) (rest : Bytes) : readWord (word w ++ rest) = .ok (w, rest) :=
  Reader.map_eq_ok_iff.mpr ⟨w.toNat, readNumber_number _ w.toNat_lt rest, UInt64.ofNat_toNat⟩

theorem number_eq_word {n : Nat} (fits : n < 2 ^ 64) : number n = word (.ofNat n) := by
  rw [word, UInt64.toNat_ofNat', Nat.mod_eq_of_lt fits]

theorem number_append_eq_cons {n : Nat} {rest behind : Bytes} {b : UInt8} (fits : n < 2 ^ 64)
    (small : b ≤ 250) (same : number n ++ rest = b :: behind) : n = b.toNat ∧ rest = behind := by
  have read := readNumber_number n fits rest
  rw [same, readNumber_cons small] at read
  obtain ⟨first, others⟩ := Prod.mk.inj (Except.ok.inj read)
  exact ⟨first.symm, others.symm⟩

theorem readByte_eq_ok {bytes rest : Bytes} {b : UInt8} (read : readByte bytes = .ok (b, rest)) :
    bytes = b :: rest := by
  cases bytes with
  | nil => cases read
  | cons => cases read; rfl

theorem length_of_readNumber {bytes rest : Bytes} {n : Nat}
    (read : readNumber bytes = .ok (n, rest)) : rest.length < bytes.length := by
  obtain ⟨marker, behind, first, read⟩ := Reader.bind_eq_ok_iff.mp read
  rw [readByte_eq_ok first, List.length_cons, Nat.lt_succ_iff]
  have wide {width : Nat} (read : readLittleEndian width behind = .ok (n, rest)) :
      rest.length ≤ behind.length := by
    obtain ⟨taken, exact, _⟩ := Reader.map_eq_ok_iff.mp read
    rw [(readExactly_eq_ok exact).2, List.length_append]
    exact Nat.le_add_left ..
  split at read
  · exact (Reader.pure_eq_ok_iff.mp read).2 ▸ Nat.le_refl _
  · split at read
    · exact wide read
    · split at read
      · exact wide read
      · split at read
        · exact wide read
        · split at read <;> cases read

theorem zigzag_lt (i : Int64) : zigzag i.toInt < 2 ^ 64 := by
  have := i.le_toInt
  have := i.toInt_lt
  unfold zigzag
  split <;> omega

section Tags

variable {α : Type} {bytes rest : Bytes}

theorem readFlag_eq_ok {value : Bool} (read : readFlag bytes = .ok (value, rest)) :
    ∃ b : UInt8, b ≤ 1 ∧ bytes = b :: rest := by
  obtain ⟨b, behind, first, read⟩ := Reader.bind_eq_ok_iff.mp read
  rw [readByte_eq_ok first]
  split at read
  · rename_i zero
    exact ⟨b, by rw [zero]; decide, by rw [(Reader.pure_eq_ok_iff.mp read).2]⟩
  · split at read
    · rename_i one
      exact ⟨b, by rw [one]; decide, by rw [(Reader.pure_eq_ok_iff.mp read).2]⟩
    · cases read

theorem readOption_eq_ok {read : Reader α} {found : Option α}
    (answered : readOption read bytes = .ok (found, rest)) :
    (bytes = 0 :: rest ∧ found = none) ∨ ∃ behind value,
      bytes = 1 :: behind ∧ read behind = .ok (value, rest) ∧ found = some value := by
  obtain ⟨b, behind, first, answered⟩ := Reader.bind_eq_ok_iff.mp answered
  rw [readByte_eq_ok first]
  split at answered
  · rename_i zero
    obtain ⟨rfl, rfl⟩ := Reader.pure_eq_ok_iff.mp answered
    exact .inl ⟨by rw [zero], rfl⟩
  · split at answered
    · rename_i one
      obtain ⟨value, _, given, last⟩ := Reader.bind_eq_ok_iff.mp answered
      obtain ⟨rfl, rfl⟩ := Reader.pure_eq_ok_iff.mp last
      exact .inr ⟨behind, value, by rw [one], given, rfl⟩
    · cases answered

end Tags

section Sequences

variable {α : Type} {read : Reader α} {property : α → Prop}

theorem gives_readMany (each : Reader.Gives property read) (count : Nat) :
    Reader.Gives (fun values => values.length = count ∧ ∀ value ∈ values, property value)
      (readMany read count) := by
  induction count with
  | zero => exact Reader.gives_pure ⟨rfl, by simp⟩
  | succ count ih =>
    refine .bind_of each fun value first => .bind_of ih fun values others => Reader.gives_pure ?_
    rw [List.length_cons, others.1, List.forall_mem_cons]
    exact ⟨rfl, first, others.2⟩

theorem gives_readSequence (each : Reader.Gives property read) :
    Reader.Gives (fun values => ∀ value ∈ values, property value) (readSequence read) :=
  .bind fun count _ _ _ answered => (gives_readMany each count answered).2

end Sequences

end Signatory.Wire

namespace Signatory
open Wire

theorem EntityId.read_eq_ok {kind : EntityKind} {bytes rest : Bytes} {id : EntityId kind}
    (answered : EntityId.read bytes = .ok (id, rest)) :
    ∃ behindShard behindRealm, readWord bytes = .ok (id.shard, behindShard) ∧
      readWord behindShard = .ok (id.realm, behindRealm) ∧
      readWord behindRealm = .ok (id.num, rest) := by
  obtain ⟨shard, behindShard, one, answered⟩ := Reader.bind_eq_ok_iff.mp answered
  obtain ⟨realm, behindRealm, two, answered⟩ := Reader.bind_eq_ok_iff.mp answered
  obtain ⟨num, left, three, answered⟩ := Reader.bind_eq_ok_iff.mp answered
  obtain ⟨rfl, rfl⟩ := Reader.pure_eq_ok_iff.mp answered
  exact ⟨_, _, one, two, three⟩

theorem Key.decode_eq_ok_iff {bytes : Bytes} {key : Key} : Key.decode bytes = .ok key ↔
    Key.readNested bytes = .ok (key, []) ∧ key.depth ≤ maxDepth := by
  rw [← Reader.run_eq_ok_iff, decode]
  cases readNested.run bytes <;> grind

theorem TransactionBody.decode_eq_ok_iff {bytes : Bytes} {body : TransactionBody} :
    TransactionBody.decode bytes = .ok body ↔ TransactionBody.read bytes = .ok (body, []) ∧
      Key.greatestDepth body.operation.embeddedKeys ≤ Key.maxDepth := by
  rw [← Reader.run_eq_ok_iff, decode]
  cases read.run bytes <;> grind

theorem SignatureMap.decode_eq_ok_iff {bytes : Bytes} {pairs : SignatureMap} :
    SignatureMap.decode bytes = .ok pairs ↔ SignatureMap.read bytes = .ok (pairs, []) :=
  Reader.mapError_run_eq_ok_iff

theorem Envelope.decode_eq_ok_iff {bytes : Bytes} {envelope : Envelope} :
    Envelope.decode bytes = .ok envelope ↔ Envelope.read bytes = .ok (envelope, []) :=
  Reader.mapError_run_eq_ok_iff

end Signatory
