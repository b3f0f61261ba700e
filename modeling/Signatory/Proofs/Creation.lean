import Signatory.Proofs.Resolution
import Signatory.Proofs.Satisfaction
import Signatory.Proofs.Sourcing
import Signatory.RecordCreation

/-!
What records can be made. For each leaf that is there a source has to answer, and the parts of the
record have to be short enough for words of 32 bits. Main statement: records are made just if this
is so of every leaf, and from a source that can be read nothing but the length of a part keeps them
from being made.
-/
namespace Signatory

theorem addressed_cases (length : Nat) :
    (length < UInt32.size ∧ ∃ word, addressed length = .ok word) ∨
      (UInt32.size ≤ length ∧ addressed length = .error (.oversized length)) := by
  rcases Nat.lt_or_ge length UInt32.size with fits | beyond
  · exact .inl ⟨fits, _, dif_pos fits⟩
  · exact .inr ⟨beyond, dif_neg (Nat.not_lt.mpr beyond)⟩

namespace SignatureRecord

structure Fits (key : PublicKey) (sign text : Bytes) : Prop where
  key : key.bytes.length < UInt32.size
  both : sign.length + text.length < UInt32.size

/-- The length is that of a part, or of the two that share a buffer, and no word can tell it. -/
structure Oversized (key : PublicKey) (sign text : Bytes) (length : Nat) : Prop where
  beyond : UInt32.size ≤ length
  part : length = key.bytes.length ∨ length = sign.length ∨ length = text.length ∨
    length = sign.length + text.length

inductive CreateEnds (key : PublicKey) (sign text : Bytes) :
    Except RecordError SignatureRecord → Prop where
  | made (fits : Fits key sign text) :
      CreateEnds key sign text (.ok (.unverified key sign text))
  | oversized {length : Nat} (long : Oversized key sign text length) :
      CreateEnds key sign text (.error (.oversized length))

variable {key : PublicKey} {sign text : Bytes}

theorem Fits.not_oversized (fits : Fits key sign text) (length : Nat) :
    ¬ Oversized key sign text length := by
  rintro ⟨beyond, part⟩
  have keyFits := fits.key
  have bothFit := fits.both
  rcases part with rfl | rfl | rfl | rfl <;> omega

theorem Oversized.part_of_found {found : Option Bytes} {length : Nat}
    (long : Oversized key (found.getD []) text length) :
    length = key.bytes.length ∨ length = text.length ∨ ∃ signature, found = some signature ∧
      (length = signature.length ∨ length = signature.length + text.length) := by
  cases found with
  | none =>
    have part := long.part
    simp only [Option.getD_none, List.length_nil, Nat.zero_add, or_self] at part
    rcases part with own | empty | behind
    · exact .inl own
    · have beyond := long.beyond
      rw [empty] at beyond
      exact absurd beyond (by decide)
    · exact .inr (.inl behind)
  | some signature =>
    rcases long.part with own | ahead | behind | both
    · exact .inl own
    · exact .inr (.inr ⟨signature, rfl, .inl ahead⟩)
    · exact .inr (.inl behind)
    · exact .inr (.inr ⟨signature, rfl, .inr both⟩)

theorem create_ends (key : PublicKey) (sign text : Bytes) :
    CreateEnds key sign text (create key sign text) := by
  unfold create
  -- the lengths are looked at one after another, and the first that no word can tell is the end
  rcases addressed_cases key.bytes.length with ⟨keyFits, _, told⟩ | ⟨long, failed⟩
  case inr =>
    rw [failed]
    exact .oversized ⟨long, .inl rfl⟩
  rw [told]
  rcases addressed_cases sign.length with ⟨_, _, told⟩ | ⟨long, failed⟩
  case inr =>
    rw [failed]
    exact .oversized ⟨long, .inr (.inl rfl)⟩
  rw [told]
  rcases addressed_cases text.length with ⟨_, _, told⟩ | ⟨long, failed⟩
  case inr =>
    rw [failed]
    exact .oversized ⟨long, .inr (.inr (.inl rfl))⟩
  rw [told]
  rcases addressed_cases (sign.length + text.length) with ⟨bothFit, _, told⟩ | ⟨long, failed⟩
  case inr =>
    rw [failed]
    exact .oversized ⟨long, .inr (.inr (.inr rfl))⟩
  rw [told]
  exact .made ⟨keyFits, bothFit⟩

theorem create_of_fits (fits : Fits key sign text) :
    create key sign text = .ok (.unverified key sign text) := by
  have ends := create_ends key sign text
  generalize create key sign text = outcome at ends ⊢
  cases ends with
  | made => rfl
  | oversized long => exact absurd long (fits.not_oversized _)

end SignatureRecord

namespace RecordCreation

variable {source : SignatureSource} {message : Bytes} {leaf : PublicKey} {leaves : List PublicKey}
  {keys : List Key} {records : List SignatureRecord}

inductive LeafEnds (source : SignatureSource) (message : Bytes) (leaf : PublicKey) :
    Except RecordError (Option SignatureRecord) → Prop where
  | absent (absent : leaf.isAbsent = true) : LeafEnds source message leaf (.ok none)
  | unanswered {cause : SourceError} (present : leaf.isAbsent = false)
      (failed : source.signature? leaf.bytes = .error cause) :
      LeafEnds source message leaf (.error (.source cause))
  | oversized {found : Option Bytes} {length : Nat} (present : leaf.isAbsent = false)
      (told : source.signature? leaf.bytes = .ok found)
      (long : SignatureRecord.Oversized leaf (found.getD []) message length) :
      LeafEnds source message leaf (.error (.oversized length))
  | made {found : Option Bytes} (present : leaf.isAbsent = false)
      (told : source.signature? leaf.bytes = .ok found)
      (fits : SignatureRecord.Fits leaf (found.getD []) message) :
      LeafEnds source message leaf (.ok (some (.unverified leaf (found.getD []) message)))

theorem recordFor_ends (source : SignatureSource) (message : Bytes) (leaf : PublicKey) :
    LeafEnds source message leaf (recordFor source message leaf) := by
  unfold recordFor
  split
  · rename_i absent
    exact .absent absent
  · rename_i present
    rw [Bool.not_eq_true] at present
    cases told : source.signature? leaf.bytes with
    | error cause => exact .unanswered present told
    | ok found =>
      have ends := SignatureRecord.create_ends leaf (found.getD []) message
      change LeafEnds source message leaf (some <$> SignatureRecord.create leaf _ message)
      generalize SignatureRecord.create leaf (found.getD []) message = outcome at ends ⊢
      cases ends with
      | made fits => exact .made present told fits
      | oversized long => exact .oversized present told long

theorem recordFor_of_absent (absent : leaf.isAbsent = true) :
    recordFor source message leaf = .ok none := by
  rw [recordFor, if_pos absent]

theorem recordFor_of_error {cause : SourceError} (present : leaf.isAbsent = false)
    (failed : source.signature? leaf.bytes = .error cause) :
    recordFor source message leaf = .error (.source cause) := by
  rw [recordFor, present, failed]
  rfl

theorem recordFor_eq_some {record : SignatureRecord}
    (made : recordFor source message leaf = .ok (some record)) :
    ∃ found, source.signature? leaf.bytes = .ok found ∧
      record = .unverified leaf (found.getD []) message := by
  have ends := recordFor_ends source message leaf
  rw [made] at ends
  cases ends with
  | made _ told _ => exact ⟨_, told, rfl⟩

theorem complete_ofLeaves_cons (source : SignatureSource) (message : Bytes) (leaf : PublicKey)
    (leaves : List PublicKey) :
    (ofLeaves source message (leaf :: leaves)).complete = do
      let made ← recordFor source message leaf
      let rest ← (ofLeaves source message leaves).complete
      return made.toList ++ rest := by
  rw [ofLeaves]
  cases recordFor source message leaf with
  | error e => rfl
  | ok made =>
    simp only [complete]
    cases (ofLeaves source message leaves).failure <;> rfl

theorem mem_complete (created : (ofLeaves source message leaves).complete = .ok records)
    (record : SignatureRecord) :
    record ∈ records ↔ ∃ leaf ∈ leaves, recordFor source message leaf = .ok (some record) := by
  induction leaves generalizing records with
  | nil =>
    cases created
    simp [ofLeaves]
  | cons leaf leaves ih =>
    rw [complete_ofLeaves_cons] at created
    obtain ⟨made, own, created⟩ := bind_eq_ok_iff.mp created
    obtain ⟨rest, others, created⟩ := bind_eq_ok_iff.mp created
    cases created
    rw [List.mem_append, ih others, List.exists_mem_cons_iff, own]
    simp

theorem exists_complete_iff :
    (∃ records, (ofLeaves source message leaves).complete = .ok records) ↔
      ∀ leaf ∈ leaves, ∃ made, recordFor source message leaf = .ok made := by
  induction leaves with
  | nil => exact ⟨nofun, fun _ => ⟨[], rfl⟩⟩
  | cons leaf leaves ih =>
    rw [List.forall_mem_cons, ← ih, complete_ofLeaves_cons]
    constructor
    · rintro ⟨records, created⟩
      obtain ⟨made, own, created⟩ := bind_eq_ok_iff.mp created
      obtain ⟨rest, others, _⟩ := bind_eq_ok_iff.mp created
      exact ⟨⟨made, own⟩, rest, others⟩
    · rintro ⟨⟨made, own⟩, rest, others⟩
      rw [own, others]
      exact ⟨_, rfl⟩

theorem exists_recordFor_error {e : RecordError}
    (failed : (ofLeaves source message leaves).complete = .error e) :
    ∃ leaf ∈ leaves, recordFor source message leaf = .error e := by
  induction leaves with
  | nil => cases failed
  | cons leaf leaves ih =>
    rw [complete_ofLeaves_cons] at failed
    rw [List.exists_mem_cons_iff]
    cases own : recordFor source message leaf with
    | error cause =>
      rw [own] at failed
      cases failed
      exact .inl rfl
    | ok made =>
      cases others : (ofLeaves source message leaves).complete with
      | error cause =>
        rw [own, others] at failed
        cases failed
        exact .inr (ih others)
      | ok rest =>
        rw [own, others] at failed
        cases failed

/-- The length is that of a part of a record for a leaf of the keys, with a signature that counts
for it if there is one, and no word can tell it. -/
structure Overlong (selected : Bytes → Bytes → Prop) (message : Bytes) (keys : List Key)
    (length : Nat) : Prop where
  beyond : UInt32.size ≤ length
  part : ∃ leaf, Key.LeafAmong keys leaf ∧
    (length = leaf.bytes.length ∨ length = message.length ∨
      ∃ signature, selected leaf.bytes signature ∧
        (length = signature.length ∨ length = signature.length + message.length))

theorem Overlong.mono {selected others : Bytes → Bytes → Prop} {more : List Key} {length : Nat}
    (long : Overlong selected message keys length) (within : keys ⊆ more)
    (carried : ∀ publicKey signature, selected publicKey signature → others publicKey signature) :
    Overlong others message more length := by
  obtain ⟨beyond, leaf, among, part⟩ := long
  refine ⟨beyond, leaf, among.mono within, ?_⟩
  rcases part with own | text | ⟨signature, counts, sign⟩
  · exact .inl own
  · exact .inr (.inl text)
  · exact .inr (.inr ⟨signature, carried _ _ counts, sign⟩)

theorem not_overlong {selected : Bytes → Bytes → Prop} {bound : Nat}
    (key : ∀ leaf, Key.LeafAmong keys leaf → leaf.bytes.length < UInt32.size)
    (sign : ∀ publicKey signature, selected publicKey signature → signature.length ≤ bound)
    (both : bound + message.length < UInt32.size) (length : Nat) :
    ¬ Overlong selected message keys length := by
  rintro ⟨beyond, leaf, among, part⟩
  have keyFits := key leaf among
  rcases part with own | text | ⟨signature, counts, lengths⟩
  · omega
  · omega
  · have signFits := sign _ signature counts
    omega

theorem overlong_of_oversized {selected : Bytes → Bytes → Prop} {length : Nat}
    (gives : source.Gives selected)
    (failed : (ofKeys source message keys).complete = .error (.oversized length)) :
    Overlong selected message keys length := by
  obtain ⟨leaf, member, failed⟩ := exists_recordFor_error failed
  rw [Key.mem_flatMap_leaves_iff] at member
  have ends := recordFor_ends source message leaf
  rw [failed] at ends
  cases ends with
  | @oversized found _ _ told long =>
    refine ⟨long.beyond, leaf, member, ?_⟩
    rcases long.part_of_found with own | behind | ⟨signature, rfl, lengths⟩
    · exact .inl own
    · exact .inr (.inl behind)
    · exact .inr (.inr ⟨signature, gives leaf.bytes signature told, lengths⟩)

theorem oversized_of_error {e : RecordError} (readable : source.Readable)
    (failed : (ofKeys source message keys).complete = .error e) :
    ∃ length, e = .oversized length := by
  obtain ⟨leaf, _, failed⟩ := exists_recordFor_error failed
  have ends := recordFor_ends source message leaf
  rw [failed] at ends
  cases ends with
  | unanswered _ unanswered =>
    obtain ⟨found, told⟩ := readable.signature? leaf.bytes
    cases unanswered.symm.trans told
  | oversized => exact ⟨_, rfl⟩

theorem complete_append_of_ok {more : List Key}
    (one : ∃ records, (ofKeys source message keys).complete = .ok records)
    (two : ∃ records, (ofKeys source message more).complete = .ok records) :
    ∃ records, (ofKeys source message (keys ++ more)).complete = .ok records := by
  unfold ofKeys at one two ⊢
  rw [exists_complete_iff] at one two ⊢
  rw [List.flatMap_append, List.forall_mem_append]
  exact ⟨one, two⟩

theorem ofKeys_congr {one two : SignatureSource}
    (alike : ∀ publicKey, one.signature? publicKey = two.signature? publicKey) (message : Bytes)
    (keys : List Key) : ofKeys one message keys = ofKeys two message keys := by
  unfold ofKeys
  induction keys.flatMap Key.leaves with
  | nil => rfl
  | cons leaf leaves ih => rw [ofLeaves, ofLeaves, recordFor, recordFor, alike, ih]

end RecordCreation

end Signatory
