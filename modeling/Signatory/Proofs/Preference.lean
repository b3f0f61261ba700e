import Signatory.Proofs.Authority

/-!
Sources that prefer what verifies. Of all that a source lists for a public key the first signature
that verifies is moved to the front, and nothing else is; the scheme it has to verify under is
guessed from the length of the key. Main statement: such a source fails just where the source under
it does, a second preference adds nothing to the first, and no signature is missed: the record made
for a leaf is valid just if one of the signatures listed verifies under the scheme of the leaf,
whatever the length of its bytes.
-/
namespace Signatory

section Moves

variable {α : Type}

/-- The second list is the first, with the first of its values that has the property moved to the
front, if one has it. All other values stay in their order. -/
inductive FirstMoved (property : α → Prop) : List α → List α → Prop where
  | moved {before after : List α} {found : α} (holds : property found)
      (earlier : ∀ value ∈ before, ¬ property value) :
      FirstMoved property (before ++ found :: after) (found :: (before ++ after))
  | kept {values : List α} (fails : ∀ value ∈ values, ¬ property value) :
      FirstMoved property values values

theorem FirstMoved.again {property : α → Prop} {values moved : List α}
    (moves : FirstMoved property values moved) : FirstMoved property moved moved := by
  cases moves with
  | @moved before after found holds _ =>
    have front : ∀ value ∈ ([] : List α), ¬ property value := by simp
    exact .moved holds front
  | kept fails => exact .kept fails

theorem FirstMoved.mem_iff {property : α → Prop} {values moved : List α}
    (moves : FirstMoved property values moved) {value : α} : value ∈ moved ↔ value ∈ values := by
  cases moves with
  | moved _ _ =>
    simp only [List.mem_cons, List.mem_append]
    exact or_left_comm
  | kept _ => rfl

variable {property : α → Bool} {values moved : List α}

theorem FirstMoved.eq_promoteFirst (moves : FirstMoved (property · = true) values moved) :
    moved = promoteFirst property values := by
  rw [promoteFirst_eq]
  cases moves with
  | @moved before after found holds earlier =>
    have passed : ∀ value ∈ before, (!property value) = true := by simpa using earlier
    have dropped : (found :: after).dropWhile (!property ·) = found :: after :=
      List.dropWhile_cons_of_neg (by simpa using holds)
    have taken : (found :: after).takeWhile (!property ·) = [] :=
      List.takeWhile_cons_of_neg (by simpa using holds)
    rw [List.dropWhile_append_of_pos passed, dropped, List.takeWhile_append_of_pos passed, taken,
      List.append_nil]
    rfl
  | kept fails =>
    have passed : values.dropWhile (!property ·) = [] :=
      List.dropWhile_eq_nil_iff.mpr (by simpa using fails)
    rw [passed]

theorem firstMoved_promoteFirst (property : α → Bool) (values : List α) :
    FirstMoved (property · = true) values (promoteFirst property values) := by
  rw [promoteFirst_eq]
  cases rest : values.dropWhile (!property ·) with
  | nil =>
    have fails := List.dropWhile_eq_nil_iff.mp rest
    exact .kept (by simpa using fails)
  | cons found after =>
    have split : values.takeWhile (!property ·) ++ found :: after = values := by
      rw [← rest, List.takeWhile_append_dropWhile]
    have holds := List.head?_dropWhile_not (!property ·) values
    rw [rest] at holds
    have earlier : ∀ value ∈ values.takeWhile (!property ·), ¬ property value = true := by
      intro value member
      simpa using List.mem_takeWhile_imp member
    have moves : FirstMoved (property · = true) (values.takeWhile (!property ·) ++ found :: after)
        (found :: (values.takeWhile (!property ·) ++ after)) := .moved (by simpa using holds) earlier
    rwa [split] at moves

theorem promoteFirst_promoteFirst (property : α → Bool) (values : List α) :
    promoteFirst property (promoteFirst property values) = promoteFirst property values :=
  (firstMoved_promoteFirst property values).again.eq_promoteFirst.symm

end Moves

namespace SignatureSource

def VerifiesByKeyLength (publicKey signed signature : Bytes) : Prop :=
  ∃ scheme : Scheme, publicKey.length = scheme.keyLength ∧
    scheme.verifies publicKey signed signature = true

theorem verifiesByLength_iff (publicKey signed signature : Bytes) :
    verifiesByLength publicKey signed signature = true ↔
      VerifiesByKeyLength publicKey signed signature := by
  constructor
  · intro verified
    unfold verifiesByLength at verified
    split at verified
    · rename_i scheme told
      exact ⟨scheme, (Scheme.ofLength?_eq_some_iff _ _).mp told, verified⟩
    · cases verified
  · rintro ⟨scheme, _, verified⟩
    rw [verifiesByLength_of_verifies verified]
    exact verified

variable (source : SignatureSource) (signed publicKey : Bytes)

theorem candidates_verifying_eq :
    (verifying source signed).candidates publicKey =
      (source.candidates publicKey).map (promoteFirst (verifiesByLength publicKey signed)) := by
  rw [candidates]
  cases source.candidates publicKey <;> rfl

theorem signature?_verifying_eq :
    (verifying source signed).signature? publicKey =
      ((verifying source signed).candidates publicKey).map List.head? := by
  rw [signature?]
  cases (verifying source signed).candidates publicKey <;> rfl

theorem candidates_verifying_error_iff (cause : SourceError) :
    (verifying source signed).candidates publicKey = .error cause ↔
      source.candidates publicKey = .error cause := by
  rw [candidates_verifying_eq]
  cases source.candidates publicKey <;> simp [Except.map]

theorem exists_candidates_verifying {listed : List Bytes}
    (told : source.candidates publicKey = .ok listed) :
    ∃ preferred, (verifying source signed).candidates publicKey = .ok preferred ∧
      FirstMoved (VerifiesByKeyLength publicKey signed) listed preferred := by
  have moves := firstMoved_promoteFirst (verifiesByLength publicKey signed) listed
  simp only [verifiesByLength_iff] at moves
  refine ⟨_, ?_, moves⟩
  rw [candidates_verifying_eq, told]
  rfl

theorem candidates_verifying_of_length
    (strange : ∀ scheme : Scheme, publicKey.length ≠ scheme.keyLength) :
    (verifying source signed).candidates publicKey = source.candidates publicKey := by
  cases told : source.candidates publicKey with
  | error cause => exact (candidates_verifying_error_iff ..).mpr told
  | ok listed =>
    obtain ⟨preferred, again, moves⟩ := exists_candidates_verifying source signed publicKey told
    have fails : ∀ signature, ¬ VerifiesByKeyLength publicKey signed signature := by
      rintro signature ⟨scheme, length, _⟩
      exact strange scheme length
    cases moves with
    | moved holds _ => exact absurd holds (fails _)
    | kept _ => exact again

theorem candidates_verifying_verifying :
    (verifying (verifying source signed) signed).candidates publicKey =
      (verifying source signed).candidates publicKey := by
  rw [candidates_verifying_eq, candidates_verifying_eq]
  cases source.candidates publicKey with
  | error cause => rfl
  | ok listed => exact congrArg Except.ok (promoteFirst_promoteFirst _ listed)

theorem signature?_verifying_verifying :
    (verifying (verifying source signed) signed).signature? publicKey =
      (verifying source signed).signature? publicKey := by
  rw [signature?_verifying_eq, candidates_verifying_verifying, ← signature?_verifying_eq]

def Listed (source : SignatureSource) (publicKey signature : Bytes) : Prop :=
  ∃ listed, source.candidates publicKey = .ok listed ∧ signature ∈ listed

theorem lists_listed : source.Lists source.Listed := by
  intro publicKey listed told signature
  simp [Listed, told]

end SignatureSource

namespace RecordCreation

theorem ofKeys_simple (source : SignatureSource) (message : Bytes) (leaf : PublicKey) :
    ofKeys source message [.simple leaf] =
      match recordFor source message leaf with
      | .error e => ⟨[], some e⟩
      | .ok made => ⟨made.toList, none⟩ := by
  cases own : recordFor source message leaf <;> simp [ofKeys, Key.leaves, ofLeaves, own]

/-- What comes of a leaf that a source has these candidates for, where the records are made from the
source that prefers what verifies. A candidate that verifies is never missed: it is short itself, so
that only the message can be too long beside it. -/
inductive Prefers (listed : List Bytes) (signed : Bytes) (leaf : PublicKey) :
    RecordCreation → Prop where
  | made {record verified : SignatureRecord} (key : record.key = leaf)
      (message : record.message = signed) (checked : batchVerifier [record] = .ok [verified])
      (valid : verified.status = .valid ↔
        ∃ signature ∈ listed, leaf.scheme.verifies leaf.bytes signed signature = true) :
      Prefers listed signed leaf ⟨[record], none⟩
  | oversized {length : Nat}
      (long : Overlong (fun _ signature => signature ∈ listed) signed [.simple leaf] length)
      (missed : (∃ signature ∈ listed, leaf.scheme.verifies leaf.bytes signed signature = true) →
        UInt32.size ≤ 64 + signed.length) :
      Prefers listed signed leaf ⟨[], some (.oversized length)⟩

variable {source : SignatureSource} {leaf : PublicKey} {signed : Bytes}

theorem ofKeys_verifying_of_error (present : leaf.isAbsent = false) {cause : SourceError}
    (fails : source.candidates leaf.bytes = .error cause) :
    ofKeys (.verifying source signed) signed [.simple leaf] = ⟨[], some (.source cause)⟩ := by
  have unanswered : (SignatureSource.verifying source signed).signature? leaf.bytes =
      .error cause := by
    rw [SignatureSource.signature?_verifying_eq,
      (SignatureSource.candidates_verifying_error_iff ..).mpr fails]
    rfl
  rw [ofKeys_simple, recordFor_of_error present unanswered]

theorem message_beyond_of_verifies {signature : Bytes} {length : Nat}
    (verified : leaf.scheme.verifies leaf.bytes signed signature = true)
    (long : SignatureRecord.Oversized leaf signature signed length) :
    UInt32.size ≤ 64 + signed.length := by
  have keyLength := Scheme.length_of_verifies verified
  have signatureLength := Scheme.signatureLength_of_verifies verified
  have shortKey : leaf.scheme.keyLength < UInt32.size := by cases leaf.scheme <;> decide
  have beyond := long.beyond
  rcases long.part with own | ahead | behind | both <;> omega

theorem prefers_verifying (present : leaf.isAbsent = false) {listed : List Bytes}
    (told : source.candidates leaf.bytes = .ok listed) :
    Prefers listed signed leaf (ofKeys (.verifying source signed) signed [.simple leaf]) := by
  obtain ⟨preferred, again, moves⟩ :=
    SignatureSource.exists_candidates_verifying source signed leaf.bytes told
  have answered : (SignatureSource.verifying source signed).signature? leaf.bytes =
      .ok preferred.head? := by
    rw [SignatureSource.signature?_verifying_eq, again]
    rfl
  have valid : leaf.scheme.verifies leaf.bytes signed (preferred.head?.getD []) = true ↔
      ∃ signature ∈ listed, leaf.scheme.verifies leaf.bytes signed signature = true := by
    have serves : (SignatureSource.verifying source signed).Serves signed source.Listed :=
      source.lists_listed.serves
    rw [serves _ _ answered]
    simp [SignatureSource.Listed, told]
  have ends := recordFor_ends (.verifying source signed) signed leaf
  rw [ofKeys_simple]
  generalize recordFor _ signed leaf = outcome at ends ⊢
  cases ends with
  | absent absent => cases present.symm.trans absent
  | unanswered _ failed => cases failed.symm.trans answered
  | made _ given _ =>
    cases answered.symm.trans given
    refine .made rfl rfl (batchVerifier_eq _) ?_
    rw [SignatureRecord.verify_unverified_valid_iff, valid]
  | oversized _ given long =>
    cases answered.symm.trans given
    refine .oversized ⟨long.beyond, leaf, ⟨_, List.mem_singleton_self _, .here⟩, ?_⟩
      fun some => message_beyond_of_verifies (valid.mpr some) long
    rcases long.part_of_found with own | behind | ⟨signature, first, lengths⟩
    · exact .inl own
    · exact .inr (.inl behind)
    · exact .inr (.inr ⟨signature, moves.mem_iff.mp (List.mem_of_head? first), lengths⟩)

end RecordCreation

namespace SignatureSource

/-- A source that prefers what verifies over the signed bytes, beside the source under it, for every
public key; and the record that is made from it for a leaf of any bytes but none. -/
theorem preference_misses_nothing (source : SignatureSource) (signed : Bytes) :
    (∀ publicKey,
      (∀ cause, (verifying source signed).candidates publicKey = .error cause ↔
        source.candidates publicKey = .error cause) ∧
      (∀ listed, source.candidates publicKey = .ok listed →
        ∃ preferred, (verifying source signed).candidates publicKey = .ok preferred ∧
          FirstMoved (VerifiesByKeyLength publicKey signed) listed preferred) ∧
      ((∀ scheme : Scheme, publicKey.length ≠ scheme.keyLength) →
        (verifying source signed).candidates publicKey = source.candidates publicKey) ∧
      (verifying (verifying source signed) signed).candidates publicKey =
        (verifying source signed).candidates publicKey ∧
      (verifying (verifying source signed) signed).signature? publicKey =
        (verifying source signed).signature? publicKey) ∧
    ∀ leaf : PublicKey, leaf.isAbsent = false →
      (∀ cause, source.candidates leaf.bytes = .error cause →
        RecordCreation.ofKeys (verifying source signed) signed [.simple leaf] =
          ⟨[], some (.source cause)⟩) ∧
      ∀ listed, source.candidates leaf.bytes = .ok listed →
        RecordCreation.Prefers listed signed leaf
          (RecordCreation.ofKeys (verifying source signed) signed [.simple leaf]) := by
  constructor
  · intro publicKey
    refine ⟨candidates_verifying_error_iff source signed publicKey, ?_,
      candidates_verifying_of_length source signed publicKey,
      candidates_verifying_verifying source signed publicKey,
      signature?_verifying_verifying source signed publicKey⟩
    intro listed told
    exact exists_candidates_verifying source signed publicKey told
  · intro leaf present
    constructor
    · intro cause fails
      exact RecordCreation.ofKeys_verifying_of_error present fails
    · intro listed told
      exact RecordCreation.prefers_verifying present told

end SignatureSource

namespace Sample

def paymentPairs : SignatureSource :=
  .map (.ok [⟨[], .key .ed25519, [7]⟩, ⟨[], .key .secp256k1, paymentSignature⟩])

end Sample

namespace SignatureSource

theorem payment_preferred :
    (∃ record verified,
      RecordCreation.ofKeys (verifying Sample.paymentPairs Sample.paymentBytes) Sample.paymentBytes
        [.simple Sample.signer] = ⟨[record], none⟩ ∧
      batchVerifier [record] = .ok [verified] ∧ verified.status = .valid) ∧
    ∃ record verified,
      RecordCreation.ofKeys (verifying Sample.paymentPairs Sample.paymentBytes) Sample.paymentBytes
        [.simple ⟨.ed25519, Sample.signer.bytes⟩] = ⟨[record], none⟩ ∧
      batchVerifier [record] = .ok [verified] ∧ verified.status ≠ .valid := by
  have told : Sample.paymentPairs.candidates Sample.signer.bytes =
      .ok [[7], Sample.paymentSignature] := rfl
  have short : ∀ signature ∈ [[7], Sample.paymentSignature], signature.length ≤ 64 := by decide
  have made := (preference_misses_nothing Sample.paymentPairs Sample.paymentBytes).2
  constructor
  · have prefers := (made Sample.signer rfl).2 _ told
    generalize RecordCreation.ofKeys _ _ _ = creation at prefers ⊢
    cases prefers with
    | oversized long _ =>
      exact absurd long (Sample.not_overlong (by simp) (fun _ => short) (by decide) _)
    | made key message checked valid =>
      refine ⟨_, _, rfl, checked, valid.mpr ⟨Sample.paymentSignature, ?_, ?_⟩⟩
      · exact List.mem_cons_of_mem _ (List.mem_singleton_self _)
      · exact Sample.verifies_payment
  · have prefers := (made ⟨.ed25519, Sample.signer.bytes⟩ rfl).2 _ told
    generalize RecordCreation.ofKeys _ _ _ = creation at prefers ⊢
    cases prefers with
    | oversized long _ =>
      refine absurd long (RecordCreation.not_overlong (fun leaf among => ?_) (fun _ => short)
        (by decide) _)
      obtain ⟨key, member, occurs⟩ := among
      obtain rfl := List.mem_singleton.mp member
      cases occurs
      decide
    | made key message checked valid =>
      refine ⟨_, _, rfl, checked, fun status => ?_⟩
      obtain ⟨signature, _, verifies⟩ := valid.mp status
      exact absurd (Scheme.length_of_verifies verifies) (by decide)

end SignatureSource

end Signatory
