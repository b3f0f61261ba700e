import Signatory.Proofs.Creation

/-!
From required keys to statuses: records are made for the leaves that are there, each is verified
under the scheme of its leaf, and the statuses forget the schemes again. Main statement: after
verification a public key is valid just if a leaf with its bytes, of whichever scheme, vouches for
it; nothing is lost or invented on the way.
-/
namespace Signatory

/-- A leaf of these bytes has a signature that counts and that verifies under its scheme. -/
def Vouched (selected : Bytes → Bytes → Prop) (signed : Bytes) (keys : List Key)
    (publicKey : Bytes) : Prop :=
  ∃ leaf, Key.LeafAmong keys leaf ∧ leaf.bytes = publicKey ∧
    ∃ signature, selected publicKey signature ∧
      leaf.scheme.verifies publicKey signed signature = true

theorem PublicKey.not_isAbsent_of_verifies {leaf : PublicKey} {signed signature : Bytes}
    (verified : leaf.scheme.verifies leaf.bytes signed signature = true) :
    leaf.isAbsent = false := by
  have length := Scheme.length_of_verifies verified
  unfold isAbsent
  cases bytes : leaf.bytes with
  | nil =>
    rw [bytes] at length
    cases scheme : leaf.scheme <;> simp [scheme, Scheme.keyLength] at length
  | cons b rest => rfl

theorem VerificationStatus.stronger_eq_valid_iff (a b : VerificationStatus) :
    a.stronger b = .valid ↔ a = .valid ∨ b = .valid := by
  cases a <;> cases b <;> decide

namespace StatusMap

theorem raise_valid_iff (statuses : StatusMap) (record : SignatureRecord) (publicKey : Bytes) :
    statusOf (raise statuses record.key.bytes record.status) publicKey = some .valid ↔
      statusOf statuses publicKey = some .valid ∨
        (record.key.bytes = publicKey ∧ record.status = .valid) := by
  rw [statusOf_raise]
  by_cases same : record.key.bytes = publicKey
  · subst same
    cases known : statusOf statuses record.key.bytes <;>
      simp [VerificationStatus.stronger_eq_valid_iff]
  · simp [same]

theorem statusOf_ofRecords_valid_iff (records : List SignatureRecord) (publicKey : Bytes) :
    statusOf (ofRecords records) publicKey = some .valid ↔
      ∃ record ∈ records, record.key.bytes = publicKey ∧ record.status = .valid := by
  have fold : ∀ statuses : StatusMap,
      statusOf (records.foldl (fun map record => raise map record.key.bytes record.status) statuses)
          publicKey = some .valid ↔
        statusOf statuses publicKey = some .valid ∨
          ∃ record ∈ records, record.key.bytes = publicKey ∧ record.status = .valid := by
    induction records with
    | nil => simp
    | cons record records ih =>
      intro statuses
      rw [List.foldl_cons, ih, raise_valid_iff]
      simp only [List.exists_mem_cons_iff, or_assoc]
  rw [ofRecords, fold []]
  simp [statusOf]

end StatusMap

namespace SignatureRecord

theorem verify_unverified_valid_iff (key : PublicKey) (signature message : Bytes) :
    (unverified key signature message).verify.status = .valid ↔
      key.scheme.verifies key.bytes message signature = true := by
  cases verified : key.scheme.verifies key.bytes message signature <;>
    simp [verify, unverified, settle, accepts, verifies, verified, VerificationStatus.isTerminal]

theorem key_settle (record : SignatureRecord) (outcome : VerificationStatus) :
    (record.settle outcome).key = record.key := by
  unfold settle
  split <;> rfl

theorem key_verify (record : SignatureRecord) : record.verify.key = record.key := by
  unfold verify
  split
  · rfl
  · exact key_settle record _

end SignatureRecord

namespace RecordCreation

variable {source : SignatureSource} {message : Bytes} {records : List SignatureRecord}

theorem statusOf_verified {selected : Bytes → Bytes → Prop} {keys : List Key}
    (serves : source.Serves message selected)
    (created : (ofKeys source message keys).complete = .ok records) (publicKey : Bytes) :
    StatusMap.statusOf (.ofRecords (records.map SignatureRecord.verify)) publicKey = some .valid ↔
      Vouched selected message keys publicKey := by
  rw [StatusMap.statusOf_ofRecords_valid_iff]
  constructor
  · rintro ⟨verified, member, same, valid⟩
    obtain ⟨record, made, rfl⟩ := List.mem_map.mp member
    obtain ⟨leaf, required, own⟩ := (mem_complete created record).mp made
    obtain ⟨found, answered, rfl⟩ := recordFor_eq_some own
    rw [SignatureRecord.key_verify] at same
    rw [SignatureRecord.verify_unverified_valid_iff] at valid
    subst same
    exact ⟨leaf, (Key.mem_flatMap_leaves_iff keys leaf).mp required, rfl,
      (serves leaf.bytes found answered leaf.scheme).mp valid⟩
  · rintro ⟨leaf, required, rfl, vouched⟩
    have present : leaf.isAbsent = false := by
      obtain ⟨_, _, verified⟩ := vouched
      exact PublicKey.not_isAbsent_of_verifies verified
    rw [← Key.mem_flatMap_leaves_iff] at required
    obtain ⟨made, own⟩ := exists_complete_iff.mp ⟨records, created⟩ leaf required
    have ends := recordFor_ends source message leaf
    rw [own] at ends
    cases ends with
    | absent absent => simp [present] at absent
    | @made found _ answered _ =>
      refine ⟨_, List.mem_map_of_mem ((mem_complete created _).mpr ⟨leaf, required, own⟩), ?_, ?_⟩
      · rw [SignatureRecord.key_verify]
        rfl
      · rw [SignatureRecord.verify_unverified_valid_iff]
        exact (serves leaf.bytes found answered leaf.scheme).mpr vouched

theorem allActive_verified {selected : Bytes → Bytes → Prop} {keys : List Key}
    (serves : source.Serves message selected)
    (created : (ofKeys source message keys).complete = .ok records) :
    allActive keys (.ofRecords (records.map SignatureRecord.verify)) = true ↔
      ∀ key ∈ keys, key.Satisfied fun leaf => Vouched selected message keys leaf.bytes := by
  simp only [allActive_iff, statusOf_verified serves created]

end RecordCreation

end Signatory
