import Signatory.Proofs.LeafOrder
import Signatory.Proofs.Lookups
import Signatory.Proofs.RecordLifecycle
import Signatory.Proofs.StrongestStatus

/-!
The creation of records as a walk over leaves. One leaf after another is asked for, in depth-first
order, and the first question that has no answer ends the walk. Main statement: the records made are
those of all leaves, or of just the leaves before the one that failed, also where that one stands
inside a nested key; once they are verified every leaf has a status; and keeping them changes
nothing.
-/
namespace Signatory

namespace StoredCreation

variable {answer : Bytes → Except SourceError (Option Bytes)} {message : Bytes}

structure Answers (answer : Bytes → Except SourceError (Option Bytes)) (message : Bytes)
    (leaf : PublicKey) (found : Option Bytes) : Prop where
  told : answer leaf.bytes = .ok found
  fits : SignatureRecord.Fits leaf (found.getD []) message

def recordOf (message : Bytes) (found : PublicKey → Option Bytes) (leaf : PublicKey) :
    SignatureRecord :=
  .unverified leaf ((found leaf).getD []) message

section Leaf

variable {leaf : PublicKey}

theorem recordFor_of_absent (absent : leaf.isAbsent = true) :
    recordFor answer message leaf = .ok none := by
  rw [recordFor, if_pos absent]

theorem recordFor_of_answers {found : Option Bytes} (present : leaf.isAbsent = false)
    (answers : Answers answer message leaf found) :
    ∃ stored, recordFor answer message leaf = .ok (some stored) ∧
      stored.record = .unverified leaf (found.getD []) message := by
  obtain ⟨stored, kept⟩ := StoredRecord.exists_store answers.fits
  refine ⟨stored, ?_, StoredRecord.record_of_store kept⟩
  rw [recordFor, present, answers.told]
  simp [kept, Except.mapError, bind, Except.bind, pure, Except.pure]

theorem recordFor_of_error {cause : SourceError} (present : leaf.isAbsent = false)
    (failed : answer leaf.bytes = .error cause) :
    recordFor answer message leaf = .error (.source cause) := by
  rw [recordFor, present, failed]
  rfl

theorem publicKey_of_recordFor {made : Option StoredRecord} (present : leaf.isAbsent = false)
    (told : recordFor answer message leaf = .ok made) :
    ∃ stored, made = some stored ∧ stored.publicKey = leaf.bytes := by
  rw [recordFor, present] at told
  obtain ⟨_, _, told⟩ := bind_eq_ok_iff.mp told
  obtain ⟨stored, kept, told⟩ := bind_eq_ok_iff.mp told
  cases told
  exact ⟨stored, rfl, (StoredRecord.holds_of_store kept).1.publicKey⟩

end Leaf

theorem ofLeaves_filter (leaves : List PublicKey) :
    ofLeaves answer message (leaves.filter fun leaf => !leaf.isAbsent) =
      ofLeaves answer message leaves := by
  induction leaves with
  | nil => rfl
  | cons leaf leaves ih =>
    cases presence : leaf.isAbsent with
    | true =>
      rw [List.filter_cons_of_neg (by simp [presence]), ih, ofLeaves, recordFor_of_absent presence]
      rfl
    | false => rw [List.filter_cons_of_pos (by simp [presence]), ofLeaves, ofLeaves, ih]

theorem ofLeaves_append (before after : List PublicKey) :
    ofLeaves answer message (before ++ after) =
      match (ofLeaves answer message before).failure with
      | some _ => ofLeaves answer message before
      | none =>
        ⟨(ofLeaves answer message before).records ++ (ofLeaves answer message after).records,
          (ofLeaves answer message after).failure⟩ := by
  induction before with
  | nil => rfl
  | cons leaf before ih =>
    rw [List.cons_append, ofLeaves, ofLeaves, ih]
    cases recordFor answer message leaf with
    | error e => rfl
    | ok made =>
      cases (ofLeaves answer message before).failure with
      | some e => rfl
      | none => simp only [List.append_assoc]

theorem ofKeys_eq_flatMap (keys : List Key) :
    ofKeys answer message keys = ofLeaves answer message (keys.flatMap Key.leaves) := by
  induction keys with
  | nil => rfl
  | cons key keys ih =>
    rw [List.flatMap_cons, ofLeaves_append, ← ih]
    rfl

theorem ofKeys_eq (keys : List Key) :
    ofKeys answer message keys = ofLeaves answer message (presentLeaves keys) :=
  (ofKeys_eq_flatMap keys).trans (ofLeaves_filter _).symm

theorem ofLeaves_of_answers {leaves : List PublicKey} {found : PublicKey → Option Bytes}
    (present : ∀ leaf ∈ leaves, leaf.isAbsent = false)
    (answers : ∀ leaf ∈ leaves, Answers answer message leaf (found leaf)) :
    ∃ records, ofLeaves answer message leaves = ⟨records, none⟩ ∧
      records.map StoredRecord.record = leaves.map (recordOf message found) := by
  induction leaves with
  | nil => exact ⟨[], rfl, rfl⟩
  | cons leaf leaves ih =>
    rw [List.forall_mem_cons] at present answers
    obtain ⟨stored, made, same⟩ := recordFor_of_answers present.1 answers.1
    obtain ⟨records, rest, alike⟩ := ih present.2 answers.2
    refine ⟨stored :: records, ?_, ?_⟩
    · rw [ofLeaves, made, rest]
      rfl
    · rw [List.map_cons, List.map_cons, same, alike]
      rfl

theorem ofLeaves_of_error {leaf : PublicKey} {cause : SourceError}
    (present : leaf.isAbsent = false) (failed : answer leaf.bytes = .error cause)
    (after : List PublicKey) :
    ofLeaves answer message (leaf :: after) = ⟨[], some (.source cause)⟩ := by
  rw [ofLeaves, recordFor_of_error present failed]

theorem complete_eq_ok_iff {creation : StoredCreation} {records : List StoredRecord} :
    creation.complete = .ok records ↔ creation = ⟨records, none⟩ := by
  obtain ⟨made, failure⟩ := creation
  cases failure <;> simp [complete]

theorem exists_record {leaves : List PublicKey} {records : List StoredRecord}
    (created : ofLeaves answer message leaves = ⟨records, none⟩) {leaf : PublicKey}
    (member : leaf ∈ leaves) (present : leaf.isAbsent = false) :
    ∃ record ∈ records, record.publicKey = leaf.bytes := by
  induction leaves generalizing records with
  | nil => cases member
  | cons first leaves ih =>
    rw [ofLeaves] at created
    cases told : recordFor answer message first with
    | error e =>
      rw [told] at created
      cases created
    | ok made =>
      rw [told] at created
      obtain ⟨joined, unfailed⟩ := StoredCreation.mk.inj created
      rcases List.mem_cons.mp member with rfl | later
      · obtain ⟨stored, rfl, own⟩ := publicKey_of_recordFor present told
        exact ⟨stored, by simp [← joined], own⟩
      · have rest : ofLeaves answer message leaves =
            ⟨(ofLeaves answer message leaves).records, none⟩ := by rw [← unfailed]
        obtain ⟨record, within, own⟩ := ih rest later
        exact ⟨record, by rw [← joined]; exact List.mem_append_right _ within, own⟩

structure Keeps (stored : StoredCreation) (made : RecordCreation) : Prop where
  records : stored.records.map StoredRecord.record = made.records
  failure : stored.failure = made.failure

theorem map_recordFor (source : SignatureSource) (leaf : PublicKey) :
    (recordFor (source.signature? ·) message leaf).map (Option.map StoredRecord.record) =
      RecordCreation.recordFor source message leaf := by
  simp only [recordFor, RecordCreation.recordFor]
  split
  · rfl
  · cases source.signature? leaf.bytes with
    | error cause => rfl
    | ok found =>
      have kept := StoredRecord.map_record_store leaf (found.getD []) message
      simp only [Except.mapError, bind, Except.bind, ← kept]
      cases StoredRecord.store leaf (found.getD []) message <;> rfl

theorem keeps_ofLeaves (source : SignatureSource) (leaves : List PublicKey) :
    (ofLeaves (source.signature? ·) message leaves).Keeps
      (RecordCreation.ofLeaves source message leaves) := by
  induction leaves with
  | nil => exact ⟨rfl, rfl⟩
  | cons leaf leaves ih =>
    rw [ofLeaves, RecordCreation.ofLeaves, ← map_recordFor]
    cases recordFor (source.signature? ·) message leaf with
    | error e => exact ⟨rfl, rfl⟩
    | ok made =>
      refine ⟨?_, ih.failure⟩
      cases made with
      | none => exact ih.records
      | some stored => exact congrArg (stored.record :: ·) ih.records

end StoredCreation

namespace StoredRecord

theorem publicKey_verify (record : StoredRecord) : record.verify.publicKey = record.publicKey := by
  rw [verify_eq]
  split <;> rfl

theorem statusOf_verified {records : List StoredRecord} {record : StoredRecord}
    (member : record ∈ records) :
    ∃ status, StatusMap.statusOf (.ofRecords ((records.map verify).map StoredRecord.record))
      record.publicKey = some status ∧ status.isTerminal = true := by
  cases told : StatusMap.statusOf (.ofRecords ((records.map verify).map StoredRecord.record))
      record.publicKey with
  | none =>
    have verified : record.verify.record ∈ (records.map verify).map StoredRecord.record :=
      List.mem_map_of_mem (List.mem_map_of_mem member)
    have missing := (StatusMap.statusOf_eq_none_iff _ _).mp told _ verified
    exact absurd record.publicKey_verify missing
  | some status =>
    obtain ⟨_, within, _, rfl⟩ := (StatusMap.strongest_of_statusOf told).reached
    obtain ⟨_, among, rfl⟩ := List.mem_map.mp within
    obtain ⟨stored, _, rfl⟩ := List.mem_map.mp among
    exact ⟨_, rfl, stored.isTerminal_verify⟩

end StoredRecord

namespace StoredCreation

/-- The creation over these leaves, in this order: all of them answered, one of them refused, and
what is known of them in the end. -/
structure Traverses (answer : Bytes → Except SourceError (Option Bytes)) (message : Bytes)
    (keys : List Key) (leaves : List PublicKey) : Prop where
  answered : ∀ found : PublicKey → Option Bytes,
    (∀ leaf ∈ leaves, Answers answer message leaf (found leaf)) →
      ∃ records, ofKeys answer message keys = ⟨records, none⟩ ∧
        (ofKeys answer message keys).complete = .ok records ∧
        records.map StoredRecord.record = leaves.map (recordOf message found)
  stopped : ∀ (found : PublicKey → Option Bytes) before leaf after cause,
    leaves = before ++ leaf :: after →
    (∀ earlier ∈ before, Answers answer message earlier (found earlier)) →
    answer leaf.bytes = .error cause →
      ∃ records, ofKeys answer message keys = ⟨records, some (.source cause)⟩ ∧
        (ofKeys answer message keys).complete = .error (.source cause) ∧
        records.map StoredRecord.record = before.map (recordOf message found)
  statuses : ∀ records, (ofKeys answer message keys).complete = .ok records →
    ∀ division : Division records.length,
      ∃ verified, StoredRecord.verifyBatch division records = (.ok (), verified) ∧
        ∀ path leaf, presentLeafOf? keys path = some leaf →
          ∃ status, StatusMap.statusOf (.ofRecords (verified.map StoredRecord.record)) leaf.bytes =
            some status ∧ status.isTerminal = true

/-- The leaves in depth-first order are one list for all keys, and the creation goes through it,
whatever answers for them. Of a source it keeps just what is made with it. -/
theorem creation_traverses_leaves (message : Bytes) (keys : List Key) :
    (∃ leaves, DepthFirst (presentLeafOf? keys) leaves) ∧
      ∀ leaves, DepthFirst (presentLeafOf? keys) leaves →
        (∀ answer, Traverses answer message keys leaves) ∧
        ∀ source : SignatureSource, (ofKeys (source.signature? ·) message keys).Keeps
          (RecordCreation.ofKeys source message keys) := by
  have order := depthFirst_presentLeaves keys
  refine ⟨⟨_, order⟩, ?_⟩
  intro leaves given
  have same : leaves = presentLeaves keys := given.unique order
  have present : ∀ leaf ∈ leaves, leaf.isAbsent = false := by
    intro leaf member
    rw [same] at member
    simpa using (List.mem_filter.mp member).2
  constructor
  · intro answer
    refine ⟨?_, ?_, ?_⟩
    · intro found answers
      obtain ⟨records, made, alike⟩ := ofLeaves_of_answers present answers
      have walked : ofKeys answer message keys = ⟨records, none⟩ := by rw [ofKeys_eq, ← same, made]
      exact ⟨records, walked, complete_eq_ok_iff.mpr walked, alike⟩
    · intro found before leaf after cause split answers failed
      rw [split, List.forall_mem_append, List.forall_mem_cons] at present
      obtain ⟨records, made, alike⟩ := ofLeaves_of_answers present.1 answers
      have walked : ofKeys answer message keys =
          ⟨records, some (.source cause)⟩ := by
        rw [ofKeys_eq, ← same, split, ofLeaves_append, made,
          ofLeaves_of_error present.2.1 failed, List.append_nil]
      exact ⟨records, walked, by rw [walked, complete], alike⟩
    · intro records created division
      refine ⟨_, StoredRecord.verifyBatch_eq division rfl, ?_⟩
      intro path leaf found
      have member : leaf ∈ leaves := (given.mem_iff leaf).mpr ⟨path, found⟩
      rw [complete_eq_ok_iff, ofKeys_eq, ← same] at created
      obtain ⟨record, within, own⟩ := exists_record created member (present leaf member)
      rw [← own]
      exact StoredRecord.statusOf_verified within
  · intro source
    rw [ofKeys_eq_flatMap, RecordCreation.ofKeys]
    exact keeps_ofLeaves source _

end StoredCreation

namespace Sample

def nested : Key :=
  .list [.simple ⟨.ed25519, [1]⟩,
    .threshold ⟨3, by decide⟩
      [.contract ⟨0, 0, 5⟩, .simple ⟨.ed25519, []⟩, .simple ⟨.secp256k1, [9]⟩],
    .simple ⟨.ed25519, [1]⟩]

end Sample

namespace StoredCreation

theorem nested_walk_stops :
    ∃ records,
      ofKeys ((Sample.layered (.map (.error Sample.brokenMap))).signature? ·) [7] [Sample.nested] =
        ⟨records, some (.source Sample.brokenMap)⟩ ∧
      records.map StoredRecord.record = [.unverified ⟨.ed25519, [1]⟩ [161] [7]] := by
  have order : DepthFirst (presentLeafOf? [Sample.nested])
      [⟨.ed25519, [1]⟩, ⟨.secp256k1, [9]⟩, ⟨.ed25519, [1]⟩] :=
    depthFirst_presentLeaves [Sample.nested]
  have walk := ((creation_traverses_leaves [7] [Sample.nested]).2 _ order).1
    ((Sample.layered (.map (.error Sample.brokenMap))).signature? ·)
  have stops := walk.stopped (fun _ => some [161]) [⟨.ed25519, [1]⟩] ⟨.secp256k1, [9]⟩
    [⟨.ed25519, [1]⟩] Sample.brokenMap rfl
  have answers : Answers ((Sample.layered (.map (.error Sample.brokenMap))).signature? ·) [7]
      ⟨.ed25519, [1]⟩ (some [161]) := ⟨rfl, by decide, by decide⟩
  obtain ⟨records, walked, _, alike⟩ := stops (List.forall_mem_singleton.mpr answers) rfl
  exact ⟨records, walked, alike⟩

end StoredCreation

end Signatory
