import Signatory.Proofs.Agreement
import Signatory.Proofs.RecordStorage

/-!
The life of stored records. Two things write to a batch: outcomes are recorded for single records,
and whole batches are verified, by any division into parts. Main statement: over every history of
both, a record keeps its key, its signature and its message, and its status is what was there first,
an outcome that was recorded for it or what its signature is worth; a verification leaves no record
of the batch open, however it is divided, and the next one changes nothing.
-/
namespace Signatory

namespace StoredRecord

inductive Arises : StoredRecord → Prop where
  | stored {key : PublicKey} {sign text : Bytes} {record : StoredRecord}
      (made : store key sign text = .ok record) : Arises record
  | settled {record : StoredRecord} (arises : Arises record) (outcome : VerificationStatus) :
      Arises (record.settle outcome).2

theorem Arises.holds {record : StoredRecord} (arises : record.Arises) :
    ∃ key sign text, record.Holds key sign text := by
  induction arises with
  | stored made => exact ⟨_, _, _, (holds_of_store made).1⟩
  | settled _ outcome ih =>
    obtain ⟨key, sign, text, holds⟩ := ih
    exact ⟨key, sign, text, holds.settle outcome⟩

theorem Arises.contents {record : StoredRecord} (arises : record.Arises) :
    record.contents = record.signature ++ record.message := by
  obtain ⟨key, sign, text, holds⟩ := arises.holds
  rw [holds.contents, holds.signature, holds.message]

def verdict (record : StoredRecord) : VerificationStatus :=
  if record.verifies then .valid else .invalid

theorem isTerminal_verdict (record : StoredRecord) : record.verdict.isTerminal = true := by
  unfold verdict
  split <;> rfl

theorem verify_eq (record : StoredRecord) :
    record.verify =
      if record.status.isTerminal then record else { record with status := record.verdict } := by
  unfold verify
  rw [settle_eq]
  split
  · rfl
  · rename_i unsettled
    have accepted : ¬ (record.status.isTerminal || !record.verdict.isTerminal) = true := by
      simp [unsettled, isTerminal_verdict]
    exact if_neg accepted

theorem isTerminal_verify (record : StoredRecord) : record.verify.status.isTerminal = true := by
  rw [verify_eq]
  split
  · assumption
  · exact record.isTerminal_verdict

theorem verify_of_isTerminal {record : StoredRecord} (settled : record.status.isTerminal = true) :
    record.verify = record := by
  rw [verify_eq, if_pos settled]

theorem verify_verify (record : StoredRecord) : record.verify.verify = record.verify :=
  verify_of_isTerminal record.isTerminal_verify

theorem getElem?_foldl_verifyAt (places : List Nat) (records : List StoredRecord) (place : Nat) :
    (places.foldl verifyAt records)[place]? =
      records[place]?.map fun record => if place ∈ places then record.verify else record := by
  induction places generalizing records with
  | nil => simp
  | cons first places ih =>
    rw [List.foldl_cons, ih, verifyAt, List.getElem?_modify]
    cases records[place]? with
    | none => rfl
    | some record =>
      by_cases here : first = place
      · subst here
        -- a place that comes up again finds its record settled
        by_cases again : first ∈ places <;> simp [again, verify_verify]
      · simp [here, Ne.symm here]

theorem verifyBatch_eq {size : Nat} (division : Division size) {records : List StoredRecord}
    (length : records.length = size) :
    verifyBatch division records = (.ok (), records.map verify) := by
  have verified : division.parts.foldl (fun records part => part.foldl verifyAt records) records =
      records.map verify := by
    rw [← List.foldl_flatten]
    apply List.ext_getElem?
    intro place
    rw [getElem?_foldl_verifyAt, List.getElem?_map]
    cases told : records[place]? with
    | none => rfl
    | some record =>
      have within : place < size := length ▸ (List.getElem?_eq_some_iff.mp told).1
      have reached : place ∈ division.parts.flatten :=
        division.once.mem_iff.mpr (List.mem_range.mpr within)
      simp [reached]
  have none_left : (records.map verify).countP (fun record => !record.status.isTerminal) = 0 := by
    simp [List.countP_eq_zero, isTerminal_verify]
  rw [verifyBatch, verified, none_left]
  rfl

end StoredRecord

inductive BatchEvent (size : Nat) where
  | outcome (place : Nat) (status : VerificationStatus)
  | verification (division : Division size)

namespace BatchEvent

variable {size : Nat}

def apply (records : List StoredRecord) : BatchEvent size → List StoredRecord
  | .outcome place status => records.modify place fun record => (record.settle status).2
  | .verification division => (StoredRecord.verifyBatch division records).2

def applyAll (records : List StoredRecord) (history : List (BatchEvent size)) :
    List StoredRecord :=
  history.foldl apply records

/-- The status that the event would give to a record at this place that has no outcome. -/
def decision (place : Nat) (record : StoredRecord) : BatchEvent size → Option VerificationStatus
  | .outcome meant status => if meant = place ∧ status.isTerminal then some status else none
  | .verification _ => some record.verdict

def step (place : Nat) (record : StoredRecord) : BatchEvent size → StoredRecord
  | .outcome meant status => if meant = place then (record.settle status).2 else record
  | .verification _ => record.verify

theorem step_eq (place : Nat) (record : StoredRecord) (event : BatchEvent size) :
    step place record event =
      if record.status.isTerminal then record
      else match decision place record event with
        | some status => { record with status := status }
        | none => record := by
  cases event with
  | outcome meant status =>
    rw [step, decision, StoredRecord.settle_eq]
    by_cases here : meant = place <;> cases settled : record.status.isTerminal <;>
      cases decides : status.isTerminal <;> simp [here]
  | verification division =>
    rw [step, StoredRecord.verify_eq]
    rfl

theorem length_apply {records : List StoredRecord} (length : records.length = size)
    (event : BatchEvent size) : (apply records event).length = size := by
  cases event with
  | outcome place status => rw [apply, List.length_modify, length]
  | verification division =>
    rw [apply, StoredRecord.verifyBatch_eq division length, List.length_map, length]

theorem getElem?_apply {records : List StoredRecord} (length : records.length = size)
    (event : BatchEvent size) (place : Nat) :
    (apply records event)[place]? = records[place]?.map fun record => step place record event := by
  cases event with
  | outcome meant status =>
    rw [apply, List.getElem?_modify]
    rfl
  | verification division =>
    rw [apply, StoredRecord.verifyBatch_eq division length, List.getElem?_map]
    rfl

theorem length_applyAll {records : List StoredRecord} (length : records.length = size)
    (history : List (BatchEvent size)) : (applyAll records history).length = size := by
  induction history generalizing records with
  | nil => exact length
  | cons event history ih => exact ih (length_apply length event)

theorem getElem?_applyAll {records : List StoredRecord} (length : records.length = size)
    (history : List (BatchEvent size)) (place : Nat) :
    (applyAll records history)[place]? =
      records[place]?.map fun record => history.foldl (step place) record := by
  induction history generalizing records with
  | nil => simp [applyAll]
  | cons event history ih =>
    have rest := ih (length_apply length event)
    rw [applyAll] at rest
    rw [applyAll, List.foldl_cons, rest, getElem?_apply length, Option.map_map]
    rfl

theorem decision_isTerminal {place : Nat} {record : StoredRecord} {event : BatchEvent size}
    {status : VerificationStatus} (decides : decision place record event = some status) :
    status.isTerminal = true := by
  cases event with
  | outcome meant told =>
    simp only [decision] at decides
    split at decides
    · rename_i both
      cases decides
      exact both.2
    · cases decides
  | verification division =>
    cases decides
    exact record.isTerminal_verdict

theorem foldl_step_of_isTerminal {place : Nat} {record : StoredRecord}
    (settled : record.status.isTerminal = true) (history : List (BatchEvent size)) :
    history.foldl (step place) record = record := by
  induction history with
  | nil => rfl
  | cons event history ih =>
    have kept : step place record event = record := by rw [step_eq, if_pos settled]
    rw [List.foldl_cons, kept, ih]

theorem foldl_step_eq {place : Nat} {record : StoredRecord}
    (unsettled : record.status.isTerminal = false) (history : List (BatchEvent size)) :
    history.foldl (step place) record =
      match history.findSome? (decision place record) with
      | some status => { record with status := status }
      | none => record := by
  induction history with
  | nil => rfl
  | cons event history ih =>
    rw [List.foldl_cons, step_eq, unsettled, List.findSome?_cons]
    cases decides : decision place record event with
    | none => exact ih
    | some status => exact foldl_step_of_isTerminal (decision_isTerminal decides) history

end BatchEvent

namespace StoredRecord

/-- What a history has made of a record, if this was the first decision about it. -/
structure LivedThrough (record later : StoredRecord) (first : Option VerificationStatus) :
    Prop where
  scheme : later.scheme = record.scheme
  publicKey : later.publicKey = record.publicKey
  signature : later.signature = record.signature
  message : later.message = record.message
  contents : later.contents = later.signature ++ later.message
  settled : record.status.isTerminal = true → later = record
  undecided : record.status = .unknown → later.status = first.getD .unknown

theorem livedThrough {size : Nat} {record : StoredRecord} (arises : record.Arises) (place : Nat)
    (history : List (BatchEvent size)) :
    record.LivedThrough (history.foldl (BatchEvent.step place) record)
      (history.findSome? (BatchEvent.decision place record)) := by
  cases status : record.status.isTerminal with
  | true =>
    rw [BatchEvent.foldl_step_of_isTerminal status]
    refine ⟨rfl, rfl, rfl, rfl, arises.contents, fun _ => rfl, ?_⟩
    intro unknown
    rw [unknown] at status
    cases status
  | false =>
    rw [BatchEvent.foldl_step_eq status]
    cases history.findSome? (BatchEvent.decision place record) with
    | none => exact ⟨rfl, rfl, rfl, rfl, arises.contents, fun _ => rfl, id⟩
    | some first =>
      refine ⟨rfl, rfl, rfl, rfl, arises.contents, ?_, fun _ => rfl⟩
      intro settled
      rw [status] at settled
      cases settled

structure BatchLivedThrough (batch : List StoredRecord) (history : List (BatchEvent batch.length))
    (later : List StoredRecord) : Prop where
  length : later.length = batch.length
  each : ∀ (place : Nat) (record : StoredRecord), batch[place]? = some record →
    ∃ after, later[place]? = some after ∧
      record.LivedThrough after (history.findSome? (BatchEvent.decision place record))
  once : ∀ before after, history = before ++ after → ∀ (place : Nat) (record : StoredRecord),
    (BatchEvent.applyAll batch before)[place]? = some record →
    record.status.isTerminal = true → later[place]? = some record
  verified : ∀ division : Division batch.length,
    verifyBatch division later = (.ok (), later.map verify)
  settled : ∀ record ∈ later.map verify, record.status.isTerminal = true
  again : ∀ division : Division batch.length,
    verifyBatch division (later.map verify) = (.ok (), later.map verify)
  records : batchVerifier (later.map record) = .ok ((later.map verify).map record)

/-- A batch of any records, after any outcomes recorded for them and any verifications. -/
theorem batch_lifecycle (batch : List StoredRecord) (arises : ∀ record ∈ batch, record.Arises)
    (history : List (BatchEvent batch.length)) :
    BatchLivedThrough batch history (BatchEvent.applyAll batch history) := by
  have length := BatchEvent.length_applyAll rfl history
  refine ⟨length, ?_, ?_, fun division => verifyBatch_eq division length, ?_, ?_, ?_⟩
  · intro place record told
    rw [BatchEvent.getElem?_applyAll rfl, told]
    have member : record ∈ batch := List.mem_of_getElem? told
    exact ⟨_, rfl, livedThrough (arises record member) place history⟩
  · intro before after split place record told settled
    have rest := BatchEvent.getElem?_applyAll (BatchEvent.length_applyAll rfl before) after place
    rw [told, Option.map_some, BatchEvent.foldl_step_of_isTerminal settled] at rest
    rw [split, BatchEvent.applyAll, List.foldl_append]
    exact rest
  · intro record member
    obtain ⟨before, _, rfl⟩ := List.mem_map.mp member
    exact before.isTerminal_verify
  · intro division
    rw [verifyBatch_eq division (by rw [List.length_map, length]), List.map_map]
    have unchanged : verify ∘ verify = verify := funext verify_verify
    rw [unchanged]
  · rw [batchVerifier_eq, List.map_map, List.map_map]
    have alike : SignatureRecord.verify ∘ record = record ∘ verify :=
      funext fun stored => stored.record_verify.symm
    rw [alike]

theorem payment_valid_once :
    ∃ stored later : StoredRecord,
      store Sample.signer Sample.paymentSignature Sample.paymentBytes = .ok stored ∧
        BatchEvent.applyAll [stored] [.outcome 0 .unknown,
          .verification (⟨[[0]], .refl _⟩ : Division 1), .outcome 0 .invalid] = [later] ∧
        later.status = .valid ∧ later.message = Sample.paymentBytes := by
  have fits : SignatureRecord.Fits Sample.signer Sample.paymentSignature Sample.paymentBytes :=
    ⟨by decide, by decide⟩
  obtain ⟨stored, made⟩ := exists_store fits
  obtain ⟨holds, status⟩ := holds_of_store made
  have arises : ∀ record ∈ [stored], record.Arises := by simpa using Arises.stored made
  have lived := batch_lifecycle [stored] arises [.outcome 0 .unknown,
    .verification (⟨[[0]], .refl _⟩ : Division 1), .outcome 0 .invalid]
  obtain ⟨later, found, told⟩ := lived.each 0 stored rfl
  have verdict : stored.verdict = .valid := by
    rw [verdict, verifies, holds.scheme, holds.publicKey, holds.message, holds.signature,
      Sample.verifies_payment]
    rfl
  refine ⟨stored, later, made, ?_, ?_, told.message.trans holds.message⟩
  · obtain ⟨only, alone⟩ := List.length_eq_one_iff.mp lived.length
    rw [alone] at found
    cases found
    exact alone
  · rw [told.undecided status]
    exact congrArg (Option.getD · .unknown) (congrArg some verdict)

end StoredRecord

end Signatory
