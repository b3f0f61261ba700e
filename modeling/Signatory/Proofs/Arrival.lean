import Signatory.Proofs.Signatories
import Signatory.Proofs.Wire.Lengths

/-!
What arrives is what was sent. A client signs the bytes of a body and sends them in an envelope; the
checks are made on the body read from those bytes, on the bytes themselves, and on lists of
signatures for each public key. Main statement: an envelope that is written is accepted just if its
body is read, and keeps both parts as they are; and if it was made of a body and a map, the body is
that body and every lookup in every view answers from that map.
-/
namespace Signatory

namespace SignatureSource

/-- Each question about a public key is answered from its list: with the whole of it, or with the
first that is in it. -/
def AnswersFrom (source : SignatureSource) (listed : Bytes → List Bytes) : Prop :=
  ∀ publicKey, source.candidates publicKey = .ok (listed publicKey) ∧
    source.signature? publicKey = .ok (listed publicKey).head?

variable {source first second : SignatureSource} {listed more : Bytes → List Bytes}

theorem answersFrom_map (pairs : SignatureMap) : (map (.ok pairs)).AnswersFrom pairs.matching := by
  intro publicKey
  constructor
  · rfl
  · rw [SignatureMap.matching, List.head?_filterMap]
    rfl

theorem answersFrom_accumulated (signatures : Table Bytes Bytes) :
    (accumulated signatures).AnswersFrom fun publicKey =>
      (Table.find? signatures publicKey).toList := by
  intro publicKey
  constructor
  · rfl
  · rw [Option.head?_toList]
    rfl

theorem AnswersFrom.chained (one : first.AnswersFrom listed) (two : second.AnswersFrom more) :
    (chained first second).AnswersFrom fun publicKey => listed publicKey ++ more publicKey := by
  intro publicKey
  obtain ⟨ahead, given⟩ := one publicKey
  obtain ⟨behind, other⟩ := two publicKey
  constructor
  · simp only [candidates, ahead, behind]
    rfl
  · simp only [signature?, given, other]
    cases listed publicKey <;> rfl

theorem AnswersFrom.verifying (answers : source.AnswersFrom listed) (signed : Bytes) :
    (verifying source signed).AnswersFrom fun publicKey =>
      promoteFirst (verifiesByLength publicKey signed) (listed publicKey) := by
  intro publicKey
  have told : (SignatureSource.verifying source signed).candidates publicKey =
      .ok (promoteFirst (verifiesByLength publicKey signed) (listed publicKey)) := by
    simp only [candidates, (answers publicKey).1]
    rfl
  constructor
  · exact told
  · simp only [signature?, told]
    rfl

end SignatureSource

def Operation.kept (operation : Operation) (collected : CollectedSignatures) (publicKey : Bytes) :
    List Bytes :=
  match operation with
  | .signSchedule schedule => (Table.find? (collected schedule) publicKey).toList
  | .plain _ | .createSchedule .. | .deleteSchedule _ => []

namespace SignatureViews

/-- Every lookup answers from the map: with what fits the public key, in order of submission. If the
operation collects signatures, what verifies over the signed bytes comes first, and others than the
payer find behind the map what is kept for them. -/
structure AnswerFrom (views : SignatureViews) (operation : Operation) (signed : Bytes)
    (pairs : SignatureMap) (kept : Bytes → List Bytes) : Prop where
  ordinary : operation.collectsSignatures = false →
    views.payer.AnswersFrom pairs.matching ∧ views.others.AnswersFrom pairs.matching ∧
      views.all.AnswersFrom pairs.matching
  collecting : operation.collectsSignatures = true →
    let prefer publicKey := promoteFirst (SignatureSource.verifiesByLength publicKey signed)
    let payer publicKey := prefer publicKey (pairs.matching publicKey)
    let others publicKey := prefer publicKey (pairs.matching publicKey ++ kept publicKey)
    views.payer.AnswersFrom payer ∧ views.others.AnswersFrom others ∧
      views.all.AnswersFrom fun publicKey => payer publicKey ++ others publicKey

variable {transaction : AcceptedTransaction} {pairs : SignatureMap}

theorem answerFrom_ofMap (read : SignatureMap.decode transaction.envelope.signatureMap = .ok pairs)
    (ordinary : transaction.body.operation.collectsSignatures = false) (kept : Bytes → List Bytes) :
    (ofMap transaction).AnswerFrom transaction.body.operation transaction.signedBytes pairs
      kept := by
  have answers := SignatureSource.answersFrom_map pairs
  rw [← AcceptedTransaction.signatureMap_of_read read] at answers
  constructor
  · intro _
    exact ⟨answers, answers, answers⟩
  · intro collects
    rw [ordinary] at collects
    cases collects

theorem answerFrom_ofSchedule
    (read : SignatureMap.decode transaction.envelope.signatureMap = .ok pairs)
    (collects : transaction.body.operation.collectsSignatures = true)
    (stored : Table Bytes Bytes) :
    (ofSchedule transaction stored).AnswerFrom transaction.body.operation transaction.signedBytes
      pairs fun publicKey => (Table.find? stored publicKey).toList := by
  have answers := SignatureSource.answersFrom_map pairs
  rw [← AcceptedTransaction.signatureMap_of_read read] at answers
  have payer := answers.verifying transaction.signedBytes
  have others := (answers.chained (SignatureSource.answersFrom_accumulated stored)).verifying
    transaction.signedBytes
  constructor
  · intro ordinary
    rw [collects] at ordinary
    cases ordinary
  · intro _
    exact ⟨payer, others, payer.chained others⟩

theorem answerFrom_of (read : SignatureMap.decode transaction.envelope.signatureMap = .ok pairs)
    (collected : CollectedSignatures) :
    (SignatureViews.of transaction collected).AnswerFrom transaction.body.operation
      transaction.signedBytes pairs (transaction.body.operation.kept collected) := by
  unfold SignatureViews.of
  split
  · rename_i collects
    have schedule := answerFrom_ofSchedule read collects
    unfold ofCollected
    cases operation : transaction.body.operation <;> rw [operation] at schedule
    case signSchedule => exact schedule _
    all_goals exact schedule []
  · rename_i ordinary
    exact answerFrom_ofMap read (by simpa using ordinary) _

theorem answerFrom_uncollected
    (read : SignatureMap.decode transaction.envelope.signatureMap = .ok pairs) :
    (uncollected transaction).AnswerFrom transaction.body.operation transaction.signedBytes pairs
      fun _ => [] := by
  unfold uncollected
  split
  · rename_i collects
    exact answerFrom_ofSchedule read collects []
  · rename_i ordinary
    exact answerFrom_ofMap read (by simpa using ordinary) _

end SignatureViews

namespace Sample

def approvalPairs : SignatureMap := [⟨[1], .key .ed25519, [3]⟩]

def approvalEnvelope : Envelope := ⟨(approval []).body.wire, SignatureMap.wire approvalPairs⟩

def freezeCollected : CollectedSignatures := fun schedule =>
  if schedule = ⟨0, 0, 9⟩ then [([1], [2])] else []

end Sample

namespace AcceptedTransaction

variable {envelope : Envelope} {bytes : Bytes} {transaction : AcceptedTransaction}

theorem ofEnvelope_eq_error_iff {e : TransactionError} :
    ofEnvelope envelope = .error e ↔ TransactionBody.decode envelope.body = .error e := by
  unfold ofEnvelope
  split <;> simp [*]

theorem ofEnvelope_eq_ok_iff :
    ofEnvelope envelope = .ok transaction ↔ transaction.envelope = envelope := by
  unfold ofEnvelope
  constructor
  · intro accepted
    split at accepted
    · cases accepted
      rfl
    · cases accepted
  · rintro rfl
    obtain ⟨envelope, body, read⟩ := transaction
    split
    · rename_i found again
      have same : found = body := Except.ok.inj (again.symm.trans read)
      subst same
      rfl
    · rename_i failed
      rw [read] at failed
      cases failed

theorem ofBytes_of_encode (encoded : envelope.encode = .ok bytes) :
    ofBytes bytes = ofEnvelope envelope := by
  obtain ⟨rfl, short⟩ := Wire.mapError_bounded_eq_ok encoded
  have arrived := Envelope.decode_wire (Nat.lt_of_le_of_lt short (by decide))
  rw [ofBytes, arrived]
  rfl

theorem ofBytes_eq_ok_iff (encoded : envelope.encode = .ok bytes) :
    ofBytes bytes = .ok transaction ↔ transaction.envelope = envelope := by
  rw [ofBytes_of_encode encoded, ofEnvelope_eq_ok_iff]

theorem exists_arrival {body : TransactionBody} {pairs : SignatureMap}
    (schedules : body.operation.scheduleLevels ≤ Operation.maxScheduleNesting)
    (shallow : Key.greatestDepth body.operation.embeddedKeys ≤ Key.maxDepth)
    (made : Envelope.ofParts body pairs = .ok envelope) (encoded : envelope.encode = .ok bytes) :
    ∃ transaction, ofBytes bytes = .ok transaction ∧ transaction.body = body ∧
      body.encode = .ok transaction.signedBytes ∧
      SignatureMap.decode transaction.envelope.signatureMap = .ok pairs := by
  obtain ⟨short, few, same⟩ := Envelope.ofParts_eq_ok_iff.mp made
  have read : TransactionBody.decode envelope.body = .ok body := by
    rw [same]
    exact TransactionBody.decode_wire_of_limits (Nat.lt_of_le_of_lt short (by decide)) schedules
      shallow
  have written : body.encode = .ok envelope.body := by
    rw [same, TransactionBody.encode, Wire.mapError_bounded, if_pos short]
  have listed : SignatureMap.decode envelope.signatureMap = .ok pairs := by
    rw [same]
    exact SignatureMap.decode_wire (Nat.lt_of_le_of_lt few (by decide))
  exact ⟨⟨envelope, body, read⟩, (ofBytes_eq_ok_iff encoded).mpr rfl, rfl, written, listed⟩

/-- The parts of the envelope may be any bytes, so the body may be spelled as it is never written
and the map may be none. What is made of a body within the limits of nesting and of a map arrives. -/
theorem signed_bytes_checked :
    (∀ (envelope : Envelope) (bytes : Bytes), envelope.encode = .ok bytes →
      (∀ e, ofBytes bytes = .error e ↔ TransactionBody.decode envelope.body = .error e) ∧
      ∀ body, TransactionBody.decode envelope.body = .ok body ↔
        ∃ transaction, ofBytes bytes = .ok transaction ∧
          transaction.signedBytes = envelope.body ∧
          transaction.envelope.signatureMap = envelope.signatureMap ∧ transaction.body = body) ∧
    ∀ (body : TransactionBody) (pairs : SignatureMap) (envelope : Envelope) (bytes : Bytes),
      body.operation.scheduleLevels ≤ 2 → Key.greatestDepth body.operation.embeddedKeys ≤ 15 →
      Envelope.ofParts body pairs = .ok envelope → envelope.encode = .ok bytes →
      ∃ transaction, ofBytes bytes = .ok transaction ∧ transaction.body = body ∧
        body.encode = .ok transaction.signedBytes ∧
        transaction.signatureMap.AnswersFrom pairs.matching ∧
        (SignatureViews.uncollected transaction).AnswerFrom body.operation transaction.signedBytes
          pairs (fun _ => []) ∧
        ∀ collected, (SignatureViews.of transaction collected).AnswerFrom body.operation
          transaction.signedBytes pairs (body.operation.kept collected) := by
  constructor
  · intro envelope bytes encoded
    constructor
    · intro e
      rw [ofBytes_of_encode encoded, ofEnvelope_eq_error_iff]
    · intro body
      constructor
      · intro read
        exact ⟨⟨envelope, body, read⟩, (ofBytes_eq_ok_iff encoded).mpr rfl, rfl, rfl, rfl⟩
      · rintro ⟨transaction, accepted, signed, _, rfl⟩
        rw [← signed]
        exact transaction.body_read
  · intro body pairs envelope bytes schedules keys made encoded
    obtain ⟨transaction, accepted, rfl, written, listed⟩ :=
      exists_arrival schedules keys made encoded
    refine ⟨transaction, accepted, rfl, written, ?_, ?_, ?_⟩
    · rw [signatureMap_of_read listed]
      exact SignatureSource.answersFrom_map pairs
    · exact SignatureViews.answerFrom_uncollected listed
    · intro collected
      exact SignatureViews.answerFrom_of listed collected

theorem approval_signed_and_checked :
    (∃ bytes transaction, Envelope.encode ⟨Sample.guardedTopicBytes, [7]⟩ = .ok bytes ∧
      ofBytes bytes = .ok transaction ∧ transaction.signedBytes = Sample.guardedTopicBytes ∧
      transaction.envelope.signatureMap = [7]) ∧
    ∃ bytes transaction, Sample.approvalEnvelope.encode = .ok bytes ∧
      ofBytes bytes = .ok transaction ∧ transaction.body = (Sample.approval []).body ∧
      (SignatureViews.of transaction Sample.freezeCollected).AnswerFrom (.signSchedule ⟨0, 0, 9⟩)
        transaction.signedBytes Sample.approvalPairs fun publicKey =>
          (Table.find? [([1], [2])] publicKey).toList := by
  constructor
  · have encoded : Envelope.encode ⟨Sample.guardedTopicBytes, [7]⟩ =
        .ok (Envelope.wire ⟨Sample.guardedTopicBytes, [7]⟩) := rfl
    obtain ⟨transaction, accepted, signed, kept, _⟩ :=
      ((signed_bytes_checked.1 _ _ encoded).2 _).mp TransactionBody.decode_guardedTopicBytes
    exact ⟨_, transaction, encoded, accepted, signed, kept⟩
  · have made : Envelope.ofParts (Sample.approval []).body Sample.approvalPairs =
        .ok Sample.approvalEnvelope := rfl
    have encoded : Sample.approvalEnvelope.encode = .ok Sample.approvalEnvelope.wire :=
      (Wire.mapError_bounded ..).trans (if_pos (by decide))
    obtain ⟨transaction, accepted, same, _, _, _, answer⟩ :=
      signed_bytes_checked.2 _ _ _ _ (by decide) (by decide) made encoded
    exact ⟨_, transaction, encoded, accepted, same, answer Sample.freezeCollected⟩

end AcceptedTransaction

end Signatory
