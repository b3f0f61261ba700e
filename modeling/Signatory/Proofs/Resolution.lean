import Mathlib
import Signatory.Proofs.Parties

/-!
What a resolution that succeeds has looked up. Main statements: the payer's keys are those of its
account; keys are required for a scheduled operation only where there is one that encodes, and a
transaction that signs a schedule requires nothing else.
-/
namespace Signatory

section Outcomes

variable {ε δ α β : Type}

theorem bind_eq_ok_iff {first : Except ε α} {next : α → Except ε β} {result : β} :
    (first >>= next) = .ok result ↔ ∃ value, first = .ok value ∧ next value = .ok result := by
  cases first <;> simp [bind, Except.bind]

theorem mapError_eq_ok_iff {outcome : Except ε α} {rename : ε → δ} {value : α} :
    outcome.mapError rename = .ok value ↔ outcome = .ok value := by
  cases outcome <;> simp [Except.mapError]

end Outcomes

/-- The operation that the transaction defers, or gives signatures for. -/
inductive TransactionBody.Schedules (ledger : Ledger) (body : TransactionBody) :
    Operation → Prop where
  | created {scheduled : Operation} {adminKey : Option Key} {payer : Option AccountId}
      {memo : String} (creates : body.operation = .createSchedule scheduled adminKey payer memo) :
      Schedules ledger body scheduled
  | kept {schedule : ScheduleId} {info : ScheduleInfo}
      (signs : body.operation = .signSchedule schedule)
      (found : ledger.schedule schedule = .ok info) : Schedules ledger body info.scheduled

namespace Resolver

variable {resolver : Resolver} {body : TransactionBody} {required : List RequiredKey}

theorem payerKeys_eq_ok_iff :
    resolver.payerKeys body = .ok required ↔
      ∃ info, resolver.ledger.account body.payer = .ok info ∧ required = [.direct info.key] := by
  rw [payerKeys_eq, bind_eq_ok_iff]
  simp only [Ledger.reporting, mapError_eq_ok_iff]
  refine exists_congr fun info => and_congr_right fun _ => ?_
  simp only [pure, Except.pure, Except.ok.injEq]
  exact eq_comm

theorem scheduledKeys_eq_ok {scheduled : Operation} {payer : AccountId}
    {schedule : Option ScheduleId}
    (resolved : resolver.scheduledKeys scheduled payer schedule = .ok required) :
    (resolver.includeScheduled = false ∧ required = []) ∨
      (resolver.includeScheduled = true ∧ (∃ message, scheduled.encode = .ok message) ∧
        ∃ keys : List Key, required = keys.map .scheduled) := by
  cases scheduled with
  | plain operation =>
    simp only [scheduledKeys] at resolved
    split at resolved
    · rename_i excluded
      cases resolved
      exact .inl ⟨by simpa using excluded, rfl⟩
    · rename_i included
      split at resolved
      · cases resolved
      · rename_i message encoded
        obtain ⟨info, _, resolved⟩ := bind_eq_ok_iff.mp resolved
        obtain ⟨keys, _, resolved⟩ := bind_eq_ok_iff.mp resolved
        cases resolved
        exact .inr ⟨by simpa using included, ⟨message, encoded⟩, info.key :: keys, rfl⟩
  | createSchedule | signSchedule | deleteSchedule => cases resolved

theorem flagged_of_scheduledKeys {scheduled : Operation} {payer : AccountId}
    {schedule : Option ScheduleId}
    (resolved : resolver.scheduledKeys scheduled payer schedule = .ok required) :
    ∀ key ∈ required, key.forScheduled = true := by
  rcases scheduledKeys_eq_ok resolved with ⟨_, rfl⟩ | ⟨_, _, keys, rfl⟩
  · simp
  · simp [RequiredKey.scheduled]

theorem otherKeys_of_createSchedule {scheduled : Operation} {adminKey : Option Key}
    {payer : Option AccountId} {memo : String}
    (creates : body.operation = .createSchedule scheduled adminKey payer memo)
    (resolved : resolver.otherKeys body = .ok required) :
    ∃ signers, resolver.scheduledKeys scheduled (payer.getD body.payer) none = .ok signers ∧
      required = adminKey.toList.map .direct ++ signers := by
  simp only [otherKeys_eq, requiredKeys, creates] at resolved
  obtain ⟨signers, scheduling, resolved⟩ := bind_eq_ok_iff.mp resolved
  cases resolved
  exact ⟨signers, scheduling, rfl⟩

theorem otherKeys_of_signSchedule {schedule : ScheduleId}
    (signs : body.operation = .signSchedule schedule)
    (resolved : resolver.otherKeys body = .ok required) :
    ∃ info, resolver.ledger.schedule schedule = .ok info ∧
      resolver.scheduledKeys info.scheduled info.payer (some schedule) = .ok required := by
  simp only [otherKeys_eq, requiredKeys, signs] at resolved
  obtain ⟨info, found, resolved⟩ := bind_eq_ok_iff.mp resolved
  exact ⟨info, mapError_eq_ok_iff.mp found, resolved⟩

theorem flagged_of_signSchedule {schedule : ScheduleId}
    (signs : body.operation = .signSchedule schedule)
    (resolved : resolver.otherKeys body = .ok required) :
    ∀ key ∈ required, key.forScheduled = true := by
  obtain ⟨_, _, scheduling⟩ := otherKeys_of_signSchedule signs resolved
  exact flagged_of_scheduledKeys scheduling

theorem not_flagged_of_ordinary (ordinary : body.operation.collectsSignatures = false)
    (resolved : resolver.otherKeys body = .ok required) :
    ∀ key ∈ required, key.forScheduled = false := by
  cases operation : body.operation with
  | plain plain =>
    simp only [otherKeys_eq, requiredKeys, operation] at resolved
    obtain ⟨keys, _, resolved⟩ := bind_eq_ok_iff.mp resolved
    cases resolved
    simp [RequiredKey.direct]
  | deleteSchedule schedule =>
    simp only [otherKeys_eq, requiredKeys, operation] at resolved
    obtain ⟨info, _, resolved⟩ := bind_eq_ok_iff.mp resolved
    split at resolved
    · cases resolved
      simp [RequiredKey.direct]
    · cases resolved
  | createSchedule | signSchedule => simp [operation, Operation.collectsSignatures] at ordinary

theorem not_flagged_of_excluded (excluded : resolver.includeScheduled = false)
    (resolved : resolver.otherKeys body = .ok required) :
    ∀ key ∈ required, key.forScheduled = false := by
  have none {scheduled payer schedule signers}
      (scheduling : resolver.scheduledKeys scheduled payer schedule = .ok signers) :
      signers = [] := by
    rcases scheduledKeys_eq_ok scheduling with ⟨_, empty⟩ | ⟨included, _⟩
    · exact empty
    · simp [excluded] at included
  cases operation : body.operation with
  | plain | deleteSchedule =>
    exact not_flagged_of_ordinary (by rw [operation]; rfl) resolved
  | createSchedule scheduled adminKey payer memo =>
    obtain ⟨signers, scheduling, rfl⟩ := otherKeys_of_createSchedule operation resolved
    simp [none scheduling, RequiredKey.direct]
  | signSchedule schedule =>
    obtain ⟨info, _, scheduling⟩ := otherKeys_of_signSchedule operation resolved
    simp [none scheduling]

theorem scheduled_encodes (included : resolver.includeScheduled = true)
    (collects : body.operation.collectsSignatures = true)
    (resolved : resolver.otherKeys body = .ok required) :
    ∃ scheduled message, body.Schedules resolver.ledger scheduled ∧
      resolver.scheduledOperation? body = .ok (some scheduled) ∧
      scheduled.encode = .ok message := by
  have encodes {scheduled payer schedule signers}
      (scheduling : resolver.scheduledKeys scheduled payer schedule = .ok signers) :
      ∃ message, scheduled.encode = .ok message := by
    rcases scheduledKeys_eq_ok scheduling with ⟨excluded, _⟩ | ⟨_, encoded, _⟩
    · simp [included] at excluded
    · exact encoded
  cases operation : body.operation with
  | plain | deleteSchedule => simp [operation, Operation.collectsSignatures] at collects
  | createSchedule scheduled adminKey payer memo =>
    obtain ⟨signers, scheduling, _⟩ := otherKeys_of_createSchedule operation resolved
    obtain ⟨message, encoded⟩ := encodes scheduling
    exact ⟨scheduled, message, .created operation, by simp [scheduledOperation?, operation],
      encoded⟩
  | signSchedule schedule =>
    obtain ⟨info, found, scheduling⟩ := otherKeys_of_signSchedule operation resolved
    obtain ⟨message, encoded⟩ := encodes scheduling
    refine ⟨info.scheduled, message, .kept operation found, ?_, encoded⟩
    simp only [scheduledOperation?, operation, found]
    rfl

end Resolver

end Signatory
