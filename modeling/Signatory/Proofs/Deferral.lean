import Signatory.Proofs.SigningTable

/-!
Operations that are deferred. A transaction that creates a schedule or signs one asks for the
parties of the scheduled operation too. Main statement: they are the payer of that operation and,
behind it, the parties that the operation has when it is submitted directly, in the same order and
each marked as asked for on its behalf; where they cannot be told the report is that of the payer's
account, or else the one that the operation has when it is submitted directly.
-/
namespace Signatory

/-- The transaction defers the operation, which `payer` pays for and which is kept under `schedule`
if it is kept already. On its own behalf it asks for `adminKey`. -/
inductive TransactionBody.Defers (ledger : Ledger) (body : TransactionBody) :
    (scheduled : Operation) → (payer : AccountId) → (adminKey : Option Key) →
      (schedule : Option ScheduleId) → Prop where
  | creates {scheduled : Operation} {adminKey : Option Key} {payer : Option AccountId}
      {memo : String} (creates : body.operation = .createSchedule scheduled adminKey payer memo) :
      Defers ledger body scheduled (payer.getD body.payer) adminKey none
  | signs {schedule : ScheduleId} {info : ScheduleInfo}
      (signs : body.operation = .signSchedule schedule)
      (found : ledger.schedule schedule = .ok info) :
      Defers ledger body info.scheduled info.payer none (some schedule)

def RequiredKey.deferred (required : RequiredKey) : RequiredKey := .scheduled required.key

theorem RequiredKey.map_deferred_direct (keys : List Key) :
    (keys.map direct).map deferred = keys.map scheduled := by
  rw [List.map_map]
  rfl

theorem Ledger.partyAccount_of_error {ledger : Ledger} {id : AccountId} {failure : LookupFailure}
    (lost : ledger.account id = .error failure) :
    ledger.partyAccount id = .error
      ⟨if failure = .notFound then .missingAccount else .invalidAccount, some id.entity⟩ := by
  rw [partyAccount, lost]
  cases failure <;> rfl

namespace Resolver

variable {resolver : Resolver} {body inner : TransactionBody} {scheduled : Operation}
  {payer : AccountId} {adminKey : Option Key} {schedule : Option ScheduleId}

theorem otherKeys_of_defers
    (defers : body.Defers resolver.ledger scheduled payer adminKey schedule) :
    resolver.otherKeys body =
      (adminKey.toList.map .direct ++ ·) <$> resolver.scheduledKeys scheduled payer schedule := by
  cases defers with
  | creates creates =>
    simp only [otherKeys_eq, requiredKeys, creates]
    rfl
  | @signs schedule info signs found =>
    have known : resolver.ledger.partySchedule schedule = .ok info := mapError_eq_ok_iff.mpr found
    have alone : resolver.otherKeys body =
        resolver.scheduledKeys info.scheduled info.payer (some schedule) := by
      simp only [otherKeys_eq, requiredKeys, signs, known]
      rfl
    rw [alone]
    cases resolver.scheduledKeys info.scheduled info.payer (some schedule) <;> rfl

theorem scheduledKeys_of_unschedulable
    (unschedulable : scheduled.isSchedulable = false) (payer : AccountId)
    (schedule : Option ScheduleId) :
    resolver.scheduledKeys scheduled payer schedule = .error ⟨.unschedulableTransaction, none⟩ := by
  cases scheduled with
  | plain => cases unschedulable
  | createSchedule | signSchedule | deleteSchedule => rfl

theorem scheduledKeys_of_excluded (excluded : resolver.includeScheduled = false)
    (operation : PlainOperation) (payer : AccountId) (schedule : Option ScheduleId) :
    resolver.scheduledKeys (.plain operation) payer schedule = .ok [] := by
  simp [scheduledKeys, excluded]

theorem scheduledKeys_eq_direct (included : resolver.includeScheduled = true)
    (schedulable : scheduled.isSchedulable = true) {message : Bytes}
    (encoded : scheduled.encode = .ok message) (direct : inner.operation = scheduled)
    (payer : AccountId) (schedule : Option ScheduleId) :
    resolver.scheduledKeys scheduled payer schedule = do
      let info ← resolver.ledger.partyAccount payer
      let required ← resolver.otherKeys inner
      return .scheduled info.key :: required.map RequiredKey.deferred := by
  cases scheduled with
  | createSchedule | signSchedule | deleteSchedule => cases schedulable
  | plain operation =>
    simp only [scheduledKeys, included, encoded, otherKeys_eq, requiredKeys, direct]
    cases resolver.ledger.partyAccount payer with
    | error e => rfl
    | ok info =>
      cases operation.partyKeys resolver.ledger with
      | error e => rfl
      | ok parties =>
        have marked := RequiredKey.map_deferred_direct parties
        simp only [Bool.not_true, Bool.false_eq_true, ↓reduceIte, bind, Except.bind, pure,
          Except.pure, List.map_cons, marked]

/-- `inner` may be submitted by anyone, the payer of the scheduled operation among them. -/
theorem deferred_as_direct (resolver : Resolver) (body inner : TransactionBody)
    (scheduled : Operation) (payer : AccountId) (adminKey : Option Key)
    (schedule : Option ScheduleId) (message : Bytes)
    (included : resolver.includeScheduled = true)
    (defers : body.Defers resolver.ledger scheduled payer adminKey schedule)
    (schedulable : scheduled.isSchedulable = true) (encoded : scheduled.encode = .ok message)
    (direct : inner.operation = scheduled) :
    (∀ failure, resolver.ledger.account payer = .error failure →
      resolver.otherKeys body = .error
        ⟨if failure = .notFound then .missingAccount else .invalidAccount, some payer.entity⟩) ∧
    ∀ info, resolver.ledger.account payer = .ok info →
      (∀ e, resolver.otherKeys inner = .error e → resolver.otherKeys body = .error e) ∧
      ∀ required, resolver.otherKeys inner = .ok required →
        resolver.otherKeys body = .ok (adminKey.toList.map .direct ++
          .scheduled info.key :: required.map RequiredKey.deferred) := by
  rw [otherKeys_of_defers defers,
    scheduledKeys_eq_direct included schedulable encoded direct payer schedule]
  constructor
  · intro failure lost
    rw [Ledger.partyAccount_of_error lost]
    rfl
  · intro info found
    have known : resolver.ledger.partyAccount payer = .ok info := mapError_eq_ok_iff.mpr found
    rw [known]
    constructor
    · intro e failed
      rw [failed]
      rfl
    · intro required resolved
      rw [resolved]
      rfl

theorem update_deferred :
    Sample.registry.otherKeys (Sample.carrying
        (.createSchedule (.plain Sample.fileUpdate) (some (Sample.keyOf 9)) none "")) =
      .ok [.direct (Sample.keyOf 9), .scheduled (Sample.keyOf 2), .scheduled (Sample.keyOf 20)] ∧
    Sample.registry.otherKeys (Sample.carrying (.signSchedule ⟨0, 0, 700⟩)) =
      .ok [.scheduled (Sample.keyOf 2), .scheduled (Sample.keyOf 20)] ∧
    Sample.registry.otherKeys (Sample.carrying
        (.createSchedule (.plain Sample.fileUpdate) none (some ⟨0, 0, 999⟩) "")) =
      .error ⟨.missingAccount, some ⟨.account, ⟨0, 0, 999⟩⟩⟩ := by
  have encoded : (Operation.plain Sample.fileUpdate).encode = .ok [6, 0, 0, 150, 1, 2, 0, 0] := by
    cbv
  have direct : Sample.registry.otherKeys (Sample.carrying (.plain Sample.fileUpdate)) =
      .ok [.direct (Sample.keyOf 20)] := by cbv
  have created (adminKey : Option Key) (payer : Option AccountId) :
      (Sample.carrying (.createSchedule (.plain Sample.fileUpdate) adminKey payer "")).Defers
        Sample.registry.ledger (.plain Sample.fileUpdate) (payer.getD ⟨0, 0, 2⟩) adminKey none :=
    .creates rfl
  have signed : (Sample.carrying (.signSchedule ⟨0, 0, 700⟩)).Defers Sample.registry.ledger
      (.plain Sample.fileUpdate) ⟨0, 0, 2⟩ none (some ⟨0, 0, 700⟩) :=
    @TransactionBody.Defers.signs _ _ _ ⟨none, ⟨0, 0, 2⟩, .plain Sample.fileUpdate⟩ rfl rfl
  refine ⟨?_, ?_, ?_⟩
  · exact ((deferred_as_direct _ _ _ _ _ _ _ _ rfl (created _ none) rfl encoded rfl).2 _ rfl).2 _
      direct
  · exact ((deferred_as_direct _ _ _ _ _ _ _ _ rfl signed rfl encoded rfl).2 _ rfl).2 _ direct
  · exact (deferred_as_direct _ _ (Sample.carrying (.plain Sample.fileUpdate)) _ _ _ _ _ rfl
      (created none (some ⟨0, 0, 999⟩)) rfl encoded rfl).1 .notFound rfl

end Resolver

end Signatory
