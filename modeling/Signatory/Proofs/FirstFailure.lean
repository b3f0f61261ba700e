import Signatory.Proofs.Deferral

/-!
Failures of resolution. What a transaction asks of the ledger is a list of steps, those of its
operation in the order in which it names them. Main statement: the resolution of its other parties
fails just if one of the steps does, and what it reports is the report of the first that does.
-/
namespace Signatory

/-- What has to be so for the keys to be told. -/
inductive ResolutionStep where
  | lookup (entity : Entity)
  | schedulable (scheduled : Operation)
  | encodable (scheduled : Operation) (schedule : Option ScheduleId)
  | administered (schedule : ScheduleId) (info : ScheduleInfo)
deriving DecidableEq, Repr

def Entity.refusal (entity : Entity) (failure : LookupFailure) : OrderError where
  reason :=
    match entity.kind, failure with
    | .account, .notFound => .missingAccount
    | .account, .deleted | .account, .unusable => .invalidAccount
    | .file, _ => .missingFile
    | .contract, .unusable => .immutableContract
    | .contract, .notFound | .contract, .deleted => .invalidContract
    | .topic, _ => .invalidTopic
    | .schedule, _ => .invalidSchedule
  entity := some entity

def ResolutionStep.report? (ledger : Ledger) : ResolutionStep → Option OrderError
  | .lookup entity =>
    match ledger.lookup entity.kind entity.id with
    | .ok _ => none
    | .error failure => some (entity.refusal failure)
  | .schedulable scheduled =>
    if scheduled.isSchedulable then none else some ⟨.unschedulableTransaction, none⟩
  | .encodable scheduled schedule =>
    if scheduled.encode.isOk then none else some ⟨.generalError, schedule.map EntityId.entity⟩
  | .administered schedule info =>
    if info.adminKey.isSome then none else some ⟨.immutableSchedule, some schedule.entity⟩

namespace ResolutionStep

variable {ledger : Ledger} {kind : EntityKind} {id : EntityId kind}

theorem report?_of_found {info : EntityInfo kind} (found : ledger.lookup kind id = .ok info) :
    (lookup id.entity).report? ledger = none := by
  simp only [report?, EntityId.entity, found]

theorem report?_of_lost {failure : LookupFailure} (lost : ledger.lookup kind id = .error failure) :
    (lookup id.entity).report? ledger = some (id.entity.refusal failure) := by
  simp only [report?, EntityId.entity, lost]

end ResolutionStep

def Party.steps (party : Party) : List ResolutionStep := party.entity?.toList.map .lookup

def PlainOperation.steps (operation : PlainOperation) : List ResolutionStep :=
  operation.parties.flatMap Party.steps

def Operation.deferredSteps (includeScheduled : Bool) (payer : AccountId)
    (schedule : Option ScheduleId) (scheduled : Operation) : List ResolutionStep :=
  .schedulable scheduled ::
    if includeScheduled then
      .encodable scheduled schedule :: (scheduled.scheduledParties payer).flatMap Party.steps
    else []

/-- The steps for the other parties of a transaction. Those for a schedule depend on what it is
found to be; if it is not found there are none but to look it up. -/
def Resolver.steps (resolver : Resolver) (body : TransactionBody) : List ResolutionStep :=
  match body.operation with
  | .plain operation => operation.steps
  | .createSchedule scheduled _ payer _ =>
    scheduled.deferredSteps resolver.includeScheduled (payer.getD body.payer) none
  | .signSchedule schedule =>
    .lookup schedule.entity ::
      match resolver.ledger.schedule schedule with
      | .ok info =>
        info.scheduled.deferredSteps resolver.includeScheduled info.payer (some schedule)
      | .error _ => []
  | .deleteSchedule schedule =>
    .lookup schedule.entity ::
      match resolver.ledger.schedule schedule with
      | .ok info => [.administered schedule info]
      | .error _ => []

/-- The outcome is a failure just if one of the steps fails, and the first that does is reported. -/
def FailsAtFirst {α : Type} (ledger : Ledger) (steps : List ResolutionStep)
    (outcome : Except OrderError α) : Prop :=
  ∀ e, outcome = .error e ↔ steps.findSome? (ResolutionStep.report? ledger) = some e

namespace FailsAtFirst

variable {α β : Type} {ledger : Ledger} {steps others : List ResolutionStep}
  {outcome : Except OrderError α}

theorem ok (value : α) : FailsAtFirst ledger [] (.ok value) := by
  intro e
  simp

theorem refused {step : ResolutionStep} {e : OrderError} (fails : step.report? ledger = some e)
    (steps : List ResolutionStep) :
    FailsAtFirst ledger (step :: steps) (.error e : Except OrderError α) := by
  intro other
  simp [fails]

theorem passed {step : ResolutionStep} (passes : step.report? ledger = none)
    (law : FailsAtFirst ledger steps outcome) : FailsAtFirst ledger (step :: steps) outcome := by
  intro e
  rw [law e]
  simp [passes]

theorem findSome?_eq_none {value : α} (law : FailsAtFirst ledger steps outcome)
    (succeeds : outcome = .ok value) :
    steps.findSome? (ResolutionStep.report? ledger) = none := by
  rw [Option.eq_none_iff_forall_ne_some]
  intro e failed
  cases succeeds.symm.trans ((law e).mpr failed)

theorem bind {next : α → Except OrderError β} (law : FailsAtFirst ledger steps outcome)
    (rest : ∀ value, outcome = .ok value → FailsAtFirst ledger others (next value)) :
    FailsAtFirst ledger (steps ++ others) (outcome >>= next) := by
  intro e
  rw [List.findSome?_append]
  -- A report among the first steps hides the others, which are then not taken either.
  cases reached : outcome with
  | error first =>
    rw [(law first).mp reached, Option.some_or, Option.some_inj]
    exact Except.error.injEq first e ▸ Iff.rfl
  | ok value =>
    rw [law.findSome?_eq_none reached]
    exact rest value reached e

theorem done {f : α → β} (law : FailsAtFirst ledger steps outcome) :
    FailsAtFirst ledger steps (outcome >>= fun value => pure (f value)) := by
  have nothing : ∀ value, outcome = .ok value →
      FailsAtFirst ledger [] (pure (f value) : Except OrderError β) := fun value _ => ok (f value)
  have whole := law.bind nothing
  rwa [List.append_nil] at whole

theorem map {f : α → β} (law : FailsAtFirst ledger steps outcome) :
    FailsAtFirst ledger steps (f <$> outcome) := by
  rw [map_eq_pure_bind]
  exact law.done

theorem iff_first (law : FailsAtFirst ledger steps outcome) (e : OrderError) :
    outcome = .error e ↔ ∃ before step after, steps = before ++ step :: after ∧
      (∀ passed ∈ before, passed.report? ledger = none) ∧ step.report? ledger = some e := by
  rw [law e, List.findSome?_eq_some_iff]
  constructor
  · rintro ⟨before, step, after, layout, reported, passes⟩
    exact ⟨before, step, after, layout, passes, reported⟩
  · rintro ⟨before, step, after, layout, passes, reported⟩
    exact ⟨before, step, after, layout, reported, passes⟩

theorem exists_error_iff (law : FailsAtFirst ledger steps outcome) :
    (∃ e, outcome = .error e) ↔ ∃ step ∈ steps, ∃ e, step.report? ledger = some e := by
  simp only [law _, ← Option.isSome_iff_exists, List.findSome?_isSome_iff]

end FailsAtFirst

section Lookups

variable {ledger : Ledger}

namespace Ledger

theorem failsAtFirst_reporting {kind : EntityKind} (id : EntityId kind)
    {reason : LookupFailure → OrderFailure}
    (refusal : ∀ failure, id.entity.refusal failure = ⟨reason failure, some id.entity⟩) :
    FailsAtFirst ledger [.lookup id.entity] (reporting id reason (ledger.lookup kind id)) := by
  rw [reporting]
  cases looked : ledger.lookup kind id with
  | ok info => exact .passed (ResolutionStep.report?_of_found looked) (.ok info)
  | error failure =>
    have report := ResolutionStep.report?_of_lost looked
    rw [refusal failure] at report
    exact .refused report []

theorem failsAtFirst_account (id : AccountId) :
    FailsAtFirst ledger [.lookup id.entity] (ledger.partyAccount id) :=
  failsAtFirst_reporting id fun failure => by cases failure <;> rfl

theorem failsAtFirst_file (id : FileId) :
    FailsAtFirst ledger [.lookup id.entity] (ledger.partyFile id) :=
  failsAtFirst_reporting id fun _ => rfl

theorem failsAtFirst_contract (id : ContractId) :
    FailsAtFirst ledger [.lookup id.entity] (ledger.partyContract id) :=
  failsAtFirst_reporting id fun failure => by cases failure <;> rfl

theorem failsAtFirst_topic (id : TopicId) :
    FailsAtFirst ledger [.lookup id.entity] (ledger.partyTopic id) :=
  failsAtFirst_reporting id fun _ => rfl

theorem failsAtFirst_schedule (id : ScheduleId) :
    FailsAtFirst ledger [.lookup id.entity] (ledger.partySchedule id) :=
  failsAtFirst_reporting id fun _ => rfl

end Ledger

namespace Party

theorem failsAtFirst_resolve (party : Party) :
    FailsAtFirst ledger party.steps (party.resolve ledger) := by
  cases party with
  | brought | newFile | nextFile | nextContract => exact .ok _
  | account id | receiver id => exact (Ledger.failsAtFirst_account id).done
  | adjusted transfer => exact (Ledger.failsAtFirst_account transfer.account).done
  | file id => exact (Ledger.failsAtFirst_file id).done
  | contract id => exact (Ledger.failsAtFirst_contract id).done
  | topicAdmin id | topicSubmit id => exact (Ledger.failsAtFirst_topic id).done

theorem failsAtFirst_resolveAll (parties : List Party) :
    FailsAtFirst ledger (parties.flatMap steps) (resolveAll ledger parties) := by
  induction parties with
  | nil => exact .ok []
  | cons party parties ih =>
    rw [List.flatMap_cons]
    exact (failsAtFirst_resolve party).bind fun _ _ => ih.map

end Party

theorem PlainOperation.failsAtFirst_partyKeys (operation : PlainOperation) :
    FailsAtFirst ledger operation.steps (operation.partyKeys ledger) := by
  exact Party.failsAtFirst_resolveAll _

end Lookups

namespace Resolver

variable {resolver : Resolver} {body : TransactionBody}

theorem failsAtFirst_scheduledKeys (scheduled : Operation) (payer : AccountId)
    (schedule : Option ScheduleId) :
    FailsAtFirst resolver.ledger
      (scheduled.deferredSteps resolver.includeScheduled payer schedule)
      (resolver.scheduledKeys scheduled payer schedule) := by
  unfold Operation.deferredSteps
  cases scheduled with
  | createSchedule | signSchedule | deleteSchedule => exact .refused rfl _
  | plain operation =>
    refine .passed rfl ?_
    cases included : resolver.includeScheduled with
    | false =>
      rw [scheduledKeys_of_excluded included]
      exact .ok []
    | true =>
      cases encoded : (Operation.plain operation).encode with
      | error e =>
        rw [scheduledKeys_of_unencodable rfl included encoded]
        exact .refused (by rw [ResolutionStep.report?, encoded]; rfl) _
      | ok message =>
        refine .passed (by rw [ResolutionStep.report?, encoded]; rfl) ?_
        rw [scheduledKeys_eq_resolveAll included encoded]
        exact (Party.failsAtFirst_resolveAll _).map

theorem failsAtFirst_otherKeys (resolver : Resolver) (body : TransactionBody) :
    FailsAtFirst resolver.ledger (resolver.steps body) (resolver.otherKeys body) := by
  rw [otherKeys_eq]
  unfold steps requiredKeys
  cases operation : body.operation with
  | plain plain => exact plain.failsAtFirst_partyKeys.done
  | createSchedule scheduled adminKey payer memo =>
    exact (failsAtFirst_scheduledKeys scheduled _ none).done
  | signSchedule schedule =>
    refine (Ledger.failsAtFirst_schedule schedule).bind fun info found => ?_
    rw [mapError_eq_ok_iff.mp found]
    exact failsAtFirst_scheduledKeys info.scheduled info.payer (some schedule)
  | deleteSchedule schedule =>
    refine (Ledger.failsAtFirst_schedule schedule).bind fun info found => ?_
    rw [mapError_eq_ok_iff.mp found]
    cases adminKey : info.adminKey with
    | none => exact .refused (by simp [ResolutionStep.report?, adminKey]) []
    | some key => exact .passed (by simp [ResolutionStep.report?, adminKey]) (.ok _)

/-- No step is left out and none is taken early, whatever its keys would be needed for: the first
step that fails is the one reported. -/
theorem otherKeys_fails_at_first (resolver : Resolver) (body : TransactionBody) :
    ((∃ e, resolver.otherKeys body = .error e) ↔
      ∃ step ∈ resolver.steps body, ∃ e, step.report? resolver.ledger = some e) ∧
    ∀ e, resolver.otherKeys body = .error e ↔
      ∃ before step after, resolver.steps body = before ++ step :: after ∧
        (∀ passed ∈ before, passed.report? resolver.ledger = none) ∧
        step.report? resolver.ledger = some e := by
  have law := failsAtFirst_otherKeys resolver body
  exact ⟨law.exists_error_iff, law.iff_first⟩

end Resolver

namespace Sample

def strangers : Operation :=
  .plain (.transfer [⟨⟨0, 0, 2⟩, -1⟩, ⟨⟨0, 0, 404⟩, 0⟩, ⟨⟨0, 0, 405⟩, 0⟩])

end Sample

namespace Resolver

theorem first_stranger_reported :
    Sample.registry.otherKeys (Sample.carrying Sample.strangers) =
      .error ⟨.missingAccount, some ⟨.account, ⟨0, 0, 404⟩⟩⟩ ∧
    Sample.registry.otherKeys
        (Sample.carrying (.createSchedule Sample.strangers none (some ⟨0, 0, 999⟩) "")) =
      .error ⟨.missingAccount, some ⟨.account, ⟨0, 0, 999⟩⟩⟩ := by
  constructor
  · apply ((otherKeys_fails_at_first _ _).2 _).mpr
    refine ⟨[.lookup ⟨.account, ⟨0, 0, 2⟩⟩], .lookup ⟨.account, ⟨0, 0, 404⟩⟩,
      [.lookup ⟨.account, ⟨0, 0, 405⟩⟩], rfl, ?_, rfl⟩
    rintro _ (_ | ⟨_, ⟨⟩⟩)
    rfl
  · apply ((otherKeys_fails_at_first _ _).2 _).mpr
    refine ⟨[.schedulable Sample.strangers, .encodable Sample.strangers none],
      .lookup ⟨.account, ⟨0, 0, 999⟩⟩, _, rfl, ?_, rfl⟩
    rintro _ (_ | ⟨_, _ | ⟨_, ⟨⟩⟩⟩)
    · rfl
    · rfl

end Resolver

end Signatory
