import Signatory.Proofs.Deferral

/-!
Schedules that lead from one to another. A ledger may keep schedules of operations on schedules,
themselves among them, and a transaction may defer what defers in turn. Main statement: a resolution
that goes on to whatever operation it finds scheduled, as to that of the transaction, nevertheless
ends, however deep it may go: it looks up one schedule at most and goes on to one operation at most,
and it tells the keys that are told without going on.
-/
namespace Signatory

/-- What may lead a resolution on. -/
inductive Turn where
  | lookup (schedule : ScheduleId)
  | descent (scheduled : Operation)
deriving DecidableEq, Repr

namespace Turn

def isLookup : Turn → Bool
  | .lookup _ => true
  | .descent _ => false

def isDescent : Turn → Bool
  | .lookup _ => false
  | .descent _ => true

end Turn

/-- A resolution that may be cut short, and then gives nothing. The turns it takes are kept, also
when it fails. -/
abbrev Walk := ExceptT OrderError (StateT (List Turn) Option)

namespace Walk

def take (turn : Turn) : Walk Unit := modify fun turns => turns ++ [turn]

def cut {α : Type} : Walk α := ExceptT.lift (StateT.lift none)

end Walk

def Ledger.withoutSchedules (ledger : Ledger) : Ledger where
  lookup
    | .schedule, _ => .error .notFound
    | .account, id => ledger.account id
    | .file, id => ledger.file id
    | .contract, id => ledger.contract id
    | .topic, id => ledger.topic id

namespace Resolver

def walkSchedule (resolver : Resolver) (schedule : ScheduleId) : Walk ScheduleInfo := do
  Walk.take (.lookup schedule)
  MonadExcept.ofExcept (resolver.ledger.partySchedule schedule)

def walkScheduled (resolver : Resolver) (walkOn : AccountId → Operation → Walk (List RequiredKey))
    (scheduled : Operation) (payer : AccountId) (schedule : Option ScheduleId) :
    Walk (List RequiredKey) := do
  if !scheduled.isSchedulable then throw ⟨.unschedulableTransaction, none⟩
  else if !resolver.includeScheduled then return []
  else
    match scheduled.encode with
    | .error _ => throw ⟨.generalError, schedule.map EntityId.entity⟩
    | .ok _ =>
      let info ← MonadExcept.ofExcept (resolver.ledger.withoutSchedules.partyAccount payer)
      Walk.take (.descent scheduled)
      let parties ← walkOn payer scheduled
      return .scheduled info.key :: parties

/-- The keys of the parties of an operation that `payer` pays for, where `forScheduled` tells
whether the operation is scheduled itself. A scheduled operation goes through this again, down to
`depth` operations in all, below which the walk is cut. Nothing but a turn reaches a schedule. -/
def walk (resolver : Resolver) : (depth : Nat) → (forScheduled : Bool) → (payer : AccountId) →
    Operation → Walk (List RequiredKey)
  | 0, _, _, _ => Walk.cut
  | _ + 1, forScheduled, _, .plain operation => do
    let keys ← MonadExcept.ofExcept (operation.partyKeys resolver.ledger.withoutSchedules)
    return keys.map (RequiredKey.mk · forScheduled)
  | depth + 1, forScheduled, payer, .createSchedule scheduled adminKey named _ => do
    let signers ← resolver.walkScheduled (resolver.walk depth true) scheduled
      (named.getD payer) none
    return adminKey.toList.map (RequiredKey.mk · forScheduled) ++ signers
  | depth + 1, _, _, .signSchedule schedule => do
    let info ← resolver.walkSchedule schedule
    resolver.walkScheduled (resolver.walk depth true) info.scheduled info.payer (some schedule)
  | _ + 1, forScheduled, _, .deleteSchedule schedule => do
    let info ← resolver.walkSchedule schedule
    match info.adminKey with
    | some adminKey => return [⟨adminKey, forScheduled⟩]
    | none => throw ⟨.immutableSchedule, some schedule.entity⟩

end Resolver

namespace Walk

variable {α β : Type}

/-- The walk ends with the outcome, after so many turns of either kind at most. -/
def EndsWithin (walk : Walk α) (outcome : Except OrderError α) (lookups descents : Nat) : Prop :=
  ∀ before, ∃ turns, walk.run.run before = some (outcome, before ++ turns) ∧
    turns.countP Turn.isLookup ≤ lookups ∧ turns.countP Turn.isDescent ≤ descents

namespace EndsWithin

variable {walk : Walk α} {outcome : Except OrderError α} {lookups descents more further : Nat}

theorem pure (value : α) : EndsWithin (Pure.pure value) (.ok value) 0 0 :=
  fun before => ⟨[], by rw [List.append_nil]; rfl, Nat.le_refl _, Nat.le_refl _⟩

theorem throw (e : OrderError) : EndsWithin (MonadExcept.throw e : Walk α) (.error e) 0 0 :=
  fun before => ⟨[], by rw [List.append_nil]; rfl, Nat.le_refl _, Nat.le_refl _⟩

theorem ofExcept (outcome : Except OrderError α) :
    EndsWithin (MonadExcept.ofExcept outcome) outcome 0 0 := by
  cases outcome with
  | ok value => exact pure value
  | error e => exact throw e

theorem mono (ends : walk.EndsWithin outcome lookups descents) (looks : lookups ≤ more)
    (goes : descents ≤ further) : walk.EndsWithin outcome more further := by
  intro before
  obtain ⟨turns, ran, looked, gone⟩ := ends before
  exact ⟨turns, ran, Nat.le_trans looked looks, Nat.le_trans gone goes⟩

theorem spare (ends : walk.EndsWithin outcome 0 0) : walk.EndsWithin outcome more further :=
  ends.mono (Nat.zero_le _) (Nat.zero_le _)

theorem bind {next : α → Walk β} {following : α → Except OrderError β}
    (first : walk.EndsWithin outcome lookups descents)
    (rest : ∀ value, outcome = .ok value →
      (next value).EndsWithin (following value) more further) :
    EndsWithin (walk >>= next) (outcome >>= following) (lookups + more) (descents + further) := by
  intro before
  obtain ⟨turns, ran, looked, gone⟩ := first before
  rw [ExceptT.run_bind, StateT.run_bind, ran]
  cases outcome with
  | error e => exact ⟨turns, rfl, Nat.le_add_right_of_le looked, Nat.le_add_right_of_le gone⟩
  | ok value =>
    obtain ⟨later, ended, lookedLater, goneLater⟩ := rest value rfl (before ++ turns)
    refine ⟨turns ++ later, ?_, ?_, ?_⟩
    · rw [← List.append_assoc]
      exact ended
    · rw [List.countP_append]
      exact Nat.add_le_add looked lookedLater
    · rw [List.countP_append]
      exact Nat.add_le_add gone goneLater

theorem take (turn : Turn) :
    EndsWithin (Walk.take turn) (.ok ()) (if turn.isLookup then 1 else 0)
      (if turn.isDescent then 1 else 0) :=
  fun _ => ⟨[turn], rfl, by rw [List.countP_singleton], by rw [List.countP_singleton]⟩

end EndsWithin

end Walk

theorem PlainOperation.partyKeys_withoutSchedules (ledger : Ledger) (operation : PlainOperation) :
    operation.partyKeys ledger.withoutSchedules = operation.partyKeys ledger :=
  Party.resolveAll_congr fun party _ => by cases party <;> rfl

namespace Resolver

variable {resolver : Resolver}

theorem endsWithin_walkSchedule (resolver : Resolver) (schedule : ScheduleId) :
    (resolver.walkSchedule schedule).EndsWithin (resolver.ledger.partySchedule schedule) 1 0 :=
  (Walk.EndsWithin.take (.lookup schedule)).bind fun _ _ => .ofExcept _

theorem endsWithin_walk_plain (resolver : Resolver) (depth : Nat) (forScheduled : Bool)
    (payer : AccountId) (operation : PlainOperation) :
    (resolver.walk (depth + 1) forScheduled payer (.plain operation)).EndsWithin
      (List.map (RequiredKey.mk · forScheduled) <$> operation.partyKeys resolver.ledger) 0 0 := by
  rw [walk, PlainOperation.partyKeys_withoutSchedules, map_eq_pure_bind]
  exact (Walk.EndsWithin.ofExcept _).bind fun keys _ => .pure _

theorem scheduledKeys_eq_bind {operation : PlainOperation} {message : Bytes}
    (included : resolver.includeScheduled = true)
    (encoded : (Operation.plain operation).encode = .ok message) (payer : AccountId)
    (schedule : Option ScheduleId) :
    resolver.scheduledKeys (.plain operation) payer schedule = do
      let info ← resolver.ledger.partyAccount payer
      let parties ← List.map .scheduled <$> operation.partyKeys resolver.ledger
      return .scheduled info.key :: parties := by
  simp [scheduledKeys, included, encoded]

theorem walkScheduled_of_unschedulable
    {walkOn : AccountId → Operation → Walk (List RequiredKey)} {scheduled : Operation}
    {payer : AccountId} {schedule : Option ScheduleId}
    (unschedulable : scheduled.isSchedulable = false) :
    resolver.walkScheduled walkOn scheduled payer schedule =
      throw ⟨.unschedulableTransaction, none⟩ := by
  simp [walkScheduled, unschedulable]

theorem endsWithin_walkScheduled (resolver : Resolver) (scheduled : Operation) (payer : AccountId)
    (schedule : Option ScheduleId) :
    (resolver.walkScheduled (resolver.walk 1 true) scheduled payer schedule).EndsWithin
      (resolver.scheduledKeys scheduled payer schedule) 0 1 := by
  cases scheduled with
  | createSchedule | signSchedule | deleteSchedule =>
    rw [walkScheduled_of_unschedulable rfl]
    exact (Walk.EndsWithin.throw _).spare
  | plain operation =>
    rw [walkScheduled]
    cases included : resolver.includeScheduled with
    | false =>
      rw [scheduledKeys_of_excluded included]
      exact (Walk.EndsWithin.pure _).spare
    | true =>
      cases encoded : (Operation.plain operation).encode with
      | error e =>
        rw [scheduledKeys_of_unencodable rfl included encoded]
        exact (Walk.EndsWithin.throw _).spare
      | ok message =>
        rw [scheduledKeys_eq_bind included encoded]
        -- One level down the operation is plain, so that the turn to it is the last.
        have descended (info : AccountInfo) :=
          (endsWithin_walk_plain resolver 0 true payer operation).bind fun parties _ =>
            .pure (.scheduled info.key :: parties)
        exact (Walk.EndsWithin.ofExcept _).bind fun info _ =>
          (Walk.EndsWithin.take (.descent _)).bind fun _ _ => descended info

theorem endsWithin_walk (resolver : Resolver) (body : TransactionBody) :
    (resolver.walk 2 false body.payer body.operation).EndsWithin (resolver.otherKeys body) 1 1 := by
  rw [otherKeys_eq, requiredKeys]
  cases body.operation with
  | plain operation =>
    exact (endsWithin_walk_plain resolver 1 false body.payer operation).spare
  | createSchedule scheduled adminKey payer memo =>
    rw [walk]
    exact ((endsWithin_walkScheduled resolver scheduled (payer.getD body.payer) none).bind
      fun signers _ => .pure _).mono (Nat.zero_le _) (Nat.le_refl _)
  | signSchedule schedule =>
    rw [walk]
    exact (endsWithin_walkSchedule resolver schedule).bind fun info _ =>
      endsWithin_walkScheduled resolver info.scheduled info.payer (some schedule)
  | deleteSchedule schedule =>
    rw [walk]
    refine (endsWithin_walkSchedule resolver schedule).bind fun info _ =>
      (show Walk.EndsWithin _ _ 0 1 from ?_)
    cases info.adminKey with
    | none => exact (Walk.EndsWithin.throw _).spare
    | some adminKey => exact (Walk.EndsWithin.pure _).spare

theorem walkScheduled_depth_irrelevant (resolver : Resolver) (depth : Nat) (scheduled : Operation)
    (payer : AccountId) (schedule : Option ScheduleId) :
    resolver.walkScheduled (resolver.walk (depth + 1) true) scheduled payer schedule =
      resolver.walkScheduled (resolver.walk 1 true) scheduled payer schedule := by
  cases scheduled with
  | plain operation => simp only [walkScheduled, walk]
  | createSchedule | signSchedule | deleteSchedule =>
    rw [walkScheduled_of_unschedulable rfl, walkScheduled_of_unschedulable rfl]

theorem walk_depth_irrelevant (resolver : Resolver) (depth : Nat) (forScheduled : Bool)
    (payer : AccountId) (operation : Operation) :
    resolver.walk (depth + 2) forScheduled payer operation =
      resolver.walk 2 forScheduled payer operation := by
  cases operation with
  | plain | deleteSchedule => rfl
  | createSchedule | signSchedule =>
    simp only [walk, walkScheduled_depth_irrelevant resolver depth]

/-- Schedules may refer to themselves and to each other, and bodies may nest them to any depth. What
is wrapped twice is refused, whatever the ledger holds otherwise. -/
theorem walk_ends (resolver : Resolver) (body : TransactionBody) :
    (∃ turns, (∀ depth, (resolver.walk (depth + 2) false body.payer body.operation).run.run [] =
        some (resolver.otherKeys body, turns)) ∧
      turns.countP Turn.isLookup ≤ 1 ∧ turns.countP Turn.isDescent ≤ 1) ∧
    ∀ scheduled payer adminKey schedule,
      body.Defers resolver.ledger scheduled payer adminKey schedule →
      scheduled.isSchedulable = false →
      resolver.otherKeys body = .error ⟨.unschedulableTransaction, none⟩ := by
  constructor
  · obtain ⟨turns, ended, few⟩ := endsWithin_walk resolver body []
    exact ⟨turns, fun depth => by rw [walk_depth_irrelevant, ended]; rfl, few⟩
  · intro scheduled payer adminKey schedule defers unschedulable
    rw [otherKeys_of_defers defers, scheduledKeys_of_unschedulable unschedulable]
    rfl

end Resolver

namespace Sample

def cycle : Ledger :=
  ((LedgerTables.empty.putSchedule ⟨0, 0, 8⟩ ⟨none, ⟨0, 0, 2⟩, .signSchedule ⟨0, 0, 9⟩⟩).putSchedule
    ⟨0, 0, 9⟩ ⟨none, ⟨0, 0, 2⟩, .signSchedule ⟨0, 0, 8⟩⟩).ledger

theorem cycle_defers (included : Bool) :
    (carrying (.signSchedule ⟨0, 0, 9⟩)).Defers (Resolver.mk cycle included).ledger
      (.signSchedule ⟨0, 0, 8⟩) ⟨0, 0, 2⟩ none (some ⟨0, 0, 9⟩) :=
  @TransactionBody.Defers.signs _ _ _ ⟨none, ⟨0, 0, 2⟩, .signSchedule ⟨0, 0, 8⟩⟩ rfl rfl

end Sample

namespace Resolver

theorem walk_ends_in_cycle :
    (∃ turns, (∀ depth, ((Resolver.mk Sample.cycle true).walk (depth + 2) false ⟨0, 0, 2⟩
        (.signSchedule ⟨0, 0, 9⟩)).run.run [] =
        some (.error ⟨.unschedulableTransaction, none⟩, turns)) ∧
      turns.countP Turn.isLookup ≤ 1 ∧ turns.countP Turn.isDescent ≤ 1) ∧
    otherKeys ⟨Sample.cycle, false⟩ (Sample.carrying (.signSchedule ⟨0, 0, 9⟩)) =
      .error ⟨.unschedulableTransaction, none⟩ := by
  have refused (included : Bool) :
      otherKeys ⟨Sample.cycle, included⟩ (Sample.carrying (.signSchedule ⟨0, 0, 9⟩)) =
        .error ⟨.unschedulableTransaction, none⟩ :=
    (walk_ends ⟨Sample.cycle, included⟩ _).2 _ _ _ _ (Sample.cycle_defers included) rfl
  refine ⟨?_, refused false⟩
  rw [← refused true]
  exact (walk_ends ⟨Sample.cycle, true⟩ (Sample.carrying (.signSchedule ⟨0, 0, 9⟩))).1

end Resolver

end Signatory
