import Signatory.Proofs.Deferral

/-!
Keys that are flagged, because they are asked for on behalf of a scheduled operation. A resolver has
a switch for them. Main statement: a resolution that succeeds with the switch on succeeds with it
off, and loses the flagged keys and nothing else; one that fails with it off fails alike with it on;
and the flagged keys stand together behind all others.
-/
namespace Signatory

namespace RequiredKey

theorem filter_map_direct (keys : List Key) :
    (keys.map direct).filter (!·.forScheduled) = keys.map direct := by
  rw [List.filter_eq_self]
  simp [direct]

theorem filter_map_scheduled (keys : List Key) :
    (keys.map scheduled).filter (!·.forScheduled) = [] := by
  rw [List.filter_eq_nil_iff]
  simp [scheduled]

theorem map_direct_of_unflagged {required : List RequiredKey}
    (unflagged : ∀ asked ∈ required, asked.forScheduled = false) :
    (required.map key).map direct = required := by
  have same : ∀ asked ∈ required, (direct ∘ key) asked = id asked := by
    intro asked member
    change RequiredKey.mk asked.key false = asked
    rw [← unflagged asked member]
  rw [List.map_map, List.map_congr_left same, List.map_id]

end RequiredKey

/-- The second order is the first without its flagged keys; the first may fail where the second does
not, but not the other way around. -/
structure SigningOrder.Unflags (on off : SigningOrder) : Prop where
  ok : ∀ required, on = .ok required → off = .ok (required.filter (!·.forScheduled))
  error : ∀ e, off = .error e → on = .error e

namespace SigningOrder.Unflags

variable {on off : SigningOrder}

theorem same {order : SigningOrder}
    (unflagged : ∀ required, order = .ok required →
      ∀ asked ∈ required, asked.forScheduled = false) : order.Unflags order := by
  constructor
  · intro required resolved
    have kept : required.filter (!·.forScheduled) = required := by
      rw [List.filter_eq_self]
      intro asked member
      rw [unflagged required resolved asked member]
      rfl
    rw [kept]
    exact resolved
  · exact fun _ failed => failed

theorem refused (e : OrderError) : Unflags (.error e) (.error e) :=
  same fun _ resolved => nomatch resolved

theorem behind (law : on.Unflags off) (keys : List Key) :
    Unflags ((keys.map .direct ++ ·) <$> on) ((keys.map .direct ++ ·) <$> off) := by
  constructor
  · intro required resolved
    cases reached : on with
    | error e =>
      rw [reached] at resolved
      cases resolved
    | ok signers =>
      rw [reached] at resolved
      cases resolved
      rw [law.ok signers reached, List.filter_append, RequiredKey.filter_map_direct]
      rfl
  · intro e failed
    cases outcome : off with
    | ok signers =>
      rw [outcome] at failed
      cases failed
    | error first =>
      rw [outcome] at failed
      rw [law.error first outcome]
      exact failed

end SigningOrder.Unflags

namespace Resolver

variable {resolver : Resolver} {body : TransactionBody} {required : List RequiredKey}

theorem scheduledKeys_unflags (ledger : Ledger) (scheduled : Operation) (payer : AccountId)
    (schedule : Option ScheduleId) :
    SigningOrder.Unflags (scheduledKeys ⟨ledger, true⟩ scheduled payer schedule)
      (scheduledKeys ⟨ledger, false⟩ scheduled payer schedule) := by
  cases scheduled with
  | createSchedule | signSchedule | deleteSchedule => exact .refused _
  | plain operation =>
    have nothing : scheduledKeys ⟨ledger, false⟩ (.plain operation) payer schedule = .ok [] :=
      scheduledKeys_of_excluded rfl operation payer schedule
    rw [nothing]
    constructor
    · intro signers resolved
      rcases scheduledKeys_eq_ok resolved with ⟨excluded, _⟩ | ⟨_, _, keys, rfl⟩
      · cases excluded
      · rw [RequiredKey.filter_map_scheduled]
    · exact fun _ failed => nomatch failed

theorem unflags_of_defers {ledger : Ledger} {scheduled : Operation} {payer : AccountId}
    {adminKey : Option Key} {schedule : Option ScheduleId}
    (defers : body.Defers ledger scheduled payer adminKey schedule) :
    SigningOrder.Unflags (otherKeys ⟨ledger, true⟩ body) (otherKeys ⟨ledger, false⟩ body) := by
  have told (included : Bool) : otherKeys ⟨ledger, included⟩ body =
      (adminKey.toList.map .direct ++ ·) <$>
        scheduledKeys ⟨ledger, included⟩ scheduled payer schedule := otherKeys_of_defers defers
  rw [told, told]
  exact (scheduledKeys_unflags ledger scheduled payer schedule).behind adminKey.toList

theorem otherKeys_unflags (ledger : Ledger) (body : TransactionBody) :
    SigningOrder.Unflags (otherKeys ⟨ledger, true⟩ body) (otherKeys ⟨ledger, false⟩ body) := by
  -- Only what defers an operation, and finds it, reads the switch.
  cases operation : body.operation with
  | plain | deleteSchedule =>
    have regardless : otherKeys ⟨ledger, false⟩ body = otherKeys ⟨ledger, true⟩ body := by
      simp only [otherKeys_eq, requiredKeys, operation]
    rw [regardless]
    refine .same fun required resolved => not_flagged_of_ordinary ?_ resolved
    rw [operation]
    rfl
  | createSchedule => exact unflags_of_defers (.creates operation)
  | signSchedule schedule =>
    cases found : ledger.schedule schedule with
    | ok info => exact unflags_of_defers (.signs operation found)
    | error failure =>
      have lost (included : Bool) : otherKeys ⟨ledger, included⟩ body =
          .error ⟨.invalidSchedule, some schedule.entity⟩ := by
        simp only [otherKeys_eq, requiredKeys, operation, Ledger.partySchedule, found]
        rfl
      rw [lost, lost]
      exact .refused _

theorem exists_signers (collects : body.operation.collectsSignatures = true)
    (resolved : resolver.otherKeys body = .ok required) :
    ∃ scheduled payer adminKey schedule signers,
      body.Defers resolver.ledger scheduled payer adminKey schedule ∧
      resolver.scheduledKeys scheduled payer schedule = .ok signers ∧
      required = adminKey.toList.map .direct ++ signers := by
  cases operation : body.operation with
  | plain | deleteSchedule => simp [operation, Operation.collectsSignatures] at collects
  | createSchedule scheduled adminKey payer memo =>
    obtain ⟨signers, scheduling, rfl⟩ := otherKeys_of_createSchedule operation resolved
    exact ⟨_, _, _, _, signers, .creates operation, scheduling, rfl⟩
  | signSchedule schedule =>
    obtain ⟨info, found, scheduling⟩ := otherKeys_of_signSchedule operation resolved
    exact ⟨_, _, _, _, required, .signs operation found, scheduling, rfl⟩

theorem exists_direct_append_scheduled (resolved : resolver.otherKeys body = .ok required) :
    ∃ direct scheduled : List Key,
      required = direct.map .direct ++ scheduled.map .scheduled ∧
      (scheduled ≠ [] →
        body.operation.collectsSignatures = true ∧ resolver.includeScheduled = true) := by
  cases collects : body.operation.collectsSignatures with
  | false =>
    have unflagged := not_flagged_of_ordinary collects resolved
    refine ⟨required.map RequiredKey.key, [], ?_, fun some => absurd rfl some⟩
    rw [RequiredKey.map_direct_of_unflagged unflagged, List.map_nil, List.append_nil]
  | true =>
    obtain ⟨_, _, adminKey, _, signers, _, scheduling, rfl⟩ := exists_signers collects resolved
    rcases scheduledKeys_eq_ok scheduling with ⟨_, rfl⟩ | ⟨included, _, keys, rfl⟩
    · exact ⟨adminKey.toList, [], rfl, fun some => absurd rfl some⟩
    · exact ⟨adminKey.toList, keys, rfl, fun _ => ⟨rfl, included⟩⟩

/-- The switch of a resolver decides only about the keys of scheduled operations. They are asked for
behind all others, and in no case but that of a schedule that is created or signed. -/
theorem switch_decides_flagged (ledger : Ledger) (body : TransactionBody) :
    (∀ required, otherKeys ⟨ledger, true⟩ body = .ok required →
      otherKeys ⟨ledger, false⟩ body = .ok (required.filter (!·.forScheduled))) ∧
    (∀ e, otherKeys ⟨ledger, false⟩ body = .error e → otherKeys ⟨ledger, true⟩ body = .error e) ∧
    ∀ included required, otherKeys ⟨ledger, included⟩ body = .ok required →
      ∃ direct scheduled : List Key,
        required = direct.map .direct ++ scheduled.map .scheduled ∧
        (scheduled ≠ [] → body.operation.collectsSignatures = true ∧ included = true) := by
  have law := otherKeys_unflags ledger body
  exact ⟨law.ok, law.error, fun _ _ resolved => exists_direct_append_scheduled resolved⟩

end Resolver

namespace Sample

def updateCreation : TransactionBody :=
  carrying (.createSchedule (.plain fileUpdate) (some (keyOf 9)) none "")

theorem updateCreation_keys : Resolver.otherKeys ⟨registry.ledger, true⟩ updateCreation =
    .ok [.direct (keyOf 9), .scheduled (keyOf 2), .scheduled (keyOf 20)] := by
  cbv

end Sample

namespace Resolver

theorem update_unflagged :
    otherKeys ⟨Sample.registry.ledger, false⟩ Sample.updateCreation =
      .ok [.direct (Sample.keyOf 9)] ∧
    otherKeys ⟨Sample.registry.ledger, true⟩ (Sample.carrying (.signSchedule ⟨0, 0, 404⟩)) =
      .error ⟨.invalidSchedule, some ⟨.schedule, ⟨0, 0, 404⟩⟩⟩ ∧
    ∃ direct scheduled : List Key,
      [.direct (Sample.keyOf 9), .scheduled (Sample.keyOf 2), .scheduled (Sample.keyOf 20)] =
        direct.map RequiredKey.direct ++ scheduled.map RequiredKey.scheduled ∧
      (scheduled ≠ [] →
        Sample.updateCreation.operation.collectsSignatures = true ∧ true = true) := by
  refine ⟨?_, ?_, ?_⟩
  · exact (switch_decides_flagged _ _).1 _ Sample.updateCreation_keys
  · exact (switch_decides_flagged _ _).2.1 _ rfl
  · exact (switch_decides_flagged _ _).2.2 _ _ Sample.updateCreation_keys

end Resolver

end Signatory
