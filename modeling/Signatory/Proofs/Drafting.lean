import Signatory.Resolver

/-!
Orders that are made by adding to them, told without one. What adds to an order puts keys behind
those that are there, and neither which keys they are nor whether it fails depends on the order but
for its flag. Main statement: the keys of the other parties are those of a list that is told from
the operation, each under a flag that is given with it; and the flag is left as it was, however the
resolution ends.
-/
namespace Signatory

namespace Drafting

/-- Keys have been put behind those of the draft, all that were told or, after a failure, some. The
flag is that of the draft. -/
inductive Ends (draft : OrderDraft) :
    SigningOrder → Except OrderError Unit × OrderDraft → Prop where
  | added (keys : List RequiredKey) :
      Ends draft (.ok keys) (.ok (), { draft with keys := draft.keys ++ keys })
  | failed (e : OrderError) (keys : List RequiredKey) :
      Ends draft (.error e) (.error e, { draft with keys := draft.keys ++ keys })

/-- What is added to a draft is told from its flag alone. -/
def Adds (drafting : Drafting Unit) (told : Bool → SigningOrder) : Prop :=
  ∀ draft : OrderDraft, Ends draft (told draft.forScheduled) (drafting.run.run draft)

section Rules

variable {α : Type} {drafting further : Drafting Unit} {told more : Bool → SigningOrder}

theorem Ends.unchanged_added (draft : OrderDraft) : Ends draft (.ok []) (.ok (), draft) := by
  have ends := @Ends.added draft []
  rwa [List.append_nil] at ends

theorem Ends.unchanged_failed (draft : OrderDraft) (e : OrderError) :
    Ends draft (.error e) (.error e, draft) := by
  have ends := @Ends.failed draft e []
  rwa [List.append_nil] at ends

theorem Adds.congr (adds : drafting.Adds told)
    (same : ∀ forScheduled, told forScheduled = more forScheduled) : drafting.Adds more :=
  funext same ▸ adds

theorem Adds.nothing : Adds (pure ()) fun _ => .ok [] := fun draft => .unchanged_added draft

theorem Adds.refused (e : OrderError) : Adds (throw e) fun _ => .error e :=
  fun draft => .unchanged_failed draft e

theorem Adds.key (key : Key) : Adds (add key) fun forScheduled => .ok [⟨key, forScheduled⟩] :=
  fun draft => .added [⟨key, draft.forScheduled⟩]

theorem Adds.lookUp (found : Except OrderError α) {next : α → Drafting Unit}
    {told : α → Bool → SigningOrder} (rest : ∀ value, (next value).Adds (told value)) :
    Adds (do next (← found)) fun forScheduled => found >>= (told · forScheduled) := by
  cases found with
  | error e => exact Adds.refused e
  | ok value => exact rest value

theorem run_seq (drafting further : Drafting Unit) (draft : OrderDraft) :
    (do drafting; further : Drafting Unit).run.run draft =
      match drafting.run.run draft with
      | (.ok _, after) => further.run.run after
      | (.error e, after) => (.error e, after) := by
  rw [ExceptT.run_bind, StateT.run_bind]
  obtain ⟨outcome, after⟩ := drafting.run.run draft
  cases outcome <;> rfl

theorem Adds.seq (one : drafting.Adds told) (two : further.Adds more) :
    Adds (do drafting; further) fun forScheduled =>
      told forScheduled >>= fun keys => (keys ++ ·) <$> more forScheduled := by
  intro draft
  change Ends draft (told draft.forScheduled >>= fun keys => (keys ++ ·) <$> _) _
  rw [run_seq]
  have first := one draft
  generalize told draft.forScheduled = order, drafting.run.run draft = ended at first ⊢
  cases first with
  | failed e keys => exact .failed e keys
  | added keys =>
    -- the second part is told from the flag, which the first part has left as it was
    have second := two { draft with keys := draft.keys ++ keys }
    change Ends draft ((keys ++ ·) <$> more draft.forScheduled) (further.run.run _)
    generalize more _ = order, further.run.run _ = ended at second ⊢
    cases second with
    | failed e others =>
      rw [List.append_assoc]
      exact .failed e _
    | added others =>
      rw [List.append_assoc]
      exact .added _

theorem run_forScheduled (drafting : Drafting Unit) (draft : OrderDraft) :
    let ended := drafting.run.run { draft with forScheduled := true }
    (forScheduled drafting).run.run draft =
      (ended.1, { ended.2 with forScheduled := draft.forScheduled }) :=
  rfl

theorem Adds.meanwhile (adds : drafting.Adds told) :
    (forScheduled drafting).Adds fun _ => told true := by
  intro draft
  have ends := adds { draft with forScheduled := true }
  rw [run_forScheduled]
  generalize told _ = order, drafting.run.run _ = ended at ends ⊢
  cases ends with
  | failed e keys => exact .failed e keys
  | added keys => exact .added keys

theorem Ends.order_eq {keys : SigningOrder}
    (ends : Ends ⟨[], false⟩ keys (drafting.run.run ⟨[], false⟩)) : drafting.order = keys := by
  rw [order]
  generalize drafting.run.run _ = ended at ends ⊢
  cases ends <;> rfl

theorem Adds.order_eq (adds : drafting.Adds told) : drafting.order = told false :=
  (adds ⟨[], false⟩).order_eq

end Rules

section Keys

variable {α : Type} {drafting further : Drafting Unit} {keys others : Except OrderError (List Key)}

def AddsKeys (drafting : Drafting Unit) (keys : Except OrderError (List Key)) : Prop :=
  drafting.Adds fun forScheduled => List.map (RequiredKey.mk · forScheduled) <$> keys

theorem AddsKeys.congr (adds : drafting.AddsKeys keys) (same : keys = others) :
    drafting.AddsKeys others :=
  same ▸ adds

theorem AddsKeys.nothing : AddsKeys (pure ()) (.ok []) := Adds.nothing

theorem AddsKeys.key (key : Key) : AddsKeys (add key) (.ok [key]) := Adds.key key

theorem AddsKeys.lookUp (found : Except OrderError α) {next : α → Drafting Unit}
    {keys : α → Except OrderError (List Key)} (rest : ∀ value, (next value).AddsKeys (keys value)) :
    AddsKeys (do next (← found)) (found >>= keys) := by
  cases found with
  | error e => exact Adds.refused e
  | ok value => exact rest value

theorem AddsKeys.seq (one : drafting.AddsKeys keys) (two : further.AddsKeys others) :
    AddsKeys (do drafting; further) (keys >>= fun first => (first ++ ·) <$> others) := by
  refine (Adds.seq one two).congr fun forScheduled => ?_
  cases keys with
  | error e => rfl
  | ok first =>
    cases others with
    | error e => rfl
    | ok second => exact congrArg Except.ok List.map_append.symm

theorem AddsKeys.ifPresent (key : Option Key) : AddsKeys (addIfPresent key) (.ok key.toList) := by
  cases key with
  | none => exact .nothing
  | some key => exact .key key

end Keys

end Drafting

end Signatory
