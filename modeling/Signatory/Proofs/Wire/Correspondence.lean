import Signatory.Wire.Layout

/-!
Readers of two kinds that follow one layout. Main statement: a relation that single steps keep, and
one step after another, is kept by all layouts, so that whatever relates two ways to read the
children of a key, or the operation in a schedule, relates the readers of keys, operations and
bodies.
-/
namespace Signatory
open Wire

-- Two kinds of readers, of which nothing is known but that plain readers are among both.
variable {m n : Type → Type} [Monad m] [MonadLiftT Reader m] [Monad n] [MonadLiftT Reader n]

/-- A relation between readers of two kinds that is kept when they are put together alike. -/
structure Wire.Correspondence (related : ∀ {α : Type}, m α → n α → Prop) : Prop where
  pure {α : Type} (value : α) : related (pure value) (pure value)
  plain {α : Type} (read : Reader α) : related (liftM read) (liftM read)
  bind {α β : Type} {one : m α} {other : n α} {next : α → m β} {following : α → n β}
    (first : related one other) (rest : ∀ value, related (next value) (following value)) :
    related (one >>= next) (other >>= following)

namespace Wire.Correspondence

variable {related : ∀ {α : Type}, m α → n α → Prop} (law : Correspondence @related)

include law

section Parts

variable {α : Type} {one : m α} {other : n α}

theorem step {β : Type} {read : Reader β} {next : β → m α} {following : β → n α}
    (rest : ∀ value, related (next value) (following value)) :
    related (liftM read >>= next) (liftM read >>= following) :=
  law.bind (law.plain read) rest

theorem readOptionWith (each : related one other) :
    related (readOptionWith one) (readOptionWith other) := by
  refine law.step fun tag => ?_
  by_cases absent : tag = 0
  · simp only [absent, if_true]
    exact law.pure none
  · by_cases present : tag = 1
    · simp only [present, if_true]
      exact law.bind each fun _ => law.pure _
    · simp only [absent, present, if_false]
      exact law.plain _

theorem readManyWith (each : related one other) (count : Nat) :
    related (readManyWith one count) (readManyWith other count) := by
  induction count with
  | zero => exact law.pure []
  | succ count ih => exact law.bind each fun _ => law.bind ih fun _ => law.pure _

theorem readSequenceWith (each : related one other) :
    related (readSequenceWith one) (readSequenceWith other) :=
  law.step fun count => law.readManyWith each count

theorem readWholeWith (first : related one other) :
    related (readWholeWith one) (readWholeWith other) :=
  law.bind first fun _ => law.step fun _ => law.pure _

end Parts

theorem key {one : m (List Key)} {other : n (List Key)} (children : related one other) :
    related (Key.readWith one) (Key.readWith other) := by
  refine law.step fun variant => ?_
  split
  case h_1 | h_2 | h_5 => exact law.step fun _ => law.pure _
  case h_3 => exact law.bind children fun _ => law.pure _
  case h_4 => exact law.step fun _ => law.bind children fun _ => law.pure _
  case h_6 => exact law.plain _

theorem operation {oneKey : m Key} {otherKey : n Key} {one : m Operation} {other : n Operation}
    (keys : related oneKey otherKey) (scheduled : related one other) :
    related (Operation.readWith oneKey one) (Operation.readWith otherKey other) := by
  have optional := law.readOptionWith keys
  refine law.step fun variant => ?_
  -- the cases are put together by where keys stand among the fields
  split
  case h_2 | h_8 | h_15 | h_18 | h_19 | h_20 => exact law.step fun _ => law.pure _
  case h_4 | h_6 | h_12 | h_16 => exact law.step fun _ => law.step fun _ => law.pure _
  case h_10 => exact law.step fun _ => law.step fun _ => law.step fun _ => law.pure _
  case h_1 => exact law.bind keys fun _ => law.step fun _ => law.step fun _ => law.pure _
  case h_5 => exact law.bind keys fun _ => law.step fun _ => law.pure _
  case h_3 | h_7 | h_11 =>
    exact law.step fun _ => law.bind optional fun _ => law.step fun _ => law.pure _
  case h_9 => exact law.bind optional fun _ => law.step fun _ => law.step fun _ => law.pure _
  case h_13 =>
    exact law.bind optional fun _ => law.bind optional fun _ => law.step fun _ => law.pure _
  case h_14 =>
    exact law.step fun _ => law.bind optional fun _ => law.bind optional fun _ =>
      law.step fun _ => law.pure _
  case h_17 =>
    exact law.bind scheduled fun _ => law.bind optional fun _ => law.step fun _ =>
      law.step fun _ => law.pure _
  case h_21 => exact law.plain _

theorem body {one : m Operation} {other : n Operation} (operations : related one other) :
    related (TransactionBody.readWith one) (TransactionBody.readWith other) :=
  law.step fun _ => law.step fun _ => law.step fun _ => law.bind operations fun _ => law.pure _

end Wire.Correspondence

end Signatory
