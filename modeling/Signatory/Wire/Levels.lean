import Signatory.Wire.Layout

/-!
Two ways to keep nested values within bounds. The levels that stand open can be counted on the
thread that decodes: a level is opened before what lies in it is read, and closed however that
ends. Or each reader can be handed the number of levels it is in. Both refuse a level beyond the
limit before any of it is read.
-/
namespace Signatory
open Wire

/-- What opens a level: the children of a key, and the operation in a schedule. -/
inductive Level where
  | keyList
  | schedule
deriving DecidableEq, Repr

namespace Level

def limit : Level → Nat
  | .keyList => Key.maxDepth
  | .schedule => Operation.maxScheduleNesting

def fault : Level → Fault
  | .keyList => .keyNesting (limit .keyList)
  | .schedule => .scheduleNesting (limit .schedule)

def left (level : Level) (opened : UInt64) : Nat := level.limit - opened.toNat

end Level

structure OpenLevels where
  keyLists : UInt64
  schedules : UInt64
deriving DecidableEq, Repr

namespace OpenLevels

def zero : OpenLevels := ⟨0, 0⟩

def count (levels : OpenLevels) : Level → UInt64
  | .keyList => levels.keyLists
  | .schedule => levels.schedules

def set (levels : OpenLevels) : Level → UInt64 → OpenLevels
  | .keyList, count => { levels with keyLists := count }
  | .schedule, count => { levels with schedules := count }

@[simp] theorem count_set (levels : OpenLevels) (level : Level) (n : UInt64) :
    (levels.set level n).count level = n := by
  cases level <;> rfl

@[simp] theorem set_set (levels : OpenLevels) (level : Level) (n k : UInt64) :
    (levels.set level n).set level k = levels.set level k := by
  cases level <;> rfl

@[simp] theorem set_count (levels : OpenLevels) (level : Level) :
    levels.set level (levels.count level) = levels := by
  cases level <;> rfl

end OpenLevels

/-- How decoding ends without a value. -/
inductive Halt (ε : Type) where
  | error (cause : ε)
  /-- A level was to be counted for which there is no word left. -/
  | overflow
deriving DecidableEq, Repr

def Halt.map {ε δ : Type} (rename : ε → δ) : Halt ε → Halt δ
  | .error cause => .error (rename cause)
  | .overflow => .overflow

def increased (n : UInt64) : Except (Halt Fault) { next : UInt64 // next.toNat = n.toNat + 1 } :=
  if fits : n.toNat + 1 < UInt64.size then
    .ok ⟨.ofNatLT (n.toNat + 1) fits, UInt64.toNat_ofNatLT⟩
  else .error .overflow

def decreased (n : UInt64) : UInt64 := .ofNat (n.toNat - 1)

theorem increased_of_fits {n : UInt64} (fits : n.toNat + 1 < UInt64.size) :
    ∃ next follows, increased n = .ok ⟨next, follows⟩ :=
  ⟨_, _, dif_pos fits⟩

theorem decreased_of_next {n next : UInt64} (follows : next.toNat = n.toNat + 1) :
    decreased next = n := by
  rw [decreased, follows, Nat.add_sub_cancel, UInt64.ofNat_toNat]

/-- What a thread does that counts open levels. What is cut short gives nothing. -/
abbrev Thread := StateT OpenLevels Option

/-- Readers that count the levels that are open. The counters are kept also when reading fails. -/
abbrev CountingReader := StateT Bytes (ExceptT (Halt Fault) Thread)

abbrev NestedReader := StateT Bytes (Except (Halt Fault))

instance : MonadLift Reader CountingReader where
  monadLift read := fun bytes => ExceptT.mk (pure ((read bytes).mapError .error))

instance : MonadLift Reader NestedReader where
  monadLift read := fun bytes => (read bytes).mapError .error

def CountingReader.cut {α : Type} : CountingReader α := fun _ => ExceptT.lift (StateT.lift none)

namespace Level

def enter (level : Level) : ExceptT (Halt Fault) Thread UInt64 := do
  let levels ← get
  let raised ← liftExcept (increased (levels.count level))
  set (levels.set level raised)
  return raised

def leave (level : Level) : Thread Unit :=
  modify fun levels => levels.set level (decreased (levels.count level))

/-- Reads within one more level, which is closed whichever way reading ends. -/
def around {α : Type} (level : Level) (read : CountingReader α) : CountingReader α :=
  fun bytes => do
    let opened ← level.enter
    ExceptT.mk do
      let outcome ← ExceptT.run <|
        if level.limit < opened.toNat then throw (.error level.fault) else read bytes
      level.leave
      return outcome

theorem left_lt_left {level : Level} {opened next : UInt64}
    (follows : next.toNat = opened.toNat + 1) (fewer : ¬ level.limit < next.toNat) :
    level.left next < level.left opened := by
  unfold left
  omega

def within {α : Type} (level : Level) (opened : UInt64)
    (read : (deeper : UInt64) → level.left deeper < level.left opened → NestedReader α) :
    NestedReader α := fun bytes => do
  let ⟨deeper, next⟩ ← increased opened
  if beyond : level.limit < deeper.toNat then throw (.error level.fault)
  else read deeper (left_lt_left next beyond) bytes

section Within

variable {α : Type} {level : Level} {opened next : UInt64}
  {read : (deeper : UInt64) → level.left deeper < level.left opened → NestedReader α}
  {follows : next.toNat = opened.toNat + 1}

theorem within_of_overflow {halt : Halt Fault} (raised : increased opened = .error halt)
    (bytes : Bytes) : level.within opened read bytes = .error halt := by
  rw [within, raised]
  rfl

theorem within_beyond (raised : increased opened = .ok ⟨next, follows⟩)
    (beyond : level.limit < next.toNat) (bytes : Bytes) :
    level.within opened read bytes = .error (.error level.fault) := by
  rw [within, raised]
  exact dif_pos beyond

theorem within_of_fewer (raised : increased opened = .ok ⟨next, follows⟩)
    (fewer : ¬ level.limit < next.toNat) (bytes : Bytes) :
    level.within opened read bytes = read next (left_lt_left follows fewer) bytes := by
  rw [within, raised]
  exact dif_neg fewer

end Within

end Level

namespace Key

def readCounting : (reach : Nat) → CountingReader Key
  | 0 => .cut
  | reach + 1 => readWith (Level.keyList.around (readSequenceWith (readCounting reach)))

def readBelow (keyLists : UInt64) : NestedReader Key :=
  readWith (Level.keyList.within keyLists fun deeper _ => readSequenceWith (readBelow deeper))
termination_by Level.keyList.left keyLists

end Key

namespace Operation

def readCounting (key : CountingReader Key) : (reach : Nat) → CountingReader Operation
  | 0 => .cut
  | reach + 1 => readWith key (Level.schedule.around (readCounting key reach))

def readBelow (keyLists schedules : UInt64) : NestedReader Operation :=
  readWith (Key.readBelow keyLists)
    (Level.schedule.within schedules fun deeper _ => readBelow keyLists deeper)
termination_by Level.schedule.left schedules

end Operation

structure Decoding (α ε : Type) where
  named : Fault → ε
  accept : α → Except ε α

namespace Decoding

variable {α ε : Type} (decoding : Decoding α ε)

def answer (outcome : Except (Halt Fault) (α × Bytes)) : Except (Halt ε) α := do
  let (value, _) ← outcome.mapError (Halt.map decoding.named)
  (decoding.accept value).mapError .error

def counting (read : CountingReader α) (bytes : Bytes) : Thread (Except (Halt ε) α) :=
  decoding.answer <$> (readWholeWith read bytes).run

def nested (read : NestedReader α) (bytes : Bytes) : Except (Halt ε) α :=
  decoding.answer (readWholeWith read bytes)

def plain (read : Reader α) (bytes : Bytes) : Except ε α := do
  decoding.accept (← (read.run bytes).mapError decoding.named)

end Decoding

namespace Key

def decoding : Decoding Key KeyError where
  named := .encoding
  accept key := if key.depth ≤ maxDepth then .ok key else .error (.tooDeep key.depth maxDepth)

theorem decode_eq_plain (bytes : Bytes) : decode bytes = decoding.plain readNested bytes := by
  unfold decode Decoding.plain
  cases readNested.run bytes <;> rfl

end Key

namespace TransactionBody

def decoding : Decoding TransactionBody TransactionError where
  named := .malformedBody
  accept body :=
    let depth := Key.greatestDepth body.operation.embeddedKeys
    if depth ≤ Key.maxDepth then .ok body else .error (.keyTooDeep depth Key.maxDepth)

theorem decode_eq_plain (bytes : Bytes) : decode bytes = decoding.plain read bytes := by
  unfold decode Decoding.plain
  cases read.run bytes <;> rfl

end TransactionBody

inductive DecodeRequest where
  | key (bytes : Bytes)
  | body (bytes : Bytes)
deriving DecidableEq, Repr

inductive DecodeAnswer where
  | key (answer : Except (Halt KeyError) Key)
  | body (answer : Except (Halt TransactionError) TransactionBody)

def DecodeAnswer.overflows : DecodeAnswer → Bool
  | .key (.error .overflow) | .body (.error .overflow) => true
  | .key _ | .body _ => false

namespace DecodeRequest

/-- The answer of a thread that counts the levels that are open. No more than `reach` keys are read
within each other, and no more operations. -/
def counting (reach : Nat) : DecodeRequest → Thread DecodeAnswer
  | .key bytes => .key <$> Key.decoding.counting (Key.readCounting reach) bytes
  | .body bytes => .body <$> TransactionBody.decoding.counting
      (TransactionBody.readWith (Operation.readCounting (Key.readCounting reach) reach)) bytes

def below (levels : OpenLevels) : DecodeRequest → DecodeAnswer
  | .key bytes => .key (Key.decoding.nested (Key.readBelow levels.keyLists) bytes)
  | .body bytes => .body (TransactionBody.decoding.nested
      (TransactionBody.readWith (Operation.readBelow levels.keyLists levels.schedules)) bytes)

def answer : DecodeRequest → DecodeAnswer
  | .key bytes => .key ((Key.decode bytes).mapError .error)
  | .body bytes => .body ((TransactionBody.decode bytes).mapError .error)

end DecodeRequest

end Signatory
