import Signatory.Proofs.Wire.Correspondence
import Signatory.Wire.Levels

/-!
Levels that are counted on a thread. A level is opened in the middle of decoding, and whatever is
read in it may fail, or open further levels that fail. Main statement: whatever the counters are to
begin with, they are the same when decoding ends, and the answer is that of readers that are handed
the levels they are in; so no answer of a thread depends on what was decoded on it before.
-/
namespace Signatory
open Wire

variable {α : Type}

/-- From these open levels on, counting gives what being handed them gives, and leaves them open. -/
def CountingReader.Counts (levels : OpenLevels) (counting : CountingReader α)
    (nested : NestedReader α) : Prop :=
  ∀ bytes, (counting bytes).run.run levels = some (nested bytes, levels)

theorem CountingReader.counts_correspondence (levels : OpenLevels) :
    Correspondence (m := CountingReader) (n := NestedReader) (CountingReader.Counts levels) where
  pure _ := fun _ => rfl
  plain _ := fun _ => rfl
  bind {_ _ one other next following} first rest := by
    intro bytes
    change (one bytes >>= fun read => next read.1 read.2).run.run levels =
      some (other bytes >>= fun read => following read.1 read.2, levels)
    rw [ExceptT.run_bind, StateT.run_bind, first bytes]
    cases other bytes with
    | error halt => rfl
    | ok read => exact rest read.1 read.2

namespace Level

variable {level : Level} {levels : OpenLevels}

theorem run_enter (level : Level) (levels : OpenLevels) :
    level.enter.run.run levels = some (match increased (levels.count level) with
      | .ok next => (.ok next.1, levels.set level next.1)
      | .error halt => (.error halt, levels)) := by
  have counted : level.enter.run.run levels = ExceptT.run (m := Thread) (do
      let raised ← liftExcept (increased (levels.count level))
      set (levels.set level raised.1)
      return raised.1) levels := rfl
  rw [counted]
  cases increased (levels.count level) <;> rfl

theorem run_leave_set {next : UInt64} (follows : next.toNat = (levels.count level).toNat + 1) :
    level.leave.run (levels.set level next) = some ((), levels) := by
  change some ((), (levels.set level next).set level _) = _
  rw [OpenLevels.count_set, OpenLevels.set_set, decreased_of_next follows, OpenLevels.set_count]

theorem run_around_of_kept {counting : CountingReader α} {bytes : Bytes} {next : UInt64}
    {follows : next.toNat = (levels.count level).toNat + 1}
    {outcome : Except (Halt Fault) (α × Bytes)}
    (raised : increased (levels.count level) = .ok ⟨next, follows⟩)
    (kept : (if level.limit < next.toNat then throw (.error level.fault)
      else counting bytes : ExceptT (Halt Fault) Thread (α × Bytes)).run.run
        (levels.set level next) = some (outcome, levels.set level next)) :
    (level.around counting bytes).run.run levels = some (outcome, levels) := by
  rw [around, ExceptT.run_bind, StateT.run_bind, run_enter, raised]
  change (StateT.run (ExceptT.run _) (levels.set level next) >>= fun ended =>
    level.leave.run ended.2 >>= fun closed => some (ended.1, closed.2)) = _
  rw [kept]
  change (level.leave.run (levels.set level next) >>= fun closed => some (outcome, closed.2)) = _
  rw [run_leave_set follows]
  rfl

theorem counts_around {counting : CountingReader α}
    {nested : (deeper : UInt64) → level.left deeper < level.left (levels.count level) →
      NestedReader α}
    (inside : ∀ deeper fewer, counting.Counts (levels.set level deeper) (nested deeper fewer)) :
    (level.around counting).Counts levels (level.within (levels.count level) nested) := by
  intro bytes
  cases raised : increased (levels.count level) with
  | error halt =>
    rw [within_of_overflow raised, around, ExceptT.run_bind, StateT.run_bind, run_enter, raised]
    rfl
  | ok next =>
    obtain ⟨deeper, follows⟩ := next
    apply run_around_of_kept raised
    by_cases beyond : level.limit < deeper.toNat
    · rw [if_pos beyond, within_beyond raised beyond]
      rfl
    · rw [if_neg beyond, within_of_fewer raised beyond]
      exact inside deeper _ bytes

end Level

theorem Key.counts_readBelow (reach : Nat) (levels : OpenLevels)
    (enough : Level.keyList.left levels.keyLists < reach) :
    (Key.readCounting reach).Counts levels (Key.readBelow levels.keyLists) := by
  -- the children may reach one key less, and one level less is left for them
  induction reach generalizing levels with
  | zero => cases enough
  | succ reach ih =>
    rw [readCounting, readBelow]
    refine (CountingReader.counts_correspondence levels).key (Level.counts_around ?_)
    intro deeper fewer
    refine (CountingReader.counts_correspondence _).readSequenceWith ?_
    exact ih (levels.set .keyList deeper) (Nat.lt_of_lt_of_le fewer (Nat.le_of_lt_succ enough))

theorem Operation.counts_readBelow (keyReach reach : Nat) (levels : OpenLevels)
    (enoughKeys : Level.keyList.left levels.keyLists < keyReach)
    (enough : Level.schedule.left levels.schedules < reach) :
    (Operation.readCounting (Key.readCounting keyReach) reach).Counts levels
      (Operation.readBelow levels.keyLists levels.schedules) := by
  induction reach generalizing levels with
  | zero => cases enough
  | succ reach ih =>
    rw [readCounting, readBelow]
    refine (CountingReader.counts_correspondence levels).operation
      (Key.counts_readBelow keyReach levels enoughKeys) (Level.counts_around ?_)
    intro deeper fewer
    exact ih (levels.set .schedule deeper) enoughKeys
      (Nat.lt_of_lt_of_le fewer (Nat.le_of_lt_succ enough))

def NestedReader.IsPlain (nested : NestedReader α) (read : Reader α) : Prop :=
  ∀ bytes, nested bytes = (read bytes).mapError .error

theorem NestedReader.plain_correspondence :
    Correspondence (m := NestedReader) (n := Reader) NestedReader.IsPlain where
  pure _ := fun _ => rfl
  plain _ := fun _ => rfl
  bind {_ _ one other next following} first rest := by
    intro bytes
    change (one bytes >>= fun read => next read.1 read.2) =
      (other bytes >>= fun read => following read.1 read.2).mapError .error
    rw [first bytes]
    cases other bytes with
    | error fault => rfl
    | ok read => exact rest read.1 read.2

namespace Level

variable {level : Level} {opened : UInt64}
  {nested : (deeper : UInt64) → level.left deeper < level.left opened → NestedReader α}

theorem plain_within_of_none_left (fits : opened.toNat + 1 < UInt64.size)
    (left : level.left opened = 0) :
    (level.within opened nested).IsPlain (Reader.fail level.fault) := by
  intro bytes
  obtain ⟨next, follows, raised⟩ := increased_of_fits fits
  have beyond : level.limit < next.toNat := by
    unfold Level.left at left
    omega
  rw [within_beyond raised beyond]
  rfl

theorem plain_within_of_left {levels : Nat} {read : Reader α}
    (fits : opened.toNat + 1 < UInt64.size) (left : level.left opened = levels + 1)
    (inside : ∀ deeper fewer, deeper.toNat + 1 < UInt64.size → level.left deeper = levels →
      (nested deeper fewer).IsPlain read) :
    (level.within opened nested).IsPlain read := by
  intro bytes
  obtain ⟨next, follows, raised⟩ := increased_of_fits fits
  have far : level.limit + 1 < UInt64.size := by cases level <;> decide
  unfold Level.left at left
  have fewer : ¬ level.limit < next.toNat := by omega
  have leftNext : level.left next = levels := by
    unfold Level.left
    omega
  rw [within_of_fewer raised fewer]
  exact inside next _ (by omega) leftNext bytes

end Level

theorem Key.plain_readBelow {keyLists : UInt64} (fits : keyLists.toNat + 1 < UInt64.size) :
    (Key.readBelow keyLists).IsPlain (Key.read (Level.keyList.left keyLists)) := by
  have law := NestedReader.plain_correspondence
  induction left : Level.keyList.left keyLists generalizing keyLists with
  | zero =>
    rw [readBelow, read_zero]
    exact law.key (Level.plain_within_of_none_left fits left)
  | succ levels ih =>
    rw [readBelow, read_succ]
    refine law.key (Level.plain_within_of_left fits left ?_)
    intro deeper _ fitsDeeper leftDeeper
    exact law.readSequenceWith (ih fitsDeeper leftDeeper)

namespace Operation

def readUpTo (key : Reader Key) : (levels : Nat) → Reader Operation
  | 0 => readWith key (Reader.fail (.scheduleNesting maxScheduleNesting) : Reader Operation)
  | levels + 1 => readWith key (readUpTo key levels)

theorem read_eq_readUpTo (levels : Nat) :
    Operation.read levels = readUpTo Key.readNested levels := by
  induction levels with
  | zero => exact read_zero
  | succ levels ih => rw [read_succ, ih, readUpTo]

theorem plain_readBelow {keyLists schedules : UInt64}
    (fitsKeys : keyLists.toNat + 1 < UInt64.size) (fits : schedules.toNat + 1 < UInt64.size) :
    (readBelow keyLists schedules).IsPlain
      (readUpTo (Key.read (Level.keyList.left keyLists)) (Level.schedule.left schedules)) := by
  have law := NestedReader.plain_correspondence
  have keys := Key.plain_readBelow fitsKeys
  induction left : Level.schedule.left schedules generalizing schedules with
  | zero =>
    rw [readBelow]
    exact law.operation keys (Level.plain_within_of_none_left fits left)
  | succ levels ih =>
    rw [readBelow]
    refine law.operation keys (Level.plain_within_of_left fits left ?_)
    intro deeper _ fitsDeeper leftDeeper
    exact ih fitsDeeper leftDeeper

end Operation

namespace Decoding

variable {ε : Type} {nested : NestedReader α}

theorem run_counting (decoding : Decoding α ε) {levels : OpenLevels} {counting : CountingReader α}
    (counts : counting.Counts levels nested) (bytes : Bytes) :
    (decoding.counting counting bytes).run levels =
      some (decoding.nested nested bytes, levels) := by
  have whole := (CountingReader.counts_correspondence levels).readWholeWith counts bytes
  rw [Decoding.counting, StateT.run_map, whole]
  rfl

theorem nested_eq_plain (decoding : Decoding α ε) {read : Reader α} (plain : nested.IsPlain read)
    (bytes : Bytes) :
    decoding.nested nested bytes = (decoding.plain read bytes).mapError .error := by
  have whole := NestedReader.plain_correspondence.readWholeWith plain bytes
  rw [Decoding.nested, whole, Decoding.plain, Reader.run_eq_readWholeWith]
  cases readWholeWith read bytes <;> rfl

end Decoding

/-- There are words for one level more of either kind. -/
def OpenLevels.Fit (levels : OpenLevels) : Prop :=
  levels.keyLists.toNat + 1 < UInt64.size ∧ levels.schedules.toNat + 1 < UInt64.size

namespace DecodeRequest

/-- The answer of plain readers that let so many lists of keys and so many schedules through. -/
def answerWithin (keyLists schedules : Nat) : DecodeRequest → DecodeAnswer
  | .key bytes => .key ((Key.decoding.plain (Key.read keyLists) bytes).mapError .error)
  | .body bytes => .body ((TransactionBody.decoding.plain
      (TransactionBody.readWith (Operation.readUpTo (Key.read keyLists) schedules))
      bytes).mapError .error)

theorem run_counting (request : DecodeRequest) (levels : OpenLevels) (reach : Nat) :
    (request.counting (16 + reach)).run levels = some (request.below levels, levels) := by
  have enoughKeys : Level.keyList.left levels.keyLists < 16 + reach := by
    simp only [Level.left, Level.limit, Key.maxDepth]
    omega
  have enough : Level.schedule.left levels.schedules < 16 + reach := by
    simp only [Level.left, Level.limit, Operation.maxScheduleNesting]
    omega
  cases request with
  | key bytes =>
    have keys := Key.counts_readBelow _ levels enoughKeys
    rw [counting, StateT.run_map, Key.decoding.run_counting keys]
    rfl
  | body bytes =>
    have operations := Operation.counts_readBelow _ _ levels enoughKeys enough
    have bodies := (CountingReader.counts_correspondence levels).body operations
    rw [counting, StateT.run_map, TransactionBody.decoding.run_counting bodies]
    rfl

theorem run_mapM_counting (requests : List DecodeRequest) (levels : OpenLevels) (reach : Nat) :
    (requests.mapM (counting (16 + reach))).run levels =
      some (requests.map (below levels), levels) := by
  induction requests with
  | nil => rfl
  | cons request requests ih => simp [run_counting, ih]

theorem below_of_fit {levels : OpenLevels} (fit : levels.Fit) (request : DecodeRequest) :
    request.below levels = request.answerWithin (Level.keyList.left levels.keyLists)
      (Level.schedule.left levels.schedules) := by
  cases request with
  | key bytes =>
    have keys := Key.plain_readBelow fit.1
    rw [below, answerWithin, Key.decoding.nested_eq_plain keys]
  | body bytes =>
    have operations := Operation.plain_readBelow fit.1 fit.2
    have bodies := NestedReader.plain_correspondence.body operations
    rw [below, answerWithin, TransactionBody.decoding.nested_eq_plain bodies]

theorem below_zero (request : DecodeRequest) : request.below .zero = request.answer := by
  rw [below_of_fit ⟨by decide, by decide⟩]
  cases request with
  | key bytes =>
    rw [answer, Key.decode_eq_plain]
    rfl
  | body bytes =>
    rw [answer, TransactionBody.decode_eq_plain, TransactionBody.read_eq,
      Operation.read_eq_readUpTo]
    rfl

theorem not_overflows_of_fit {levels : OpenLevels} (fit : levels.Fit) (request : DecodeRequest) :
    (request.below levels).overflows = false := by
  rw [below_of_fit fit]
  cases request with
  | key bytes =>
    rw [answerWithin]
    cases Key.decoding.plain _ bytes <;> rfl
  | body bytes =>
    rw [answerWithin]
    cases TransactionBody.decoding.plain _ bytes <;> rfl

/-- Any bytes, decoded as a key or as a body, leave as many levels open as there were, and are never
cut short. On a thread on which no level is open all answers are those of readers that are handed
the levels, which are the answers of the decoders of keys and bodies. A counter has to be at the
last word there is for a level that cannot be counted. -/
theorem leaves_no_level_open (reach : Nat) :
    (∀ (request : DecodeRequest) (levels : OpenLevels),
      (request.counting (16 + reach)).run levels = some (request.below levels, levels)) ∧
    (∀ requests : List DecodeRequest, (requests.mapM (counting (16 + reach))).run .zero =
      some (requests.map (below .zero), .zero)) ∧
    (∀ request : DecodeRequest, request.below .zero = request.answer) ∧
    ∀ (request : DecodeRequest) (levels : OpenLevels), (request.below levels).overflows = false ∨
      levels.keyLists.toNat + 1 = UInt64.size ∨ levels.schedules.toNat + 1 = UInt64.size := by
  refine ⟨fun request levels => run_counting request levels reach,
    fun requests => run_mapM_counting requests .zero reach, below_zero, ?_⟩
  intro request levels
  by_cases fit : levels.Fit
  · exact .inl (not_overflows_of_fit fit request)
  · have keyLists := levels.keyLists.toNat_lt_size
    have schedules := levels.schedules.toNat_lt_size
    unfold OpenLevels.Fit at fit
    omega

set_option maxRecDepth 4000 in
example : ([.key ((List.replicate 15 [2, 1]).flatten ++ [2, 0]), .key [2, 1, 0, 0]].mapM
    (counting 16)).run .zero =
      some ([.key (.error (.error (.encoding (.keyNesting 15)))),
        .key (.ok (.list [.simple ⟨.ed25519, []⟩]))], .zero) := by cbv

end DecodeRequest

end Signatory
