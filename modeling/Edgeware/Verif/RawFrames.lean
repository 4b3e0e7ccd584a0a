import Edgeware.Tracing.Raw
import Edgeware.Spec.Frame

/-!
# The raw listener tracks the frames of well-formed streams

Fed a transaction whose every frame starts with a step, the raw listener logs one step per
`Step` at the depth of the frame that ran it, ends with no open context, and keeps the return
value of the root frame's exit (`feed_rawTransaction`).

Frame tracking reads four things of the listener: the depth of the pending step of each open
context, whether a context is due, the depths logged, and the return value (`frameView`). Quiet
events change none of them (`event_quiet`); a `Step` opens a context if one is due and makes
the top one pending at the depth of the stack; a `StepResult` logs the pending step, and then
goes on, opens a context or exits. A frame is then run by induction on its grammar
(`feed_frame`), from a view where no step is pending below the depth it runs at.
-/

namespace Edgeware.Tracing.Raw

open Events Spec

namespace Listener

/-- What frame tracking reads of the listener. -/
structure FrameView where
  pending : List (Option Nat)
  newContext : Bool
  depths : List Nat
  returnValue : Bytes
  deriving DecidableEq

/-- The frame view of a listener: the depth of the pending step of each open context, top first,
whether a context is due, the depths logged and the return value. -/
def frameView (l : Listener) : FrameView :=
  ⟨l.contextStack.map fun context => context.currentStep.map Step.depth, l.newContext,
    l.stepLogs.map RawStepLog.depth, l.returnValue⟩

/-- The view of a listener about to run a frame at `depth`: no step pending, and the frame's
context open unless it is due. -/
def readyView (depth : Nat) (fresh : Bool) (depths : List Nat) (returnValue : Bytes) : FrameView :=
  ⟨List.replicate (if fresh then depth - 1 else depth) none, fresh, depths, returnValue⟩

section Feed

variable {l : Listener}

theorem feed_cons (event : Event) (events : List Event) :
    l.feed (event :: events) = (l.event event).bind fun l => l.feed events :=
  rfl

theorem feed_append_of {first : List Event} {l' : Listener} (fed : l.feed first = some l')
    (second : List Event) : l.feed (first ++ second) = l'.feed second := by
  rw [feed, List.foldlM_append]
  exact congrArg (· >>= fun l => l.feed second) fed

end Feed

section Quiet

theorem recordOpcodeCost_frameView (l : Listener) (cost : UInt64) (snapshot : Snapshot) :
    (l.recordOpcodeCost cost snapshot).frameView = l.frameView := by
  unfold recordOpcodeCost
  split
  · rfl
  · next stacked => simp [frameView, stacked, Option.map_map, Function.comp_def]

theorem recordStorage_frameView (l : Listener) (index value : H256) :
    (l.recordStorage index value).frameView = l.frameView := by
  unfold recordStorage
  split
  · rfl
  · next stacked =>
    split
    · simp [frameView, stacked]
    · rfl

/-- A quiet event does not touch frame tracking. -/
theorem event_quiet (l : Listener) (quiet : RawQuiet) :
    ∃ l', l.event quiet.event = some l' ∧ l'.frameView = l.frameView := by
  obtain ⟨event, isQuiet⟩ := quiet
  cases event with
  | gasometer event =>
    refine ⟨l.gasometerEvent event, rfl, ?_⟩
    cases event with
    | recordCost cost snapshot => exact recordOpcodeCost_frameView l cost snapshot
    | recordDynamicCost gasCost snapshot => exact recordOpcodeCost_frameView l gasCost snapshot
    | recordTransaction => simp [Event.isRawQuiet] at isQuiet
    | recordRefund | recordStipend => rfl
  | runtime event =>
    cases event with
    | step | stepResult => simp [Event.isRawQuiet] at isQuiet
    | sLoad _ index value | sStore _ index value =>
      exact ⟨l.recordStorage index value, rfl, recordStorage_frameView l index value⟩
  | evm | callListNew => exact ⟨l, rfl, rfl⟩

/-- A run of quiet events does not touch frame tracking. -/
theorem feed_quiets (quiets : List RawQuiet) (l : Listener) :
    ∃ l', l.feed (Frame.quietEvents quiets) = some l' ∧ l'.frameView = l.frameView := by
  induction quiets generalizing l with
  | nil => exact ⟨l, rfl, rfl⟩
  | cons quiet rest ih =>
    obtain ⟨l₁, evented, kept₁⟩ := event_quiet l quiet
    obtain ⟨l₂, fed, kept₂⟩ := ih l₁
    refine ⟨l₂, ?_, kept₂.trans kept₁⟩
    rw [Frame.quietEvents, List.map_cons, feed_cons, evented, Option.bind_some]
    exact fed

end Quiet

section Steps

/-- Data the listener asked for and the runtime sent is never missing. -/
theorem expected_some {α β : Type} (disabled : Bool) (data : α) (read : α → β) :
    ∃ value, expected disabled (some data) read = some value := by
  cases disabled
  · exact ⟨_, rfl⟩
  · exact ⟨_, rfl⟩

/-- The `Step` of a frame whose context is due opens it and makes it pending at the depth of
the stack. -/
theorem step_fresh {l : Listener} {pending : List (Option Nat)} {depths : List Nat}
    {returnValue : Bytes} (viewed : l.frameView = ⟨pending, true, depths, returnValue⟩)
    (data : StepData) :
    ∃ l', l.event data.event = some l' ∧
      l'.frameView = ⟨some (pending.length + 1) :: pending, false, depths, returnValue⟩ := by
  simp only [frameView, FrameView.mk.injEq] at viewed
  obtain ⟨stacked, due, logged, kept⟩ := viewed
  obtain ⟨memory, memoryRead⟩ := expected_some l.disableMemory data.memory Memory.data
  obtain ⟨stack, stackRead⟩ := expected_some l.disableStack data.stack Stack.data
  show ∃ l', l.step data.context data.opcode data.position (some data.stack) (some data.memory) =
    some l' ∧ _
  unfold step
  simp only [due, if_true, memoryRead, stackRead, Option.bind_eq_bind, Option.bind_some]
  refine ⟨_, rfl, ?_⟩
  simp [frameView, openContext, ← stacked, logged, kept]

/-- The `Step` of a frame whose context is open makes it pending at the depth of the stack. -/
theorem step_open {l : Listener} {top : Option Nat} {pending : List (Option Nat)}
    {depths : List Nat} {returnValue : Bytes}
    (viewed : l.frameView = ⟨top :: pending, false, depths, returnValue⟩) (data : StepData) :
    ∃ l', l.event data.event = some l' ∧
      l'.frameView = ⟨some (pending.length + 1) :: pending, false, depths, returnValue⟩ := by
  simp only [frameView, FrameView.mk.injEq] at viewed
  obtain ⟨stacked, due, logged, kept⟩ := viewed
  obtain ⟨memory, memoryRead⟩ := expected_some l.disableMemory data.memory Memory.data
  obtain ⟨stack, stackRead⟩ := expected_some l.disableStack data.stack Stack.data
  show ∃ l', l.step data.context data.opcode data.position (some data.stack) (some data.memory) =
    some l' ∧ _
  unfold step
  simp only [due, Bool.false_eq_true, if_false]
  cases opened : l.contextStack with
  | nil => simp [opened] at stacked
  | cons context rest =>
    rw [opened, List.map_cons, List.cons.injEq] at stacked
    simp only [memoryRead, stackRead, Option.bind_eq_bind, Option.bind_some]
    refine ⟨_, rfl, ?_⟩
    simp [frameView, ← stacked.2, logged, kept]

/-- The result of a pending step logs it at its depth. -/
theorem logStep_pending {l : Listener} {depth : Nat} {pending : List (Option Nat)} {fresh : Bool}
    {depths : List Nat} {returnValue : Bytes}
    (viewed : l.frameView = ⟨some depth :: pending, fresh, depths, returnValue⟩) :
    l.logStep.frameView = ⟨none :: pending, fresh, depths ++ [depth], returnValue⟩ := by
  simp only [frameView, FrameView.mk.injEq] at viewed
  obtain ⟨stacked, due, logged, kept⟩ := viewed
  unfold logStep
  cases opened : l.contextStack with
  | nil => simp [opened] at stacked
  | cons context rest =>
    rw [opened, List.map_cons, List.cons.injEq] at stacked
    obtain ⟨current, below⟩ := stacked
    cases stepping : context.currentStep with
    | none => simp [stepping] at current
    | some step =>
      simp only [stepping, Option.map_some, Option.some.injEq] at current
      simp [frameView, stepLog, stepping, ← below, ← logged, current, due, kept]

/-- The result of a step with none pending logs nothing. -/
theorem logStep_idle {l : Listener} {pending : List (Option Nat)} {fresh : Bool}
    {depths : List Nat} {returnValue : Bytes}
    (viewed : l.frameView = ⟨none :: pending, fresh, depths, returnValue⟩) : l.logStep = l := by
  simp only [frameView, FrameView.mk.injEq] at viewed
  unfold logStep
  cases opened : l.contextStack with
  | nil => rfl
  | cons context rest =>
    have current : context.currentStep = none := by
      have top := viewed.1
      simp only [opened, List.map_cons, List.cons.injEq, Option.map_eq_none_iff] at top
      exact top.1
    simp [current]

/-- Handing storage changes to a parent leaves its pending step as it was. -/
theorem foldl_applyChange_currentStep (changes : List (H160 × OrdMap H256 H256))
    (parent : Context) : (changes.foldl applyChange parent).currentStep = parent.currentStep := by
  induction changes generalizing parent with
  | nil => rfl
  | cons change rest ih =>
    obtain ⟨address, storage⟩ := change
    rw [List.foldl_cons, ih]
    unfold applyChange
    dsimp only
    split <;> rfl

/-- The exit of a context with no pending step pops it, and keeps the return value when it was
the last one. -/
theorem exitContext_frameView {l : Listener} {pending : List (Option Nat)} {fresh : Bool}
    {depths : List Nat} {returnValue : Bytes}
    (viewed : l.frameView = ⟨none :: pending, fresh, depths, returnValue⟩) (reason : ExitReason)
    (exitValue : Bytes) :
    (l.exitContext reason exitValue).frameView =
      ⟨pending, fresh, depths, if pending = [] then exitValue else returnValue⟩ := by
  simp only [frameView, FrameView.mk.injEq] at viewed
  obtain ⟨stacked, due, logged, kept⟩ := viewed
  unfold exitContext
  cases opened : l.contextStack with
  | nil => simp [opened] at stacked
  | cons context rest =>
    rw [opened, List.map_cons, List.cons.injEq] at stacked
    cases rest with
    | nil =>
      simp only [List.isEmpty_nil, if_true]
      split <;> simp [frameView, ← stacked.2, due, logged]
    | cons parent grandparents =>
      have above : pending ≠ [] := by
        rw [← stacked.2]
        exact List.cons_ne_nil _ _
      simp only [List.isEmpty_cons, Bool.false_eq_true, if_false, if_neg above]
      split
      · split_ifs
        · simp [frameView, ← stacked.2, due, logged, kept, foldl_applyChange_currentStep]
        · simp [frameView, ← stacked.2, due, logged, kept]
      · simp [frameView, ← stacked.2, due, logged, kept]

/-- A result that lets the frame go on only logs its step. -/
theorem event_result_ok (l : Listener) (returnValue : Bytes) :
    l.event (.runtime (.stepResult (.ok ()) returnValue)) = some l.logStep :=
  rfl

/-- A result that traps on a call or creation logs its step and makes a context due. -/
theorem event_result_trap (l : Listener) (opcode : CallOpcode) (returnValue : Bytes) :
    l.event (.runtime (.stepResult (.error (.trap opcode.name)) returnValue)) =
      some { l.logStep with newContext := true } := by
  show (if (ContextType.from opcode.name).isSome then _ else _) = _
  rw [if_pos (CallOpcode.opens opcode)]

/-- A result that exits logs its step and closes the top context. -/
theorem event_result_exit (l : Listener) (reason : ExitReason) (returnValue : Bytes) :
    l.event (.runtime (.stepResult (.error (.exit reason)) returnValue)) =
      some (l.logStep.exitContext reason returnValue) :=
  rfl

end Steps

section Frames

variable {depth : Nat} {depths : List Nat} {returnValue : Bytes}

theorem replicate_pred (positive : 0 < depth) :
    none :: List.replicate (depth - 1) (none : Option Nat) = List.replicate depth none := by
  rw [← List.replicate_succ, Nat.sub_add_cancel positive]

theorem readyView_fresh :
    readyView depth true depths returnValue =
      ⟨List.replicate (depth - 1) none, true, depths, returnValue⟩ :=
  rfl

theorem readyView_open (positive : 0 < depth) :
    readyView depth false depths returnValue =
      ⟨none :: List.replicate (depth - 1) none, false, depths, returnValue⟩ := by
  rw [readyView, replicate_pred positive]
  rfl

/-- The quiet events before a step, the step and the quiet events after it leave the step
pending at the frame's depth. -/
theorem feed_stepped {l : Listener} {fresh : Bool}
    (ready : l.frameView = readyView depth fresh depths returnValue) (positive : 0 < depth)
    (before : List RawQuiet) (data : StepData) (during : List RawQuiet) :
    ∃ l', l.feed (Frame.quietEvents before ++ data.event :: Frame.quietEvents during) = some l' ∧
      l'.frameView = ⟨some depth :: List.replicate (depth - 1) none, false, depths, returnValue⟩ := by
  obtain ⟨l₁, fed₁, kept₁⟩ := feed_quiets before l
  have viewed₁ := kept₁.trans ready
  have stepped : ∃ l₂, l₁.event data.event = some l₂ ∧
      l₂.frameView = ⟨some depth :: List.replicate (depth - 1) none, false, depths, returnValue⟩ := by
    cases fresh with
    | true =>
      obtain ⟨l₂, evented, viewed₂⟩ := step_fresh (viewed₁.trans readyView_fresh) data
      refine ⟨l₂, evented, ?_⟩
      rw [viewed₂, List.length_replicate, Nat.sub_add_cancel positive]
    | false =>
      obtain ⟨l₂, evented, viewed₂⟩ := step_open (viewed₁.trans (readyView_open positive)) data
      refine ⟨l₂, evented, ?_⟩
      rw [viewed₂, List.length_replicate, Nat.sub_add_cancel positive]
  obtain ⟨l₂, evented, viewed₂⟩ := stepped
  obtain ⟨l₃, fed₃, kept₃⟩ := feed_quiets during l₂
  refine ⟨l₃, ?_, kept₃.trans viewed₂⟩
  rw [feed_append_of fed₁, feed_cons, evented, Option.bind_some]
  exact fed₃

/-- The exit of a frame at `depth` leaves the frames below it, and the return value of the
root. -/
theorem exited_frameView {l : Listener} (positive : 0 < depth) {exitValue : Bytes}
    (viewed : l.frameView = ⟨none :: List.replicate (depth - 1) none, false, depths, returnValue⟩)
    (reason : ExitReason) :
    (l.exitContext reason exitValue).frameView =
      ⟨List.replicate (depth - 1) none, false, depths,
        if depth = 1 then exitValue else returnValue⟩ := by
  rw [exitContext_frameView viewed]
  have last : List.replicate (depth - 1) (none : Option Nat) = [] ↔ depth = 1 := by
    rw [List.replicate_eq_nil_iff]
    omega
  simp only [last]

/-- A frame at `depth` whose callees all start with a step, run from a view where no step is
pending, logs its steps and its callees' at their depths, and closes its own context. -/
theorem feed_frame (frame : Frame) (nested : frame.Nested) :
    ∀ (l : Listener) (depth : Nat) (fresh : Bool) (depths : List Nat) (returnValue : Bytes),
      l.frameView = readyView depth fresh depths returnValue → 0 < depth →
      (fresh = true → frame.opens = true) →
      ∃ l', l.feed frame.events = some l' ∧
        l'.frameView = ⟨List.replicate (depth - 1) none, false, depths ++ frame.depths depth,
          if depth = 1 then frame.returnValue else returnValue⟩ := by
  induction frame with
  | exit before reason exitValue =>
    intro l depth fresh depths returnValue ready positive opens
    have notDue : fresh = false := by
      cases fresh
      · rfl
      · simp [Frame.opens] at opens
    subst notDue
    obtain ⟨l₁, fed₁, kept₁⟩ := feed_quiets before l
    have viewed := kept₁.trans (ready.trans (readyView_open positive))
    refine ⟨(l₁.logStep).exitContext reason exitValue, ?_, ?_⟩
    · rw [Frame.events, feed_append_of fed₁, feed_cons, event_result_exit, Option.bind_some]
      rfl
    · rw [logStep_idle viewed, exited_frameView positive viewed, Frame.depths, List.append_nil]
      rfl
  | last before data during reason exitValue =>
    intro l depth fresh depths returnValue ready positive _
    obtain ⟨l₁, fed₁, viewed₁⟩ := feed_stepped ready positive before data during
    refine ⟨(l₁.logStep).exitContext reason exitValue, ?_, ?_⟩
    · rw [Frame.events, feed_append_of fed₁, feed_cons, event_result_exit, Option.bind_some]
      rfl
    · rw [exited_frameView positive (logStep_pending viewed₁)]
      rfl
  | step before data during stepValue rest ih =>
    intro l depth fresh depths returnValue ready positive _
    obtain ⟨l₁, fed₁, viewed₁⟩ := feed_stepped ready positive before data during
    have ready₂ : l₁.logStep.frameView = readyView depth false (depths ++ [depth]) returnValue :=
      (logStep_pending viewed₁).trans (readyView_open positive).symm
    obtain ⟨l₂, fed₂, viewed₂⟩ := ih nested l₁.logStep depth false _ _ ready₂ positive nofun
    refine ⟨l₂, ?_, ?_⟩
    · rw [Frame.events, feed_append_of fed₁, feed_cons, event_result_ok, Option.bind_some]
      exact fed₂
    · rw [viewed₂, Frame.depths, Frame.returnValue, List.append_assoc, List.singleton_append]
  | call before data during opcode trapValue callee rest ihCallee ihRest =>
    intro l depth fresh depths returnValue ready positive _
    obtain ⟨opens, nestedCallee, nestedRest⟩ := nested
    obtain ⟨l₁, fed₁, viewed₁⟩ := feed_stepped ready positive before data during
    have ready₂ : ({ l₁.logStep with newContext := true } : Listener).frameView =
        readyView (depth + 1) true (depths ++ [depth]) returnValue := by
      have logged := logStep_pending viewed₁
      simp only [frameView, FrameView.mk.injEq] at logged
      simp only [frameView, readyView, if_true, Nat.add_sub_cancel, ← replicate_pred positive,
        logged]
    obtain ⟨l₂, fed₂, viewed₂⟩ :=
      ihCallee nestedCallee _ (depth + 1) true _ _ ready₂ (Nat.succ_pos depth) fun _ => opens
    have ready₃ : l₂.frameView =
        readyView depth false (depths ++ [depth] ++ callee.depths (depth + 1)) returnValue := by
      rw [viewed₂, if_neg (by omega), Nat.add_sub_cancel]
      rfl
    obtain ⟨l₃, fed₃, viewed₃⟩ := ihRest nestedRest l₂ depth false _ _ ready₃ positive nofun
    refine ⟨l₃, ?_, ?_⟩
    · rw [Frame.events, List.append_assoc, feed_append_of fed₁, List.cons_append, feed_cons,
        event_result_trap, Option.bind_some, feed_append_of fed₂]
      exact fed₃
    · rw [viewed₃, Frame.depths, Frame.returnValue]
      simp

end Frames

/-- Fed a transaction whose root frame and callee frames all start with a step, the raw
listener, with any of its data disabled, logs every step at the depth of the frame that ran it,
the root's at depth one, closes every context, and keeps the return value of the root frame's
exit. -/
theorem feed_rawTransaction (tx : RawTransaction) (opens : tx.root.opens = true)
    (nested : tx.root.Nested) (disableStorage disableMemory disableStack : Bool) :
    ∃ l, (new disableStorage disableMemory disableStack).feed tx.events = some l ∧
      l.contextStack = [] ∧ l.stepLogs.map RawStepLog.depth = tx.root.depths 1 ∧
      l.returnValue = tx.root.returnValue := by
  let l₀ := new disableStorage disableMemory disableStack
  let started := l₀.gasometerEvent (.recordTransaction tx.cost tx.snapshot)
  have ready : started.frameView = readyView 1 true [] [] := rfl
  obtain ⟨l₁, fed₁, kept₁⟩ := feed_quiets tx.before started
  obtain ⟨l₂, fed₂, viewed₂⟩ :=
    feed_frame tx.root nested l₁ 1 true [] [] (kept₁.trans ready) Nat.one_pos fun _ => opens
  obtain ⟨l₃, fed₃, kept₃⟩ := feed_quiets tx.after l₂
  have viewed₃ := kept₃.trans viewed₂
  simp only [frameView, FrameView.mk.injEq, Nat.sub_self, List.replicate_zero, List.map_eq_nil_iff,
    List.nil_append, if_true] at viewed₃
  obtain ⟨closed, -, logged, kept⟩ := viewed₃
  have fedBefore : l₀.feed (.gasometer (.recordTransaction tx.cost tx.snapshot) ::
      Frame.quietEvents tx.before) = some l₁ := by
    rw [feed_cons]
    exact fed₁
  have fedRoot : l₀.feed (.gasometer (.recordTransaction tx.cost tx.snapshot) ::
      Frame.quietEvents tx.before ++ tx.root.events) = some l₂ := by
    rw [feed_append_of fedBefore]
    exact fed₂
  exact ⟨l₃, by rw [RawTransaction.events, feed_append_of fedRoot]; exact fed₃, closed, logged, kept⟩

/-- A step of the contract at address 2, with an empty stack and memory. -/
def stepAtTwo (opcode : String) : StepData := ⟨⟨2, 1, 0⟩, opcode, .ok 0, ⟨[]⟩, ⟨[]⟩⟩

/-- A transaction whose root calls a contract that stops at its first step, then returns 42. -/
def callingTransaction : RawTransaction where
  cost := 21000
  snapshot := ⟨0, 0, 0⟩
  before := []
  root := .call [] (stepAtTwo "CALL") [] .call []
    (.last [] (stepAtTwo "STOP") [] (.succeed .stopped) [])
    (.last [] (stepAtTwo "RETURN") [] (.succeed .returned) [42])
  after := []

/-- The root's steps are logged at depth one and the callee's at depth two, and the root's
return value is kept. -/
theorem feed_callingTransaction :
    ∃ l, (new false false false).feed callingTransaction.events = some l ∧ l.contextStack = [] ∧
      l.stepLogs.map RawStepLog.depth = [1, 2, 1] ∧ l.returnValue = [42] :=
  feed_rawTransaction callingTransaction rfl ⟨rfl, trivial, trivial⟩ false false false



end Listener

end Edgeware.Tracing.Raw
