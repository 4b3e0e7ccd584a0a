import Edgeware.Tracing.Types

/-!
# Well-formed frames at the opcode level

The events the interpreter emits for one frame, as an opcode-level tracer sees them: a `Step`
for each opcode, followed by its `StepResult`. A result either lets the frame go on, or traps on
a call or creation opcode, after which the callee frame runs, or exits the frame; the last
result of a frame carries its exit, and it has no `Step` of its own when the code ran past its
end. Gas records, storage accesses and executor events may come anywhere, and a tracer of
opcodes reads them as quiet events.

A callee that runs no code of its own, such as a precompile, emits no step at all; the grammar
here leaves it out, and `Frame.Nested` asks of every callee that it starts with a step. What a
tracer should log for such a frame is one step per `Step`, at the depth of the frame that ran
it (`Frame.depths`), and the return value of the root frame's exit.
-/

namespace Edgeware.Spec

open Events Tracing

/-- Events that are no step, no step result and no start of a transaction. -/
def Event.isRawQuiet : Event → Bool
  | .gasometer (.recordTransaction _ _) => false
  | .runtime (.step ..) => false
  | .runtime (.stepResult ..) => false
  | _ => true

/-- An event that an opcode-level tracer reads as quiet. -/
structure RawQuiet where
  /-- The event. -/
  event : Event
  /-- It is no step, no step result and no start of a transaction. -/
  quiet : Event.isRawQuiet event = true

/-- The opcodes that trap to open a callee frame. -/
inductive CallOpcode where
  | call
  | callCode
  | delegateCall
  | staticCall
  | create
  | create2
  deriving DecidableEq, Repr

/-- The name of a trapping opcode, as `opcodes_string` writes it. -/
def CallOpcode.name : CallOpcode → Trap
  | .call => "CALL"
  | .callCode => "CALLCODE"
  | .delegateCall => "DELEGATECALL"
  | .staticCall => "STATICCALL"
  | .create => "CREATE"
  | .create2 => "CREATE2"

/-- Every trapping opcode opens a context. -/
theorem CallOpcode.opens (opcode : CallOpcode) : (ContextType.from opcode.name).isSome = true := by
  cases opcode <;> decide

/-- The data of a `Step` event, with the stack and the memory the runtime copies. -/
structure StepData where
  context : Context
  opcode : String
  position : Except ExitReason UInt64
  stack : Stack
  memory : Memory

/-- The `Step` event of a step. -/
def StepData.event (data : StepData) : Event :=
  .runtime (.step data.context data.opcode data.position (some data.stack) (some data.memory))

/-- The events of a frame from one of its steps on, with the quiet events before each step and
between each step and its result. -/
inductive Frame where
  /-- The frame exits at a result without a step, its code having run past its end. -/
  | exit (before : List RawQuiet) (reason : ExitReason) (returnValue : Bytes)
  /-- The frame exits at the result of its last step. -/
  | last (before : List RawQuiet) (data : StepData) (during : List RawQuiet) (reason : ExitReason)
      (returnValue : Bytes)
  /-- A step whose result lets the frame go on. -/
  | step (before : List RawQuiet) (data : StepData) (during : List RawQuiet) (returnValue : Bytes)
      (rest : Frame)
  /-- A step that traps to open a callee frame, which runs before the frame goes on. -/
  | call (before : List RawQuiet) (data : StepData) (during : List RawQuiet) (opcode : CallOpcode)
      (returnValue : Bytes) (callee : Frame) (rest : Frame)

namespace Frame

/-- The events of quiet events. -/
def quietEvents (events : List RawQuiet) : List Event := events.map RawQuiet.event

/-- The events of a frame, in order. -/
def events : Frame → List Event
  | exit before reason returnValue =>
    quietEvents before ++ [.runtime (.stepResult (.error (.exit reason)) returnValue)]
  | last before data during reason returnValue =>
    quietEvents before ++ data.event :: quietEvents during ++
      [.runtime (.stepResult (.error (.exit reason)) returnValue)]
  | step before data during returnValue rest =>
    quietEvents before ++ data.event :: quietEvents during ++
      .runtime (.stepResult (.ok ()) returnValue) :: rest.events
  | call before data during opcode returnValue callee rest =>
    quietEvents before ++ data.event :: quietEvents during ++
      .runtime (.stepResult (.error (.trap opcode.name)) returnValue) :: callee.events ++ rest.events

/-- Whether a frame starts with a step, as a frame must to be seen at all. -/
def opens : Frame → Bool
  | exit .. => false
  | _ => true

/-- Every callee frame starts with a step. -/
def Nested : Frame → Prop
  | exit .. | last .. => True
  | step _ _ _ _ rest => rest.Nested
  | call _ _ _ _ _ callee rest => callee.opens ∧ callee.Nested ∧ rest.Nested

/-- The depth of each step of a frame at `depth`, in order; a callee is one deeper. -/
def depths (depth : Nat) : Frame → List Nat
  | exit .. => []
  | last .. => [depth]
  | step _ _ _ _ rest => depth :: rest.depths depth
  | call _ _ _ _ _ callee rest => depth :: callee.depths (depth + 1) ++ rest.depths depth

/-- The return value of the exit of a frame. -/
def returnValue : Frame → Bytes
  | exit _ _ returnValue | last _ _ _ _ returnValue => returnValue
  | step _ _ _ _ rest | call _ _ _ _ _ _ rest => rest.returnValue

end Frame

/-- A transaction at the opcode level: the record of its cost, quiet events, its root frame,
and quiet events after it. -/
structure RawTransaction where
  cost : UInt64
  snapshot : Snapshot
  before : List RawQuiet
  root : Frame
  after : List RawQuiet

/-- The events of a transaction, in order. -/
def RawTransaction.events (tx : RawTransaction) : List Event :=
  .gasometer (.recordTransaction tx.cost tx.snapshot) :: Frame.quietEvents tx.before ++
    tx.root.events ++ Frame.quietEvents tx.after

end Edgeware.Spec
