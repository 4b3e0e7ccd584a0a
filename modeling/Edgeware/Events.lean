/-!
# Events of the EVM tracer

The events the EVM emits while it runs, as the tracing host functions hand them to a
listener (`evm-tracing-events`): the call-stack events of the executor, the records of the
gasometer and the steps of the interpreter, with the exit reasons of the `evm` crate they
carry. Addresses, words and amounts are their numeric values; fields that no listener of
this development reads are left out.
-/

namespace Edgeware

/-- A 160-bit address, by its numeric value. -/
abbrev H160 := Nat

/-- A 256-bit word, by its numeric value; its order is the order of its big-endian bytes. -/
abbrev H256 := Nat

/-- An unsigned 256-bit amount. -/
abbrev U256 := Nat

/-- A byte string. -/
abbrev Bytes := List UInt8

namespace Events

/-- `evm::ExitSucceed`. -/
inductive ExitSucceed where
  | stopped
  | returned
  | suicided
  deriving DecidableEq, Repr

/-- `evm::ExitError`, the errors of evm 0.35. -/
inductive ExitError where
  | stackUnderflow
  | stackOverflow
  | invalidJump
  | invalidRange
  | designatedInvalid
  | callTooDeep
  | createCollision
  | createContractLimit
  | invalidCode
  | outOfOffset
  | outOfGas
  | outOfFund
  | pcUnderflow
  | createEmpty
  | other (message : String)
  deriving DecidableEq, Repr

/-- `evm::ExitRevert`. -/
inductive ExitRevert where
  | reverted
  deriving DecidableEq, Repr

/-- `evm::ExitFatal`. -/
inductive ExitFatal where
  | notSupported
  | unhandledInterrupt
  | callErrorAsFatal (error : ExitError)
  | other (message : String)
  deriving DecidableEq, Repr

/-- `evm::ExitReason`: why a frame of the EVM stopped. -/
inductive ExitReason where
  | succeed (reason : ExitSucceed)
  | error (error : ExitError)
  | revert (reason : ExitRevert)
  | fatal (reason : ExitFatal)
  deriving DecidableEq, Repr

/-- `Capture`: a step either exits its frame or traps for an external operation. -/
inductive Capture (E T : Type) where
  | exit (reason : E)
  | trap (trap : T)
  deriving DecidableEq, Repr

/-- `Trap`: the marshalled name of the trapping opcode, as `opcodes_string` writes it. -/
abbrev Trap := String

/-- `Context` of a frame: the address it executes at, its caller and its apparent value. -/
structure Context where
  address : H160
  caller : H160
  apparentValue : U256
  deriving DecidableEq, Repr

/-- `gasometer::Snapshot`; the refunded gas is read by no listener. -/
structure Snapshot where
  gasLimit : UInt64
  memoryGas : UInt64
  usedGas : UInt64
  deriving DecidableEq, Repr

/-- `Snapshot::gas`: the gas left, in wrapping `u64` arithmetic. -/
def Snapshot.gas (snapshot : Snapshot) : UInt64 :=
  snapshot.gasLimit - snapshot.usedGas - snapshot.memoryGas

/-- `GasometerEvent`: one record of a gasometer, with its snapshot after the record. -/
inductive GasometerEvent where
  | recordCost (cost : UInt64) (snapshot : Snapshot)
  | recordRefund (snapshot : Snapshot)
  | recordStipend (stipend : UInt64) (snapshot : Snapshot)
  | recordDynamicCost (gasCost : UInt64) (snapshot : Snapshot)
  | recordTransaction (cost : UInt64) (snapshot : Snapshot)
  deriving DecidableEq, Repr

/-- `runtime::Stack` as a step carries it. -/
structure Stack where
  data : List H256
  deriving DecidableEq, Repr

/-- `runtime::Memory` as a step carries it. -/
structure Memory where
  data : Bytes
  deriving DecidableEq, Repr

/-- `RuntimeEvent`: a step of the interpreter, its result, and storage accesses. -/
inductive RuntimeEvent where
  | step (context : Context) (opcode : String) (position : Except ExitReason UInt64)
      (stack : Option Stack) (memory : Option Memory)
  | stepResult (result : Except (Capture ExitReason Trap) Unit) (returnValue : Bytes)
  | sLoad (address : H160) (index value : H256)
  | sStore (address : H160) (index value : H256)
  deriving Repr

/-- `EvmEvent`: the call-stack events of the executor. -/
inductive EvmEvent where
  | call (codeAddress : H160) (input : Bytes) (isStatic : Bool) (context : Context)
  | create (caller address : H160) (value : U256) (initCode : Bytes)
  | suicide (address target : H160) (balance : U256)
  | exit (reason : ExitReason) (returnValue : Bytes)
  | transactCall (caller address : H160) (value : U256) (data : Bytes)
  | transactCreate (caller : H160) (value : U256) (initCode : Bytes) (address : H160)
  | transactCreate2 (caller : H160) (value : U256) (initCode : Bytes) (address : H160)
  | precompileSubcall
  deriving DecidableEq, Repr

/-- `Event`: what the host functions forward to the listener, and the marker emitted before
each traced transaction of a block. -/
inductive Event where
  | evm (event : EvmEvent)
  | gasometer (event : GasometerEvent)
  | runtime (event : RuntimeEvent)
  | callListNew
  deriving Repr

end Events

end Edgeware
