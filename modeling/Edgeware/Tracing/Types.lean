import Mathlib.Data.List.Defs
import Edgeware.Events

/-!
# Types of the EVM tracing client

The data the listeners build and the formatters read (`client/evm-tracing/src/types`): the
kind of a call and of a context, the result of a call or a creation, the entry a call-list
listener records for each context (`BlockscoutCall`), and the `trace_filter` trace of one
entry (`block::TransactionTrace`). Byte strings that hold text, such as error messages, are
the `String` they encode.
-/

namespace Edgeware.Tracing

open Events

/-- `CallResult`: the output of a call, or the text of its error. -/
inductive CallResult where
  | output (bytes : Bytes)
  | error (message : String)
  deriving DecidableEq, Repr

/-- `CreateResult`: the created contract, or the text of the error. -/
inductive CreateResult where
  | error (message : String)
  | success (createdContractAddressHash : H160) (createdContractCode : Bytes)
  deriving DecidableEq, Repr

/-- `CallType`. -/
inductive CallType where
  | call
  | callCode
  | delegateCall
  | staticCall
  deriving DecidableEq, Repr

/-- `CreateType`. -/
inductive CreateType where
  | create
  deriving DecidableEq, Repr

/-- `ContextType`: the kind of context an opcode opens. -/
inductive ContextType where
  | call (callType : CallType)
  | create
  deriving DecidableEq, Repr

/-- `str::to_uppercase` on the opcode names `opcodes_string` writes, all of them ASCII,
where it is the ASCII upper case of each character. -/
def toUppercase (text : String) : String := String.ofList (text.toList.map Char.toUpper)

/-- `ContextType::from`: the context a trapping opcode opens, if it opens one. -/
def ContextType.from (opcode : String) : Option ContextType :=
  match toUppercase opcode with
  | "CREATE" | "CREATE2" => some .create
  | "CALL" => some (.call .call)
  | "CALLCODE" => some (.call .callCode)
  | "DELEGATECALL" => some (.call .delegateCall)
  | "STATICCALL" => some (.call .staticCall)
  | _ => none

example : ContextType.from "StaticCall" = some (.call .staticCall) := by decide

/-- The big-endian value of a byte string, as `H256::from_slice` reads a 32-byte word. -/
def wordOfBytes (bytes : Bytes) : H256 := bytes.foldl (fun word byte => word * 256 + byte.toNat) 0

/-- `convert_memory`: memory as 32-byte words, the last one padded with zeros on the left. -/
def convertMemory (memory : Bytes) : List H256 := (memory.toChunks 32).map wordOfBytes

/-- `BlockscoutCallInner`: what kind of context an entry records. -/
inductive CallInner where
  | call (callType : CallType) («to» : H160) (input : Bytes) (res : CallResult)
  | create (init : Bytes) (res : CreateResult)
  | selfDestruct (balance : U256) («to» : H160)
  deriving DecidableEq, Repr

/-- `BlockscoutCall`: the entry recorded for one context, or for one self-destruct. -/
structure Call where
  «from» : H160
  traceAddress : List Nat
  subtraces : Nat
  value : U256
  gas : U256
  gasUsed : U256
  inner : CallInner
  deriving DecidableEq, Repr

namespace Block

/-- `block::TransactionTraceAction`. -/
inductive TransactionTraceAction where
  | call (callType : CallType) («from» : H160) (gas : U256) (input : Bytes) («to» : H160)
      (value : U256)
  | create (creationMethod : CreateType) («from» : H160) (gas : U256) (init : Bytes)
      (value : U256)
  | suicide (address : H160) (balance : U256) (refundAddress : H160)
  deriving DecidableEq, Repr

/-- `block::TransactionTraceResult`. -/
inductive TransactionTraceResult where
  | call (gasUsed : U256) (output : Bytes)
  | create (address : H160) (code : Bytes) (gasUsed : U256)
  | suicide
  deriving DecidableEq, Repr

/-- `block::TransactionTraceOutput`. -/
inductive TransactionTraceOutput where
  | result (result : TransactionTraceResult)
  | error (message : String)
  deriving DecidableEq, Repr

/-- `block::TransactionTrace`: one line of a `trace_filter` response. -/
structure TransactionTrace where
  action : TransactionTraceAction
  blockHash : H256
  blockNumber : Nat
  output : TransactionTraceOutput
  subtraces : Nat
  traceAddress : List Nat
  transactionHash : H256
  transactionPosition : Nat
  deriving DecidableEq, Repr

end Block

end Edgeware.Tracing
