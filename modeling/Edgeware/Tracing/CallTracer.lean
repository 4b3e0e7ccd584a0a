import Edgeware.Lib.SortBy
import Edgeware.Lib.ListUpdate
import Edgeware.Tracing.CallList

/-!
# The callTracer formatter

`formatters::call_tracer`: each non-empty map of a call-list listener becomes one tree of nested
calls, as Geth's `callTracer` reports a transaction. The entries of a map, taken in key order,
are converted to calls that keep their trace address; the calls are sorted, those nearer the
root first and siblings in decreasing order; then the last call is popped and pushed, its
address removed, into the calls of its parent, until one call is left.

The formatter only ever wraps its calls (`single::Call::CallTracer`,
`TransactionTrace::CallListNested`), so a trace here is its call. A panic of the source is
`none`. Every call of the working list carries its address until it is pushed into its parent,
so the `unreachable!()` arms of the source's matches on addresses are never taken; `addressOf`
reads the address that is always there.
-/

namespace Edgeware.Tracing.CallTracer

open Events SortBy ListUpdate

/-- `CallTracerInner`: what kind of call a callTracer call is. Opcode names are the text of the
bytes the source stores. -/
inductive CallTracerInner where
  | call (callType : String) («to» : H160) (input : Bytes) (res : CallResult)
      (value : Option U256)
  | create (callType : String) (input : Bytes) («to» : Option H160) (output : Option Bytes)
      (error : Option String) (value : U256)
  | selfDestruct (callType : String) («to» : H160) (value : U256)
  deriving DecidableEq, Repr

/-- `CallTracerCall`: a call with the calls it made. -/
structure CallTracerCall where
  «from» : H160
  traceAddress : Option (List Nat)
  gas : U256
  gasUsed : U256
  inner : CallTracerInner
  calls : List CallTracerCall
  deriving Repr

/-- The name of a call type, as the callTracer reports it. -/
def callTypeName : CallType → String
  | .call => "CALL"
  | .callCode => "CALLCODE"
  | .delegateCall => "DELEGATECALL"
  | .staticCall => "STATICCALL"

/-- The callTracer call of a call-list entry, with its trace address and no calls yet. -/
def callTracerCall (it : Call) : CallTracerCall where
  «from» := it.from
  traceAddress := some it.traceAddress
  gas := it.gas
  gasUsed := it.gasUsed
  inner := match it.inner with
    | .call callType target input res =>
      .call (callTypeName callType) target input res (some it.value)
    | .create init res =>
      .create "CREATE" init
        (match res with
          | .success createdContractAddressHash _ => some createdContractAddressHash
          | .error _ => none)
        (match res with
          | .success _ createdContractCode => some createdContractCode
          | .error _ => none)
        (match res with
          | .success .. => none
          | .error error => some error)
        it.value
    | .selfDestruct balance target => .selfDestruct "SELFDESTRUCT" target balance
  calls := []

/-- The address of a call of the working list, which every such call carries. -/
def addressOf (call : CallTracerCall) : List Nat := call.traceAddress.getD []

/-- `sibling_greater_than`: at the first index where two addresses of one length differ, the
first is greater. The source indexes `b` by the positions of `a`; it is only called on
addresses of equal length. -/
def siblingGreaterThan : List Nat → List Nat → Bool
  | [], _ => false
  | _ :: _, [] => false
  | a :: as, b :: bs => if a > b then true else if a < b then false else siblingGreaterThan as bs

/-- The comparator of the sort, on addresses: `Less` when `a` is nearer the root, or is a
greater sibling, and `Greater` otherwise. It never answers `Equal`. -/
def compareAddresses (a b : List Nat) : Ordering :=
  if b.length > a.length || (a.length == b.length && siblingGreaterThan a b) then .lt else .gt

/-- The comparator passed to `sort_by`. -/
def compare (a b : CallTracerCall) : Ordering := compareAddresses (addressOf a) (addressOf b)

/-- Push a popped call, its address removed, into the calls of the first call in `result` whose
address is its parent's; a call whose parent is not there is dropped. -/
def pushToParent (result : List CallTracerCall) (last : CallTracerCall) : List CallTracerCall :=
  modifyFirst (fun current => addressOf current == (addressOf last).dropLast)
    (fun parent => { parent with calls := parent.calls ++ [{ last with traceAddress := none }] })
    result

@[simp]
theorem length_pushToParent (result : List CallTracerCall) (last : CallTracerCall) :
    (pushToParent result last).length = result.length :=
  length_modifyFirst _ _ _

/-- The pop-and-push loop, `while result.len() > 1`. Looking for the parent of a call whose
address is empty takes `a.len() - 1` below zero, a panic. -/
def popAndPush (result : List CallTracerCall) : Option (List CallTracerCall) :=
  if long : 1 < result.length then
    let last := result.getLast (List.ne_nil_of_length_pos (by omega))
    if addressOf last = [] then none
    else popAndPush (pushToParent result.dropLast last)
  else some result
termination_by result.length
decreasing_by
  rw [length_pushToParent, List.length_dropLast]
  omega

/-- The body of the loop over the maps: the traces of one map, its calls nested into one call
when one is left, with the address of the first call removed. -/
def formatEntry (entry : OrdMap Nat Call) : Option (List CallTracerCall) := do
  let result := entry.toList.map fun binding => callTracerCall binding.2
  let result ← if 1 < result.length then popAndPush (sortBy compare result) else some result
  let result := result.modifyHead fun call => { call with traceAddress := none }
  some (if result.length = 1 then result else [])

/-- `Formatter::format`: the traces of the non-empty maps in order, or `None` when there are
none. -/
def format (l : CallList.Listener) : Option (Option (List CallTracerCall)) := do
  let entries := l.entries.filter fun entry => !entry.isEmpty
  let traces ← entries.mapM formatEntry
  let traces := traces.flatten
  some (if traces.isEmpty then none else some traces)

end Edgeware.Tracing.CallTracer
