import Edgeware.Tracing.CallTracer

/-!
# The call tree a call-list map describes

The entries of a call-list map name their place in the call tree by their trace address, the
path of sibling positions from the root. This module states, independently of how the
callTracer formatter rebuilds it, which tree that is: the entry at the empty address, whose calls
are the trees of the entries one index below it, in increasing order of that index, every node
without its address. It also states when a map describes a tree at all: its addresses are
pairwise distinct, the empty address is one of them, and the parent of every other one is.
-/

namespace Edgeware.Spec

open Tracing CallTracer

/-- Whether `call` lies one index below `address`. -/
def isChild (address : List Nat) (call : Call) : Bool :=
  call.traceAddress ≠ [] && call.traceAddress.dropLast == address

/-- The position of an entry among its siblings: the last index of its address. -/
def position (call : Call) : Nat := call.traceAddress.getLastD 0

/-- The entries one index below `address`, in increasing order of that index. -/
def children (calls : List Call) (address : List Nat) : List Call :=
  (calls.filter (isChild address)).mergeSort fun a b => position a ≤ position b

/-- The callTracer tree of `call` among `calls`, at most `depth` levels deep: the call without
its address, whose calls are the trees of the entries one index below it. -/
def nested (calls : List Call) : Nat → Call → CallTracerCall
  | 0, call => { callTracerCall call with traceAddress := none }
  | depth + 1, call =>
    { callTracerCall call with
      traceAddress := none, calls := (children calls call.traceAddress).map (nested calls depth) }

/-- The tree of a map's entries: the tree of its entry at the empty address, as deep as the map
has entries. -/
def callTree (calls : List Call) : Option CallTracerCall :=
  (calls.find? fun call => call.traceAddress.isEmpty).map (nested calls calls.length)

/-- The traces the callTracer should return for a listener: the tree of every non-empty map,
in order, or nothing when no map has one. -/
def expectedTraces (l : CallList.Listener) : Option (List CallTracerCall) :=
  let trees := l.entries.filterMap fun entry => callTree (entry.toList.map Prod.snd)
  if trees.isEmpty then none else some trees

/-- The addresses of a map's entries describe a tree. -/
structure WellAddressed (calls : List Call) : Prop where
  /-- No two entries share an address. -/
  nodup : (calls.map Call.traceAddress).Nodup
  /-- Some entry is the root. -/
  root : ∃ call ∈ calls, call.traceAddress = []
  /-- The parent of every other entry is an entry. -/
  parent : ∀ call ∈ calls, call.traceAddress ≠ [] →
    ∃ parent ∈ calls, parent.traceAddress = call.traceAddress.dropLast

end Edgeware.Spec
