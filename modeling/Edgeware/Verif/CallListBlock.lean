import Mathlib.Data.List.Induction
import Edgeware.Verif.CallListTree
import Edgeware.Tracing.TraceFilter

/-!
# The call lists of a block

`trace_block` announces each traced transaction of a block with `CallListNew`, and the call-list
listener turns the announcements into one map per transaction: the first map is made by the
first insertion, and every later announcement finishes the transaction before it and opens an
empty map. No other event changes more than the last map (`LastOnly`), so a transaction's map is
never touched again by the transactions after it: the maps of a block are, in order, the maps its
transactions leave (`entries_traceBlock`), each read off the listener of the block cut after the
transaction (`transactionMap`).

`TraceFilter::format`, as `cache_block` calls it on the block's listener, drops the empty maps
and numbers the others. So the position of a transaction's traces is its rank among the block's
transactions that left entries (`format_traceBlock`), not its rank among the transactions traced:
a transaction that emits nothing, as one the EVM runner rejects before running it, takes no
number, and the positions after it are one lower (`format_skips_silent_transaction`).
-/

namespace Edgeware.Tracing.CallList.Listener

open Events

/-! ## The announcement of a first transaction -/

/-- A listener, the announcement of its first call list set. -/
def announce (announced : Bool) (l : Listener) : Listener :=
  { l with callListFirstTransaction := announced }

theorem insertEntry_announce (l : Listener) (announced : Bool) (key : Nat) (entry : Call) :
    (l.announce announced).insertEntry key entry =
      (l.insertEntry key entry).announce announced := by
  simp only [insertEntry_eq, current, announce]

theorem popContextToEntry_announce (l : Listener) (announced : Bool) (reason : ExitReason)
    (returnValue : Bytes) :
    (l.announce announced).popContextToEntry reason returnValue =
      ((l.popContextToEntry reason returnValue).1.announce announced,
        (l.popContextToEntry reason returnValue).2) := by
  obtain ⟨version, _, _, _, stack, _, skip, stepResult, _, recordOnly⟩ := l
  cases stack <;> rfl

theorem runtimeEvent_announce (l : Listener) (announced : Bool) (event : RuntimeEvent) :
    (l.announce announced).runtimeEvent event = (l.runtimeEvent event).announce announced := by
  cases event with
  | stepResult result returnValue =>
    rcases result with (reason | opcode) | _
    · simp only [runtimeEvent, popContextToEntry_announce]
      rcases l.popContextToEntry reason returnValue with ⟨popped, _ | ⟨key, entry⟩⟩
      · rfl
      · obtain ⟨version, _, _, _, stack, _, skip, stepResult, _, recordOnly⟩ := popped
        cases version
        · rfl
        · exact insertEntry_announce _ _ _ _
    · simp only [runtimeEvent]
      split <;> rfl
    · rfl
  | step | sLoad | sStore => rfl

theorem evmEvent_announce (l : Listener) (announced : Bool) (event : EvmEvent) :
    (l.announce announced).evmEvent event = (l.evmEvent event).announce announced := by
  obtain ⟨version, _, _, _, stack, _, skip, stepResult, _, recordOnly⟩ := l
  cases event with
  | transactCall | transactCreate | transactCreate2 | precompileSubcall => rfl
  | call | create => cases skip <;> cases stack <;> rfl
  | suicide =>
    cases stack <;> simp only [evmEvent, childTraceAddress, insertEntry_eq, current] <;> rfl
  | exit reason returnValue =>
    cases stepResult with
    | some entry =>
      simp only [evmEvent, insertEntry_eq, current]
      rfl
    | none =>
      cases stack with
      | nil => rfl
      | cons =>
        simp only [evmEvent, popContextToEntry, insertEntry_eq, current]
        rfl

/-- Whether the first call list is still to come is read by `CallListNew` only. -/
theorem event_announce (l : Listener) (announced : Bool) {event : Event}
    (other : event ≠ .callListNew) :
    (l.announce announced).event event = (l.event event).announce announced := by
  cases event with
  | gasometer event =>
    obtain ⟨version, _, _, _, stack, _, skip, stepResult, _, recordOnly⟩ := l
    cases event <;> simp only [Listener.event, gasometerEvent, recordGas, announce] <;>
      cases stack <;> rfl
  | runtime event => exact runtimeEvent_announce l announced event
  | evm event => exact evmEvent_announce l announced event
  | callListNew => exact absurd rfl other

theorem feed_announce (l : Listener) (announced : Bool) {events : List Event}
    (unannounced : .callListNew ∉ events) :
    (l.announce announced).feed events = (l.feed events).announce announced := by
  induction events generalizing l with
  | nil => rfl
  | cons event events ih =>
    have other : event ≠ .callListNew := fun same => unannounced (same ▸ List.mem_cons_self)
    rw [feed_cons, feed_cons, event_announce l announced other,
      ih _ fun mem => unannounced (List.mem_cons_of_mem _ mem)]

theorem finishTransaction_announce (l : Listener) (announced : Bool) :
    (l.announce announced).finishTransaction = l.finishTransaction.announce announced := by
  obtain ⟨version, _, _, _, stack, _, skip, stepResult, _, recordOnly⟩ := l
  simp only [finishTransaction, announce, insertEntry_eq, current]
  cases stack.getLast? with
  | some context => rfl
  | none => cases recordOnly <;> rfl

/-- The announcement of a first transaction is changed by `CallListNew` only. -/
theorem feed_callListFirstTransaction (l : Listener) {events : List Event}
    (unannounced : .callListNew ∉ events) :
    (l.feed events).callListFirstTransaction = l.callListFirstTransaction := by
  have fed := feed_announce l l.callListFirstTransaction unannounced
  have same : l.announce l.callListFirstTransaction = l := rfl
  rw [same] at fed
  rw [fed]
  rfl

/-! ## The last map -/

/-- `l'` differs from `l` in the last of its maps at most, and has maps when `l` has. -/
structure LastOnly (l l' : Listener) : Prop where
  dropLast : l'.entries.dropLast = l.entries.dropLast
  ne_nil : l.entries ≠ [] → l'.entries ≠ []

theorem LastOnly.refl (l : Listener) : LastOnly l l := ⟨rfl, id⟩

theorem LastOnly.trans {l l' l'' : Listener} (first : LastOnly l l') (second : LastOnly l' l'') :
    LastOnly l l'' :=
  ⟨second.dropLast.trans first.dropLast, fun nonempty => second.ne_nil (first.ne_nil nonempty)⟩

/-- A listener whose maps a change leaves in place but the last: the maps before it, then its
last map. -/
theorem LastOnly.entries_eq {l l' : Listener} (last : LastOnly l l') (nonempty : l.entries ≠ []) :
    l'.entries = l.entries.dropLast ++ [current l'] := by
  have kept := last.ne_nil nonempty
  rw [← last.dropLast, current, List.getLast?_eq_some_getLast kept, Option.getD_some]
  exact (List.dropLast_append_getLast kept).symm

/-- A listener without maps ends a change with at most one, its last. -/
theorem LastOnly.entries_of_nil {l l' : Listener} (last : LastOnly l l') (empty : l.entries = []) :
    l'.entries = [] ∨ l'.entries = [current l'] := by
  cases entries : l'.entries with
  | nil => exact .inl rfl
  | cons first rest =>
    have dropped := last.dropLast
    rw [empty, entries] at dropped
    cases rest with
    | nil => exact .inr (by simp [current, entries])
    | cons second rest => simp at dropped

/-- A change from a listener without maps leaves, of its maps that are not empty, the last one
at most. -/
theorem LastOnly.filter_of_nil {l l' : Listener} (last : LastOnly l l') (empty : l.entries = []) :
    (l'.entries.filter fun entry => !entry.isEmpty) =
      [current l'].filter fun entry => !entry.isEmpty := by
  rcases last.entries_of_nil empty with none | single
  · simp [current, none]
  · rw [single]

theorem lastOnly_of_entries {l l' : Listener} (same : l'.entries = l.entries) : LastOnly l l' :=
  ⟨congrArg List.dropLast same, fun nonempty => same ▸ nonempty⟩

/-- An insertion into a listener with the maps of `l`, whatever changes with it but the maps,
changes the last map only. -/
theorem lastOnly_of_insertEntry {l l' l'' : Listener} {key : Nat} {entry : Call}
    (inserted : l''.entries = (l'.insertEntry key entry).entries)
    (same : l'.entries = l.entries) : LastOnly l l'' := by
  rw [insertEntry_eq] at inserted
  refine ⟨?_, fun _ => ?_⟩
  · rw [inserted, ← same]
    exact List.dropLast_concat
  · rw [inserted]
    exact List.append_ne_nil_of_right_ne_nil _ (List.cons_ne_nil _ _)

/-- No event but `CallListNew` changes a map before the last. -/
theorem event_lastOnly (l : Listener) {event : Event} (other : event ≠ .callListNew) :
    LastOnly l (l.event event) := by
  cases event with
  | gasometer event =>
    exact lastOnly_of_entries (gasometerEvent_agrees l event).1.entries
  | runtime event =>
    obtain ⟨version, _, _, _, stack, _, skip, stepResult, _, recordOnly⟩ := l
    cases event with
    | stepResult result returnValue =>
      rcases result with (reason | opcode) | _
      · cases stack with
        | nil => exact lastOnly_of_entries (by rfl)
        | cons top rest =>
          cases version
          · exact lastOnly_of_entries (by rfl)
          · exact lastOnly_of_insertEntry (by rfl) (by rfl)
      · simp only [Listener.event, runtimeEvent]
        split <;> exact lastOnly_of_entries (by rfl)
      · exact lastOnly_of_entries (by rfl)
    | step | sLoad | sStore => exact lastOnly_of_entries (by rfl)
  | evm event =>
    obtain ⟨version, _, _, _, stack, _, skip, stepResult, _, recordOnly⟩ := l
    cases event with
    | transactCall | transactCreate | transactCreate2 | precompileSubcall =>
      exact lastOnly_of_entries (by rfl)
    | call | create => cases skip <;> cases stack <;> exact lastOnly_of_entries (by rfl)
    | suicide => cases stack <;> exact lastOnly_of_insertEntry (by rfl) (by rfl)
    | exit reason returnValue =>
      cases stepResult with
      | some entry => exact lastOnly_of_insertEntry (by rfl) (by rfl)
      | none =>
        cases stack with
        | nil => exact lastOnly_of_entries (by rfl)
        | cons => exact lastOnly_of_insertEntry (by rfl) (by rfl)
  | callListNew => exact absurd rfl other

theorem feed_lastOnly (l : Listener) {events : List Event} (unannounced : .callListNew ∉ events) :
    LastOnly l (l.feed events) := by
  induction events generalizing l with
  | nil => exact LastOnly.refl l
  | cons event events ih =>
    have other : event ≠ .callListNew := fun same => unannounced (same ▸ List.mem_cons_self)
    rw [feed_cons]
    exact (event_lastOnly l other).trans (ih _ fun mem => unannounced (List.mem_cons_of_mem _ mem))

theorem finishTransaction_lastOnly (l : Listener) : LastOnly l l.finishTransaction := by
  obtain ⟨version, _, _, _, stack, _, skip, stepResult, _, recordOnly⟩ := l
  simp only [finishTransaction]
  cases stack.getLast? with
  | some context => exact lastOnly_of_insertEntry (by rfl) (by rfl)
  | none =>
    cases recordOnly
    · exact lastOnly_of_entries (by rfl)
    · exact lastOnly_of_insertEntry (by rfl) (by rfl)

theorem finishTransaction_callListFirstTransaction (l : Listener) :
    l.finishTransaction.callListFirstTransaction = l.callListFirstTransaction := by
  have finished := finishTransaction_announce l l.callListFirstTransaction
  have same : l.announce l.callListFirstTransaction = l := rfl
  rw [same] at finished
  rw [finished]
  rfl

/-! ## The maps of a block -/

/-- A block one transaction longer: its announcement, then its events. -/
theorem traceBlock_concat (transactions : List (List Event)) (events : List Event) :
    traceBlock (transactions ++ [events]) =
      ((traceBlock transactions).event .callListNew).feed events := by
  simp only [traceBlock, List.flatMap_append, List.flatMap_singleton, feed_append, feed_cons]

/-- Once a block has a transaction, its first transaction has been announced. -/
theorem callListFirstTransaction_traceBlock {transactions : List (List Event)}
    (nonempty : transactions ≠ [])
    (unannounced : ∀ events ∈ transactions, .callListNew ∉ events) :
    (traceBlock transactions).callListFirstTransaction = false := by
  induction transactions using List.reverseRec with
  | nil => exact absurd rfl nonempty
  | append_singleton transactions events ih =>
    rw [traceBlock_concat, feed_callListFirstTransaction _ (unannounced events (by simp))]
    by_cases first : transactions = []
    · subst first
      rfl
    · have earlier := ih first fun other mem => unannounced other (List.mem_append_left _ mem)
      simp only [Listener.event, earlier, Bool.not_false, ite_true]
      rw [finishTransaction_callListFirstTransaction, earlier]

/-- A later announcement finishes the transaction before it and opens an empty map. -/
theorem event_callListNew_entries {l : Listener} (announced : l.callListFirstTransaction = false) :
    (l.event .callListNew).entries = l.finishTransaction.entries ++ [∅] := by
  simp only [Listener.event, announced, Bool.not_false, ite_true]

/-- Past the announcement of a later transaction, the maps are those of the transactions before,
finished, and the last map. -/
theorem entries_of_announced {transactions : List (List Event)} (nonempty : transactions ≠ [])
    (unannounced : ∀ events ∈ transactions, .callListNew ∉ events) {l : Listener}
    (after : LastOnly ((traceBlock transactions).event .callListNew) l) :
    l.entries = (traceBlock transactions).finishTransaction.entries ++ [current l] := by
  have opened :=
    event_callListNew_entries (callListFirstTransaction_traceBlock nonempty unannounced)
  rw [after.entries_eq (by simp [opened]), opened, List.dropLast_concat]

/-- The maps a block's transactions leave, each finished as the next announcement finishes it:
the maps of the block, finished, that are not empty. -/
theorem entries_finishTransaction_traceBlock (transactions : List (List Event))
    (unannounced : ∀ events ∈ transactions, .callListNew ∉ events) :
    ((traceBlock transactions).finishTransaction.entries.filter fun entry => !entry.isEmpty) =
      ((List.range transactions.length).map fun index =>
        current (traceBlock (transactions.take (index + 1))).finishTransaction).filter
          fun entry => !entry.isEmpty := by
  induction transactions using List.reverseRec with
  | nil => rfl
  | append_singleton transactions events ih =>
    have quiet : .callListNew ∉ events := unannounced events (by simp)
    have after := (feed_lastOnly ((traceBlock transactions).event .callListNew) quiet).trans
      (finishTransaction_lastOnly _)
    rw [← traceBlock_concat] at after
    have earlier : ∀ index ∈ List.range transactions.length,
        current (traceBlock ((transactions ++ [events]).take (index + 1))).finishTransaction =
          current (traceBlock (transactions.take (index + 1))).finishTransaction := by
      intro index mem
      rw [List.take_append_of_le_length (List.mem_range.mp mem)]
    rw [List.length_append, List.length_singleton, List.range_succ, List.map_append,
      List.map_congr_left earlier, List.map_singleton, List.take_of_length_le (by simp),
      List.filter_append]
    by_cases first : transactions = []
    · subst first
      rw [after.filter_of_nil rfl]
      rfl
    · rw [entries_of_announced first
        (fun other mem => unannounced other (List.mem_append_left _ mem)) after,
        List.filter_append, ih fun other mem => unannounced other (List.mem_append_left _ mem)]

/-- The map a transaction of a block leaves: the last map of the block cut after the transaction,
finished as the next transaction's announcement finishes it unless it is the block's last. -/
def transactionMap (transactions : List (List Event)) (index : Nat) : OrdMap Nat Call :=
  let l := traceBlock (transactions.take (index + 1))
  current (if index + 1 < transactions.length then l.finishTransaction else l)

/-- The maps of a block's listener that are not empty are, in block order, the maps its
transactions leave that are not empty. -/
theorem entries_traceBlock (transactions : List (List Event))
    (unannounced : ∀ events ∈ transactions, .callListNew ∉ events) :
    ((traceBlock transactions).entries.filter fun entry => !entry.isEmpty) =
      ((List.range transactions.length).map (transactionMap transactions)).filter
        fun entry => !entry.isEmpty := by
  rcases List.eq_nil_or_concat transactions with empty | ⟨transactions, events, rfl⟩
  · subst empty
    rfl
  · rw [List.concat_eq_append] at unannounced ⊢
    have quiet : .callListNew ∉ events := unannounced events (by simp)
    have after := feed_lastOnly ((traceBlock transactions).event .callListNew) quiet
    rw [← traceBlock_concat] at after
    have earlier : ∀ index ∈ List.range transactions.length,
        transactionMap (transactions ++ [events]) index =
          current (traceBlock (transactions.take (index + 1))).finishTransaction := by
      intro index mem
      have below : index + 1 ≤ transactions.length := List.mem_range.mp mem
      have inside : index + 1 < transactions.length + 1 := Nat.lt_succ_of_le below
      simp only [transactionMap, List.length_append, List.length_singleton,
        List.take_append_of_le_length below, inside, ite_true]
    have whole : (transactions ++ [events]).take (transactions.length + 1) =
        transactions ++ [events] := List.take_of_length_le (by simp)
    have last : transactionMap (transactions ++ [events]) transactions.length =
        current (traceBlock (transactions ++ [events])) := by
      simp [transactionMap, whole]
    rw [List.length_append, List.length_singleton, List.range_succ, List.map_append,
      List.map_congr_left earlier, List.map_singleton, last, List.filter_append]
    by_cases first : transactions = []
    · subst first
      rw [after.filter_of_nil rfl]
      rfl
    · have previous := fun other mem => unannounced other (List.mem_append_left _ mem)
      rw [entries_of_announced first previous after, List.filter_append,
        entries_finishTransaction_traceBlock transactions previous]

end Edgeware.Tracing.CallList.Listener

namespace Edgeware.Tracing.TraceFilter

open Events CallList.Listener

/-- `TraceFilter::format` of a block's listener, as `cache_block` calls it: the traces of the maps
the block's transactions leave, in block order, each transaction's traces carrying as their
position its rank among the transactions whose maps are not empty. -/
theorem format_traceBlock (transactions : List (List Event))
    (unannounced : ∀ events ∈ transactions, .callListNew ∉ events) :
    format (traceBlock transactions) =
      some ((((List.range transactions.length).map (transactionMap transactions)).filter
        fun entry => !entry.isEmpty).zipIdx.flatMap fun (entry, position) =>
          entry.toList.map fun binding => entryTrace position binding.2) := by
  rw [format, entries_traceBlock transactions unannounced]

/-- The block of three calls whose second emits no event: the first and the third leave maps, and
the third's traces carry position one. -/
theorem format_traceBlock_silent :
    (∀ events ∈ [plainCall 21000, [], plainCall 21000], .callListNew ∉ events) ∧
      format (traceBlock [plainCall 21000, [], plainCall 21000]) =
        some ((((List.range 3).map (transactionMap [plainCall 21000, [], plainCall 21000])).filter
          fun entry => !entry.isEmpty).zipIdx.flatMap fun (entry, position) =>
            entry.toList.map fun binding => entryTrace position binding.2) :=
  have quiet : ∀ events ∈ [plainCall 21000, [], plainCall 21000], .callListNew ∉ events := by
    simp [plainCall]
  ⟨quiet, format_traceBlock _ quiet⟩

end Edgeware.Tracing.TraceFilter
