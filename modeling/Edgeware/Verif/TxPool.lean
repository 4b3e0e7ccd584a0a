import Edgeware.Rpc.TxPool

/-!
# What the txpool RPC lists

`map_build` is a loop of insertions into a map of maps, so what it lists is what the last
insertion at each place left there: the entry of a sender and a nonce is made of the last
transaction of the queue with that sender and nonce (`lastEntry`), and a sender is listed exactly
when some transaction of the queue has it (`Groups`). Against the runtime, whose filter keeps
the Ethereum transactions of each queue in order, the two maps group those.

`txpool_inspect` shows of each entry what `txpool_content` shows of it, cut to its summary: both
are one loop with a different `GetT::get`, and the loop commutes with mapping the entries.
-/

namespace Edgeware.Rpc.TxPool

section Entries

variable {Other T U : Type} (crypto : EthereumCrypto Other)
  (get : H256 → H160 → TransactionV2 Other → T)

/-- The entry of a sender and a nonce in a map. -/
def entry (map : TransactionMap T) (sender : H160) (nonce : U256) : Option T :=
  (map.get? sender).bind fun nonces => nonces.get? nonce

/-- The entry the transactions of a queue should leave at a sender and a nonce: that of the last
one listed under them. -/
def lastEntry (txns : List (TransactionV2 Other)) (sender : H160) (nonce : U256) : Option T :=
  (txns.reverse.find? fun txn => fromAddress crypto txn = sender ∧ txn.nonce = nonce).map
    fun txn => get (crypto.hash txn) sender txn

/-- A map groups the transactions of a queue: each entry is that of the last transaction with its
sender and nonce, and the senders listed are those of the transactions. -/
structure Groups (txns : List (TransactionV2 Other)) (map : TransactionMap T) : Prop where
  entries : ∀ sender nonce, entry map sender nonce = lastEntry crypto get txns sender nonce
  senders : ∀ sender, sender ∈ map.keys ↔ ∃ txn ∈ txns, fromAddress crypto txn = sender

/-- One insertion sets the entry of its transaction's sender and nonce and keeps the others. -/
theorem entry_insertTransaction (map : TransactionMap T) (txn : TransactionV2 Other)
    (sender : H160) (nonce : U256) :
    entry (insertTransaction crypto get map txn) sender nonce =
      if fromAddress crypto txn = sender ∧ txn.nonce = nonce then
        some (get (crypto.hash txn) sender txn)
      else entry map sender nonce := by
  unfold entry insertTransaction
  by_cases same : fromAddress crypto txn = sender
  · subst same
    by_cases n : txn.nonce = nonce
    · simp [n]
    · cases h : map.get? (fromAddress crypto txn) <;> simp [h, n, Ne.symm n]
  · simp [same, Ne.symm same]

/-- A run of insertions leaves at each sender and nonce the entry of its last transaction there,
or, when it has none, what the map held before. -/
theorem entry_foldl (txns : List (TransactionV2 Other)) (map : TransactionMap T)
    (sender : H160) (nonce : U256) :
    entry (txns.foldl (insertTransaction crypto get) map) sender nonce =
      (lastEntry crypto get txns sender nonce).or (entry map sender nonce) := by
  induction txns generalizing map with
  | nil => simp [lastEntry]
  | cons txn txns ih =>
    rw [List.foldl_cons, ih, entry_insertTransaction, lastEntry, lastEntry, List.reverse_cons,
      List.find?_append]
    by_cases listed : fromAddress crypto txn = sender ∧ txn.nonce = nonce <;> simp [listed]

/-- A run of insertions lists a sender when one of its transactions has it or the map did. -/
theorem isSome_get?_foldl (txns : List (TransactionV2 Other)) (map : TransactionMap T)
    (sender : H160) :
    ((txns.foldl (insertTransaction crypto get) map).get? sender).isSome ↔
      (∃ txn ∈ txns, fromAddress crypto txn = sender) ∨ (map.get? sender).isSome := by
  induction txns generalizing map with
  | nil => simp
  | cons txn txns ih =>
    rw [List.foldl_cons, ih]
    by_cases same : fromAddress crypto txn = sender
    · simp [insertTransaction, same]
    · simp [insertTransaction, same, Ne.symm same]

/-- The loop of `map_build` groups the transactions of its queue. -/
theorem buildMap_groups (txns : List (TransactionV2 Other)) :
    Groups crypto get txns (buildMap crypto get txns) where
  entries sender nonce := by
    rw [buildMap, entry_foldl]
    simp [entry]
  senders sender := by
    rw [OrdMap.mem_keys_iff_isSome, buildMap, isSome_get?_foldl]
    simp

/-! ## Entries mapped -/

/-- One insertion with the entries mapped is the insertion, mapped. -/
theorem insertTransaction_map (f : T → U) (map : TransactionMap T) (txn : TransactionV2 Other) :
    insertTransaction crypto (fun hash sender txn => f (get hash sender txn))
        (map.map (OrdMap.map f)) txn =
      (insertTransaction crypto get map txn).map (OrdMap.map f) := by
  unfold insertTransaction
  cases h : map.get? (fromAddress crypto txn) <;> simp [h]

/-- The loop with the entries mapped is the loop, mapped. -/
theorem buildMap_map (f : T → U) (txns : List (TransactionV2 Other)) :
    buildMap crypto (fun hash sender txn => f (get hash sender txn)) txns =
      (buildMap crypto get txns).map (OrdMap.map f) := by
  suffices run : ∀ map : TransactionMap T,
      txns.foldl (insertTransaction crypto fun hash sender txn => f (get hash sender txn))
        (map.map (OrdMap.map f)) =
      (txns.foldl (insertTransaction crypto get) map).map (OrdMap.map f) from run ∅
  induction txns with
  | nil => intro map; rfl
  | cons txn txns ih =>
    intro map
    rw [List.foldl_cons, insertTransaction_map, ih]
    rfl

/-! ## The entries counted -/

/-- The number of entries a map lists, over all its senders. -/
def TransactionMap.size (map : TransactionMap T) : Nat :=
  map.weight fun nonces => nonces.toList.length

/-- One insertion lists one more entry at most: a new sender, a new nonce, or a replaced entry. -/
theorem size_insertTransaction (map : TransactionMap T) (txn : TransactionV2 Other) :
    (insertTransaction crypto get map txn).size ≤ map.size + 1 := by
  unfold insertTransaction TransactionMap.size
  dsimp only
  generalize fromAddress crypto txn = sender
  generalize get (crypto.hash txn) sender txn = entry
  have replaced := OrdMap.weight_insert (fun nonces : OrdMap U256 T => nonces.toList.length) map
    sender (((map.get? sender).getD ∅).insert txn.nonce entry)
  have grown := OrdMap.length_insertList_le txn.nonce entry ((map.get? sender).getD ∅).toList
  have before : ((map.get? sender).map fun nonces => nonces.toList.length).getD 0 =
      ((map.get? sender).getD ∅).toList.length := by
    cases map.get? sender <;> rfl
  rw [before] at replaced
  have inserted : (((map.get? sender).getD ∅).insert txn.nonce entry).toList.length =
      (OrdMap.insertList txn.nonce entry ((map.get? sender).getD ∅).toList).length := rfl
  omega

/-- A run of insertions lists one more entry per transaction at most. -/
theorem size_foldl (txns : List (TransactionV2 Other)) (map : TransactionMap T) :
    (txns.foldl (insertTransaction crypto get) map).size ≤ map.size + txns.length := by
  induction txns generalizing map with
  | nil => simp
  | cons txn txns ih =>
    have rest := ih (insertTransaction crypto get map txn)
    have first := size_insertTransaction crypto get map txn
    rw [List.foldl_cons, List.length_cons]
    omega

/-- The loop of `map_build` lists no more entries than its queue has transactions. -/
theorem size_buildMap_le (txns : List (TransactionV2 Other)) :
    (buildMap crypto get txns).size ≤ txns.length := by
  have run := size_foldl crypto get txns ∅
  rwa [show (∅ : TransactionMap T).size = 0 from rfl, Nat.zero_add] at run

end Entries

/-! ## The RPC -/

section Rpc

variable {BlockExtrinsic Other ApiError T U : Type} (crypto : EthereumCrypto Other)
  (debugError : ApiError → String)

/-- What the runtime hands `map_build` back: the Ethereum transactions of the two queues, legacy
ones wrapped for a runtime of the first version. -/
def ethereumTxns (api : TxPoolRuntimeApi BlockExtrinsic Other ApiError)
    (txsReady txsFuture : List BlockExtrinsic) : Except String (TxPoolResponse Other) :=
  match api.apiVersion with
  | none => .error "failed to retrieve Runtime Api version"
  | some apiVersion =>
    if apiVersion = 1 then
      match api.extrinsicFilterBeforeVersion2 txsReady txsFuture with
      | .ok res => .ok ⟨res.ready.map .legacy, res.future.map .legacy⟩
      | .error err => .error (filterFailed debugError err)
    else
      match api.extrinsicFilter txsReady txsFuture with
      | .ok res => .ok res
      | .error err => .error (filterFailed debugError err)

/-- `map_build` is its two loops over what the runtime hands back. -/
theorem mapBuild_eq (api : TxPoolRuntimeApi BlockExtrinsic Other ApiError)
    (get : H256 → H160 → TransactionV2 Other → T) (txsReady txsFuture : List BlockExtrinsic) :
    mapBuild crypto api debugError get txsReady txsFuture =
      (ethereumTxns debugError api txsReady txsFuture).map fun res =>
        ⟨buildMap crypto get res.ready, buildMap crypto get res.future⟩ := by
  unfold mapBuild ethereumTxns
  cases api.apiVersion with
  | none => rfl
  | some apiVersion =>
    by_cases first : apiVersion = 1
    · cases api.extrinsicFilterBeforeVersion2 txsReady txsFuture <;> simp [first] <;> rfl
    · cases api.extrinsicFilter txsReady txsFuture <;> simp [first] <;> rfl

/-- Both maps of a result, their entries mapped. -/
def TxPoolResult.mapEntries (f : T → U) (res : TxPoolResult (TransactionMap T)) :
    TxPoolResult (TransactionMap U) :=
  ⟨res.pending.map (OrdMap.map f), res.queued.map (OrdMap.map f)⟩

/-- `map_build` with the entries mapped is `map_build`, mapped, whatever the runtime answers. -/
theorem mapBuild_map (api : TxPoolRuntimeApi BlockExtrinsic Other ApiError)
    (get : H256 → H160 → TransactionV2 Other → T) (f : T → U)
    (txsReady txsFuture : List BlockExtrinsic) :
    mapBuild crypto api debugError (fun hash sender txn => f (get hash sender txn)) txsReady
        txsFuture =
      (mapBuild crypto api debugError get txsReady txsFuture).map
        (TxPoolResult.mapEntries f) := by
  rw [mapBuild_eq, mapBuild_eq]
  cases ethereumTxns debugError api txsReady txsFuture with
  | error err => rfl
  | ok res => simp [Except.map, TxPoolResult.mapEntries, buildMap_map]

/-- What `txpool_inspect` shows of a transaction `txpool_content` shows. -/
def Transaction.summary (t : Transaction) : Summary := ⟨t.to, t.value, t.gas, t.gasPrice⟩

/-- The summary of a transaction's content is its summary. -/
theorem summary_get (hash : H256) (sender : H160) (txn : TransactionV2 Other) :
    (Transaction.get hash sender txn).summary = Summary.get hash sender txn := by
  cases txn <;> rfl

/-- `txpool_inspect` shows, entry by entry, the summaries of what `txpool_content` shows, and
fails with its error when it fails. -/
theorem inspect_eq_content (api : TxPoolRuntimeApi BlockExtrinsic Other ApiError)
    (txsReady txsFuture : List BlockExtrinsic) :
    inspect crypto api debugError txsReady txsFuture =
      (content crypto api debugError txsReady txsFuture).map
        (TxPoolResult.mapEntries Transaction.summary) := by
  have summaries : (Summary.get : H256 → H160 → TransactionV2 Other → Summary) =
      fun hash sender txn => (Transaction.get hash sender txn).summary := by
    funext hash sender txn
    rw [summary_get]
  rw [inspect, content, summaries, mapBuild_map]

/-- Against the runtime, `map_build` groups the Ethereum transactions of the ready queue as
pending and those of the future queue as queued, in the order of the queues, whatever it makes
of each. -/
theorem mapBuild_groups (get : H256 → H160 → TransactionV2 Other → T)
    (extrinsicFilterBeforeVersion2 : List (Extrinsic Other) → List (Extrinsic Other) →
      Except ApiError (TxPoolResponseLegacy Other))
    (txsReady txsFuture : List (Extrinsic Other)) :
    ∃ pending queued,
      mapBuild crypto (runtimeApi extrinsicFilterBeforeVersion2) debugError get txsReady
          txsFuture = .ok ⟨pending, queued⟩ ∧
        Groups crypto get (txsReady.filterMap ethereumTransaction) pending ∧
        Groups crypto get (txsFuture.filterMap ethereumTransaction) queued := by
  have filtered : ethereumTxns debugError (runtimeApi extrinsicFilterBeforeVersion2) txsReady
      txsFuture = .ok (extrinsicFilter txsReady txsFuture) := rfl
  rw [mapBuild_eq, filtered]
  exact ⟨_, _, rfl, buildMap_groups crypto get _, buildMap_groups crypto get _⟩

/-- A filter that drops an element keeps fewer than all. -/
theorem length_filterMap_lt {α β : Type} {f : α → Option β} {l : List α}
    (dropped : ∃ a ∈ l, f a = none) : (l.filterMap f).length < l.length := by
  rw [List.length_filterMap_eq_countP]
  have atMost := @List.countP_le_length _ (fun a => (f a).isSome) l
  have notAll : l.countP (fun a => (f a).isSome) ≠ l.length := by
    intro all
    obtain ⟨a, mem, none⟩ := dropped
    have kept := List.countP_eq_length.mp all a mem
    simp [none] at kept
  omega

/-- Against the runtime, `txpool_status` counts no fewer transactions in each queue than
`txpool_content` lists, and more pending ones as soon as the ready queue holds an extrinsic that
is no Ethereum transaction. -/
theorem content_size_le_status
    (extrinsicFilterBeforeVersion2 : List (Extrinsic Other) → List (Extrinsic Other) →
      Except ApiError (TxPoolResponseLegacy Other))
    (txsReady txsFuture : List (Extrinsic Other)) :
    ∃ pending queued,
      content crypto (runtimeApi extrinsicFilterBeforeVersion2) debugError txsReady txsFuture =
          .ok ⟨pending, queued⟩ ∧
        pending.size ≤ (status txsReady txsFuture).pending ∧
        queued.size ≤ (status txsReady txsFuture).queued ∧
        ((∃ xt ∈ txsReady, ethereumTransaction xt = none) →
          pending.size < (status txsReady txsFuture).pending) := by
  have filtered : ethereumTxns debugError (runtimeApi extrinsicFilterBeforeVersion2) txsReady
      txsFuture = .ok (extrinsicFilter txsReady txsFuture) := rfl
  rw [content, mapBuild_eq, filtered]
  have ready := size_buildMap_le crypto Transaction.get (txsReady.filterMap ethereumTransaction)
  have future := size_buildMap_le crypto Transaction.get (txsFuture.filterMap ethereumTransaction)
  have readyKept := List.length_filterMap_le ethereumTransaction txsReady
  have futureKept := List.length_filterMap_le ethereumTransaction txsFuture
  refine ⟨_, _, rfl, ?_, ?_, fun dropped => ?_⟩
  · exact ready.trans readyKept
  · exact future.trans futureKept
  · exact lt_of_le_of_lt ready (length_filterMap_lt dropped)

end Rpc

end Edgeware.Rpc.TxPool
