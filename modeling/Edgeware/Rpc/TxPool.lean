import Mathlib.Algebra.Group.Nat.Defs
import Edgeware.Events
import Edgeware.Lib.OrdMap

/-!
# The txpool RPC

`TxPool::map_build` (`client/rpc/txpool`), behind `txpool_content` and `txpool_inspect`: it
hands the extrinsics of the ready and of the future queue of the transaction pool to the
runtime, which keeps the Ethereum transactions among them (`extrinsic_filter`, `lib.rs` of the
runtime), and groups what comes back by sender and then by nonce, each entry what `GetT::get`
makes of the transaction: the whole transaction for `content`, a summary for `inspect`. The
sender is recovered from the signature; a transaction whose signature recovers no key is listed
under the zero address. A runtime of the first version of the API answers with legacy
transactions. `txpool_status` counts the extrinsics of the two queues.

The transaction's hash, the recovery of its signer's public key and Keccak-256 are those of the
`ethereum` and `fc_rpc` crates and are parameters (`EthereumCrypto`); so is the runtime API at
the best block, with its error type. The `HashMap`s of the source are ordered maps here: nothing
reads their order, which only the JSON output shows. A runtime call other than an Ethereum
transaction is kept only as that.
-/

namespace Edgeware.Rpc.TxPool

/-! ## Ethereum transactions -/

/-- `TransactionAction`. -/
inductive TransactionAction where
  | call (target : H160)
  | create
  deriving DecidableEq, Repr

/-- `LegacyTransaction`: the fields `GetT::get` reads; the others (the signature) are `other`. -/
structure LegacyTransaction (Other : Type) where
  nonce : U256
  gasPrice : U256
  gasLimit : U256
  action : TransactionAction
  value : U256
  input : Bytes
  other : Other
  deriving DecidableEq, Repr

/-- `EIP2930Transaction`; the chain id, the access list and the signature are `other`. -/
structure EIP2930Transaction (Other : Type) where
  nonce : U256
  gasPrice : U256
  gasLimit : U256
  action : TransactionAction
  value : U256
  input : Bytes
  other : Other
  deriving DecidableEq, Repr

/-- `EIP1559Transaction`; the chain id, the access list and the signature are `other`. -/
structure EIP1559Transaction (Other : Type) where
  nonce : U256
  maxPriorityFeePerGas : U256
  maxFeePerGas : U256
  gasLimit : U256
  action : TransactionAction
  value : U256
  input : Bytes
  other : Other
  deriving DecidableEq, Repr

/-- `TransactionV2`. -/
inductive TransactionV2 (Other : Type) where
  | legacy (t : LegacyTransaction Other)
  | eip2930 (t : EIP2930Transaction Other)
  | eip1559 (t : EIP1559Transaction Other)
  deriving DecidableEq, Repr

/-- What the `ethereum` and `fc_rpc` crates compute of a transaction. -/
structure EthereumCrypto (Other : Type) where
  /-- `TransactionV2::hash`. -/
  hash : TransactionV2 Other → H256
  /-- `fc_rpc::public_key`: the signer's public key, `none` when it does not recover. -/
  publicKey : TransactionV2 Other → Option (List UInt8)
  /-- `Keccak256::digest`, read as an `H256`. -/
  keccak256 : List UInt8 → H256

/-! ## The runtime's filter -/

/-- A runtime call as `extrinsic_filter` reads it: an Ethereum `transact`, or any other call. -/
inductive Call (Other : Type) where
  | ethereumTransact (transaction : TransactionV2 Other)
  | other
  deriving DecidableEq, Repr

/-- An extrinsic, by its call. -/
structure Extrinsic (Other : Type) where
  function : Call Other
  deriving DecidableEq, Repr

/-- `TxPoolResponse`. -/
structure TxPoolResponse (Other : Type) where
  ready : List (TransactionV2 Other)
  future : List (TransactionV2 Other)
  deriving DecidableEq, Repr

/-- `TxPoolResponseLegacy`, the answer of the first version of the API. -/
structure TxPoolResponseLegacy (Other : Type) where
  ready : List (LegacyTransaction Other)
  future : List (LegacyTransaction Other)
  deriving DecidableEq, Repr

section Filter

variable {Other : Type}

/-- The closure of the runtime's `filter_map`: the transaction of an Ethereum `transact`. -/
def ethereumTransaction (xt : Extrinsic Other) : Option (TransactionV2 Other) :=
  match xt.function with
  | .ethereumTransact transaction => some transaction
  | _ => none

/-- `TxPoolRuntimeApi::extrinsic_filter` of the runtime: the Ethereum transactions of each queue,
in order. -/
def extrinsicFilter (xtsReady xtsFuture : List (Extrinsic Other)) : TxPoolResponse Other where
  ready := xtsReady.filterMap ethereumTransaction
  future := xtsFuture.filterMap ethereumTransaction

end Filter

/-! ## The entries of the RPC -/

/-- `Transaction` of `txpool_content`. -/
structure Transaction where
  hash : H256
  nonce : U256
  blockHash : Option H256
  blockNumber : Option U256
  «from» : H160
  «to» : Option H160
  value : U256
  gasPrice : U256
  gas : U256
  input : Bytes
  transactionIndex : Option U256
  deriving DecidableEq, Repr

/-- `Summary` of `txpool_inspect`. -/
structure Summary where
  «to» : Option H160
  value : U256
  gas : U256
  gasPrice : U256
  deriving DecidableEq, Repr

section Get

variable {Other : Type}

/-- The receiver of an action, `None` for a creation. -/
def TransactionAction.target? : TransactionAction → Option H160
  | .call target => some target
  | .create => none

/-- `GetT::get` of `Transaction`: an EIP-1559 transaction shows its maximum fee per gas as its
gas price; a pool transaction has no block. -/
def Transaction.get (hash : H256) (fromAddress : H160) (txn : TransactionV2 Other) : Transaction :=
  let (nonce, action, value, gasPrice, gasLimit, input) := match txn with
    | .legacy t => (t.nonce, t.action, t.value, t.gasPrice, t.gasLimit, t.input)
    | .eip2930 t => (t.nonce, t.action, t.value, t.gasPrice, t.gasLimit, t.input)
    | .eip1559 t => (t.nonce, t.action, t.value, t.maxFeePerGas, t.gasLimit, t.input)
  { hash, nonce, blockHash := none, blockNumber := none, «from» := fromAddress,
    «to» := action.target?, value, gasPrice, gas := gasLimit, input, transactionIndex := none }

/-- `GetT::get` of `Summary`. -/
def Summary.get (_hash : H256) (_fromAddress : H160) (txn : TransactionV2 Other) : Summary :=
  let (action, value, gasPrice, gasLimit) := match txn with
    | .legacy t => (t.action, t.value, t.gasPrice, t.gasLimit)
    | .eip2930 t => (t.action, t.value, t.gasPrice, t.gasLimit)
    | .eip1559 t => (t.action, t.value, t.maxFeePerGas, t.gasLimit)
  { «to» := action.target?, value, gasPrice, gas := gasLimit }

end Get

/-! ## Building the maps -/

/-- `TransactionMap`: the entries of each sender by nonce. -/
abbrev TransactionMap (T : Type) := OrdMap H160 (OrdMap U256 T)

/-- `TxPoolResult`. -/
structure TxPoolResult (T : Type) where
  pending : T
  queued : T
  deriving DecidableEq, Repr

/-- `H160::from(H256)`: the last twenty of the thirty-two bytes. -/
def h160FromH256 (hash : H256) : H160 := hash % 2 ^ 160

section Build

variable {Other T : Type} (crypto : EthereumCrypto Other)
  (get : H256 → H160 → TransactionV2 Other → T)

/-- The nonce of a transaction, as `map_build` matches it out. -/
def TransactionV2.nonce : TransactionV2 Other → U256
  | .legacy t => t.nonce
  | .eip2930 t => t.nonce
  | .eip1559 t => t.nonce

/-- The sender `map_build` lists a transaction under: the address of the recovered public key,
or `H160::default()` when none recovers. -/
def fromAddress (txn : TransactionV2 Other) : H160 :=
  match crypto.publicKey txn with
  | some pk => h160FromH256 (crypto.keccak256 pk)
  | none => 0

/-- One turn of the loops of `map_build`:
`map.entry(from).or_insert_with(HashMap::new).insert(nonce, T::get(hash, from, txn))`. -/
def insertTransaction (map : TransactionMap T) (txn : TransactionV2 Other) : TransactionMap T :=
  let sender := fromAddress crypto txn
  let entry := (map.get? sender).getD ∅
  map.insert sender (entry.insert txn.nonce (get (crypto.hash txn) sender txn))

/-- A loop of `map_build` over the transactions of one queue. -/
def buildMap (txns : List (TransactionV2 Other)) : TransactionMap T :=
  txns.foldl (insertTransaction crypto get) ∅

end Build

/-! ## The RPC -/

/-- The runtime API at the best block, as `map_build` calls it. -/
structure TxPoolRuntimeApi (BlockExtrinsic Other ApiError : Type) where
  /-- The version of `TxPoolRuntimeApi` the runtime has; `none` when it cannot be read. -/
  apiVersion : Option Nat
  /-- `extrinsic_filter_before_version_2`. -/
  extrinsicFilterBeforeVersion2 :
    List BlockExtrinsic → List BlockExtrinsic → Except ApiError (TxPoolResponseLegacy Other)
  /-- `extrinsic_filter`. -/
  extrinsicFilter :
    List BlockExtrinsic → List BlockExtrinsic → Except ApiError (TxPoolResponse Other)

section Rpc

variable {BlockExtrinsic Other ApiError T : Type} (crypto : EthereumCrypto Other)
  (api : TxPoolRuntimeApi BlockExtrinsic Other ApiError) (debugError : ApiError → String)

/-- The error of a failed runtime call, its `Debug` text in `internal_err`. -/
def filterFailed (err : ApiError) : String :=
  "fetch runtime extrinsic filter failed: " ++ debugError err

/-- `map_build` over the extrinsics of the ready and the future queue, its errors the texts of
`internal_err`. -/
def mapBuild (get : H256 → H160 → TransactionV2 Other → T)
    (txsReady txsFuture : List BlockExtrinsic) :
    Except String (TxPoolResult (TransactionMap T)) := do
  let some apiVersion := api.apiVersion
    | .error "failed to retrieve Runtime Api version"
  let ethereumTxns : TxPoolResponse Other ← if apiVersion = 1 then
      match api.extrinsicFilterBeforeVersion2 txsReady txsFuture with
      | .ok res => .ok ⟨res.ready.map .legacy, res.future.map .legacy⟩
      | .error err => .error (filterFailed debugError err)
    else
      match api.extrinsicFilter txsReady txsFuture with
      | .ok res => .ok res
      | .error err => .error (filterFailed debugError err)
  pure ⟨buildMap crypto get ethereumTxns.ready, buildMap crypto get ethereumTxns.future⟩

/-- `txpool_content`. -/
def content (txsReady txsFuture : List BlockExtrinsic) :
    Except String (TxPoolResult (TransactionMap Transaction)) :=
  mapBuild crypto api debugError Transaction.get txsReady txsFuture

/-- `txpool_inspect`. -/
def inspect (txsReady txsFuture : List BlockExtrinsic) :
    Except String (TxPoolResult (TransactionMap Summary)) :=
  mapBuild crypto api debugError Summary.get txsReady txsFuture

/-- `txpool_status`: the sizes of the two queues. -/
def status (txsReady txsFuture : List BlockExtrinsic) : TxPoolResult U256 :=
  ⟨txsReady.length, txsFuture.length⟩

end Rpc

/-- The runtime's `TxPoolRuntimeApi`, of the second version, whose `extrinsic_filter` is
`extrinsicFilter`. Its runtime implements no call of the first version; what such a call
answers is left open. -/
def runtimeApi {Other ApiError : Type}
    (extrinsicFilterBeforeVersion2 : List (Extrinsic Other) → List (Extrinsic Other) →
      Except ApiError (TxPoolResponseLegacy Other)) :
    TxPoolRuntimeApi (Extrinsic Other) Other ApiError where
  apiVersion := some 2
  extrinsicFilterBeforeVersion2
  extrinsicFilter xtsReady xtsFuture := .ok (extrinsicFilter xtsReady xtsFuture)

end Edgeware.Rpc.TxPool
