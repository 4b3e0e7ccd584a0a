import Edgeware.Consensus.Aura

/-!
# Authoring and importing Aura blocks

The two callers of `check_header` and `slot_author` (`node/consensus-transition/aura`). Both ask
the runtime for the authority set of a block on its parent (`authorities`): the worker for the
block after its chain head (`AuraWorker::epoch_data`), the verifier for the block it imports
(`AuraVerifier::verify`). Until the block number of a compatibility mode, the set is read after
initializing the block, as nodes did before a runtime change moved where a new set takes effect.
The verifier checks a header against its clock plus one slot of drift, and rejects a header from
further ahead.

The runtime is a parameter: the state at each block, `initialize_block` on a state and
`AuraApi::authorities` on a state, each of which may fail. The verifier's clock, the slot of its
inherent data providers, is a parameter too. The check of an imported block's body, its
inherents, is the runtime's and is not modelled.
-/

namespace Edgeware.Consensus.Aura

/-- `CompatibilityMode`, over block numbers. -/
inductive CompatibilityMode where
  | none
  | useInitializeBlock («until» : Nat)
  deriving DecidableEq, Repr

/-- `CompatibilityMode::default`. -/
def CompatibilityMode.default : CompatibilityMode := .none

/-- The runtime as `authorities` calls it. -/
structure RuntimeApi (Hash State AuthorityId : Type) where
  /-- The state after the block of a hash. -/
  stateAt : Hash → State
  /-- `Core::initialize_block` of a header of the given number on a state; `none` when it fails. -/
  initializeBlock : State → Nat → Option State
  /-- `AuraApi::authorities` on a state; `none` when the call fails. -/
  authorities : State → Option (List AuthorityId)

section Authorities

variable {Fields Hash State AuthorityId : Type}

/-- `authorities`: the authority set for the block of number `contextBlockNumber` on the parent
`parentHash`; `none` is `sp_consensus::Error::InvalidAuthoritiesSet`. Under
`UseInitializeBlock { until }` the set is read after `initialize_block` for the blocks before
`until`, the block that should disable the mode. -/
def authorities (api : RuntimeApi Hash State AuthorityId) (parentHash : Hash)
    (contextBlockNumber : Nat) (compatibilityMode : CompatibilityMode) :
    Option (List AuthorityId) := do
  let state ← match compatibilityMode with
    | .none => some (api.stateAt parentHash)
    | .useInitializeBlock «until» =>
      if «until» > contextBlockNumber then
        api.initializeBlock (api.stateAt parentHash) contextBlockNumber
      else some (api.stateAt parentHash)
  api.authorities state

/-- `AuraWorker::epoch_data`: the authorities for the block after the chain head. -/
def epochData (api : RuntimeApi Hash State AuthorityId) (headerHash : Header Fields → Hash)
    (chainHead : Header Fields) (compatibilityMode : CompatibilityMode) :
    Option (List AuthorityId) :=
  authorities api (headerHash chainHead) (chainHead.number + 1) compatibilityMode

end Authorities

/-! ## The verifier -/

/-- What `AuraVerifier::verify` hands on to the block import: the header without its seal, the
seal as its post-digest, and the hash of the sealed header as the post-hash. The fork choice is
always the longest chain. -/
structure ImportParams (Fields Hash : Type) where
  header : Header Fields
  postDigests : List DigestItem
  postHash : Hash
  deriving DecidableEq, Repr

section Verifier

variable {Fields Hash ClientError State AuthorityId Signature : Type}

/-- The texts of `Error`, a hash shown by its `Debug` and a client error by its `Display`. -/
def Error.toString (debugHash : Hash → String) (displayClient : ClientError → String) :
    Error Hash ClientError → String
  | .multipleHeaders => "Multiple Aura pre-runtime headers"
  | .noDigestFound => "No Aura pre-runtime digest found"
  | .headerUnsealed hash => "Header " ++ debugHash hash ++ " is unsealed"
  | .headerBadSeal hash => "Header " ++ debugHash hash ++ " has a bad seal"
  | .slotAuthorNotFound => "Slot Author not found"
  | .badSignature hash => "Bad signature on " ++ debugHash hash
  | .client error => displayClient error

/-- The header part of `AuraVerifier::verify` for a block imported from the network: the
authorities at its parent, then `check_header` one slot past the clock `slotNow`. A checked
header goes on to the import without its seal; a deferred one is rejected. `invalidAuthorities`
is the text of `sp_consensus::Error::InvalidAuthoritiesSet`. -/
def verifyHeader (api : RuntimeApi Hash State AuthorityId) (parentHash : Fields → Hash)
    (headerHash : Header Fields → Hash) (decodeSignature : List UInt8 → Option Signature)
    (verify : Signature → Hash → AuthorityId → Bool)
    (checkEquivocation : UInt64 → UInt64 → Header Fields → AuthorityId → Except ClientError Unit)
    (debugHash : Hash → String) (displayClient : ClientError → String) (invalidAuthorities : String)
    (compatibilityMode : CompatibilityMode) (checkForEquivocation : CheckForEquivocation)
    (slotNow : UInt64) (header : Header Fields) : Except String (ImportParams Fields Hash) := do
  let hash := headerHash header
  let parent := parentHash header.fields
  let authorities ← match authorities api parent header.number compatibilityMode with
    | some set => .ok set
    | none => .error ("Could not fetch authorities at " ++ debugHash parent ++ ": " ++
        invalidAuthorities)
  let checked ← match checkHeader headerHash decodeSignature verify checkEquivocation (slotNow + 1)
      header hash authorities checkForEquivocation with
    | .ok checked => .ok checked
    | .error e => .error (e.toString debugHash displayClient)
  match checked with
  | .checked pre (_, sealItem) => pure ⟨pre, [sealItem], hash⟩
  | .deferred _ _ => .error ("Header " ++ debugHash hash ++ " rejected: too far in the future")

end Verifier

end Edgeware.Consensus.Aura
