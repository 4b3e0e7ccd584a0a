import Edgeware.Lib.LittleEndian

/-!
# Aura headers

The Aura consensus of the node (`node/consensus-transition/aura`): time is cut into slots, and
the author of the block of a slot is the authority at the slot modulo the number of authorities
(`slot_author`). An author claims a slot when it holds that authority's key (`claim_slot`), puts
an Aura pre-runtime digest carrying the slot into the header (`pre_digest_data`), and seals the
header with its signature of the header's hash, pushed as the last digest item
(`block_import_params`). A verifier pops the seal, finds the one pre-runtime digest, defers a
header from a future slot, and checks the signature against the slot's author (`check_header`).

Digest items are those of `sp_runtime`. An Aura pre-runtime digest is the slot's eight
little-endian bytes; a seal is the signature's encoding. The header's other fields, its hash,
the signature scheme and its codec, the keystore and the equivocation check are the
environment's, and are parameters.
-/

namespace Edgeware.Consensus.Aura

/-- `ConsensusEngineId`: four bytes. -/
abbrev ConsensusEngineId := List UInt8

/-- `AURA_ENGINE_ID`: `b"aura"`. -/
def auraEngineId : ConsensusEngineId := [97, 117, 114, 97]

/-- `DigestItem` of `sp_runtime`. -/
inductive DigestItem where
  | preRuntime (engine : ConsensusEngineId) (data : List UInt8)
  | consensus (engine : ConsensusEngineId) (data : List UInt8)
  | seal (engine : ConsensusEngineId) (data : List UInt8)
  | other (data : List UInt8)
  | runtimeEnvironmentUpdated
  deriving DecidableEq, Repr

/-- A header: its number, its digest, and its other fields, which only its hash reads. -/
structure Header (Fields : Type) where
  number : Nat
  digest : List DigestItem
  fields : Fields
  deriving DecidableEq, Repr

/-- The errors of `check_header` and `find_pre_digest`, `Error` of the crate; the inherent
errors belong to the body check, which is not modelled. -/
inductive Error (Hash ClientError : Type) where
  | multipleHeaders
  | noDigestFound
  | headerUnsealed (hash : Hash)
  | headerBadSeal (hash : Hash)
  | slotAuthorNotFound
  | badSignature (hash : Hash)
  | client (error : ClientError)
  deriving DecidableEq, Repr

/-- `CheckedHeader` of `sc_consensus_slots`: a header checked, with what the check found, or
deferred to its slot. -/
inductive CheckedHeader (Header Info : Type) where
  | checked (header : Header) (info : Info)
  | deferred (header : Header) (slot : UInt64)
  deriving DecidableEq, Repr

/-- `CheckForEquivocation`. -/
inductive CheckForEquivocation where
  | yes
  | no
  deriving DecidableEq, Repr

/-- `CheckForEquivocation::default`. -/
def CheckForEquivocation.default : CheckForEquivocation := .yes

/-- `CheckForEquivocation::check_for_equivocation`. -/
def CheckForEquivocation.checkForEquivocation : CheckForEquivocation → Bool
  | .yes => true
  | .no => false

/-! ## Aura digest items -/

section Digests

variable {Signature : Type}

/-- `CompatibleDigestItem::aura_pre_digest`: the slot, encoded. -/
def auraPreDigest (slot : UInt64) : DigestItem :=
  .preRuntime auraEngineId (LittleEndian.encode 8 slot.toNat)

/-- `CompatibleDigestItem::as_aura_pre_digest`: the slot of an Aura pre-runtime digest; decoding
reads the first eight bytes. -/
def asAuraPreDigest : DigestItem → Option UInt64
  | .preRuntime engine data =>
    if engine = auraEngineId then (LittleEndian.read 8 data).map fun read => UInt64.ofNat read.1
    else none
  | _ => none

/-- `CompatibleDigestItem::aura_seal`: the signature, encoded. -/
def auraSeal (encodeSignature : Signature → List UInt8) (signature : Signature) : DigestItem :=
  .seal auraEngineId (encodeSignature signature)

/-- `CompatibleDigestItem::as_aura_seal`: the signature of an Aura seal. -/
def asAuraSeal (decodeSignature : List UInt8 → Option Signature) : DigestItem → Option Signature
  | .seal engine data => if engine = auraEngineId then decodeSignature data else none
  | _ => none

end Digests

/-! ## Slots and their authors -/

/-- `slot_author`: the authority at the slot modulo the number of authorities, `None` when there
are none. The index is always in range, so the source's `expect` never fails; `len() as u64` is
exact, as a vector's length is below `2^64`. -/
def slotAuthor {AuthorityId : Type} (slot : UInt64) (authorities : List AuthorityId) :
    Option AuthorityId :=
  if empty : authorities = [] then none
  else some (authorities.get ⟨slot.toNat % authorities.length,
    Nat.mod_lt _ (List.length_pos_iff.mpr empty)⟩)

/-- `AuraWorker::claim_slot`: the slot's author, when the keystore holds its key. -/
def claimSlot {AuthorityId : Type} (hasKey : AuthorityId → Bool) (slot : UInt64)
    (authorities : List AuthorityId) : Option AuthorityId :=
  (slotAuthor slot authorities).bind fun p => if hasKey p then some p else none

/-- `AuraWorker::pre_digest_data`. -/
def preDigestData (slot : UInt64) : List DigestItem := [auraPreDigest slot]

/-! ## Finding the pre-runtime digest -/

section PreDigest

variable {Hash ClientError : Type}

/-- The loop of `find_pre_digest` over the logs, with the slot found so far: a second Aura
pre-runtime digest is an error, and every other item is ignored. -/
def preDigestLoop : List DigestItem → Option UInt64 → Except (Error Hash ClientError) (Option UInt64)
  | [], preDigest => .ok preDigest
  | log :: logs, preDigest =>
    match asAuraPreDigest log, preDigest.isSome with
    | some _, true => .error .multipleHeaders
    | none, _ => preDigestLoop logs preDigest
    | s, false => preDigestLoop logs s

/-- `find_pre_digest`: the slot of the header's Aura pre-runtime digest; slot `0` for the genesis
header. -/
def findPreDigest {Fields : Type} (header : Header Fields) :
    Except (Error Hash ClientError) UInt64 :=
  if header.number = 0 then .ok 0
  else do
    let preDigest ← preDigestLoop header.digest none
    match preDigest with
    | some slot => .ok slot
    | none => .error .noDigestFound

end PreDigest

/-! ## Checking a header -/

section Check

variable {Fields Hash ClientError AuthorityId Signature : Type}

/-- `check_header`, for a header whose hash is `hash`: the header without its seal and with what
the check found, or the sealed header deferred to its slot. The pre-hash is the hash of the
header without its seal, the last item of the digest, which `header.digest_mut().pop()` takes
off; an equivocation the check finds is only logged, so only its error is modelled. -/
def checkHeader (headerHash : Header Fields → Hash)
    (decodeSignature : List UInt8 → Option Signature)
    (verify : Signature → Hash → AuthorityId → Bool)
    (checkEquivocation : UInt64 → UInt64 → Header Fields → AuthorityId → Except ClientError Unit)
    (slotNow : UInt64) (header : Header Fields) (hash : Hash) (authorities : List AuthorityId)
    (checkForEquivocation : CheckForEquivocation) :
    Except (Error Hash ClientError) (CheckedHeader (Header Fields) (UInt64 × DigestItem)) := do
  let sealItem ← match header.digest.getLast? with
    | some item => .ok item
    | none => .error (.headerUnsealed hash)
  let header := { header with digest := header.digest.dropLast }
  let sig ← match asAuraSeal decodeSignature sealItem with
    | some sig => .ok sig
    | none => .error (.headerBadSeal hash)
  let slot ← findPreDigest header
  if slot > slotNow then
    pure (.deferred { header with digest := header.digest ++ [sealItem] } slot)
  else
    let expectedAuthor ← match slotAuthor slot authorities with
      | some author => .ok author
      | none => .error .slotAuthorNotFound
    let preHash := headerHash header
    if verify sig preHash expectedAuthor then
      if checkForEquivocation.checkForEquivocation then
        match checkEquivocation slotNow slot header expectedAuthor with
        | .ok () => pure (.checked header (slot, sealItem))
        | .error e => .error (.client e)
      else pure (.checked header (slot, sealItem))
    else .error (.badSignature hash)

end Check

/-! ## Sealing a header -/

/-- What `AuraWorker::block_import_params` imports: the header with the author's seal of its hash
pushed as the last digest item; `none` when the keystore cannot sign. -/
def sealHeader {Fields Hash AuthorityId Signature : Type} (headerHash : Header Fields → Hash)
    (encodeSignature : Signature → List UInt8) (signWith : AuthorityId → Hash → Option Signature)
    (author : AuthorityId) (header : Header Fields) : Option (Header Fields) :=
  (signWith author (headerHash header)).map fun signature =>
    { header with digest := header.digest ++ [auraSeal encodeSignature signature] }

end Edgeware.Consensus.Aura
