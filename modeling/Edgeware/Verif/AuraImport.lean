import Edgeware.Consensus.AuraImport
import Edgeware.Verif.AuraHeaders

/-!
# The worker and the verifier agree

A block the Aura worker builds on its chain head is verified against the authority set the
worker claimed its slot from: the worker asks `authorities` for the block after the head, and the
verifier asks it for the block it imports, on that block's parent, which are the same question
under every compatibility mode (`authorities_of_epochData`). So the header the worker seals is
imported by every verifier whose clock, plus its one slot of drift, has reached the slot.
-/

namespace Edgeware.Consensus.Aura

section Agreement

variable {Fields Hash ClientError State AuthorityId Signature : Type}
  {api : RuntimeApi Hash State AuthorityId} {parentHash : Fields → Hash}
  {headerHash : Header Fields → Hash} {encodeSignature : Signature → List UInt8}
  {decodeSignature : List UInt8 → Option Signature} {verify : Signature → Hash → AuthorityId → Bool}
  {checkEquivocation : UInt64 → UInt64 → Header Fields → AuthorityId → Except ClientError Unit}
  {debugHash : Hash → String} {displayClient : ClientError → String} {invalidAuthorities : String}
  {compatibilityMode : CompatibilityMode} {checkForEquivocation : CheckForEquivocation}

/-- The worker's question is the verifier's: the authorities for the block after the chain head
are those `authorities` gives for any block on the head with the next number. -/
theorem authorities_of_epochData {chainHead header : Header Fields} {set : List AuthorityId}
    (epoch : epochData api headerHash chainHead compatibilityMode = some set)
    (onHead : parentHash header.fields = headerHash chainHead)
    (number : header.number = chainHead.number + 1) :
    authorities api (parentHash header.fields) header.number compatibilityMode = some set := by
  rw [onHead, number]
  exact epoch

/-- The verifier's answer once the authorities are fetched and the header checked. -/
theorem verifyHeader_of_checkHeader {slotNow : UInt64} (header : Header Fields)
    {set : List AuthorityId} {checked : CheckedHeader (Header Fields) (UInt64 × DigestItem)}
    (fetched : authorities api (parentHash header.fields) header.number compatibilityMode = some set)
    (check : checkHeader headerHash decodeSignature verify checkEquivocation (slotNow + 1) header
      (headerHash header) set checkForEquivocation = .ok checked) :
    verifyHeader api parentHash headerHash decodeSignature verify checkEquivocation debugHash
        displayClient invalidAuthorities compatibilityMode checkForEquivocation slotNow header =
      match checked with
      | .checked pre (_, sealItem) => .ok ⟨pre, [sealItem], headerHash header⟩
      | .deferred _ _ =>
        .error ("Header " ++ debugHash (headerHash header) ++ " rejected: too far in the future") := by
  simp only [verifyHeader, fetched, check, bind, Except.bind]
  cases checked <;> rfl

/-- The worker and the verifier agree: a header that the worker built on its chain head for a
slot it claimed from the head's authority set, on the slot's pre-runtime digest with no other
Aura pre-runtime digest among the runtime's logs, and sealed, is imported, as the header the
worker built with its seal as the post-digest, by every verifier with the same runtime and
compatibility mode whose clock plus one slot has reached the slot, unless its equivocation check
meets a client error. The signature codec reads back what it writes, and the keystore's
signatures verify. -/
theorem verifyHeader_accepts_authored {hasKey : AuthorityId → Bool}
    {signWith : AuthorityId → Hash → Option Signature} {chainHead header sealedHeader : Header Fields}
    {set : List AuthorityId} {author : AuthorityId} {slot slotNow : UInt64} {logs : List DigestItem}
    (roundTrip : ∀ signature, decodeSignature (encodeSignature signature) = some signature)
    (signs : ∀ signature, signWith author (headerHash header) = some signature →
      verify signature (headerHash header) author = true)
    (epoch : epochData api headerHash chainHead compatibilityMode = some set)
    (claimed : claimSlot hasKey slot set = some author)
    (onHead : parentHash header.fields = headerHash chainHead)
    (number : header.number = chainHead.number + 1)
    (built : header.digest = preDigestData slot ++ logs)
    (runtimeLogs : logs.filterMap asAuraPreDigest = [])
    (sealed : sealHeader headerHash encodeSignature signWith author header = some sealedHeader)
    (onTime : slot ≤ slotNow + 1)
    (noClientError : checkForEquivocation.checkForEquivocation = true →
      checkEquivocation (slotNow + 1) slot header author = .ok ()) :
    ∃ item, sealedHeader = { header with digest := header.digest ++ [item] } ∧
      verifyHeader api parentHash headerHash decodeSignature verify checkEquivocation debugHash
          displayClient invalidAuthorities compatibilityMode checkForEquivocation slotNow
          sealedHeader =
        .ok ⟨header, [item], headerHash sealedHeader⟩ := by
  obtain ⟨signature, signed, rfl⟩ := sealHeader_eq_some sealed
  have fetched : authorities api (parentHash header.fields) header.number compatibilityMode =
      some set := authorities_of_epochData epoch onHead number
  have oneSlot : header.digest.filterMap asAuraPreDigest = [slot] := by
    rw [built, List.filterMap_append, runtimeLogs]
    simp [preDigestData]
  have found : (findPreDigest header : Except (Error Hash ClientError) UInt64) = .ok slot :=
    findPreDigest_eq_ok.mpr (.inr ⟨by omega, oneSlot⟩)
  let sealedHeader : Header Fields :=
    { header with digest := header.digest ++ [auraSeal encodeSignature signature] }
  have check : checkHeader headerHash decodeSignature verify checkEquivocation (slotNow + 1)
      sealedHeader (headerHash sealedHeader) set checkForEquivocation =
      .ok (.checked header (slot, auraSeal encodeSignature signature)) :=
    checkHeader_of_sealed (asAuraSeal_auraSeal (roundTrip signature)) found onTime
      (claimSlot_eq_some.mp claimed).1 (signs signature signed) noClientError
  exact ⟨auraSeal encodeSignature signature, rfl,
    verifyHeader_of_checkHeader sealedHeader fetched check⟩

/-- Under the mainnet compatibility mode, the second of two authorities builds and seals the
block of slot `3` on the genesis head; a verifier whose clock reads slot `2` imports it. -/
theorem verifyHeader_accepts_authored_slot_three :
    ∃ item, (⟨1, preDigestData 3 ++ [auraSeal (fun signature : UInt8 => [signature]) 10], 0⟩ :
        Header Nat) = { (⟨1, preDigestData 3, 0⟩ : Header Nat) with
          digest := preDigestData 3 ++ [item] } ∧
      verifyHeader (⟨id, fun state number => some (state + number), fun _ => some [7, 9]⟩ :
          RuntimeApi Nat Nat Nat) id (fun header : Header Nat => header.number) List.head?
          (fun (signature : UInt8) (hash author : Nat) => decide (signature = UInt8.ofNat (author + hash)))
          (fun _ _ _ _ => (.ok () : Except Unit Unit)) toString (fun _ => "") ""
          (.useInitializeBlock 14555555) .yes 2
          ⟨1, preDigestData 3 ++ [auraSeal (fun signature : UInt8 => [signature]) 10], 0⟩ =
        .ok ⟨⟨1, preDigestData 3, 0⟩, [item], 1⟩ :=
  verifyHeader_accepts_authored
    (fun _ => rfl : ∀ signature : UInt8, List.head? [signature] = some signature)
    (fun _ signed => by cases signed; rfl :
      ∀ signature : UInt8, some (UInt8.ofNat (9 + 1)) = some signature →
        decide (signature = UInt8.ofNat (9 + 1)) = true)
    (rfl : epochData (⟨id, fun state number => some (state + number), fun _ => some [7, 9]⟩ :
      RuntimeApi Nat Nat Nat) (fun header : Header Nat => header.number) (⟨0, [], 0⟩ : Header Nat)
      (.useInitializeBlock 14555555) = some [7, 9])
    (rfl : claimSlot (fun _ => true) 3 [7, 9] = some 9)
    (rfl : id (0 : Nat) = (⟨0, [], 0⟩ : Header Nat).number) rfl
    (rfl : (⟨1, preDigestData 3, 0⟩ : Header Nat).digest = preDigestData 3 ++ []) rfl
    (rfl : sealHeader (fun header : Header Nat => header.number) (fun signature : UInt8 => [signature])
      (fun author hash => some (UInt8.ofNat (author + hash))) 9 ⟨1, preDigestData 3, 0⟩ =
      some ⟨1, preDigestData 3 ++ [auraSeal (fun signature : UInt8 => [signature]) 10], 0⟩)
    (by decide) (fun _ => rfl)

end Agreement

end Edgeware.Consensus.Aura
