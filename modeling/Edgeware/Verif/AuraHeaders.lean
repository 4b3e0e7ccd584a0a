import Mathlib.Data.List.Nodup
import Edgeware.Consensus.Aura

/-!
# What a checked Aura header carries

`check_header` against the authoring side. The digest loop of `find_pre_digest` finds a slot
exactly when the header carries one Aura pre-runtime digest (`findPreDigest_eq`). A checked
header is the sealed header without its last item, from a slot no later than now, whose seal
verifies against that slot's author over its hash; a deferred one is the header as it came
(`checkHeader_ok`). A header that the slot's author built and sealed is checked by every
verifier whose clock has reached the slot.
-/

namespace Edgeware.Consensus.Aura

/-! ## Digest items -/

/-- An Aura pre-runtime digest reads back as its slot. -/
@[simp]
theorem asAuraPreDigest_auraPreDigest (slot : UInt64) :
    asAuraPreDigest (auraPreDigest slot) = some slot := by
  have encoded := LittleEndian.read_encode_append 8 slot.toNat []
  have fits : slot.toNat % 256 ^ 8 = slot.toNat :=
    Nat.mod_eq_of_lt (lt_of_lt_of_eq slot.toNat_lt (by decide))
  rw [List.append_nil, fits] at encoded
  simp [auraPreDigest, asAuraPreDigest, encoded]

/-- An Aura seal reads back as its signature when the signature's codec does. -/
theorem asAuraSeal_auraSeal {Signature : Type} {encodeSignature : Signature → List UInt8}
    {decodeSignature : List UInt8 → Option Signature} {signature : Signature}
    (roundTrip : decodeSignature (encodeSignature signature) = some signature) :
    asAuraSeal decodeSignature (auraSeal encodeSignature signature) = some signature := by
  simp [auraSeal, asAuraSeal, roundTrip]

/-! ## The pre-runtime digest -/

section PreDigest

variable {Hash ClientError : Type}

/-- Once a slot is found, the loop fails on any further Aura pre-runtime digest. -/
theorem preDigestLoop_some (logs : List DigestItem) (slot : UInt64) :
    (preDigestLoop logs (some slot) : Except (Error Hash ClientError) (Option UInt64)) =
      if logs.filterMap asAuraPreDigest = [] then .ok (some slot) else .error .multipleHeaders := by
  induction logs with
  | nil => rfl
  | cons log logs ih =>
    cases found : asAuraPreDigest log with
    | none => simp [preDigestLoop, found, ih]
    | some other => simp [preDigestLoop, found]

/-- From nothing found, the loop gives the slot of the one Aura pre-runtime digest, nothing when
there is none, and an error when there are more. -/
theorem preDigestLoop_none (logs : List DigestItem) :
    (preDigestLoop logs none : Except (Error Hash ClientError) (Option UInt64)) =
      match logs.filterMap asAuraPreDigest with
      | [] => .ok none
      | [slot] => .ok (some slot)
      | _ :: _ :: _ => .error .multipleHeaders := by
  induction logs with
  | nil => rfl
  | cons log logs ih =>
    cases found : asAuraPreDigest log with
    | none => simp [preDigestLoop, found, ih]
    | some slot =>
      simp only [preDigestLoop, found, Option.isSome_none, preDigestLoop_some,
        List.filterMap_cons]
      cases rest : logs.filterMap asAuraPreDigest <;> simp

/-- `find_pre_digest` off the genesis header: the slot of its one Aura pre-runtime digest. -/
theorem findPreDigest_eq {Fields : Type} (header : Header Fields) (positive : header.number ≠ 0) :
    (findPreDigest header : Except (Error Hash ClientError) UInt64) =
      match header.digest.filterMap asAuraPreDigest with
      | [] => .error .noDigestFound
      | [slot] => .ok slot
      | _ :: _ :: _ => .error .multipleHeaders := by
  rw [findPreDigest, if_neg positive, preDigestLoop_none]
  cases header.digest.filterMap asAuraPreDigest with
  | nil => rfl
  | cons slot rest => cases rest <;> rfl

/-- The slot `find_pre_digest` finds: `0` for the genesis header, and otherwise the slot of the
header's one Aura pre-runtime digest. -/
theorem findPreDigest_eq_ok {Fields : Type} {header : Header Fields} {slot : UInt64} :
    (findPreDigest header : Except (Error Hash ClientError) UInt64) = .ok slot ↔
      header.number = 0 ∧ slot = 0 ∨
        header.number ≠ 0 ∧ header.digest.filterMap asAuraPreDigest = [slot] := by
  by_cases genesis : header.number = 0
  · simp [findPreDigest, genesis, eq_comm]
  · rw [findPreDigest_eq header genesis]
    cases header.digest.filterMap asAuraPreDigest with
    | nil => simp [genesis]
    | cons found rest => cases rest <;> simp [genesis]

end PreDigest

/-! ## Slots and their authors -/

section Authors

variable {AuthorityId : Type}

/-- A slot is claimed for its author, when the keystore holds the author's key. -/
theorem claimSlot_eq_some {hasKey : AuthorityId → Bool} {slot : UInt64}
    {authorities : List AuthorityId} {author : AuthorityId} :
    claimSlot hasKey slot authorities = some author ↔
      slotAuthor slot authorities = some author ∧ hasKey author = true := by
  unfold claimSlot
  cases slotAuthor slot authorities with
  | none => simp
  | some found =>
    by_cases held : hasKey found = true
    · simp only [Option.bind_some, held, if_true, Option.some.injEq]
      constructor
      · rintro rfl
        exact ⟨rfl, held⟩
      · rintro ⟨rfl, -⟩
        rfl
    · simp only [Option.bind_some, held, Bool.false_eq_true, if_false, reduceCtorEq, false_iff,
        not_and, Option.some.injEq]
      rintro rfl
      exact held

end Authors

/-! ## Checking a header -/

section Check

variable {Fields Hash ClientError AuthorityId Signature : Type}
  {headerHash : Header Fields → Hash} {decodeSignature : List UInt8 → Option Signature}
  {verify : Signature → Hash → AuthorityId → Bool}
  {checkEquivocation : UInt64 → UInt64 → Header Fields → AuthorityId → Except ClientError Unit}
  {slotNow : UInt64} {hash : Hash} {authorities : List AuthorityId} {mode : CheckForEquivocation}

/-- A header whose digest ends in `item` is the header without it, with `item` pushed back. -/
theorem eq_of_getLast? {header : Header Fields} {item : DigestItem}
    (last : header.digest.getLast? = some item) :
    header = { header with digest := header.digest.dropLast ++ [item] } := by
  obtain ⟨front, split⟩ := List.getLast?_eq_some_iff.mp last
  cases header
  simp only at split
  simp [split]

/-- What `check_header` can return: the sealed header, as it came, deferred to its future slot;
or the header without its seal, checked at a slot no later than now, its seal a signature that
verifies against the slot's author over its hash. -/
theorem checkHeader_ok {header : Header Fields} {result}
    (ok : checkHeader headerHash decodeSignature verify checkEquivocation slotNow header hash
      authorities mode = .ok result) :
    ∃ pre item signature slot,
      header = { pre with digest := pre.digest ++ [item] } ∧
      asAuraSeal decodeSignature item = some signature ∧
      (findPreDigest pre : Except (Error Hash ClientError) UInt64) = .ok slot ∧
      (slotNow < slot ∧ result = .deferred header slot ∨
        slot ≤ slotNow ∧ result = .checked pre (slot, item) ∧
          ∃ author, slotAuthor slot authorities = some author ∧
            verify signature (headerHash pre) author = true) := by
  cases last : header.digest.getLast? with
  | none => simp [checkHeader, last, bind, Except.bind] at ok
  | some item =>
    cases sig : asAuraSeal decodeSignature item with
    | none => simp [checkHeader, last, sig, bind, Except.bind] at ok
    | some signature =>
      cases found : (findPreDigest { header with digest := header.digest.dropLast } :
          Except (Error Hash ClientError) UInt64) with
      | error e => simp [checkHeader, last, sig, found, bind, Except.bind] at ok
      | ok slot =>
        refine ⟨{ header with digest := header.digest.dropLast }, item, signature, slot,
          eq_of_getLast? last, sig, found, ?_⟩
        simp only [checkHeader, last, sig, found, bind, Except.bind, pure, Except.pure] at ok
        by_cases future : slotNow < slot
        case pos =>
          rw [if_pos future, Except.ok.injEq] at ok
          exact .inl ⟨future, by rw [← ok, ← eq_of_getLast? last]⟩
        case neg =>
          rw [if_neg future] at ok
          refine .inr ⟨UInt64.not_lt.mp future, ?_⟩
          cases author : slotAuthor slot authorities with
          | none => simp [author] at ok
          | some expected =>
            by_cases valid : verify signature (headerHash
                { header with digest := header.digest.dropLast }) expected = true
            case neg => simp [author, valid] at ok
            case pos =>
              simp only [author, valid, if_true] at ok
              refine ⟨?_, expected, rfl, valid⟩
              split at ok
              · split at ok
                · exact (Except.ok.inj ok).symm
                · cases ok
              · exact (Except.ok.inj ok).symm

/-- A checked header is sound: it is the sealed header without its last item; its slot is no
later than now; it is the genesis header at slot `0`, or it carries exactly one Aura pre-runtime
digest, of that slot; and the last item is an Aura seal whose signature verifies, over the hash
of the header, against the author the slot assigns. -/
theorem checkHeader_sound {header pre : Header Fields} {slot : UInt64} {item : DigestItem}
    (checked : checkHeader headerHash decodeSignature verify checkEquivocation slotNow header hash
      authorities mode = .ok (.checked pre (slot, item))) :
    header = { pre with digest := pre.digest ++ [item] } ∧ slot ≤ slotNow ∧
      (pre.number = 0 ∧ slot = 0 ∨
        pre.number ≠ 0 ∧ pre.digest.filterMap asAuraPreDigest = [slot]) ∧
      ∃ signature author, asAuraSeal decodeSignature item = some signature ∧
        slotAuthor slot authorities = some author ∧ verify signature (headerHash pre) author = true := by
  obtain ⟨pre', item', signature, slot', sealed, sig, found, outcome⟩ := checkHeader_ok checked
  rcases outcome with ⟨-, deferred⟩ | ⟨onTime, same, author, assigned, valid⟩
  · cases deferred
  · simp only [CheckedHeader.checked.injEq, Prod.mk.injEq] at same
    obtain ⟨rfl, rfl, rfl⟩ := same
    exact ⟨sealed, onTime, findPreDigest_eq_ok.mp found, signature, author, sig, assigned, valid⟩

/-- A header of slot `3`, sealed by the second of two authorities, checked at slot `5`. -/
theorem checkHeader_sound_slot_three :
    (⟨1, preDigestData 3 ++ [auraSeal (fun signature : UInt8 => [signature]) 10], ()⟩ : Header Unit) =
        { (⟨1, preDigestData 3, ()⟩ : Header Unit) with
          digest := preDigestData 3 ++ [auraSeal (fun signature : UInt8 => [signature]) 10] } ∧
      (3 : UInt64) ≤ 5 ∧
      ((1 : Nat) = 0 ∧ (3 : UInt64) = 0 ∨
        (1 : Nat) ≠ 0 ∧ (preDigestData 3).filterMap asAuraPreDigest = [3]) ∧
      ∃ (signature : UInt8) (author : Nat),
        asAuraSeal List.head? (auraSeal (fun signature : UInt8 => [signature]) 10) = some signature ∧
        slotAuthor 3 [7, 9] = some author ∧ decide (signature = UInt8.ofNat (author + 1)) = true :=
  checkHeader_sound
    (rfl : checkHeader (fun header : Header Unit => header.number) List.head?
      (fun (signature : UInt8) (hash author : Nat) => decide (signature = UInt8.ofNat (author + hash)))
      (fun _ _ _ _ => (.ok () : Except Unit Unit)) 5
      ⟨1, preDigestData 3 ++ [auraSeal (fun signature : UInt8 => [signature]) 10], ()⟩ 0 [7, 9] .yes =
      .ok (.checked ⟨1, preDigestData 3, ()⟩ (3, auraSeal (fun signature : UInt8 => [signature]) 10)))

/-- The converse of `checkHeader_ok` for a checked header: a header sealed with a signature that
verifies against the author of its slot, no later than now, is checked unless the equivocation
check meets a client error. -/
theorem checkHeader_of_sealed {pre : Header Fields} {item : DigestItem} {signature : Signature}
    {slot : UInt64} {author : AuthorityId}
    (sig : asAuraSeal decodeSignature item = some signature)
    (found : (findPreDigest pre : Except (Error Hash ClientError) UInt64) = .ok slot)
    (onTime : slot ≤ slotNow) (assigned : slotAuthor slot authorities = some author)
    (valid : verify signature (headerHash pre) author = true)
    (noClientError : mode.checkForEquivocation = true →
      checkEquivocation slotNow slot pre author = .ok ()) :
    checkHeader headerHash decodeSignature verify checkEquivocation slotNow
      { pre with digest := pre.digest ++ [item] } hash authorities mode = .ok (.checked pre (slot, item)) := by
  have unsealed : ({ pre with digest := (pre.digest ++ [item]).dropLast } : Header Fields) = pre := by
    rw [List.dropLast_concat]
  simp only [checkHeader, List.getLast?_concat, unsealed, sig, found, bind, Except.bind,
    if_neg (UInt64.not_lt.mpr onTime), assigned, valid, if_true, pure, Except.pure]
  cases checking : mode.checkForEquivocation
  case false => rfl
  case true => simp [noClientError checking]

end Check

/-! ## Authors and verifiers agree -/

section Agreement

variable {Fields Hash ClientError AuthorityId Signature : Type}
  {headerHash : Header Fields → Hash} {encodeSignature : Signature → List UInt8}
  {decodeSignature : List UInt8 → Option Signature}
  {verify : Signature → Hash → AuthorityId → Bool}
  {signWith : AuthorityId → Hash → Option Signature}

/-- A sealed header is the header with the seal of the author's signature of its hash pushed
last. -/
theorem sealHeader_eq_some {author : AuthorityId} {header sealedHeader : Header Fields}
    (sealed : sealHeader headerHash encodeSignature signWith author header = some sealedHeader) :
    ∃ signature, signWith author (headerHash header) = some signature ∧
      sealedHeader = { header with digest := header.digest ++ [auraSeal encodeSignature signature] } := by
  unfold sealHeader at sealed
  cases signed : signWith author (headerHash header) with
  | none => simp [signed] at sealed
  | some signature =>
    simp only [signed, Option.map_some, Option.some.injEq] at sealed
    exact ⟨signature, rfl, sealed.symm⟩

/-- Authors and verifiers agree: a header that the author of its slot built on the slot's
pre-runtime digest, with no other Aura pre-runtime digest among the runtime's logs, and sealed,
is checked, as the header the author built, by every verifier that holds the same authorities
and whose clock has reached the slot, unless its equivocation check meets a client error. The
signature codec reads back what it writes, and the keystore's signatures verify. -/
theorem checkHeader_accepts_sealed {hasKey : AuthorityId → Bool}
    {checkEquivocation : UInt64 → UInt64 → Header Fields → AuthorityId → Except ClientError Unit}
    {author : AuthorityId} {authorities : List AuthorityId} {slot slotNow : UInt64}
    {logs : List DigestItem} {header sealedHeader : Header Fields} {hash : Hash}
    {mode : CheckForEquivocation}
    (roundTrip : ∀ signature, decodeSignature (encodeSignature signature) = some signature)
    (signs : ∀ signature, signWith author (headerHash header) = some signature →
      verify signature (headerHash header) author = true)
    (claimed : claimSlot hasKey slot authorities = some author)
    (built : header.digest = preDigestData slot ++ logs)
    (runtimeLogs : logs.filterMap asAuraPreDigest = []) (number : header.number ≠ 0)
    (sealed : sealHeader headerHash encodeSignature signWith author header = some sealedHeader)
    (onTime : slot ≤ slotNow)
    (noClientError : mode.checkForEquivocation = true →
      checkEquivocation slotNow slot header author = .ok ()) :
    ∃ item, sealedHeader = { header with digest := header.digest ++ [item] } ∧
      checkHeader headerHash decodeSignature verify checkEquivocation slotNow sealedHeader hash
        authorities mode = .ok (.checked header (slot, item)) := by
  obtain ⟨signature, signed, rfl⟩ := sealHeader_eq_some sealed
  have oneSlot : header.digest.filterMap asAuraPreDigest = [slot] := by
    rw [built, List.filterMap_append, runtimeLogs]
    simp [preDigestData]
  have found : (findPreDigest header : Except (Error Hash ClientError) UInt64) = .ok slot :=
    findPreDigest_eq_ok.mpr (.inr ⟨number, oneSlot⟩)
  refine ⟨auraSeal encodeSignature signature, rfl, ?_⟩
  exact checkHeader_of_sealed (asAuraSeal_auraSeal (roundTrip signature)) found onTime
    (claimSlot_eq_some.mp claimed).1 (signs signature signed) noClientError

/-- The second of two authorities builds and seals the header of slot `3`, signing with its key;
a verifier at slot `5` checks it. -/
theorem checkHeader_accepts_sealed_slot_three :
    ∃ item, (⟨1, preDigestData 3 ++ [auraSeal (fun signature : UInt8 => [signature]) 10], ()⟩ :
        Header Unit) = { (⟨1, preDigestData 3, ()⟩ : Header Unit) with
          digest := preDigestData 3 ++ [item] } ∧
      checkHeader (fun header : Header Unit => header.number) List.head?
        (fun (signature : UInt8) (hash author : Nat) => decide (signature = UInt8.ofNat (author + hash)))
        (fun _ _ _ _ => (.ok () : Except Unit Unit)) 5
        ⟨1, preDigestData 3 ++ [auraSeal (fun signature : UInt8 => [signature]) 10], ()⟩ 0 [7, 9] .yes =
        .ok (.checked ⟨1, preDigestData 3, ()⟩ (3, item)) :=
  checkHeader_accepts_sealed
    (fun _ => rfl : ∀ signature : UInt8, List.head? [signature] = some signature)
    (fun _ signed => by cases signed; rfl :
      ∀ signature : UInt8, some (UInt8.ofNat (9 + 1)) = some signature →
        decide (signature = UInt8.ofNat (9 + 1)) = true)
    (rfl : claimSlot (fun _ => true) 3 [7, 9] = some 9)
    (rfl : (⟨1, preDigestData 3, ()⟩ : Header Unit).digest = preDigestData 3 ++ [])
    rfl (by decide)
    (rfl : sealHeader (fun header : Header Unit => header.number) (fun signature : UInt8 => [signature])
      (fun author hash => some (UInt8.ofNat (author + hash))) 9 ⟨1, preDigestData 3, ()⟩ =
      some ⟨1, preDigestData 3 ++ [auraSeal (fun signature : UInt8 => [signature]) 10], ()⟩)
    (by decide) (fun _ => rfl)

end Agreement

end Edgeware.Consensus.Aura
