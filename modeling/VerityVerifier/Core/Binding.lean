import VerityVerifier.Library.Fallible
import VerityVerifier.Library.Text
import VerityVerifier.Core.Platform
import VerityVerifier.Core.Quote

/-!
# The binding between what was licensed and what was measured

A licence names a compose hash; a machine measures its configuration into
`MR-CONFIG-ID`. A `VerifiedCompose` cannot be built without the first comparison.
-/
namespace VerityVerifier.Core

open VerityVerifier.Library.ByteString
open VerityVerifier.Library.Fallible
open VerityVerifier.Library.Text

variable {κ : Type}

def composeHashLen : Nat := 32

/-- The SHA-256 of a compose document. -/
structure ComposeHash where
  bytes : Block composeHashLen
  deriving DecidableEq

instance : ToString ComposeHash := ⟨fun h => hex h.bytes.toList⟩

inductive HashParseError where
  | wrongLength (got : Nat)
  | notHex
  deriving DecidableEq

instance : ToString HashParseError where
  toString
    | .wrongLength got => s!"expected 64 hex characters, got {got}"
    | .notHex => "digest contains a non-hexadecimal character"

namespace ComposeHash

def of (P : Platform κ) (document : Bytes) : ComposeHash := ⟨P.sha256 document⟩

/-- `u8::try_from` of a `u32`. -/
def u8TryFrom (n : Nat) : Option UInt8 := if n < 256 then some (UInt8.ofNat n) else none

/-- The loop over the two-byte chunks, with the slot it writes next. -/
def decodeChunks (got : Nat) : Nat → Bytes → Block composeHashLen →
    Except HashParseError (Block composeHashLen)
  | i, hi :: lo :: rest, bytes =>
    match toDigit16 hi, toDigit16 lo with
    | some hi, some lo =>
      match u8TryFrom (hi <<< 4 ||| lo) with
      | some byte =>
        if i < composeHashLen then decodeChunks got (i + 1) rest (bytes.set i byte)
        else .error (.wrongLength got)
      | none => .error .notHex
    | _, _ => .error .notHex
  | _, _, bytes => .ok bytes

def parseHex (s : String) : Except HashParseError ComposeHash :=
  let s := (stripPrefix "0x" (trim s)).getD (trim s)
  if (utf8 s).length ≠ composeHashLen * 2 then .error (.wrongLength (utf8 s).length)
  else (decodeChunks (utf8 s).length 0 (utf8 s) (Block.zero composeHashLen)).map ComposeHash.mk

end ComposeHash

/-- The document served is not the document licensed. -/
structure HashMismatch where
  expected : ComposeHash
  actual : ComposeHash
  deriving DecidableEq

instance : ToString HashMismatch where
  toString e := s!"compose hash mismatch: licensed {e.expected}, served {e.actual}"

/-- A compose document with the hash that was compared against the licensed one. -/
structure VerifiedCompose (P : Platform κ) where
  document : Bytes
  hash : ComposeHash
  hash_eq : ComposeHash.of P document = hash

def VerifiedCompose.check (P : Platform κ) (document : Bytes) (licensed : ComposeHash) :
    Except HashMismatch (VerifiedCompose P) :=
  let actual := ComposeHash.of P document
  if actual = licensed then .ok ⟨document, actual, rfl⟩
  else .error ⟨licensed, actual⟩

/-- Which `MR-CONFIG-ID` construction a platform uses. -/
inductive MrConfigIdVersion where
  | v1
  | v2
  deriving DecidableEq

/-- The derived `Debug` names. -/
instance : ToString MrConfigIdVersion where
  toString
    | .v1 => "V1"
    | .v2 => "V2"

/-- The version a measurement's prefix byte declares. -/
def MrConfigIdVersion.fromMeasurement (m : Measurement) : Option MrConfigIdVersion :=
  match m.bytes.toList.head? with
  | some 0x01 => some .v1
  | some 0x02 => some .v2
  | _ => none

/-- The array `expected_mrconfigid_v1` fills: the prefix, then the hash over the zeros. -/
def expectedMrconfigidV1 (licensed : ComposeHash) : Measurement :=
  ⟨⟨overwrite ((Block.zero measurementLen).set 0 0x01).toList 1 licensed.bytes.toList, by
    rw [length_overwrite (by rw [Block.length_eq, Block.length_eq]; decide), Block.length_eq]⟩⟩

inductive MrConfigIdError where
  | unknownVersion (pre : UInt8)
  | unsupportedVersion (version : MrConfigIdVersion)
  | mismatch (expected measured : Measurement)
  deriving DecidableEq

instance : ToString MrConfigIdError where
  toString
    | .unknownVersion pre => s!"unrecognised MR-CONFIG-ID version prefix 0x{hexByte pre}"
    | .unsupportedVersion version =>
      s!"MR-CONFIG-ID {version} is not supported by this version of the verifier"
    | .mismatch expected measured =>
      s!"MR-CONFIG-ID mismatch: expected {expected}, measured {measured}"

def checkMrconfigid (measured : Measurement) (licensed : ComposeHash) :
    Except MrConfigIdError Unit :=
  match MrConfigIdVersion.fromMeasurement measured with
  | some .v1 =>
    let expected := expectedMrconfigidV1 licensed
    if expected = measured then .ok () else .error (.mismatch expected measured)
  | some .v2 => .error (.unsupportedVersion .v2)
  | none => .error (.unknownVersion (measured.bytes.toList.head?.getD 0))

/-! ## Which strings are digests -/

namespace ComposeHash

/-- The string between the surrounding white space, without one leading `0x`. -/
def core (s : String) : String := (stripPrefix "0x" (trim s)).getD (trim s)

end ComposeHash

/-! ## What the comparisons establish -/

theorem verifiedCompose_check_ok {P : Platform κ} {document : Bytes} {licensed : ComposeHash}
    {v : VerifiedCompose P} (h : VerifiedCompose.check P document licensed = .ok v) :
    v.document = document ∧ ComposeHash.of P document = licensed := by
  simp only [VerifiedCompose.check] at h
  split at h
  · rename_i he
    obtain rfl := Except.ok.inj h
    exact ⟨rfl, he⟩
  · cases h

theorem verifiedCompose_check_of_eq (P : Platform κ) {document : Bytes} {licensed : ComposeHash}
    (h : ComposeHash.of P document = licensed) :
    ∃ v, VerifiedCompose.check P document licensed = .ok v ∧ v.document = document := by
  refine ⟨⟨document, _, rfl⟩, ?_, rfl⟩
  simp only [VerifiedCompose.check, h, if_true]

/-- The documents that pass are those with the licensed hash. -/
theorem verifiedCompose_check_ok_iff {P : Platform κ} {document : Bytes} {licensed : ComposeHash} :
    (∃ v, VerifiedCompose.check P document licensed = .ok v) ↔
      ComposeHash.of P document = licensed := by
  constructor
  · intro h
    obtain ⟨v, hv⟩ := h
    exact (verifiedCompose_check_ok hv).2
  · intro h
    obtain ⟨v, hv, -⟩ := verifiedCompose_check_of_eq P h
    exact ⟨v, hv⟩

theorem verifiedCompose_check_of_ne (P : Platform κ) {document : Bytes} {licensed : ComposeHash}
    (h : ComposeHash.of P document ≠ licensed) :
    VerifiedCompose.check P document licensed = .error ⟨licensed, ComposeHash.of P document⟩ := by
  simp only [VerifiedCompose.check, h, if_false]

/-- The expected measurement is the prefix, the licensed hash, and fifteen zeros. -/
theorem expectedMrconfigidV1_toList (licensed : ComposeHash) :
    (expectedMrconfigidV1 licensed).bytes.toList =
      0x01 :: licensed.bytes.toList ++ List.replicate 15 0 := by
  have hl : licensed.bytes.toList.length = 32 := licensed.bytes.length_eq
  simp only [expectedMrconfigidV1, overwrite, hl]
  rfl

theorem fromMeasurement_expected (licensed : ComposeHash) :
    MrConfigIdVersion.fromMeasurement (expectedMrconfigidV1 licensed) = some .v1 := by
  simp only [MrConfigIdVersion.fromMeasurement, expectedMrconfigidV1_toList, List.cons_append,
    List.head?_cons]

theorem checkMrconfigid_ok_iff {measured : Measurement} {licensed : ComposeHash} :
    checkMrconfigid measured licensed = .ok () ↔ measured = expectedMrconfigidV1 licensed := by
  constructor
  · intro h
    unfold checkMrconfigid at h
    split at h
    · simp only at h
      split at h
      · rename_i he
        exact he.symm
      · cases h
    · cases h
    · cases h
  · intro he
    subst he
    simp only [checkMrconfigid, fromMeasurement_expected, if_true]

/-- The two refusals that are not a mismatch are decided by the prefix byte alone. -/
theorem checkMrconfigid_unsupported_iff {measured : Measurement} {licensed : ComposeHash} :
    (∃ v, checkMrconfigid measured licensed = .error (.unsupportedVersion v)) ↔
      measured.bytes.toList.head? = some 0x02 := by
  unfold checkMrconfigid MrConfigIdVersion.fromMeasurement
  constructor
  · intro he
    obtain ⟨v, h⟩ := he
    split at h
    · simp only at h
      split at h <;> cases h
    · rename_i hv
      split at hv
      · cases hv
      · assumption
      · cases hv
    · cases h
  · intro h
    exact ⟨.v2, by simp [h]⟩

theorem expectedMrconfigidV1_injective {a b : ComposeHash}
    (h : expectedMrconfigidV1 a = expectedMrconfigidV1 b) : a = b := by
  have hl : (0x01 : UInt8) :: a.bytes.toList ++ List.replicate 15 0 =
      0x01 :: b.bytes.toList ++ List.replicate 15 0 := by
    rw [← expectedMrconfigidV1_toList, ← expectedMrconfigidV1_toList, h]
  have hb : a.bytes.toList = b.bytes.toList :=
    List.append_cancel_right (List.cons.inj hl).2
  cases a
  cases b
  exact congrArg ComposeHash.mk (Block.ext hb)

end VerityVerifier.Core
