import VerityVerifier.Library.ByteString
import Mathlib.Algebra.Group.Nat.Defs

/-!
# TDX quote parsing

Structure only: the measured fields are read, nothing is judged, and every read
is fallible. The word size of the target is a parameter because the declared
length can overflow it.
-/
namespace VerityVerifier.Core

open VerityVerifier.Library.ByteString

def measurementLen : Nat := 48
def reportDataLen : Nat := 64
def headerLen : Nat := 48
def reportLen : Nat := 584
def offSigLen : Nat := headerLen + reportLen
def minQuoteLen : Nat := offSigLen + 4
def teeTypeTdx : UInt32 := 0x81

def offMrtd : Nat := 136
def offMrconfigid : Nat := 184
def offMrowner : Nat := 232
def offMrownerconfig : Nat := 280
def offRtmr0 : Nat := 328
def offRtmr1 : Nat := 376
def offRtmr2 : Nat := 424
def offRtmr3 : Nat := 472
def offReportdata : Nat := 520

/-- A 48-byte TDX measurement. -/
structure Measurement where
  bytes : Block measurementLen
  deriving DecidableEq

/-- The 64 bytes the enclave asked the hardware to sign for it. -/
structure ReportData where
  bytes : Block reportDataLen
  deriving DecidableEq

def ReportData.isZero (r : ReportData) : Bool := r.bytes.isZero

instance : ToString Measurement := ⟨fun m => hex m.bytes.toList⟩
instance : ToString ReportData := ⟨fun r => hex r.bytes.toList⟩

inductive ParseError where
  | tooShort (got need : Nat)
  | unsupportedVersion (version : UInt16)
  | notTdx (teeType : UInt32)
  | signatureTruncated (got declared : Nat)
  | signatureLengthImplausible (declared : UInt32)
  | invalidHex
  deriving DecidableEq

open ParseError in
instance : ToString ParseError where
  toString
    | .tooShort got need => s!"quote too short: {got} bytes, need at least {need}"
    | .unsupportedVersion version => s!"unsupported quote version {version}"
    | .notTdx teeType => s!"tee_type 0x{hexNat teeType.toNat} is not TDX (0x81)"
    | .signatureTruncated got declared =>
      s!"signature section truncated: {got} bytes, quote declares {declared}"
    | signatureLengthImplausible declared =>
      s!"declared signature length {declared} is implausible"
    | .invalidHex => "input is not valid hexadecimal"

/-- The measured fields of a TDX quote. -/
structure Quote where
  version : UInt16
  mrtd : Measurement
  mrconfigid : Measurement
  mrowner : Measurement
  mrownerconfig : Measurement
  rtmr : Vector Measurement 4
  reportData : ReportData
  deriving DecidableEq

namespace Quote

/-- `bytes.get(off..off + n)` as an array, with the length it would have needed. -/
def readBlock (bytes : Bytes) (n off : Nat) : Except ParseError (Block n) :=
  match block? bytes off n with
  | some b => .ok b
  | none => .error (.tooShort bytes.length (off + n))

def leU16 (bytes : Bytes) (off : Nat) : Except ParseError UInt16 :=
  (readBlock bytes 2 off).map fun b => UInt16.ofNat (leNat b.toList)

def leU32 (bytes : Bytes) (off : Nat) : Except ParseError UInt32 :=
  (readBlock bytes 4 off).map fun b => UInt32.ofNat (leNat b.toList)

def measurement (bytes : Bytes) (off : Nat) : Except ParseError Measurement :=
  (readBlock bytes measurementLen (headerLen + off)).map Measurement.mk

/-- `usize::try_from(n).ok().and_then(|n| MIN_QUOTE_LEN.checked_add(n))`. -/
def declaredLen (usizeBits : Nat) (sigLen : UInt32) : Option Nat :=
  if sigLen.toNat < 2 ^ usizeBits ∧ minQuoteLen + sigLen.toNat < 2 ^ usizeBits then
    some (minQuoteLen + sigLen.toNat)
  else none

open ParseError in
def parse (usizeBits : Nat) (bytes : Bytes) : Except ParseError Quote := do
  if bytes.length < minQuoteLen then
    throw (.tooShort bytes.length minQuoteLen)
  let version ← leU16 bytes 0
  if version ≠ 4 then
    throw (.unsupportedVersion version)
  let teeType ← leU32 bytes 4
  if teeType ≠ teeTypeTdx then
    throw (.notTdx teeType)
  let sigLenRaw ← leU32 bytes offSigLen
  match declaredLen usizeBits sigLenRaw with
  | none => throw <| signatureLengthImplausible sigLenRaw
  | some declared =>
    if bytes.length < declared then
      throw (.signatureTruncated bytes.length declared)
    let reportData ← (readBlock bytes reportDataLen (headerLen + offReportdata)).map ReportData.mk
    return {
      version
      mrtd := ← measurement bytes offMrtd
      mrconfigid := ← measurement bytes offMrconfigid
      mrowner := ← measurement bytes offMrowner
      mrownerconfig := ← measurement bytes offMrownerconfig
      rtmr := #v[← measurement bytes offRtmr0, ← measurement bytes offRtmr1,
        ← measurement bytes offRtmr2, ← measurement bytes offRtmr3]
      reportData
    }

end Quote

end VerityVerifier.Core
