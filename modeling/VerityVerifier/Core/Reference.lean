import VerityVerifier.Core.Quote

/-!
# Boot measurements against a reference

`RTMR3` is absent from the reference, so it cannot be compared. A register that
the reference does not name is not compared either.
-/
namespace VerityVerifier.Core

/-- A published image, by name and by hash. -/
structure OsImage where
  name : String
  osImageHash : String
  revoked : Bool
  deriving DecidableEq

def knownOsImages : List OsImage := [
  { name := "dstack-0.5.6"
    osImageHash := "1a4fb372957b76a81a8938029616d02bed7b0f7af4486ea8defd65efcd435d95"
    revoked := false },
  { name := "dstack-0.5.7"
    osImageHash := "761c05d282c81abeae2d1a8f6d5b1e039c8ce14cc95a6da020b9ed2ff1056816"
    revoked := false },
  { name := "dstack-0.5.8"
    osImageHash := "6427f4f5ded88b72d326bd973e581c1689c5080c6444a0cf90fec7d9e4c8b92a"
    revoked := false },
  { name := "dstack-0.5.9"
    osImageHash := "bd369a8c2f9edb2b52dad48ac8e0b32dde5f1337c423a506b48d07403a7d8033"
    revoked := false },
  { name := "dstack-0.5.10"
    osImageHash := "4c9bd0249cf8a1f79f7b558867b0791d628d7a89dcba84a963338fc5539255fc"
    revoked := false }]

/-- Boot measurements a caller expects. -/
structure BootReference where
  mrtd : Option Measurement
  rtmr0 : Option Measurement
  rtmr1 : Option Measurement
  rtmr2 : Option Measurement
  deriving DecidableEq

inductive BootError where
  | mismatch (register : String) (expected measured : Measurement)
  | revokedImage (name : String)
  deriving DecidableEq

instance : ToString BootError where
  toString
    | .mismatch register expected measured =>
      s!"{register} mismatch: expected {expected}, measured {measured}"
    | .revokedImage name => s!"OS image `{name}` is revoked"

/-- The loop over the register pairs, up to the first mismatch. -/
def comparePairs : List (String × Option Measurement × Measurement) → Except BootError Unit
  | [] => .ok ()
  | (register, some expected, measured) :: rest =>
    if expected ≠ measured then .error (.mismatch register expected measured)
    else comparePairs rest
  | (_, none, _) :: rest => comparePairs rest

def checkBootMeasurements (quote : Quote) (reference : BootReference) : Except BootError Unit :=
  comparePairs [
    ("MRTD", reference.mrtd, quote.mrtd),
    ("RTMR0", reference.rtmr0, quote.rtmr[0]),
    ("RTMR1", reference.rtmr1, quote.rtmr[1]),
    ("RTMR2", reference.rtmr2, quote.rtmr[2])]

/-! ## The runtime registers by name -/

namespace Quote

def rtmr0 (quote : Quote) : Measurement := quote.rtmr[0]
def rtmr1 (quote : Quote) : Measurement := quote.rtmr[1]
def rtmr2 (quote : Quote) : Measurement := quote.rtmr[2]
def rtmr3 (quote : Quote) : Measurement := quote.rtmr[3]

end Quote

end VerityVerifier.Core
