import VerityVerifier.Core.Endpoint
import VerityVerifier.Core.Reference
import VerityVerifier.Core.Version
import VerityVerifier.Library.Console
import VerityVerifier.Runner.Decoding

/-!
# What the two runners read

The arguments, the files they name, and the outside code are one world. A runner panics on
an argument that it needs and does not find; everything else is told apart by exit code.
-/
namespace VerityVerifier.Runner

open VerityVerifier.Core
open VerityVerifier.Library.ByteString
open VerityVerifier.Library.Console
open VerityVerifier.Library.Text

/-- How a runner ends. -/
inductive Exit where
  | code (n : UInt8)
  | panicked (message : String)
  deriving DecidableEq

/-- `ExitCode::SUCCESS`. -/
def Exit.success : Exit := .code 0

/-- `ExitCode::FAILURE`. -/
def Exit.failure : Exit := .code 1

/-- `expect`, of an optional value. -/
def expect {α : Type} (o : Option α) (message : String) : Except Exit α :=
  match o with
  | some a => .ok a
  | none => .error (.panicked message)

/-- `expect`, of a result. -/
def expectOk {ε α : Type} (x : Except ε α) (message : String) : Except Exit α :=
  expect x.toOption message

/-- What a run is given: its arguments, the files, and the code outside the repository. -/
structure World (κ : Type) where
  platform : Platform κ
  args : List String
  read : String → Except String Bytes
  /-- The label and the contents of a PEM block. -/
  pemDecode : Bytes → Except String (String × Bytes)

/-- The argument behind the first that is the name. -/
def arg (args : List String) (name : String) : Option String :=
  match args with
  | [] => none
  | a :: rest => if a = name then rest.head? else arg rest name

/-- Indexing by a key or by a position: `Null` where there is nothing. -/
def indexKey (key : String) (value : Json) : Json := (value.get key).getD .null

def indexItem (i : Nat) : Json → Json
  | .array values => values[i]?.getD .null
  | _ => .null

/-! ## The licensed hash and the leaf -/

/-- The hash that the document is compared with, and whether it was taken from the document
itself. -/
def licensedHash {κ : Type} (P : Platform κ) (supplied : Option String) (composeDocument : Bytes) :
    Except String (ComposeHash × Bool) :=
  match supplied with
  | some hex => ((ComposeHash.parseHex hex).map fun h => (h, false)).mapError toString
  | none => .ok (ComposeHash.of P composeDocument, true)

def pemMark : Bytes := utf8 "-----BEGIN"

def loadLeafCertificate {κ : Type} (W : World κ) (path : String) : Except String Bytes :=
  match W.read path with
  | .error e => .error s!"{path}: {e}"
  | .ok bytes =>
    if pemMark.isPrefixOf bytes = false then .ok bytes
    else
      match W.pemDecode bytes with
      | .error e => .error s!"{path} is not valid PEM: {e}"
      | .ok (label, der) =>
        if label ≠ "CERTIFICATE" then
          .error (s!"{path} is a PEM `{label}` block, not a CERTIFICATE — " ++
            "--leaf-cert wants the leaf from the TLS handshake")
        else .ok der

/-! ## The boot reference -/

/-- One register of a reference, with what is said of text that is no measurement. -/
def measurementAt {ε : Type} (notHex wrongLength : String → ε) (raw : Json) (key : String) :
    Except ε (Option Measurement) :=
  match (raw.get key).bind Json.asStr with
  | none => .ok none
  | some hex =>
    match hexDecode hex with
    | none => .error (notHex key)
    | some bytes =>
      if h : bytes.length = measurementLen then .ok (some ⟨⟨bytes, h⟩⟩)
      else .error (wrongLength key)

def bootReferenceAt {ε : Type} (notHex wrongLength : String → ε) (raw : Json) :
    Except ε BootReference := do
  let mrtd ← measurementAt notHex wrongLength raw "mrtd"
  let rtmr0 ← measurementAt notHex wrongLength raw "rtmr0"
  let rtmr1 ← measurementAt notHex wrongLength raw "rtmr1"
  let rtmr2 ← measurementAt notHex wrongLength raw "rtmr2"
  return { mrtd, rtmr0, rtmr1, rtmr2 }

/-- Report a named image, and refuse a revoked one: false aborts the run. The runners differ
in what they were about to do. -/
def reportOsImage (before : String) (name : Option String) : Ran Exit Bool :=
  match name with
  | none => pure true
  | some name =>
    match knownOsImages.find? fun i => i.name == name with
    | some image =>
      if image.revoked then do
        .eprintln s!"REFUSED before {before}: OS image `{name}` is revoked"
        return false
      else do
        .println s!"os image:       {name} (hash {image.osImageHash})"
        if meetsMinimumVersion name = false then
          .eprintln s!"warning: {name} is below the minimum version this verifier accepts"
        return true
    | none => do
      .eprintln s!"warning: `{name}` is not a known OS image; boot measurements unaffected"
      return true

end VerityVerifier.Runner
