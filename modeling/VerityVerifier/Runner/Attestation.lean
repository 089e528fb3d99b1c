import VerityVerifier.Core.Report
import VerityVerifier.Runner.Inputs
import VerityVerifier.Soundness.Acceptance

/-!
# The runner over recorded evidence

One run reads its files, fetches the collateral of the quote, verifies once, and says what
it found. The endpoint that it is told about is printed and classified, and that is all.
-/
namespace VerityVerifier.Runner

open VerityVerifier.Core
open VerityVerifier.Library.ByteString
open VerityVerifier.Library.Console
open VerityVerifier.Library.Text

variable {κ : Type}

/-- The arguments of a run. -/
structure Options where
  attestation : String
  compose : String
  imageDigest : String
  osImage : Option String
  bootReference : Option String
  endpoint : Option String
  leafCert : Option String
  licensedComposeHash : Option String

def options (args : List String) : Except Exit Options := do
  let attestation ← expect (arg args "--attestation") "--attestation <file>"
  let compose ← expect (arg args "--compose") "--compose <file>"
  let imageDigest ← expect (arg args "--image-digest") "--image-digest sha256:…"
  return {
    attestation, compose, imageDigest
    osImage := arg args "--os-image"
    bootReference := arg args "--boot-reference"
    endpoint := arg args "--endpoint"
    leafCert := arg args "--leaf-cert"
    licensedComposeHash := arg args "--licensed-compose-hash" }

/-- What the run asks of the network and the clock. -/
structure AttestWorld (κ : Type) extends World κ where
  collateralClient : Except String Unit
  fetch : Bytes → Except String κ
  clock : Option UInt64

/-- Say why and exit with 2. -/
def orExit {α : Type} (said : String → String) (x : Except String α) : Ran Exit α :=
  match x with
  | .ok a => pure a
  | .error why => do
    .eprintln (said why)
    .stop (.code 2)

/-- The quote of the first certificate in the attestation file. -/
def attestedQuote (W : World κ) (path : String) : Except Exit Bytes := do
  let bytes ← expectOk (W.read path) "attestation file"
  let attestation ← expectOk (W.platform.jsonFromSlice bytes) "attestation is JSON"
  let quote := indexKey "quote" (indexItem 0 (indexKey "app_certificates" attestation))
  let quoteHex ← expect quote.asStr "app_certificates[0].quote"
  expect (hexDecode quoteHex) "quote is hex"

/-- The leaf of the connection, when a file of one was named. -/
def peerCertificate (W : World κ) (leafCert : Option String) : Except String PeerCertificate :=
  match leafCert with
  | none => .ok .notConnected
  | some path => (loadLeafCertificate W path).map .presented

/-- Load a reference, panicking where the file is none. -/
def loadBootReference (W : World κ) (path : String) : Except Exit BootReference := do
  let bytes ← expectOk (W.read path) "boot reference file"
  let raw ← expectOk (W.platform.jsonFromSlice bytes) "boot reference is JSON"
  bootReferenceAt (fun _ => .panicked "measurement is hex")
    (fun _ => .panicked "a measurement is exactly 48 bytes") raw

def bootReference (W : World κ) (path : Option String) : Except Exit (Option BootReference) :=
  match path with
  | none => .ok none
  | some path => (loadBootReference W path).map some

def warnIfTlsTerminating (endpoint : String) : Ran Exit Unit :=
  match Endpoint.parse endpoint with
  | .error why =>
    .eprintln s!"warning: --endpoint could not be classified ({why}); it is advisory here"
  | .ok parsed =>
    if parsed.form ≠ .dstackTerminating then pure ()
    else
      let passthrough := parsed.passthroughForm.getD parsed.host
      .eprintln (s!"warning: `{parsed.host}` is dStack's TLS-TERMINATING gateway form. " ++
        "The certificate you get from it belongs to the gateway, not the enclave, so channel " ++
        "binding cannot succeed. The passthrough form appends `s` to the port label: " ++
        s!"`{passthrough}`")

/-- What is said of the endpoint. -/
def noteEndpoint : Option String → Ran Exit Unit
  | none => pure ()
  | some endpoint => do
    .println s!"endpoint:       {endpoint}"
    warnIfTlsTerminating endpoint

def cannotFail : String :=
  "                ^ derived from the document itself — no --licensed-compose-hash was " ++
  "supplied, so check 1 compares sha256(doc) against sha256(doc) and CANNOT FAIL. It is " ++
  "not evidence. mr_config_id is what catches a tampered configuration in this run."

def notAttempted : String :=
  "\nchannel binding: NOT ATTEMPTED — no --leaf-cert supplied; " ++
  "this run cannot establish what you are talking to."

/-- The licence, the evidence and the reference of one run. -/
structure Prepared (κ : Type) where
  licensed : LicensedVersion
  evidence : Evidence κ
  boot : Option BootReference

/-- What is read from the files before anything is said. -/
structure Loaded where
  rawQuote : Bytes
  composeDocument : Bytes
  composeHash : ComposeHash
  selfReferential : Bool
  peer : PeerCertificate

def load (W : World κ) (o : Options) : Ran Exit Loaded := do
  let rawQuote ← .silent (attestedQuote W o.attestation)
  let composeDocument ← .silent (expectOk (W.read o.compose) "compose file")
  let (composeHash, selfReferential) ← orExit
    (fun why => s!"could not read --licensed-compose-hash: {why}")
    (licensedHash W.platform o.licensedComposeHash composeDocument)
  let peer ← orExit (fun why => s!"could not read --leaf-cert: {why}")
    (peerCertificate W o.leafCert)
  return { rawQuote, composeDocument, composeHash, selfReferential, peer }

def introduce (loaded : Loaded) : Ran Exit Unit := do
  .println s!"quote:          {loaded.rawQuote.length} bytes"
  .println s!"compose:        {loaded.composeDocument.length} bytes"
  .println s!"licensed hash:  {loaded.composeHash}"
  if loaded.selfReferential then .println cannotFail

/-- What happens between the endpoint's note and the verification. -/
def gather (W : AttestWorld κ) (o : Options) (loaded : Loaded) : Ran Exit (Prepared κ) := do
  .silent (expectOk W.collateralClient "collateral client")
  let collateral ← orExit (fun why => s!"could not fetch collateral: {why}")
    (W.fetch loaded.rawQuote)
  let nowSecs ← .silent (expect W.clock "clock")
  if (← reportOsImage "verifying" o.osImage) = false then .stop .failure
  let boot ← .silent (bootReference W.toWorld o.bootReference)
  if loaded.peer = .notConnected then .println notAttempted
  return {
    licensed := ⟨loaded.composeHash, o.imageDigest⟩
    evidence := {
      rawQuote := loaded.rawQuote
      composeDocument := loaded.composeDocument
      collateral, nowSecs
      peerCertificate := loaded.peer }
    boot }

def reportTranscript (verdict : Verdict) : Ran Exit Unit := do
  .println "\nchecks performed:"
  .forEach (fun r => .println (transcriptLine r.1 r.2)) verdict.results
  .forEach (fun unrun => .println ("  " ++ padRight 22 unrun.name ++ " NOT RUN (essential)"))
    verdict.unrunEssentials

def reportMeasuredRegisters (P : Platform κ) (rawQuote : Bytes) : Ran Exit Unit :=
  match Quote.parse P.usizeBits rawQuote with
  | .error _ => pure ()
  | .ok quote => do
    .println "\nmeasured boot registers (a reference is captured, never derived):"
    .println s!"  mrtd   {quote.mrtd}"
    .forEach (fun r => .println s!"  rtmr{r.2}  {r.1}") (quote.rtmr.toList.zipIdx.take 3)

def conclude (P : Platform κ) (p : Prepared κ) : Ran Exit Exit := do
  let verdict := verify P p.licensed p.evidence p.boot
  reportTranscript verdict
  reportMeasuredRegisters P p.evidence.rawQuote
  if verdict.isTrustworthy then do
    .println "\nACCEPTED"
    return .success
  else do
    .println "\nREFUSED"
    return .failure

/-- The runner on its arguments. -/
def runOptions (W : AttestWorld κ) (o : Options) : Ran Exit Exit := do
  let loaded ← load W.toWorld o
  introduce loaded
  noteEndpoint o.endpoint
  let prepared ← gather W o loaded
  conclude W.platform prepared

/-- `main` of `verify-attestation`. -/
def verifyAttestation (W : AttestWorld κ) : Ran Exit Exit := do
  let o ← .silent (options W.args)
  runOptions W o

end VerityVerifier.Runner
