import VerityVerifier.Connect.Advice
import VerityVerifier.Connect.Request
import VerityVerifier.Runner.Attestation

/-!
# The runner over a live connection

Nothing about the connection comes from the arguments but the URL. What is missing or
malformed is found before anything is dialled and ends the run with 2; so does a request
that fails on a connection that was verified. A refusal ends it with 1.
-/
namespace VerityVerifier.Runner

open VerityVerifier.Core
open VerityVerifier.Connect
open VerityVerifier.Library.ByteString
open VerityVerifier.Library.Console
open VerityVerifier.Library.Reader
open VerityVerifier.Library.Text

variable {κ Uri Request : Type}

/-- What the PCCS client answers: how it is built, and what it fetches within 30 seconds. -/
structure PhalaPccs (κ : Type) where
  client : Except String Unit
  fetch : Bytes → Option (Except String κ)

def PhalaPccs.collateralFor (self : PhalaPccs κ) (rawQuote : Bytes) :
    Except CollateralUnavailable κ :=
  match self.client with
  | .error e => .error ⟨s!"could not build a client: {e}"⟩
  | .ok () =>
    match self.fetch rawQuote with
    | none => .error ⟨"the PCCS did not answer within 30s"⟩
    | some (.error e) => .error ⟨e⟩
    | some (.ok collateral) => .ok collateral

/-- What the run asks of the network and the clock. -/
structure ConnectWorld (κ Uri Request : Type) extends World κ where
  runtime : Except String Unit
  source : PhalaPccs κ
  attempt : DialAttempt
  clock : Option UInt64
  agent : HttpClient Id Uri Request
  buffers : Buffers

structure ConnectArgs where
  endpoint : String
  compose : String
  imageDigest : String
  licensedComposeHash : String
  path : String
  osImage : Option String
  bootReference : Option String

def connectArgs (args : List String) : Except Exit ConnectArgs := do
  let endpoint ← expect (arg args "--endpoint") "--endpoint https://…"
  let compose ← expect (arg args "--compose") "--compose <file>"
  let imageDigest ← expect (arg args "--image-digest") "--image-digest sha256:…"
  let licensedComposeHash ← expect (arg args "--licensed-compose-hash")
    "--licensed-compose-hash <64 hex>"
  return {
    endpoint, compose, imageDigest, licensedComposeHash
    path := (arg args "--path").getD "/"
    osImage := arg args "--os-image"
    bootReference := arg args "--boot-reference" }

/-! ## The request -/

/-- Load a reference, giving the reason where the file is none. -/
def readBootReference (W : World κ) (path : String) : Except String BootReference := do
  let bytes ← (W.read path).mapError fun e => s!"{path}: {e}"
  let raw ← (W.platform.jsonFromSlice bytes).mapError fun e => s!"{path} is not JSON: {e}"
  bootReferenceAt (fun key => s!"{key} is not hex") (fun key => s!"{key} is not exactly 48 bytes")
    raw

def suppliedReference (W : World κ) (path : Option String) :
    Except String (Option BootReference) :=
  match path with
  | none => .ok none
  | some path => (readBootReference W path).map some

/-- What is checked before anything is dialled. -/
def prepare (W : ConnectWorld κ Uri Request) (o : ConnectArgs) : Ran Exit ConnectRequest := do
  let endpoint ← orExit (fun why => s!"--endpoint is not usable: {why}")
    ((Endpoint.parse o.endpoint).mapError toString)
  let composeDocument ← orExit (fun why => s!"could not read --compose: {o.compose}: {why}")
    (W.read o.compose)
  let composeHash ← orExit (fun why => s!"could not read --licensed-compose-hash: {why}")
    ((ComposeHash.parseHex o.licensedComposeHash).mapError toString)
  if (← reportOsImage "connecting" o.osImage) = false then .stop .failure
  let boot ← orExit (fun why => s!"could not read --boot-reference: {why}")
    (suppliedReference W.toWorld o.bootReference)
  orExit (fun why => s!"could not start a runtime for collateral fetching: {why}") W.runtime
  return { endpoint, licensed := ⟨composeHash, o.imageDigest⟩, composeDocument, boot }

def formName : EndpointForm → String
  | .dstackPassthrough => "DstackPassthrough"
  | .dstackTerminating => "DstackTerminating"
  | .unrecognised => "Unrecognised"

def announce (request : ConnectRequest) : Ran Exit Unit := do
  .println s!"endpoint:       {request.endpoint.url}"
  .println s!"endpoint form:  {formName request.endpoint.form}"
  .println s!"licensed hash:  {request.licensed.composeHash}"

/-! ## What is said at the end -/

def reportRefused (refusal : Refusal) : Ran Exit Exit := do
  .println s!"\nrefusal kind:   {refusal.kind.name}"
  .println s!"refusal:        {refusal}"
  match refusal.verdict? with
  | none => pure ()
  | some verdict => reportTranscript verdict
  .println "\nREFUSED"
  return .failure

/-- One character of text that need not be UTF-8, and how many more bytes it takes. What is no
encoding gives the replacement character, for as much of it as could have started one. -/
def lossyChar (b : UInt8) (rest : Bytes) : Char × Nat :=
  let first := b.toNat
  let next (i : Nat) := (rest[i]?.getD 0).toNat
  let continues (i : Nat) := 0x80 ≤ next i ∧ next i ≤ 0xbf
  let low (i : Nat) := next i - 0x80
  if first < 0x80 then (Char.ofNat first, 0)
  else if 0xc2 ≤ first ∧ first ≤ 0xdf then
    if continues 0 then (Char.ofNat ((first - 0xc0) * 64 + low 0), 1) else ('\ufffd', 0)
  else if 0xe0 ≤ first ∧ first ≤ 0xef then
    if (if first = 0xe0 then 0xa0 else 0x80) ≤ next 0 ∧
        next 0 ≤ (if first = 0xed then 0x9f else 0xbf) then
      if continues 1 then (Char.ofNat ((first - 0xe0) * 4096 + low 0 * 64 + low 1), 2)
      else ('\ufffd', 1)
    else ('\ufffd', 0)
  else if 0xf0 ≤ first ∧ first ≤ 0xf4 then
    if (if first = 0xf0 then 0x90 else 0x80) ≤ next 0 ∧
        next 0 ≤ (if first = 0xf4 then 0x8f else 0xbf) then
      if continues 1 then
        if continues 2 then
          (Char.ofNat ((first - 0xf0) * 262144 + low 0 * 4096 + low 1 * 64 + low 2), 3)
        else ('\ufffd', 2)
      else ('\ufffd', 1)
    else ('\ufffd', 0)
  else ('\ufffd', 0)

def lossyChars : Bytes → List Char
  | [] => []
  | b :: rest => (lossyChar b rest).1 :: lossyChars (rest.drop (lossyChar b rest).2)
termination_by bytes => bytes.length
decreasing_by
  rw [List.length_drop, List.length_cons]
  omega

/-- `String::from_utf8_lossy`. -/
def fromUtf8Lossy (bytes : Bytes) : String := String.ofList (lossyChars bytes)

/-- `trim_end`. -/
def trimEnd (s : String) : String := String.ofList (s.toList.rdropWhile isWhitespace)

/-- 16 MiB. -/
def defaultResponseLimit : Nat := 16 * 1024 * 1024

/-- `VerifiedClient::get`. -/
def get (W : ConnectWorld κ Uri Request) (endpoint : Endpoint) (path : String) :
    Except TransportError Response :=
  (request W.agent W.buffers endpoint "GET" path none defaultResponseLimit : Id _)

def reportConnected (W : ConnectWorld κ Uri Request) {P : Platform κ} (client : VerifiedClient P)
    (path : String) : Ran Exit Exit := do
  .println "\nchecks performed:"
  .forEach (fun r => .println (transcriptLine r.1 r.2)) client.verdict.verdict.results
  .println ("\nchannel binding established over SPKI " ++
    s!"({client.channelBinding.spkiDer.length} bytes)")
  match get W client.endpoint path with
  | .ok response => do
    .println s!"GET {path} -> {response.status}"
    .println s!"body: {trimEnd (fromUtf8Lossy response.body)}"
    .println "\nCONNECTED"
    return .success
  | .error why => do
    .eprintln s!"connected, but the request failed: {why}"
    return .code 2

/-- `main` of `connect-verified`. -/
def verifyConnected (W : ConnectWorld κ Uri Request) : Ran Exit Exit := do
  let o ← .silent (connectArgs W.args)
  let request ← prepare W o
  announce request
  match connectVerified W.platform request W.source.collateralFor W.attempt W.clock with
  | .ok session => reportConnected W session.client o.path
  | .error refusal => reportRefused refusal

end VerityVerifier.Runner
