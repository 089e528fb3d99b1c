import VerityVerifier.Core.Attest
import VerityVerifier.Core.Binding
import VerityVerifier.Core.Channel
import VerityVerifier.Core.Images
import VerityVerifier.Core.Reference

/-!
# The whole verification, in one call

`verify` threads one verdict through the eight checks, in the order the source
performs them.
-/
namespace VerityVerifier.Core

open VerityVerifier.Library.ByteString

variable {κ : Type}

/-- What a licence names. -/
structure LicensedVersion where
  composeHash : ComposeHash
  imageDigest : String
  deriving DecidableEq

/-- Everything needed to verify an endpoint. -/
structure Evidence (κ : Type) where
  rawQuote : Bytes
  composeDocument : Bytes
  collateral : κ
  nowSecs : UInt64
  peerCertificate : PeerCertificate

/-- Step 6: does the measured configuration match the licensed one? -/
def mrconfigidOutcome (measured : Measurement) (licensed : ComposeHash) : Outcome :=
  match checkMrconfigid measured licensed with
  | .ok () => .passed
  | .error (.unsupportedVersion version) =>
    .unestablished .verifierCannotJudge (toString (MrConfigIdError.unsupportedVersion version))
  | .error e => .failed (toString e)

/-- Step 8: is this quote about the connection in front of us? -/
def channelBound (P : Platform κ) (peer : PeerCertificate) (quote : Quote) : Outcome :=
  match peer with
  | .presented leafCertDer =>
    match ChannelBinding.check P leafCertDer quote with
    | .ok _ => .passed
    | .error e => .failed (toString e)
  | .notConnected =>
    .skipped ("no connection was made: this verdict is about recorded evidence, " ++
      "not about an endpoint")

/-- Steps 4 and 5: did Intel sign this quote, and is the platform's TCB acceptable? -/
def recordAttestation (verdict : Verdict) (result : Except AttestError Attested) : Verdict :=
  match result with
  | .ok attested =>
    let tcb := ⟨attested.tcbStatus, attested.advisoryIds⟩
    ((verdict.record .quoteSignature .passed).record .tcbStatus .passed).recordAttestedTcb tcb
  | .error (.tcbUnacceptable status advisoryIds) =>
    let tcb := ⟨status, advisoryIds⟩
    let detail := toString (AttestError.tcbUnacceptable status advisoryIds)
    ((verdict.record .quoteSignature .passed).record .tcbStatus
      (.failed detail)).recordAttestedTcb tcb
  | .error (.signatureInvalid detail) =>
    (verdict.record .quoteSignature
      (.failed (toString (AttestError.signatureInvalid detail)))).record .tcbStatus
      (.skipped "signature did not verify")

/-- Steps 1 to 3 of `verify`: the document, and what is examined only when it is the
licensed one. -/
def recordCompose (P : Platform κ) (verdict : Verdict) (licensed : LicensedVersion)
    (composeDocument : Bytes) : Verdict :=
  match VerifiedCompose.check P composeDocument licensed.composeHash with
  | .ok verified =>
    let verdict := verdict.record .composeHash .passed
    let verdict :=
      match pinnedImages P verified.document with
      | .ok _ => verdict.record .imagesPinned .passed
      | .error e => verdict.record .imagesPinned (.failed (toString e))
    match checkReferencesLicensedDigest P verified.document licensed.imageDigest with
    | .ok () => verdict.record .licensedImagePresent .passed
    | .error e => verdict.record .licensedImagePresent (.failed (toString e))
  | .error e =>
    let why := "compose hash did not match, so its contents were not examined"
    ((verdict.record .composeHash (.failed (toString e))).record .imagesPinned
      (.skipped why)).record .licensedImagePresent (.skipped why)

/-- Steps 6 to 8 of `verify`: the checks that read the parsed quote. -/
def recordQuote (P : Platform κ) (verdict : Verdict) (licensed : LicensedVersion)
    (rawQuote : Bytes) (peer : PeerCertificate) (boot : Option BootReference) : Verdict :=
  match Quote.parse P.usizeBits rawQuote with
  | .ok quote =>
    let verdict := verdict.record .mrConfigId
      (mrconfigidOutcome quote.mrconfigid licensed.composeHash)
    let verdict :=
      match boot with
      | some reference =>
        match checkBootMeasurements quote reference with
        | .ok () => verdict.record .bootMeasurements .passed
        | .error e => verdict.record .bootMeasurements (.failed (toString e))
      | none =>
        verdict.record .bootMeasurements
          (.unestablished .referenceUnavailable "no OS image reference supplied")
    verdict.record .channelBound (channelBound P peer quote)
  | .error e =>
    let why := s!"quote could not be parsed: {e}"
    ((verdict.record .mrConfigId (.failed why)).record .bootMeasurements
      (.skipped why)).record .channelBound (.failed why)

def verify (P : Platform κ) (licensed : LicensedVersion) (evidence : Evidence κ)
    (boot : Option BootReference) : Verdict :=
  let verdict := recordCompose P Verdict.new licensed evidence.composeDocument
  let verdict := recordAttestation verdict
    (verifyQuote P evidence.rawQuote evidence.collateral evidence.nowSecs)
  recordQuote P verdict licensed evidence.rawQuote evidence.peerCertificate boot

end VerityVerifier.Core
