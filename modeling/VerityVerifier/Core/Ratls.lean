import VerityVerifier.Library.Der
import VerityVerifier.Core.Platform

/-!
# Lifting the raw quote out of an RA-TLS certificate

The extension value is itself an encoded octet string. It is unwrapped by the
strict codec; nothing is scanned for.
-/
namespace VerityVerifier.Core

open VerityVerifier.Library
open VerityVerifier.Library.ByteString

variable {κ : Type}

def dstackQuoteOid : ObjectIdentifier := "1.3.6.1.4.1.62397.1.1"

inductive AttestationError where
  | unreadableCertificate (reason : String)
  | missing
  | unreadableEnvelope (reason : String)
  deriving DecidableEq

instance : ToString AttestationError where
  toString
    | .unreadableCertificate reason => s!"the presented certificate could not be parsed: {reason}"
    | .missing =>
      "this certificate carries no dStack attestation extension: it is not an enclave's"
    | .unreadableEnvelope reason =>
      s!"the attestation extension is not a nested DER OCTET STRING: {reason}"

def quoteFromCertificate (P : Platform κ) (certDer : Bytes) : Except AttestationError Bytes :=
  match P.certificateFromDer certDer with
  | .error reason => .error (.unreadableCertificate reason)
  | .ok cert =>
    match (cert.extensions.getD []).find? fun e => e.extnId == dstackQuoteOid with
    | none => .error .missing
    | some extension =>
      match Der.octetStringFromDer P.derMaxLength extension.extnValue with
      | some inner => .ok inner
      | none => .error (.unreadableEnvelope (P.derError extension.extnValue))

/-- Encode a raw quote the way it is written into the extension. What the codec says of one
it cannot encode is a parameter. -/
def extensionValueForQuote (P : Platform κ) (encodeError : Bytes → String) (rawQuote : Bytes) :
    Except AttestationError Bytes :=
  match Der.octetStringToDer P.derMaxLength rawQuote with
  | some value => .ok value
  | none => .error (.unreadableEnvelope (encodeError rawQuote))

end VerityVerifier.Core
