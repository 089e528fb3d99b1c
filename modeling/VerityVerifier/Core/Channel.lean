import VerityVerifier.Library.Fallible
import VerityVerifier.Library.Text
import VerityVerifier.Core.Platform
import VerityVerifier.Core.Quote

/-!
# Whether the quote is about the connection in use

A `ChannelBinding` carries the key it was established over and the commitment
computed from it; the only way to one is the comparison, after the refusal of an
all-zero field.
-/
namespace VerityVerifier.Core

open VerityVerifier.Library.ByteString
open VerityVerifier.Library.Fallible
open VerityVerifier.Library.Text

variable {κ : Type}

def ratlsTag : String := "ratls-cert"

/-- What a public key commits to. -/
structure Commitment where
  bytes : Block reportDataLen
  deriving DecidableEq

instance : ToString Commitment := ⟨fun c => hex c.bytes.toList⟩

def commitmentOver (P : Platform κ) (spkiDer : Bytes) : Commitment :=
  ⟨P.sha512 (utf8 ratlsTag ++ utf8 ":" ++ spkiDer)⟩

inductive ChannelBindError where
  | noCommitment
  | unreadableCertificate (reason : String)
  | mismatch (certificateCommitsTo : Commitment) (quoteCarries : ReportData)
  deriving DecidableEq

instance : ToString ChannelBindError where
  toString
    | .noCommitment =>
      "the quote's report_data is all zero: this enclave committed to no certificate"
    | .unreadableCertificate reason => s!"the presented certificate could not be parsed: {reason}"
    | .mismatch certificateCommitsTo quoteCarries =>
      s!"channel binding failed: this certificate commits to {certificateCommitsTo}, " ++
        s!"the quote carries {quoteCarries}"

/-- The public key info of a certificate, decoded and encoded again. -/
def spkiDerOf (P : Platform κ) (certDer : Bytes) : Except ChannelBindError Bytes := do
  let cert ← (P.certificateFromDer certDer).mapError .unreadableCertificate
  cert.subjectPublicKeyInfoToDer.mapError .unreadableCertificate

/-- A connection whose certificate is the one the quote committed to. -/
structure ChannelBinding (P : Platform κ) where
  spkiDer : Bytes
  commitment : Commitment
  commits : commitmentOver P spkiDer = commitment
  nonzero : commitment.bytes.isZero = false
  deriving DecidableEq

def ChannelBinding.check (P : Platform κ) (leafCertDer : Bytes) (quote : Quote) :
    Except ChannelBindError (ChannelBinding P) :=
  if hz : quote.reportData.isZero = true then .error .noCommitment
  else
    match spkiDerOf P leafCertDer with
    | .error e => .error e
    | .ok spkiDer =>
      if hc : (commitmentOver P spkiDer).bytes = quote.reportData.bytes then
        .ok ⟨spkiDer, commitmentOver P spkiDer, rfl, by
          rw [hc]
          exact Bool.eq_false_iff.mpr hz⟩
      else .error (.mismatch (commitmentOver P spkiDer) quote.reportData)

/-- What the caller can say about the connection being verified. -/
inductive PeerCertificate where
  | presented (leafCertDer : Bytes)
  | notConnected
  deriving DecidableEq

/-! ## What a binding establishes -/

theorem spkiDerOf_ok_iff {P : Platform κ} {certDer spkiDer : Bytes} :
    spkiDerOf P certDer = .ok spkiDer ↔
      ∃ cert, P.certificateFromDer certDer = .ok cert ∧
        cert.subjectPublicKeyInfoToDer = .ok spkiDer := by
  simp only [spkiDerOf, bind_ok_iff, mapError_ok_iff]

/-- A binding is over the presented key and equals the quote's field. -/
theorem channelBinding_check_ok {P : Platform κ} {leafCertDer : Bytes} {quote : Quote}
    {b : ChannelBinding P} (h : ChannelBinding.check P leafCertDer quote = .ok b) :
    spkiDerOf P leafCertDer = .ok b.spkiDer ∧ b.commitment.bytes = quote.reportData.bytes := by
  unfold ChannelBinding.check at h
  split at h
  · cases h
  · split at h
    · cases h
    · rename_i spkiDer hs
      split at h
      · rename_i hc
        obtain rfl := Except.ok.inj h
        exact ⟨hs, hc⟩
      · cases h

/-- The comparison succeeds exactly on a nonzero field that the presented key commits to. -/
theorem channelBinding_check_ok_iff {P : Platform κ} {leafCertDer : Bytes} {quote : Quote} :
    (∃ b, ChannelBinding.check P leafCertDer quote = .ok b) ↔
      quote.reportData.isZero = false ∧
      ∃ spkiDer, spkiDerOf P leafCertDer = .ok spkiDer ∧
        quote.reportData.bytes = (commitmentOver P spkiDer).bytes := by
  constructor
  · intro he
    obtain ⟨b, h⟩ := he
    obtain ⟨hs, hb⟩ := channelBinding_check_ok h
    have hn := b.nonzero
    rw [hb] at hn
    refine ⟨hn, b.spkiDer, hs, ?_⟩
    rw [b.commits, hb]
  · intro h
    obtain ⟨hz, spkiDer, hs, hc⟩ := h
    unfold ChannelBinding.check
    simp only [hz, Bool.false_eq_true, dite_false, hs, hc, dite_true]
    exact ⟨_, rfl⟩

end VerityVerifier.Core
