import VerityVerifier.Core.Platform
import VerityVerifier.Core.Verdict

/-!
# Did Intel sign the quote

The signature chain is judged by the DCAP verifier of the platform; the TCB rule
is enforced here, before an `Attested` can exist.
-/
namespace VerityVerifier.Core

open VerityVerifier.Library.ByteString

variable {κ : Type}

/-- What a quote's signature chain established, on a platform that is up to date. -/
structure Attested where
  tcbStatus : String
  advisoryIds : List String
  acceptable : isTcbAcceptable tcbStatus = true

inductive AttestError where
  | signatureInvalid (detail : String)
  | tcbUnacceptable (status : String) (advisoryIds : List String)
  deriving DecidableEq

def advisories (ids : List String) : String :=
  if ids.isEmpty then "" else " (advisories: " ++ String.intercalate ", " ids ++ ")"

instance : ToString AttestError where
  toString
    | .signatureInvalid detail => s!"quote signature verification failed: {detail}"
    | .tcbUnacceptable status advisoryIds =>
      s!"platform TCB status is `{status}`{advisories advisoryIds}"

def verifyQuote (P : Platform κ) (rawQuote : Bytes) (collateral : κ) (nowSecs : UInt64) :
    Except AttestError Attested :=
  match P.qvlVerify rawQuote collateral nowSecs with
  | .error detail => .error (.signatureInvalid detail)
  | .ok report =>
    if h : isTcbAcceptable report.status = true then .ok ⟨report.status, report.advisoryIds, h⟩
    else .error (.tcbUnacceptable report.status report.advisoryIds)

/-- A refused status is one the TCB rule refuses. -/
theorem verifyQuote_tcbUnacceptable {P : Platform κ} {rawQuote : Bytes} {collateral : κ}
    {nowSecs : UInt64} {status : String} {ids : List String}
    (h : verifyQuote P rawQuote collateral nowSecs = .error (.tcbUnacceptable status ids)) :
    isTcbAcceptable status = false := by
  unfold verifyQuote at h
  split at h
  · cases h
  · split at h
    · cases h
    · rename_i hs
      cases h
      simpa using hs

theorem verifyQuote_ok_iff {P : Platform κ} {rawQuote : Bytes} {collateral : κ}
    {nowSecs : UInt64} :
    (∃ a, verifyQuote P rawQuote collateral nowSecs = .ok a) ↔
      ∃ report, P.qvlVerify rawQuote collateral nowSecs = .ok report ∧
        isTcbAcceptable report.status = true := by
  unfold verifyQuote
  cases P.qvlVerify rawQuote collateral nowSecs with
  | error detail => simp
  | ok report =>
    by_cases hs : isTcbAcceptable report.status = true
    · simp [hs]
    · simp [hs]

end VerityVerifier.Core
