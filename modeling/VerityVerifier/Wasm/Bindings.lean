import VerityVerifier.Soundness.Transcript

/-!
# The bindings' own copy of the decisions

The bindings hold no collateral, so they assemble a verdict by hand: the same checks
of the document and of the quote, and a skip for each check that needs collateral.
A licensed hash that does not parse ends the function after one record.
-/
namespace VerityVerifier.Wasm

open VerityVerifier.Core
open VerityVerifier.Library
open VerityVerifier.Library.ByteString
open VerityVerifier.Soundness

variable {κ : Type}

/-- The checks of the document, with its contents examined only under the licensed hash. -/
def recordDocument (P : Platform κ) (verdict : Verdict) (document : Bytes) (licensed : ComposeHash)
    (licensedImageDigest : String) : Verdict :=
  match VerifiedCompose.check P document licensed with
  | .ok _ =>
    let verdict := verdict.record .composeHash .passed
    let verdict :=
      match pinnedImages P document with
      | .ok _ => verdict.record .imagesPinned .passed
      | .error e => verdict.record .imagesPinned (.failed (toString e))
    match checkReferencesLicensedDigest P document licensedImageDigest with
    | .ok () => verdict.record .licensedImagePresent .passed
    | .error e => verdict.record .licensedImagePresent (.failed (toString e))
  | .error e =>
    let why := "compose hash did not match, so its contents were not examined"
    ((verdict.record .composeHash (.failed (toString e))).record .imagesPinned
      (.skipped why)).record .licensedImagePresent (.skipped why)

/-- The checks of the parsed quote. -/
def recordParsed (P : Platform κ) (verdict : Verdict) (licensed : ComposeHash) (rawQuote : Bytes)
    (leafCertDer : Option Bytes) : Verdict :=
  match Quote.parse P.usizeBits rawQuote with
  | .ok quote =>
    let verdict :=
      match checkMrconfigid quote.mrconfigid licensed with
      | .ok () => verdict.record .mrConfigId .passed
      | .error (.unsupportedVersion version) =>
        verdict.record .mrConfigId (.unestablished .verifierCannotJudge
          (toString (MrConfigIdError.unsupportedVersion version)))
      | .error e => verdict.record .mrConfigId (.failed (toString e))
    match leafCertDer with
    | some der =>
      match ChannelBinding.check P der quote with
      | .ok _ => verdict.record .channelBound .passed
      | .error e => verdict.record .channelBound (.failed (toString e))
    | none =>
      verdict.record .channelBound
        (.skipped "no certificate supplied; channel binding was not attempted")
  | .error e =>
    (verdict.record .mrConfigId (.failed (toString e))).record .channelBound (.failed (toString e))

def needsCollateral : String := "needs Intel collateral; use the Rust API"

def composeOnlyVerdict (P : Platform κ) (document : Bytes)
    (licensedComposeHashHex licensedImageDigest : String) (rawQuote : Bytes)
    (leafCertDer : Option Bytes) : Verdict :=
  let verdict := Verdict.new
  match ComposeHash.parseHex licensedComposeHashHex with
  | .error e => verdict.record .composeHash (.failed (toString e))
  | .ok licensed =>
    let verdict := recordDocument P verdict document licensed licensedImageDigest
    let verdict := recordParsed P verdict licensed rawQuote leafCertDer
    (verdict.record .quoteSignature
      (.skipped s!"signature verification {needsCollateral}")).record .tcbStatus
      (.skipped s!"TCB status {needsCollateral}")

/-! ## The transcript of the bindings -/

def quoteJudgement (P : Platform κ) (rawQuote : Bytes) (judge : Quote → Outcome) : Outcome :=
  match Quote.parse P.usizeBits rawQuote with
  | .ok quote => judge quote
  | .error e => .failed (toString e)

def leafJudgement (P : Platform κ) (leafCertDer : Option Bytes) (quote : Quote) : Outcome :=
  match leafCertDer with
  | some der => outcomeOf (ChannelBinding.check P der quote)
  | none => .skipped "no certificate supplied; channel binding was not attempted"

/-- What the bindings record, once the licensed hash has parsed. -/
def transcript (P : Platform κ) (document : Bytes) (licensed : ComposeHash)
    (licensedImageDigest : String) (rawQuote : Bytes) (leafCertDer : Option Bytes) :
    List (Check × Outcome) := [
  (.composeHash, outcomeOf (VerifiedCompose.check P document licensed)),
  (.imagesPinned, examined P licensed document (outcomeOf (pinnedImages P document))),
  (.licensedImagePresent, examined P licensed document
    (outcomeOf (checkReferencesLicensedDigest P document licensedImageDigest))),
  (.mrConfigId, quoteJudgement P rawQuote fun quote =>
    mrconfigidOutcome quote.mrconfigid licensed),
  (.channelBound, quoteJudgement P rawQuote (leafJudgement P leafCertDer)),
  (.quoteSignature, .skipped s!"signature verification {needsCollateral}"),
  (.tcbStatus, .skipped s!"TCB status {needsCollateral}")]

theorem recordDocument_eq (P : Platform κ) (v : Verdict) (document : Bytes)
    (licensed : ComposeHash) (digest : String) :
    recordDocument P v document licensed digest = { v with results := v.results ++ [
      (.composeHash, outcomeOf (VerifiedCompose.check P document licensed)),
      (.imagesPinned, examined P licensed document (outcomeOf (pinnedImages P document))),
      (.licensedImagePresent, examined P licensed document
        (outcomeOf (checkReferencesLicensedDigest P document digest)))] } := by
  by_cases hd : ComposeHash.of P document = licensed
  · obtain ⟨w, hw, -⟩ := verifiedCompose_check_of_eq P hd
    simp only [recordDocument, hw, examined, hd, if_true]
    cases pinnedImages P document <;> cases checkReferencesLicensedDigest P document digest <;>
      simp [Verdict.record, outcomeOf]
  · simp [recordDocument, verifiedCompose_check_of_ne P hd, examined, hd, Verdict.record, outcomeOf]

theorem recordParsed_eq (P : Platform κ) (v : Verdict) (licensed : ComposeHash)
    (rawQuote : Bytes) (leaf : Option Bytes) :
    recordParsed P v licensed rawQuote leaf = { v with results := v.results ++ [
      (.mrConfigId, quoteJudgement P rawQuote fun quote =>
        mrconfigidOutcome quote.mrconfigid licensed),
      (.channelBound, quoteJudgement P rawQuote (leafJudgement P leaf))] } := by
  unfold recordParsed quoteJudgement
  cases Quote.parse P.usizeBits rawQuote with
  | error e => simp [Verdict.record]
  | ok quote =>
    have hm : ∀ w : Verdict, (match checkMrconfigid quote.mrconfigid licensed with
        | .ok () => w.record .mrConfigId .passed
        | .error (.unsupportedVersion version) =>
          w.record .mrConfigId (.unestablished .verifierCannotJudge
            (toString (MrConfigIdError.unsupportedVersion version)))
        | .error e => w.record .mrConfigId (.failed (toString e))) =
        w.record .mrConfigId (mrconfigidOutcome quote.mrconfigid licensed) := by
      intro w
      unfold mrconfigidOutcome
      cases checkMrconfigid quote.mrconfigid licensed with
      | ok u => rfl
      | error e => cases e <;> rfl
    simp only [hm]
    cases leaf with
    | none => simp [Verdict.record, leafJudgement]
    | some der =>
      cases hb : ChannelBinding.check P der quote <;>
        simp [Verdict.record, leafJudgement, outcomeOf, hb]

section
variable {P : Platform κ} {document : Bytes} {hex digest : String} {rawQuote : Bytes}
  {leaf : Option Bytes} {licensed : ComposeHash}

theorem composeOnlyVerdict_eq (h : ComposeHash.parseHex hex = .ok licensed) :
    composeOnlyVerdict P document hex digest rawQuote leaf =
      { verifierVersion := verifierVersion
        referenceDataDate := referenceDataDate
        results := transcript P document licensed digest rawQuote leaf
        tcb := none } := by
  unfold composeOnlyVerdict
  rw [h]
  simp [recordDocument_eq, recordParsed_eq, Verdict.new, Verdict.record, transcript]

/-- Once the hash has parsed, every record of the transcript reads back. -/
theorem composeOnlyVerdict_outcome (h : ComposeHash.parseHex hex = .ok licensed) {c : Check}
    {o : Outcome} (hm : (c, o) ∈ transcript P document licensed digest rawQuote leaf) :
    (composeOnlyVerdict P document hex digest rawQuote leaf).outcome c = some o := by
  rw [composeOnlyVerdict_eq h]
  apply Ledger.scan_of_mem
  · show [Check.composeHash, .imagesPinned, .licensedImagePresent, .mrConfigId, .channelBound,
      .quoteSignature, .tcbStatus].Nodup
    decide
  · exact hm

/-- A hash that does not parse leaves the one record. -/
theorem composeOnlyVerdict_unparsed {e : HashParseError}
    (h : ComposeHash.parseHex hex = .error e) :
    (composeOnlyVerdict P document hex digest rawQuote leaf).results =
      [(.composeHash, .failed (toString e))] := by
  unfold composeOnlyVerdict
  rw [h]
  rfl

/-- Every other check then reads as never run. -/
theorem composeOnlyVerdict_unparsed_outcome {e : HashParseError}
    (h : ComposeHash.parseHex hex = .error e) {c : Check} (hc : c ≠ .composeHash) :
    (composeOnlyVerdict P document hex digest rawQuote leaf).outcome c = none := by
  rw [Verdict.outcome, composeOnlyVerdict_unparsed h]
  apply Ledger.scan_absent
  simpa using hc

/-- The signature is never judged, so it is never passed. -/
theorem composeOnlyVerdict_quoteSignature :
    (composeOnlyVerdict P document hex digest rawQuote leaf).outcome .quoteSignature ≠
      some .passed := by
  cases h : ComposeHash.parseHex hex with
  | error e =>
    rw [composeOnlyVerdict_unparsed_outcome h (by decide)]
    exact nofun
  | ok licensed =>
    have hm : (.quoteSignature, .skipped s!"signature verification {needsCollateral}") ∈
        transcript P document licensed digest rawQuote leaf := by
      simp [transcript]
    rw [composeOnlyVerdict_outcome h hm]
    simp

end

end VerityVerifier.Wasm
