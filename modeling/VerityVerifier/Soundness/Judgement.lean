import VerityVerifier.Core.Verify

/-!
# One judgement for each check

`verify` threads a verdict through three functions and a dozen exits. What it
builds is simpler: the list of all checks, each with a judgement that reads its
own part of the input. Every property of a verdict is derived from that equation.
-/
namespace VerityVerifier.Soundness

open VerityVerifier.Core
open VerityVerifier.Library
open VerityVerifier.Library.ByteString

variable {κ : Type}

/-- A fallible check as an outcome. -/
def outcomeOf {ε α : Type} [ToString ε] : Except ε α → Outcome
  | .ok _ => .passed
  | .error e => .failed (toString e)

/-- Judge the contents of a document only when it is the licensed one. -/
def examined (P : Platform κ) (licensed : ComposeHash) (document : Bytes) (o : Outcome) :
    Outcome :=
  if ComposeHash.of P document = licensed then o
  else .skipped "compose hash did not match, so its contents were not examined"

/-- Judge a quote when it parses, and say why not otherwise. -/
def parsed (P : Platform κ) (rawQuote : Bytes) (unparsed : String → Outcome)
    (judge : Quote → Outcome) : Outcome :=
  match Quote.parse P.usizeBits rawQuote with
  | .ok quote => judge quote
  | .error e => unparsed s!"quote could not be parsed: {e}"

def signatureJudgement : Except AttestError Attested → Outcome
  | .error (.signatureInvalid detail) =>
    .failed (toString (AttestError.signatureInvalid detail))
  | _ => .passed

def tcbJudgement : Except AttestError Attested → Outcome
  | .ok _ => .passed
  | .error (.tcbUnacceptable status ids) =>
    .failed (toString (AttestError.tcbUnacceptable status ids))
  | .error (.signatureInvalid _) => .skipped "signature did not verify"

def attestedTcbOf : Except AttestError Attested → Option AttestedTcb
  | .ok attested => some ⟨attested.tcbStatus, attested.advisoryIds⟩
  | .error (.tcbUnacceptable status ids) => some ⟨status, ids⟩
  | .error (.signatureInvalid _) => none

def bootJudgement (boot : Option BootReference) (quote : Quote) : Outcome :=
  match boot with
  | some reference => outcomeOf (checkBootMeasurements quote reference)
  | none => .unestablished .referenceUnavailable "no OS image reference supplied"

/-- What `verify` records for one check. -/
def judgement (P : Platform κ) (licensed : LicensedVersion) (evidence : Evidence κ)
    (boot : Option BootReference) : Check → Outcome
  | .composeHash =>
    outcomeOf (VerifiedCompose.check P evidence.composeDocument licensed.composeHash)
  | .imagesPinned =>
    examined P licensed.composeHash evidence.composeDocument
      (outcomeOf (pinnedImages P evidence.composeDocument))
  | .licensedImagePresent =>
    examined P licensed.composeHash evidence.composeDocument
      (outcomeOf (checkReferencesLicensedDigest P evidence.composeDocument licensed.imageDigest))
  | .quoteSignature =>
    signatureJudgement (verifyQuote P evidence.rawQuote evidence.collateral evidence.nowSecs)
  | .tcbStatus =>
    tcbJudgement (verifyQuote P evidence.rawQuote evidence.collateral evidence.nowSecs)
  | .mrConfigId =>
    parsed P evidence.rawQuote .failed fun quote =>
      mrconfigidOutcome quote.mrconfigid licensed.composeHash
  | .bootMeasurements => parsed P evidence.rawQuote .skipped (bootJudgement boot)
  | .channelBound =>
    parsed P evidence.rawQuote .failed (channelBound P evidence.peerCertificate)

theorem recordCompose_eq (P : Platform κ) (v : Verdict) (licensed : LicensedVersion)
    (document : Bytes) :
    recordCompose P v licensed document = { v with results := v.results ++ [
      (.composeHash, outcomeOf (VerifiedCompose.check P document licensed.composeHash)),
      (.imagesPinned, examined P licensed.composeHash document
        (outcomeOf (pinnedImages P document))),
      (.licensedImagePresent, examined P licensed.composeHash document
        (outcomeOf (checkReferencesLicensedDigest P document licensed.imageDigest)))] } := by
  by_cases hd : ComposeHash.of P document = licensed.composeHash
  · obtain ⟨w, hw, hdoc⟩ := verifiedCompose_check_of_eq P hd
    simp only [recordCompose, hw, hdoc, examined, hd, if_true]
    cases pinnedImages P document <;>
      cases checkReferencesLicensedDigest P document licensed.imageDigest <;>
      simp [Verdict.record, outcomeOf]
  · simp [recordCompose, verifiedCompose_check_of_ne P hd, examined, hd, Verdict.record, outcomeOf]

theorem recordAttestation_eq (v : Verdict) (r : Except AttestError Attested) :
    recordAttestation v r = { v with
      results := v.results ++
        [(.quoteSignature, signatureJudgement r), (.tcbStatus, tcbJudgement r)]
      tcb := (attestedTcbOf r).or v.tcb } := by
  rcases r with e | a
  · cases e <;> simp [recordAttestation, Verdict.record, Verdict.recordAttestedTcb,
      signatureJudgement, tcbJudgement, attestedTcbOf]
  · simp [recordAttestation, Verdict.record, Verdict.recordAttestedTcb, signatureJudgement,
      tcbJudgement, attestedTcbOf]

theorem recordQuote_eq (P : Platform κ) (v : Verdict) (licensed : LicensedVersion)
    (rawQuote : Bytes) (peer : PeerCertificate) (boot : Option BootReference) :
    recordQuote P v licensed rawQuote peer boot = { v with results := v.results ++ [
      (.mrConfigId, parsed P rawQuote .failed fun quote =>
        mrconfigidOutcome quote.mrconfigid licensed.composeHash),
      (.bootMeasurements, parsed P rawQuote .skipped (bootJudgement boot)),
      (.channelBound, parsed P rawQuote .failed (channelBound P peer))] } := by
  unfold recordQuote parsed
  cases Quote.parse P.usizeBits rawQuote with
  | error e => simp [Verdict.record]
  | ok quote =>
    cases boot with
    | none => simp [Verdict.record, bootJudgement]
    | some reference =>
      cases hb : checkBootMeasurements quote reference <;>
        simp [Verdict.record, bootJudgement, outcomeOf, hb]

/-- The verdict is the graph of the judgements, in the order of `Check::ALL`. -/
theorem verify_eq (P : Platform κ) (licensed : LicensedVersion) (evidence : Evidence κ)
    (boot : Option BootReference) :
    verify P licensed evidence boot =
      { verifierVersion := verifierVersion
        referenceDataDate := referenceDataDate
        results := Check.all.map fun c => (c, judgement P licensed evidence boot c)
        tcb := attestedTcbOf
          (verifyQuote P evidence.rawQuote evidence.collateral evidence.nowSecs) } := by
  simp [verify, recordCompose_eq, recordAttestation_eq, recordQuote_eq, Verdict.new, Check.all,
    judgement]

theorem verify_results (P : Platform κ) (licensed : LicensedVersion) (evidence : Evidence κ)
    (boot : Option BootReference) :
    (verify P licensed evidence boot).results =
      Check.all.map fun c => (c, judgement P licensed evidence boot c) := by
  rw [verify_eq]

/-- What a caller reads back for a check is its judgement. -/
theorem verify_outcome (P : Platform κ) (licensed : LicensedVersion) (evidence : Evidence κ)
    (boot : Option BootReference) (c : Check) :
    (verify P licensed evidence boot).outcome c = some (judgement P licensed evidence boot c) := by
  unfold Verdict.outcome
  rw [verify_results]
  exact Ledger.scan_graph _ Check.all_nodup _ (Check.mem_all c)

theorem verify_attestedTcb (P : Platform κ) (licensed : LicensedVersion) (evidence : Evidence κ)
    (boot : Option BootReference) :
    (verify P licensed evidence boot).attestedTcb =
      attestedTcbOf (verifyQuote P evidence.rawQuote evidence.collateral evidence.nowSecs) := by
  rw [verify_eq, Verdict.attestedTcb]

/-- A verdict of `verify` is trustworthy exactly when every essential judgement passes. -/
theorem verify_isTrustworthy (P : Platform κ) (licensed : LicensedVersion) (evidence : Evidence κ)
    (boot : Option BootReference) :
    (verify P licensed evidence boot).isTrustworthy = true ↔
      ∀ c ∈ Check.essential, judgement P licensed evidence boot c = .passed := by
  simp only [Verdict.isTrustworthy_iff, verify_outcome, Option.some.injEq]

/-! ## When one judgement passes -/

@[simp] theorem outcomeOf_passed_iff {ε α : Type} [ToString ε] {x : Except ε α} :
    outcomeOf x = .passed ↔ ∃ a, x = .ok a := by
  cases x <;> simp [outcomeOf]

theorem examined_passed_iff {P : Platform κ} {licensed : ComposeHash} {document : Bytes}
    {o : Outcome} :
    examined P licensed document o = .passed ↔
      ComposeHash.of P document = licensed ∧ o = .passed := by
  unfold examined
  split <;> simp_all

theorem tcbJudgement_passed_iff {r : Except AttestError Attested} :
    tcbJudgement r = .passed ↔ ∃ a, r = .ok a := by
  rcases r with e | a
  · cases e <;> simp [tcbJudgement]
  · simp [tcbJudgement]

theorem mrconfigidOutcome_passed_iff {measured : Measurement} {licensed : ComposeHash} :
    mrconfigidOutcome measured licensed = .passed ↔ measured = expectedMrconfigidV1 licensed := by
  rw [← checkMrconfigid_ok_iff]
  unfold mrconfigidOutcome
  cases h : checkMrconfigid measured licensed with
  | ok u => simp
  | error e => cases e <;> simp [Outcome.unestablished]

theorem channelBound_passed_iff {P : Platform κ} {peer : PeerCertificate} {quote : Quote} :
    channelBound P peer quote = .passed ↔
      ∃ der b, peer = .presented der ∧ ChannelBinding.check P der quote = .ok b := by
  cases peer with
  | notConnected => simp [channelBound]
  | presented der =>
    unfold channelBound
    cases h : ChannelBinding.check P der quote <;> simp [h]

theorem parsed_passed_iff {P : Platform κ} {rawQuote : Bytes} {unparsed : String → Outcome}
    {judge : Quote → Outcome} (hu : ∀ why, unparsed why ≠ .passed) :
    parsed P rawQuote unparsed judge = .passed ↔
      ∃ quote, Quote.parse P.usizeBits rawQuote = .ok quote ∧ judge quote = .passed := by
  unfold parsed
  cases Quote.parse P.usizeBits rawQuote with
  | error e => simp [hu]
  | ok quote => simp

end VerityVerifier.Soundness
