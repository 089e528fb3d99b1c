import VerityVerifier.Soundness.Judgement

/-!
# The transcript and the cause of each outcome

Only the variant of an outcome carries meaning across implementations; its text is
for a reader. Each variant of each check is traced here to the one fact of the
input that produces it.
-/
namespace VerityVerifier.Soundness

open VerityVerifier.Core
open VerityVerifier.Library.ByteString

variable {κ : Type}

/-- An outcome without its text. -/
inductive Kind where
  | passed
  | failed
  | skipped
  | indeterminate (cause : Unestablished)
  deriving DecidableEq

def kind : Outcome → Kind
  | .passed => .passed
  | .failed _ => .failed
  | .skipped _ => .skipped
  | .indeterminate cause _ => .indeterminate cause

/-- The verdict recorded this variant for the check. -/
def Recorded (v : Verdict) (c : Check) (k : Kind) : Prop := (v.outcome c).map kind = some k

theorem recorded_verify_iff {P : Platform κ} {licensed : LicensedVersion} {evidence : Evidence κ}
    {boot : Option BootReference} {c : Check} {k : Kind} :
    Recorded (verify P licensed evidence boot) c k ↔
      kind (judgement P licensed evidence boot c) = k := by
  unfold Recorded
  rw [verify_outcome, Option.map_some, Option.some.injEq]

/-! ## The variants of the parts -/

theorem kind_passed_iff {o : Outcome} : kind o = .passed ↔ o = .passed := by
  cases o <;> simp [kind]

/-- A fallible check is never skipped and never indeterminate. -/
theorem kind_outcomeOf {ε α : Type} [ToString ε] (x : Except ε α) :
    kind (outcomeOf x) = .passed ∨ kind (outcomeOf x) = .failed := by
  cases x with
  | ok a => exact .inl rfl
  | error e => exact .inr rfl

theorem kind_outcomeOf_failed_iff {ε α : Type} [ToString ε] {x : Except ε α} :
    kind (outcomeOf x) = .failed ↔ ∃ e, x = .error e := by
  cases x <;> simp [kind, outcomeOf]

theorem kind_examined_skipped_iff {ε α : Type} [ToString ε] {P : Platform κ}
    {licensed : ComposeHash} {document : Bytes} (x : Except ε α) :
    kind (examined P licensed document (outcomeOf x)) = .skipped ↔
      ComposeHash.of P document ≠ licensed := by
  unfold examined
  by_cases hd : ComposeHash.of P document = licensed
  · rw [if_pos hd]
    rcases kind_outcomeOf x with h | h <;> simp [h, hd]
  · rw [if_neg hd]
    simp [kind, hd]

/-- A document whose contents are examined at all is never indeterminate. -/
theorem kind_examined_ne_indeterminate {ε α : Type} [ToString ε] {P : Platform κ}
    {licensed : ComposeHash} {document : Bytes} (x : Except ε α) (cause : Unestablished) :
    kind (examined P licensed document (outcomeOf x)) ≠ .indeterminate cause := by
  unfold examined
  by_cases hd : ComposeHash.of P document = licensed
  · rw [if_pos hd]
    rcases kind_outcomeOf x with h | h <;> simp [h]
  · rw [if_neg hd]
    simp [kind]

theorem kind_signature (r : Except AttestError Attested) :
    kind (signatureJudgement r) = .passed ∨ kind (signatureJudgement r) = .failed := by
  rcases r with e | a
  · cases e with
    | signatureInvalid detail => exact .inr rfl
    | tcbUnacceptable status ids => exact .inl rfl
  · exact .inl rfl

theorem kind_tcb_skipped_iff {r : Except AttestError Attested} :
    kind (tcbJudgement r) = .skipped ↔ kind (signatureJudgement r) = .failed := by
  rcases r with e | a
  · cases e <;> simp [kind, tcbJudgement, signatureJudgement]
  · simp [kind, tcbJudgement, signatureJudgement]

theorem kind_tcb_ne_indeterminate (r : Except AttestError Attested) (cause : Unestablished) :
    kind (tcbJudgement r) ≠ .indeterminate cause := by
  rcases r with e | a
  · cases e <;> simp [kind, tcbJudgement]
  · simp [kind, tcbJudgement]

/-- The platform status is reported exactly beside a signature that verified. -/
theorem attestedTcbOf_isSome_iff {r : Except AttestError Attested} :
    (∃ tcb, attestedTcbOf r = some tcb) ↔ kind (signatureJudgement r) = .passed := by
  rcases r with e | a
  · cases e <;> simp [kind, attestedTcbOf, signatureJudgement]
  · simp [kind, attestedTcbOf, signatureJudgement]

/-- The TCB judgement agrees with the rule applied to the status reported. -/
theorem kind_tcb_passed_iff {P : Platform κ} {rawQuote : Bytes} {collateral : κ}
    {nowSecs : UInt64} {tcb : AttestedTcb}
    (h : attestedTcbOf (verifyQuote P rawQuote collateral nowSecs) = some tcb) :
    kind (tcbJudgement (verifyQuote P rawQuote collateral nowSecs)) = .passed ↔
      tcb.isUpToDate = true := by
  cases hr : verifyQuote P rawQuote collateral nowSecs with
  | ok a =>
    rw [hr] at h
    obtain rfl := Option.some.inj h
    have ha : isTcbAcceptable a.tcbStatus = true := a.acceptable
    simpa [kind, tcbJudgement, AttestedTcb.isUpToDate] using ha
  | error e =>
    rw [hr] at h
    cases e with
    | signatureInvalid detail => cases h
    | tcbUnacceptable status ids =>
      obtain rfl := Option.some.inj h
      have hs := verifyQuote_tcbUnacceptable hr
      simpa [kind, tcbJudgement, AttestedTcb.isUpToDate] using hs

theorem kind_mrconfigid_indeterminate_iff {measured : Measurement} {licensed : ComposeHash}
    {cause : Unestablished} :
    kind (mrconfigidOutcome measured licensed) = .indeterminate cause ↔
      cause = .verifierCannotJudge ∧ measured.bytes.toList.head? = some 0x02 := by
  have hu : (∃ v, checkMrconfigid measured licensed = .error (.unsupportedVersion v)) ↔
      measured.bytes.toList.head? = some 0x02 := checkMrconfigid_unsupported_iff
  rw [← hu]
  unfold mrconfigidOutcome
  cases checkMrconfigid measured licensed with
  | ok u => simp [kind]
  | error e => cases e <;> simp [kind, Outcome.unestablished, eq_comm]

theorem kind_mrconfigid_ne_skipped (measured : Measurement) (licensed : ComposeHash) :
    kind (mrconfigidOutcome measured licensed) ≠ .skipped := by
  unfold mrconfigidOutcome
  cases checkMrconfigid measured licensed with
  | ok u => simp [kind]
  | error e => cases e <;> simp [kind, Outcome.unestablished]

theorem kind_boot_indeterminate_iff {boot : Option BootReference} {quote : Quote}
    {cause : Unestablished} :
    kind (bootJudgement boot quote) = .indeterminate cause ↔
      cause = .referenceUnavailable ∧ boot = none := by
  cases boot with
  | none => simp [bootJudgement, kind, Outcome.unestablished, eq_comm]
  | some reference =>
    have h := kind_outcomeOf (checkBootMeasurements quote reference)
    rcases h with h | h <;> simp [bootJudgement, h]

theorem kind_boot_ne_skipped (boot : Option BootReference) (quote : Quote) :
    kind (bootJudgement boot quote) ≠ .skipped := by
  cases boot with
  | none => simp [bootJudgement, kind, Outcome.unestablished]
  | some reference =>
    have h := kind_outcomeOf (checkBootMeasurements quote reference)
    rcases h with h | h <;> simp [bootJudgement, h]

theorem kind_channelBound_skipped_iff {P : Platform κ} {peer : PeerCertificate} {quote : Quote} :
    kind (channelBound P peer quote) = .skipped ↔ peer = .notConnected := by
  cases peer with
  | notConnected => simp [channelBound, kind]
  | presented der =>
    unfold channelBound
    cases h : ChannelBinding.check P der quote <;> simp [h, kind]

theorem kind_channelBound_ne_indeterminate (P : Platform κ) (peer : PeerCertificate)
    (quote : Quote) (cause : Unestablished) :
    kind (channelBound P peer quote) ≠ .indeterminate cause := by
  cases peer with
  | notConnected => simp [channelBound, kind]
  | presented der =>
    unfold channelBound
    cases h : ChannelBinding.check P der quote <;> simp [h, kind]

/-- A variant the unparseable quote does not produce comes from a parsed one. -/
theorem kind_parsed_iff {P : Platform κ} {rawQuote : Bytes} {unparsed : String → Outcome}
    {judge : Quote → Outcome} {k : Kind} (hu : ∀ why, kind (unparsed why) ≠ k) :
    kind (parsed P rawQuote unparsed judge) = k ↔
      ∃ quote, Quote.parse P.usizeBits rawQuote = .ok quote ∧ kind (judge quote) = k := by
  unfold parsed
  cases Quote.parse P.usizeBits rawQuote with
  | error e => simp [hu]
  | ok quote => simp

/-- A variant no parsed quote produces comes from an unparseable one. -/
theorem kind_unparsed_iff {P : Platform κ} {rawQuote : Bytes} {unparsed : String → Outcome}
    {judge : Quote → Outcome} {k : Kind} (hu : ∀ why, kind (unparsed why) = k)
    (hj : ∀ quote, kind (judge quote) ≠ k) :
    kind (parsed P rawQuote unparsed judge) = k ↔
      ∃ e, Quote.parse P.usizeBits rawQuote = .error e := by
  unfold parsed
  cases Quote.parse P.usizeBits rawQuote with
  | error e => simp [hu]
  | ok quote => simp [hj]

/-! ## The variants of the judgements -/

section
variable {P : Platform κ} {licensed : LicensedVersion} {evidence : Evidence κ}
  {boot : Option BootReference}

theorem composeHash_failed_iff :
    kind (judgement P licensed evidence boot .composeHash) = .failed ↔
      ComposeHash.of P evidence.composeDocument ≠ licensed.composeHash := by
  rw [judgement, kind_outcomeOf_failed_iff]
  constructor
  · intro h hd
    obtain ⟨e, he⟩ := h
    obtain ⟨v, hv, -⟩ := verifiedCompose_check_of_eq P hd
    rw [hv] at he
    cases he
  · intro hd
    exact ⟨_, verifiedCompose_check_of_ne P hd⟩

theorem kind_composeHash : kind (judgement P licensed evidence boot .composeHash) = .passed ∨
    kind (judgement P licensed evidence boot .composeHash) = .failed :=
  kind_outcomeOf (VerifiedCompose.check P evidence.composeDocument licensed.composeHash)

theorem kind_quoteSignature :
    kind (judgement P licensed evidence boot .quoteSignature) = .passed ∨
      kind (judgement P licensed evidence boot .quoteSignature) = .failed :=
  kind_signature (verifyQuote P evidence.rawQuote evidence.collateral evidence.nowSecs)

/-- The checks that can be skipped are the five that depend on another result or on a
connection. -/
theorem skipped_mem {c : Check} (h : kind (judgement P licensed evidence boot c) = .skipped) :
    c ∈ [.imagesPinned, .licensedImagePresent, .tcbStatus, .bootMeasurements,
      Check.channelBound] := by
  cases c with
  | composeHash =>
    rcases kind_composeHash with hk | hk <;> rw [h] at hk <;> cases hk
  | quoteSignature =>
    rcases kind_quoteSignature with hk | hk <;> rw [h] at hk <;> cases hk
  | mrConfigId =>
    rw [judgement, kind_parsed_iff (by simp [kind])] at h
    obtain ⟨quote, -, hk⟩ := h
    exact absurd hk (kind_mrconfigid_ne_skipped _ _)
  | imagesPinned | licensedImagePresent | tcbStatus | bootMeasurements | channelBound => decide

/-- The two indeterminate results, each with its only cause. -/
theorem indeterminate_mem {c : Check} {cause : Unestablished}
    (h : kind (judgement P licensed evidence boot c) = .indeterminate cause) :
    (c, cause) ∈ [(Check.mrConfigId, Unestablished.verifierCannotJudge),
      (.bootMeasurements, .referenceUnavailable)] := by
  cases c with
  | composeHash =>
    rcases kind_composeHash with hk | hk <;> rw [h] at hk <;> cases hk
  | imagesPinned => exact absurd h (kind_examined_ne_indeterminate _ _)
  | licensedImagePresent => exact absurd h (kind_examined_ne_indeterminate _ _)
  | quoteSignature =>
    rcases kind_quoteSignature with hk | hk <;> rw [h] at hk <;> cases hk
  | tcbStatus => exact absurd h (kind_tcb_ne_indeterminate _ _)
  | mrConfigId =>
    rw [judgement, kind_parsed_iff (by simp [kind])] at h
    obtain ⟨quote, -, hk⟩ := h
    obtain ⟨rfl, -⟩ := kind_mrconfigid_indeterminate_iff.mp hk
    decide
  | bootMeasurements =>
    rw [judgement, kind_parsed_iff (by simp [kind])] at h
    obtain ⟨quote, -, hk⟩ := h
    obtain ⟨rfl, -⟩ := kind_boot_indeterminate_iff.mp hk
    decide
  | channelBound =>
    rw [judgement, kind_parsed_iff (by simp [kind])] at h
    obtain ⟨quote, -, hk⟩ := h
    exact absurd hk (kind_channelBound_ne_indeterminate _ _ _ _)

/-- The licensed image is looked for among the pinned ones. -/
theorem imagesPinned_of_licensedImagePresent
    (h : judgement P licensed evidence boot .licensedImagePresent = .passed) :
    judgement P licensed evidence boot .imagesPinned = .passed := by
  rw [judgement, examined_passed_iff, outcomeOf_passed_iff] at h
  rw [judgement, examined_passed_iff, outcomeOf_passed_iff]
  obtain ⟨hd, u, hu⟩ := h
  obtain ⟨images, hi, -⟩ := checkReferencesLicensedDigest_ok_iff.mp hu
  exact ⟨hd, images, hi⟩

theorem mrConfigId_indeterminate_iff :
    kind (judgement P licensed evidence boot .mrConfigId) =
      .indeterminate .verifierCannotJudge ↔
      ∃ quote, Quote.parse P.usizeBits evidence.rawQuote = .ok quote ∧
        quote.mrconfigid.bytes.toList.head? = some 0x02 := by
  rw [judgement, kind_parsed_iff (by simp [kind])]
  simp only [kind_mrconfigid_indeterminate_iff, true_and]

theorem bootMeasurements_skipped_iff :
    kind (judgement P licensed evidence boot .bootMeasurements) = .skipped ↔
      ∃ e, Quote.parse P.usizeBits evidence.rawQuote = .error e :=
  kind_unparsed_iff (fun _ => rfl) (kind_boot_ne_skipped boot)

theorem bootMeasurements_indeterminate_iff :
    kind (judgement P licensed evidence boot .bootMeasurements) =
      .indeterminate .referenceUnavailable ↔
      (∃ quote, Quote.parse P.usizeBits evidence.rawQuote = .ok quote) ∧ boot = none := by
  rw [judgement, kind_parsed_iff (by simp [kind])]
  simp only [kind_boot_indeterminate_iff, true_and, exists_and_right]

theorem channelBound_skipped_iff :
    kind (judgement P licensed evidence boot .channelBound) = .skipped ↔
      (∃ quote, Quote.parse P.usizeBits evidence.rawQuote = .ok quote) ∧
        evidence.peerCertificate = .notConnected := by
  rw [judgement, kind_parsed_iff (by simp [kind])]
  simp only [kind_channelBound_skipped_iff, exists_and_right]

end

/-- No essential check is left out of the transcript. -/
theorem verify_unrun (P : Platform κ) (licensed : LicensedVersion) (evidence : Evidence κ)
    (boot : Option BootReference) : (verify P licensed evidence boot).unrunEssentials = [] := by
  rw [Verdict.unrunEssentials_eq_nil_iff]
  intro c _
  rw [verify_outcome]
  rfl

/-- The transcript is complete, and every variant of every check has one cause. -/
theorem verify_transcript (P : Platform κ) (licensed : LicensedVersion) (evidence : Evidence κ)
    (boot : Option BootReference) :
    let v := verify P licensed evidence boot
    (v.results.map Prod.fst = Check.all ∧ v.unrunEssentials = []) ∧
    (Recorded v .imagesPinned .skipped ↔ Recorded v .composeHash .failed) ∧
    (Recorded v .licensedImagePresent .skipped ↔ Recorded v .composeHash .failed) ∧
    (Recorded v .licensedImagePresent .passed → Recorded v .imagesPinned .passed) ∧
    (Recorded v .tcbStatus .skipped ↔ Recorded v .quoteSignature .failed) ∧
    ((∃ tcb, v.attestedTcb = some tcb) ↔ Recorded v .quoteSignature .passed) ∧
    (∀ tcb, v.attestedTcb = some tcb →
      (Recorded v .tcbStatus .passed ↔ tcb.isUpToDate = true)) ∧
    (Recorded v .mrConfigId (.indeterminate .verifierCannotJudge) ↔
      ∃ quote, Quote.parse P.usizeBits evidence.rawQuote = .ok quote ∧
        quote.mrconfigid.bytes.toList.head? = some 0x02) ∧
    (Recorded v .bootMeasurements .skipped ↔
      ∃ e, Quote.parse P.usizeBits evidence.rawQuote = .error e) ∧
    (Recorded v .bootMeasurements (.indeterminate .referenceUnavailable) ↔
      (∃ quote, Quote.parse P.usizeBits evidence.rawQuote = .ok quote) ∧ boot = none) ∧
    (Recorded v .channelBound .skipped ↔
      (∃ quote, Quote.parse P.usizeBits evidence.rawQuote = .ok quote) ∧
        evidence.peerCertificate = .notConnected) ∧
    (∀ c, Recorded v c .skipped → c ∈ [.imagesPinned, .licensedImagePresent, .tcbStatus,
      .bootMeasurements, Check.channelBound]) ∧
    (∀ c cause, Recorded v c (.indeterminate cause) →
      (c, cause) ∈ [(Check.mrConfigId, Unestablished.verifierCannotJudge),
        (.bootMeasurements, .referenceUnavailable)]) := by
  intro v
  simp only [v, recorded_verify_iff, verify_attestedTcb]
  refine ⟨⟨?_, verify_unrun P licensed evidence boot⟩, ?_, ?_, ?_, kind_tcb_skipped_iff,
    attestedTcbOf_isSome_iff, fun tcb => kind_tcb_passed_iff, mrConfigId_indeterminate_iff,
    bootMeasurements_skipped_iff, bootMeasurements_indeterminate_iff, channelBound_skipped_iff,
    fun c => skipped_mem, fun c cause => indeterminate_mem⟩
  · rw [verify_results, List.map_map]
    exact List.map_id _
  · rw [composeHash_failed_iff]
    exact kind_examined_skipped_iff _
  · rw [composeHash_failed_iff]
    exact kind_examined_skipped_iff _
  · rw [kind_passed_iff, kind_passed_iff]
    exact imagesPinned_of_licensedImagePresent

end VerityVerifier.Soundness
