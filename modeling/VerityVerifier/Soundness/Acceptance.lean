import VerityVerifier.Soundness.Judgement

/-!
# What a trustworthy verdict means

A quote endorses a configuration and a key; evidence is accepted when the served
document is the licensed one, pins the licensed image, comes with a quote from an
up-to-date platform, and that quote endorses the licensed configuration and the
key presented on the connection. `verify` is sound and complete for that.
-/
namespace VerityVerifier.Soundness

open VerityVerifier.Core
open VerityVerifier.Library.ByteString
open VerityVerifier.Library.Fallible
open VerityVerifier.Library.Text

variable {κ : Type}

/-- The peer presented a certificate with this subject public key info. -/
def Presents (P : Platform κ) (peer : PeerCertificate) (spkiDer : Bytes) : Prop :=
  ∃ der, peer = .presented der ∧ spkiDerOf P der = .ok spkiDer

/-- The quote carries this configuration and commits to this key. -/
structure Endorses (P : Platform κ) (quote : Quote) (config : ComposeHash) (spkiDer : Bytes) :
    Prop where
  config : quote.mrconfigid = expectedMrconfigidV1 config
  nonzero : quote.reportData.isZero = false
  key : quote.reportData.bytes = (commitmentOver P spkiDer).bytes

/-- The evidence establishes what the licence names, about the connection presented. -/
structure Accepts (P : Platform κ) (licensed : LicensedVersion) (evidence : Evidence κ) :
    Prop where
  document : ComposeHash.of P evidence.composeDocument = licensed.composeHash
  images : ∃ images, pinnedImages P evidence.composeDocument = .ok images ∧
    ∃ i ∈ images, i.digest = licensed.imageDigest
  platform : ∃ report, P.qvlVerify evidence.rawQuote evidence.collateral evidence.nowSecs =
    .ok report ∧ isTcbAcceptable report.status = true
  quote : ∃ quote spkiDer, Quote.parse P.usizeBits evidence.rawQuote = .ok quote ∧
    Endorses P quote licensed.composeHash spkiDer ∧
    Presents P evidence.peerCertificate spkiDer

variable {P : Platform κ} {licensed : LicensedVersion} {evidence : Evidence κ}
  {boot : Option BootReference}

theorem composeHash_passed_iff :
    judgement P licensed evidence boot .composeHash = .passed ↔
      ComposeHash.of P evidence.composeDocument = licensed.composeHash := by
  rw [judgement, outcomeOf_passed_iff]
  exact verifiedCompose_check_ok_iff

theorem licensedImagePresent_passed_iff :
    judgement P licensed evidence boot .licensedImagePresent = .passed ↔
      ComposeHash.of P evidence.composeDocument = licensed.composeHash ∧
      ∃ images, pinnedImages P evidence.composeDocument = .ok images ∧
        ∃ i ∈ images, i.digest = licensed.imageDigest := by
  rw [judgement, examined_passed_iff, outcomeOf_passed_iff, exists_unit_ok_iff,
    checkReferencesLicensedDigest_ok_iff]

theorem imagesPinned_passed_iff :
    judgement P licensed evidence boot .imagesPinned = .passed ↔
      ComposeHash.of P evidence.composeDocument = licensed.composeHash ∧
      ∃ images, pinnedImages P evidence.composeDocument = .ok images := by
  rw [judgement, examined_passed_iff, outcomeOf_passed_iff]

theorem tcbStatus_passed_iff :
    judgement P licensed evidence boot .tcbStatus = .passed ↔
      ∃ report, P.qvlVerify evidence.rawQuote evidence.collateral evidence.nowSecs = .ok report ∧
        isTcbAcceptable report.status = true := by
  rw [judgement, tcbJudgement_passed_iff, verifyQuote_ok_iff]

/-- A passed TCB status is never recorded beside a failed signature. -/
theorem quoteSignature_passed_of_tcbStatus
    (h : judgement P licensed evidence boot .tcbStatus = .passed) :
    judgement P licensed evidence boot .quoteSignature = .passed := by
  obtain ⟨a, ha⟩ := tcbJudgement_passed_iff.mp h
  rw [judgement, ha]
  rfl

theorem mrConfigId_passed_iff :
    judgement P licensed evidence boot .mrConfigId = .passed ↔
      ∃ quote, Quote.parse P.usizeBits evidence.rawQuote = .ok quote ∧
        quote.mrconfigid = expectedMrconfigidV1 licensed.composeHash := by
  rw [judgement, parsed_passed_iff (fun why => by simp)]
  simp only [mrconfigidOutcome_passed_iff]

theorem channelBound_judgement_passed_iff :
    judgement P licensed evidence boot .channelBound = .passed ↔
      ∃ quote spkiDer, Quote.parse P.usizeBits evidence.rawQuote = .ok quote ∧
        quote.reportData.isZero = false ∧
        quote.reportData.bytes = (commitmentOver P spkiDer).bytes ∧
        Presents P evidence.peerCertificate spkiDer := by
  rw [judgement, parsed_passed_iff (fun why => by simp)]
  constructor
  · intro h
    obtain ⟨quote, hq, hc⟩ := h
    obtain ⟨der, b, hp, hb⟩ := channelBound_passed_iff.mp hc
    obtain ⟨hz, spkiDer, hs, hk⟩ := channelBinding_check_ok_iff.mp ⟨b, hb⟩
    exact ⟨quote, spkiDer, hq, hz, hk, der, hp, hs⟩
  · intro h
    obtain ⟨quote, spkiDer, hq, hz, hk, der, hp, hs⟩ := h
    obtain ⟨b, hb⟩ := channelBinding_check_ok_iff.mpr ⟨hz, spkiDer, hs, hk⟩
    exact ⟨quote, hq, channelBound_passed_iff.mpr ⟨der, b, hp, hb⟩⟩

/-- `verify` is sound and complete for acceptance, whatever the boot reference. -/
theorem trustworthy_iff_accepts :
    (verify P licensed evidence boot).isTrustworthy = true ↔ Accepts P licensed evidence := by
  rw [verify_isTrustworthy]
  constructor
  · intro h
    obtain ⟨hdoc, himg⟩ := licensedImagePresent_passed_iff.mp (h .licensedImagePresent (by decide))
    have htcb := tcbStatus_passed_iff.mp (h .tcbStatus (by decide))
    obtain ⟨quote, hq, hconfig⟩ := mrConfigId_passed_iff.mp (h .mrConfigId (by decide))
    obtain ⟨quote', spkiDer, hq', hz, hk, hp⟩ :=
      channelBound_judgement_passed_iff.mp (h .channelBound (by decide))
    have he : quote' = quote := Except.ok.inj (hq'.symm.trans hq)
    subst he
    exact ⟨hdoc, himg, htcb, quote', spkiDer, hq, ⟨hconfig, hz, hk⟩, hp⟩
  · intro h c hc
    obtain ⟨hdoc, ⟨images, himg, hi⟩, htcb, quote, spkiDer, hq, ⟨hconfig, hz, hk⟩, hp⟩ := h
    have hpassed : judgement P licensed evidence boot .tcbStatus = .passed :=
      tcbStatus_passed_iff.mpr htcb
    cases c with
    | composeHash => exact composeHash_passed_iff.mpr hdoc
    | imagesPinned => exact imagesPinned_passed_iff.mpr ⟨hdoc, images, himg⟩
    | licensedImagePresent => exact licensedImagePresent_passed_iff.mpr ⟨hdoc, images, himg, hi⟩
    | quoteSignature => exact quoteSignature_passed_of_tcbStatus hpassed
    | tcbStatus => exact hpassed
    | mrConfigId => exact mrConfigId_passed_iff.mpr ⟨quote, hq, hconfig⟩
    | bootMeasurements => exact absurd hc (by decide)
    | channelBound =>
      exact channelBound_judgement_passed_iff.mpr ⟨quote, spkiDer, hq, hz, hk, hp⟩

theorem isZero_eq_false_iff {n : Nat} {b : Block n} :
    b.isZero = false ↔ ∃ x ∈ b.toList, x ≠ 0 := by
  simp [Block.isZero, List.all_eq_false]

theorem commitmentOver_bytes (P : Platform κ) (spkiDer : Bytes) :
    (commitmentOver P spkiDer).bytes = P.sha512 (utf8 "ratls-cert:" ++ spkiDer) := rfl

theorem eq_expectedMrconfigidV1_iff {m : Measurement} {config : ComposeHash} :
    m = expectedMrconfigidV1 config ↔
      m.bytes.toList = 0x01 :: config.bytes.toList ++ List.replicate 15 0x00 := by
  rw [← expectedMrconfigidV1_toList]
  constructor
  · intro he
    subst he
    rfl
  · intro h
    cases m
    exact congrArg Measurement.mk (Block.ext h)

/-- End to end: the boolean is the conjunction of the five facts a caller wants,
read off the raw inputs, and no boot reference changes it. -/
theorem verify_isTrustworthy_iff (P : Platform κ) (licensed : LicensedVersion)
    (evidence : Evidence κ) (boot : Option BootReference) :
    ((verify P licensed evidence boot).isTrustworthy = true ↔
      P.sha256 evidence.composeDocument = licensed.composeHash.bytes ∧
      (∃ images, pinnedImages P evidence.composeDocument = .ok images ∧
        ∃ i ∈ images, i.digest = licensed.imageDigest) ∧
      (∃ report, P.qvlVerify evidence.rawQuote evidence.collateral evidence.nowSecs = .ok report ∧
        eqIgnoreAsciiCase report.status "UpToDate" = true) ∧
      ∃ q, Quote.parse P.usizeBits evidence.rawQuote = .ok q ∧
        q.mrconfigid.bytes.toList =
          0x01 :: licensed.composeHash.bytes.toList ++ List.replicate 15 0x00 ∧
        ∃ der cert s, evidence.peerCertificate = .presented der ∧
          P.certificateFromDer der = .ok cert ∧ cert.subjectPublicKeyInfoToDer = .ok s ∧
          (∃ b ∈ q.reportData.bytes.toList, b ≠ 0) ∧
          q.reportData.bytes = P.sha512 (utf8 "ratls-cert:" ++ s)) ∧
    ∀ boot', (verify P licensed evidence boot').isTrustworthy =
      (verify P licensed evidence boot).isTrustworthy := by
  constructor
  · rw [trustworthy_iff_accepts]
    constructor
    · intro h
      obtain ⟨hdoc, himg, hrep, quote, s, hq, ⟨hconfig, hz, hk⟩, der, hp, hs⟩ := h
      obtain ⟨cert, hc, hspki⟩ := spkiDerOf_ok_iff.mp hs
      exact ⟨congrArg ComposeHash.bytes hdoc, himg, hrep, quote, hq,
        eq_expectedMrconfigidV1_iff.mp hconfig, der, cert, s, hp, hc, hspki,
        isZero_eq_false_iff.mp hz, hk⟩
    · intro h
      obtain ⟨hdoc, himg, hrep, quote, hq, hconfig, der, cert, s, hp, hc, hspki, hz, hk⟩ := h
      exact ⟨congrArg ComposeHash.mk hdoc, himg, hrep, quote, s, hq,
        ⟨eq_expectedMrconfigidV1_iff.mpr hconfig, isZero_eq_false_iff.mpr hz, hk⟩, der, hp,
        spkiDerOf_ok_iff.mpr ⟨cert, hc, hspki⟩⟩
  · intro boot'
    rw [Bool.eq_iff_iff, trustworthy_iff_accepts, trustworthy_iff_accepts]

end VerityVerifier.Soundness
