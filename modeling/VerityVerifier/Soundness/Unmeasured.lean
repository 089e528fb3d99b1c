import VerityVerifier.Soundness.Judgement
import VerityVerifier.Soundness.Layout

/-!
# What a verdict does not depend on

A verdict reads a quote through six of its fields and through the answer of the DCAP
verifier. `RTMR3`, the owner fields, the filler and whatever follows the signature are
free: two quotes that differ in them alone have one verdict, details included.
-/
namespace VerityVerifier.Soundness

open VerityVerifier.Core
open VerityVerifier.Library.ByteString

variable {κ : Type}

/-- Two quotes agree on the six fields that are compared with something. -/
structure SameMeasured (q₁ q₂ : Quote) : Prop where
  mrtd : q₁.mrtd = q₂.mrtd
  mrconfigid : q₁.mrconfigid = q₂.mrconfigid
  rtmr0 : q₁.rtmr0 = q₂.rtmr0
  rtmr1 : q₁.rtmr1 = q₂.rtmr1
  rtmr2 : q₁.rtmr2 = q₂.rtmr2
  reportData : q₁.reportData = q₂.reportData

/-- The comparison with a boot reference reads four registers. -/
theorem checkBootMeasurements_of_same {q₁ q₂ : Quote} (h : SameMeasured q₁ q₂)
    (reference : BootReference) :
    checkBootMeasurements q₁ reference = checkBootMeasurements q₂ reference := by
  have h₀ : q₁.rtmr[0] = q₂.rtmr[0] := h.rtmr0
  have h₁ : q₁.rtmr[1] = q₂.rtmr[1] := h.rtmr1
  have h₂ : q₁.rtmr[2] = q₂.rtmr[2] := h.rtmr2
  unfold checkBootMeasurements
  rw [h.mrtd, h₀, h₁, h₂]

/-- The channel binding reads the report data alone. -/
theorem channelBinding_check_of_same {q₁ q₂ : Quote} (h : SameMeasured q₁ q₂) (P : Platform κ)
    (leafCertDer : Bytes) :
    ChannelBinding.check P leafCertDer q₁ = ChannelBinding.check P leafCertDer q₂ := by
  unfold ChannelBinding.check
  simp only [h.reportData]

theorem channelBound_of_same {q₁ q₂ : Quote} (h : SameMeasured q₁ q₂) (P : Platform κ)
    (peer : PeerCertificate) : channelBound P peer q₁ = channelBound P peer q₂ := by
  cases peer with
  | notConnected => rfl
  | presented leafCertDer => rw [channelBound, channelBound, channelBinding_check_of_same h]

/-- Two accepted inputs are judged alike by whatever does not tell their quotes apart. -/
theorem parsed_of_same {P : Platform κ} {bytes₁ bytes₂ : Bytes} {q₁ q₂ : Quote}
    (h₁ : Quote.parse P.usizeBits bytes₁ = .ok q₁)
    (h₂ : Quote.parse P.usizeBits bytes₂ = .ok q₂) (unparsed : String → Outcome)
    {judge : Quote → Outcome} (hj : judge q₁ = judge q₂) :
    parsed P bytes₁ unparsed judge = parsed P bytes₂ unparsed judge := by
  unfold parsed
  rw [h₁, h₂]
  exact hj

theorem verify_of_same {P : Platform κ} {bytes₁ bytes₂ : Bytes} {q₁ q₂ : Quote}
    (h₁ : Quote.parse P.usizeBits bytes₁ = .ok q₁)
    (h₂ : Quote.parse P.usizeBits bytes₂ = .ok q₂) (hs : SameMeasured q₁ q₂)
    {collateral : κ} {nowSecs : UInt64}
    (hq : P.qvlVerify bytes₁ collateral nowSecs = P.qvlVerify bytes₂ collateral nowSecs)
    (licensed : LicensedVersion) (document : Bytes) (peer : PeerCertificate)
    (boot : Option BootReference) :
    verify P licensed ⟨bytes₁, document, collateral, nowSecs, peer⟩ boot =
      verify P licensed ⟨bytes₂, document, collateral, nowSecs, peer⟩ boot := by
  have ha : verifyQuote P bytes₁ collateral nowSecs = verifyQuote P bytes₂ collateral nowSecs := by
    unfold verifyQuote
    rw [hq]
  have hj : judgement P licensed ⟨bytes₁, document, collateral, nowSecs, peer⟩ boot =
      judgement P licensed ⟨bytes₂, document, collateral, nowSecs, peer⟩ boot := by
    funext c
    cases c with
    | composeHash | imagesPinned | licensedImagePresent => rfl
    | quoteSignature | tcbStatus => simp only [judgement, ha]
    | mrConfigId =>
      apply parsed_of_same h₁ h₂
      rw [hs.mrconfigid]
    | bootMeasurements =>
      apply parsed_of_same h₁ h₂
      cases boot with
      | none => rfl
      | some reference => rw [bootJudgement, bootJudgement, checkBootMeasurements_of_same hs]
    | channelBound =>
      apply parsed_of_same h₁ h₂
      exact channelBound_of_same hs P peer
  rw [verify_eq, verify_eq, hj]
  simp only [ha]

/-! ## The bytes around the fields -/

/-- Everything of a raw quote but its fields, with what follows the quote. -/
structure Framing where
  attKeyType : Block 2
  header : Block 40
  report : Block 136
  signature : Bytes
  tail : Bytes

def Framing.around (f : Framing) (quote : Quote) : Bytes :=
  assemble quote f.attKeyType f.header f.report f.signature ++ f.tail

/-- The length of the signature section can be written in its field and added up. -/
def Framing.Fits (f : Framing) (usizeBits : Nat) : Prop :=
  f.signature.length < 2 ^ 32 ∧ 636 + f.signature.length < 2 ^ usizeBits

theorem Framing.parse_around {usizeBits : Nat} {f : Framing} (hf : f.Fits usizeBits)
    {quote : Quote} (hv : quote.version = 4) :
    Quote.parse usizeBits (f.around quote) = .ok quote := by
  have hw := wellFormed_assemble quote f.attKeyType f.header f.report f.signature hv hf.1 hf.2
  have hr := readFrom_assemble quote f.attKeyType f.header f.report f.signature hv
  exact parse_ok_iff.mpr ⟨hw.append f.tail, hr.append hw.long f.tail⟩

/-- The quote with other values in the three fields that no check reads. -/
def withUnmeasured (q : Quote) (mrowner mrownerconfig rtmr3 : Measurement) : Quote :=
  { q with mrowner, mrownerconfig, rtmr := q.rtmr.setIfInBounds 3 rtmr3 }

theorem sameMeasured_withUnmeasured (q : Quote) (mrowner mrownerconfig rtmr3 : Measurement) :
    SameMeasured q (withUnmeasured q mrowner mrownerconfig rtmr3) := by
  constructor <;> simp [withUnmeasured, Quote.rtmr0, Quote.rtmr1, Quote.rtmr2]

/-- Two accepted quotes that agree on the compared fields, and that the DCAP verifier
answers for alike, have the same verdict: in particular when everything else differs. -/
theorem verify_unmeasured (P : Platform κ) (licensed : LicensedVersion) (document : Bytes)
    (collateral : κ) (nowSecs : UInt64) (peer : PeerCertificate) (boot : Option BootReference) :
    (∀ bytes₁ bytes₂ q₁ q₂, Quote.parse P.usizeBits bytes₁ = .ok q₁ →
      Quote.parse P.usizeBits bytes₂ = .ok q₂ → SameMeasured q₁ q₂ →
      P.qvlVerify bytes₁ collateral nowSecs = P.qvlVerify bytes₂ collateral nowSecs →
      verify P licensed ⟨bytes₁, document, collateral, nowSecs, peer⟩ boot =
        verify P licensed ⟨bytes₂, document, collateral, nowSecs, peer⟩ boot) ∧
    ∀ (f₁ f₂ : Framing) (q : Quote) (mrowner mrownerconfig rtmr3 : Measurement), q.version = 4 →
      f₁.Fits P.usizeBits → f₂.Fits P.usizeBits →
      let bytes₁ := f₁.around q
      let bytes₂ := f₂.around (withUnmeasured q mrowner mrownerconfig rtmr3)
      P.qvlVerify bytes₁ collateral nowSecs = P.qvlVerify bytes₂ collateral nowSecs →
      verify P licensed ⟨bytes₁, document, collateral, nowSecs, peer⟩ boot =
        verify P licensed ⟨bytes₂, document, collateral, nowSecs, peer⟩ boot := by
  constructor
  · intro bytes₁ bytes₂ q₁ q₂ h₁ h₂ hs hq
    exact verify_of_same h₁ h₂ hs hq licensed document peer boot
  · intro f₁ f₂ q mrowner mrownerconfig rtmr3 hv hf₁ hf₂ bytes₁ bytes₂ hq
    have hs := sameMeasured_withUnmeasured q mrowner mrownerconfig rtmr3
    have hv₂ : (withUnmeasured q mrowner mrownerconfig rtmr3).version = 4 := hv
    exact verify_of_same (f₁.parse_around hf₁ hv) (f₂.parse_around hf₂ hv₂) hs hq licensed document
      peer boot

end VerityVerifier.Soundness
