import VerityVerifier.Soundness.Judgement

/-!
# Refusals are targeted

Which part of the input each check reads. Two runs whose inputs differ only in parts
a check does not read record the same outcome for it, so a refusal points at what
was tampered with.
-/
namespace VerityVerifier.Soundness

open VerityVerifier.Core

variable {κ : Type}

/-- The parts of an input to `verify`. -/
inductive Part where
  | licensedHash
  | imageDigest
  | rawQuote
  | composeDocument
  | collateral
  | nowSecs
  | peerCertificate
  | boot
  deriving DecidableEq

/-- One input to `verify`. -/
structure Input (κ : Type) where
  licensed : LicensedVersion
  evidence : Evidence κ
  boot : Option BootReference

def Input.verify (P : Platform κ) (i : Input κ) : Verdict :=
  Core.verify P i.licensed i.evidence i.boot

/-- Two inputs agree on one part. -/
def Agree (i j : Input κ) : Part → Prop
  | .licensedHash => i.licensed.composeHash = j.licensed.composeHash
  | .imageDigest => i.licensed.imageDigest = j.licensed.imageDigest
  | .rawQuote => i.evidence.rawQuote = j.evidence.rawQuote
  | .composeDocument => i.evidence.composeDocument = j.evidence.composeDocument
  | .collateral => i.evidence.collateral = j.evidence.collateral
  | .nowSecs => i.evidence.nowSecs = j.evidence.nowSecs
  | .peerCertificate => i.evidence.peerCertificate = j.evidence.peerCertificate
  | .boot => i.boot = j.boot

/-- The parts the attestation of the quote reads. -/
def attestationParts : List Part := [.rawQuote, .collateral, .nowSecs]

/-- The parts one check reads. -/
def reads : Check → List Part
  | .composeHash => [.licensedHash, .composeDocument]
  | .imagesPinned => [.licensedHash, .composeDocument]
  | .licensedImagePresent => [.licensedHash, .composeDocument, .imageDigest]
  | .quoteSignature => attestationParts
  | .tcbStatus => attestationParts
  | .mrConfigId => [.licensedHash, .rawQuote]
  | .bootMeasurements => [.rawQuote, .boot]
  | .channelBound => [.rawQuote, .peerCertificate]

/-- The checks that read one of these parts. -/
def readers (parts : List Part) : List Check :=
  Check.all.filter fun c => (reads c).any fun p => decide (p ∈ parts)

theorem not_mem_parts {parts : List Part} {c : Check} (hc : c ∉ readers parts) :
    ∀ p ∈ reads c, p ∉ parts := by
  intro p hr hp
  apply hc
  apply List.mem_filter.mpr
  exact ⟨Check.mem_all c, List.any_eq_true.mpr ⟨p, hr, decide_eq_true hp⟩⟩

theorem verifyQuote_of_agree (P : Platform κ) {i j : Input κ}
    (h : ∀ p ∈ attestationParts, Agree i j p) :
    verifyQuote P i.evidence.rawQuote i.evidence.collateral i.evidence.nowSecs =
      verifyQuote P j.evidence.rawQuote j.evidence.collateral j.evidence.nowSecs := by
  have hq : i.evidence.rawQuote = j.evidence.rawQuote := h .rawQuote (by decide)
  have hc : i.evidence.collateral = j.evidence.collateral := h .collateral (by decide)
  have hn : i.evidence.nowSecs = j.evidence.nowSecs := h .nowSecs (by decide)
  rw [hq, hc, hn]

/-- A check's judgement is a function of the parts it reads. -/
theorem judgement_of_agree (P : Platform κ) {i j : Input κ} {c : Check}
    (h : ∀ p ∈ reads c, Agree i j p) :
    judgement P i.licensed i.evidence i.boot c = judgement P j.licensed j.evidence j.boot c := by
  cases c with
  | composeHash | imagesPinned =>
    have hl : i.licensed.composeHash = j.licensed.composeHash := h .licensedHash (by decide)
    have hd : i.evidence.composeDocument = j.evidence.composeDocument :=
      h .composeDocument (by decide)
    rw [judgement, judgement, hl, hd]
  | licensedImagePresent =>
    have hl : i.licensed.composeHash = j.licensed.composeHash := h .licensedHash (by decide)
    have hd : i.evidence.composeDocument = j.evidence.composeDocument :=
      h .composeDocument (by decide)
    have hi : i.licensed.imageDigest = j.licensed.imageDigest := h .imageDigest (by decide)
    rw [judgement, judgement, hl, hd, hi]
  | quoteSignature | tcbStatus => rw [judgement, judgement, verifyQuote_of_agree P h]
  | mrConfigId =>
    have hl : i.licensed.composeHash = j.licensed.composeHash := h .licensedHash (by decide)
    have hq : i.evidence.rawQuote = j.evidence.rawQuote := h .rawQuote (by decide)
    rw [judgement, judgement, hl, hq]
  | bootMeasurements =>
    have hq : i.evidence.rawQuote = j.evidence.rawQuote := h .rawQuote (by decide)
    have hb : i.boot = j.boot := h .boot (by decide)
    rw [judgement, judgement, hq, hb]
  | channelBound =>
    have hq : i.evidence.rawQuote = j.evidence.rawQuote := h .rawQuote (by decide)
    have hp : i.evidence.peerCertificate = j.evidence.peerCertificate :=
      h .peerCertificate (by decide)
    rw [judgement, judgement, hq, hp]

/-- Two verdicts that differ at most in the outcomes of these checks and in the
platform status. -/
structure SameOutside (hidden : List Check) (v w : Verdict) : Prop where
  verifierVersion : v.verifierVersion = w.verifierVersion
  referenceDataDate : v.referenceDataDate = w.referenceDataDate
  outcome : ∀ c, c ∉ hidden → v.outcome c = w.outcome c
  records : (v.results.filter fun r => r.1 ∉ hidden) = w.results.filter fun r => r.1 ∉ hidden

/-- Two inputs differ at most in these parts. -/
def DifferIn (parts : List Part) (i j : Input κ) : Prop := ∀ p, p ∉ parts → Agree i j p

/-- What differs between two verdicts is confined to the readers of what differs
between their inputs. -/
theorem sameOutside_readers (P : Platform κ) {parts : List Part} {i j : Input κ}
    (h : DifferIn parts i j) : SameOutside (readers parts) (i.verify P) (j.verify P) := by
  have hj : ∀ c, c ∉ readers parts → judgement P i.licensed i.evidence i.boot c =
      judgement P j.licensed j.evidence j.boot c :=
    fun c hc => judgement_of_agree P fun p hp => h p (not_mem_parts hc p hp)
  unfold Input.verify
  constructor
  · rw [verify_eq, verify_eq]
  · rw [verify_eq, verify_eq]
  · intro c hc
    rw [verify_outcome, verify_outcome, hj c hc]
  · rw [verify_results, verify_results, List.filter_map, List.filter_map]
    apply List.map_congr_left
    intro c hc
    have hn : c ∉ readers parts := of_decide_eq_true (List.mem_filter.mp hc).2
    rw [hj c hn]

theorem attestedTcb_of_differIn (P : Platform κ) {parts : List Part} {i j : Input κ}
    (h : DifferIn parts i j) (hp : ∀ p ∈ attestationParts, p ∉ parts) :
    (i.verify P).attestedTcb = (j.verify P).attestedTcb := by
  unfold Input.verify
  rw [verify_attestedTcb, verify_attestedTcb, verifyQuote_of_agree P fun p hm => h p (hp p hm)]

/-- Trust is a function of the outcomes of the essential checks. -/
theorem isTrustworthy_of_outcome {v w : Verdict}
    (h : ∀ c ∈ Check.essential, v.outcome c = w.outcome c) :
    v.isTrustworthy = w.isTrustworthy := by
  rw [Bool.eq_iff_iff, Verdict.isTrustworthy_iff, Verdict.isTrustworthy_iff]
  refine forall₂_congr fun c hc => ?_
  rw [h c hc]

section
variable (i : Input κ)

/-- Replacing one part leaves every other part alone. -/
theorem differIn_composeDocument (d : Library.ByteString.Bytes) :
    DifferIn [.composeDocument] i
      { i with evidence := { i.evidence with composeDocument := d } } := by
  intro p hp
  cases p <;> first | rfl | exact absurd List.mem_cons_self hp

theorem differIn_peerCertificate (peer : PeerCertificate) :
    DifferIn [.peerCertificate] i
      { i with evidence := { i.evidence with peerCertificate := peer } } := by
  intro p hp
  cases p <;> first | rfl | exact absurd List.mem_cons_self hp

theorem differIn_boot (boot : Option BootReference) : DifferIn [.boot] i { i with boot } := by
  intro p hp
  cases p <;> first | rfl | exact absurd List.mem_cons_self hp

theorem differIn_collateral (collateral : κ) (nowSecs : UInt64) :
    DifferIn [.collateral, .nowSecs] i
      { i with evidence := { i.evidence with collateral, nowSecs } } := by
  intro p hp
  cases p <;> first | rfl | exact absurd (by decide) hp

theorem differIn_imageDigest (digest : String) :
    DifferIn [.imageDigest] i
      { i with licensed := { i.licensed with imageDigest := digest } } := by
  intro p hp
  cases p <;> first | rfl | exact absurd List.mem_cons_self hp

end

/-- Two runs that differ in one part of the input differ at most in the checks that
read it. -/
theorem verify_refusals_targeted (P : Platform κ) (licensed : LicensedVersion)
    (evidence : Evidence κ) (boot : Option BootReference) :
    let v := verify P licensed evidence boot
    (∀ composeDocument,
      let w := verify P licensed { evidence with composeDocument } boot
      SameOutside [.composeHash, .imagesPinned, .licensedImagePresent] v w ∧
        v.attestedTcb = w.attestedTcb) ∧
    (∀ peerCertificate,
      let w := verify P licensed { evidence with peerCertificate } boot
      SameOutside [.channelBound] v w ∧ v.attestedTcb = w.attestedTcb) ∧
    (∀ boot',
      let w := verify P licensed evidence boot'
      SameOutside [.bootMeasurements] v w ∧ v.attestedTcb = w.attestedTcb ∧
        v.isTrustworthy = w.isTrustworthy) ∧
    (∀ collateral nowSecs,
      let w := verify P licensed { evidence with collateral, nowSecs } boot
      SameOutside [.quoteSignature, .tcbStatus] v w) ∧
    (∀ imageDigest,
      let w := verify P { licensed with imageDigest } evidence boot
      SameOutside [.licensedImagePresent] v w ∧ v.attestedTcb = w.attestedTcb) := by
  intro v
  let i : Input κ := ⟨licensed, evidence, boot⟩
  refine ⟨?_, ?_, ?_, ?_, ?_⟩
  · intro d
    have h := differIn_composeDocument i d
    exact ⟨sameOutside_readers P h, attestedTcb_of_differIn P h (by decide)⟩
  · intro peer
    have h := differIn_peerCertificate i peer
    exact ⟨sameOutside_readers P h, attestedTcb_of_differIn P h (by decide)⟩
  · intro boot'
    have h := differIn_boot i boot'
    have hs : SameOutside [.bootMeasurements] v (verify P licensed evidence boot') :=
      sameOutside_readers P h
    have ht : ∀ c ∈ Check.essential, c ∉ [Check.bootMeasurements] := by decide
    exact ⟨hs, attestedTcb_of_differIn P h (by decide),
      isTrustworthy_of_outcome fun c hc => hs.outcome c (ht c hc)⟩
  · intro collateral nowSecs
    exact sameOutside_readers P (differIn_collateral i collateral nowSecs)
  · intro digest
    have h := differIn_imageDigest i digest
    exact ⟨sameOutside_readers P h, attestedTcb_of_differIn P h (by decide)⟩

end VerityVerifier.Soundness
