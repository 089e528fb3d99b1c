import VerityVerifier.Soundness.Replay
import VerityVerifier.Core.Hex
import VerityVerifier.Wasm.Bindings

/-!
# The bindings against the core

Once the licensed hash has parsed, the bindings record the same variant as `verify`
for every check they both decide, and leave no essential check out. A hash that does
not parse leaves six of the seven out.
-/
namespace VerityVerifier.Wasm

open VerityVerifier.Core
open VerityVerifier.Library.ByteString
open VerityVerifier.Library.Fallible
open VerityVerifier.Library.Text
open VerityVerifier.Soundness

variable {κ : Type}

/-- The licensed hash is 64 hex digits, white space and one `0x` aside. -/
def IsDigest (hex : String) : Prop :=
  (utf8 (ComposeHash.core hex)).length = 64 ∧
    (utf8 (ComposeHash.core hex)).all isAsciiHexdigit = true

theorem isDigest_iff {hex : String} : IsDigest hex ↔ ∃ h, ComposeHash.parseHex hex = .ok h :=
  ComposeHash.parseHex_ok_iff.symm

/-- Every essential check has a record exactly when the licensed hash parses. -/
theorem composeOnlyVerdict_unrun_iff (P : Platform κ) (document : Bytes)
    (licensedComposeHashHex licensedImageDigest : String) (rawQuote : Bytes)
    (leafCertDer : Option Bytes) :
    (composeOnlyVerdict P document licensedComposeHashHex licensedImageDigest rawQuote
      leafCertDer).unrunEssentials = [] ↔ IsDigest licensedComposeHashHex := by
  rw [isDigest_iff, Verdict.unrunEssentials_eq_nil_iff]
  constructor
  · intro h
    cases hp : ComposeHash.parseHex licensedComposeHashHex with
    | ok licensed => exact ⟨licensed, rfl⟩
    | error e =>
      have hi := h .imagesPinned (by decide)
      rw [composeOnlyVerdict_unparsed_outcome hp (by decide)] at hi
      cases hi
  · intro ⟨licensed, hp⟩ c hc
    have hr : ∃ o, (c, o) ∈ transcript P document licensed licensedImageDigest rawQuote
        leafCertDer := by
      cases c with
      | bootMeasurements => exact absurd hc (by decide)
      | _ => simp [transcript]
    obtain ⟨o, ho⟩ := hr
    rw [composeOnlyVerdict_outcome hp ho]
    rfl

/-- A platform that was asked nothing. -/
def silent : Platform Unit := Recording.platform ⟨[], [], [], [], [], []⟩

/-- A licensed hash of two letters leaves six essential checks out of the transcript. -/
theorem unparsed_hash_unrun :
    (composeOnlyVerdict silent [] "zz" probeDigest [] none).unrunEssentials =
      [.imagesPinned, .licensedImagePresent, .quoteSignature, .tcbStatus, .mrConfigId,
        .channelBound] := by
  decide +kernel

/-! ## The same variant, check by check -/

/-- What the core is told about a connection the bindings saw, or did not. -/
def peerOf : Option Bytes → PeerCertificate
  | some leafCertDer => .presented leafCertDer
  | none => .notConnected

theorem kind_leafJudgement (P : Platform κ) (leaf : Option Bytes) (quote : Quote) :
    kind (leafJudgement P leaf quote) = kind (channelBound P (peerOf leaf) quote) := by
  cases leaf with
  | none => rfl
  | some der =>
    unfold leafJudgement peerOf channelBound
    cases h : ChannelBinding.check P der quote <;> simp [h, outcomeOf]

/-- An unparseable quote fails both surfaces; their texts differ. -/
theorem kind_quoteJudgement {P : Platform κ} {rawQuote : Bytes} {judge judge' : Quote → Outcome}
    (h : ∀ quote, kind (judge quote) = kind (judge' quote)) :
    kind (quoteJudgement P rawQuote judge) = kind (parsed P rawQuote .failed judge') := by
  unfold quoteJudgement parsed
  cases Quote.parse P.usizeBits rawQuote with
  | error e => rfl
  | ok quote => exact h quote

/-- The checks both surfaces decide. -/
def shared : List Check :=
  [.composeHash, .imagesPinned, .licensedImagePresent, .mrConfigId, .channelBound]

theorem recorded_of_transcript {P : Platform κ} {document : Bytes} {hex digest : String}
    {rawQuote : Bytes} {leaf : Option Bytes} {licensed : ComposeHash}
    (h : ComposeHash.parseHex hex = .ok licensed) {c : Check} {o : Outcome}
    (hm : (c, o) ∈ transcript P document licensed digest rawQuote leaf) :
    Recorded (composeOnlyVerdict P document hex digest rawQuote leaf) c (kind o) := by
  unfold Recorded
  rw [composeOnlyVerdict_outcome h hm]
  rfl

/-- Each shared check has one record in the transcript, of the variant the core judges. -/
theorem transcript_agrees (P : Platform κ) (document : Bytes) (licensed : LicensedVersion)
    (rawQuote : Bytes) (leaf : Option Bytes) (collateral : κ) (nowSecs : UInt64)
    (boot : Option BootReference) {c : Check} (hc : c ∈ shared) :
    ∃ o, (c, o) ∈ transcript P document licensed.composeHash licensed.imageDigest rawQuote leaf ∧
      kind o = kind (Soundness.judgement P licensed
        ⟨rawQuote, document, collateral, nowSecs, peerOf leaf⟩ boot c) := by
  cases c with
  | composeHash | imagesPinned | licensedImagePresent =>
    exact ⟨Soundness.judgement P licensed ⟨rawQuote, document, collateral, nowSecs, peerOf leaf⟩
      boot _, by simp [transcript, Soundness.judgement], rfl⟩
  | mrConfigId =>
    exact ⟨quoteJudgement P rawQuote fun quote =>
      mrconfigidOutcome quote.mrconfigid licensed.composeHash, by simp [transcript],
      kind_quoteJudgement fun _ => rfl⟩
  | channelBound =>
    exact ⟨quoteJudgement P rawQuote (leafJudgement P leaf), by simp [transcript],
      kind_quoteJudgement (kind_leafJudgement P leaf)⟩
  | quoteSignature | tcbStatus | bootMeasurements => exact absurd hc (by decide)

/-- The bindings and the core record the same variant, and the bindings never trust. -/
theorem composeOnlyVerdict_agrees (P : Platform κ) (document : Bytes) (hex digest : String)
    (rawQuote : Bytes) (leaf : Option Bytes) :
    (∀ h, ComposeHash.parseHex hex = .ok h →
      ∀ (collateral : κ) (nowSecs : UInt64) (boot : Option BootReference), ∀ c ∈ shared,
        ∃ k, Recorded (composeOnlyVerdict P document hex digest rawQuote leaf) c k ∧
          Recorded (verify P ⟨h, digest⟩ ⟨rawQuote, document, collateral, nowSecs, peerOf leaf⟩
            boot) c k) ∧
    (composeOnlyVerdict P document hex digest rawQuote leaf).isTrustworthy = false := by
  constructor
  · intro h hp collateral nowSecs boot c hc
    obtain ⟨o, hm, hk⟩ := transcript_agrees P document ⟨h, digest⟩ rawQuote leaf collateral
      nowSecs boot hc
    exact ⟨kind o, recorded_of_transcript hp hm, recorded_verify_iff.mpr hk.symm⟩
  · rw [Bool.eq_false_iff]
    intro ht
    have hall := (Verdict.isTrustworthy_iff _).mp ht
    exact composeOnlyVerdict_quoteSignature (hall .quoteSignature (by decide))

/-- The recorded evidence through both surfaces, with the licensed hash in upper case. -/
theorem recorded_agrees :
    let v := composeOnlyVerdict recording.platform recordedDocument
      "0x4203954168C6D38813A107F48F6DFA679E1DAFF8DD5DABED4E1752EF2D2B29C5" probeDigest
      firstKey.quote (some firstKey.leaf)
    (∀ c ∈ shared, ∃ k, Recorded v c k ∧
      Recorded (verify recording.platform probeLicence julyEvidence none) c k) ∧
    v.isTrustworthy = false := by
  intro v
  have hp : (ComposeHash.parseHex
      "0x4203954168C6D38813A107F48F6DFA679E1DAFF8DD5DABED4E1752EF2D2B29C5").toOption =
      some recordedHash := by
    decide +kernel
  have h := composeOnlyVerdict_agrees recording.platform recordedDocument
    "0x4203954168C6D38813A107F48F6DFA679E1DAFF8DD5DABED4E1752EF2D2B29C5" probeDigest
    firstKey.quote (some firstKey.leaf)
  exact ⟨h.1 recordedHash (ok_of_toOption hp) "july" 1785196800 none, h.2⟩

end VerityVerifier.Wasm
