import VerityVerifier.Core.Hex
import VerityVerifier.Wasm.Bindings
import VerityVerifier.Wasm.Projection

/-!
# The checks that JavaScript calls one by one

Each of them answers with nothing or with the message of a refusal. The verdict of the
bindings is made of the same answers: what a caller finds as the detail of a check is what
the call for that check alone returns.
-/
namespace VerityVerifier.Wasm

open VerityVerifier.Core
open VerityVerifier.Library
open VerityVerifier.Library.ByteString
open VerityVerifier.Library.Text
open VerityVerifier.Soundness

variable {κ : Type}

/-- `.err().map(|e| e.to_string())`. -/
def message {ε α : Type} [ToString ε] : Except ε α → Option String
  | .ok _ => none
  | .error e => some (toString e)

def composeHash (P : Platform κ) (document : Bytes) : String :=
  toString (ComposeHash.of P document)

def checkImages (P : Platform κ) (document : Bytes) (licensedDigest : String) : Option String :=
  message (checkReferencesLicensedDigest P document licensedDigest)

def quoteMrconfigid (P : Platform κ) (rawQuote : Bytes) : Option String :=
  (Quote.parse P.usizeBits rawQuote).toOption.map fun q => toString q.mrconfigid

def checkMrconfigid (P : Platform κ) (rawQuote : Bytes) (licensedComposeHashHex : String) :
    Option String :=
  match ComposeHash.parseHex licensedComposeHashHex with
  | .error e => some (toString e)
  | .ok licensed =>
    match Quote.parse P.usizeBits rawQuote with
    | .error e => some (toString e)
    | .ok quote => message (Core.checkMrconfigid quote.mrconfigid licensed)

def checkChannelBinding (P : Platform κ) (rawQuote leafCertDer : Bytes) : Option String :=
  match Quote.parse P.usizeBits rawQuote with
  | .error e => some (toString e)
  | .ok quote => message (ChannelBinding.check P leafCertDer quote)

/-- The value that is serialised for the caller. -/
def verifyComposeOnly (P : Platform κ) (document : Bytes)
    (licensedComposeHashHex licensedImageDigest : String) (rawQuote : Bytes)
    (leafCertDer : Option Bytes) : JsVerdict :=
  toJs (composeOnlyVerdict P document licensedComposeHashHex licensedImageDigest rawQuote
    leafCertDer)

/-! ## The details of a verdict -/

/-- What a caller reads at the first check of a name. -/
def detailOf (js : JsVerdict) (name : String) : Option (Option String) :=
  (js.checks.find? fun j => j.check == name).map JsCheck.detail

/-- What an outcome explains crosses as it is. -/
theorem toJsCheck_detail (c : Check) (o : Outcome) : (toJsCheck c o).detail = o.detail? := by
  cases o <;> rfl

/-- In a verdict that records no check twice, the name finds the one record. -/
theorem detailOf_toJs {v : Verdict} (hn : (v.results.map Prod.fst).Nodup) {c : Check} {o : Outcome}
    (hm : (c, o) ∈ v.results) : detailOf (toJs v) c.name = some o.detail? := by
  have hfind : ∀ results : List (Check × Outcome), (results.map Prod.fst).Nodup →
      (c, o) ∈ results →
      (results.map fun r => toJsCheck r.1 r.2).find? (fun j => j.check == c.name) =
        some (toJsCheck c o) := by
    intro results
    induction results with
    | nil => exact nofun
    | cons r rest ih =>
      intro hn hm
      rw [List.map_cons, List.nodup_cons] at hn
      rw [List.map_cons]
      rcases List.mem_cons.mp hm with rfl | hm
      · exact List.find?_cons_of_pos (beq_self_eq_true c.name)
      · rw [List.find?_cons_of_neg, ih hn.2 hm]
        intro he
        have hc : r.1 = c := Check.name_injective (beq_iff_eq.mp he)
        exact hn.1 (List.mem_map.mpr ⟨_, hm, hc.symm⟩)
  unfold detailOf
  rw [show (toJs v).checks = v.results.map fun r => toJsCheck r.1 r.2 from rfl,
    hfind v.results hn hm, Option.map_some, toJsCheck_detail]

theorem detail?_outcomeOf {ε α : Type} [ToString ε] (x : Except ε α) :
    (outcomeOf x).detail? = message x := by
  cases x <;> rfl

theorem detail?_mrconfigidOutcome (measured : Measurement) (licensed : ComposeHash) :
    (mrconfigidOutcome measured licensed).detail? =
      message (Core.checkMrconfigid measured licensed) := by
  unfold mrconfigidOutcome
  cases Core.checkMrconfigid measured licensed with
  | ok u => rfl
  | error e => cases e <;> rfl

section
variable {P : Platform κ} {document : Bytes} {hex digest : String} {rawQuote : Bytes}
  {leaf : Option Bytes} {licensed : ComposeHash}

/-- Each record of a transcript is found under its name. -/
theorem detailOf_transcript (h : ComposeHash.parseHex hex = .ok licensed) {c : Check} {o : Outcome}
    (hm : (c, o) ∈ transcript P document licensed digest rawQuote leaf) :
    detailOf (verifyComposeOnly P document hex digest rawQuote leaf) c.name = some o.detail? := by
  apply detailOf_toJs
  · rw [composeOnlyVerdict_eq h]
    show [Check.composeHash, .imagesPinned, .licensedImagePresent, .mrConfigId, .channelBound,
      .quoteSignature, .tcbStatus].Nodup
    decide
  · rw [composeOnlyVerdict_eq h]
    exact hm

theorem detailOf_mrConfigId (h : ComposeHash.parseHex hex = .ok licensed) :
    detailOf (verifyComposeOnly P document hex digest rawQuote leaf) Check.mrConfigId.name =
      some (checkMrconfigid P rawQuote hex) := by
  have hm : (.mrConfigId, quoteJudgement P rawQuote fun quote =>
      mrconfigidOutcome quote.mrconfigid licensed) ∈
      transcript P document licensed digest rawQuote leaf := by
    simp [transcript]
  refine (detailOf_transcript h hm).trans (congrArg some ?_)
  unfold quoteJudgement checkMrconfigid
  rw [h]
  cases Quote.parse P.usizeBits rawQuote with
  | error e => rfl
  | ok quote => exact detail?_mrconfigidOutcome quote.mrconfigid licensed

theorem detailOf_channelBound (h : ComposeHash.parseHex hex = .ok licensed) (der : Bytes) :
    detailOf (verifyComposeOnly P document hex digest rawQuote (some der))
      Check.channelBound.name = some (checkChannelBinding P rawQuote der) := by
  have hm : (.channelBound, quoteJudgement P rawQuote (leafJudgement P (some der))) ∈
      transcript P document licensed digest rawQuote (some der) := by
    simp [transcript]
  refine (detailOf_transcript h hm).trans (congrArg some ?_)
  unfold quoteJudgement checkChannelBinding
  cases Quote.parse P.usizeBits rawQuote with
  | error e => rfl
  | ok quote => exact detail?_outcomeOf (ChannelBinding.check P der quote)

/-- The contents of the document are examined only when it is the licensed one. -/
theorem detailOf_licensedImagePresent (h : ComposeHash.parseHex hex = .ok licensed)
    (hd : ComposeHash.of P document = licensed) :
    detailOf (verifyComposeOnly P document hex digest rawQuote leaf)
      Check.licensedImagePresent.name = some (checkImages P document digest) := by
  have hm : (.licensedImagePresent, examined P licensed document
      (outcomeOf (checkReferencesLicensedDigest P document digest))) ∈
      transcript P document licensed digest rawQuote leaf := by
    simp [transcript]
  rw [detailOf_transcript h hm, examined, if_pos hd, detail?_outcomeOf]
  rfl

theorem detailOf_imagesPinned (h : ComposeHash.parseHex hex = .ok licensed)
    (hd : ComposeHash.of P document = licensed) :
    detailOf (verifyComposeOnly P document hex digest rawQuote leaf) Check.imagesPinned.name =
      some (message (pinnedImages P document)) := by
  have hm : (.imagesPinned, examined P licensed document (outcomeOf (pinnedImages P document))) ∈
      transcript P document licensed digest rawQuote leaf := by
    simp [transcript]
  rw [detailOf_transcript h hm, examined, if_pos hd, detail?_outcomeOf]

/-- `check_images` fails where the images cannot be read, with their message, and where the
licensed one is not among them. -/
theorem checkImages_of_pinned {why : String} (hw : message (pinnedImages P document) = some why) :
    checkImages P document digest = some why := by
  unfold checkImages checkReferencesLicensedDigest
  cases hp : pinnedImages P document with
  | ok images =>
    rw [hp] at hw
    cases hw
  | error e =>
    rw [hp] at hw
    exact hw

theorem detailOf_composeHash (h : ComposeHash.parseHex hex = .ok licensed) :
    detailOf (verifyComposeOnly P document hex digest rawQuote leaf) Check.composeHash.name =
      some (message (VerifiedCompose.check P document licensed)) := by
  have hm : (.composeHash, outcomeOf (VerifiedCompose.check P document licensed)) ∈
      transcript P document licensed digest rawQuote leaf := by
    simp [transcript]
  rw [detailOf_transcript h hm, detail?_outcomeOf]

end

/-- The details of a verdict are the answers of the single calls, whichever way each of them
goes, but for `images_pinned`: its detail is about the pinning alone, and where there is one it
is the answer of `check_images`. A licensed hash that does not parse leaves the one message
that the call alone gives. -/
theorem verifyComposeOnly_details (P : Platform κ) (document : Bytes) (hex digest : String)
    (rawQuote : Bytes) :
    (∀ licensed, ComposeHash.parseHex hex = .ok licensed → ∀ leaf,
      detailOf (verifyComposeOnly P document hex digest rawQuote leaf) Check.mrConfigId.name =
        some (checkMrconfigid P rawQuote hex) ∧
      (∀ der, leaf = some der →
        detailOf (verifyComposeOnly P document hex digest rawQuote leaf) Check.channelBound.name =
          some (checkChannelBinding P rawQuote der)) ∧
      (composeHash P document = toString licensed →
        detailOf (verifyComposeOnly P document hex digest rawQuote leaf) Check.composeHash.name =
          some none ∧
        detailOf (verifyComposeOnly P document hex digest rawQuote leaf)
          Check.licensedImagePresent.name = some (checkImages P document digest) ∧
        detailOf (verifyComposeOnly P document hex digest rawQuote leaf) Check.imagesPinned.name =
          some (message (pinnedImages P document)) ∧
        ∀ why, detailOf (verifyComposeOnly P document hex digest rawQuote leaf)
          Check.imagesPinned.name = some (some why) → checkImages P document digest = some why)) ∧
    (∀ e, ComposeHash.parseHex hex = .error e → ∀ leaf,
      (verifyComposeOnly P document hex digest rawQuote leaf).checks.map JsCheck.detail =
        [checkMrconfigid P rawQuote hex]) := by
  constructor
  · intro licensed h leaf
    refine ⟨detailOf_mrConfigId h, ?_, ?_⟩
    · intro der hl
      subst hl
      exact detailOf_channelBound h der
    · intro hs
      have hd : ComposeHash.of P document = licensed := ComposeHash.toString_injective hs
      have hpinned := @detailOf_imagesPinned κ P document hex digest rawQuote leaf licensed h hd
      refine ⟨?_, detailOf_licensedImagePresent h hd, hpinned, ?_⟩
      · obtain ⟨w, hw, -⟩ := verifiedCompose_check_of_eq P hd
        rw [detailOf_composeHash h, hw]
        rfl
      · intro why hw
        rw [hpinned] at hw
        exact checkImages_of_pinned (Option.some.inj hw)
  · intro e h leaf
    unfold verifyComposeOnly toJs checkMrconfigid
    rw [composeOnlyVerdict_unparsed h, h]
    rfl

/-! ## The calls composed -/

/-- The measurement that a licensed hash asks for, as text. -/
def expectedMrconfigid (composeHash : String) : String :=
  "01" ++ composeHash ++ String.ofList (List.replicate 30 '0')

theorem toString_expectedMrconfigidV1 (licensed : ComposeHash) :
    toString (expectedMrconfigidV1 licensed) = expectedMrconfigid (toString licensed) := by
  show hex (expectedMrconfigidV1 licensed).bytes.toList =
    "01" ++ hex licensed.bytes.toList ++ String.ofList (List.replicate 30 '0')
  rw [← String.toList_inj, expectedMrconfigidV1_toList, String.toList_append, String.toList_append,
    toList_hex, toList_hex, String.toList_ofList, hexChars, List.flatMap_append,
    List.flatMap_cons]
  rfl

/-- A caller that passes one call's answer to the next compares texts: the check succeeds
exactly when the measurement reads as the document's hash between a prefix and zeros. -/
theorem checkMrconfigid_composeHash (P : Platform κ) (document rawQuote : Bytes) :
    checkMrconfigid P rawQuote (composeHash P document) = none ↔
      quoteMrconfigid P rawQuote = some (expectedMrconfigid (composeHash P document)) := by
  have hp : ComposeHash.parseHex (composeHash P document) = .ok (ComposeHash.of P document) :=
    ComposeHash.parseHex_toString _
  unfold checkMrconfigid quoteMrconfigid
  rw [hp]
  cases Quote.parse P.usizeBits rawQuote with
  | error e => simp [Except.toOption]
  | ok quote =>
    show message (Core.checkMrconfigid quote.mrconfigid (ComposeHash.of P document)) = none ↔
      some (toString quote.mrconfigid) = some (expectedMrconfigid (composeHash P document))
    have hm : message (Core.checkMrconfigid quote.mrconfigid (ComposeHash.of P document)) = none ↔
        Core.checkMrconfigid quote.mrconfigid (ComposeHash.of P document) = .ok () := by
      cases Core.checkMrconfigid quote.mrconfigid (ComposeHash.of P document) with
      | ok u => simp [message]
      | error e => simp [message]
    rw [hm, checkMrconfigid_ok_iff, Option.some.injEq, composeHash,
      ← toString_expectedMrconfigidV1]
    constructor
    · intro he
      rw [he]
    · exact fun he => Measurement.toString_injective he

end VerityVerifier.Wasm
