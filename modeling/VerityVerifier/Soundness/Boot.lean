import VerityVerifier.Soundness.Replay
import VerityVerifier.Soundness.Transcript

/-!
# When boot measurements pass

The comparison walks four optional registers and stops at the first that differs. A
reference that names none of them is walked to the end, so the check passes with
nothing compared; it is the only reference for which a pass means less than it says.
-/
namespace VerityVerifier.Soundness

open VerityVerifier.Core
open VerityVerifier.Library.ByteString

variable {κ : Type}

/-- The reference names at least one register. -/
def NamesRegister (reference : BootReference) : Prop :=
  reference.mrtd.isSome = true ∨ reference.rtmr0.isSome = true ∨
    reference.rtmr1.isSome = true ∨ reference.rtmr2.isSome = true

/-- Every register that the reference names has the measured value. -/
structure Matches (reference : BootReference) (quote : Quote) : Prop where
  mrtd : ∀ m, reference.mrtd = some m → m = quote.mrtd
  rtmr0 : ∀ m, reference.rtmr0 = some m → m = quote.rtmr0
  rtmr1 : ∀ m, reference.rtmr1 = some m → m = quote.rtmr1
  rtmr2 : ∀ m, reference.rtmr2 = some m → m = quote.rtmr2

def emptyReference : BootReference := ⟨none, none, none, none⟩

theorem namesRegister_iff {reference : BootReference} :
    NamesRegister reference ↔ reference ≠ emptyReference := by
  obtain ⟨mrtd, rtmr0, rtmr1, rtmr2⟩ := reference
  cases mrtd <;> cases rtmr0 <;> cases rtmr1 <;> cases rtmr2 <;>
    simp [NamesRegister, emptyReference]

/-- The walk succeeds exactly when every named pair agrees. -/
theorem comparePairs_ok_iff {pairs : List (String × Option Measurement × Measurement)} :
    comparePairs pairs = .ok () ↔ ∀ p ∈ pairs, ∀ m, p.2.1 = some m → m = p.2.2 := by
  induction pairs with
  | nil => simp [comparePairs]
  | cons p rest ih =>
    obtain ⟨register, expected, measured⟩ := p
    rw [List.forall_mem_cons, ← ih]
    cases expected with
    | none => simp [comparePairs]
    | some m =>
      by_cases he : m = measured
      · simp [comparePairs, he]
      · simp [comparePairs, he]

theorem checkBootMeasurements_ok_iff {quote : Quote} {reference : BootReference} :
    checkBootMeasurements quote reference = .ok () ↔ Matches reference quote := by
  rw [checkBootMeasurements, comparePairs_ok_iff]
  simp only [List.forall_mem_cons, List.not_mem_nil, false_implies, implies_true, and_true]
  constructor
  · intro h
    exact ⟨h.1, h.2.1, h.2.2.1, h.2.2.2⟩
  · intro h
    exact ⟨h.mrtd, h.rtmr0, h.rtmr1, h.rtmr2⟩

theorem matches_emptyReference (quote : Quote) : Matches emptyReference quote := by
  constructor <;> intro m hm <;> cases hm

section
variable {P : Platform κ} {licensed : LicensedVersion} {evidence : Evidence κ}
  {boot : Option BootReference}

/-- What the code requires for a pass. -/
theorem bootMeasurements_passed_iff :
    Recorded (verify P licensed evidence boot) .bootMeasurements .passed ↔
      ∃ quote reference, Quote.parse P.usizeBits evidence.rawQuote = .ok quote ∧
        boot = some reference ∧ Matches reference quote := by
  rw [recorded_verify_iff, kind_passed_iff, judgement, parsed_passed_iff (fun why => by simp)]
  constructor
  · intro h
    obtain ⟨quote, hq, hb⟩ := h
    cases boot with
    | none => cases hb
    | some reference =>
      obtain ⟨u, hu⟩ := outcomeOf_passed_iff.mp hb
      exact ⟨quote, reference, hq, rfl, checkBootMeasurements_ok_iff.mp hu⟩
  · intro h
    obtain ⟨quote, reference, hq, rfl, hm⟩ := h
    exact ⟨quote, hq, outcomeOf_passed_iff.mpr ⟨(), checkBootMeasurements_ok_iff.mpr hm⟩⟩

end

/-- A pass stands for a comparison, in both directions, for every input but a quote that
parses beside a reference that names nothing. -/
theorem bootMeasurements_compared_iff (P : Platform κ) (licensed : LicensedVersion)
    (evidence : Evidence κ) (boot : Option BootReference) :
    (Recorded (verify P licensed evidence boot) .bootMeasurements .passed ↔
      ∃ quote reference, Quote.parse P.usizeBits evidence.rawQuote = .ok quote ∧
        boot = some reference ∧ NamesRegister reference ∧ Matches reference quote) ↔
    ¬ ((∃ quote, Quote.parse P.usizeBits evidence.rawQuote = .ok quote) ∧
      boot = some emptyReference) := by
  rw [bootMeasurements_passed_iff]
  constructor
  · intro h he
    obtain ⟨⟨quote, hq⟩, hb⟩ := he
    obtain ⟨-, reference, -, hr, hn, -⟩ :=
      h.mp ⟨quote, emptyReference, hq, hb, matches_emptyReference quote⟩
    rw [hb] at hr
    exact namesRegister_iff.mp hn (Option.some.inj hr).symm
  · intro h
    constructor
    · intro hp
      obtain ⟨quote, reference, hq, rfl, hm⟩ := hp
      refine ⟨quote, reference, hq, rfl, namesRegister_iff.mpr ?_, hm⟩
      intro he
      exact h ⟨⟨quote, hq⟩, congrArg some he⟩
    · intro hp
      obtain ⟨quote, reference, hq, hb, -, hm⟩ := hp
      exact ⟨quote, reference, hq, hb, hm⟩

/-- The recorded quote beside an empty reference: a pass, and no register was compared. -/
theorem empty_reference_passes :
    Recorded (verify recording.platform probeLicence julyEvidence (some emptyReference))
      .bootMeasurements .passed ∧
    ¬ ∃ quote reference, Quote.parse recording.platform.usizeBits julyEvidence.rawQuote = .ok quote ∧
      some emptyReference = some reference ∧ NamesRegister reference ∧ Matches reference quote := by
  constructor
  · obtain ⟨quote, hq, -⟩ := recorded_endorses (k := firstKey) (by simp)
    exact bootMeasurements_passed_iff.mpr
      ⟨quote, emptyReference, hq, rfl, matches_emptyReference quote⟩
  · intro h
    obtain ⟨-, reference, -, he, hn, -⟩ := h
    exact namesRegister_iff.mp hn (Option.some.inj he).symm

end VerityVerifier.Soundness
