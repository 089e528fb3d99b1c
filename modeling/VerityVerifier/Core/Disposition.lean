import VerityVerifier.Core.Verdict

/-!
# What to do about a verdict

Remedies are advice about one check, never permission to proceed. They are read off
the pair of a check and its outcome; the list of failures is read off all records.
-/
namespace VerityVerifier.Core

/-- What a caller should do about one check. -/
inductive Disposition where
  | satisfied
  | refuse
  | retryRetrieval
  | updateVerifier
  | updateReference
  | proceedNonEssential
  deriving DecidableEq

def Disposition.name : Disposition → String
  | .satisfied => "satisfied"
  | .refuse => "refuse"
  | .retryRetrieval => "retry_retrieval"
  | .updateVerifier => "update_verifier"
  | .updateReference => "update_reference"
  | .proceedNonEssential => "proceed_non_essential"

/-- How much a check's outcome matters to the verdict. -/
inductive Weight where
  | essential
  | advisory
  deriving DecidableEq

def weight : Check → Weight
  | .composeHash | .imagesPinned | .licensedImagePresent | .quoteSignature | .tcbStatus
  | .mrConfigId | .channelBound => .essential
  | .bootMeasurements => .advisory

/-- The remedy a cause calls for. -/
def Unestablished.disposition : Unestablished → Disposition
  | .retrievalFailed => .retryRetrieval
  | .referenceUnavailable => .updateReference
  | .verifierCannotJudge => .updateVerifier

def disposition (check : Check) : Outcome → Disposition
  | .passed => .satisfied
  | .failed _ => .refuse
  | .skipped _ =>
    match weight check with
    | .essential => .refuse
    | .advisory => .proceedNonEssential
  | .indeterminate cause _ =>
    match cause with
    | .retrievalFailed => .retryRetrieval
    | .referenceUnavailable => .updateReference
    | .verifierCannotJudge => .updateVerifier

namespace Verdict

/-- Checks that failed, each with how. An outcome that concluded nothing is not a failure. -/
def failures (v : Verdict) : List (Check × String) :=
  v.results.filterMap fun r =>
    match r.2 with
    | .failed why => some (r.1, why)
    | .passed | .skipped _ | .indeterminate _ _ => none

/-- What to do about one check, read off the outcome that `outcome` selects. -/
def disposition (v : Verdict) (check : Check) : Option Disposition :=
  (v.outcome check).map (Core.disposition check)

/-- Every record and what to do about it. -/
def dispositions (v : Verdict) : List (Check × Disposition) :=
  v.results.map fun r => (r.1, Core.disposition r.1 r.2)

end Verdict

/-! ## Reading the advice back -/

/-- The weights and the list of essential checks are one definition of essential. -/
theorem weight_essential_iff {c : Check} : weight c = .essential ↔ c ∈ Check.essential := by
  cases c <;> decide

/-- Both spellings of a cause's remedy agree. -/
theorem disposition_indeterminate (c : Check) (cause : Unestablished) (detail : String) :
    disposition c (.indeterminate cause detail) = cause.disposition := by
  cases cause <;> rfl

theorem disposition_refuse_iff {c : Check} {o : Outcome} :
    disposition c o = .refuse ↔
      (∃ why, o = .failed why) ∨ (∃ why, o = .skipped why) ∧ c ∈ Check.essential := by
  rw [← weight_essential_iff]
  cases o with
  | passed => simp [disposition]
  | failed why => simp [disposition]
  | skipped why =>
    cases h : weight c <;> simp [disposition, h]
  | indeterminate cause detail => cases cause <;> simp [disposition]

namespace Verdict

theorem mem_failures_iff {v : Verdict} {c : Check} {why : String} :
    (c, why) ∈ v.failures ↔ (c, .failed why) ∈ v.results := by
  unfold failures
  rw [List.mem_filterMap]
  constructor
  · intro h
    obtain ⟨⟨c', o⟩, hm, he⟩ := h
    cases o with
    | failed why' =>
      obtain ⟨rfl, rfl⟩ := Prod.mk.inj (Option.some.inj he)
      exact hm
    | passed | skipped _ | indeterminate _ _ => cases he
  · intro h
    exact ⟨_, h, rfl⟩

theorem mem_dispositions_iff {v : Verdict} {c : Check} {d : Disposition} :
    (c, d) ∈ v.dispositions ↔ ∃ o, (c, o) ∈ v.results ∧ Core.disposition c o = d := by
  simp only [dispositions, List.mem_map, Prod.exists, Prod.mk.injEq]
  constructor
  · intro h
    obtain ⟨c', o, hm, rfl, hd⟩ := h
    exact ⟨o, hm, hd⟩
  · intro h
    obtain ⟨o, hm, hd⟩ := h
    exact ⟨c, o, hm, rfl, hd⟩

end Verdict

end VerityVerifier.Core
