import Mathlib.Data.List.Perm.Basic
import VerityVerifier.Core.Disposition

/-!
# The algebra of records

Anyone may record a check any number of times, in any order. Trust and both lists of
essentials depend only on which records there are, and no further record can undo a
refusal. The three traversals of the records never contradict each other on trust.
-/
namespace VerityVerifier.Soundness

open VerityVerifier.Core
open VerityVerifier.Library

/-- A sequence of calls of `record`. -/
def recordAll (v : Verdict) (records : List (Check × Outcome)) : Verdict :=
  records.foldl (fun v r => v.record r.1 r.2) v

/-- The verdict that a sequence of calls builds from nothing. -/
def built (records : List (Check × Outcome)) : Verdict := recordAll Verdict.new records

theorem recordAll_results (v : Verdict) (records : List (Check × Outcome)) :
    (recordAll v records).results = v.results ++ records := by
  unfold recordAll
  induction records generalizing v with
  | nil => rw [List.foldl_nil, List.append_nil]
  | cons r rest ih =>
    rw [List.foldl_cons, ih, Verdict.record_results, List.append_assoc]
    rfl

@[simp] theorem built_results (records : List (Check × Outcome)) :
    (built records).results = records := by
  rw [built, recordAll_results]
  rfl

/-! ## What each accessor reads off the records -/

theorem outcome_eq_none_iff {v : Verdict} {c : Check} :
    v.outcome c = none ↔ ∀ o, (c, o) ∉ v.results := Ledger.scan_eq_none_iff Outcome.isPassed

theorem outcome_passed_iff {v : Verdict} {c : Check} :
    (v.outcome c).any Outcome.isPassed = true ↔
      (∃ o, (c, o) ∈ v.results) ∧ ∀ o, (c, o) ∈ v.results → o = .passed := by
  rw [Verdict.outcome, Ledger.scan_any_iff]
  simp only [Outcome.isPassed_iff]

theorem mem_unrunEssentials_iff {v : Verdict} {c : Check} :
    c ∈ v.unrunEssentials ↔ c ∈ Check.essential ∧ ∀ o, (c, o) ∉ v.results := by
  rw [Verdict.unrunEssentials, List.mem_filter, Option.isNone_iff_eq_none, outcome_eq_none_iff]

theorem mem_missingEssentials_iff {v : Verdict} {c : Check} :
    c ∈ v.missingEssentials ↔ c ∈ Check.essential ∧
      ¬ ((∃ o, (c, o) ∈ v.results) ∧ ∀ o, (c, o) ∈ v.results → o = .passed) := by
  rw [Verdict.missingEssentials, List.mem_filter, ← outcome_passed_iff, Bool.not_eq_true',
    Bool.not_eq_true]

theorem unrun_subset_missing (v : Verdict) : v.unrunEssentials ⊆ v.missingEssentials := by
  intro c hc
  obtain ⟨he, hn⟩ := mem_unrunEssentials_iff.mp hc
  apply mem_missingEssentials_iff.mpr
  refine ⟨he, fun h => ?_⟩
  obtain ⟨⟨o, ho⟩, -⟩ := h
  exact hn o ho

/-- Trust is a statement about all records of every essential check. -/
theorem isTrustworthy_iff_records {v : Verdict} :
    v.isTrustworthy = true ↔
      ∀ c ∈ Check.essential, (∃ o, (c, o) ∈ v.results) ∧ ∀ o, (c, o) ∈ v.results → o = .passed := by
  rw [Verdict.isTrustworthy, List.isEmpty_iff, List.eq_nil_iff_forall_not_mem]
  constructor
  · intro h c hc
    by_contra hn
    exact h c (mem_missingEssentials_iff.mpr ⟨hc, hn⟩)
  · intro h c hm
    obtain ⟨hc, hn⟩ := mem_missingEssentials_iff.mp hm
    exact hn (h c hc)

/-! ## Order and extension -/

/-- Two verdicts with the same records, in whatever order. -/
structure SameRecords (v w : Verdict) : Prop where
  mem : ∀ r, r ∈ v.results ↔ r ∈ w.results

theorem SameRecords.outcome_isNone {v w : Verdict} (h : SameRecords v w) (c : Check) :
    (v.outcome c).isNone = (w.outcome c).isNone := by
  rw [Bool.eq_iff_iff, Option.isNone_iff_eq_none, Option.isNone_iff_eq_none, outcome_eq_none_iff,
    outcome_eq_none_iff]
  simp only [h.mem]

theorem SameRecords.outcome_any {v w : Verdict} (h : SameRecords v w) (c : Check) :
    (v.outcome c).any Outcome.isPassed = (w.outcome c).any Outcome.isPassed := by
  rw [Bool.eq_iff_iff, outcome_passed_iff, outcome_passed_iff]
  simp only [h.mem]

theorem SameRecords.unrunEssentials {v w : Verdict} (h : SameRecords v w) :
    v.unrunEssentials = w.unrunEssentials :=
  List.filter_congr fun c _ => h.outcome_isNone c

theorem SameRecords.missingEssentials {v w : Verdict} (h : SameRecords v w) :
    v.missingEssentials = w.missingEssentials := by
  apply List.filter_congr
  intro c _
  rw [h.outcome_any]

theorem SameRecords.isTrustworthy {v w : Verdict} (h : SameRecords v w) :
    v.isTrustworthy = w.isTrustworthy := by
  rw [Verdict.isTrustworthy, Verdict.isTrustworthy, h.missingEssentials]

theorem sameRecords_of_perm {records records' : List (Check × Outcome)}
    (h : records.Perm records') : SameRecords (built records) (built records') := by
  constructor
  intro r
  rw [built_results, built_results, h.mem_iff]

/-- A recorded refusal stays: no further call of `record` makes the verdict trustworthy. -/
theorem not_isTrustworthy_recordAll {v : Verdict} {c : Check} {o : Outcome}
    (hc : c ∈ Check.essential) (hm : (c, o) ∈ v.results) (ho : o ≠ .passed)
    (more : List (Check × Outcome)) : (recordAll v more).isTrustworthy = false := by
  apply Bool.eq_false_iff.mpr
  intro ht
  have hall := (isTrustworthy_iff_records.mp ht c hc).2
  apply ho
  apply hall
  rw [recordAll_results]
  exact List.mem_append_left more hm

theorem failures_of_isTrustworthy {v : Verdict} (h : v.isTrustworthy = true) {c : Check}
    {why : String} (hf : (c, why) ∈ v.failures) : c ∉ Check.essential := by
  intro hc
  have hp := (isTrustworthy_iff_records.mp h c hc).2 _ (Verdict.mem_failures_iff.mp hf)
  cases hp

theorem dispositions_of_isTrustworthy {v : Verdict} (h : v.isTrustworthy = true) {c : Check}
    {d : Disposition} (hd : (c, d) ∈ v.dispositions) (hc : c ∈ Check.essential) :
    d = .satisfied := by
  obtain ⟨o, ho, rfl⟩ := Verdict.mem_dispositions_iff.mp hd
  have hp := (isTrustworthy_iff_records.mp h c hc).2 o ho
  rw [hp]
  rfl

/-- What holds of the verdict that any sequence of calls of `record` builds. -/
theorem verdict_algebra (records : List (Check × Outcome)) :
    let v := built records
    (v.isTrustworthy = true ↔ ∀ c ∈ Check.essential,
      (∃ o, (c, o) ∈ records) ∧ ∀ o, (c, o) ∈ records → o = .passed) ∧
    (v.unrunEssentials ⊆ v.missingEssentials ∧ ∀ records', records.Perm records' →
      (built records').isTrustworthy = v.isTrustworthy ∧
      (built records').unrunEssentials = v.unrunEssentials ∧
      (built records').missingEssentials = v.missingEssentials ∧
      (built records').unrunEssentials ⊆ (built records').missingEssentials) ∧
    (∀ c ∈ Check.essential, ∀ o, (c, o) ∈ records → o ≠ .passed →
      ∀ more, (recordAll v more).isTrustworthy = false) ∧
    (v.isTrustworthy = true → (∀ c ∈ Check.essential, ∀ why, (c, why) ∉ v.failures) ∧
      ∀ c ∈ Check.essential, ∀ d, (c, d) ∈ v.dispositions → d = .satisfied) ∧
    ((∃ t, TrustworthyVerdict.check v = .ok t) ↔ v.isTrustworthy = true) ∧
    (∀ t, TrustworthyVerdict.check v = .ok t → t.verdict = v) ∧
    (v.isTrustworthy = false → TrustworthyVerdict.check v = .error v) := by
  intro v
  refine ⟨?_, ⟨unrun_subset_missing v, ?_⟩, ?_, ?_, ?_, ?_, ?_⟩
  · simp only [v, isTrustworthy_iff_records, built_results]
  · intro records' hp
    have hs := sameRecords_of_perm hp.symm
    exact ⟨hs.isTrustworthy, hs.unrunEssentials, hs.missingEssentials, unrun_subset_missing _⟩
  · intro c hc o ho hne more
    apply not_isTrustworthy_recordAll hc _ hne
    rwa [built_results]
  · intro ht
    exact ⟨fun c hc why hf => failures_of_isTrustworthy ht hf hc,
      fun c hc d hd => dispositions_of_isTrustworthy ht hd hc⟩
  · constructor
    · intro h
      obtain ⟨t, ht⟩ := h
      rw [← trustworthyVerdict_check_ok_iff.mp ht]
      exact t.trustworthy
    · intro ht
      exact ⟨⟨v, ht⟩, trustworthyVerdict_check_ok_iff.mpr rfl⟩
  · intro t ht
    exact trustworthyVerdict_check_ok_iff.mp ht
  · intro hf
    exact trustworthyVerdict_check_error_iff.mpr ⟨hf, rfl⟩

end VerityVerifier.Soundness
