import VerityVerifier.Core.Disposition
import VerityVerifier.Core.Report

/-!
# What crosses into JavaScript

A verdict is projected record by record. The remedy class of an outcome that concluded
nothing has no field of its own: a caller reads it off the disposition, because the three
causes have three dispositions. Nothing but Intel's statement about the platform is lost.
-/
namespace VerityVerifier.Wasm

open VerityVerifier.Core
open VerityVerifier.Library

/-- One check and what it concluded, as seen from JavaScript. -/
structure JsCheck where
  check : String
  outcome : String
  detail : Option String
  disposition : String
  deriving DecidableEq

structure JsVerdict where
  verifierVersion : String
  referenceDataDate : String
  checks : List JsCheck
  isTrustworthy : Bool
  missingEssentials : List String
  deriving DecidableEq

def toJsCheck (check : Check) (outcome : Outcome) : JsCheck where
  check := check.name
  outcome :=
    match outcome with
    | .passed => "passed"
    | .failed _ => "failed"
    | .skipped _ => "skipped"
    | .indeterminate _ _ => "indeterminate"
  detail :=
    match outcome with
    | .passed => none
    | .failed d | .skipped d => some d
    | .indeterminate _ detail => some detail
  disposition := (disposition check outcome).name

def toJs (verdict : Verdict) : JsVerdict where
  verifierVersion := verdict.verifierVersion
  referenceDataDate := verdict.referenceDataDate
  checks := verdict.results.map fun r => toJsCheck r.1 r.2
  isTrustworthy := verdict.isTrustworthy
  missingEssentials := verdict.missingEssentials.map Check.name

/-! ## Reading a projection back -/

/-- The cause whose remedy has this name. -/
def causeNamed (remedy : String) : Option Unestablished :=
  [Unestablished.retrievalFailed, .referenceUnavailable, .verifierCannotJudge].find? fun c =>
    c.disposition.name == remedy

def readOutcome (j : JsCheck) : Option Outcome :=
  match j.outcome, j.detail with
  | "passed", none => some .passed
  | "failed", some d => some (.failed d)
  | "skipped", some d => some (.skipped d)
  | "indeterminate", some d => (causeNamed j.disposition).map fun c => .indeterminate c d
  | _, _ => none

def readCheck (j : JsCheck) : Option (Check × Outcome) :=
  (Check.named j.check).bind fun c => (readOutcome j).map fun o => (c, o)

/-- The three causes have three remedies. -/
theorem causeNamed_disposition (c : Unestablished) : causeNamed c.disposition.name = some c := by
  cases c <;> decide

theorem readCheck_toJsCheck (c : Check) (o : Outcome) :
    readCheck (toJsCheck c o) = some (c, o) := by
  have hn : Check.named (toJsCheck c o).check = some c := Check.named_name c
  have ho : readOutcome (toJsCheck c o) = some o := by
    cases o with
    | passed => rfl
    | failed why => rfl
    | skipped why => rfl
    | indeterminate cause detail =>
      have hd : (toJsCheck c (.indeterminate cause detail)).disposition =
          cause.disposition.name := congrArg Disposition.name (disposition_indeterminate c cause _)
      show (causeNamed (toJsCheck c (.indeterminate cause detail)).disposition).map
        (fun c => Outcome.indeterminate c detail) = some (.indeterminate cause detail)
      rw [hd, causeNamed_disposition]
      rfl
  rw [readCheck, hn, ho]
  rfl

/-- The records of a verdict, read back out of its projection. -/
theorem readChecks_toJs (v : Verdict) : (toJs v).checks.mapM readCheck = some v.results := by
  obtain ⟨version, date, results, tcb⟩ := v
  show (results.map fun r => toJsCheck r.1 r.2).mapM readCheck = some results
  induction results with
  | nil => rfl
  | cons r rest ih =>
    rw [List.map_cons, List.mapM_cons, readCheck_toJsCheck, ih]
    rfl

/-- Trust and what is missing are read off the records alone. -/
theorem toJs_congr {v w : Verdict} (hv : v.verifierVersion = w.verifierVersion)
    (hd : v.referenceDataDate = w.referenceDataDate) (hr : v.results = w.results) :
    toJs v = toJs w := by
  have ho : ∀ c, v.outcome c = w.outcome c := by
    intro c
    rw [Verdict.outcome, Verdict.outcome, hr]
  have hm : v.missingEssentials = w.missingEssentials := by
    unfold Verdict.missingEssentials
    simp only [ho]
  unfold toJs Verdict.isTrustworthy
  rw [hv, hd, hr, hm]

/-- Two verdicts look the same to a caller exactly when they agree on their provenance and on
every record: the text of an outcome, its remedy class and the order all survive. -/
theorem toJs_eq_iff (v w : Verdict) :
    toJs v = toJs w ↔ v.verifierVersion = w.verifierVersion ∧
      v.referenceDataDate = w.referenceDataDate ∧ v.results = w.results := by
  constructor
  · intro h
    have hr : some v.results = some w.results := by
      rw [← readChecks_toJs v, ← readChecks_toJs w, h]
    have hv := congrArg JsVerdict.verifierVersion h
    have hd := congrArg JsVerdict.referenceDataDate h
    exact ⟨hv, hd, Option.some.inj hr⟩
  · intro h
    exact toJs_congr h.1 h.2.1 h.2.2

/-! ## The trust of a caller that reads the checks alone -/

/-- The caller's own judgement: the name is there, and all that bears it is satisfied. -/
def jsSatisfied (checks : List JsCheck) (name : String) : Bool :=
  checks.any (fun j => j.check == name) &&
    checks.all fun j => j.check != name || j.disposition == "satisfied"

theorem disposition_name_satisfied_iff {c : Check} {o : Outcome} :
    (disposition c o).name = "satisfied" ↔ o = .passed := by
  cases o with
  | passed => simp [disposition, Disposition.name]
  | failed why => simp [disposition, Disposition.name]
  | skipped why => cases c <;> simp [disposition, weight, Disposition.name]
  | indeterminate cause detail => cases cause <;> simp [disposition, Disposition.name]

theorem jsSatisfied_toJs (v : Verdict) (c : Check) :
    jsSatisfied (toJs v).checks c.name = (v.outcome c).any Outcome.isPassed := by
  rw [Bool.eq_iff_iff, Verdict.outcome, Ledger.scan_any_iff]
  simp only [jsSatisfied, toJs, Bool.and_eq_true, List.any_map, List.all_map, List.any_eq_true,
    List.all_eq_true, Function.comp_apply, Bool.or_eq_true, bne_iff_ne, beq_iff_eq, toJsCheck,
    disposition_name_satisfied_iff, Outcome.isPassed_iff, Prod.exists, Prod.forall]
  constructor
  · intro h
    obtain ⟨⟨d, o, hm, hd⟩, hall⟩ := h
    obtain rfl := Check.name_injective hd
    refine ⟨⟨o, hm⟩, ?_⟩
    intro p hp
    exact (hall _ p hp).resolve_left (fun hn => hn rfl)
  · intro h
    obtain ⟨⟨o, hm⟩, hall⟩ := h
    refine ⟨⟨c, o, hm, rfl⟩, ?_⟩
    intro d p hp
    by_cases hd : d = c
    · subst hd
      exact .inr (hall p hp)
    · exact .inl fun hn => hd (Check.name_injective hn)

/-- What is missing, and so the trust, is what a caller computes from the names and the
dispositions of the checks alone. -/
theorem toJs_missingEssentials (v : Verdict) :
    (toJs v).missingEssentials = (Check.essential.map Check.name).filter
        (fun name => !jsSatisfied (toJs v).checks name) ∧
    (toJs v).isTrustworthy = (Check.essential.map Check.name).all
        (jsSatisfied (toJs v).checks) := by
  have hm : (toJs v).missingEssentials = (Check.essential.map Check.name).filter
      (fun name => !jsSatisfied (toJs v).checks name) := by
    rw [List.filter_map]
    have hf : (fun name => !jsSatisfied (toJs v).checks name) ∘ Check.name =
        fun c => !(v.outcome c).any Outcome.isPassed := by
      funext c
      rw [Function.comp_apply, jsSatisfied_toJs]
    rw [hf]
    rfl
  refine ⟨hm, ?_⟩
  have ht : (toJs v).isTrustworthy = (toJs v).missingEssentials.isEmpty := by
    show v.missingEssentials.isEmpty = (v.missingEssentials.map Check.name).isEmpty
    rw [List.isEmpty_map]
  rw [ht, hm, Bool.eq_iff_iff, List.isEmpty_iff, List.filter_eq_nil_iff, List.all_eq_true]
  simp only [Bool.not_eq_true', Bool.not_eq_false]

end VerityVerifier.Wasm
