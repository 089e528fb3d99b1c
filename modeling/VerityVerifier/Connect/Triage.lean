import VerityVerifier.Connect.Connector
import VerityVerifier.Soundness.Algebra
import VerityVerifier.Soundness.Replay
import VerityVerifier.Soundness.Transcript

/-!
# Attack or outage

A refusal that carries a verdict is triaged by the outcome of each essential check, and
an outcome is the first record of the check that did not pass. What the records hold
behind that one decides nothing. A verdict of `verify` has one record for each check,
and only one essential check of it can be left unestablished.
-/
namespace VerityVerifier.Connect

open VerityVerifier.Core
open VerityVerifier.Library
open VerityVerifier.Library.ByteString
open VerityVerifier.Library.Fallible
open VerityVerifier.Soundness

variable {κ : Type}

inductive RefusalKind where
  | guaranteeViolated
  | couldNotEstablish
  | endpointUnusable
  deriving DecidableEq

/-- Coarse triage, not a diagnosis. -/
def Refusal.kind : Refusal → RefusalKind
  | .terminatingEndpoint _ _ => .endpointUnusable
  | .notReached _ _ _ | .collateralUnavailable _ => .couldNotEstablish
  | .handshakeFailed _ _ | .noPeerCertificate | .noAttestation | .unreadableAttestation _ =>
    .guaranteeViolated
  | .notTrustworthy verdict =>
    let neverRan := !verdict.unrunEssentials.isEmpty
    let onlyIndeterminate := verdict.missingEssentials.all fun c =>
      match verdict.outcome c with
      | some (.indeterminate _ _) => true
      | _ => false
    if !neverRan && onlyIndeterminate then .couldNotEstablish else .guaranteeViolated

/-- An outcome that refuses nothing. -/
def Unrefused (o : Outcome) : Prop := o = .passed ∨ ∃ cause detail, o = .indeterminate cause detail

theorem not_unrefused_iff {o : Outcome} :
    ¬ Unrefused o ↔ (∃ why, o = .failed why) ∨ ∃ why, o = .skipped why := by
  cases o <;> simp [Unrefused]

/-- An outage is reported exactly when every essential check was recorded and none refused. -/
theorem kind_couldNotEstablish_iff {v : Verdict} :
    (Refusal.notTrustworthy v).kind = .couldNotEstablish ↔
      ∀ c ∈ Check.essential, ∃ o, v.outcome c = some o ∧ Unrefused o := by
  have hk : (Refusal.notTrustworthy v).kind = .couldNotEstablish ↔
      v.unrunEssentials = [] ∧ ∀ c ∈ v.missingEssentials,
        ∃ cause detail, v.outcome c = some (.indeterminate cause detail) := by
    have hm : ∀ c, (match v.outcome c with
        | some (.indeterminate _ _) => true
        | _ => false) = true ↔
        ∃ cause detail, v.outcome c = some (.indeterminate cause detail) := by
      intro c
      cases v.outcome c with
      | none => simp
      | some o => cases o <;> simp
    simp only [Refusal.kind, Bool.not_not, ite_eq_left_iff, reduceCtorEq, imp_false, not_not,
      Bool.and_eq_true, List.isEmpty_iff, List.all_eq_true, hm]
  rw [hk]
  constructor
  · intro h c hc
    obtain ⟨hu, hi⟩ := h
    have hsome := (Verdict.unrunEssentials_eq_nil_iff v).mp hu c hc
    obtain ⟨o, ho⟩ := Option.isSome_iff_exists.mp hsome
    by_cases hp : o = .passed
    · exact ⟨o, ho, .inl hp⟩
    · have hmiss : c ∈ v.missingEssentials := by
        apply List.mem_filter.mpr
        refine ⟨hc, ?_⟩
        rw [ho, Option.any_some, Bool.not_eq_true']
        exact Bool.eq_false_iff.mpr (fun h => hp (Outcome.isPassed_iff.mp h))
      obtain ⟨cause, detail, hi⟩ := hi c hmiss
      rw [ho] at hi
      exact ⟨o, ho, .inr ⟨cause, detail, Option.some.inj hi⟩⟩
  · intro h
    constructor
    · apply (Verdict.unrunEssentials_eq_nil_iff v).mpr
      intro c hc
      obtain ⟨o, ho, -⟩ := h c hc
      rw [ho]
      rfl
    · intro c hm
      obtain ⟨hc, hn⟩ := List.mem_filter.mp hm
      obtain ⟨o, ho, hu⟩ := h c hc
      rw [ho] at hn ⊢
      rcases hu with rfl | ⟨cause, detail, rfl⟩
      · cases hn
      · exact ⟨cause, detail, rfl⟩

/-- A verdict's refusal is one of the two kinds. -/
theorem kind_guaranteeViolated_iff {v : Verdict} :
    (Refusal.notTrustworthy v).kind = .guaranteeViolated ↔
      (Refusal.notTrustworthy v).kind ≠ .couldNotEstablish := by
  unfold Refusal.kind
  dsimp only
  split
  · simp
  · simp

/-! ## Verdicts built by any calls of `record` -/

/-- The first record of a check that did not pass. -/
def firstNonPass (v : Verdict) (c : Check) : Option Outcome :=
  (Ledger.resultsFor c v.results).find? fun o => !o.isPassed

/-- The outcome of a check is its first record that did not pass, if there is one. -/
theorem outcome_of_firstNonPass {v : Verdict} {c : Check} {o : Outcome}
    (h : firstNonPass v c = some o) : v.outcome c = some o := by
  rw [Verdict.outcome, Ledger.scan_eq]
  show (firstNonPass v c).or _ = some o
  rw [h, Option.some_or]

theorem firstNonPass_of_outcome {v : Verdict} {c : Check} {o : Outcome}
    (h : v.outcome c = some o) (hp : o ≠ .passed) : firstNonPass v c = some o := by
  cases hf : firstNonPass v c with
  | some o' => exact (outcome_of_firstNonPass hf).symm.trans h
  | none =>
    have ho : (v.outcome c).any Outcome.isPassed = true := by
      apply outcome_passed_iff.mpr
      constructor
      · by_contra hn
        have hnone : v.outcome c = none := outcome_eq_none_iff.mpr fun o' ho => hn ⟨o', ho⟩
        rw [h] at hnone
        cases hnone
      · intro o' ho
        have hpass := List.find?_eq_none.mp hf o' (Ledger.mem_resultsFor.mpr ho)
        simpa using hpass
    rw [h, Option.any_some] at ho
    exact absurd (Outcome.isPassed_iff.mp ho) hp

/-- A check with a record that did not pass has a first one. -/
theorem exists_firstNonPass {v : Verdict} {c : Check} {o : Outcome} (hm : (c, o) ∈ v.results)
    (hp : o ≠ .passed) : ∃ o', firstNonPass v c = some o' := by
  cases hf : firstNonPass v c with
  | some o' => exact ⟨o', rfl⟩
  | none =>
    have h := List.find?_eq_none.mp hf o (Ledger.mem_resultsFor.mpr hm)
    simp only [Bool.not_eq_true', Bool.not_eq_false] at h
    exact absurd (Outcome.isPassed_iff.mp h) hp

/-- Where no check is recorded twice, every record that did not pass is the first. -/
theorem firstNonPass_of_nodup {v : Verdict} {c : Check} {o : Outcome}
    (hn : (v.results.map Prod.fst).Nodup) (hm : (c, o) ∈ v.results) (hp : o ≠ .passed) :
    firstNonPass v c = some o :=
  firstNonPass_of_outcome (Ledger.scan_of_mem _ hn hm) hp

theorem kind_guaranteeViolated_iff_records {v : Verdict} :
    (Refusal.notTrustworthy v).kind = .guaranteeViolated ↔
      ∃ c ∈ Check.essential, (∀ o, (c, o) ∉ v.results) ∨
        (∃ why, firstNonPass v c = some (.failed why)) ∨
        ∃ why, firstNonPass v c = some (.skipped why) := by
  rw [kind_guaranteeViolated_iff, ne_eq, kind_couldNotEstablish_iff]
  constructor
  · intro h
    rw [not_forall] at h
    obtain ⟨c, h⟩ := h
    rw [Classical.not_imp] at h
    obtain ⟨hc, h⟩ := h
    refine ⟨c, hc, ?_⟩
    cases ho : v.outcome c with
    | none => exact .inl (outcome_eq_none_iff.mp ho)
    | some o =>
      have hu : ¬ Unrefused o := fun hu => h ⟨o, ho, hu⟩
      rcases not_unrefused_iff.mp hu with ⟨why, rfl⟩ | ⟨why, rfl⟩
      · exact .inr (.inl ⟨why, firstNonPass_of_outcome ho (by simp)⟩)
      · exact .inr (.inr ⟨why, firstNonPass_of_outcome ho (by simp)⟩)
  · intro h hall
    obtain ⟨c, hc, hr⟩ := h
    obtain ⟨o, ho, hu⟩ := hall c hc
    rcases hr with hn | ⟨why, hf⟩ | ⟨why, hf⟩
    · rw [outcome_eq_none_iff.mpr hn] at ho
      cases ho
    · rw [outcome_of_firstNonPass hf] at ho
      exact not_unrefused_iff.mpr (.inl ⟨why, (Option.some.inj ho).symm⟩) hu
    · rw [outcome_of_firstNonPass hf] at ho
      exact not_unrefused_iff.mpr (.inr ⟨why, (Option.some.inj ho).symm⟩) hu

/-- The advice about a failed check is read off its first record that did not pass. -/
theorem disposition_failed_iff {v : Verdict} {c : Check} {why : String}
    (h : (c, why) ∈ v.failures) :
    v.disposition c = some .refuse ↔
      (∃ first, firstNonPass v c = some (.failed first)) ∨
        (∃ first, firstNonPass v c = some (.skipped first)) ∧ c ∈ Check.essential := by
  obtain ⟨o, hf⟩ := exists_firstNonPass (Verdict.mem_failures_iff.mp h) (by simp)
  rw [Verdict.disposition, outcome_of_firstNonPass hf, Option.map_some, Option.some.injEq,
    disposition_refuse_iff, hf]
  simp only [Option.some.injEq]

/-- The two readings of a verdict, and where they agree with all of its records. -/
theorem built_triage (records : List (Check × Outcome)) :
    let v := built records
    ((Refusal.notTrustworthy v).kind = .guaranteeViolated ↔
      ∃ c ∈ Check.essential, (∀ o, (c, o) ∉ records) ∨
        (∃ why, firstNonPass v c = some (.failed why)) ∨
        ∃ why, firstNonPass v c = some (.skipped why)) ∧
    (∀ c why, (c, why) ∈ v.failures → (v.disposition c = some .refuse ↔
      (∃ first, firstNonPass v c = some (.failed first)) ∨
        (∃ first, firstNonPass v c = some (.skipped first)) ∧ c ∈ Check.essential)) ∧
    ((records.map Prod.fst).Nodup →
      (∀ c ∈ Check.essential, ((∀ o, (c, o) ∉ records) ∨ (∃ why, (c, .failed why) ∈ records) ∨
        ∃ why, (c, .skipped why) ∈ records) →
        (Refusal.notTrustworthy v).kind = .guaranteeViolated) ∧
      ∀ c why, (c, why) ∈ v.failures → v.disposition c = some .refuse) := by
  intro v
  have hv : v.results = records := built_results records
  refine ⟨?_, fun c why h => disposition_failed_iff h, ?_⟩
  · rw [kind_guaranteeViolated_iff_records, hv]
  · intro hn
    rw [← hv] at hn
    constructor
    · intro c hc h
      apply kind_guaranteeViolated_iff_records.mpr
      rw [← hv] at h
      refine ⟨c, hc, ?_⟩
      rcases h with h | ⟨why, h⟩ | ⟨why, h⟩
      · exact .inl h
      · exact .inr (.inl ⟨why, firstNonPass_of_nodup hn h (by simp)⟩)
      · exact .inr (.inr ⟨why, firstNonPass_of_nodup hn h (by simp)⟩)
    · intro c why h
      apply (disposition_failed_iff h).mpr
      exact .inl ⟨why, firstNonPass_of_nodup hn (Verdict.mem_failures_iff.mp h) (by simp)⟩

/-! ## The two readings against all the records -/

/-- `o` is recorded for `c` behind nothing but passes of it, and `later` behind that. -/
def Leads (records : List (Check × Outcome)) (c : Check) (o : Outcome)
    (later : List (Check × Outcome)) : Prop :=
  o ≠ .passed ∧ ∃ earlier, records = earlier ++ (c, o) :: later ∧
    ∀ p, (c, p) ∈ earlier → p = .passed

/-- The check is refused by a record with nothing but passes of it before. -/
def RefusedFirst (records : List (Check × Outcome)) (c : Check) : Prop :=
  (∃ why later, Leads records c (.failed why) later) ∨
    ∃ why later, Leads records c (.skipped why) later

/-- The records leave the check open, and refuse it only behind that. -/
def RefusedLate (records : List (Check × Outcome)) (c : Check) : Prop :=
  ∃ cause detail later, Leads records c (.indeterminate cause detail) later ∧
    ((∃ why, (c, .failed why) ∈ later) ∨ ∃ why, (c, .skipped why) ∈ later)

/-- A failure of the check stands behind a record with another advice: an open one, or a
skipped one of a check that is not essential. -/
def FailureHidden (records : List (Check × Outcome)) (c : Check) : Prop :=
  ∃ o later why, Leads records c o later ∧ (c, .failed why) ∈ later ∧
    ((∃ cause detail, o = .indeterminate cause detail) ∨
      (∃ reason, o = .skipped reason) ∧ c ∉ Check.essential)

theorem firstNonPass_iff_leads {v : Verdict} {c : Check} {o : Outcome} :
    firstNonPass v c = some o ↔ ∃ later, Leads v.results c o later := by
  unfold firstNonPass Leads
  rw [Ledger.find?_resultsFor_eq_some_iff, exists_and_left]
  simp only [Outcome.isPassed_iff, ← Bool.not_eq_true, ne_eq]
  rw [exists_comm]

/-- A record that did not pass leads its check or stands behind the one that does. -/
theorem Leads.mem_later {records later : List (Check × Outcome)} {c : Check} {o p : Outcome}
    (h : Leads records c o later) (hm : (c, p) ∈ records) (hp : p ≠ .passed) :
    p = o ∨ (c, p) ∈ later := by
  obtain ⟨-, earlier, rfl, hpass⟩ := h
  rcases List.mem_append.mp hm with hm | hm
  · exact absurd (hpass p hm) hp
  · rcases List.mem_cons.mp hm with he | hm
    · exact .inl (Prod.mk.inj he).2
    · exact .inr hm

theorem Leads.mem_of_later {records later : List (Check × Outcome)} {c : Check} {o p : Outcome}
    (h : Leads records c o later) (hm : (c, p) ∈ later) : (c, p) ∈ records := by
  obtain ⟨-, earlier, rfl, -⟩ := h
  exact List.mem_append_right _ (List.mem_cons_of_mem _ hm)

/-- A refused check is refused at once or behind an open record. -/
theorem refusedFirst_or_late {v : Verdict} {c : Check} (h : (∃ why, (c, .failed why) ∈ v.results) ∨
    ∃ why, (c, .skipped why) ∈ v.results) :
    RefusedFirst v.results c ∨ RefusedLate v.results c := by
  have hsome : ∃ p, (c, p) ∈ v.results ∧ p ≠ .passed ∧
      ((∃ why, p = .failed why) ∨ ∃ why, p = .skipped why) := by
    rcases h with ⟨why, hm⟩ | ⟨why, hm⟩
    · exact ⟨_, hm, by simp, .inl ⟨why, rfl⟩⟩
    · exact ⟨_, hm, by simp, .inr ⟨why, rfl⟩⟩
  obtain ⟨p, hm, hp, hkind⟩ := hsome
  obtain ⟨o, hf⟩ := exists_firstNonPass hm hp
  obtain ⟨later, hl⟩ := firstNonPass_iff_leads.mp hf
  cases o with
  | passed => exact absurd rfl hl.1
  | failed why => exact .inl (.inl ⟨why, later, hl⟩)
  | skipped why => exact .inl (.inr ⟨why, later, hl⟩)
  | indeterminate cause detail =>
    right
    refine ⟨cause, detail, later, hl, ?_⟩
    have hlate : (c, p) ∈ later := by
      rcases hl.mem_later hm hp with rfl | hlate
      · simp at hkind
      · exact hlate
    rcases hkind with ⟨why, rfl⟩ | ⟨why, rfl⟩
    · exact .inl ⟨why, hlate⟩
    · exact .inr ⟨why, hlate⟩

theorem kind_guaranteeViolated_iff_leads {v : Verdict} :
    (Refusal.notTrustworthy v).kind = .guaranteeViolated ↔
      ∃ c ∈ Check.essential, (∀ o, (c, o) ∉ v.results) ∨ RefusedFirst v.results c := by
  rw [kind_guaranteeViolated_iff_records]
  simp only [firstNonPass_iff_leads, RefusedFirst]

theorem disposition_failed_iff_not_hidden {v : Verdict} {c : Check} {why : String}
    (h : (c, why) ∈ v.failures) :
    v.disposition c = some .refuse ↔ ¬ FailureHidden v.results c := by
  rw [disposition_failed_iff h]
  have hm := Verdict.mem_failures_iff.mp h
  obtain ⟨first, hf⟩ := exists_firstNonPass hm (by simp)
  obtain ⟨later, hl⟩ := firstNonPass_iff_leads.mp hf
  constructor
  · intro hfirst hhidden
    obtain ⟨o, _, _, hlead, -, ho⟩ := hhidden
    have hof : firstNonPass v c = some o := firstNonPass_iff_leads.mpr ⟨_, hlead⟩
    rw [hof] at hfirst
    rcases ho with ⟨cause, detail, rfl⟩ | ⟨⟨reason, rfl⟩, hc⟩
    · simp at hfirst
    · simp [hc] at hfirst
  · intro hvisible
    rw [hf]
    cases first with
    | passed => exact absurd rfl hl.1
    | failed first => exact .inl ⟨first, rfl⟩
    | skipped reason =>
      right
      refine ⟨⟨reason, rfl⟩, ?_⟩
      by_contra hc
      have hlate := (hl.mem_later hm (by simp)).resolve_left (by simp)
      exact hvisible ⟨_, later, why, hl, hlate, .inr ⟨⟨reason, rfl⟩, hc⟩⟩
    | indeterminate cause detail =>
      have hlate := (hl.mem_later hm (by simp)).resolve_left (by simp)
      exact absurd ⟨_, later, why, hl, hlate, .inl ⟨cause, detail, rfl⟩⟩ hvisible

/-- Every refusal among the records is triaged as one, and every failure with the advice to
refuse, exactly when no refusal of an essential check comes too late for that, unless another
essential check was missing or refused at once, and no failure is hidden. -/
theorem built_triage_iff (records : List (Check × Outcome)) :
    ((∀ c ∈ Check.essential, ((∀ o, (c, o) ∉ records) ∨ (∃ why, (c, .failed why) ∈ records) ∨
        ∃ why, (c, .skipped why) ∈ records) →
        (Refusal.notTrustworthy (built records)).kind = .guaranteeViolated) ∧
      ∀ c why, (c, why) ∈ (built records).failures →
        (built records).disposition c = some .refuse) ↔
    (∀ c ∈ Check.essential, RefusedLate records c →
      ∃ d ∈ Check.essential, (∀ o, (d, o) ∉ records) ∨ RefusedFirst records d) ∧
    ∀ c, ¬ FailureHidden records c := by
  have hv : (built records).results = records := built_results records
  rw [kind_guaranteeViolated_iff_leads, hv]
  constructor
  · intro h
    refine ⟨fun c hc hlate => ?_, fun c hhidden => ?_⟩
    · obtain ⟨_, _, later, hl, hr⟩ := hlate
      apply h.1 c hc
      rcases hr with ⟨why, hm⟩ | ⟨why, hm⟩
      · exact .inr (.inl ⟨why, hl.mem_of_later hm⟩)
      · exact .inr (.inr ⟨why, hl.mem_of_later hm⟩)
    · obtain ⟨o, later, why, hl, hm, ho⟩ := hhidden
      have hf : (c, why) ∈ (built records).failures := by
        apply Verdict.mem_failures_iff.mpr
        rw [hv]
        exact hl.mem_of_later hm
      have hvisible := (disposition_failed_iff_not_hidden hf).mp (h.2 c why hf)
      rw [hv] at hvisible
      exact hvisible ⟨o, later, why, hl, hm, ho⟩
  · intro h
    constructor
    · intro c hc hr
      rcases hr with hn | hr
      · exact ⟨c, hc, .inl hn⟩
      · have hfirst := refusedFirst_or_late (v := built records) (c := c)
        rw [hv] at hfirst
        rcases hfirst hr with hfirst | hlate
        · exact ⟨c, hc, .inr hfirst⟩
        · exact h.1 c hc hlate
    · intro c why hf
      apply (disposition_failed_iff_not_hidden hf).mpr
      rw [hv]
      exact h.2 c

/-- Every essential check passes, and one of them is also left open and then refused. -/
def reopened : List (Check × Outcome) :=
  Check.essential.map (fun c => (c, .passed)) ++
    [(.mrConfigId, .unestablished .verifierCannotJudge "a construction this build does not know"),
      (.mrConfigId, .failed "a different configuration")]

/-- A refusal recorded behind an open question is triaged as the open question. -/
theorem reopened_triaged :
    (.mrConfigId, .failed "a different configuration") ∈ reopened ∧
    (Refusal.notTrustworthy (built reopened)).kind = .couldNotEstablish ∧
    (.mrConfigId, "a different configuration") ∈ (built reopened).failures ∧
    (built reopened).disposition .mrConfigId = some .updateVerifier := by
  decide

/-! ## Verdicts of `verify` -/

/-- The one way in which `verify` leaves an essential check open and refuses nothing: the
configuration register holds a construction that this build does not judge. -/
def OnlyUnjudged (P : Platform κ) (evidence : Evidence κ) (v : Verdict) : Prop :=
  (∃ quote, Quote.parse P.usizeBits evidence.rawQuote = .ok quote ∧
    quote.mrconfigid.bytes.toList.head? = some 0x02) ∧
  ∀ c ∈ Check.essential, c ≠ .mrConfigId → v.outcome c = some .passed

section
variable {P : Platform κ} {licensed : LicensedVersion} {evidence : Evidence κ}
  {boot : Option BootReference}

theorem unrefused_iff_kind {o : Outcome} :
    Unrefused o ↔ Soundness.kind o = .passed ∨ ∃ cause, Soundness.kind o = .indeterminate cause := by
  cases o <;> simp [Unrefused, Soundness.kind]

/-- An essential judgement that refuses nothing passed, or is the open configuration. -/
theorem judgement_unrefused_iff {c : Check} (hc : c ∈ Check.essential) :
    Unrefused (judgement P licensed evidence boot c) ↔
      judgement P licensed evidence boot c = .passed ∨ c = .mrConfigId ∧
        Soundness.kind (judgement P licensed evidence boot c) =
          .indeterminate .verifierCannotJudge := by
  rw [unrefused_iff_kind, kind_passed_iff]
  constructor
  · intro h
    rcases h with h | ⟨cause, h⟩
    · exact .inl h
    · have hm := indeterminate_mem h
      simp only [List.mem_cons, List.not_mem_nil, or_false, Prod.mk.injEq] at hm
      rcases hm with ⟨rfl, rfl⟩ | ⟨rfl, -⟩
      · exact .inr ⟨rfl, h⟩
      · exact absurd hc (by decide)
  · intro h
    rcases h with h | ⟨-, h⟩
    · exact .inl h
    · exact .inr ⟨_, h⟩

theorem kind_verify_iff (ht : (verify P licensed evidence boot).isTrustworthy = false) :
    (Refusal.notTrustworthy (verify P licensed evidence boot)).kind = .couldNotEstablish ↔
      OnlyUnjudged P evidence (verify P licensed evidence boot) := by
  rw [kind_couldNotEstablish_iff]
  unfold OnlyUnjudged
  simp only [verify_outcome, Option.some.injEq, exists_eq_left']
  have hconfig : (∃ quote, Quote.parse P.usizeBits evidence.rawQuote = .ok quote ∧
      quote.mrconfigid.bytes.toList.head? = some 0x02) ↔
        Soundness.kind (judgement P licensed evidence boot .mrConfigId) =
          .indeterminate .verifierCannotJudge := mrConfigId_indeterminate_iff.symm
  rw [hconfig]
  constructor
  · intro h
    have hothers : ∀ c ∈ Check.essential, c ≠ .mrConfigId →
        judgement P licensed evidence boot c = .passed := by
      intro c hc hne
      rcases (judgement_unrefused_iff hc).mp (h c hc) with hp | ⟨he, -⟩
      · exact hp
      · exact absurd he hne
    refine ⟨?_, hothers⟩
    have hm : Check.mrConfigId ∈ Check.essential := by decide
    rcases (judgement_unrefused_iff hm).mp (h _ hm) with hp | ⟨-, hi⟩
    · apply absurd _ (Bool.eq_false_iff.mp ht)
      apply (verify_isTrustworthy P licensed evidence boot).mpr
      intro c hc
      by_cases hne : c = .mrConfigId
      · rw [hne]
        exact hp
      · exact hothers c hc hne
    · exact hi
  · intro h c hc
    apply (judgement_unrefused_iff hc).mpr
    by_cases hne : c = .mrConfigId
    · subst hne
      exact .inr ⟨rfl, h.1⟩
    · exact .inl (h.2 c hc hne)

/-- Nothing an essential check finds depends on the boot reference. -/
theorem outcome_verify_boot {c : Check} (hc : c ∈ Check.essential) (boot' : Option BootReference) :
    (verify P licensed evidence boot').outcome c = (verify P licensed evidence boot).outcome c := by
  rw [verify_outcome, verify_outcome]
  cases c with
  | bootMeasurements => exact absurd hc (by decide)
  | composeHash | imagesPinned | licensedImagePresent | quoteSignature | tcbStatus | mrConfigId
  | channelBound => rfl

theorem kind_verify_boot (boot' : Option BootReference) :
    (Refusal.notTrustworthy (verify P licensed evidence boot')).kind =
      (Refusal.notTrustworthy (verify P licensed evidence boot)).kind := by
  have hk : (Refusal.notTrustworthy (verify P licensed evidence boot')).kind =
        .couldNotEstablish ↔
      (Refusal.notTrustworthy (verify P licensed evidence boot)).kind = .couldNotEstablish := by
    rw [kind_couldNotEstablish_iff, kind_couldNotEstablish_iff]
    constructor
    · intro h c hc
      rw [← outcome_verify_boot hc boot']
      exact h c hc
    · intro h c hc
      rw [outcome_verify_boot hc boot']
      exact h c hc
  by_cases h : (Refusal.notTrustworthy (verify P licensed evidence boot)).kind =
      .couldNotEstablish
  · rw [h, hk.mpr h]
  · rw [kind_guaranteeViolated_iff.mpr h, kind_guaranteeViolated_iff.mpr (mt hk.mp h)]

/-- The refusal of a real verdict is an outage exactly when nothing but the unjudged
configuration register stands in the way, whatever the boot measurements are. -/
theorem verify_triage (ht : (verify P licensed evidence boot).isTrustworthy = false) :
    ((Refusal.notTrustworthy (verify P licensed evidence boot)).kind = .couldNotEstablish ↔
      OnlyUnjudged P evidence (verify P licensed evidence boot)) ∧
    ((Refusal.notTrustworthy (verify P licensed evidence boot)).kind = .guaranteeViolated ↔
      ¬ OnlyUnjudged P evidence (verify P licensed evidence boot)) ∧
    ∀ boot', (verify P licensed evidence boot').isTrustworthy = false ∧
      (Refusal.notTrustworthy (verify P licensed evidence boot')).kind =
        (Refusal.notTrustworthy (verify P licensed evidence boot)).kind := by
  have hk := kind_verify_iff ht
  refine ⟨hk, ?_, fun boot' => ⟨?_, kind_verify_boot boot'⟩⟩
  · rw [kind_guaranteeViolated_iff, ne_eq, hk]
  · apply Bool.eq_false_iff.mpr
    intro h
    apply Bool.eq_false_iff.mp ht
    exact trustworthy_iff_accepts.mpr (trustworthy_iff_accepts.mp h)

end

/-! ## A quote of the next construction -/

/-- The first recorded quote with the other construction in its configuration register. -/
@[irreducible] def unjudgedQuote : Bytes := firstKey.quote.set 232 0x02

def unjudgedRecording : Recording String :=
  { recording with reports := [((unjudgedQuote, "july", 1785196800), ⟨"UpToDate", []⟩)] }

def unjudgedEvidence : Evidence String := { julyEvidence with rawQuote := unjudgedQuote }

theorem unjudged_images : pinnedImages unjudgedRecording.platform recordedDocument =
    pinnedImages recording.platform recordedDocument :=
  pinnedImages_congr rfl rfl

theorem unjudged_parses : ∃ quote, Quote.parse 64 unjudgedQuote = .ok quote ∧
    quote.mrconfigid.bytes.toList.head? = some 0x02 ∧ quote.reportData = ⟨firstKey.reportData⟩ := by
  have hp : (Quote.parse 64 unjudgedQuote).toOption.map
      (fun q => (q.mrconfigid.bytes.toList.head?, q.reportData)) =
      some (some 0x02, ⟨firstKey.reportData⟩) := by
    decide +kernel
  obtain ⟨quote, hq, he⟩ := ok_of_toOption_map hp
  obtain ⟨hc, hr⟩ := Prod.mk.inj he
  exact ⟨quote, hq, hc, hr⟩

theorem unjudged_config {boot : Option BootReference} :
    Soundness.kind (judgement unjudgedRecording.platform probeLicence unjudgedEvidence boot
      .mrConfigId) = .indeterminate .verifierCannotJudge := by
  apply mrConfigId_indeterminate_iff.mpr
  obtain ⟨quote, hq, hc, -⟩ := unjudged_parses
  exact ⟨quote, hq, hc⟩

/-- Everything else about the recorded evidence is in order. -/
theorem unjudged_others {boot : Option BootReference} {c : Check} (hc : c ∈ Check.essential)
    (hne : c ≠ .mrConfigId) :
    judgement unjudgedRecording.platform probeLicence unjudgedEvidence boot c = .passed := by
  have hd : ComposeHash.of unjudgedRecording.platform recordedDocument = recordedHash :=
    recorded_hash
  have hi : ∃ images, pinnedImages unjudgedRecording.platform recordedDocument = .ok images ∧
      images.map ImageRef.digest = [probeDigest, sidecarDigest] := by
    rw [unjudged_images]
    exact recorded_images
  have htcb : judgement unjudgedRecording.platform probeLicence unjudgedEvidence boot .tcbStatus =
      .passed := by
    apply tcbStatus_passed_iff.mpr
    exact ⟨⟨"UpToDate", []⟩, Recording.answer_cons_self _ _ _, by decide⟩
  cases c with
  | composeHash => exact composeHash_passed_iff.mpr hd
  | imagesPinned =>
    obtain ⟨images, hi, -⟩ := hi
    exact imagesPinned_passed_iff.mpr ⟨hd, images, hi⟩
  | licensedImagePresent =>
    obtain ⟨images, hi, hm⟩ := hi
    have hp : probeDigest ∈ images.map ImageRef.digest := by
      rw [hm]
      exact List.mem_cons_self
    exact licensedImagePresent_passed_iff.mpr ⟨hd, images, hi, List.mem_map.mp hp⟩
  | quoteSignature => exact quoteSignature_passed_of_tcbStatus htcb
  | tcbStatus => exact htcb
  | mrConfigId => exact absurd rfl hne
  | bootMeasurements => exact absurd hc (by decide)
  | channelBound =>
    obtain ⟨quote, hq, -, hr⟩ := unjudged_parses
    have hz : (ReportData.mk firstKey.reportData).isZero = false := by decide +kernel
    have hk : commitmentOver unjudgedRecording.platform firstKey.spkiDer = ⟨firstKey.reportData⟩ := by
      decide +kernel
    have hs : (spkiDerOf unjudgedRecording.platform firstKey.leaf).toOption =
        some firstKey.spkiDer := by
      decide +kernel
    apply channelBound_judgement_passed_iff.mpr
    refine ⟨quote, firstKey.spkiDer, hq, ?_, ?_, firstKey.leaf, rfl, ok_of_toOption hs⟩
    · rw [hr]
      exact hz
    · rw [hr, hk]

theorem unjudged_not_trustworthy (boot : Option BootReference) :
    (verify unjudgedRecording.platform probeLicence unjudgedEvidence boot).isTrustworthy =
      false := by
  apply Bool.eq_false_iff.mpr
  intro h
  have hp := (verify_isTrustworthy _ _ _ _).mp h .mrConfigId (by decide)
  have hk := @unjudged_config boot
  rw [hp] at hk
  cases hk

theorem verify_triage_unjudged :
    (Refusal.notTrustworthy (verify unjudgedRecording.platform probeLicence unjudgedEvidence
      none)).kind = .couldNotEstablish := by
  apply (verify_triage (unjudged_not_trustworthy none)).1.mpr
  constructor
  · obtain ⟨quote, hq, hc, -⟩ := unjudged_parses
    exact ⟨quote, hq, hc⟩
  · intro c hc hne
    rw [verify_outcome, unjudged_others hc hne]

end VerityVerifier.Connect
