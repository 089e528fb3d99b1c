import VerityVerifier.Core.Report

/-!
# The verdict as a reader sees it

The display is not the transcript that the gates read. A detail is printed as it is, so a
line feed in one starts a line of its own, and any line but the last can be such a line.
The last one is the verdict's own.
-/
namespace VerityVerifier.Core

open VerityVerifier.Library.Lines
open VerityVerifier.Library.Text

/-- `join(", ")`. -/
def commaJoin (texts : List String) : String := ", ".intercalate texts

/-- `writeln!`. -/
def writeln (text : String) : String := text ++ "\n"

/-- One record of a verdict, under a label of fourteen columns. -/
def displayLine (check : Check) (outcome : Outcome) : String :=
  match outcome with
  | .passed => "  " ++ padRight 14 "pass" ++ check.name
  | .failed why => "  " ++ padRight 14 "FAIL" ++ check.name ++ ": " ++ why
  | .skipped why => "  " ++ padRight 14 "skipped" ++ check.name ++ ": " ++ why
  | .indeterminate _ detail => "  " ++ padRight 14 "indeterminate" ++ check.name ++ ": " ++ detail

/-- The platform's line, when Intel made a statement about it. -/
def displayTcb (tcb : AttestedTcb) : String :=
  let advisories :=
    if tcb.advisoryIds.isEmpty then "" else s!" (advisories: {commaJoin tcb.advisoryIds})"
  s!"  platform TCB: {tcb.status}{advisories}"

/-- The line that says whether the verdict is trustworthy. -/
def Verdict.standing (v : Verdict) : String :=
  let missing := v.missingEssentials
  if missing.isEmpty then "  => trustworthy"
  else s!"  => NOT trustworthy (missing: {commaJoin (missing.map Check.name)})"

def Verdict.heading (v : Verdict) : String :=
  s!"verity-verifier {v.verifierVersion} (reference data {v.referenceDataDate})"

/-- The lines before it: the provenance, the platform and the records. -/
def Verdict.account (v : Verdict) : String :=
  writeln v.heading ++ v.tcb.elim "" (fun tcb => writeln (displayTcb tcb)) ++
    String.join (v.results.map fun r => writeln (displayLine r.1 r.2))

instance : ToString Verdict := ⟨fun v => v.account ++ v.standing⟩

instance : ToString TrustworthyVerdict := ⟨fun t => toString t.verdict⟩

/-! ## The last line -/

theorem name_chars (c : Check) : c.name.toList.all (fun x => x != '\n' && x != ',' && x != ')') =
    true := by
  cases c <;> decide

theorem not_mem_name {c : Check} {x : Char} (h : x = '\n' ∨ x = ',' ∨ x = ')') :
    x ∉ c.name.toList := by
  intro hm
  have hc := List.all_eq_true.mp (name_chars c) x hm
  rcases h with rfl | rfl | rfl <;> exact absurd hc (by decide)

theorem mem_commaJoin {texts : List String} {x : Char} (h : x ∈ (commaJoin texts).toList) :
    x = ',' ∨ x = ' ' ∨ ∃ t ∈ texts, x ∈ t.toList := by
  unfold commaJoin at h
  induction texts with
  | nil =>
    rw [String.intercalate_nil] at h
    cases h
  | cons t rest ih =>
    cases rest with
    | nil =>
      rw [String.intercalate_singleton] at h
      exact .inr (.inr ⟨t, List.mem_singleton_self t, h⟩)
    | cons u rest =>
      rw [String.intercalate_cons_cons, String.toList_append, String.toList_append,
        List.mem_append, List.mem_append] at h
      rcases h with (h | h) | h
      · exact .inr (.inr ⟨t, List.mem_cons_self, h⟩)
      · rcases List.mem_pair.mp h with rfl | rfl
        · exact .inl rfl
        · exact .inr (.inl rfl)
      · rcases ih h with h | h | ⟨w, hw, h⟩
        · exact .inl h
        · exact .inr (.inl h)
        · exact .inr (.inr ⟨w, List.mem_cons_of_mem t hw, h⟩)

/-- The text up to a character that it does not have is determined. -/
theorem append_cons_inj {c : Char} {a b r s : List Char} (ha : c ∉ a) (hb : c ∉ b)
    (h : a ++ c :: r = b ++ c :: s) : a = b ∧ r = s := by
  have hl : splitFirst [c] (a ++ c :: r) = some (a, r) := splitFirst_char.mpr ⟨rfl, ha⟩
  rw [h, splitFirst_char.mpr ⟨rfl, hb⟩, Option.some.injEq, Prod.mk.injEq] at hl
  exact ⟨hl.1.symm, hl.2.symm⟩

/-- A comma-separated list of names reads back. -/
theorem commaJoin_names_inj : ∀ {a b : List Check}, a ≠ [] → b ≠ [] →
    commaJoin (a.map Check.name) = commaJoin (b.map Check.name) → a.map Check.name = b.map Check.name
  | [], _, ha, _, _ => absurd rfl ha
  | _, [], _, hb, _ => absurd rfl hb
  | [c], [d], _, _, h => by
    simpa [commaJoin] using h
  | [c], d :: d' :: ds, _, _, h => by
    exfalso
    have hm : ',' ∈ c.name.toList := by
      have hc : c.name = commaJoin ((d :: d' :: ds).map Check.name) := by
        simpa [commaJoin] using h
      rw [hc]
      simp [commaJoin, String.intercalate_cons_cons]
    exact not_mem_name (.inr (.inl rfl)) hm
  | c :: c' :: cs, [d], _, _, h => by
    exfalso
    have hm : ',' ∈ d.name.toList := by
      have hd : commaJoin ((c :: c' :: cs).map Check.name) = d.name := by
        simpa [commaJoin] using h
      rw [← hd]
      simp [commaJoin, String.intercalate_cons_cons]
    exact not_mem_name (.inr (.inl rfl)) hm
  | c :: c' :: cs, d :: d' :: ds, _, _, h => by
    have hsplit : ∀ (x y : Check) (rest : List Check),
        (commaJoin ((x :: y :: rest).map Check.name)).toList =
          x.name.toList ++ ',' :: ' ' :: (commaJoin ((y :: rest).map Check.name)).toList := by
      intro x y rest
      simp only [commaJoin, List.map_cons, String.intercalate_cons_cons, String.toList_append,
        List.append_assoc]
      rfl
    have hl := congrArg String.toList h
    rw [hsplit, hsplit] at hl
    obtain ⟨hname, hrest⟩ := append_cons_inj (not_mem_name (.inr (.inl rfl)))
      (not_mem_name (.inr (.inl rfl))) hl
    have htail := String.toList_inj.mp (List.cons.inj hrest).2
    have ih := commaJoin_names_inj (List.cons_ne_nil c' cs) (List.cons_ne_nil d' ds) htail
    rw [List.map_cons, List.map_cons (l := d' :: ds), ih, String.toList_inj.mp hname]

namespace Verdict

theorem standing_of_nil {v : Verdict} (h : v.missingEssentials = []) :
    v.standing = "  => trustworthy" := by
  unfold standing
  rw [h]
  rfl

theorem standing_of_ne_nil {v : Verdict} (h : v.missingEssentials ≠ []) :
    v.standing = "  => NOT trustworthy (missing: " ++
      commaJoin (v.missingEssentials.map Check.name) ++ ")" := by
  have he : ¬ v.missingEssentials.isEmpty = true := fun hn => h (List.isEmpty_iff.mp hn)
  exact if_neg he

theorem newline_not_mem_standing (v : Verdict) : '\n' ∉ v.standing.toList := by
  by_cases h : v.missingEssentials = []
  · rw [standing_of_nil h]
    decide
  · rw [standing_of_ne_nil h, String.toList_append, String.toList_append, List.mem_append,
      List.mem_append]
    intro hm
    rcases hm with (hm | hm) | hm
    · exact absurd hm (by decide)
    · rcases mem_commaJoin hm with hc | hc | ⟨t, ht, hc⟩
      · cases hc
      · cases hc
      · obtain ⟨c, -, rfl⟩ := List.mem_map.mp ht
        exact not_mem_name (.inl rfl) hc
    · exact absurd hm (by decide)

/-- The line is that of a trustworthy verdict only when nothing is missing. -/
theorem standing_trustworthy_iff {v : Verdict} :
    v.standing = "  => trustworthy" ↔ v.missingEssentials = [] := by
  constructor
  · intro h
    by_contra hv
    rw [standing_of_ne_nil hv] at h
    have hm : ')' ∈ "  => trustworthy".toList := by
      rw [← h, String.toList_append]
      exact List.mem_append_right _ (by decide)
    exact absurd hm (by decide)
  · exact standing_of_nil

/-- The last line names what is missing, and nothing else. -/
theorem standing_inj {v w : Verdict} (h : v.standing = w.standing) :
    v.missingEssentials = w.missingEssentials := by
  by_cases hv : v.missingEssentials = []
  · rw [standing_of_nil hv] at h
    rw [hv, standing_trustworthy_iff.mp h.symm]
  · by_cases hw : w.missingEssentials = []
    · rw [standing_of_nil hw] at h
      rw [hw, standing_trustworthy_iff.mp h]
    · rw [standing_of_ne_nil hv, standing_of_ne_nil hw, String.append_left_inj,
        String.append_right_inj] at h
      have hn := commaJoin_names_inj hv hw h
      exact List.map_injective_iff.mpr (fun _ _ => Check.name_injective) hn

theorem closed_account (v : Verdict) : Closed v.account.toList := by
  have hwriteln : ∀ s : String, Closed (writeln s).toList := by
    intro s
    unfold writeln
    rw [String.toList_append]
    exact closed_writeln s.toList
  have htcb : Closed (v.tcb.elim "" fun tcb => writeln (displayTcb tcb)).toList := by
    cases v.tcb with
    | none => exact .inl rfl
    | some tcb => exact hwriteln (displayTcb tcb)
  have hrecords : (String.join (v.results.map fun r => writeln (displayLine r.1 r.2))).toList =
      v.results.flatMap fun r => (writeln (displayLine r.1 r.2)).toList := by
    simp [List.flatMap_map]
  have hline : ∀ r : Check × Outcome, Closed (writeln (displayLine r.1 r.2)).toList :=
    fun r => hwriteln (displayLine r.1 r.2)
  have hlines := closed_flatMap hline v.results
  rw [← hrecords] at hlines
  have hfront := ((hwriteln v.heading).append htcb).append hlines
  rw [← String.toList_append, ← String.toList_append] at hfront
  exact hfront

/-- Whatever the details of a verdict hold, a reader of its last line reads its trust and the
essential checks that are missing. -/
theorem toString_lastLine (v : Verdict) :
    (lines (toString v).toList).getLast? = some v.standing.toList ∧
    (v.standing = "  => trustworthy" ↔ v.isTrustworthy = true) ∧
    ∀ w : Verdict, v.standing = w.standing ↔ v.missingEssentials = w.missingEssentials := by
  refine ⟨?_, ?_, ?_⟩
  · have hlast := getLast?_lines v.closed_account v.newline_not_mem_standing
    rw [← String.toList_append] at hlast
    exact hlast
  · rw [standing_trustworthy_iff, isTrustworthy, List.isEmpty_iff]
  · intro w
    constructor
    · exact standing_inj
    · intro h
      unfold standing
      rw [h]

end Verdict

end VerityVerifier.Core
