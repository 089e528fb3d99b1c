import VerityVerifier.Core.Images
import VerityVerifier.Core.Report

/-!
# What a detail can write into the transcript

The detail of an outcome is printed as it is. Its first line stands behind the label of its
own record; every further line stands at the start of a line, where a gate reads it as if
it were a record.
-/
namespace VerityVerifier.Soundness

open VerityVerifier.Core
open VerityVerifier.Library.Lines
open VerityVerifier.Library.Text

/-- The line reads as this check with this label. -/
def Reads (check : Check) (label : String) (line : List Char) : Prop :=
  ∃ n rest, line = ' ' :: ' ' :: check.name.toList ++
    (List.replicate (n + 1) ' ' ++ (label.toList ++ rest))

theorem name_plain (check : Check) : ∀ c ∈ check.name.toList, c ≠ ' ' ∧ c ≠ '\n' := by
  have h : (check.name.toList.all fun c => c != ' ' && c != '\n') = true := by
    cases check <;> decide
  intro c hc
  simpa using List.all_eq_true.mp h c hc

theorem name_injective {check other : Check} (h : check.name.toList = other.name.toList) :
    check = other := by
  cases check <;> cases other <;> first | rfl | exact absurd h (by decide)

theorem label_mem (outcome : Outcome) : outcome.label ∈ labels := by
  cases outcome <;> simp [labels, Outcome.label]

/-- A label starts with a character that no other label starts with. -/
theorem label_head {label other : String} (hl : label ∈ labels) (ho : other ∈ labels) {c : Char}
    (h : label.toList.head? = some c) (h' : other.toList.head? = some c) : label = other := by
  simp only [labels, List.mem_cons, List.not_mem_nil, or_false] at hl ho
  rw [← h'] at h
  rcases hl with rfl | rfl | rfl | rfl <;> rcases ho with rfl | rfl | rfl | rfl <;>
    first | rfl | exact absurd h (by decide)

theorem label_plain {label : String} (hl : label ∈ labels) : label.toList ≠ [] ∧
    ∀ c ∈ label.toList, c ≠ ' ' ∧ c ≠ '\n' ∧ c ≠ ')' := by
  have h : (label.toList.all fun c => c != ' ' && c != '\n' && c != ')') = true ∧
      label.toList.isEmpty = false := by
    simp only [labels, List.mem_cons, List.not_mem_nil, or_false] at hl
    rcases hl with rfl | rfl | rfl | rfl <;> decide
  constructor
  · exact List.isEmpty_eq_false_iff.mp h.2
  · intro c hc
    simpa [and_assoc] using List.all_eq_true.mp h.1 c hc

theorem head_ne_space {label : String} (hl : label ∈ labels) (rest : List Char) :
    ∀ c, (label.toList ++ rest).head? = some c → (c == ' ') = false := by
  obtain ⟨hne, hplain⟩ := label_plain hl
  obtain ⟨first, tail, ht⟩ := List.exists_cons_of_ne_nil hne
  intro c hc
  rw [ht, List.cons_append, List.head?_cons, Option.some.injEq] at hc
  have hm : c ∈ label.toList := by
    rw [ht, hc]
    exact List.mem_cons_self
  exact beq_eq_false_iff_ne.mpr (hplain c hm).1

theorem dropWhile_spaces {label : String} (hl : label ∈ labels) (n : Nat) (rest : List Char) :
    (List.replicate n ' ' ++ (label.toList ++ rest)).dropWhile (· == ' ') =
      label.toList ++ rest := by
  apply dropWhile_append_of_head
  · intro c hc
    exact beq_iff_eq.mpr (List.eq_of_mem_replicate hc)
  · exact head_ne_space hl rest

/-- The gates' pattern is what it says. -/
theorem matchesGrep_iff {check : Check} {label : String} {line : List Char} (hl : label ∈ labels) :
    matchesGrep (String.ofList line) check.name label = true ↔ Reads check label line := by
  constructor
  · intro h
    unfold matchesGrep at h
    split at h
    · cases h
    · rename_i rest hrest
      split at h
      · cases h
      · rename_i padded hpadded
        obtain ⟨hspaces, hprefix⟩ := Bool.and_eq_true_iff.mp h
        have hspaces := of_decide_eq_true hspaces
        obtain ⟨tail, ht⟩ := List.isPrefixOf_iff_prefix.mp hprefix
        have hpad := replicate_append_dropWhile padded.toList ' '
        have hn : padded.toList.length - (padded.toList.dropWhile (· == ' ')).length - 1 + 1 =
            padded.toList.length - (padded.toList.dropWhile (· == ' ')).length := by omega
        refine ⟨padded.toList.length - (padded.toList.dropWhile (· == ' ')).length - 1, tail, ?_⟩
        rw [hn, ht, hpad]
        have hline := stripPrefix_eq_some_iff.mp hrest
        rw [String.toList_ofList, stripPrefix_eq_some_iff.mp hpadded] at hline
        exact hline
  · intro h
    obtain ⟨n, tail, rfl⟩ := h
    have hrest : stripPrefix "  " (String.ofList (' ' :: ' ' :: check.name.toList ++
        (List.replicate (n + 1) ' ' ++ (label.toList ++ tail)))) =
        some (String.ofList (check.name.toList ++
          (List.replicate (n + 1) ' ' ++ (label.toList ++ tail)))) := by
      apply stripPrefix_eq_some_iff.mpr
      simp only [String.toList_ofList]
      rfl
    have hpadded : stripPrefix check.name (String.ofList (check.name.toList ++
        (List.replicate (n + 1) ' ' ++ (label.toList ++ tail)))) =
        some (String.ofList (List.replicate (n + 1) ' ' ++ (label.toList ++ tail))) := by
      apply stripPrefix_eq_some_iff.mpr
      rw [String.toList_ofList, String.toList_ofList]
    unfold matchesGrep
    simp only [hrest, hpadded, String.toList_ofList, dropWhile_spaces hl, Bool.and_eq_true,
      decide_eq_true_eq]
    constructor
    · rw [List.length_append, List.length_replicate]
      omega
    · exact List.isPrefixOf_iff_prefix.mpr (List.prefix_append _ _)

/-- A closing bracket after the line is not read. -/
theorem reads_concat_iff {check : Check} {label : String} (hl : label ∈ labels) (line : List Char) :
    Reads check label (line ++ [')']) ↔ Reads check label line := by
  constructor
  · intro h
    obtain ⟨n, rest, hr⟩ := h
    rcases List.eq_nil_or_concat rest with rfl | ⟨front, c, rfl⟩
    · obtain ⟨hne, hplain⟩ := label_plain hl
      have hlast : label.toList.getLast? = some ')' := by
        have hg := congrArg List.getLast? hr
        rw [List.getLast?_concat, List.append_nil, List.getLast?_append, List.getLast?_append] at hg
        obtain ⟨c, hc⟩ := List.getLast?_isSome.mpr hne |> Option.isSome_iff_exists.mp
        rw [hc] at hg ⊢
        exact hg.symm
      exact absurd rfl (hplain ')' (List.mem_of_getLast? hlast)).2.2
    · refine ⟨n, front, ?_⟩
      have hr : line ++ [')'] = (' ' :: ' ' :: check.name.toList ++
          (List.replicate (n + 1) ' ' ++ (label.toList ++ front))) ++ [c] := by
        rw [hr]
        simp
      exact (List.append_inj' hr rfl).1
  · intro h
    obtain ⟨n, rest, rfl⟩ := h
    refine ⟨n, rest ++ [')'], ?_⟩
    simp

/-- A line that starts as an entry does reads as that entry only. -/
theorem reads_entry_iff (check other : Check) {label held : String} (hl : label ∈ labels)
    (hh : held ∈ labels) (n : Nat) (rest : List Char) :
    Reads check label (' ' :: ' ' :: other.name.toList ++
      (List.replicate (n + 1) ' ' ++ (held.toList ++ rest))) ↔ check = other ∧ label = held := by
  constructor
  · intro h
    obtain ⟨m, tail, hr⟩ := h
    have hr : other.name.toList ++ (List.replicate (n + 1) ' ' ++ (held.toList ++ rest)) =
        check.name.toList ++ (List.replicate (m + 1) ' ' ++ (label.toList ++ tail)) :=
      (List.cons.inj (List.cons.inj hr).2).2
    have hname : ∀ (c : Check) (k : Nat) (more : List Char),
        (c.name.toList ++ (List.replicate (k + 1) ' ' ++ more)).takeWhile (· != ' ') =
          c.name.toList := by
      intro c k more
      apply takeWhile_append_of_head
      · intro x hx
        exact bne_iff_ne.mpr (name_plain c x hx).1
      · intro x hx
        obtain rfl : ' ' = x := Option.some.inj hx
        rfl
    have hsame : other = check := by
      apply name_injective
      rw [← hname other n (held.toList ++ rest), hr, hname]
    subst hsame
    have hlabels : held.toList ++ rest = label.toList ++ tail := by
      rw [← dropWhile_spaces hh (n + 1), List.append_cancel_left hr, dropWhile_spaces hl]
    obtain ⟨x, xs, hx⟩ := List.exists_cons_of_ne_nil (label_plain hl).1
    obtain ⟨y, ys, hy⟩ := List.exists_cons_of_ne_nil (label_plain hh).1
    rw [hx, hy] at hlabels
    obtain rfl : y = x := (List.cons.inj hlabels).1
    refine ⟨rfl, label_head hl hh (c := y) ?_ ?_⟩
    · rw [hx]
      rfl
    · rw [hy]
      rfl
  · intro h
    obtain ⟨rfl, rfl⟩ := h
    exact ⟨n, rest, rfl⟩

/-- A line of the report that the detail of an outcome starts. -/
def Continues (outcome : Outcome) (line : List Char) : Prop :=
  ∃ why, outcome.detail? = some why ∧ line ∈ continuation why.toList

/-- What an entry is made of: the name in its column, the label, and the detail in brackets. -/
theorem transcriptLine_toList (check : Check) (outcome : Outcome) :
    (transcriptLine check outcome).toList = ' ' :: ' ' :: check.name.toList ++
      (List.replicate (22 - check.name.length + 1) ' ' ++ (outcome.label.toList ++
        outcome.detail?.elim [] fun why => ' ' :: '(' :: (why.toList ++ [')']))) := by
  have hspace : ∀ (k : Nat) (l : List Char),
      List.replicate k ' ' ++ ' ' :: l = List.replicate (k + 1) ' ' ++ l := by
    intro k l
    rw [List.replicate_succ', List.append_assoc]
    rfl
  cases outcome <;>
    simp [transcriptLine, padRight, Outcome.detail?, Outcome.label, hspace]

theorem opening_plain (check : Check) {label : String} (hl : label ∈ labels) (n : Nat) :
    '\n' ∉ ' ' :: ' ' :: check.name.toList ++ (List.replicate n ' ' ++ label.toList) := by
  intro hm
  rcases List.mem_append.mp hm with hm | hm
  · rcases List.mem_cons.mp hm with hm | hm
    · exact absurd hm (by decide)
    · rcases List.mem_cons.mp hm with hm | hm
      · exact absurd hm (by decide)
      · exact (name_plain check _ hm).2 rfl
  · rcases List.mem_append.mp hm with hm | hm
    · exact absurd (List.eq_of_mem_replicate hm) (by decide)
    · exact ((label_plain hl).2 _ hm).2.1 rfl

/-- What a gate can find in one entry: the record itself, or a line of its detail. -/
theorem entry_reads_iff {check other : Check} {label : String} (hl : label ∈ labels)
    (outcome : Outcome) :
    (∃ line ∈ lines (transcriptLine other outcome).toList, Reads check label line) ↔
      (check = other ∧ label = outcome.label) ∨
        ∃ line, Continues outcome line ∧ Reads check label line := by
  have hh := label_mem outcome
  have hopen := opening_plain other hh (22 - other.name.length + 1)
  rw [transcriptLine_toList]
  cases hd : outcome.detail? with
  | none =>
    have hc : ¬ ∃ line, Continues outcome line ∧ Reads check label line := by
      intro h
      obtain ⟨line, ⟨why, hwhy, -⟩, -⟩ := h
      rw [hd] at hwhy
      cases hwhy
    rw [Option.elim_none, List.append_nil, lines_of_not_mem hopen, or_iff_left hc]
    have he := reads_entry_iff check other hl hh (22 - other.name.length) []
    rw [List.append_nil] at he
    simp only [List.mem_singleton, exists_eq_left, he]
  | some why =>
    have hfront : '\n' ∉ ' ' :: ' ' :: other.name.toList ++
        (List.replicate (22 - other.name.length + 1) ' ' ++ outcome.label.toList) ++ [' ', '('] := by
      intro hm
      rcases List.mem_append.mp hm with hm | hm
      · exact hopen hm
      · exact absurd hm (by decide)
    obtain ⟨first, hlines⟩ := lines_append_of_not_mem hfront (why.toList ++ [')'])
    have hentry := reads_entry_iff check other hl hh
      (22 - other.name.length) (' ' :: '(' :: first)
    have hcont : (∃ line, Continues outcome line ∧ Reads check label line) ↔
        ∃ line ∈ continuation why.toList, Reads check label line := by
      unfold Continues
      simp only [hd, Option.some.injEq, exists_eq_left']
    rw [hcont, ← exists_continuation_concat (by decide) (reads_concat_iff hl), ← hentry]
    simp only [List.append_assoc, List.cons_append, List.nil_append] at hlines ⊢
    rw [Option.elim_some, hlines]
    simp only [List.mem_cons, exists_eq_or_imp]

/-- What a gate can find in the report. -/
theorem greps_iff {v : Verdict} {check : Check} {label : String} (hl : label ∈ labels) :
    v.Greps check label ↔ ∃ r ∈ v.results, (check = r.1 ∧ label = r.2.label) ∨
      ∃ line, Continues r.2 line ∧ Reads check label line := by
  have hreport : (reportTranscript v).toList =
      (v.results.map fun r => (transcriptLine r.1 r.2).toList).flatMap (· ++ ['\n']) := by
    simp [reportTranscript, String.toList_join, List.flatMap_map]
  have hempty : ¬ Reads check label [] := by
    intro h
    obtain ⟨n, rest, h⟩ := h
    cases h
  unfold Verdict.Greps
  simp only [hreport, matchesGrep_iff hl, mem_lines_printed, ← entry_reads_iff hl]
  constructor
  · intro h
    obtain ⟨line, ⟨entry, hentry, hline⟩ | rfl, hreads⟩ := h
    · obtain ⟨r, hr, rfl⟩ := List.mem_map.mp hentry
      exact ⟨r, hr, line, hline, hreads⟩
    · exact absurd hreads hempty
  · intro h
    obtain ⟨r, hr, line, hline, hreads⟩ := h
    exact ⟨line, .inl ⟨_, List.mem_map.mpr ⟨r, hr, rfl⟩, hline⟩, hreads⟩

/-- The report says what the records say exactly when no line of a detail that a gate can
read says anything else. -/
theorem transcript_unforged_iff (v : Verdict) :
    (∀ check, ∀ label ∈ labels, v.Greps check label ↔
      ∃ o, (check, o) ∈ v.results ∧ o.label = label) ↔
    ∀ check, ∀ label ∈ labels, ∀ r ∈ v.results, ∀ line, Continues r.2 line →
      matchesGrep (String.ofList line) check.name label = true →
      ∃ o, (check, o) ∈ v.results ∧ o.label = label := by
  constructor
  · intro h check label hl r hr line hc hm
    apply (h check label hl).mp
    exact (greps_iff hl).mpr ⟨r, hr, .inr ⟨line, hc, (matchesGrep_iff hl).mp hm⟩⟩
  · intro h check label hl
    rw [greps_iff hl]
    constructor
    · intro hg
      obtain ⟨⟨c, o⟩, hr, ⟨rfl, rfl⟩ | ⟨line, hc, hreads⟩⟩ := hg
      · exact ⟨o, hr, rfl⟩
      · exact h check label hl (c, o) hr line hc ((matchesGrep_iff hl).mpr hreads)
    · intro hr
      obtain ⟨o, hr, rfl⟩ := hr
      exact ⟨(check, o), hr, .inl ⟨rfl, rfl⟩⟩

/-- With details of one line each, a gate finds the records and nothing else. -/
theorem greps_of_single_lines {v : Verdict}
    (h : ∀ r ∈ v.results, ∀ why, r.2.detail? = some why → '\n' ∉ why.toList) (check : Check)
    {label : String} (hl : label ∈ labels) :
    v.Greps check label ↔ ∃ o, (check, o) ∈ v.results ∧ o.label = label := by
  apply (transcript_unforged_iff v).mpr _ check label hl
  intro check label hl r hr line hc hm
  obtain ⟨why, hwhy, hline⟩ := hc
  unfold continuation at hline
  rw [lines_of_not_mem (h r hr why hwhy)] at hline
  cases hline

/-- A service whose name writes a record of its own. -/
def forged : Verdict :=
  let error : ImageError := .noImage "web\n  mr_config_id passed"
  (Verdict.new.record .imagesPinned (.failed (toString error))).record .mrConfigId
    (.failed "the quote was not issued for this document")

/-- A gate finds the check passed that the verdict records as failed. -/
theorem forged_passes : ¬ (forged.Greps .mrConfigId "passed" ↔
    ∃ o, (Check.mrConfigId, o) ∈ forged.results ∧ o.label = "passed") := by
  intro h
  have hline : "  mr_config_id passed` has no image reference)".toList ∈
      lines (reportTranscript forged).toList := by decide +kernel
  have hg : forged.Greps .mrConfigId "passed" := ⟨_, hline, by decide +kernel⟩
  obtain ⟨o, ho, hl⟩ := h.mp hg
  have ho : o = .failed "the quote was not issued for this document" := by
    simpa [forged, Verdict.record, Verdict.new] using ho
  rw [ho] at hl
  exact absurd hl (by decide)

end VerityVerifier.Soundness
