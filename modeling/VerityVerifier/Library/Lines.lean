import Mathlib.Data.List.Basic

/-!
# Lines of a text

A text is read line by line, split at every line feed. A text that is put into a longer
one keeps its own breaks: what stands in front of it joins its first line, what follows
joins its last, and the lines between are its own.
-/
namespace VerityVerifier.Library.Lines

def lines (text : List Char) : List (List Char) := text.splitOn '\n'

/-- The lines that a line feed in the text itself starts. -/
def continuation (text : List Char) : List (List Char) := (lines text).tail

theorem lines_ne_nil (text : List Char) : lines text ≠ [] := List.splitOn_ne_nil '\n' text

theorem lines_of_not_mem {text : List Char} (h : '\n' ∉ text) : lines text = [text] :=
  List.splitOn_eq_singleton h

theorem lines_append_break (front back : List Char) :
    lines (front ++ '\n' :: back) = lines front ++ lines back :=
  List.splitOn_append_cons_self front back

/-- What stands in front joins the first line. -/
theorem lines_append_of_not_mem {front : List Char} (h : '\n' ∉ front) (text : List Char) :
    ∃ first, lines (front ++ text) = (front ++ first) :: continuation text := by
  induction front with
  | nil =>
    obtain ⟨first, rest, hl⟩ := List.exists_cons_of_ne_nil (lines_ne_nil text)
    refine ⟨first, ?_⟩
    unfold continuation
    rw [List.nil_append, hl]
    rfl
  | cons c front ih =>
    rw [List.mem_cons, not_or] at h
    obtain ⟨first, hl⟩ := ih h.2
    refine ⟨first, ?_⟩
    have hc : ¬ (c == '\n') = true := by simpa using fun hc => h.1 hc.symm
    unfold lines at hl ⊢
    rw [List.cons_append, List.splitOn_cons_eq_if_modifyHead, if_neg hc, hl]
    rfl

/-- Texts printed one after the other, each on lines of its own. -/
theorem mem_lines_printed {texts : List (List Char)} {line : List Char} :
    line ∈ lines (texts.flatMap (· ++ ['\n'])) ↔
      (∃ text ∈ texts, line ∈ lines text) ∨ line = [] := by
  induction texts with
  | nil => simp [lines]
  | cons text texts ih =>
    have hl : (text :: texts).flatMap (· ++ ['\n']) =
        text ++ '\n' :: texts.flatMap (· ++ ['\n']) := by simp
    rw [hl, lines_append_break, List.mem_append, ih]
    simp only [List.mem_cons, exists_eq_or_imp, or_assoc]

/-- A text without a line feed, or one whose last line comes after its last line feed. -/
theorem last_break (text : List Char) :
    '\n' ∉ text ∨ ∃ front last, text = front ++ '\n' :: last ∧ '\n' ∉ last := by
  by_cases h : '\n' ∈ text
  · right
    obtain ⟨back, front, hr, hb⟩ := List.eq_append_cons_of_mem (List.mem_reverse.mpr h)
    refine ⟨front.reverse, back.reverse, ?_, fun hm => hb (List.mem_reverse.mp hm)⟩
    rw [← List.reverse_inj, hr]
    simp
  · exact .inl h

/-- What follows joins the last line: to a reader that does not see it, nothing changes. -/
theorem exists_continuation_concat {reads : List Char → Prop} {c : Char} (hc : c ≠ '\n')
    (hr : ∀ line, reads (line ++ [c]) ↔ reads line) (text : List Char) :
    (∃ line ∈ continuation (text ++ [c]), reads line) ↔ ∃ line ∈ continuation text, reads line := by
  have hconcat : ∀ last : List Char, '\n' ∉ last → '\n' ∉ last ++ [c] := by
    intro last hl hm
    rcases List.mem_append.mp hm with hm | hm
    · exact hl hm
    · exact hc (List.mem_singleton.mp hm).symm
  rcases last_break text with h | ⟨front, last, rfl, h⟩
  · unfold continuation
    rw [lines_of_not_mem h, lines_of_not_mem (hconcat text h)]
    simp
  · have htail : ∀ back, '\n' ∉ back →
        continuation (front ++ '\n' :: back) = continuation front ++ [back] := by
      intro back hb
      unfold continuation
      rw [lines_append_break, lines_of_not_mem hb,
        List.tail_append_of_ne_nil (lines_ne_nil front)]
    rw [List.append_assoc, List.cons_append, htail last h, htail (last ++ [c]) (hconcat last h)]
    simp only [List.mem_append, List.mem_singleton, or_and_right, exists_or, exists_eq_left, hr]

/-! ## The line that ends a text -/

/-- Nothing, or a text whose last line is ended. -/
def Closed (text : List Char) : Prop := text = [] ∨ text.getLast? = some '\n'

theorem closed_writeln (text : List Char) : Closed (text ++ ['\n']) :=
  .inr List.getLast?_concat

theorem Closed.append {front back : List Char} (hf : Closed front) (hb : Closed back) :
    Closed (front ++ back) := by
  rcases hb with rfl | hb
  · rw [List.append_nil]
    exact hf
  · right
    rw [List.getLast?_append, hb]
    rfl

theorem closed_flatMap {α : Type} {f : α → List Char} (h : ∀ a, Closed (f a)) (l : List α) :
    Closed (l.flatMap f) := by
  induction l with
  | nil => exact .inl rfl
  | cons a rest ih =>
    rw [List.flatMap_cons]
    exact (h a).append ih

/-- The last line is what stands behind the ended ones, whatever breaks those have. -/
theorem getLast?_lines {front last : List Char} (hf : Closed front) (hl : '\n' ∉ last) :
    (lines (front ++ last)).getLast? = some last := by
  rcases hf with rfl | hf
  · rw [List.nil_append, lines_of_not_mem hl]
    rfl
  · obtain ⟨before, rfl⟩ := List.getLast?_eq_some_iff.mp hf
    rw [List.append_assoc, List.singleton_append, lines_append_break, lines_of_not_mem hl,
      List.getLast?_concat]

end VerityVerifier.Library.Lines
