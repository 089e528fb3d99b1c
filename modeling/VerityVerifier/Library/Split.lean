import VerityVerifier.Library.Text

/-!
# Splitting and trimming, exactly

What `split_once` finds is the first occurrence of its separator, `split` cuts at all of
them, and what `trim` leaves is the text between the white space at both ends.
-/
namespace VerityVerifier.Library.Text

/-! ## The first occurrence -/

/-- `s` is `a`, the separator and `b`, and the separator occurs nowhere earlier. -/
def FirstOccurrence (sep s a b : String) : Prop :=
  s = a ++ sep ++ b ∧ ∀ a' b', s = a' ++ sep ++ b' → a.length ≤ a'.length

theorem splitFirst_sound {sep l a b : List Char} (h : splitFirst sep l = some (a, b)) :
    l = a ++ sep ++ b ∧ ∀ a' b', l = a' ++ sep ++ b' → a.length ≤ a'.length := by
  induction l generalizing a with
  | nil =>
    unfold splitFirst at h
    split at h
    · rename_i he
      obtain ⟨rfl, rfl⟩ := Prod.mk.inj (Option.some.inj h)
      rw [List.isEmpty_iff.mp he]
      simp
    · cases h
  | cons x xs ih =>
    unfold splitFirst at h
    split at h
    · rename_i hp
      obtain ⟨rfl, rfl⟩ := Prod.mk.inj (Option.some.inj h)
      obtain ⟨tail, ht⟩ := List.isPrefixOf_iff_prefix.mp hp
      refine ⟨?_, fun _ _ _ => Nat.zero_le _⟩
      rw [← ht, List.drop_left]
      rfl
    · rename_i hp
      obtain ⟨⟨a₁, b₁⟩, hs, he⟩ := Option.map_eq_some_iff.mp h
      obtain ⟨rfl, rfl⟩ := Prod.mk.inj he
      obtain ⟨hx, hmin⟩ := ih hs
      refine ⟨by rw [hx]; rfl, ?_⟩
      intro a' b' hl
      cases a' with
      | nil => exact absurd (List.isPrefixOf_iff_prefix.mpr ⟨b', hl.symm⟩) hp
      | cons y ys =>
        have hy := hmin ys b' (List.cons.inj hl).2
        simp only [List.length_cons]
        omega

theorem splitFirst_none {sep l : List Char} (h : splitFirst sep l = none) (a b : List Char) :
    l ≠ a ++ sep ++ b := by
  induction l generalizing a with
  | nil =>
    intro hl
    obtain ⟨hab, -⟩ := List.append_eq_nil_iff.mp hl.symm
    obtain ⟨-, rfl⟩ := List.append_eq_nil_iff.mp hab
    simp [splitFirst] at h
  | cons x xs ih =>
    intro hl
    unfold splitFirst at h
    split at h
    · cases h
    · rename_i hp
      cases a with
      | nil => exact hp (List.isPrefixOf_iff_prefix.mpr ⟨b, hl.symm⟩)
      | cons y ys => exact ih (Option.map_eq_none_iff.mp h) ys (List.cons.inj hl).2

theorem FirstOccurrence.unique {sep s a b a' b' : String} (h : FirstOccurrence sep s a b)
    (h' : FirstOccurrence sep s a' b') : a = a' ∧ b = b' := by
  have hlen : a.length = a'.length := Nat.le_antisymm (h.2 _ _ h'.1) (h'.2 _ _ h.1)
  have he : a.toList ++ (sep.toList ++ b.toList) = a'.toList ++ (sep.toList ++ b'.toList) := by
    have hs := congrArg String.toList (h.1.symm.trans h'.1)
    simpa [String.toList_append] using hs
  obtain ⟨ha, hrest⟩ := List.append_inj he hlen
  exact ⟨String.toList_inj.mp ha, String.toList_inj.mp (List.append_cancel_left hrest)⟩

/-- `split_once` finds the first occurrence. -/
theorem splitOnce_eq_some_iff {sep s a b : String} :
    splitOnce sep s = some (a, b) ↔ FirstOccurrence sep s a b := by
  have hsound : ∀ {a b}, splitOnce sep s = some (a, b) → FirstOccurrence sep s a b := by
    intro a b h
    obtain ⟨⟨x, y⟩, hs, he⟩ := Option.map_eq_some_iff.mp h
    obtain ⟨rfl, rfl⟩ := Prod.mk.inj he
    obtain ⟨hl, hmin⟩ := splitFirst_sound hs
    refine ⟨String.toList_inj.mp (by simpa using hl), ?_⟩
    intro a' b' hs'
    have hlen := hmin a'.toList b'.toList (by rw [hs']; simp)
    rwa [← String.length_toList, String.toList_ofList, ← String.length_toList]
  constructor
  · exact hsound
  · intro h
    cases hs : splitOnce sep s with
    | none =>
      have hl := splitFirst_none (Option.map_eq_none_iff.mp hs) a.toList b.toList
      exact absurd (by rw [h.1]; simp) hl
    | some p =>
      obtain ⟨ha, hb⟩ := (hsound hs).unique h
      rw [← ha, ← hb]

theorem splitOnce_eq_none_iff {sep s : String} :
    splitOnce sep s = none ↔ ∀ a b, s ≠ a ++ sep ++ b := by
  constructor
  · intro h a b hs
    have hl := splitFirst_none (Option.map_eq_none_iff.mp h) a.toList b.toList
    exact hl (by rw [hs]; simp)
  · intro h
    cases hs : splitOnce sep s with
    | none => rfl
    | some p => exact absurd (splitOnce_eq_some_iff.mp hs).1 (h p.1 p.2)

/-! ## All the pieces -/

theorem not_mem_of_mem_splitOn {c : Char} {l piece : List Char} (h : piece ∈ l.splitOn c) :
    c ∉ piece := by
  induction l generalizing piece with
  | nil => simp_all
  | cons x xs ih =>
    rw [List.splitOn_cons_eq_if_modifyHead] at h
    by_cases hx : x = c
    · rw [if_pos (by simp [hx]), List.mem_cons] at h
      rcases h with rfl | h
      · simp
      · exact ih h
    · rw [if_neg (by simp [hx])] at h
      cases hs : xs.splitOn c with
      | nil => exact absurd hs (List.splitOn_ne_nil c xs)
      | cons first rest =>
        rw [hs, List.modifyHead_cons, List.mem_cons] at h
        rcases h with rfl | h
        · have hf := ih (hs ▸ List.mem_cons_self)
          simp [Ne.symm hx, hf]
        · exact ih (hs ▸ List.mem_cons_of_mem _ h)

/-- `split` at a character. -/
def split (c : Char) (s : String) : List String := (s.toList.splitOn c).map String.ofList

theorem split_of_not_mem {c : Char} {s : String} (h : c ∉ s.toList) : split c s = [s] := by
  rw [split, List.splitOn_eq_singleton h, List.map_singleton, String.ofList_toList]

theorem split_append {c : Char} {a : String} (b : String) (h : c ∉ a.toList) :
    split c (a ++ String.singleton c ++ b) = a :: split c b := by
  have hl : (a ++ String.singleton c ++ b).toList = a.toList ++ c :: b.toList := by
    simp
  rw [split, hl, List.splitOn_append_cons_self_of_not_mem h, List.map_cons, String.ofList_toList]
  rfl

/-- The pieces are what the separator joins to the text, none of them with the separator in it. -/
theorem split_eq_iff {c : Char} {s : String} {parts : List String} :
    split c s = parts ↔ parts ≠ [] ∧ (∀ part ∈ parts, c ∉ part.toList) ∧
      s = (String.singleton c).intercalate parts := by
  have hlist : ∀ l : List String, ((String.singleton c).intercalate l).toList =
      [c].intercalate (l.map String.toList) := by
    intro l
    rw [String.toList_intercalate, String.toList_singleton]
  constructor
  · intro h
    subst h
    refine ⟨by simp [split], ?_, ?_⟩
    · intro part hp
      obtain ⟨piece, hpiece, rfl⟩ := List.mem_map.mp hp
      rw [String.toList_ofList]
      exact not_mem_of_mem_splitOn hpiece
    · apply String.toList_inj.mp
      rw [hlist, split, List.map_map]
      simp [Function.comp_def, List.intercalate_splitOn]
  · intro h
    obtain ⟨hne, hparts, rfl⟩ := h
    rw [split, hlist, List.splitOn_intercalate]
    · simp [Function.comp_def]
    · intro l hl
      obtain ⟨part, hp, rfl⟩ := List.mem_map.mp hl
      exact hparts part hp
    · simpa using hne

/-! ## Trimming -/

/-- Neither end is white space. -/
def Trimmed (l : List Char) : Prop :=
  (∀ c, l.head? = some c → isWhitespace c = false) ∧
  ∀ c, l.getLast? = some c → isWhitespace c = false

/-- `trim` cuts white space, and nothing else, off both ends. -/
theorem trim_split (s : String) : ∃ pre post, s.toList = pre ++ (trim s).toList ++ post ∧
    pre.all isWhitespace = true ∧ post.all isWhitespace = true ∧ Trimmed (trim s).toList := by
  have hfront := List.takeWhile_append_dropWhile (p := isWhitespace) (l := s.toList)
  have hback := List.rdropWhile_append_rtakeWhile (p := isWhitespace) (l := s.toList.dropWhile isWhitespace)
  unfold trim
  rw [String.toList_ofList]
  refine ⟨s.toList.takeWhile isWhitespace,
    (s.toList.dropWhile isWhitespace).rtakeWhile isWhitespace, ?_, ?_, ?_, ?_, ?_⟩
  · rw [List.append_assoc, hback, hfront]
  · exact List.all_takeWhile
  · rw [List.all_eq_true]
    exact fun c hc => List.mem_rtakeWhile_imp hc
  · intro c hc
    obtain ⟨tail, ht⟩ := (List.rdropWhile_prefix isWhitespace (s.toList.dropWhile isWhitespace))
    have hd : (s.toList.dropWhile isWhitespace).head? = some c := by
      rw [← ht, List.head?_append, hc]
      rfl
    have hn := List.head?_dropWhile_not isWhitespace s.toList
    rw [hd] at hn
    exact hn
  · intro c hc
    obtain ⟨front, hf⟩ := List.getLast?_eq_some_iff.mp hc
    have hne : (s.toList.dropWhile isWhitespace).rdropWhile isWhitespace ≠ [] := by
      rw [hf]
      simp
    have hn := List.rdropWhile_last_not isWhitespace _ hne
    have hlast := List.getLast?_eq_some_getLast hne
    rw [hc] at hlast
    rw [← Option.some.inj hlast] at hn
    exact Bool.eq_false_iff.mpr hn

/-- White space around a trimmed text is cut off again. -/
theorem trim_surrounded {pre post t : List Char} (hpre : pre.all isWhitespace = true)
    (hpost : post.all isWhitespace = true) (ht : Trimmed t) :
    trim (String.ofList (pre ++ t ++ post)) = String.ofList t := by
  have hdrop : (pre ++ t ++ post).dropWhile isWhitespace = (t ++ post).dropWhile isWhitespace := by
    rw [List.append_assoc, List.dropWhile_append_of_pos (List.all_eq_true.mp hpre)]
  unfold trim
  rw [String.toList_ofList, hdrop]
  cases t with
  | nil =>
    have hp : post.dropWhile isWhitespace = [] :=
      List.dropWhile_eq_nil_iff.mpr (List.all_eq_true.mp hpost)
    rw [List.nil_append, hp]
    rfl
  | cons x xs =>
    have hx : isWhitespace x = false := ht.1 x rfl
    rw [List.cons_append, List.dropWhile_cons_of_neg (by simp [hx]), ← List.cons_append]
    have hr : post.rdropWhile isWhitespace = [] := by
      unfold List.rdropWhile
      rw [List.dropWhile_eq_nil_iff.mpr (by simpa using hpost)]
      rfl
    have hlast := List.getLast?_eq_some_getLast (List.cons_ne_nil x xs)
    rw [rdropWhile_append_of_last hlast (ht.2 _ hlast), hr, List.append_nil]

theorem trimmed_trim (s : String) : Trimmed (trim s).toList := by
  obtain ⟨-, -, -, -, -, h⟩ := trim_split s
  exact h

theorem trim_of_trimmed {s : String} (h : Trimmed s.toList) : trim s = s := by
  have ht : trim (String.ofList ([] ++ s.toList ++ [])) = _ := trim_surrounded rfl rfl h
  simpa using ht

@[simp]
theorem trim_trim (s : String) : trim (trim s) = trim s :=
  trim_of_trimmed (trimmed_trim s)

theorem trimmed_of_no_whitespace {l : List Char} (h : ∀ c ∈ l, isWhitespace c = false) :
    Trimmed l :=
  ⟨fun c hc => h c (List.mem_of_head? hc), fun c hc => h c (List.mem_of_getLast? hc)⟩

theorem mem_of_mem_trim {s : String} {c : Char} (h : c ∈ (trim s).toList) : c ∈ s.toList := by
  obtain ⟨pre, post, hs, -⟩ := trim_split s
  rw [hs]
  simp [h]

/-- `trim_end_matches` of a character. -/
def trimEndMatches (c : Char) (s : String) : String := String.ofList (s.toList.rdropWhile (· == c))

theorem trimEndMatches_split (c : Char) (s : String) :
    (∃ n, s.toList = (trimEndMatches c s).toList ++ List.replicate n c) ∧
      (trimEndMatches c s).toList.getLast? ≠ some c := by
  unfold trimEndMatches
  rw [String.toList_ofList]
  constructor
  · refine ⟨(s.toList.rtakeWhile (· == c)).length, ?_⟩
    have hall : ∀ x ∈ s.toList.rtakeWhile (· == c), x = c := by
      intro x hx
      have hb := List.mem_rtakeWhile_imp (p := (· == c)) hx
      exact beq_iff_eq.mp hb
    rw [← List.eq_replicate_iff.mpr ⟨rfl, hall⟩, List.rdropWhile_append_rtakeWhile]
  · intro hl
    have hne : s.toList.rdropWhile (· == c) ≠ [] := by
      intro hn
      rw [hn] at hl
      cases hl
    have hlast := List.rdropWhile_last_not _ _ hne
    rw [List.getLast?_eq_some_getLast hne] at hl
    exact hlast (beq_iff_eq.mpr (Option.some.inj hl))

end VerityVerifier.Library.Text
