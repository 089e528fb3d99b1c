import Mathlib.Data.List.DropRight
import VerityVerifier.Library.ByteString

/-!
# String functions of the Rust standard library

Each function follows its documented behaviour on the characters of a string;
`utf8` gives the bytes where the source works on those.
-/
namespace VerityVerifier.Library.Text

open VerityVerifier.Library.ByteString

/-- `as_bytes`. -/
def utf8 (s : String) : Bytes := s.toList.flatMap String.utf8EncodeChar

theorem utf8_append (s t : String) : utf8 (s ++ t) = utf8 s ++ utf8 t := by
  unfold utf8
  rw [String.toList_append, List.flatMap_append]

/-- `char::is_whitespace`: the Unicode property `White_Space`. -/
def isWhitespace (c : Char) : Bool :=
  (9 ≤ c.toNat && c.toNat ≤ 13) || c.toNat == 0x20 || c.toNat == 0x85 || c.toNat == 0xa0 ||
  c.toNat == 0x1680 || (0x2000 ≤ c.toNat && c.toNat ≤ 0x200a) || c.toNat == 0x2028 ||
  c.toNat == 0x2029 || c.toNat == 0x202f || c.toNat == 0x205f || c.toNat == 0x3000

/-- `trim`. -/
def trim (s : String) : String :=
  String.ofList ((s.toList.dropWhile isWhitespace).rdropWhile isWhitespace)

/-- `strip_prefix`. -/
def stripPrefix (pre s : String) : Option String :=
  if pre.toList.isPrefixOf s.toList then some (String.ofList (s.toList.drop pre.toList.length))
  else none

/-- Split a list at the first occurrence of `sep`. -/
def splitFirst (sep : List Char) : List Char → Option (List Char × List Char)
  | [] => if sep.isEmpty then some ([], []) else none
  | x :: xs =>
    if sep.isPrefixOf (x :: xs) then some ([], (x :: xs).drop sep.length)
    else (splitFirst sep xs).map fun p => (x :: p.1, p.2)

/-- `split_once`. -/
def splitOnce (sep s : String) : Option (String × String) :=
  (splitFirst sep.toList s.toList).map fun p => (String.ofList p.1, String.ofList p.2)

/-- `rsplit_once` at a character. -/
def rsplitOnce (c : Char) (s : String) : Option (String × String) :=
  (splitFirst [c] s.toList.reverse).map fun p =>
    (String.ofList p.2.reverse, String.ofList p.1.reverse)

/-- `strip_suffix` of a character. -/
def stripSuffix (c : Char) (s : String) : Option String :=
  if s.toList.getLast? = some c then some (String.ofList s.toList.dropLast) else none

/-- `eq_ignore_ascii_case`. -/
def eqIgnoreAsciiCase (a b : String) : Bool :=
  a.toList.map Char.toLower == b.toList.map Char.toLower

/-- `u8::is_ascii_hexdigit`. -/
def isAsciiHexdigit (b : UInt8) : Bool :=
  (48 ≤ b.toNat && b.toNat ≤ 57) || (65 ≤ b.toNat && b.toNat ≤ 70) ||
  (97 ≤ b.toNat && b.toNat ≤ 102)

/-- `char::is_ascii_hexdigit`. -/
def isHexdigit (c : Char) : Bool :=
  (48 ≤ c.toNat && c.toNat ≤ 57) || (65 ≤ c.toNat && c.toNat ≤ 70) ||
  (97 ≤ c.toNat && c.toNat ≤ 102)

/-- `char::is_ascii_digit`. -/
def isDigit (c : Char) : Bool := 48 ≤ c.toNat && c.toNat ≤ 57

/-- `parse::<u16>`: decimal digits after an optional plus sign, without overflow. -/
def parseU16 (s : String) : Option UInt16 :=
  let digits := if s.toList.head? = some '+' then s.toList.tail else s.toList
  let value := digits.foldl (fun n c => 10 * n + (c.toNat - 48)) 0
  if digits.isEmpty = false ∧ digits.all isDigit = true ∧ value < 65536 then
    some (UInt16.ofNat value)
  else none

theorem stripPrefix_eq_some_iff {pre s rest : String} :
    stripPrefix pre s = some rest ↔ s.toList = pre.toList ++ rest.toList := by
  unfold stripPrefix
  by_cases h : pre.toList.isPrefixOf s.toList = true
  · obtain ⟨tail, ht⟩ := List.isPrefixOf_iff_prefix.mp h
    rw [if_pos h, ← ht, List.drop_left, Option.some.injEq, ← String.toList_inj,
      String.toList_ofList, List.append_cancel_left_eq]
  · rw [if_neg h]
    constructor
    · intro hn
      cases hn
    · intro hs
      exact absurd (List.isPrefixOf_iff_prefix.mpr ⟨rest.toList, hs.symm⟩) h

/-- Text with a character that is neither a digit nor a sign is no number. -/
theorem parseU16_of_mem {s : String} {c : Char} (hc : c ∈ s.toList) (hd : isDigit c = false)
    (hs : c ≠ '+') : parseU16 s = none := by
  have hall : ∀ digits : List Char, c ∈ digits → digits.all isDigit ≠ true := by
    intro digits hm ha
    rw [List.all_eq_true.mp ha c hm] at hd
    cases hd
  unfold parseU16
  apply if_neg
  intro h
  by_cases hp : s.toList.head? = some '+'
  · obtain ⟨tail, ht⟩ := List.head?_eq_some_iff.mp hp
    rw [ht] at hc h
    rcases List.mem_cons.mp hc with rfl | hc
    · exact hs rfl
    · exact hall tail hc h.2.1
  · rw [if_neg hp] at h
    exact hall s.toList hc h.2.1

/-- `char::from(b).to_digit(16)`. -/
def toDigit16 (b : UInt8) : Option Nat :=
  if 48 ≤ b.toNat ∧ b.toNat ≤ 57 then some (b.toNat - 48)
  else if 97 ≤ b.toNat ∧ b.toNat ≤ 102 then some (b.toNat - 87)
  else if 65 ≤ b.toNat ∧ b.toNat ≤ 70 then some (b.toNat - 55)
  else none

theorem toDigit16_lt {b : UInt8} {d : Nat} (h : toDigit16 b = some d) : d < 16 := by
  unfold toDigit16 at h
  split at h
  · have hd := Option.some.inj h
    omega
  · split at h
    · have hd := Option.some.inj h
      omega
    · split at h
      · have hd := Option.some.inj h
        omega
      · cases h

/-- A byte has a digit value exactly when it is a hex digit. -/
theorem toDigit16_iff {b : UInt8} : (∃ d, toDigit16 b = some d) ↔ isAsciiHexdigit b = true := by
  unfold toDigit16
  simp only [isAsciiHexdigit, Bool.or_eq_true, Bool.and_eq_true, decide_eq_true_eq]
  by_cases h₁ : 48 ≤ b.toNat ∧ b.toNat ≤ 57
  · simp [h₁]
  · rw [if_neg h₁]
    by_cases h₂ : 97 ≤ b.toNat ∧ b.toNat ≤ 102
    · simp [h₂]
    · rw [if_neg h₂]
      by_cases h₃ : 65 ≤ b.toNat ∧ b.toNat ≤ 70
      · simp [h₃]
      · simp [h₁, h₂, h₃]

/-- Splitting at one character finds its first occurrence. -/
theorem splitFirst_char {c : Char} {l a b : List Char} :
    splitFirst [c] l = some (a, b) ↔ l = a ++ c :: b ∧ c ∉ a := by
  induction l generalizing a with
  | nil => simp [splitFirst]
  | cons x xs ih =>
    by_cases hx : c = x
    · subst hx
      simp only [splitFirst, List.isPrefixOf, beq_self_eq_true, Bool.and_self, if_true,
        List.length_singleton, List.drop_succ_cons, List.drop_zero, Option.some.injEq,
        Prod.mk.injEq]
      constructor
      · intro h
        obtain ⟨rfl, rfl⟩ := h
        simp
      · intro he
        obtain ⟨h, hc⟩ := he
        cases a with
        | nil => simpa using h
        | cons y ys =>
          obtain rfl := (List.cons.inj h).1
          simp at hc
    · have hne : (c == x) = false := by simpa using hx
      simp only [splitFirst, List.isPrefixOf, hne, Bool.false_and, Bool.false_eq_true, if_false,
        Option.map_eq_some_iff, Prod.exists, Prod.mk.injEq]
      constructor
      · intro he
        obtain ⟨a', b', h, rfl, rfl⟩ := he
        obtain ⟨rfl, hc⟩ := ih.mp h
        exact ⟨rfl, by simp [hx, hc]⟩
      · intro he
        obtain ⟨h, hc⟩ := he
        cases a with
        | nil => exact absurd (List.cons.inj h).1.symm hx
        | cons y ys =>
          obtain ⟨rfl, rfl⟩ := List.cons.inj h
          rw [List.mem_cons, not_or] at hc
          exact ⟨ys, b, ih.mpr ⟨rfl, hc.2⟩, rfl, rfl⟩

theorem splitOnce_char {c : Char} {s a b : String} :
    splitOnce (String.singleton c) s = some (a, b) ↔
      s = a ++ String.singleton c ++ b ∧ c ∉ a.toList := by
  have hs : (String.singleton c).toList = [c] := by simp
  simp only [splitOnce, hs, Option.map_eq_some_iff, Prod.exists, Prod.mk.injEq]
  constructor
  · intro he
    obtain ⟨x, y, h, rfl, rfl⟩ := he
    obtain ⟨hl, hc⟩ := splitFirst_char.mp h
    refine ⟨?_, by simpa using hc⟩
    rw [← String.toList_inj, hl]
    simp
  · intro h
    obtain ⟨rfl, hc⟩ := h
    refine ⟨a.toList, b.toList, splitFirst_char.mpr ⟨by simp, hc⟩, ?_, ?_⟩ <;> simp

theorem splitFirst_char_none {c : Char} {l : List Char} : splitFirst [c] l = none ↔ c ∉ l := by
  constructor
  · intro h hm
    obtain ⟨a, b, hl, ha⟩ := List.eq_append_cons_of_mem hm
    have hs := splitFirst_char.mpr ⟨hl, ha⟩
    rw [h] at hs
    cases hs
  · intro hc
    cases h : splitFirst [c] l with
    | none => rfl
    | some p =>
      obtain ⟨hl, -⟩ := splitFirst_char.mp h
      exact absurd (hl ▸ List.mem_append_right _ List.mem_cons_self) hc

/-- Splitting from the right at one character finds its last occurrence. -/
theorem rsplitOnce_char {c : Char} {s a b : String} :
    rsplitOnce c s = some (a, b) ↔ s = a ++ String.singleton c ++ b ∧ c ∉ b.toList := by
  simp only [rsplitOnce, Option.map_eq_some_iff, Prod.exists, Prod.mk.injEq]
  constructor
  · intro he
    obtain ⟨x, y, h, rfl, rfl⟩ := he
    obtain ⟨hl, hc⟩ := splitFirst_char.mp h
    refine ⟨?_, by simpa using hc⟩
    rw [← String.toList_inj, ← List.reverse_inj, hl]
    simp
  · intro h
    obtain ⟨rfl, hc⟩ := h
    refine ⟨b.toList.reverse, a.toList.reverse, splitFirst_char.mpr ⟨by simp, by simpa using hc⟩,
      ?_, ?_⟩ <;> simp

theorem rsplitOnce_char_none {c : Char} {s : String} :
    rsplitOnce c s = none ↔ c ∉ s.toList := by
  rw [rsplitOnce, Option.map_eq_none_iff, splitFirst_char_none, List.mem_reverse]

/-- Taking stops at the first element that fails. -/
theorem takeWhile_append_of_head {p : Char → Bool} {l r : List Char} (hl : ∀ c ∈ l, p c = true)
    (hr : ∀ c, r.head? = some c → p c = false) : (l ++ r).takeWhile p = l := by
  rw [List.takeWhile_append_of_pos hl]
  cases r with
  | nil => rw [List.takeWhile_nil, List.append_nil]
  | cons c rest =>
    have hc : ¬ p c = true := by
      rw [hr c rfl]
      exact Bool.false_ne_true
    rw [List.takeWhile_cons_of_neg hc, List.append_nil]

theorem dropWhile_append_of_head {p : Char → Bool} {l r : List Char} (hl : ∀ c ∈ l, p c = true)
    (hr : ∀ c, r.head? = some c → p c = false) : (l ++ r).dropWhile p = r := by
  have happ := List.takeWhile_append_dropWhile (p := p) (l := l ++ r)
  rw [takeWhile_append_of_head hl hr] at happ
  exact List.append_cancel_left happ

/-- What is dropped from the left is so many times the one character. -/
theorem replicate_append_dropWhile (l : List Char) (c : Char) :
    List.replicate (l.length - (l.dropWhile (· == c)).length) c ++ l.dropWhile (· == c) = l := by
  have happ := List.takeWhile_append_dropWhile (p := (· == c)) (l := l)
  have hlen := congrArg List.length happ
  rw [List.length_append] at hlen
  have hn : l.length - (l.dropWhile (· == c)).length = (l.takeWhile (· == c)).length := by omega
  have hmem : ∀ x ∈ l.takeWhile (· == c), x = c := by
    intro x hx
    have hb := List.mem_takeWhile_imp (p := (· == c)) hx
    exact beq_iff_eq.mp hb
  rw [hn, ← List.eq_replicate_iff.mpr ⟨rfl, hmem⟩]
  exact happ

/-- Dropping from the right stops at the last element that must stay. -/
theorem rdropWhile_append_of_last {p : Char → Bool} {l r : List Char} {x : Char}
    (hx : l.getLast? = some x) (hp : p x = false) :
    (l ++ r).rdropWhile p = l ++ r.rdropWhile p := by
  obtain ⟨front, rfl⟩ := List.getLast?_eq_some_iff.mp hx
  unfold List.rdropWhile
  rw [List.reverse_append, List.dropWhile_append]
  by_cases hr : (List.dropWhile p r.reverse).isEmpty = true
  · rw [if_pos hr, List.isEmpty_iff.mp hr]
    simp [hp]
  · rw [if_neg hr]
    simp

/-- A text that starts and ends with no white space is not trimmed; what follows it is. -/
theorem trim_append {s rest : String} {x y : Char} (hx : s.toList.head? = some x)
    (hy : s.toList.getLast? = some y) (hwx : isWhitespace x = false)
    (hwy : isWhitespace y = false) :
    trim (s ++ rest) = s ++ String.ofList (rest.toList.rdropWhile isWhitespace) := by
  obtain ⟨tail, ht⟩ := List.head?_eq_some_iff.mp hx
  have hd : (s ++ rest).toList.dropWhile isWhitespace = s.toList ++ rest.toList := by
    rw [String.toList_append, ht]
    simp [hwx]
  rw [← String.toList_inj]
  unfold trim
  rw [hd, rdropWhile_append_of_last hy hwy]
  simp

end VerityVerifier.Library.Text
