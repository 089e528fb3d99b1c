import VerityVerifier.Library.Text

/-!
# Decimal numerals

The integer parsers of the Rust standard library differ in their bound only. Each takes
an optional plus sign before the digits.
-/
namespace VerityVerifier.Library.Text

/-- The value of a list of digits. -/
def decimal (digits : List Char) : Nat := digits.foldl (fun n c => 10 * n + (c.toNat - 48)) 0

/-- A numeral: one ASCII digit or more. -/
def isNumeral (l : List Char) : Bool := l.isEmpty.not && l.all isDigit

/-- `parse` for an unsigned type whose values are below `bound`. -/
def parseUnsigned (bound : Nat) (s : String) : Option Nat :=
  let digits := if s.toList.head? = some '+' then s.toList.tail else s.toList
  if isNumeral digits = true ∧ decimal digits < bound then some (decimal digits) else none

/-- `parse::<u32>`. -/
def parseU32 (s : String) : Option Nat := parseUnsigned (2 ^ 32) s

/-- A decimal numeral that fits in 32 bits. -/
def IsU32 (s : String) (n : Nat) : Prop :=
  isNumeral s.toList = true ∧ decimal s.toList = n ∧ n < 2 ^ 32

instance (s : String) (n : Nat) : Decidable (IsU32 s n) :=
  inferInstanceAs (Decidable (_ ∧ _ ∧ _))

/-- A decimal numeral that fits in 32 bits, with a plus sign in front of it or without. -/
def SignedU32 (s : String) (n : Nat) : Prop :=
  IsU32 s n ∨ ∃ digits, s = "+" ++ digits ∧ IsU32 digits n

theorem parseU16_eq (s : String) : parseU16 s = (parseUnsigned 65536 s).map UInt16.ofNat := by
  unfold parseU16 parseUnsigned isNumeral
  generalize (if s.toList.head? = some '+' then s.toList.tail else s.toList) = digits
  cases digits with
  | nil => rfl
  | cons c cs =>
    by_cases h : (c :: cs).all isDigit = true ∧ decimal (c :: cs) < 65536
    · rw [if_pos ⟨rfl, h⟩, if_pos ⟨by simpa using h.1, h.2⟩]
      rfl
    · rw [if_neg (fun hc => h hc.2), if_neg (fun hc => h ⟨by simpa using hc.1, hc.2⟩)]
      rfl

theorem isNumeral_iff {l : List Char} : isNumeral l = true ↔ l ≠ [] ∧ ∀ c ∈ l, isDigit c = true := by
  unfold isNumeral
  simp

theorem not_mem_of_all {l : List Char} {p : Char → Bool} {c : Char} (h : l.all p = true)
    (hc : p c = false) : c ∉ l := by
  intro hm
  rw [List.all_eq_true.mp h c hm] at hc
  cases hc

/-- A numeral has digits in it and nothing else. -/
theorem not_mem_numeral {l : List Char} {c : Char} (h : isNumeral l = true)
    (hc : isDigit c = false) : c ∉ l :=
  not_mem_of_all (List.all_eq_true.mpr (isNumeral_iff.mp h).2) hc

theorem not_isNumeral_plus (l : List Char) : isNumeral ('+' :: l) = false := by
  simp [isNumeral, isDigit]

/-- What such a parser accepts. -/
theorem parseUnsigned_eq_some_iff {bound n : Nat} {s : String} :
    parseUnsigned bound s = some n ↔ ∃ digits, (s.toList = digits ∨ s.toList = '+' :: digits) ∧
      isNumeral digits = true ∧ decimal digits = n ∧ n < bound := by
  unfold parseUnsigned
  by_cases hp : s.toList.head? = some '+'
  · obtain ⟨tail, ht⟩ := List.head?_eq_some_iff.mp hp
    simp only [ht, List.head?_cons, if_true, List.tail_cons, Option.ite_none_right_eq_some,
      Option.some.injEq]
    constructor
    · intro h
      obtain ⟨⟨hn, hb⟩, rfl⟩ := h
      exact ⟨tail, .inr rfl, hn, rfl, hb⟩
    · intro h
      obtain ⟨digits, hd | hd, hn, rfl, hb⟩ := h
      · rw [← hd, not_isNumeral_plus] at hn
        cases hn
      · obtain rfl := (List.cons.inj hd).2
        exact ⟨⟨hn, hb⟩, rfl⟩
  · simp only [if_neg hp, Option.ite_none_right_eq_some, Option.some.injEq]
    constructor
    · intro h
      obtain ⟨⟨hn, hb⟩, rfl⟩ := h
      exact ⟨s.toList, .inl rfl, hn, rfl, hb⟩
    · intro h
      obtain ⟨digits, rfl | hd, hn, rfl, hb⟩ := h
      · exact ⟨⟨hn, hb⟩, rfl⟩
      · exact absurd (by rw [hd]; rfl) hp

theorem parseU32_eq_some_iff {s : String} {n : Nat} : parseU32 s = some n ↔ SignedU32 s n := by
  unfold parseU32 SignedU32
  rw [parseUnsigned_eq_some_iff]
  constructor
  · intro h
    obtain ⟨digits, rfl | hs, hn⟩ := h
    · exact .inl hn
    · refine .inr ⟨String.ofList digits, ?_, ?_⟩
      · apply String.toList_inj.mp
        rw [hs]
        simp
      · rwa [IsU32, String.toList_ofList]
  · intro h
    obtain hn | ⟨digits, rfl, hn⟩ := h
    · exact ⟨s.toList, .inl rfl, hn⟩
    · exact ⟨digits.toList, .inr (by simp), hn⟩

theorem parseU32_eq_none_iff {s : String} : parseU32 s = none ↔ ∀ n, ¬ SignedU32 s n := by
  rw [Option.eq_none_iff_forall_ne_some]
  exact forall_congr' fun n => not_congr parseU32_eq_some_iff

theorem parseU32_of_isU32 {s : String} {n : Nat} (h : IsU32 s n) : parseU32 s = some n :=
  parseU32_eq_some_iff.mpr (.inl h)

/-! ## What is printed reads back -/

theorem isNumeral_toString (n : Nat) : isNumeral (toString n).toList = true := by
  rw [Nat.toString_eq_ofList_toDigits, String.toList_ofList, isNumeral_iff]
  refine ⟨Nat.toDigits_ne_nil, fun c hc => ?_⟩
  have hd : c.isDigit = true := Nat.isDigit_of_mem_toDigits (by decide) (by decide) hc
  obtain ⟨hlow, hhigh⟩ := Char.isDigit_iff_toNat.mp hd
  have hlow : 48 ≤ c.toNat := hlow
  have hhigh : c.toNat ≤ 57 := hhigh
  simp [isDigit, hlow, hhigh]

theorem decimal_toString (n : Nat) : decimal (toString n).toList = n := by
  rw [Nat.toString_eq_ofList_toDigits, String.toList_ofList]
  have h := @Nat.ofDigitChars_ten_toDigits n
  rw [Nat.ofDigitChars_eq_foldl] at h
  exact h

theorem parseU16_toString (n : UInt16) : parseU16 (toString n.toNat) = some n := by
  rw [parseU16_eq, Option.map_eq_some_iff]
  exact ⟨n.toNat, parseUnsigned_eq_some_iff.mpr ⟨(toString n.toNat).toList, .inl rfl,
    isNumeral_toString _, decimal_toString _, n.toNat_lt⟩, UInt16.ofNat_toNat⟩

end VerityVerifier.Library.Text
