import Mathlib.Data.List.Chain
import VerityVerifier.Library.Hex

/-!
# Byte ranges of a string

A range of bytes can be taken out of a string only between characters. A continuation
byte follows a byte that is not ASCII, so a range that starts or ends inside a character
has a byte next to the cut that is not ASCII either.
-/
namespace VerityVerifier.Library.Text

open VerityVerifier.Library.ByteString

def isContinuation (b : UInt8) : Bool := 0x80 ≤ b.toNat && b.toNat < 0xc0

/-- `is_char_boundary`. -/
def isCharBoundary (s : Bytes) (i : Nat) : Bool :=
  i == 0 || i == s.length || (s[i]?).any fun b => !isContinuation b

/-- `get` of a range of bytes of a string. -/
def getRange (s : Bytes) (i j : Nat) : Option Bytes :=
  if i ≤ j ∧ isCharBoundary s i = true ∧ isCharBoundary s j = true then some (slice s i (j - i))
  else none

/-- What may stand before a byte. -/
def Continues (a b : UInt8) : Prop := isContinuation b = true → 128 ≤ a.toNat

theorem utf8EncodeChar_high {c : Char} (h : 128 ≤ c.toNat) :
    ∃ b rest, String.utf8EncodeChar c = b :: rest ∧ 192 ≤ b.toNat ∧ ∀ x ∈ rest, 128 ≤ x.toNat := by
  have hv : ¬ c.val.toNat ≤ 0x7f := by
    change ¬ c.toNat ≤ 0x7f
    omega
  have hfirst : ∀ n, 192 ≤ n → n < 256 → 192 ≤ (UInt8.ofNat n).toNat := by
    intro n hl hu
    rw [UInt8.toNat_ofNat', Nat.mod_eq_of_lt hu]
    exact hl
  have hnext : ∀ n, 128 ≤ (UInt8.ofNat (n % 64 + 128)).toNat := by
    intro n
    rw [UInt8.toNat_ofNat']
    omega
  unfold String.utf8EncodeChar
  simp only [if_neg hv]
  split
  · refine ⟨_, _, rfl, hfirst _ (by omega) (by omega), ?_⟩
    simp only [List.forall_mem_cons, List.not_mem_nil, false_implies, implies_true, and_true]
    exact hnext _
  · split
    · refine ⟨_, _, rfl, hfirst _ (by omega) (by omega), ?_⟩
      simp only [List.forall_mem_cons, List.not_mem_nil, false_implies, implies_true, and_true]
      exact ⟨hnext _, hnext _⟩
    · refine ⟨_, _, rfl, hfirst _ (by omega) (by omega), ?_⟩
      simp only [List.forall_mem_cons, List.not_mem_nil, false_implies, implies_true, and_true]
      exact ⟨hnext _, hnext _, hnext _⟩

theorem isChain_of_high {l : Bytes} (h : ∀ x ∈ l, 128 ≤ x.toNat) : l.IsChain Continues := by
  induction l with
  | nil => exact List.isChain_nil
  | cons a rest ih =>
    rw [List.forall_mem_cons] at h
    rw [List.isChain_cons]
    exact ⟨fun _ _ _ => h.1, ih h.2⟩

/-- Each byte of a string continues the one before it. -/
theorem utf8_isChain (s : String) : (utf8 s).IsChain Continues := by
  unfold utf8
  generalize s.toList = l
  have hhead : ∀ l : List Char, ∀ b ∈ (l.flatMap String.utf8EncodeChar).head?,
      isContinuation b = false := by
    intro l b hb
    cases l with
    | nil => cases hb
    | cons c cs =>
      rw [List.flatMap_cons] at hb
      by_cases hc : c.toNat < 128
      · rw [utf8EncodeChar_ascii hc] at hb
        obtain rfl := Option.some.inj hb
        unfold isContinuation
        rw [toNat_asciiByte hc, Bool.and_eq_false_iff]
        exact .inl (decide_eq_false (by omega))
      · obtain ⟨b', rest, he, hb', -⟩ := utf8EncodeChar_high (Nat.not_lt.mp hc)
        rw [he] at hb
        obtain rfl := Option.some.inj hb
        unfold isContinuation
        rw [Bool.and_eq_false_iff]
        exact .inr (decide_eq_false (by omega))
  induction l with
  | nil => exact List.isChain_nil
  | cons c cs ih =>
    rw [List.flatMap_cons]
    apply List.IsChain.append _ ih
    · intro x _ y hy hcont
      rw [hhead cs y hy] at hcont
      cases hcont
    · by_cases hc : c.toNat < 128
      · rw [utf8EncodeChar_ascii hc]
        exact List.isChain_singleton _
      · obtain ⟨b, rest, he, hb, hrest⟩ := utf8EncodeChar_high (Nat.not_lt.mp hc)
        rw [he]
        apply isChain_of_high
        intro x hx
        rcases List.mem_cons.mp hx with rfl | hx
        · omega
        · exact hrest x hx

/-- An ASCII byte of a string is one of its characters. -/
theorem mem_of_mem_utf8 {s : String} {b : UInt8} (hb : b ∈ utf8 s) (hlt : b.toNat < 128) :
    ∃ c ∈ s.toList, c.toNat < 128 ∧ asciiByte c = b := by
  obtain ⟨c, hc, hm⟩ := List.mem_flatMap.mp hb
  by_cases hascii : c.toNat < 128
  · rw [utf8EncodeChar_ascii hascii, List.mem_singleton] at hm
    exact ⟨c, hc, hascii, hm.symm⟩
  · obtain ⟨d, rest, he, hd, hrest⟩ := utf8EncodeChar_high (Nat.not_lt.mp hascii)
    rw [he, List.mem_cons] at hm
    exfalso
    rcases hm with rfl | hm
    · omega
    · have hb := hrest b hm
      omega

/-- A range of two ASCII bytes can always be taken; a range that cannot has another byte. -/
theorem getRange_two {s : Bytes} (hs : s.IsChain Continues) {i : Nat} {a b : UInt8} {rest : Bytes}
    (hd : s.drop i = a :: b :: rest) :
    getRange s i (i + 2) = some [a, b] ∨
      getRange s i (i + 2) = none ∧ (128 ≤ a.toNat ∨ 128 ≤ b.toNat) := by
  have hlen : s.length = i + (rest.length + 2) := by
    have hl := congrArg List.length hd
    rw [List.length_drop, List.length_cons, List.length_cons] at hl
    omega
  have hslice : slice s i (i + 2 - i) = [a, b] := by
    rw [slice, hd, Nat.add_sub_cancel_left]
    rfl
  by_cases hr : isCharBoundary s i = true ∧ isCharBoundary s (i + 2) = true
  · left
    unfold getRange
    rw [if_pos ⟨by omega, hr.1, hr.2⟩, hslice]
  · right
    refine ⟨if_neg fun h => hr h.2, ?_⟩
    have hget : ∀ k, s[i + k]? = (a :: b :: rest)[k]? := by
      intro k
      rw [← hd, List.getElem?_drop]
    rw [not_and_or] at hr
    rcases hr with hr | hr
    · left
      have ha : s[i]? = some a := hget 0
      have hcont : isContinuation a = true := by
        rw [isCharBoundary, ha, Bool.not_eq_true, Bool.or_eq_false_iff] at hr
        simpa using hr.2
      simp only [isContinuation, Bool.and_eq_true, decide_eq_true_eq] at hcont
      omega
    · right
      cases rest with
      | nil =>
        have he : (i + 2 == s.length) = true := by
          rw [hlen]
          exact beq_self_eq_true _
        rw [isCharBoundary, he] at hr
        simp at hr
      | cons c rest =>
        have hc : s[i + 2]? = some c := hget 2
        have hcont : isContinuation c = true := by
          rw [isCharBoundary, hc, Bool.not_eq_true, Bool.or_eq_false_iff] at hr
          simpa using hr.2
        have hchain : (a :: b :: c :: rest).IsChain Continues := by
          rw [← hd]
          exact hs.drop i
        rw [List.isChain_cons_cons, List.isChain_cons_cons] at hchain
        exact hchain.2.1 hcont

end VerityVerifier.Library.Text
