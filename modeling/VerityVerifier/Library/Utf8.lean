import VerityVerifier.Library.Text

/-!
# The bytes of a string

A check on the bytes of a string that only accepts ASCII is a check on its characters:
no byte of a longer encoding is below 128.
-/
namespace VerityVerifier.Library.Text

open VerityVerifier.Library.ByteString

/-- `c as u8`, for an ASCII character. -/
def asciiByte (c : Char) : UInt8 := UInt8.ofNat c.toNat

theorem toNat_asciiByte {c : Char} (h : c.toNat < 128) : (asciiByte c).toNat = c.toNat := by
  unfold asciiByte
  rw [UInt8.toNat_ofNat']
  exact Nat.mod_eq_of_lt (by omega)

theorem utf8EncodeChar_ascii {c : Char} (h : c.toNat < 128) :
    String.utf8EncodeChar c = [asciiByte c] := by
  unfold String.utf8EncodeChar
  have hv : c.val.toNat ≤ 0x7f := by
    change c.toNat ≤ 0x7f
    omega
  exact if_pos hv

/-- The first byte of a longer encoding is not ASCII. -/
theorem utf8EncodeChar_head {c : Char} (h : 128 ≤ c.toNat) :
    ∃ b rest, String.utf8EncodeChar c = b :: rest ∧ 128 ≤ b.toNat := by
  have hv : ¬ c.val.toNat ≤ 0x7f := by
    change ¬ c.toNat ≤ 0x7f
    omega
  unfold String.utf8EncodeChar
  simp only [if_neg hv]
  split
  · refine ⟨_, _, rfl, ?_⟩
    rw [UInt8.toNat_ofNat']
    omega
  · split
    · refine ⟨_, _, rfl, ?_⟩
      rw [UInt8.toNat_ofNat']
      omega
    · refine ⟨_, _, rfl, ?_⟩
      rw [UInt8.toNat_ofNat']
      omega

/-- A property that only ASCII bytes have. -/
def AsciiOnly (q : UInt8 → Bool) : Prop := ∀ b, q b = true → b.toNat < 128

theorem utf8EncodeChar_all_iff {q : UInt8 → Bool} (hq : AsciiOnly q) {c : Char} :
    (String.utf8EncodeChar c).all q = true ↔ c.toNat < 128 ∧ q (asciiByte c) = true := by
  by_cases h : c.toNat < 128
  · rw [utf8EncodeChar_ascii h]
    simp [h]
  · obtain ⟨b, rest, he, hb⟩ := utf8EncodeChar_head (Nat.not_lt.mp h)
    rw [he, List.all_cons, Bool.and_eq_true]
    constructor
    · intro hall
      have hlt := hq b hall.1
      omega
    · intro hc
      exact absurd hc.1 h

/-- Such a property holds of all bytes when it holds of all characters. -/
theorem utf8_all_iff {q : UInt8 → Bool} (hq : AsciiOnly q) {s : String} :
    (utf8 s).all q = true ↔ ∀ c ∈ s.toList, c.toNat < 128 ∧ q (asciiByte c) = true := by
  unfold utf8
  generalize s.toList = l
  induction l with
  | nil => simp
  | cons c cs ih =>
    rw [List.flatMap_cons, List.all_append, Bool.and_eq_true, utf8EncodeChar_all_iff hq, ih,
      List.forall_mem_cons]

/-- An ASCII string has one byte a character. -/
theorem utf8_ascii {s : String} (h : ∀ c ∈ s.toList, c.toNat < 128) :
    utf8 s = s.toList.map asciiByte := by
  unfold utf8
  generalize s.toList = l at h ⊢
  induction l with
  | nil => rfl
  | cons c cs ih =>
    rw [List.forall_mem_cons] at h
    rw [List.flatMap_cons, utf8EncodeChar_ascii h.1, ih h.2]
    rfl

theorem utf8_eq (s : String) : (utf8 s).toByteArray = s.toByteArray := by
  rw [← String.utf8Encode_toList]
  rfl

/-- Strings with the same bytes are the same string. -/
theorem utf8_inj {a b : String} (h : utf8 a = utf8 b) : a = b := by
  rw [← String.toByteArray_inj, ← utf8_eq, ← utf8_eq, h]

/-- A character has one byte or more. -/
theorem length_le_length_utf8 (s : String) : s.toList.length ≤ (utf8 s).length := by
  unfold utf8
  generalize s.toList = l
  induction l with
  | nil => exact Nat.le_refl 0
  | cons c cs ih =>
    have hc := List.length_pos_iff.mpr (String.utf8EncodeChar_ne_nil (c := c))
    rw [List.flatMap_cons, List.length_append, List.length_cons]
    omega

/-! ## Hex digits -/

theorem asciiOnly_hexdigit : AsciiOnly isAsciiHexdigit := by
  intro b h
  simp only [isAsciiHexdigit, Bool.or_eq_true, Bool.and_eq_true, decide_eq_true_eq] at h
  omega

theorem isHexdigit_iff {c : Char} :
    isHexdigit c = true ↔ c.toNat < 128 ∧ isAsciiHexdigit (asciiByte c) = true := by
  constructor
  · intro h
    have hlt : c.toNat < 128 := by
      simp only [isHexdigit, Bool.or_eq_true, Bool.and_eq_true, decide_eq_true_eq] at h
      omega
    refine ⟨hlt, ?_⟩
    rwa [isAsciiHexdigit, toNat_asciiByte hlt]
  · intro h
    have hb := h.2
    rwa [isAsciiHexdigit, toNat_asciiByte h.1] at hb

theorem utf8_all_hexdigit_iff {s : String} :
    (utf8 s).all isAsciiHexdigit = true ↔ s.toList.all isHexdigit = true := by
  rw [utf8_all_iff asciiOnly_hexdigit, List.all_eq_true]
  simp only [isHexdigit_iff]

theorem length_utf8_of_hexdigits {s : String} (h : s.toList.all isHexdigit = true) :
    (utf8 s).length = s.toList.length := by
  rw [utf8_ascii, List.length_map]
  intro c hc
  exact (isHexdigit_iff.mp (List.all_eq_true.mp h c hc)).1

end VerityVerifier.Library.Text
