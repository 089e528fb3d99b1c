import Mathlib.Data.Nat.Digits.Lemmas
import VerityVerifier.Library.ByteString

/-!
# Strict DER octet strings

One tag, a definite length in its shortest form, and exactly that many content
bytes. Nothing may follow, and nothing is normalised: decoding is the inverse of
encoding in both directions.
-/
namespace VerityVerifier.Library.Der

open VerityVerifier.Library.ByteString

def octetStringTag : UInt8 := 0x04

/-- The natural number a big-endian byte string denotes. -/
def beNat (bytes : Bytes) : Nat := leNat bytes.reverse

/-- The content after a length octet and, in the long form, the octets it announces. -/
def decodeLength (first : UInt8) (rest : Bytes) : Option (Nat × Bytes) :=
  if first.toNat < 128 then some (first.toNat, rest)
  else
    let count := first.toNat - 128
    let octets := rest.take count
    -- the indefinite form, a cut-off length, a leading zero and a short value are all refused
    if count = 0 ∨ rest.length < count ∨ octets.head? = some 0 ∨ beNat octets < 128 then none
    else some (beNat octets, rest.drop count)

/-- The content of an encoded octet string of at most `maxLength` bytes. -/
def octetStringFromDer (maxLength : Nat) (bytes : Bytes) : Option Bytes :=
  if maxLength < bytes.length then none
  else
    match bytes with
    | tag :: first :: rest =>
      if tag = octetStringTag then
        match decodeLength first rest with
        | some (length, content) => if content.length = length then some content else none
        | none => none
      else none
    | _ => none

/-! ## Encoding -/

/-- The octets of a number, the most significant first and without a leading zero. -/
def beOctets (n : Nat) : Bytes := ((Nat.digits 256 n).map UInt8.ofNat).reverse

/-- A length in its shortest form. No length octet announces more than 127 others. -/
def encodeLength (n : Nat) : Option Bytes :=
  if n < 128 then some [UInt8.ofNat n]
  else if (beOctets n).length < 128 then
    some (UInt8.ofNat (128 + (beOctets n).length) :: beOctets n)
  else none

/-- An octet string whose encoding is at most `maxLength` bytes. -/
def octetStringToDer (maxLength : Nat) (content : Bytes) : Option Bytes :=
  match encodeLength content.length with
  | some length =>
    let bytes := octetStringTag :: (length ++ content)
    if maxLength < bytes.length then none else some bytes
  | none => none

/-! ## Numbers and their octets -/

theorem leNat_eq_ofDigits (bytes : Bytes) : leNat bytes = Nat.ofDigits 256 (bytes.map UInt8.toNat) := by
  induction bytes with
  | nil => rfl
  | cons b bs ih =>
    rw [leNat, ih, List.map_cons, Nat.ofDigits_cons]

theorem beNat_beOctets (n : Nat) : beNat (beOctets n) = n := by
  have hmap : ((Nat.digits 256 n).map UInt8.ofNat).map UInt8.toNat = Nat.digits 256 n := by
    rw [List.map_map]
    have hid : ∀ d ∈ Nat.digits 256 n, (UInt8.toNat ∘ UInt8.ofNat) d = d := by
      intro d hd
      have hlt := Nat.digits_lt_base (by decide) hd
      rw [Function.comp_apply, UInt8.toNat_ofNat']
      exact Nat.mod_eq_of_lt hlt
    exact (List.map_congr_left hid).trans (List.map_id _)
  unfold beNat beOctets
  rw [List.reverse_reverse, leNat_eq_ofDigits, hmap, Nat.ofDigits_digits]

theorem head?_beOctets (n : Nat) : (beOctets n).head? ≠ some 0 := by
  intro h
  unfold beOctets at h
  rw [List.head?_reverse, List.getLast?_map, Option.map_eq_some_iff] at h
  obtain ⟨d, hd, hz⟩ := h
  have hm : d ∈ Nat.digits 256 n := List.mem_of_getLast? hd
  have hlt : d < 256 := Nat.digits_lt_base (by decide) hm
  have hd0 : d = 0 := by
    have hn := congrArg UInt8.toNat hz
    rw [UInt8.toNat_ofNat', Nat.mod_eq_of_lt hlt] at hn
    exact hn
  have hn : n ≠ 0 := by
    intro hn
    rw [hn, Nat.digits_zero] at hm
    cases hm
  have hlast := Nat.getLast_digit_ne_zero 256 hn
  rw [List.getLast?_eq_some_getLast (Nat.digits_ne_nil_iff_ne_zero.mpr hn), hd0] at hd
  exact hlast (Option.some.inj hd)

theorem beOctets_beNat {octets : Bytes} (h : octets.head? ≠ some 0) :
    beOctets (beNat octets) = octets := by
  have hdigits : Nat.digits 256 (beNat octets) = octets.reverse.map UInt8.toNat := by
    rw [beNat, leNat_eq_ofDigits]
    apply Nat.digits_ofDigits 256 (by decide)
    · intro d hd
      obtain ⟨b, -, rfl⟩ := List.mem_map.mp hd
      exact b.toNat_lt
    · intro hne hz
      apply h
      have hl := List.getLast?_eq_some_getLast hne
      rw [hz, List.getLast?_map, List.getLast?_reverse, Option.map_eq_some_iff] at hl
      obtain ⟨b, hb, hb0⟩ := hl
      have hb0' : b = 0 := UInt8.toNat_inj.mp hb0
      rw [hb, hb0']
  have hid : UInt8.ofNat ∘ UInt8.toNat = id := by
    funext b
    exact UInt8.ofNat_toNat
  unfold beOctets
  rw [hdigits, List.map_map, hid, List.map_id, List.reverse_reverse]

/-! ## Decoding inverts encoding -/

/-- A length is read exactly from its shortest form. -/
theorem decodeLength_iff {first : UInt8} {rest content : Bytes} {n : Nat} :
    decodeLength first rest = some (n, content) ↔
      ∃ octets, encodeLength n = some (first :: octets) ∧ rest = octets ++ content := by
  have hfirst : first.toNat < 256 := first.toNat_lt
  constructor
  · intro h
    unfold decodeLength at h
    by_cases hs : first.toNat < 128
    · rw [if_pos hs] at h
      obtain ⟨rfl, rfl⟩ := Prod.mk.inj (Option.some.inj h)
      refine ⟨[], ?_, rfl⟩
      unfold encodeLength
      rw [if_pos hs, UInt8.ofNat_toNat]
    · rw [if_neg hs] at h
      simp only at h
      split at h
      · cases h
      · rename_i hc
        rw [not_or, not_or, not_or] at hc
        obtain ⟨hcount, hlen, hhead, hbig⟩ := hc
        obtain ⟨rfl, rfl⟩ := Prod.mk.inj (Option.some.inj h)
        refine ⟨rest.take (first.toNat - 128), ?_, (List.take_append_drop _ _).symm⟩
        have hl : (rest.take (first.toNat - 128)).length = first.toNat - 128 := by
          rw [List.length_take]
          omega
        have hback : 128 + (first.toNat - 128) = first.toNat := by omega
        unfold encodeLength
        rw [if_neg hbig, beOctets_beNat hhead, hl, if_pos (by omega), hback, UInt8.ofNat_toNat]
  · intro h
    obtain ⟨octets, he, rfl⟩ := h
    unfold encodeLength at he
    by_cases hs : n < 128
    · rw [if_pos hs] at he
      obtain ⟨rfl, rfl⟩ := List.cons.inj (Option.some.inj he)
      have hn : (UInt8.ofNat n).toNat = n := by
        rw [UInt8.toNat_ofNat']
        exact Nat.mod_eq_of_lt (by omega)
      unfold decodeLength
      rw [hn, if_pos hs]
      rfl
    · rw [if_neg hs] at he
      split at he
      · rename_i hl
        obtain ⟨rfl, rfl⟩ := List.cons.inj (Option.some.inj he)
        have hn : (UInt8.ofNat (128 + (beOctets n).length)).toNat = 128 + (beOctets n).length := by
          rw [UInt8.toNat_ofNat']
          exact Nat.mod_eq_of_lt (by omega)
        have hpos : (beOctets n).length ≠ 0 := by
          intro hz
          have hnil := beNat_beOctets n
          rw [List.length_eq_zero_iff.mp hz] at hnil
          have h0 : n = 0 := hnil.symm
          omega
        have hcond : ¬ ((beOctets n).length = 0 ∨
            (beOctets n ++ content).length < (beOctets n).length ∨
            (beOctets n).head? = some 0 ∨ beNat (beOctets n) < 128) := by
          rw [beNat_beOctets, List.length_append]
          intro hc
          obtain hc | hc | hc | hc := hc
          · exact hpos hc
          · omega
          · exact head?_beOctets n hc
          · exact hs hc
        unfold decodeLength
        simp only [hn, Nat.add_sub_cancel_left, List.take_left', List.drop_left']
        rw [if_neg (by omega), if_neg hcond, beNat_beOctets]
      · cases he

theorem encodeLength_ne_nil {n : Nat} : encodeLength n ≠ some [] := by
  unfold encodeLength
  by_cases hs : n < 128
  · simp [hs]
  · by_cases hl : (beOctets n).length < 128 <;> simp [hs, hl]

/-- The parts of an encoding. -/
theorem octetStringToDer_eq_some {maxLength : Nat} {content bytes : Bytes}
    (h : octetStringToDer maxLength content = some bytes) :
    ∃ first octets, encodeLength content.length = some (first :: octets) ∧
      bytes = octetStringTag :: first :: (octets ++ content) ∧ bytes.length ≤ maxLength := by
  unfold octetStringToDer at h
  split at h
  · rename_i length he
    simp only at h
    split at h
    · cases h
    · rename_i hmax
      obtain rfl := Option.some.inj h
      obtain ⟨first, octets, rfl⟩ : ∃ first octets, length = first :: octets :=
        List.exists_cons_of_ne_nil (fun hn => encodeLength_ne_nil (hn ▸ he))
      exact ⟨first, octets, he, rfl, Nat.not_lt.mp hmax⟩
  · cases h

/-- What decodes is exactly what the encoding of its content is. -/
theorem octetStringFromDer_iff {maxLength : Nat} {bytes content : Bytes} :
    octetStringFromDer maxLength bytes = some content ↔
      octetStringToDer maxLength content = some bytes := by
  constructor
  · intro h
    unfold octetStringFromDer at h
    split at h
    · cases h
    · rename_i hmax
      split at h
      · rename_i tag first rest
        split at h
        · rename_i htag
          subst htag
          split at h
          · rename_i n c hd
            split at h
            · rename_i hn
              obtain rfl := Option.some.inj h
              subst hn
              obtain ⟨octets, he, rfl⟩ := decodeLength_iff.mp hd
              unfold octetStringToDer
              rw [he]
              exact if_neg hmax
            · cases h
          · cases h
        · cases h
      · cases h
  · intro h
    obtain ⟨first, octets, he, rfl, hmax⟩ := octetStringToDer_eq_some h
    have hd : decodeLength first (octets ++ content) = some (content.length, content) :=
      decodeLength_iff.mpr ⟨octets, he, rfl⟩
    unfold octetStringFromDer
    rw [if_neg (Nat.not_lt.mpr hmax)]
    simp [hd]

/-- Bytes behind an encoding are refused. -/
theorem octetStringFromDer_trailing {maxLength : Nat} {bytes content tail : Bytes}
    (h : octetStringToDer maxLength content = some bytes) (ht : tail ≠ []) :
    octetStringFromDer maxLength (bytes ++ tail) = none := by
  obtain ⟨first, octets, he, rfl, -⟩ := octetStringToDer_eq_some h
  have hd : decodeLength first (octets ++ (content ++ tail)) =
      some (content.length, content ++ tail) := decodeLength_iff.mpr ⟨octets, he, rfl⟩
  unfold octetStringFromDer
  split
  · rfl
  · simp [hd, ht]

end VerityVerifier.Library.Der
