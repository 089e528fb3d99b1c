import VerityVerifier.Library.Utf8

/-!
# Percent-encoding

A byte that need not be escaped stands for itself and any other is written as a percent
sign and two upper-case hex digits. Which bytes are kept is a parameter: they are ASCII,
and the percent sign is not among them.
-/
namespace VerityVerifier.Library.Text

open VerityVerifier.Library.ByteString

/-- The upper-case hex digit of a value below 16. -/
def upperDigit (d : Nat) : Char := (Nat.digitChar d).toUpper

/-- An upper-case hex digit. -/
def isUpperHex (c : Char) : Bool :=
  (48 ≤ c.toNat && c.toNat ≤ 57) || (65 ≤ c.toNat && c.toNat ≤ 70)

/-- `b as char`. -/
def charOfByte (b : UInt8) : Char := Char.ofNat b.toNat

def percentByte (keep : UInt8 → Bool) (b : UInt8) : List Char :=
  if keep b then [charOfByte b]
  else ['%', upperDigit (b.toNat / 16), upperDigit (b.toNat % 16)]

def percentBytes (keep : UInt8 → Bool) (bytes : Bytes) : List Char :=
  bytes.flatMap (percentByte keep)

/-- Text of kept characters and upper-case triples. -/
inductive Escaped (keep : UInt8 → Bool) : List Char → Prop where
  | nil : Escaped keep []
  | kept {b rest} : keep b = true → Escaped keep rest → Escaped keep (charOfByte b :: rest)
  | triple {hi lo rest} : isUpperHex hi = true → isUpperHex lo = true → Escaped keep rest →
      Escaped keep ('%' :: hi :: lo :: rest)

/-- The bytes such a text stands for. -/
def percentDecode : List Char → Option Bytes
  | [] => some []
  | '%' :: hi :: lo :: rest =>
    match toDigit16 (asciiByte hi), toDigit16 (asciiByte lo), percentDecode rest with
    | some hi, some lo, some bytes => some (UInt8.ofNat (16 * hi + lo) :: bytes)
    | _, _, _ => none
  | c :: rest =>
    if c = '%' then none
    else (percentDecode rest).map (asciiByte c :: ·)

section

variable {keep : UInt8 → Bool} (hascii : AsciiOnly keep) (hpercent : keep 0x25 = false)

theorem upperDigit_spec {d : Nat} (h : d < 16) :
    isUpperHex (upperDigit d) = true ∧ toDigit16 (asciiByte (upperDigit d)) = some d := by
  have hall : ∀ d < 16, isUpperHex (upperDigit d) = true ∧
      toDigit16 (asciiByte (upperDigit d)) = some d := by decide
  exact hall d h

theorem percentByte_kept {b : UInt8} (h : keep b = true) : percentByte keep b = [charOfByte b] :=
  if_pos h

theorem percentByte_escaped {b : UInt8} (h : ¬ keep b = true) :
    percentByte keep b = ['%', upperDigit (b.toNat / 16), upperDigit (b.toNat % 16)] :=
  if_neg h

theorem percentBytes_cons (b : UInt8) (bs : Bytes) :
    percentBytes keep (b :: bs) = percentByte keep b ++ percentBytes keep bs := rfl

theorem escaped_percentBytes (bytes : Bytes) : Escaped keep (percentBytes keep bytes) := by
  induction bytes with
  | nil => exact .nil
  | cons b bs ih =>
    have hb : b.toNat < 256 := b.toNat_lt
    rw [percentBytes_cons]
    by_cases hk : keep b = true
    · rw [percentByte_kept hk]
      exact .kept hk ih
    · rw [percentByte_escaped hk]
      exact .triple (upperDigit_spec (by omega)).1 (upperDigit_spec (by omega)).1 ih

include hascii hpercent in
theorem percentDecode_kept {b : UInt8} (h : keep b = true) (rest : List Char) :
    percentDecode (charOfByte b :: rest) = (percentDecode rest).map (b :: ·) := by
  have hall : ∀ n < 128, (Char.ofNat n).toNat = n := by decide
  have hnat : (charOfByte b).toNat = b.toNat := hall _ (hascii b h)
  have hne : charOfByte b ≠ '%' := by
    intro hc
    have hb : b = 0x25 := by
      rw [← UInt8.toNat_inj, ← hnat, hc]
      rfl
    rw [hb, hpercent] at h
    cases h
  have hbyte : asciiByte (charOfByte b) = b := by
    unfold asciiByte
    rw [hnat, UInt8.ofNat_toNat]
  rw [percentDecode, if_neg hne, hbyte]
  intro hi lo rest' he
  exact absurd he hne

include hascii hpercent in
/-- Decoding what was encoded gives the bytes back. -/
theorem percentDecode_percentBytes (bytes : Bytes) :
    percentDecode (percentBytes keep bytes) = some bytes := by
  induction bytes with
  | nil => rfl
  | cons b bs ih =>
    have hb : b.toNat < 256 := b.toNat_lt
    rw [percentBytes_cons]
    by_cases hk : keep b = true
    · rw [percentByte_kept hk, List.singleton_append, percentDecode_kept hascii hpercent hk, ih]
      rfl
    · have hdiv : b.toNat / 16 < 16 := by omega
      have hmod : b.toNat % 16 < 16 := by omega
      have hbyte : UInt8.ofNat (16 * (b.toNat / 16) + b.toNat % 16) = b := by
        rw [Nat.div_add_mod, UInt8.ofNat_toNat]
      rw [percentByte_escaped hk]
      simp only [List.cons_append, List.nil_append, percentDecode, (upperDigit_spec hdiv).2,
        (upperDigit_spec hmod).2, ih, hbyte]

/-- Nothing gets shorter, and what does not get longer is kept. -/
theorem length_percentBytes (bytes : Bytes) :
    bytes.length ≤ (percentBytes keep bytes).length ∧
      ((percentBytes keep bytes).length ≤ bytes.length → ∀ b ∈ bytes, keep b = true) := by
  induction bytes with
  | nil => exact ⟨Nat.le_refl 0, fun _ b hb => absurd hb List.not_mem_nil⟩
  | cons b bs ih =>
    obtain ⟨hle, hkept⟩ := ih
    rw [percentBytes_cons, List.length_append, List.length_cons, List.forall_mem_cons]
    by_cases hk : keep b = true
    · rw [percentByte_kept hk, List.length_singleton]
      exact ⟨by omega, fun h => ⟨hk, hkept (by omega)⟩⟩
    · rw [percentByte_escaped hk]
      simp only [List.length_cons, List.length_nil]
      exact ⟨by omega, fun h => absurd h (by omega)⟩

include hascii in
/-- Encoding changes nothing exactly where every byte is kept. -/
theorem percentBytes_utf8_eq_iff {s : String} :
    percentBytes keep (utf8 s) = s.toList ↔ (utf8 s).all keep = true := by
  constructor
  · intro h
    rw [List.all_eq_true]
    apply (length_percentBytes (utf8 s)).2
    rw [h]
    exact length_le_length_utf8 s
  · intro h
    have hall := (utf8_all_iff hascii).mp h
    rw [utf8_ascii (fun c hc => (hall c hc).1)]
    generalize s.toList = l at hall
    induction l with
    | nil => rfl
    | cons c cs ih =>
      rw [List.forall_mem_cons] at hall
      obtain ⟨⟨hlt, hk⟩, hrest⟩ := hall
      have hc : charOfByte (asciiByte c) = c := by
        unfold charOfByte
        rw [toNat_asciiByte hlt, Char.ofNat_toNat]
      rw [List.map_cons, percentBytes_cons, percentByte_kept hk, ih hrest, hc]
      rfl

end

end VerityVerifier.Library.Text
