import VerityVerifier.Library.Utf8

/-!
# Hexadecimal, both ways

Decoding takes the digits in pairs, the high one first, in either case. It inverts the
rendering: what decodes to a byte string is its hex form up to case.
-/
namespace VerityVerifier.Library.Text

open VerityVerifier.Library.ByteString

/-- The bytes that pairs of hex digits denote. -/
def fromHex : Bytes → Option Bytes
  | [] => some []
  | [_] => none
  | hi :: lo :: rest =>
    match toDigit16 hi, toDigit16 lo, fromHex rest with
    | some hi, some lo, some bytes => some (UInt8.ofNat (16 * hi + lo) :: bytes)
    | _, _, _ => none

/-- `to_ascii_lowercase`. -/
def asciiLowercase (s : String) : String := String.ofList (s.toList.map Char.toLower)

theorem fromHex_cons_iff {hi lo : UInt8} {rest bytes : Bytes} :
    fromHex (hi :: lo :: rest) = some bytes ↔ ∃ h l bs, toDigit16 hi = some h ∧
      toDigit16 lo = some l ∧ fromHex rest = some bs ∧ bytes = UInt8.ofNat (16 * h + l) :: bs := by
  rw [fromHex]
  constructor
  · intro h
    split at h
    · rename_i h₁ h₂ h₃
      exact ⟨_, _, _, h₁, h₂, h₃, (Option.some.inj h).symm⟩
    · cases h
  · intro h
    obtain ⟨h, l, bs, h₁, h₂, h₃, rfl⟩ := h
    rw [h₁, h₂, h₃]

theorem length_of_fromHex : ∀ {l bytes : Bytes}, fromHex l = some bytes →
    l.length = 2 * bytes.length
  | [], bytes, h => by
    rw [← Option.some.inj h]
    rfl
  | [_], bytes, h => by cases h
  | hi :: lo :: rest, bytes, h => by
    obtain ⟨_, _, bs, -, -, hr, rfl⟩ := fromHex_cons_iff.mp h
    have ih := length_of_fromHex hr
    simp only [List.length_cons]
    omega

/-- Exactly the even runs of hex digits decode. -/
theorem fromHex_isSome_iff : ∀ {l : Bytes},
    (∃ bytes, fromHex l = some bytes) ↔ l.length % 2 = 0 ∧ l.all isAsciiHexdigit = true
  | [] => by simp [fromHex]
  | [_] => by simp [fromHex]
  | hi :: lo :: rest => by
    have ih := fromHex_isSome_iff (l := rest)
    have hmod : (hi :: lo :: rest).length % 2 = rest.length % 2 := by
      simp only [List.length_cons]
      omega
    rw [hmod, List.all_cons, List.all_cons, Bool.and_eq_true, Bool.and_eq_true, ← toDigit16_iff,
      ← toDigit16_iff]
    constructor
    · intro h
      obtain ⟨bytes, hb⟩ := h
      obtain ⟨h, l, bs, h₁, h₂, h₃, -⟩ := fromHex_cons_iff.mp hb
      obtain ⟨hm, ha⟩ := ih.mp ⟨bs, h₃⟩
      exact ⟨hm, ⟨h, h₁⟩, ⟨l, h₂⟩, ha⟩
    · intro h
      obtain ⟨hm, ⟨h, h₁⟩, ⟨l, h₂⟩, ha⟩ := h
      obtain ⟨bs, h₃⟩ := ih.mpr ⟨hm, ha⟩
      exact ⟨_, fromHex_cons_iff.mpr ⟨h, l, bs, h₁, h₂, h₃, rfl⟩⟩

/-! ## The hex form -/

/-- The two digits of a byte. -/
def hexChars (bytes : Bytes) : List Char :=
  bytes.flatMap fun b => [Nat.digitChar (b.toNat / 16), Nat.digitChar (b.toNat % 16)]

theorem toList_hex (bytes : Bytes) : (hex bytes).toList = hexChars bytes := by
  have hjoin : ∀ l : List String, (String.join l).toList = l.flatMap String.toList := by
    intro l
    simp
  unfold hex hexChars
  rw [hjoin, List.flatMap_map]
  simp only [hexByte, String.toList_ofList]

theorem toDigit16_asciiByte_iff {c : Char} (hc : c.toNat < 128) {d : Nat} (hd : d < 16) :
    toDigit16 (asciiByte c) = some d ↔ c.toLower = Nat.digitChar d := by
  have hall : ∀ n < 128, ∀ d < 16,
      toDigit16 (asciiByte (Char.ofNat n)) = some d ↔ (Char.ofNat n).toLower = Nat.digitChar d := by
    decide +kernel
  have h := hall c.toNat hc d hd
  rwa [Char.ofNat_toNat] at h

/-- A pair of digits denotes a byte when the two are its digits, up to case. -/
theorem pair_iff {x y : Char} (hx : x.toNat < 128) (hy : y.toNat < 128) {b : UInt8} :
    (∃ h l, toDigit16 (asciiByte x) = some h ∧ toDigit16 (asciiByte y) = some l ∧
      b = UInt8.ofNat (16 * h + l)) ↔
    x.toLower = Nat.digitChar (b.toNat / 16) ∧ y.toLower = Nat.digitChar (b.toNat % 16) := by
  have hb : b.toNat < 256 := b.toNat_lt
  rw [← toDigit16_asciiByte_iff hx (by omega), ← toDigit16_asciiByte_iff hy (by omega)]
  constructor
  · intro h
    obtain ⟨h, l, h₁, h₂, rfl⟩ := h
    have hh := toDigit16_lt h₁
    have hl := toDigit16_lt h₂
    rw [UInt8.toNat_ofNat', Nat.mod_eq_of_lt (by omega), h₁, h₂]
    exact ⟨congrArg some (by omega), congrArg some (by omega)⟩
  · intro h
    refine ⟨_, _, h.1, h.2, ?_⟩
    rw [← UInt8.toNat_inj, UInt8.toNat_ofNat', Nat.mod_eq_of_lt (by omega)]
    omega

theorem fromHex_map_iff : ∀ {l : List Char} {bytes : Bytes}, (∀ c ∈ l, c.toNat < 128) →
    (fromHex (l.map asciiByte) = some bytes ↔ l.map Char.toLower = hexChars bytes)
  | [], bytes, _ => by cases bytes <;> simp [fromHex, hexChars]
  | [x], bytes, _ => by cases bytes <;> simp [fromHex, hexChars]
  | x :: y :: rest, [], _ => by
    have hn : fromHex ((x :: y :: rest).map asciiByte) ≠ some [] := by
      intro h
      have hl := length_of_fromHex h
      simp at hl
    exact iff_of_false hn (by simp [hexChars])
  | x :: y :: rest, b :: bs, hl => by
    simp only [List.forall_mem_cons] at hl
    obtain ⟨hx, hy, hrest⟩ := hl
    have ih : fromHex (rest.map asciiByte) = some bs ↔ _ := fromHex_map_iff hrest
    have hp := pair_iff hx hy (b := b)
    have hchars : hexChars (b :: bs) = Nat.digitChar (b.toNat / 16) ::
        Nat.digitChar (b.toNat % 16) :: hexChars bs := rfl
    rw [hchars]
    simp only [List.map_cons, fromHex_cons_iff, List.cons.injEq]
    rw [← ih, ← and_assoc, ← hp]
    constructor
    · intro h
      obtain ⟨h, l, bs', h₁, h₂, h₃, rfl, rfl⟩ := h
      exact ⟨⟨h, l, h₁, h₂, rfl⟩, h₃⟩
    · intro h
      obtain ⟨⟨h, l, h₁, h₂, rfl⟩, h₃⟩ := h
      exact ⟨h, l, bs, h₁, h₂, h₃, rfl, rfl⟩

theorem toNat_of_toLower {c : Char} (h : c.toLower.toNat < 128) : c.toNat < 128 := by
  unfold Char.toLower at h
  split at h
  · rename_i hu
    have hle : c.val.toNat ≤ 90 := hu.2
    change c.val.toNat < 128
    omega
  · exact h

/-- The characters of a hex form are the digits below 16. -/
theorem exists_of_mem_hexChars {bytes : Bytes} {c : Char} (h : c ∈ hexChars bytes) :
    ∃ d < 16, c = Nat.digitChar d := by
  obtain ⟨b, -, hc⟩ := List.mem_flatMap.mp h
  have hb : b.toNat < 256 := b.toNat_lt
  simp only [List.mem_cons, List.not_mem_nil, or_false] at hc
  obtain rfl | rfl := hc
  · exact ⟨b.toNat / 16, by omega, rfl⟩
  · exact ⟨b.toNat % 16, by omega, rfl⟩

theorem toNat_hexChars {bytes : Bytes} {c : Char} (h : c ∈ hexChars bytes) : c.toNat < 128 := by
  have hdigit : ∀ d < 16, (Nat.digitChar d).toNat < 128 := by decide
  obtain ⟨d, hd, rfl⟩ := exists_of_mem_hexChars h
  exact hdigit d hd

/-- A string decodes to a byte string exactly when it is its hex form up to case. -/
theorem fromHex_utf8_iff {t : String} {bytes : Bytes} :
    fromHex (utf8 t) = some bytes ↔ asciiLowercase t = hex bytes := by
  have hlower : asciiLowercase t = hex bytes ↔ t.toList.map Char.toLower = hexChars bytes := by
    rw [← String.toList_inj, toList_hex, asciiLowercase, String.toList_ofList]
  by_cases hascii : ∀ c ∈ t.toList, c.toNat < 128
  · rw [hlower, utf8_ascii hascii, fromHex_map_iff hascii]
  · apply iff_of_false
    · intro h
      have hd := (fromHex_isSome_iff.mp ⟨bytes, h⟩).2
      exact hascii (fun c hc => ((utf8_all_iff asciiOnly_hexdigit).mp hd c hc).1)
    · intro h
      apply hascii
      intro c hc
      have hm : c.toLower ∈ hexChars bytes := by
        rw [← hlower.mp h]
        exact List.mem_map_of_mem hc
      exact toNat_of_toLower (toNat_hexChars hm)

theorem fromHex_utf8_hex (bytes : Bytes) : fromHex (utf8 (hex bytes)) = some bytes := by
  have hdigit : ∀ d < 16, (Nat.digitChar d).toLower = Nat.digitChar d := by decide
  have hmem : ∀ c ∈ hexChars bytes, c.toLower = c := by
    intro c hc
    obtain ⟨d, hd, rfl⟩ := exists_of_mem_hexChars hc
    exact hdigit d hd
  rw [fromHex_utf8_iff, ← String.toList_inj, asciiLowercase, String.toList_ofList, toList_hex]
  exact (List.map_congr_left hmem).trans (List.map_id _)

end VerityVerifier.Library.Text
