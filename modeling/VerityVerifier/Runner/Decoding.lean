import VerityVerifier.Core.Hex
import VerityVerifier.Library.Boundary

/-!
# The hex decoder of the runners

The two runners decode hex in a loop of their own, over byte ranges of the string. It asks
the integer parser for each pair, and that parser takes a sign: a plus in the place of a
high digit reads as zero. Everywhere else the decoder is the strict one.
-/
namespace VerityVerifier.Runner

open VerityVerifier.Core
open VerityVerifier.Library.ByteString
open VerityVerifier.Library.Text

/-- `u8::from_str_radix(s, 16)`: at least one digit after an optional plus, without overflow. -/
def fromStrRadix16 (s : Bytes) : Option UInt8 :=
  let digits := if s.head? = some 43 then s.tail else s
  if digits.isEmpty then none
  else
    (digits.mapM toDigit16).bind fun ds =>
      let value := ds.foldl (fun n d => 16 * n + d) 0
      if value < 256 then some (UInt8.ofNat value) else none

/-- The starts of the pairs, `(0..len).step_by(2)`. -/
def starts (len : Nat) : List Nat := (List.range ((len + 1) / 2)).map (2 * ·)

def hexDecode (s : String) : Option Bytes :=
  let s := utf8 ((stripPrefix "0x" s).getD s)
  if s.length % 2 ≠ 0 then none
  else (starts s.length).mapM fun i => (getRange s i (i + 2)).bind fromStrRadix16

/-! ## The strict decoder, but for a plus -/

/-- Read a plus in the place of a high digit as a zero. -/
def unsign : Bytes → Bytes
  | hi :: lo :: rest => (if hi = 43 then 48 else hi) :: lo :: unsign rest
  | l => l

theorem fromStrRadix16_pair (hi lo : UInt8) : fromStrRadix16 [hi, lo] =
    match toDigit16 (if hi = 43 then 48 else hi), toDigit16 lo with
    | some h, some l => some (UInt8.ofNat (16 * h + l))
    | _, _ => none := by
  by_cases hp : hi = 43
  · subst hp
    have hz : toDigit16 48 = some 0 := by decide
    simp only [fromStrRadix16, List.head?_cons, if_true, List.tail_cons, List.isEmpty_cons, hz]
    cases hl : toDigit16 lo with
    | none => simp [hl]
    | some l =>
      have hlt := toDigit16_lt hl
      simp only [Bool.false_eq_true, if_false, List.mapM_cons, List.mapM_nil, hl]
      show (if 16 * 0 + l < 256 then some (UInt8.ofNat (16 * 0 + l)) else none) = _
      rw [if_pos (by omega)]
  · have hh : ¬ ([hi, lo].head? = some 43) := by
      rw [List.head?_cons, Option.some.injEq]
      exact hp
    simp only [fromStrRadix16, if_neg hh, if_neg hp, List.isEmpty_cons]
    cases hx : toDigit16 hi with
    | none => simp [hx]
    | some x =>
      cases hl : toDigit16 lo with
      | none => simp [hx, hl]
      | some l =>
        have hlt := toDigit16_lt hl
        have hxt := toDigit16_lt hx
        simp only [Bool.false_eq_true, if_false, List.mapM_cons, List.mapM_nil, hx, hl]
        show (if 16 * (16 * 0 + x) + l < 256 then
          some (UInt8.ofNat (16 * (16 * 0 + x) + l)) else none) = _
        rw [if_pos (by omega), Nat.mul_zero, Nat.zero_add]

/-- A byte that is not ASCII is no digit. -/
theorem fromStrRadix16_high {hi lo : UInt8} (h : 128 ≤ hi.toNat ∨ 128 ≤ lo.toNat) :
    fromStrRadix16 [hi, lo] = none := by
  have hnone : ∀ b : UInt8, 128 ≤ b.toNat → toDigit16 b = none := by
    intro b hb
    unfold toDigit16
    rw [if_neg (by omega), if_neg (by omega), if_neg (by omega)]
  rw [fromStrRadix16_pair]
  rcases h with h | h
  · have hne : hi ≠ 43 := by
      intro he
      subst he
      exact absurd h (by decide)
    rw [if_neg hne, hnone hi h]
  · rw [hnone lo h]
    cases toDigit16 (if hi = 43 then 48 else hi) <;> rfl

/-- The loop from one pair on decodes what is left. -/
theorem decode_from {s : Bytes} (hs : s.IsChain Continues) : ∀ {n i : Nat},
    s.length = i + 2 * n →
    ((List.range n).map fun k => i + 2 * k).mapM
      (fun i => (getRange s i (i + 2)).bind fromStrRadix16) = fromHex (unsign (s.drop i))
  | 0, i, hl => by
    rw [List.drop_eq_nil_of_le (by omega)]
    rfl
  | n + 1, i, hl => by
    obtain ⟨a, b, rest, hd⟩ : ∃ a b rest, s.drop i = a :: b :: rest := by
      match hr : s.drop i with
      | [] =>
        have hlen := congrArg List.length hr
        rw [List.length_drop, List.length_nil] at hlen
        omega
      | [_] =>
        have hlen := congrArg List.length hr
        rw [List.length_drop, List.length_singleton] at hlen
        omega
      | a :: b :: rest => exact ⟨a, b, rest, rfl⟩
    have hrest : s.drop (i + 2) = rest := by
      rw [← List.drop_drop, hd]
      rfl
    have ih := decode_from hs (n := n) (i := i + 2) (by omega)
    have hmap : ((List.range (n + 1)).map fun k => i + 2 * k) =
        i :: (List.range n).map fun k => i + 2 + 2 * k := by
      rw [List.range_succ_eq_map, List.map_cons, List.map_map, Nat.mul_zero, Nat.add_zero]
      refine congrArg (i :: ·) (List.map_congr_left fun k _ => ?_)
      show i + 2 * (k + 1) = i + 2 + 2 * k
      omega
    have hpair : (getRange s i (i + 2)).bind fromStrRadix16 = fromStrRadix16 [a, b] := by
      rcases getRange_two hs hd with hg | ⟨hg, hh⟩
      · rw [hg]
        rfl
      · rw [hg, fromStrRadix16_high hh]
        rfl
    rw [hmap, List.mapM_cons, hpair, ih, hrest, hd, unsign, fromHex, fromStrRadix16_pair]
    cases toDigit16 (if a = 43 then 48 else a) with
    | none => rfl
    | some x =>
      cases toDigit16 b with
      | none => rfl
      | some y => cases fromHex (unsign rest) <;> rfl

theorem fromHex_odd {l : Bytes} (h : l.length % 2 ≠ 0) : fromHex l = none := by
  cases hd : fromHex l with
  | none => rfl
  | some bytes => exact absurd (fromHex_isSome_iff.mp ⟨bytes, hd⟩).1 h

theorem length_unsign : ∀ l : Bytes, (unsign l).length = l.length
  | [] => rfl
  | [_] => rfl
  | _ :: _ :: rest => by
    rw [unsign, List.length_cons, List.length_cons, length_unsign rest]
    rfl

/-- The loop is the strict decoder on the string with its signs read as zeros. -/
theorem hexDecode_eq (s : String) :
    hexDecode s = fromHex (unsign (utf8 ((stripPrefix "0x" s).getD s))) := by
  unfold hexDecode
  generalize hu : (stripPrefix "0x" s).getD s = u
  show (if (utf8 u).length % 2 ≠ 0 then none else _) = _
  by_cases hl : (utf8 u).length % 2 = 0
  · rw [if_neg (not_not.mpr hl)]
    have hn : (utf8 u).length = 0 + 2 * (((utf8 u).length + 1) / 2) := by omega
    have h := decode_from (utf8_isChain u) hn
    simp only [Nat.zero_add, List.drop_zero] at h
    exact h
  · rw [if_pos hl, fromHex_odd]
    rw [length_unsign]
    exact hl

theorem unsign_eq_self : ∀ {l : Bytes}, 43 ∉ l → unsign l = l
  | [], _ => rfl
  | [_], _ => rfl
  | hi :: lo :: rest, h => by
    simp only [List.mem_cons, not_or] at h
    rw [unsign, if_neg (fun he => h.1 he.symm), unsign_eq_self h.2.2]

theorem plus_mem {s : String} (h : 43 ∈ utf8 s) : '+' ∈ s.toList := by
  obtain ⟨c, hc, hlt, hb⟩ := mem_of_mem_utf8 h (by decide)
  have hn : c.toNat = 43 := by
    rw [← toNat_asciiByte hlt, hb]
    rfl
  have he : c = '+' := by
    rw [← Char.ofNat_toNat c, hn]
  exact he ▸ hc

theorem mem_of_mem_unmarked {s : String} {c : Char}
    (h : c ∈ ((stripPrefix "0x" s).getD s).toList) : c ∈ s.toList := by
  cases hs : stripPrefix "0x" s with
  | none =>
    rw [hs] at h
    exact h
  | some rest =>
    rw [hs] at h
    rw [stripPrefix_eq_some_iff.mp hs]
    exact List.mem_append_right _ h

theorem hexDecode_hex (bytes : Bytes) : hexDecode (hex bytes) = some bytes ∧
    hexDecode ("0x" ++ hex bytes) = some bytes := by
  have hd := fromHex_utf8_hex bytes
  have hdigits := hexdigits_of_casing (fromHex_utf8_iff.mp hd)
  have hplus : 43 ∉ utf8 (hex bytes) := by
    intro hm
    exact absurd (List.all_eq_true.mp hdigits _ (plus_mem hm)) (by decide)
  have hbare : stripPrefix "0x" (hex bytes) = none := by
    cases hs : stripPrefix "0x" (hex bytes) with
    | none => rfl
    | some rest =>
      have hm : 'x' ∈ (hex bytes).toList := by
        rw [stripPrefix_eq_some_iff.mp hs]
        exact List.mem_append_left _ (by decide)
      exact absurd (List.all_eq_true.mp hdigits _ hm) (by decide)
  have hmarked : stripPrefix "0x" ("0x" ++ hex bytes) = some (hex bytes) :=
    stripPrefix_eq_some_iff.mpr String.toList_append
  constructor
  · rw [hexDecode_eq, hbare, Option.getD_none, unsign_eq_self hplus, hd]
  · rw [hexDecode_eq, hmarked, Option.getD_some, unsign_eq_self hplus, hd]

/-- The runners' decoder is the library's on every string but those with white space around
them or with a plus sign, it reads a plus before a digit as zero, and it inverts the
rendering. -/
theorem hexDecode_exact (usizeBits : Nat) :
    (∀ s, hexDecode s = fromHex (unsign (utf8 ((stripPrefix "0x" s).getD s)))) ∧
    (∀ s, trim s = s → '+' ∉ s.toList → Quote.parseHex usizeBits s =
      match hexDecode s with
      | some bytes => Quote.parse usizeBits bytes
      | none => .error .invalidHex) ∧
    ∀ bytes, hexDecode (hex bytes) = some bytes ∧ hexDecode ("0x" ++ hex bytes) = some bytes := by
  refine ⟨hexDecode_eq, ?_, hexDecode_hex⟩
  intro s ht hp
  have hplus : 43 ∉ utf8 ((stripPrefix "0x" s).getD s) :=
    fun hm => hp (mem_of_mem_unmarked (plus_mem hm))
  have hcore : hexDecode s = fromHex (utf8 (ComposeHash.core s)) := by
    rw [hexDecode_eq, unsign_eq_self hplus, ComposeHash.core, ht]
  cases hd : fromHex (utf8 (ComposeHash.core s)) with
  | none => simp only [Quote.parseHex_eq, hcore, hd]
  | some bytes => simp only [Quote.parseHex_eq, hcore, hd]

example : hexDecode "+f0A" = some [0x0f, 0x0a] := by decide

end VerityVerifier.Runner
