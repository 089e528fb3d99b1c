import VerityVerifier.Library.Hex
import VerityVerifier.Library.Split
import VerityVerifier.Core.Binding

/-!
# The two hex decoders

A digest and a quote are read from hex by two loops of their own. Both take what stands
between the white space, without one leading `0x`, and decode all of it or nothing.
-/
namespace VerityVerifier.Core

open VerityVerifier.Library.ByteString
open VerityVerifier.Library.Fallible
open VerityVerifier.Library.Text

namespace Quote

/-- The loop over the two-byte chunks, with the bytes pushed so far. -/
def decodeChunks : Bytes → Bytes → Except ParseError Bytes
  | hi :: lo :: rest, bytes =>
    match toDigit16 hi, toDigit16 lo with
    | some hi, some lo =>
      match ComposeHash.u8TryFrom (hi <<< 4 ||| lo) with
      | some byte => decodeChunks rest (bytes ++ [byte])
      | none => .error .invalidHex
    | _, _ => .error .invalidHex
  | _, bytes => .ok bytes

def parseHex (usizeBits : Nat) (hex : String) : Except ParseError Quote :=
  let s := trim hex
  let s := (stripPrefix "0x" s).getD s
  if (utf8 s).length % 2 ≠ 0 ∨ (utf8 s).all isAsciiHexdigit = false then .error .invalidHex
  else (decodeChunks (utf8 s) []).bind (parse usizeBits)

end Quote

/-! ## The loops decode -/

theorem u8TryFrom_digits {hi lo : Nat} (hh : hi < 16) (hl : lo < 16) :
    ComposeHash.u8TryFrom (hi <<< 4 ||| lo) = some (UInt8.ofNat (16 * hi + lo)) := by
  have hor : hi <<< 4 ||| lo = 16 * hi + lo := by
    rw [← Nat.shiftLeft_add_eq_or_of_lt (by omega), Nat.shiftLeft_eq]
    omega
  unfold ComposeHash.u8TryFrom
  rw [hor]
  exact if_pos (by omega)

theorem Quote.decodeChunks_eq : ∀ {chunks decoded bytes : Bytes}, fromHex chunks = some decoded →
    Quote.decodeChunks chunks bytes = .ok (bytes ++ decoded)
  | [], decoded, bytes, h => by
    rw [← Option.some.inj h, List.append_nil]
    rfl
  | [_], decoded, bytes, h => by cases h
  | hi :: lo :: rest, decoded, bytes, h => by
    obtain ⟨x, y, ds, hx, hy, hr, rfl⟩ := fromHex_cons_iff.mp h
    have hb := u8TryFrom_digits (toDigit16_lt hx) (toDigit16_lt hy)
    simp only [Quote.decodeChunks, hx, hy, hb]
    rw [Quote.decodeChunks_eq hr, List.append_assoc]
    rfl

/-- The slots from `i` on take the decoded bytes. -/
theorem ComposeHash.decodeChunks_eq {got : Nat} : ∀ {n i : Nat} {chunks : Bytes}
    {bytes : Block composeHashLen}, chunks.length = 2 * n → i + n ≤ composeHashLen →
    (ComposeHash.decodeChunks got i chunks bytes).map Block.toList =
      match fromHex chunks with
      | some decoded => .ok (overwrite bytes.toList i decoded)
      | none => .error .notHex
  | 0, i, chunks, bytes, hn, _ => by
    obtain rfl := List.length_eq_zero_iff.mp hn
    simp [ComposeHash.decodeChunks, fromHex, overwrite, Except.map]
  | n + 1, i, hi :: lo :: rest, bytes, hn, hle => by
    have hrest : rest.length = 2 * n := by
      simp only [List.length_cons] at hn
      omega
    have hlt : i < composeHashLen := by omega
    cases hx : toDigit16 hi with
    | none => simp [ComposeHash.decodeChunks, fromHex, hx, Except.map]
    | some x =>
      cases hy : toDigit16 lo with
      | none => simp [ComposeHash.decodeChunks, fromHex, hx, hy, Except.map]
      | some y =>
        have hb := u8TryFrom_digits (toDigit16_lt hx) (toDigit16_lt hy)
        have ih : (ComposeHash.decodeChunks got (i + 1) rest
            (bytes.set i (UInt8.ofNat (16 * x + y)))).map Block.toList = _ :=
          ComposeHash.decodeChunks_eq hrest (by omega)
        simp only [ComposeHash.decodeChunks, fromHex, hx, hy, hb, if_pos hlt]
        rw [ih]
        cases hd : fromHex rest with
        | none => rfl
        | some ds =>
          have hlen : i < bytes.toList.length := by
            rw [bytes.length_eq]
            exact hlt
          exact congrArg Except.ok (overwrite_set hlen _ ds)

theorem ComposeHash.parseHex_eq (s : String) :
    (ComposeHash.parseHex s).map (fun h => h.bytes.toList) =
      if (utf8 (ComposeHash.core s)).length ≠ 64 then
        .error (.wrongLength (utf8 (ComposeHash.core s)).length)
      else
        match fromHex (utf8 (ComposeHash.core s)) with
        | some bytes => .ok bytes
        | none => .error .notHex := by
  show (if (utf8 (ComposeHash.core s)).length ≠ 64 then
      Except.error (HashParseError.wrongLength (utf8 (ComposeHash.core s)).length)
    else (ComposeHash.decodeChunks (utf8 (ComposeHash.core s)).length 0 (utf8 (ComposeHash.core s))
      (Block.zero composeHashLen)).map ComposeHash.mk).map (fun h => h.bytes.toList) = _
  by_cases hl : (utf8 (ComposeHash.core s)).length = 64
  · rw [if_neg (not_not.mpr hl), if_neg (not_not.mpr hl)]
    have hmap : ∀ x : Except HashParseError (Block composeHashLen),
        (x.map ComposeHash.mk).map (fun h => h.bytes.toList) = x.map Block.toList := by
      intro x
      cases x <;> rfl
    rw [hmap, ComposeHash.decodeChunks_eq (n := 32) (by omega) (by decide)]
    cases hd : fromHex (utf8 (ComposeHash.core s)) with
    | none => rfl
    | some bytes =>
      have hlen := length_of_fromHex hd
      have hfull : bytes.length = (Block.zero composeHashLen).toList.length := by
        rw [Block.length_eq]
        show bytes.length = 32
        omega
      exact congrArg Except.ok (overwrite_all hfull)
  · rw [if_pos hl, if_pos hl]
    rfl

/-- Both decoders read what stands between the white space, without one mark. -/
theorem Quote.parseHex_eq (usizeBits : Nat) (s : String) : Quote.parseHex usizeBits s =
    match fromHex (utf8 (ComposeHash.core s)) with
    | some bytes => Quote.parse usizeBits bytes
    | none => .error .invalidHex := by
  show (if (utf8 (ComposeHash.core s)).length % 2 ≠ 0 ∨
    (utf8 (ComposeHash.core s)).all isAsciiHexdigit = false then Except.error ParseError.invalidHex
    else (Quote.decodeChunks (utf8 (ComposeHash.core s)) []).bind (Quote.parse usizeBits)) = _
  cases hd : fromHex (utf8 (ComposeHash.core s)) with
  | none =>
    apply if_pos
    by_contra hn
    rw [not_or, not_not, Bool.not_eq_false] at hn
    obtain ⟨bytes, hb⟩ := fromHex_isSome_iff.mpr hn
    rw [hd] at hb
    cases hb
  | some bytes =>
    obtain ⟨hm, ha⟩ := fromHex_isSome_iff.mp ⟨bytes, hd⟩
    rw [if_neg, Quote.decodeChunks_eq hd]
    · rfl
    · rw [not_or, not_not, Bool.not_eq_false]
      exact ⟨hm, ha⟩

/-! ## Which strings decode -/

/-- A digest parses when all of the core decodes to it. -/
theorem ComposeHash.parseHex_eq_ok_iff {s : String} {h : ComposeHash} :
    ComposeHash.parseHex s = .ok h ↔ (utf8 (ComposeHash.core s)).length = 64 ∧
      fromHex (utf8 (ComposeHash.core s)) = some h.bytes.toList := by
  have hmap : ComposeHash.parseHex s = .ok h ↔
      (ComposeHash.parseHex s).map (fun h => h.bytes.toList) = .ok h.bytes.toList := by
    rw [map_ok_iff]
    constructor
    · intro he
      exact ⟨h, he, rfl⟩
    · intro he
      obtain ⟨⟨⟨l', hl'⟩⟩, he, hb⟩ := he
      obtain ⟨⟨l, hl⟩⟩ := h
      obtain rfl : l' = l := hb
      exact he
  rw [hmap, ComposeHash.parseHex_eq]
  by_cases hl : (utf8 (ComposeHash.core s)).length = 64
  · rw [if_neg (not_not.mpr hl)]
    cases fromHex (utf8 (ComposeHash.core s)) <;> simp [hl]
  · rw [if_pos hl]
    simp [hl]

/-- The length is looked at first, and any digest of the right length is all hex or refused. -/
theorem ComposeHash.parseHex_eq_error_iff {s : String} {e : HashParseError} :
    ComposeHash.parseHex s = .error e ↔
      (utf8 (ComposeHash.core s)).length ≠ 64 ∧
        e = .wrongLength (utf8 (ComposeHash.core s)).length ∨
      (utf8 (ComposeHash.core s)).length = 64 ∧
        (utf8 (ComposeHash.core s)).all isAsciiHexdigit = false ∧ e = .notHex := by
  rw [← map_error_iff (f := fun h => h.bytes.toList), ComposeHash.parseHex_eq]
  by_cases hl : (utf8 (ComposeHash.core s)).length = 64
  · rw [if_neg (not_not.mpr hl)]
    cases hd : fromHex (utf8 (ComposeHash.core s)) with
    | none =>
      have ha : (utf8 (ComposeHash.core s)).all isAsciiHexdigit = false := by
        by_contra hn
        rw [Bool.not_eq_false] at hn
        obtain ⟨bytes, hb⟩ := fromHex_isSome_iff.mpr ⟨by omega, hn⟩
        rw [hd] at hb
        cases hb
      simp [hl, ha, eq_comm]
    | some bytes =>
      have ha := (fromHex_isSome_iff.mp ⟨bytes, hd⟩).2
      simp [hl, ha]
  · rw [if_pos hl]
    constructor
    · intro h
      exact .inl ⟨hl, (Except.error.inj h).symm⟩
    · intro h
      obtain ⟨-, rfl⟩ | ⟨h64, -⟩ := h
      · rfl
      · exact absurd h64 hl

/-- Exactly the strings of 64 hex digits parse, white space and one `0x` aside. -/
theorem ComposeHash.parseHex_ok_iff {s : String} :
    (∃ h, ComposeHash.parseHex s = .ok h) ↔
      (utf8 (ComposeHash.core s)).length = composeHashLen * 2 ∧
      (utf8 (ComposeHash.core s)).all isAsciiHexdigit = true := by
  have hexcl : (∃ h, ComposeHash.parseHex s = .ok h) ↔
      ¬ ∃ e, ComposeHash.parseHex s = .error e := by
    cases ComposeHash.parseHex s <;> simp
  have hlen : composeHashLen * 2 = 64 := rfl
  rw [hexcl, hlen]
  simp only [ComposeHash.parseHex_eq_error_iff]
  by_cases hl : (utf8 (ComposeHash.core s)).length = 64
  · cases (utf8 (ComposeHash.core s)).all isAsciiHexdigit <;> simp [hl]
  · simp [hl]

/-! ## What surrounds the digits -/

theorem isHexdigit_not_whitespace {c : Char} (h : isHexdigit c = true) :
    isWhitespace c = false := by
  simp only [isHexdigit, Bool.or_eq_true, Bool.and_eq_true, decide_eq_true_eq] at h
  simp only [isWhitespace, Bool.or_eq_false_iff, Bool.and_eq_false_iff, decide_eq_false_iff_not,
    beq_eq_false_iff_ne]
  omega

/-- White space and one mark around hex digits are not part of them. -/
theorem core_surrounded {pre mark t post : String} (hpre : pre.toList.all isWhitespace = true)
    (hpost : post.toList.all isWhitespace = true) (hmark : mark = "" ∨ mark = "0x")
    (ht : t.toList.all isHexdigit = true) : ComposeHash.core (pre ++ mark ++ t ++ post) = t := by
  have hclean : Trimmed (mark ++ t).toList := by
    apply trimmed_of_no_whitespace
    intro c hc
    rw [String.toList_append, List.mem_append] at hc
    obtain hc | hc := hc
    · obtain rfl | rfl := hmark
      · cases hc
      · have hmark : "0x".toList.all (fun c => !isWhitespace c) = true := by decide
        exact Bool.not_eq_true' _ |>.mp (List.all_eq_true.mp hmark c hc)
    · exact isHexdigit_not_whitespace (List.all_eq_true.mp ht c hc)
  have htrim : trim (pre ++ mark ++ t ++ post) = mark ++ t := by
    have hs : pre ++ mark ++ t ++ post =
        String.ofList (pre.toList ++ (mark ++ t).toList ++ post.toList) := by
      rw [← String.toList_inj]
      simp
    rw [hs, trim_surrounded hpre hpost hclean, String.ofList_toList]
  unfold ComposeHash.core
  rw [htrim]
  obtain rfl | rfl := hmark
  · have hn : stripPrefix "0x" t = none := by
      cases hs : stripPrefix "0x" t with
      | none => rfl
      | some rest =>
        have hx : 'x' ∈ t.toList := by
          rw [stripPrefix_eq_some_iff.mp hs]
          simp
        exact absurd (List.all_eq_true.mp ht _ hx) (by decide)
    rw [String.empty_append, hn]
    rfl
  · rw [stripPrefix_eq_some_iff.mpr (String.toList_append (s := "0x"))]
    rfl

theorem hexdigits_of_casing {t : String} {b : Bytes} (h : asciiLowercase t = hex b) :
    t.toList.all isHexdigit = true := by
  have hd := fromHex_isSome_iff.mp ⟨b, fromHex_utf8_iff.mpr h⟩
  exact utf8_all_hexdigit_iff.mp hd.2

/-- A digest parses back from its rendering. -/
theorem ComposeHash.parseHex_toString (h : ComposeHash) :
    ComposeHash.parseHex (toString h) = .ok h := by
  have hd : fromHex (utf8 (hex h.bytes.toList)) = some h.bytes.toList := fromHex_utf8_hex _
  have hdigits := hexdigits_of_casing (fromHex_utf8_iff.mp hd)
  have hcore : ComposeHash.core ("" ++ "" ++ hex h.bytes.toList ++ "") = hex h.bytes.toList :=
    core_surrounded rfl rfl (.inl rfl) hdigits
  rw [String.empty_append, String.empty_append, String.append_empty] at hcore
  show ComposeHash.parseHex (hex h.bytes.toList) = .ok h
  rw [ComposeHash.parseHex_eq_ok_iff, hcore, hd, length_of_fromHex hd, h.bytes.length_eq]
  exact ⟨rfl, rfl⟩

theorem ComposeHash.toString_injective {a b : ComposeHash} (h : toString a = toString b) :
    a = b := by
  have hp := ComposeHash.parseHex_toString a
  rw [h, ComposeHash.parseHex_toString b] at hp
  exact (Except.ok.inj hp).symm

theorem Measurement.toString_injective {a b : Measurement} (h : toString a = toString b) :
    a = b := by
  have ha : fromHex (utf8 (toString a)) = some a.bytes.toList := fromHex_utf8_hex _
  have hb : fromHex (utf8 (toString b)) = some b.bytes.toList := fromHex_utf8_hex _
  rw [h, hb] at ha
  cases a
  cases b
  exact congrArg Measurement.mk (Block.ext (Option.some.inj ha).symm)

/-- Both decoders accept exactly hex, decode all of it, and agree with the rendering. -/
theorem hexDecoders_exact (usizeBits : Nat) :
    (∀ s,
      (∀ h, ComposeHash.parseHex s = .ok h ↔ (ComposeHash.core s).length = 64 ∧
        (ComposeHash.core s).toList.all isHexdigit = true ∧
        fromHex (utf8 (ComposeHash.core s)) = some h.bytes.toList) ∧
      (∀ got, ComposeHash.parseHex s = .error (.wrongLength got) ↔
        (utf8 (ComposeHash.core s)).length ≠ 64 ∧ got = (utf8 (ComposeHash.core s)).length) ∧
      (ComposeHash.parseHex s = .error .notHex ↔ (utf8 (ComposeHash.core s)).length = 64 ∧
        (ComposeHash.core s).toList.all isHexdigit = false) ∧
      (∀ h, ComposeHash.parseHex s = .ok h → toString h = asciiLowercase (ComposeHash.core s)) ∧
      ((ComposeHash.core s).length % 2 = 0 ∧ (ComposeHash.core s).toList.all isHexdigit = true →
        ∃ b, fromHex (utf8 (ComposeHash.core s)) = some b ∧
          (utf8 (ComposeHash.core s)).length = 2 * b.length ∧
          Quote.parseHex usizeBits s = Quote.parse usizeBits b) ∧
      (¬ ((ComposeHash.core s).length % 2 = 0 ∧ (ComposeHash.core s).toList.all isHexdigit = true) →
        Quote.parseHex usizeBits s = .error .invalidHex)) ∧
    (∀ h : ComposeHash, ComposeHash.parseHex (toString h) = .ok h) ∧
    ∀ (b : Bytes) (pre mark t post : String), pre.toList.all isWhitespace = true →
      post.toList.all isWhitespace = true → mark = "" ∨ mark = "0x" → asciiLowercase t = hex b →
      Quote.parseHex usizeBits (pre ++ mark ++ t ++ post) = Quote.parse usizeBits b := by
  refine ⟨?_, ComposeHash.parseHex_toString, ?_⟩
  · intro s
    have hbytes : (ComposeHash.core s).toList.all isHexdigit = true →
        (utf8 (ComposeHash.core s)).length = (ComposeHash.core s).length := by
      intro ha
      rw [length_utf8_of_hexdigits ha, String.length_toList]
    have hdecodes : (∃ b, fromHex (utf8 (ComposeHash.core s)) = some b) ↔
        (ComposeHash.core s).length % 2 = 0 ∧ (ComposeHash.core s).toList.all isHexdigit = true := by
      rw [fromHex_isSome_iff, utf8_all_hexdigit_iff]
      exact and_congr_left fun ha => by rw [hbytes ha]
    refine ⟨?_, ?_, ?_, ?_, ?_, ?_⟩
    · intro h
      rw [ComposeHash.parseHex_eq_ok_iff]
      constructor
      · intro hp
        have ha := (hdecodes.mp ⟨_, hp.2⟩).2
        exact ⟨(hbytes ha).symm.trans hp.1, ha, hp.2⟩
      · intro hp
        exact ⟨(hbytes hp.2.1).trans hp.1, hp.2.2⟩
    · intro got
      rw [ComposeHash.parseHex_eq_error_iff]
      simp
    · have hall : (utf8 (ComposeHash.core s)).all isAsciiHexdigit =
          (ComposeHash.core s).toList.all isHexdigit := Bool.eq_iff_iff.mpr utf8_all_hexdigit_iff
      rw [ComposeHash.parseHex_eq_error_iff, hall]
      simp
    · intro h hp
      have hd := (ComposeHash.parseHex_eq_ok_iff.mp hp).2
      exact (fromHex_utf8_iff.mp hd).symm
    · intro hs
      obtain ⟨b, hb⟩ := hdecodes.mpr hs
      refine ⟨b, hb, length_of_fromHex hb, ?_⟩
      rw [Quote.parseHex_eq, hb]
    · intro hs
      rw [Quote.parseHex_eq]
      cases hd : fromHex (utf8 (ComposeHash.core s)) with
      | none => rfl
      | some b => exact absurd (hdecodes.mp ⟨b, hd⟩) hs
  · intro b pre mark t post hpre hpost hmark ht
    rw [Quote.parseHex_eq, core_surrounded hpre hpost hmark (hexdigits_of_casing ht),
      fromHex_utf8_iff.mpr ht]

end VerityVerifier.Core
