import VerityVerifier.Library.Fallible
import VerityVerifier.Core.Reference

/-!
# The layout of a quote

`Quote::parse` reads field by field through accessors that may fail. Behind its length
check none of them does: the function is four more comparisons of three little-endian
numbers, and nine slices. The layout is stated here on slices of the input, apart from
the offsets and the bases of the source.
-/
namespace VerityVerifier.Soundness

open VerityVerifier.Core
open VerityVerifier.Library.ByteString
open VerityVerifier.Library.Fallible

def versionField (bytes : Bytes) : Nat := leNat (slice bytes 0 2)
def teeTypeField (bytes : Bytes) : Nat := leNat (slice bytes 4 4)
def signatureLen (bytes : Bytes) : Nat := leNat (slice bytes 632 4)

/-- The inputs that are a quote of the one version that is read. -/
structure WellFormed (usizeBits : Nat) (bytes : Bytes) : Prop where
  long : 636 ≤ bytes.length
  version : versionField bytes = 4
  tdx : teeTypeField bytes = 0x81
  fits : 636 + signatureLen bytes < 2 ^ usizeBits
  complete : 636 + signatureLen bytes ≤ bytes.length

/-- Each field of the quote is a slice of the input, at its own place. -/
structure ReadFrom (quote : Quote) (bytes : Bytes) : Prop where
  version : quote.version = 4
  mrtd : quote.mrtd.bytes.toList = slice bytes 184 48
  mrconfigid : quote.mrconfigid.bytes.toList = slice bytes 232 48
  mrowner : quote.mrowner.bytes.toList = slice bytes 280 48
  mrownerconfig : quote.mrownerconfig.bytes.toList = slice bytes 328 48
  rtmr0 : quote.rtmr0.bytes.toList = slice bytes 376 48
  rtmr1 : quote.rtmr1.bytes.toList = slice bytes 424 48
  rtmr2 : quote.rtmr2.bytes.toList = slice bytes 472 48
  rtmr3 : quote.rtmr3.bytes.toList = slice bytes 520 48
  reportData : quote.reportData.bytes.toList = slice bytes 568 64

/-- The nine fields in the order of the report. -/
def fields (quote : Quote) : Bytes :=
  quote.mrtd.bytes.toList ++ quote.mrconfigid.bytes.toList ++ quote.mrowner.bytes.toList ++
    quote.mrownerconfig.bytes.toList ++ quote.rtmr0.bytes.toList ++
    quote.rtmr1.bytes.toList ++ quote.rtmr2.bytes.toList ++ quote.rtmr3.bytes.toList ++
    quote.reportData.bytes.toList

/-- The fields leave no gap and do not overlap. -/
theorem ReadFrom.partition {quote : Quote} {bytes : Bytes} (h : ReadFrom quote bytes) :
    fields quote = slice bytes 184 448 := by
  rw [fields, h.mrtd, h.mrconfigid, h.mrowner, h.mrownerconfig, h.rtmr0, h.rtmr1, h.rtmr2,
    h.rtmr3, h.reportData]
  rw [show 448 = 48 + 48 + 48 + 48 + 48 + 48 + 48 + 48 + 64 from rfl]
  simp only [slice_add]

/-- An input determines the quote that is read from it. -/
theorem ReadFrom.unique {q q' : Quote} {bytes : Bytes} (h : ReadFrom q bytes)
    (h' : ReadFrom q' bytes) : q = q' := by
  have hm : ∀ {a b : Measurement}, a.bytes.toList = b.bytes.toList → a = b := by
    intro a b he
    cases a
    cases b
    exact congrArg Measurement.mk (Block.ext he)
  have hd : ∀ {a b : ReportData}, a.bytes.toList = b.bytes.toList → a = b := by
    intro a b he
    cases a
    cases b
    exact congrArg ReportData.mk (Block.ext he)
  have hr : q.rtmr = q'.rtmr := by
    apply Vector.ext
    intro i hi
    match i, hi with
    | 0, _ => exact hm (h.rtmr0.trans h'.rtmr0.symm)
    | 1, _ => exact hm (h.rtmr1.trans h'.rtmr1.symm)
    | 2, _ => exact hm (h.rtmr2.trans h'.rtmr2.symm)
    | 3, _ => exact hm (h.rtmr3.trans h'.rtmr3.symm)
  have hv : q.version = q'.version := h.version.trans h'.version.symm
  have h₁ := hm (h.mrtd.trans h'.mrtd.symm)
  have h₂ := hm (h.mrconfigid.trans h'.mrconfigid.symm)
  have h₃ := hm (h.mrowner.trans h'.mrowner.symm)
  have h₄ := hm (h.mrownerconfig.trans h'.mrownerconfig.symm)
  have h₅ := hd (h.reportData.trans h'.reportData.symm)
  cases q
  cases q'
  simp only at hv h₁ h₂ h₃ h₄ h₅ hr
  rw [hv, h₁, h₂, h₃, h₄, h₅, hr]

/-! ## What the accessors return -/

theorem readBlock_of_le {bytes : Bytes} {n off : Nat} (h : off + n ≤ bytes.length) :
    Quote.readBlock bytes n off = .ok ⟨slice bytes off n, length_slice h⟩ := by
  rw [Quote.readBlock, block?_of_le h]

theorem leU16_of_le {bytes : Bytes} {off : Nat} (h : off + 2 ≤ bytes.length) :
    Quote.leU16 bytes off = .ok (UInt16.ofNat (leNat (slice bytes off 2))) := by
  rw [Quote.leU16, readBlock_of_le h]
  rfl

theorem leU32_of_le {bytes : Bytes} {off : Nat} (h : off + 4 ≤ bytes.length) :
    Quote.leU32 bytes off = .ok (UInt32.ofNat (leNat (slice bytes off 4))) := by
  rw [Quote.leU32, readBlock_of_le h]
  rfl

theorem measurement_of_le {bytes : Bytes} {off : Nat} (h : 48 + off + 48 ≤ bytes.length) :
    Quote.measurement bytes off = .ok ⟨⟨slice bytes (48 + off) 48, length_slice h⟩⟩ := by
  have hr := readBlock_of_le h
  rw [Quote.measurement]
  show (Quote.readBlock bytes 48 (48 + off)).map Measurement.mk = _
  rw [hr]
  rfl

/-- A field of `n` bytes holds every number below `256 ^ n`. -/
theorem leNat_slice_lt {bytes : Bytes} {off n : Nat} (h : off + n ≤ bytes.length) :
    leNat (slice bytes off n) < 256 ^ n := by
  have hl := leNat_lt (slice bytes off n)
  rwa [length_slice h] at hl

theorem u16_eq_iff {n : Nat} (h : n < 256 ^ 2) : UInt16.ofNat n = 4 ↔ n = 4 := by
  rw [← UInt16.toNat_inj, UInt16.toNat_ofNat']
  show n % 65536 = 4 ↔ n = 4
  omega

theorem u32_eq_iff {n : Nat} (h : n < 256 ^ 4) : UInt32.ofNat n = teeTypeTdx ↔ n = 0x81 := by
  rw [← UInt32.toNat_inj, UInt32.toNat_ofNat']
  show n % 4294967296 = 129 ↔ n = 0x81
  omega

theorem u32_toNat {n : Nat} (h : n < 256 ^ 4) : (UInt32.ofNat n).toNat = n := by
  rw [UInt32.toNat_ofNat']
  exact Nat.mod_eq_of_lt h

theorem declaredLen_eq {usizeBits n : Nat} (h : n < 256 ^ 4) :
    Quote.declaredLen usizeBits (UInt32.ofNat n) =
      if 636 + n < 2 ^ usizeBits then some (636 + n) else none := by
  unfold Quote.declaredLen
  rw [u32_toNat h]
  show (if n < 2 ^ usizeBits ∧ 636 + n < 2 ^ usizeBits then some (636 + n) else none) = _
  by_cases hf : 636 + n < 2 ^ usizeBits
  · rw [if_pos ⟨by omega, hf⟩, if_pos hf]
  · rw [if_neg (fun hc => hf hc.2), if_neg hf]

/-! ## The function as comparisons and slices -/

/-- The one error of an input that is not well formed. -/
def layoutError (bytes : Bytes) (usizeBits : Nat) : ParseError :=
  open ParseError in
  if bytes.length < 636 then .tooShort bytes.length 636
  else if versionField bytes ≠ 4 then .unsupportedVersion (UInt16.ofNat (versionField bytes))
  else if teeTypeField bytes ≠ 0x81 then .notTdx (UInt32.ofNat (teeTypeField bytes))
  else if 2 ^ usizeBits ≤ 636 + signatureLen bytes then
    signatureLengthImplausible (UInt32.ofNat (signatureLen bytes))
  else .signatureTruncated bytes.length (636 + signatureLen bytes)

/-- The nine slices of an input that is long enough. -/
def quoteOf (bytes : Bytes) (h : 636 ≤ bytes.length) : Quote where
  version := 4
  mrtd := ⟨⟨slice bytes 184 48, length_slice (by omega)⟩⟩
  mrconfigid := ⟨⟨slice bytes 232 48, length_slice (by omega)⟩⟩
  mrowner := ⟨⟨slice bytes 280 48, length_slice (by omega)⟩⟩
  mrownerconfig := ⟨⟨slice bytes 328 48, length_slice (by omega)⟩⟩
  rtmr := #v[⟨⟨slice bytes 376 48, length_slice (by omega)⟩⟩,
    ⟨⟨slice bytes 424 48, length_slice (by omega)⟩⟩,
    ⟨⟨slice bytes 472 48, length_slice (by omega)⟩⟩,
    ⟨⟨slice bytes 520 48, length_slice (by omega)⟩⟩]
  reportData := ⟨⟨slice bytes 568 64, length_slice (by omega)⟩⟩

theorem readFrom_quoteOf (bytes : Bytes) (h : 636 ≤ bytes.length) :
    ReadFrom (quoteOf bytes h) bytes := by
  constructor <;> rfl

/-- Behind the length check every read succeeds. -/
theorem parse_of_le {usizeBits : Nat} {bytes : Bytes} (h : 636 ≤ bytes.length) :
    Quote.parse usizeBits bytes =
      if versionField bytes ≠ 4 then
        .error (.unsupportedVersion (UInt16.ofNat (versionField bytes)))
      else if teeTypeField bytes ≠ 0x81 then
        .error (.notTdx (UInt32.ofNat (teeTypeField bytes)))
      else if 636 + signatureLen bytes < 2 ^ usizeBits then
        if bytes.length < 636 + signatureLen bytes then
          .error (.signatureTruncated bytes.length (636 + signatureLen bytes))
        else .ok (quoteOf bytes h)
      else open ParseError in
        .error <| signatureLengthImplausible (UInt32.ofNat (signatureLen bytes)) := by
  have hshort : ¬ bytes.length < minQuoteLen := by
    show ¬ bytes.length < 636
    omega
  have hv : Quote.leU16 bytes 0 = .ok (UInt16.ofNat (versionField bytes)) :=
    leU16_of_le (by omega)
  have ht : Quote.leU32 bytes 4 = .ok (UInt32.ofNat (teeTypeField bytes)) :=
    leU32_of_le (by omega)
  have hs : Quote.leU32 bytes offSigLen = .ok (UInt32.ofNat (signatureLen bytes)) :=
    leU32_of_le (show 632 + 4 ≤ bytes.length by omega)
  have hr : Quote.readBlock bytes reportDataLen (headerLen + offReportdata) =
      .ok (quoteOf bytes h).reportData.bytes :=
    readBlock_of_le (show 568 + 64 ≤ bytes.length by omega)
  have h₁ : Quote.measurement bytes offMrtd = .ok (quoteOf bytes h).mrtd :=
    measurement_of_le (show 184 + 48 ≤ bytes.length by omega)
  have h₂ : Quote.measurement bytes offMrconfigid = .ok (quoteOf bytes h).mrconfigid :=
    measurement_of_le (show 232 + 48 ≤ bytes.length by omega)
  have h₃ : Quote.measurement bytes offMrowner = .ok (quoteOf bytes h).mrowner :=
    measurement_of_le (show 280 + 48 ≤ bytes.length by omega)
  have h₄ : Quote.measurement bytes offMrownerconfig = .ok (quoteOf bytes h).mrownerconfig :=
    measurement_of_le (show 328 + 48 ≤ bytes.length by omega)
  have h₅ : Quote.measurement bytes offRtmr0 = .ok (quoteOf bytes h).rtmr[0] :=
    measurement_of_le (show 376 + 48 ≤ bytes.length by omega)
  have h₆ : Quote.measurement bytes offRtmr1 = .ok (quoteOf bytes h).rtmr[1] :=
    measurement_of_le (show 424 + 48 ≤ bytes.length by omega)
  have h₇ : Quote.measurement bytes offRtmr2 = .ok (quoteOf bytes h).rtmr[2] :=
    measurement_of_le (show 472 + 48 ≤ bytes.length by omega)
  have h₈ : Quote.measurement bytes offRtmr3 = .ok (quoteOf bytes h).rtmr[3] :=
    measurement_of_le (show 520 + 48 ≤ bytes.length by omega)
  have hn : signatureLen bytes < 256 ^ 4 := leNat_slice_lt (by omega)
  unfold Quote.parse
  simp only [if_neg hshort, hv, ht, hs, ok_bind, throw_bind, hr, h₁, h₂, h₃, h₄, h₅, h₆, h₇, h₈,
    Except.map, declaredLen_eq hn]
  have hver : UInt16.ofNat (versionField bytes) = 4 ↔ versionField bytes = 4 :=
    u16_eq_iff (leNat_slice_lt (by omega))
  have htee : UInt32.ofNat (teeTypeField bytes) = teeTypeTdx ↔ teeTypeField bytes = 0x81 :=
    u32_eq_iff (leNat_slice_lt (by omega))
  by_cases h4 : versionField bytes = 4
  · rw [if_neg (not_not.mpr (hver.mpr h4)), if_neg (not_not.mpr h4)]
    by_cases h81 : teeTypeField bytes = 0x81
    · rw [if_neg (not_not.mpr (htee.mpr h81)), if_neg (not_not.mpr h81), hver.mpr h4]
      by_cases hf : 636 + signatureLen bytes < 2 ^ usizeBits
      · rw [if_pos hf, if_pos hf]
        rfl
      · rw [if_neg hf, if_neg hf]
        rfl
    · rw [if_pos (mt htee.mp h81), if_pos h81]
  · rw [if_pos (mt hver.mp h4), if_pos h4]

theorem parse_ok_iff {usizeBits : Nat} {bytes : Bytes} {quote : Quote} :
    Quote.parse usizeBits bytes = .ok quote ↔
      WellFormed usizeBits bytes ∧ ReadFrom quote bytes := by
  constructor
  · intro hp
    by_cases hl : 636 ≤ bytes.length
    · rw [parse_of_le hl] at hp
      split at hp
      · cases hp
      · rename_i hv
        split at hp
        · cases hp
        · rename_i ht
          split at hp
          · rename_i hf
            split at hp
            · cases hp
            · rename_i hc
              obtain rfl := Except.ok.inj hp
              exact ⟨⟨hl, not_not.mp hv, not_not.mp ht, hf, by omega⟩, readFrom_quoteOf bytes hl⟩
          · cases hp
    · have hs : bytes.length < minQuoteLen := by
        show bytes.length < 636
        omega
      unfold Quote.parse at hp
      rw [if_pos hs] at hp
      cases hp
  · intro h
    obtain ⟨hw, hr⟩ := h
    have hc : ¬ bytes.length < 636 + signatureLen bytes := by
      have h' := hw.complete
      omega
    rw [parse_of_le hw.long, if_neg (not_not.mpr hw.version), if_neg (not_not.mpr hw.tdx),
      if_pos hw.fits, if_neg hc]
    exact congrArg Except.ok ((readFrom_quoteOf bytes hw.long).unique hr)

theorem exists_parse_ok_iff {usizeBits : Nat} {bytes : Bytes} :
    (∃ quote, Quote.parse usizeBits bytes = .ok quote) ↔ WellFormed usizeBits bytes := by
  constructor
  · intro h
    obtain ⟨quote, hp⟩ := h
    exact (parse_ok_iff.mp hp).1
  · intro h
    exact ⟨_, parse_ok_iff.mpr ⟨h, readFrom_quoteOf bytes h.long⟩⟩

/-- An input that is not accepted is refused for the first requirement it misses. -/
theorem parse_error {usizeBits : Nat} {bytes : Bytes} {e : ParseError}
    (h : Quote.parse usizeBits bytes = .error e) : e = layoutError bytes usizeBits := by
  unfold layoutError
  by_cases hl : 636 ≤ bytes.length
  · rw [if_neg (by omega)]
    rw [parse_of_le hl] at h
    split at h
    · rename_i hv
      rw [if_pos hv]
      exact (Except.error.inj h).symm
    · rename_i hv
      rw [if_neg hv]
      split at h
      · rename_i ht
        rw [if_pos ht]
        exact (Except.error.inj h).symm
      · rename_i ht
        rw [if_neg ht]
        split at h
        · rename_i hf
          rw [if_neg (by omega)]
          split at h
          · exact (Except.error.inj h).symm
          · cases h
        · rename_i hf
          rw [if_pos (by omega)]
          exact (Except.error.inj h).symm
  · have hs : bytes.length < minQuoteLen := by
      show bytes.length < 636
      omega
    unfold Quote.parse at h
    rw [if_pos hs] at h
    rw [if_pos (by omega)]
    exact (Except.error.inj h).symm

/-! ## Extensions, prefixes and assembled quotes -/

/-- What is appended to a quote is not looked at. -/
theorem WellFormed.append {usizeBits : Nat} {bytes : Bytes} (h : WellFormed usizeBits bytes)
    (tail : Bytes) : WellFormed usizeBits (bytes ++ tail) := by
  have hl := h.long
  have hn : signatureLen (bytes ++ tail) = signatureLen bytes := by
    rw [signatureLen, signatureLen, slice_append_left (by omega)]
  have hlen : bytes.length ≤ (bytes ++ tail).length := by
    rw [List.length_append]
    omega
  constructor
  · omega
  · rw [versionField, slice_append_left (by omega)]
    exact h.version
  · rw [teeTypeField, slice_append_left (by omega)]
    exact h.tdx
  · rw [hn]
    exact h.fits
  · have hc := h.complete
    omega

theorem ReadFrom.append {quote : Quote} {bytes : Bytes} (h : ReadFrom quote bytes)
    (hl : 636 ≤ bytes.length) (tail : Bytes) : ReadFrom quote (bytes ++ tail) := by
  have hs : ∀ off n, off + n ≤ 636 → slice (bytes ++ tail) off n = slice bytes off n :=
    fun off n ho => slice_append_left (by omega) tail
  exact ⟨h.version, (hs 184 48 (by omega)) ▸ h.mrtd, (hs 232 48 (by omega)) ▸ h.mrconfigid,
    (hs 280 48 (by omega)) ▸ h.mrowner, (hs 328 48 (by omega)) ▸ h.mrownerconfig,
    (hs 376 48 (by omega)) ▸ h.rtmr0, (hs 424 48 (by omega)) ▸ h.rtmr1,
    (hs 472 48 (by omega)) ▸ h.rtmr2, (hs 520 48 (by omega)) ▸ h.rtmr3,
    (hs 568 64 (by omega)) ▸ h.reportData⟩

/-- No part of a quote that ends before its signature does is a quote. -/
theorem WellFormed.not_take {usizeBits : Nat} {bytes : Bytes} {n : Nat}
    (h : n < 636 + signatureLen bytes) : ¬ WellFormed usizeBits (bytes.take n) := by
  intro hw
  have hl := hw.long
  have hc := hw.complete
  have hn : signatureLen (bytes.take n) = signatureLen bytes := by
    have ha : signatureLen (bytes.take n ++ bytes.drop n) = signatureLen (bytes.take n) := by
      rw [signatureLen, signatureLen, slice_append_left (by omega)]
    rw [← ha, List.take_append_drop]
  rw [hn, List.length_take] at hc
  omega

/-- The bytes of a quote: the fixed numbers, filler, the fields and a signature section. -/
def assemble (quote : Quote) (attKeyType : Block 2) (header : Block 40) (report : Block 136)
    (signature : Bytes) : Bytes :=
  leBytes 2 quote.version.toNat ++ (attKeyType.toList ++ (leBytes 4 0x81 ++ (header.toList ++
    (report.toList ++ (fields quote ++ (leBytes 4 signature.length ++ signature))))))

theorem length_fields (quote : Quote) : (fields quote).length = 448 := by
  simp only [fields, List.length_append, Block.length_eq]
  rfl

/-- The fields of a quote read back from their concatenation. -/
theorem readFrom_of_fields {quote : Quote} {bytes : Bytes} (hl : 636 ≤ bytes.length)
    (hv : quote.version = 4) (h : fields quote = slice bytes 184 448) :
    ReadFrom quote bytes := by
  have hs : ∀ {m : Measurement} {off : Nat}, off + 48 ≤ 636 →
      m.bytes.toList.length = (slice bytes off 48).length := by
    intro m off ho
    rw [length_slice (by omega), m.bytes.length_eq]
    rfl
  have hd : quote.reportData.bytes.toList.length = (slice bytes 568 64).length := by
    rw [length_slice (by omega), quote.reportData.bytes.length_eq]
    rfl
  rw [fields, show 448 = 48 + 48 + 48 + 48 + 48 + 48 + 48 + 48 + 64 from rfl] at h
  simp only [slice_add] at h
  obtain ⟨h, h₉⟩ := List.append_inj' h hd
  obtain ⟨h, h₈⟩ := List.append_inj' h (hs (by omega))
  obtain ⟨h, h₇⟩ := List.append_inj' h (hs (by omega))
  obtain ⟨h, h₆⟩ := List.append_inj' h (hs (by omega))
  obtain ⟨h, h₅⟩ := List.append_inj' h (hs (by omega))
  obtain ⟨h, h₄⟩ := List.append_inj' h (hs (by omega))
  obtain ⟨h, h₃⟩ := List.append_inj' h (hs (by omega))
  obtain ⟨h₁, h₂⟩ := List.append_inj' h (hs (by omega))
  exact ⟨hv, h₁, h₂, h₃, h₄, h₅, h₆, h₇, h₈, h₉⟩

section
variable (quote : Quote) (attKeyType : Block 2) (header : Block 40) (report : Block 136)
  (signature : Bytes)

theorem length_assemble :
    (assemble quote attKeyType header report signature).length = 636 + signature.length := by
  simp only [assemble, List.length_append, length_leBytes, Block.length_eq, length_fields]
  omega

theorem readFrom_assemble (hv : quote.version = 4) :
    ReadFrom quote (assemble quote attKeyType header report signature) := by
  apply readFrom_of_fields _ hv
  · have h₁ := length_leBytes 2 quote.version.toNat
    have h₂ := length_leBytes 4 0x81
    rw [assemble, slice_append_right h₁ _ 182, slice_append_right attKeyType.length_eq _ 180,
      slice_append_right h₂ _ 176, slice_append_right header.length_eq _ 136,
      slice_append_right report.length_eq _ 0, slice_front (length_fields quote)]
  · rw [length_assemble]
    omega

theorem wellFormed_assemble {usizeBits : Nat} (hv : quote.version = 4)
    (hs : signature.length < 2 ^ 32) (hf : 636 + signature.length < 2 ^ usizeBits) :
    WellFormed usizeBits (assemble quote attKeyType header report signature) := by
  have h₁ := length_leBytes 2 quote.version.toNat
  have h₂ := length_leBytes 4 0x81
  have h₃ := length_leBytes 4 signature.length
  have hl := length_assemble quote attKeyType header report signature
  have hver : versionField (assemble quote attKeyType header report signature) = 4 := by
    rw [versionField, assemble, slice_front h₁, hv]
    rfl
  have htee : teeTypeField (assemble quote attKeyType header report signature) = 0x81 := by
    rw [teeTypeField, assemble, slice_append_right h₁ _ 2,
      slice_append_right attKeyType.length_eq _ 0, slice_front h₂]
    rfl
  have hsig : signatureLen (assemble quote attKeyType header report signature) =
      signature.length := by
    rw [signatureLen, assemble, slice_append_right h₁ _ 630,
      slice_append_right attKeyType.length_eq _ 628, slice_append_right h₂ _ 624,
      slice_append_right header.length_eq _ 584, slice_append_right report.length_eq _ 448,
      slice_append_right (length_fields quote) _ 0, slice_front h₃]
    exact leNat_leBytes (show signature.length < 4294967296 from hs)
  constructor
  · omega
  · exact hver
  · exact htee
  · rwa [hsig]
  · omega

end

/-- Parsing accepts one layout, reads every field from its own bytes, ignores what follows
the signature, and names the first requirement that a refused input misses. -/
theorem parse_layout (usizeBits : Nat) :
    (∀ bytes, (∃ quote, Quote.parse usizeBits bytes = .ok quote) ↔
      WellFormed usizeBits bytes) ∧
    (∀ bytes quote, Quote.parse usizeBits bytes = .ok quote →
      ReadFrom quote bytes ∧ fields quote = slice bytes 184 448 ∧
      (∀ tail, Quote.parse usizeBits (bytes ++ tail) = .ok quote) ∧
      ∀ n < 636 + signatureLen bytes, ∃ e, Quote.parse usizeBits (bytes.take n) = .error e) ∧
    (∀ quote attKeyType header report signature, quote.version = 4 →
      signature.length < 2 ^ 32 → 636 + signature.length < 2 ^ usizeBits →
      Quote.parse usizeBits (assemble quote attKeyType header report signature) = .ok quote) ∧
    ∀ bytes e, Quote.parse usizeBits bytes = .error e → e = layoutError bytes usizeBits := by
  refine ⟨fun bytes => exists_parse_ok_iff, ?_, ?_, fun bytes e => parse_error⟩
  · intro bytes quote hp
    obtain ⟨hw, hr⟩ := parse_ok_iff.mp hp
    refine ⟨hr, hr.partition, ?_, ?_⟩
    · intro tail
      exact parse_ok_iff.mpr ⟨hw.append tail, hr.append hw.long tail⟩
    · intro n hn
      cases ht : Quote.parse usizeBits (bytes.take n) with
      | error e => exact ⟨e, rfl⟩
      | ok q => exact absurd (parse_ok_iff.mp ht).1 (WellFormed.not_take hn)
  · intro quote attKeyType header report signature hv hs hf
    exact parse_ok_iff.mpr ⟨wellFormed_assemble quote attKeyType header report signature hv hs hf,
      readFrom_assemble quote attKeyType header report signature hv⟩

end VerityVerifier.Soundness
