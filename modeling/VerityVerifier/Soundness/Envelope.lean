import VerityVerifier.Core.Ratls
import VerityVerifier.Soundness.Layout
import VerityVerifier.Soundness.Replay

/-!
# The envelope of the quote

The extension is unwrapped exactly when its value is what the encoder writes for some
quote, and then that quote comes out. Any other value is refused, also one that has a
quote in it.
-/
namespace VerityVerifier.Soundness

open VerityVerifier.Core
open VerityVerifier.Library
open VerityVerifier.Library.ByteString

variable {κ : Type} {P : Platform κ} {certDer : Bytes} {cert : Certificate}

theorem extensionValueForQuote_ok_iff {encodeError : Bytes → String} {q value : Bytes} :
    extensionValueForQuote P encodeError q = .ok value ↔
      Der.octetStringFromDer P.derMaxLength value = some q := by
  rw [Der.octetStringFromDer_iff]
  unfold extensionValueForQuote
  cases Der.octetStringToDer P.derMaxLength q <;> simp

/-- The first extension with the attestation arc. -/
def attestationExtension (cert : Certificate) : Option Extension :=
  (cert.extensions.getD []).find? fun e => e.extnId == dstackQuoteOid

theorem quoteFromCertificate_of_cert (hc : P.certificateFromDer certDer = .ok cert) :
    quoteFromCertificate P certDer =
      match attestationExtension cert with
      | none => .error .missing
      | some extension =>
        match Der.octetStringFromDer P.derMaxLength extension.extnValue with
        | some inner => .ok inner
        | none => .error (.unreadableEnvelope (P.derError extension.extnValue)) := by
  unfold quoteFromCertificate
  rw [hc]
  rfl

/-- The first extension with the arc is the one no other with it stands before. -/
theorem attestationExtension_eq_some {front back : List Extension} {e : Extension}
    (hext : cert.extensions.getD [] = front ++ e :: back) (he : e.extnId = dstackQuoteOid)
    (hfront : ∀ x ∈ front, x.extnId ≠ dstackQuoteOid) : attestationExtension cert = some e := by
  unfold attestationExtension
  rw [hext, List.find?_append, List.find?_eq_none.mpr, List.find?_cons_of_pos]
  · rfl
  · simpa using he
  · intro x hx
    simpa using hfront x hx

theorem missing_iff (hc : P.certificateFromDer certDer = .ok cert) :
    quoteFromCertificate P certDer = .error .missing ↔
      ∀ e ∈ cert.extensions.getD [], e.extnId ≠ dstackQuoteOid := by
  rw [quoteFromCertificate_of_cert hc]
  cases he : attestationExtension cert with
  | none =>
    refine iff_of_true rfl ?_
    intro e hm
    have hn := List.find?_eq_none.mp he e hm
    simpa using hn
  | some extension =>
    have hm := List.mem_of_find?_eq_some he
    have harc : extension.extnId = dstackQuoteOid := by
      have hp := List.find?_some he
      simpa using hp
    apply iff_of_false
    · intro hmissing
      dsimp only at hmissing
      split at hmissing <;> cases hmissing
    · exact fun hall => hall extension hm harc

/-! ## What the codec refuses -/

theorem octetStringFromDer_tag {maxLength : Nat} {value : Bytes}
    (h : value.head? ≠ some Der.octetStringTag) : Der.octetStringFromDer maxLength value = none := by
  unfold Der.octetStringFromDer
  split
  · rfl
  · split
    · rename_i tag first rest
      rw [if_neg (fun ht => h (congrArg some ht))]
    · rfl

/-- A length in the long form that is not the shortest one. -/
theorem octetStringFromDer_long {maxLength : Nat} {first : UInt8} {rest : Bytes}
    (hfirst : 128 ≤ first.toNat)
    (h : (rest.take (first.toNat - 128)).head? = some 0 ∨
      Der.beNat (rest.take (first.toNat - 128)) < 128) :
    Der.octetStringFromDer maxLength (Der.octetStringTag :: first :: rest) = none := by
  have hd : Der.decodeLength first rest = none := by
    unfold Der.decodeLength
    rw [if_neg (by omega)]
    exact if_pos (.inr (.inr h))
  unfold Der.octetStringFromDer
  split
  · rfl
  · simp [hd]

/-- A raw quote starts with its version, which reads as the tag and the length zero. -/
theorem octetStringFromDer_raw {maxLength usizeBits : Nat} {value : Bytes} {quote : Quote}
    (h : Quote.parse usizeBits value = .ok quote) :
    Der.octetStringFromDer maxLength value = none := by
  obtain ⟨hw, -⟩ := parse_ok_iff.mp h
  have hlong := hw.long
  have hversion := hw.version
  obtain ⟨b₀, b₁, rest, rfl⟩ : ∃ b₀ b₁ rest, value = b₀ :: b₁ :: rest := by
    match value, hlong with
    | b₀ :: b₁ :: rest, _ => exact ⟨b₀, b₁, rest, rfl⟩
  have hb : b₁.toNat = 0 := by
    have hn : b₀.toNat + 256 * (b₁.toNat + 256 * 0) = 4 := hversion
    omega
  have hd : Der.decodeLength b₁ rest = some (0, rest) := by
    unfold Der.decodeLength
    rw [hb]
    rfl
  have hrest : rest.length ≠ 0 := by
    simp only [List.length_cons] at hlong
    omega
  unfold Der.octetStringFromDer
  split
  · rfl
  · simp only [hd, if_neg hrest]
    split <;> rfl

/-- The unwrap is the strict inverse of the encoder: on the first extension with the arc it
returns the one quote whose encoding is the value, and refuses every other value. -/
theorem quoteFromCertificate_exact (P : Platform κ) (encodeError : Bytes → String)
    (certDer : Bytes) (cert : Certificate) (hc : P.certificateFromDer certDer = .ok cert) :
    (quoteFromCertificate P certDer = .error .missing ↔
      ∀ e ∈ cert.extensions.getD [], e.extnId ≠ dstackQuoteOid) ∧
    ∀ front e back, cert.extensions.getD [] = front ++ e :: back → e.extnId = dstackQuoteOid →
      (∀ x ∈ front, x.extnId ≠ dstackQuoteOid) →
      (∀ q, quoteFromCertificate P certDer = .ok q ↔
        extensionValueForQuote P encodeError q = .ok e.extnValue) ∧
      ((∃ reason, quoteFromCertificate P certDer = .error (.unreadableEnvelope reason)) ↔
        ∀ q, extensionValueForQuote P encodeError q ≠ .ok e.extnValue) ∧
      (e.extnValue.head? ≠ some Der.octetStringTag ∨
        (∃ first rest, e.extnValue = Der.octetStringTag :: first :: rest ∧ 128 ≤ first.toNat ∧
          ((rest.take (first.toNat - 128)).head? = some 0 ∨
            Der.beNat (rest.take (first.toNat - 128)) < 128)) ∨
        (∃ q value tail, extensionValueForQuote P encodeError q = .ok value ∧ tail ≠ [] ∧
          e.extnValue = value ++ tail) ∨
        (∃ usizeBits quote, Quote.parse usizeBits e.extnValue = .ok quote) →
        ∃ reason, quoteFromCertificate P certDer = .error (.unreadableEnvelope reason)) := by
  refine ⟨missing_iff hc, ?_⟩
  intro front e back hext he hfront
  have hfirst := attestationExtension_eq_some hext he hfront
  have hunreadable :
      (∃ reason, quoteFromCertificate P certDer = .error (.unreadableEnvelope reason)) ↔
        Der.octetStringFromDer P.derMaxLength e.extnValue = none := by
    rw [quoteFromCertificate_of_cert hc, hfirst]
    cases hd : Der.octetStringFromDer P.derMaxLength e.extnValue <;> simp [hd]
  refine ⟨?_, ?_, ?_⟩
  · intro q
    rw [quoteFromCertificate_of_cert hc, hfirst, extensionValueForQuote_ok_iff]
    cases hd : Der.octetStringFromDer P.derMaxLength e.extnValue <;> simp [hd]
  · rw [hunreadable, Option.eq_none_iff_forall_ne_some]
    simp only [ne_eq, extensionValueForQuote_ok_iff]
  · intro h
    rw [hunreadable]
    obtain h | ⟨first, rest, hv, hlong, h⟩ | ⟨q, value, tail, hvalue, ht, hv⟩ |
      ⟨usizeBits, quote, h⟩ := h
    · exact octetStringFromDer_tag h
    · rw [hv]
      exact octetStringFromDer_long hlong h
    · rw [hv]
      rw [extensionValueForQuote_ok_iff, Der.octetStringFromDer_iff] at hvalue
      exact Der.octetStringFromDer_trailing hvalue ht
    · exact octetStringFromDer_raw h

theorem quoteFromCertificate_recorded :
    quoteFromCertificate recording.platform firstKey.leaf = .ok firstKey.quote := by
  have hc : recording.platform.certificateFromDer firstKey.leaf = .ok {
      extensions := some [⟨dstackQuoteOid, [0x04, 0x82, 0x02, 0x7c] ++ firstKey.quote⟩]
      subjectPublicKeyInfoToDer := .ok firstKey.spkiDer } := by
    unfold Recording.platform recording
    simp only [List.map_cons, Recording.answer_cons_self]
  have hv : Der.octetStringFromDer recording.platform.derMaxLength
      ([0x04, 0x82, 0x02, 0x7c] ++ firstKey.quote) = some firstKey.quote := by decide +kernel
  have hx := quoteFromCertificate_exact recording.platform (fun _ => "too long") _ _ hc
  have hfirst := hx.2 [] _ [] rfl rfl (fun x hm => absurd hm List.not_mem_nil)
  exact (hfirst.1 _).mpr (extensionValueForQuote_ok_iff.mpr hv)

end VerityVerifier.Soundness
