import VerityVerifier.Connect.Connector

/-!
# Every connection is judged by `verify`

The result of a verification is decided by two things only: whether the leaf carries
a quote, and whether `verify` trusts that quote beside that leaf. Nothing after the
guard fails, and nothing before it publishes.
-/
namespace VerityVerifier.Connect

open VerityVerifier.Core
open VerityVerifier.Library.ByteString

variable {κ : Type} {P : Platform κ}

namespace VerifiedConnector

theorem attestationRefusal_noAttestation_iff {e : AttestationError} :
    attestationRefusal e = .noAttestation ↔ e = .missing := by
  cases e <;> simp [attestationRefusal]

theorem attestationRefusal_unreadable_iff {e : AttestationError} {detail : String} :
    attestationRefusal e = .unreadableAttestation detail ↔ e ≠ .missing ∧ detail = toString e := by
  cases e <;> simp [attestationRefusal, eq_comm]

theorem attestationRefusal_ne_notTrustworthy (e : AttestationError) (w : Verdict) :
    attestationRefusal e ≠ .notTrustworthy w := by
  cases e <;> simp [attestationRefusal]

section
variable (self : VerifiedConnector P) (clock : Option UInt64) (h : Handshook)

/-- A transport is produced exactly when the leaf carries a quote that `verify` trusts. -/
theorem verifyHandshook_ok_iff :
    (∃ v t, (self.verifyHandshook clock h).1 = .ok (v, t)) ↔
      ∃ rawQuote, quoteFromCertificate P h.leafDer = .ok rawQuote ∧
        (self.judged clock h.leafDer rawQuote).isTrustworthy = true := by
  have he := self.verifyHandshook_ends clock h
  generalize self.verifyHandshook clock h = r at he
  cases he with
  | unattested e hq => simp [hq]
  | refused rawQuote hq ht => simp [hq, ht]
  | verified rawQuote quote v hq hv hp hb =>
    have ht := v.verdict.trustworthy
    rw [hv] at ht
    simp [hq, ht]

/-- What an accepted handshake established, and what it published. -/
theorem verifyHandshook_ok {v : Verification P} {t : VerifiedTransport}
    {after : VerifiedConnector P} (hr : self.verifyHandshook clock h = (.ok (v, t), after)) :
    ∃ rawQuote quote, quoteFromCertificate P h.leafDer = .ok rawQuote ∧
      v.verdict.verdict = self.judged clock h.leafDer rawQuote ∧
      Quote.parse P.usizeBits rawQuote = .ok quote ∧
      ChannelBinding.check P h.leafDer quote = .ok v.binding ∧ t.stream = h.stream ∧
      after = { self with latest := self.latest.store (some v) } := by
  have he := self.verifyHandshook_ends clock h
  rw [hr] at he
  cases he with
  | verified rawQuote quote v hq hv hp hb => exact ⟨rawQuote, quote, hq, hv, hp, hb, rfl, rfl⟩

/-- The transport of an accepted handshake, and the slot after it. -/
theorem verifyHandshook_made {v : Verification P} {t : VerifiedTransport}
    (hv : (self.verifyHandshook clock h).1 = .ok (v, t)) : t = ⟨h.stream⟩ ∧
      (self.verifyHandshook clock h).2 = { self with latest := self.latest.store (some v) } := by
  have he := self.verifyHandshook_ends clock h
  generalize self.verifyHandshook clock h = r at he hv
  cases he with
  | unattested e hq => cases hv
  | refused rawQuote hq ht => cases hv
  | verified rawQuote quote v hq _ hp hb =>
    obtain ⟨rfl, rfl⟩ := Prod.mk.inj (Except.ok.inj hv)
    exact ⟨rfl, rfl⟩

/-- A refusal publishes nothing, and names what was missing. -/
theorem verifyHandshook_error {refusal : Refusal} {after : VerifiedConnector P}
    (hr : self.verifyHandshook clock h = (.error refusal, after)) :
    after = self ∧
      ((∃ e, quoteFromCertificate P h.leafDer = .error e ∧ refusal = attestationRefusal e) ∨
        ∃ rawQuote, quoteFromCertificate P h.leafDer = .ok rawQuote ∧
          (self.judged clock h.leafDer rawQuote).isTrustworthy = false ∧
          refusal = .notTrustworthy (self.judged clock h.leafDer rawQuote)) := by
  have he := self.verifyHandshook_ends clock h
  rw [hr] at he
  cases he with
  | unattested e hq => exact ⟨rfl, .inl ⟨e, hq, rfl⟩⟩
  | refused rawQuote hq ht => exact ⟨rfl, .inr ⟨rawQuote, hq, ht, rfl⟩⟩

/-- The slots of a connector play no part in the outcome. -/
theorem verifyHandshook_fst {self other : VerifiedConnector P}
    (hr : self.request = other.request) (hc : self.collateral = other.collateral)
    (clock : Option UInt64) (h : Handshook) :
    (self.verifyHandshook clock h).1 = (other.verifyHandshook clock h).1 := by
  obtain ⟨request, collateral, latest, pending⟩ := self
  obtain ⟨request', collateral', latest', pending'⟩ := other
  obtain rfl : request = request' := hr
  obtain rfl : collateral = collateral' := hc
  simp only [verifyHandshook, evidence]
  split
  · rfl
  · split
    · rfl
    · split
      · rfl
      · split <;> rfl

theorem verifyHandshook_noAttestation_iff :
    (self.verifyHandshook clock h).1 = .error .noAttestation ↔
      quoteFromCertificate P h.leafDer = .error .missing := by
  have he := self.verifyHandshook_ends clock h
  generalize self.verifyHandshook clock h = r at he
  cases he with
  | unattested e hq => simp [hq, attestationRefusal_noAttestation_iff]
  | refused rawQuote hq ht => simp [hq]
  | verified rawQuote quote v hq hv hp hb => simp [hq]

/-- The only unreadable attestations are those the certificate reader reports. -/
theorem verifyHandshook_unreadable_iff {detail : String} :
    (self.verifyHandshook clock h).1 = .error (.unreadableAttestation detail) ↔
      ∃ e, quoteFromCertificate P h.leafDer = .error e ∧ e ≠ .missing ∧ detail = toString e := by
  have he := self.verifyHandshook_ends clock h
  generalize self.verifyHandshook clock h = r at he
  cases he with
  | unattested e hq => simp [hq, attestationRefusal_unreadable_iff]
  | refused rawQuote hq ht => simp [hq]
  | verified rawQuote quote v hq hv hp hb => simp [hq]

/-- A distrusted verdict is carried out unchanged. -/
theorem verifyHandshook_notTrustworthy_iff {verdict : Verdict} :
    (self.verifyHandshook clock h).1 = .error (.notTrustworthy verdict) ↔
      ∃ rawQuote, quoteFromCertificate P h.leafDer = .ok rawQuote ∧
        verdict = self.judged clock h.leafDer rawQuote ∧ verdict.isTrustworthy = false := by
  have he := self.verifyHandshook_ends clock h
  generalize self.verifyHandshook clock h = r at he
  cases he with
  | unattested e hq => simp [hq, attestationRefusal_ne_notTrustworthy]
  | refused rawQuote hq ht =>
    simp only [hq, Except.error.injEq, Refusal.notTrustworthy.injEq, Except.ok.injEq,
      exists_eq_left']
    constructor
    · intro hw
      rw [← hw]
      exact ⟨rfl, ht⟩
    · intro hw
      exact hw.1.symm
  | verified rawQuote quote v hq hv hp hb =>
    have ht := v.verdict.trustworthy
    rw [hv] at ht
    simp only [hq, reduceCtorEq, Except.ok.injEq, exists_eq_left', false_iff, not_and,
      Bool.not_eq_false]
    intro he
    subst he
    exact ht

end

/-- Every completed handshake is judged exactly by `verify`: when it is accepted, what the
acceptance carries and publishes, which refusal it gets otherwise, and that no re-check
after the guard can fail. -/
theorem verifyHandshook_judged (P : Platform κ) (self : VerifiedConnector P)
    (clock : Option UInt64) (h : Handshook) :
    let judge rawQuote := verify P self.request.licensed
      { rawQuote, composeDocument := self.request.composeDocument,
        collateral := self.collateral, nowSecs := nowSecs clock,
        peerCertificate := .presented h.leafDer } self.request.boot
    let result := (self.verifyHandshook clock h).1
    let after := (self.verifyHandshook clock h).2
    ((∃ v t, result = .ok (v, t)) ↔
      ∃ rawQuote, quoteFromCertificate P h.leafDer = .ok rawQuote ∧
        (judge rawQuote).isTrustworthy = true) ∧
    (∀ v t, result = .ok (v, t) → ∃ rawQuote quote cert,
      quoteFromCertificate P h.leafDer = .ok rawQuote ∧
      v.verdict.verdict = judge rawQuote ∧
      P.certificateFromDer h.leafDer = .ok cert ∧
      cert.subjectPublicKeyInfoToDer = .ok v.binding.spkiDer ∧
      Quote.parse P.usizeBits rawQuote = .ok quote ∧
      v.binding.commitment.bytes = quote.reportData.bytes ∧
      t.stream = h.stream ∧
      after = { self with latest := self.latest.store (some v) }) ∧
    (∀ refusal, result = .error refusal → after = self) ∧
    (result = .error .noAttestation ↔ quoteFromCertificate P h.leafDer = .error .missing) ∧
    (∀ detail, result = .error (.unreadableAttestation detail) ↔
      ∃ e, quoteFromCertificate P h.leafDer = .error e ∧ e ≠ .missing ∧ detail = toString e) ∧
    (∀ verdict, result = .error (.notTrustworthy verdict) ↔
      ∃ rawQuote, quoteFromCertificate P h.leafDer = .ok rawQuote ∧
        verdict = judge rawQuote ∧ verdict.isTrustworthy = false) ∧
    (∀ refusal, result = .error refusal →
      refusal = .noAttestation ∨ (∃ detail, refusal = .unreadableAttestation detail) ∨
        ∃ verdict, refusal = .notTrustworthy verdict) ∧
    ∀ rawQuote, quoteFromCertificate P h.leafDer = .ok rawQuote →
      (judge rawQuote).isTrustworthy = true →
      ∃ quote binding, Quote.parse P.usizeBits rawQuote = .ok quote ∧
        ChannelBinding.check P h.leafDer quote = .ok binding := by
  intro judge result after
  refine ⟨self.verifyHandshook_ok_iff clock h, ?_, ?_,
    self.verifyHandshook_noAttestation_iff clock h,
    fun _ => self.verifyHandshook_unreadable_iff clock h,
    fun _ => self.verifyHandshook_notTrustworthy_iff clock h, ?_,
    fun _ _ => rechecks_of_trustworthy⟩
  · intro v t hr
    obtain ⟨rawQuote, quote, hq, hv, hp, hb, ht, ha⟩ :=
      self.verifyHandshook_ok clock h (Prod.ext hr rfl)
    obtain ⟨hs, hc⟩ := channelBinding_check_ok hb
    obtain ⟨cert, hcert, hspki⟩ := spkiDerOf_ok_iff.mp hs
    exact ⟨rawQuote, quote, cert, hq, hv, hcert, hspki, hp, hc, ht, ha⟩
  · intro refusal hr
    exact (self.verifyHandshook_error clock h (Prod.ext hr rfl)).1
  · intro refusal hr
    obtain ⟨-, hcase⟩ := self.verifyHandshook_error clock h (Prod.ext hr rfl)
    rcases hcase with ⟨e, -, rfl⟩ | ⟨rawQuote, -, -, rfl⟩
    · cases e with
      | missing => exact .inl rfl
      | unreadableCertificate reason => exact .inr (.inl ⟨_, rfl⟩)
      | unreadableEnvelope reason => exact .inr (.inl ⟨_, rfl⟩)
    · exact .inr (.inr ⟨_, rfl⟩)

end VerifiedConnector

end VerityVerifier.Connect
