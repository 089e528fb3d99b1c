import VerityVerifier.Connect.Session
import VerityVerifier.Connect.Triage
import VerityVerifier.Core.Display

/-!
# What a refusal advises

A refusal says what happened, how to triage it, and whether the whole connection is worth
another attempt. The last two are separate answers: an open configuration register is
triaged as an outage, and still no retry of the connection closes it.
-/
namespace VerityVerifier.Connect

open VerityVerifier.Core
open VerityVerifier.Library.ByteString
open VerityVerifier.Library.Fallible
open VerityVerifier.Library.Runs
open VerityVerifier.Soundness

variable {κ : Type} {P : Platform κ}

instance : ToString CollateralUnavailable :=
  ⟨fun e => s!"collateral could not be obtained: {e.detail}"⟩

instance : ToString Refusal where
  toString
    | .terminatingEndpoint host passthrough =>
      s!"`{host}` is dStack's TLS-terminating gateway form: the certificate it presents belongs " ++
      "to the gateway, not the enclave, so this connection can never be channel bound. Use the " ++
      s!"passthrough form `{passthrough}`"
    | .notReached host port detail => s!"could not reach {host}:{port}: {detail}"
    | .handshakeFailed host detail => s!"the TLS handshake with {host} failed: {detail}"
    | .noPeerCertificate =>
      "the peer presented no certificate, so there is nothing to bind the quote to"
    | .noAttestation => "the peer's certificate carries no attestation: it is not an enclave's"
    | .unreadableAttestation detail => s!"the peer's attestation could not be read: {detail}"
    | .collateralUnavailable e => toString e
    | .notTrustworthy verdict => s!"this endpoint is not trustworthy: {verdict}"

def RefusalKind.name : RefusalKind → String
  | .guaranteeViolated => "guarantee_violated"
  | .couldNotEstablish => "could_not_establish"
  | .endpointUnusable => "endpoint_unusable"

/-- Whether the whole connection is worth another attempt. -/
def Refusal.disposition : Refusal → Disposition
  | .notReached _ _ _ | .collateralUnavailable _ => .retryRetrieval
  | .terminatingEndpoint _ _ | .handshakeFailed _ _ | .noPeerCertificate | .noAttestation
  | .unreadableAttestation _ | .notTrustworthy _ => .refuse

/-- `Refusal::verdict`, when one was reached. -/
def Refusal.verdict? : Refusal → Option Verdict
  | .notTrustworthy verdict => some verdict
  | _ => none

/-- The advice of a refusal hangs together. A retry of the connection is advised exactly for
an outage that reached no verdict. Where there is a verdict, no record of it calls for a
retry, and it is an outage exactly when nothing is missing but a register to be judged by
another build. -/
structure Advised (refusal : Refusal) : Prop where
  retry : refusal.disposition = .retryRetrieval ↔
    refusal.kind = .couldNotEstablish ∧ refusal.verdict? = none
  remedies : ∀ v, refusal.verdict? = some v → ∀ c d, (c, d) ∈ v.dispositions → d ≠ .retryRetrieval
  outage : ∀ v, refusal.verdict? = some v → (refusal.kind = .couldNotEstablish ↔
    v.missingEssentials = [.mrConfigId] ∧ v.disposition .mrConfigId = some .updateVerifier)

/-- Without a verdict the advice is read off the variant. -/
theorem advised_of_unjudged {refusal : Refusal} (h : ∀ v, refusal ≠ .notTrustworthy v) :
    Advised refusal := by
  have hv : refusal.verdict? = none := by
    cases refusal with
    | notTrustworthy v => exact absurd rfl (h v)
    | _ => rfl
  refine ⟨?_, ?_, ?_⟩
  · rw [hv]
    cases refusal with
    | notTrustworthy v => exact absurd rfl (h v)
    | _ => simp [Refusal.disposition, Refusal.kind]
  · intro v he
    rw [hv] at he
    cases he
  · intro v he
    rw [hv] at he
    cases he

section
variable {licensed : LicensedVersion} {evidence : Evidence κ} {boot : Option BootReference}

/-- No judgement of `verify` calls for a retry: nothing in it is retrieved. -/
theorem judgement_not_retry (c : Check) :
    Core.disposition c (judgement P licensed evidence boot c) ≠ .retryRetrieval := by
  cases ho : judgement P licensed evidence boot c with
  | passed => simp [Core.disposition]
  | failed why => simp [Core.disposition]
  | skipped why => cases c <;> simp [Core.disposition, weight]
  | indeterminate cause detail =>
    have hk : Soundness.kind (judgement P licensed evidence boot c) = .indeterminate cause := by
      rw [ho]
      rfl
    have hm := indeterminate_mem hk
    rw [disposition_indeterminate]
    simp only [List.mem_cons, List.not_mem_nil, or_false, Prod.mk.injEq] at hm
    rcases hm with ⟨-, rfl⟩ | ⟨-, rfl⟩
    · decide
    · decide

theorem missingEssentials_eq {v : Verdict} (h : ∀ c ∈ Check.essential, c ≠ .mrConfigId →
    v.outcome c = some .passed) {o : Outcome} (ho : v.outcome .mrConfigId = some o)
    (hp : o ≠ .passed) : v.missingEssentials = [.mrConfigId] := by
  have hf : o.isPassed = false := Bool.eq_false_iff.mpr fun ht => hp (Outcome.isPassed_iff.mp ht)
  simp only [Check.essential, List.forall_mem_cons] at h
  obtain ⟨h₁, h₂, h₃, h₄, h₅, -, h₇, -⟩ := h
  simp only [Verdict.missingEssentials, Check.essential, List.filter_cons, List.filter_nil,
    h₁ (by decide), h₂ (by decide), h₃ (by decide), h₄ (by decide), h₅ (by decide),
    h₇ (by decide), ho, Option.any_some, hf]
  rfl

/-- Only an open question that this build cannot judge calls for another build. -/
theorem disposition_updateVerifier_iff {c : Check} {o : Outcome} :
    Core.disposition c o = .updateVerifier ↔
      Soundness.kind o = .indeterminate .verifierCannotJudge := by
  cases o with
  | passed => simp [Core.disposition, Soundness.kind]
  | failed why => simp [Core.disposition, Soundness.kind]
  | skipped why => cases c <;> simp [Core.disposition, weight, Soundness.kind]
  | indeterminate cause detail => cases cause <;> simp [Core.disposition, Soundness.kind]

theorem onlyUnjudged_iff : OnlyUnjudged P evidence (verify P licensed evidence boot) ↔
    (verify P licensed evidence boot).missingEssentials = [.mrConfigId] ∧
      (verify P licensed evidence boot).disposition .mrConfigId = some .updateVerifier := by
  have hd : (verify P licensed evidence boot).disposition .mrConfigId = some .updateVerifier ↔
      ∃ quote, Quote.parse P.usizeBits evidence.rawQuote = .ok quote ∧
        quote.mrconfigid.bytes.toList.head? = some 0x02 := by
    rw [Verdict.disposition, verify_outcome, Option.map_some, Option.some.injEq,
      disposition_updateVerifier_iff]
    exact mrConfigId_indeterminate_iff
  unfold OnlyUnjudged
  rw [← hd]
  constructor
  · intro h
    refine ⟨missingEssentials_eq h.2 (verify_outcome P licensed evidence boot .mrConfigId) ?_, h.1⟩
    intro hp
    have hu := h.1
    rw [Verdict.disposition, verify_outcome, hp] at hu
    cases hu
  · intro h
    refine ⟨h.2, ?_⟩
    intro c hc hne
    by_contra hn
    have hm : c ∈ (verify P licensed evidence boot).missingEssentials := by
      unfold Verdict.missingEssentials
      rw [List.mem_filter, verify_outcome, Option.any_some]
      refine ⟨hc, ?_⟩
      rw [Bool.not_eq_true', Bool.eq_false_iff]
      intro hp
      exact hn (by rw [verify_outcome, Outcome.isPassed_iff.mp hp])
    rw [h.1, List.mem_singleton] at hm
    exact hne hm

theorem advised_verify (ht : (verify P licensed evidence boot).isTrustworthy = false) :
    Advised (.notTrustworthy (verify P licensed evidence boot)) := by
  refine ⟨by simp [Refusal.disposition, Refusal.verdict?], ?_, ?_⟩
  · intro v he c d hm
    obtain rfl := Option.some.inj he
    obtain ⟨o, ho, rfl⟩ := Verdict.mem_dispositions_iff.mp hm
    rw [verify_results] at ho
    obtain ⟨c', -, hc⟩ := List.mem_map.mp ho
    obtain ⟨rfl, rfl⟩ := Prod.mk.inj hc
    exact judgement_not_retry c'
  · intro v he
    obtain rfl := Option.some.inj he
    rw [kind_verify_iff ht, onlyUnjudged_iff]

end

theorem attestationRefusal_kind (e : AttestationError) :
    (attestationRefusal e).kind = .guaranteeViolated := by
  cases e <;> rfl

/-- What a verification refuses is advised, and is never blamed on the endpoint's name. -/
theorem advised_of_verifyHandshook {self : VerifiedConnector P} {clock : Option UInt64}
    {h : Handshook} {refusal : Refusal} (hr : (self.verifyHandshook clock h).1 = .error refusal) :
    Advised refusal ∧ refusal.kind ≠ .endpointUnusable := by
  rcases (self.verifyHandshook_error clock h (Prod.ext hr rfl)).2 with
    ⟨e, -, rfl⟩ | ⟨rawQuote, -, ht, rfl⟩
  · refine ⟨advised_of_unjudged (VerifiedConnector.attestationRefusal_ne_notTrustworthy e), ?_⟩
    rw [attestationRefusal_kind]
    decide
  · refine ⟨advised_verify ht, ?_⟩
    unfold Refusal.kind
    dsimp only
    split
    · decide
    · decide

theorem advised_of_dial {endpoint : Endpoint} {socket : Nat} {attempt : DialAttempt}
    {refusal : Refusal} (hd : dial endpoint socket attempt = .error refusal) :
    Advised refusal ∧ refusal.kind ≠ .endpointUnusable := by
  have hv : ∀ v, refusal ≠ .notTrustworthy v := by
    intro v he
    subst he
    cases attempt <;> simp [dial] at hd
  refine ⟨advised_of_unjudged hv, ?_⟩
  cases attempt <;> simp only [dial, Except.error.injEq, reduceCtorEq] at hd
  all_goals
    subst hd
    simp [Refusal.kind]

/-- Every refusal that opening a client or using it can produce is advised: the first one, which
alone can be for the endpoint's own form, and each refusal of a dial or of a verification in
any run. -/
theorem refusals_advised (P : Platform κ) (request : ConnectRequest)
    (source : Bytes → Except CollateralUnavailable κ) (attempt : DialAttempt)
    (clock : Option UInt64) :
    (∀ refusal, connectVerified P request source attempt clock = .error refusal →
      Advised refusal ∧
      (refusal.kind = .endpointUnusable ↔ request.endpoint.form = .dstackTerminating)) ∧
    ∀ s₀ s actions, connectVerified P request source attempt clock = .ok s₀ →
      run Session.step s₀ actions = some s →
      (∀ caller clock h refusal, .verified caller clock h (.error refusal) ∈ s.trace →
        Advised refusal ∧ refusal.kind ≠ .endpointUnusable) ∧
      ∀ endpoint socket attempt refusal, .dialled endpoint socket attempt ∈ s.trace →
        dial endpoint socket attempt = .error refusal →
        Advised refusal ∧ refusal.kind ≠ .endpointUnusable := by
  constructor
  · intro refusal h
    unfold connectVerified at h
    cases hp : request.endpoint.passthroughForm with
    | some passthrough =>
      rw [hp] at h
      obtain rfl := Except.error.inj h
      have hf : request.endpoint.form = .dstackTerminating :=
        Endpoint.passthroughForm_isSome_iff.mp (by rw [hp]; rfl)
      exact ⟨advised_of_unjudged (by simp), by simp [Refusal.kind, hf]⟩
    | none =>
      have hf : request.endpoint.form ≠ .dstackTerminating := by
        intro hf
        have hs := Endpoint.passthroughForm_isSome_iff.mpr hf
        rw [hp] at hs
        cases hs
      have hadvised : Advised refusal ∧ refusal.kind ≠ .endpointUnusable := by
        rw [hp] at h
        simp only [bind_error_iff, mapError_error_iff] at h
        obtain hd | ⟨handshook, -, ⟨e, -, rfl⟩ | ⟨rawQuote, -, ⟨e, -, rfl⟩ | ⟨collateral, -,
          hv | ⟨⟨v, t⟩, -, hs⟩⟩⟩⟩ := h
        · exact advised_of_dial hd
        · refine ⟨advised_of_unjudged
            (VerifiedConnector.attestationRefusal_ne_notTrustworthy e), ?_⟩
          rw [attestationRefusal_kind]
          decide
        · exact ⟨advised_of_unjudged (by simp), by simp [Refusal.kind]⟩
        · exact advised_of_verifyHandshook hv
        · cases hs
      exact ⟨hadvised.1, iff_of_false hadvised.2 hf⟩
  · intro s₀ s actions h₀ hr
    have hi := run_inv h₀ hr
    constructor
    · intro caller clock h refusal hm
      obtain ⟨past, -, he, -⟩ := hi.lawful.of_mem hm
      exact advised_of_verifyHandshook he.symm
    · intro endpoint socket attempt refusal _ hd
      exact advised_of_dial hd

end VerityVerifier.Connect
