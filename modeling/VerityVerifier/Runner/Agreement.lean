import VerityVerifier.Runner.Connected
import VerityVerifier.Runner.Exits
import VerityVerifier.Connect.Transports

/-!
# The runners agree

Both runners end with the code of one judgement. What the second one adds is where its
evidence comes from; on the same evidence neither accepts what the other refuses.
-/
namespace VerityVerifier.Runner

open VerityVerifier.Core
open VerityVerifier.Connect
open VerityVerifier.Library.ByteString
open VerityVerifier.Library.Console
open VerityVerifier.Library.Fallible
open VerityVerifier.Library.Text
open VerityVerifier.Soundness

variable {κ Uri Request : Type}

/-- The evidence of a connection whose leaf carries this quote. -/
def connectionEvidence (request : ConnectRequest) (collateral : κ) (clock : Option UInt64)
    (leafDer rawQuote : Bytes) : Evidence κ where
  rawQuote
  composeDocument := request.composeDocument
  collateral
  nowSecs := nowSecs clock
  peerCertificate := .presented leafDer

/-- A client is opened exactly for a completed handshake whose evidence is accepted. -/
structure Connects (P : Platform κ) (request : ConnectRequest)
    (source : Bytes → Except CollateralUnavailable κ) (attempt : DialAttempt)
    (clock : Option UInt64) : Prop where
  form : request.endpoint.form ≠ .dstackTerminating
  accepted : ∃ leafDer rawQuote collateral, attempt = .completed leafDer ∧
    quoteFromCertificate P leafDer = .ok rawQuote ∧ source rawQuote = .ok collateral ∧
    Accepts P request.licensed (connectionEvidence request collateral clock leafDer rawQuote)

theorem connectVerified_isOk_iff {P : Platform κ} {request : ConnectRequest}
    {source : Bytes → Except CollateralUnavailable κ} {attempt : DialAttempt}
    {clock : Option UInt64} :
    (∃ s, connectVerified P request source attempt clock = .ok s) ↔
      Connects P request source attempt clock := by
  have hform : request.endpoint.passthroughForm = none ↔
      request.endpoint.form ≠ .dstackTerminating := by
    rw [← Option.not_isSome_iff_eq_none, Endpoint.passthroughForm_isSome_iff]
  have hjudged : ∀ collateral leafDer rawQuote,
      ((newConnector request collateral : VerifiedConnector P).judged clock leafDer
        rawQuote).isTrustworthy = true ↔ Accepts P request.licensed
          (connectionEvidence request collateral clock leafDer rawQuote) :=
    fun _ _ _ => trustworthy_iff_accepts
  constructor
  · intro h
    obtain ⟨s, hs⟩ := h
    obtain ⟨hf, leafDer, rawQuote, collateral, v, hd, hq, hc, hv, -⟩ :=
      connectVerified_ok_iff.mp hs
    obtain ⟨raw, hraw, ht⟩ := (VerifiedConnector.verifyHandshook_ok_iff _ clock _).mp ⟨v, _, hv⟩
    obtain rfl := Except.ok.inj (hq.symm.trans hraw)
    exact ⟨hform.mp hf, leafDer, rawQuote, collateral, hd, hq, hc, (hjudged _ _ _).mp ht⟩
  · intro h
    obtain ⟨leafDer, rawQuote, collateral, hd, hq, hc, ha⟩ := h.accepted
    obtain ⟨v, t, hv⟩ := (VerifiedConnector.verifyHandshook_ok_iff
      (newConnector request collateral : VerifiedConnector P) clock ⟨⟨0⟩, leafDer⟩).mpr
        ⟨rawQuote, hq, (hjudged _ _ _).mpr ha⟩
    obtain ⟨rfl, -⟩ := VerifiedConnector.verifyHandshook_made _ clock _ hv
    exact ⟨_, connectVerified_ok_iff.mpr
      ⟨hform.mpr h.form, leafDer, rawQuote, collateral, v, hd, hq, hc, hv, rfl⟩⟩

/-! ## The codes of the second runner -/

/-- Everything the arguments name is there: this is the request that is made. -/
structure Requested (W : ConnectWorld κ Uri Request) (o : ConnectArgs) (r : ConnectRequest) :
    Prop where
  endpoint : Endpoint.parse o.endpoint = .ok r.endpoint
  document : W.read o.compose = .ok r.composeDocument
  hash : ComposeHash.parseHex o.licensedComposeHash = .ok r.licensed.composeHash
  digest : r.licensed.imageDigest = o.imageDigest
  boot : suppliedReference W.toWorld o.bootReference = .ok r.boot
  runtime : W.runtime = .ok ()

section
variable {W : ConnectWorld κ Uri Request} {o : ConnectArgs}

theorem prepare_ok_iff {r : ConnectRequest} : (prepare W o).result = .ok r ↔ Requested W o r := by
  simp only [prepare, Ran.bind_ok, orExit_ok_iff, mapError_ok_iff, reportOsImage_result,
    Except.ok.injEq, exists_eq_left', Bool.true_eq_false, if_false, Ran.result_pure]
  constructor
  · intro h
    obtain ⟨endpoint, he, document, hd, hash, hh, boot, hb, _, hr, rfl⟩ := h
    exact ⟨he, hd, hh, rfl, hb, hr⟩
  · intro h
    obtain ⟨endpoint, ⟨composeHash, imageDigest⟩, document, boot⟩ := r
    obtain ⟨he, hd, hh, hg, hb, hr⟩ := h
    dsimp only at he hd hh hg hb
    subst hg
    exact ⟨endpoint, he, document, hd, composeHash, hh, boot, hb, (), hr, rfl⟩

theorem announce_result (request : ConnectRequest) : (announce request).result = .ok () := by
  simp [announce]

theorem reportRefused_result (refusal : Refusal) :
    (reportRefused refusal).result = .ok .failure := by
  unfold reportRefused
  cases refusal.verdict? with
  | none => rfl
  | some verdict =>
    simp only [Ran.result_bind, Ran.result_println, ok_bind, reportTranscript_result]
    rfl

theorem reportConnected_result {P : Platform κ} (client : VerifiedClient P) (path : String) :
    (reportConnected W client path).result =
      .ok (if (get W client.endpoint path).isOk then .success else .code 2) := by
  simp only [reportConnected, Ran.result_bind, Ran.result_println, ok_bind]
  rw [Ran.result_forEach (fun _ => rfl), ok_bind]
  cases get W client.endpoint path with
  | ok response => rfl
  | error why => rfl

end

/-- How a run ends once its request is there. -/
def concluded (W : ConnectWorld κ Uri Request) (o : ConnectArgs) (r : ConnectRequest) : Exit :=
  match connectVerified W.platform r W.source.collateralFor W.attempt W.clock with
  | .ok _ => if (get W r.endpoint o.path).isOk then .success else .code 2
  | .error _ => .failure

theorem verifyConnected_result {W : ConnectWorld κ Uri Request} {o : ConnectArgs}
    (ho : connectArgs W.args = .ok o) : (verifyConnected W).result =
    (prepare W o).result >>= fun r => .ok (concluded W o r) := by
  simp only [verifyConnected, Ran.result_bind, Ran.result_silent, ho, ok_bind, announce_result]
  refine congrArg _ (funext fun r => ?_)
  unfold concluded
  cases hc : connectVerified W.platform r W.source.collateralFor W.attempt W.clock with
  | ok session =>
    obtain ⟨-, leafDer, rawQuote, collateral, v, -, -, -, -, rfl⟩ := connectVerified_ok_iff.mp hc
    exact reportConnected_result _ o.path
  | error refusal => exact reportRefused_result refusal

section
variable {W : ConnectWorld κ Uri Request} {o : ConnectArgs} {r : ConnectRequest}

theorem concluded_of_connects
    (h : Connects W.platform r W.source.collateralFor W.attempt W.clock) :
    concluded W o r = if (get W r.endpoint o.path).isOk then .success else .code 2 := by
  obtain ⟨s, hs⟩ := connectVerified_isOk_iff.mpr h
  rw [concluded, hs]

theorem concluded_of_refused
    (h : ¬ Connects W.platform r W.source.collateralFor W.attempt W.clock) :
    concluded W o r = .failure := by
  rw [← connectVerified_isOk_iff] at h
  rw [concluded]
  cases hc : connectVerified W.platform r W.source.collateralFor W.attempt W.clock with
  | ok s => exact absurd ⟨s, hc⟩ h
  | error refusal => rfl

theorem verifyConnected_of_requested (ho : connectArgs W.args = .ok o) (hr : Requested W o r) :
    (verifyConnected W).exit = concluded W o r := by
  unfold Ran.exit
  rw [verifyConnected_result ho, prepare_ok_iff.mpr hr]
  rfl

end

theorem Requested.unique {W : ConnectWorld κ Uri Request} {o : ConnectArgs} {r r' : ConnectRequest}
    (h : Requested W o r) (h' : Requested W o r') : r = r' :=
  Except.ok.inj ((prepare_ok_iff.mpr h).symm.trans (prepare_ok_iff.mpr h'))

/-- The recorded evidence of one run is what the other run's connection shows. -/
structure SameEvidence (W : AttestWorld κ) (W' : ConnectWorld κ Uri Request) (p : Prepared κ)
    (r : ConnectRequest) : Prop where
  platform : W'.platform = W.platform
  licensed : r.licensed = p.licensed
  document : r.composeDocument = p.evidence.composeDocument
  form : r.endpoint.form ≠ .dstackTerminating
  leaf : ∃ leafDer, W'.attempt = .completed leafDer ∧
    p.evidence.peerCertificate = .presented leafDer ∧
    quoteFromCertificate W.platform leafDer = .ok p.evidence.rawQuote
  collateral : W'.source.collateralFor p.evidence.rawQuote = .ok p.evidence.collateral
  clock : nowSecs W'.clock = p.evidence.nowSecs

theorem SameEvidence.connects_iff {W : AttestWorld κ} {W' : ConnectWorld κ Uri Request}
    {p : Prepared κ} {r : ConnectRequest} (h : SameEvidence W W' p r) :
    Connects W'.platform r W'.source.collateralFor W'.attempt W'.clock ↔
      Accepts W.platform p.licensed p.evidence := by
  obtain ⟨leafDer, hd, hpeer, hq⟩ := h.leaf
  have he : connectionEvidence r p.evidence.collateral W'.clock leafDer p.evidence.rawQuote =
      p.evidence := by
    unfold connectionEvidence
    rw [h.document, h.clock, ← hpeer]
  rw [h.platform]
  constructor
  · intro hc
    obtain ⟨leaf, rawQuote, collateral, hd', hq', hc', ha⟩ := hc.accepted
    obtain rfl := DialAttempt.completed.inj (hd.symm.trans hd')
    obtain rfl := Except.ok.inj (hq.symm.trans hq')
    obtain rfl := Except.ok.inj (h.collateral.symm.trans hc')
    rw [he, h.licensed] at ha
    exact ha
  · intro ha
    refine ⟨h.form, leafDer, _, _, hd, hq, h.collateral, ?_⟩
    rw [he, h.licensed]
    exact ha

/-- A run over recorded evidence refuses exactly when a run over the connection that it was
recorded from does. When it accepts, the other one connects, whether or not a request then
succeeds. The boot references of the two runs need not be the same. -/
theorem runners_agree (W : AttestWorld κ) (W' : ConnectWorld κ Uri Request) (o : Options)
    (p : Prepared κ) (o' : ConnectArgs) (r : ConnectRequest) (ho : options W.args = .ok o)
    (hp : Ready W o p) (ho' : connectArgs W'.args = .ok o') (hr : Requested W' o' r)
    (h : SameEvidence W W' p r) :
    ((verifyAttestation W).exit = .code 1 ↔ (verifyConnected W').exit = .code 1) ∧
    ((verifyAttestation W).exit = .code 0 ↔
      (verifyConnected W').exit = .code 0 ∨ (verifyConnected W').exit = .code 2) := by
  rw [verifyAttestation_of_ready ho hp, verifyConnected_of_requested ho' hr]
  by_cases hc : Connects W'.platform r W'.source.collateralFor W'.attempt W'.clock
  · rw [concluded_of_connects hc, if_pos (trustworthy_iff_accepts.mpr (h.connects_iff.mp hc))]
    by_cases hg : (get W' r.endpoint o'.path).isOk = true
    · simp [hg, Exit.success]
    · simp [hg, Exit.success]
  · rw [concluded_of_refused hc,
      if_neg (fun ht => hc (h.connects_iff.mpr (trustworthy_iff_accepts.mp ht)))]
    simp [Exit.failure]

/-! ## A recorded connection, live -/

def recordedConnection : ConnectWorld String Unit Unit where
  toWorld := filed ["connect-verified", "--endpoint", "https://example.com:8443", "--compose",
    "app-compose.json", "--image-digest", probeDigest, "--licensed-compose-hash", recordedHex]
  runtime := .ok ()
  source := ⟨.ok (), fun _ => some (.ok "august")⟩
  attempt := .completed firstKey.leaf
  clock := recordedClock
  agent := ⟨fun _ => .ok (), fun _ _ _ => .ok (), fun _ => .error (.other "closed")⟩
  buffers := ⟨fun _ => 32, fun _ => by decide⟩

def recordedArgs : ConnectArgs where
  endpoint := "https://example.com:8443"
  compose := "app-compose.json"
  imageDigest := probeDigest
  licensedComposeHash := recordedHex
  path := "/"
  osImage := none
  bootReference := none

def recordedConnect : ConnectRequest where
  endpoint := recordedEndpoint
  licensed := probeLicence
  composeDocument := recordedDocument
  boot := none

theorem recordedConnection_requested : Requested recordedConnection recordedArgs recordedConnect where
  endpoint := by
    have h : (Endpoint.parse "https://example.com:8443").toOption = some recordedEndpoint := by
      decide +kernel
    exact ok_of_toOption h
  document := rfl
  hash := recorded_parseHex
  digest := rfl
  boot := rfl
  runtime := rfl

/-- Both runners accept the recorded evidence. -/
theorem runners_agree_recorded :
    (((verifyAttestation recordedRun).exit = .code 1 ↔
        (verifyConnected recordedConnection).exit = .code 1) ∧
      ((verifyAttestation recordedRun).exit = .code 0 ↔
        (verifyConnected recordedConnection).exit = .code 0 ∨
          (verifyConnected recordedConnection).exit = .code 2)) ∧
    (verifyAttestation recordedRun).exit = .code 0 := by
  have hsamePlatform : ∀ leafDer, quoteFromCertificate recordedRun.platform leafDer =
      quoteFromCertificate recording.platform leafDer := fun _ => rfl
  have hleaf : quoteFromCertificate recordedRun.platform firstKey.leaf = .ok firstKey.quote := by
    rw [hsamePlatform]
    exact recorded_leaf (by simp)
  have hsame : SameEvidence recordedRun recordedConnection recordedPrepared recordedConnect :=
    ⟨rfl, rfl, rfl, by decide, ⟨firstKey.leaf, rfl, rfl, hleaf⟩, rfl, rfl⟩
  have hargs : connectArgs recordedConnection.args = .ok recordedArgs := by
    simp [connectArgs, arg, expect, recordedConnection, filed, recordedArgs, recordedHex,
      probeDigest]
  exact ⟨runners_agree recordedRun recordedConnection recordedOptions recordedPrepared recordedArgs
    recordedConnect recordedRun_options recordedRun_ready hargs recordedConnection_requested hsame,
    recordedRun_exit⟩

end VerityVerifier.Runner
