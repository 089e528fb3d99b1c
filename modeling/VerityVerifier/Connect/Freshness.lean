import VerityVerifier.Connect.Transports

/-!
# Which connection the client reports

The slot holds the newest verification, and a response can come back over an older
connection. The client reports the connection it used when that connection was the last
to be verified, or when the last one presented the same leaf and its quote was judged
alike.
-/
namespace VerityVerifier.Connect

open VerityVerifier.Core
open VerityVerifier.Library.ByteString
open VerityVerifier.Library.History
open VerityVerifier.Library.Runs
open VerityVerifier.Soundness

variable {κ : Type} {P : Platform κ}

/-- A call returns a response that `t` carried, and leaves no call in flight. -/
def Session.ReturnsAlone (s : Session P) (a : Action) (t : VerifiedTransport) (s' : Session P) :
    Prop :=
  ∃ r uri, a = .finish r ∧ s.calls r = some ⟨uri, .answered t⟩ ∧ s.step a = some s' ∧
    ∀ r', s'.calls r' = none

/-- Then the client reports what was established for the connection that carried it. -/
def Session.Reports (s : Session P) (a : Action) : Prop :=
  ∀ t s', s.ReturnsAlone a t s' → ∃ v, Establishes s'.trace t v ∧
    s'.client.channelBinding = v.binding ∧ s'.client.verdict = v.verdict

/-- The handshake that a successful verification judged, and when. -/
def Event.accepted? : Event P → Option (Option UInt64 × Handshook)
  | .verified _ clock h (.ok _) => some (clock, h)
  | _ => none

/-- Two handshakes with one leaf, whose quote the DCAP verifier judged alike. -/
def Alike (P : Platform κ) (collateral : κ) (clock clock' : Option UInt64) (h h' : Handshook) :
    Prop :=
  h.leafDer = h'.leafDer ∧ ∀ rawQuote, quoteFromCertificate P h.leafDer = .ok rawQuote →
    P.qvlVerify rawQuote collateral (nowSecs clock) =
      P.qvlVerify rawQuote collateral (nowSecs clock')

/-- The connection that carried the response was the last to be verified, or is like it. -/
def Session.CarriedByLatest (s : Session P) (a : Action) : Prop :=
  ∀ t s', s.ReturnsAlone a t s' → ∀ caller clock h v clock' h',
    .verified caller clock h (.ok (v, t)) ∈ s.trace →
    s.trace.findSome? Event.accepted? = some (clock', h') →
    h'.stream = t.stream ∨ Alike P s.client.connector.collateral clock clock' h h'

/-! ## What the slot describes -/

theorem accepted_of_published {history : List (Event P)} {v : Verification P}
    (hp : history.findSome? Event.published? = some v) : ∃ caller clock h t,
      .verified caller clock h (.ok (v, t)) ∈ history ∧
      history.findSome? Event.accepted? = some (clock, h) := by
  induction history with
  | nil => cases hp
  | cons e past ih =>
    have hlater : past.findSome? Event.published? = some v →
        (e :: past).findSome? Event.accepted? = past.findSome? Event.accepted? →
        ∃ caller clock h t, .verified caller clock h (.ok (v, t)) ∈ e :: past ∧
          (e :: past).findSome? Event.accepted? = some (clock, h) := by
      intro hpast heq
      obtain ⟨caller, clock, h, t, hm, ha⟩ := ih hpast
      exact ⟨caller, clock, h, t, List.mem_cons_of_mem e hm, heq.trans ha⟩
    cases e with
    | verified caller clock h outcome =>
      cases outcome with
      | error refusal => exact hlater hp rfl
      | ok made =>
        obtain ⟨w, t⟩ := made
        obtain rfl : w = v := Option.some.inj hp
        exact ⟨caller, clock, h, t, List.mem_cons_self, rfl⟩
    | connected details taken => exact hlater hp rfl
    | dialled endpoint socket attempt => exact hlater hp rfl
    | sent r t => exact hlater hp rfl
    | returned r t => exact hlater hp rfl

/-- The slot always holds some verification that the history names. -/
theorem latest_accepted {origin : VerifiedConnector P} {t₀ : VerifiedTransport} {s : Session P}
    (hi : Inv origin t₀ s) : ∃ caller clock h t,
      .verified caller clock h (.ok (s.client.latestVerification, t)) ∈ s.trace ∧
      s.trace.findSome? Event.accepted? = some (clock, h) := by
  obtain ⟨v, hv, hslot⟩ := hi.published
  have hl : s.client.latestVerification = v := by
    unfold VerifiedClient.latestVerification
    rw [hslot]
  rw [hl]
  exact accepted_of_published hv

/-- `verify` reads the clock only through the DCAP verifier. -/
theorem judged_alike {self : VerifiedConnector P} {clock clock' : Option UInt64}
    {leafDer rawQuote : Bytes}
    (hq : P.qvlVerify rawQuote self.collateral (nowSecs clock) =
      P.qvlVerify rawQuote self.collateral (nowSecs clock')) :
    self.judged clock leafDer rawQuote = self.judged clock' leafDer rawQuote := by
  have hv : verifyQuote P rawQuote self.collateral (nowSecs clock) =
      verifyQuote P rawQuote self.collateral (nowSecs clock') := by
    unfold verifyQuote
    rw [hq]
  unfold VerifiedConnector.judged verify VerifiedConnector.evidence
  simp only [hv]

/-- Handshakes that are alike establish the same. -/
theorem verifyHandshook_alike {self : VerifiedConnector P} {clock clock' : Option UInt64}
    {h h' : Handshook} {v v' : Verification P} {t t' : VerifiedTransport}
    (ha : Alike P self.collateral clock clock' h h')
    (hv : (self.verifyHandshook clock h).1 = .ok (v, t))
    (hv' : (self.verifyHandshook clock' h').1 = .ok (v', t')) : v = v' := by
  obtain ⟨hleaf, hsame⟩ := ha
  obtain ⟨rawQuote, quote, hq, hj, hp, hb, -, -⟩ :=
    self.verifyHandshook_ok clock h (Prod.ext hv rfl)
  obtain ⟨rawQuote', quote', hq', hj', hp', hb', -, -⟩ :=
    self.verifyHandshook_ok clock' h' (Prod.ext hv' rfl)
  rw [← hleaf] at hq' hj' hb'
  obtain rfl : rawQuote = rawQuote' := Except.ok.inj (hq.symm.trans hq')
  obtain rfl : quote = quote' := Except.ok.inj (hp.symm.trans hp')
  have hbinding : v.binding = v'.binding := Except.ok.inj (hb.symm.trans hb')
  have hverdict : v.verdict.verdict = v'.verdict.verdict := by
    rw [hj, hj', judged_alike (hsame rawQuote hq)]
  obtain ⟨⟨verdict, ht⟩, binding⟩ := v
  obtain ⟨⟨verdict', ht'⟩, binding'⟩ := v'
  obtain rfl : verdict = verdict' := hverdict
  obtain rfl : binding = binding' := hbinding
  rfl

theorem step_finish {s : Session P} {r : Nat} {uri : String} {t : VerifiedTransport}
    (hc : s.calls r = some ⟨uri, .answered t⟩) :
    s.step (.finish r) = some ((s.leave r).note (.returned r t)) := by
  simp only [Session.step, hc]

/-- A response returned alone is described by the slot when its connection was the last
to be verified, or is like it. -/
theorem reports_of_inv {origin : VerifiedConnector P} {t₀ : VerifiedTransport} {s : Session P}
    {a : Action} (hi : Inv origin t₀ s) (hc : s.CarriedByLatest a) : s.Reports a := by
  intro t s' hr
  obtain ⟨caller', clock', h', t', hm', hlast⟩ := latest_accepted hi
  have hcarrier := hc t s' hr
  obtain ⟨r, uri, rfl, hcall, hstep, -⟩ := hr
  obtain ⟨v, caller, clock, h, hm⟩ := hi.carried r t (s.carrying_of_calls hcall)
  obtain rfl : (s.leave r).note (.returned r t) = s' :=
    Option.some.inj ((step_finish hcall).symm.trans hstep)
  have hsame : s.client.latestVerification = v := by
    obtain ⟨hok, ht, -⟩ := made_of_lawful hi.lawful hm
    rcases hcarrier caller clock h v clock' h' hm hlast with hstream | halike
    · have hs : h.stream = h'.stream := by
        rw [hstream, ht]
      cases verified_unique hi.lawful hm hm' hs
      rfl
    · rw [hi.collateral] at halike
      exact (verifyHandshook_alike halike hok (made_of_lawful hi.lawful hm').1).symm
  refine ⟨v, ⟨caller, clock, h, List.mem_cons_of_mem _ hm⟩, ?_, ?_⟩
  · exact congrArg Verification.binding hsame
  · exact congrArg Verification.verdict hsame

/-- Two calls overlap on connections with different keys: the first one returns last, alone,
over the first connection, and the client reports the key of the second. -/
theorem overlap_stale : ∃ s₀ s,
    connectVerified recording.platform recordedRequest recordedSource (.completed firstKey.leaf)
      recordedClock = .ok s₀ ∧
    run Session.step s₀ overlapping = some s ∧
    (∀ v, Establishes s.trace ⟨⟨0⟩⟩ v → v.binding.spkiDer = firstKey.spkiDer) ∧
    s.client.channelBinding.spkiDer = secondKey.spkiDer ∧ ¬ s.Reports (.finish 0) ∧
    ¬ Along Session.step Session.Reports s₀ (overlapping ++ [.finish 0]) := by
  obtain ⟨v₁, v₂, s, h₀, hr, hs₁, hs₂, hl, hm, -, -, hcall, halone⟩ := recorded_overlap
  have hi := run_inv h₀ hr
  have hfirst : ∀ v, Establishes s.trace ⟨⟨0⟩⟩ v → v.binding.spkiDer = firstKey.spkiDer := by
    intro v he
    obtain ⟨caller, clock, h, hm'⟩ := he
    have hs : h.stream = ⟨0⟩ :=
      (VerifiedTransport.mk.inj (made_of_lawful hi.lawful hm').2.1).symm
    cases verified_unique hi.lawful hm' hm hs
    exact hs₁
  have hsecond : s.client.channelBinding.spkiDer = secondKey.spkiDer := by
    unfold VerifiedClient.channelBinding
    rw [hl, hs₂]
  have hstale : ¬ s.Reports (.finish 0) := by
    intro hrep
    have hreturn : s.ReturnsAlone (.finish 0) ⟨⟨0⟩⟩ ((s.leave 0).note (.returned 0 ⟨⟨0⟩⟩)) := by
      refine ⟨0, _, rfl, hcall, step_finish hcall, ?_⟩
      intro r
      show Function.update s.calls 0 none r = none
      by_cases hr : r = 0
      · rw [hr, Function.update_self]
      · rw [Function.update_of_ne hr]
        exact halone r hr
    obtain ⟨v, ⟨caller, clock, h, hm'⟩, hb, -⟩ := hrep _ _ hreturn
    have hm' : .verified caller clock h (.ok (v, ⟨⟨0⟩⟩)) ∈ s.trace := by
      rcases List.mem_cons.mp hm' with heq | hm'
      · cases heq
      · exact hm'
    have hkeys : firstKey.spkiDer = secondKey.spkiDer := by
      rw [← hfirst v ⟨caller, clock, h, hm'⟩, ← hsecond]
      exact congrArg ChannelBinding.spkiDer hb.symm
    exact absurd hkeys (by decide +kernel)
  refine ⟨_, s, h₀, hr, hfirst, hsecond, hstale, ?_⟩
  intro ha
  exact hstale (along_of_append ha hr).1

/-- In every run whose responses are carried by the latest connection whenever they are
returned alone, the client reports the connection that it used. -/
theorem run_reports {request : ConnectRequest} {source : Bytes → Except CollateralUnavailable κ}
    {attempt : DialAttempt} {clock : Option UInt64} {s₀ : Session P} {actions : List Action}
    (h₀ : connectVerified P request source attempt clock = .ok s₀)
    (hc : Along Session.step Session.CarriedByLatest s₀ actions) :
    Along Session.step Session.Reports s₀ actions :=
  along_of_invariant (fun s a s' => step_inv s a s') (fun _ _ => reports_of_inv)
    (run_inv h₀ (run_nil _ s₀)) hc

/-- The first connection is closed after its response, and the next call makes one of its own,
with the new key. -/
def reconnecting : List Action := [
  .submit 0 "/convert", .connect 0 [], .transmit 0, .respond 0 false, .finish 0,
  .submit 0 "/health", .connect 0 [], .dial 0 (.completed secondKey.leaf),
  .verify 0 recordedClock, .transmit 0, .respond 0 true, .finish 0]

/-- Both responses are returned alone, each over the connection that was verified last. -/
theorem run_reports_recorded : ∃ s₀ s,
    connectVerified recording.platform recordedRequest recordedSource (.completed firstKey.leaf)
      recordedClock = .ok s₀ ∧
    run Session.step s₀ reconnecting = some s ∧ .returned 0 ⟨⟨1⟩⟩ ∈ s.trace ∧
    s.client.channelBinding.spkiDer = secondKey.spkiDer ∧
    Along Session.step Session.Reports s₀ reconnecting := by
  have h₂ : secondKey ∈ [firstKey, secondKey] := by simp
  obtain ⟨v₁, h₀, -⟩ := recorded_opened
  obtain ⟨v₂, hv₂, hs₂⟩ := recorded_made h₂ 1 ⟨OwnedRequest.fromBorrowed recordedRequest, "august",
    ⟨some v₁, false⟩, ⟨none, false⟩⟩ rfl rfl
  have hother : ∀ {s : Session recording.platform} {a : Action}, (∀ r, a ≠ .finish r) →
      s.CarriedByLatest a := by
    intro s a ha t s' hr
    obtain ⟨r, uri, he, -⟩ := hr
    exact absurd he (ha r)
  have hlatest : ∀ {s : Session recording.platform} {uri : String} {h : Handshook},
      s.calls 0 = some ⟨uri, .answered ⟨h.stream⟩⟩ →
      s.trace.findSome? Event.accepted? = some (recordedClock, h) →
      s.CarriedByLatest (.finish 0) := by
    intro s uri h hcall hlast t s' hr caller clock h₁ v clock' h' hm hlast'
    left
    obtain ⟨r, uri', he, hcall', -⟩ := hr
    obtain rfl := Action.finish.inj he
    obtain ⟨-, ht⟩ := Call.mk.inj (Option.some.inj (hcall.symm.trans hcall'))
    obtain ⟨-, rfl⟩ := Prod.mk.inj (Option.some.inj (hlast.symm.trans hlast'))
    rw [← Phase.answered.inj ht]
  refine ⟨_, ?last, h₀, ?run, ?returned, ?bound, run_reports h₀ ?carried⟩
  case run =>
    refine (run_cons_iff _).mpr ⟨_, rfl, ?_⟩
    refine (run_cons_iff _).mpr ⟨_, rfl, ?_⟩
    refine (run_cons_iff _).mpr ⟨_, rfl, ?_⟩
    refine (run_cons_iff _).mpr ⟨_, rfl, ?_⟩
    refine (run_cons_iff _).mpr ⟨_, rfl, ?_⟩
    refine (run_cons_iff _).mpr ⟨_, rfl, ?_⟩
    refine (run_cons_iff _).mpr ⟨_, rfl, ?_⟩
    refine (run_cons_iff _).mpr ⟨_, rfl, ?_⟩
    refine (run_cons_iff _).mpr ⟨_, step_verify rfl hv₂, ?_⟩
    rfl
  case returned => exact List.mem_cons_self
  case bound => exact hs₂
  case carried =>
    refine (along_cons_iff rfl).mpr ⟨hother (by simp), ?_⟩
    refine (along_cons_iff rfl).mpr ⟨hother (by simp), ?_⟩
    refine (along_cons_iff rfl).mpr ⟨hother (by simp), ?_⟩
    refine (along_cons_iff rfl).mpr ⟨hother (by simp), ?_⟩
    refine (along_cons_iff rfl).mpr ⟨hlatest (h := ⟨⟨0⟩, firstKey.leaf⟩) rfl rfl, ?_⟩
    refine (along_cons_iff rfl).mpr ⟨hother (by simp), ?_⟩
    refine (along_cons_iff rfl).mpr ⟨hother (by simp), ?_⟩
    refine (along_cons_iff rfl).mpr ⟨hother (by simp), ?_⟩
    refine ⟨hother (by simp), fun s hs => ?_⟩
    obtain rfl := Option.some.inj (hs.symm.trans (step_verify rfl hv₂))
    refine (along_cons_iff rfl).mpr ⟨hother (by simp), ?_⟩
    refine (along_cons_iff rfl).mpr ⟨hother (by simp), ?_⟩
    exact (along_cons_iff rfl).mpr ⟨hlatest (h := ⟨⟨1⟩, secondKey.leaf⟩) rfl rfl, trivial⟩

end VerityVerifier.Connect
