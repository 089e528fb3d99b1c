import VerityVerifier.Connect.Session
import VerityVerifier.Soundness.Replay

/-!
# No request travels over an unverified connection

What the invariant says of every state that a client reaches, and one recorded run in
which two calls overlap on connections with different keys.
-/
namespace VerityVerifier.Connect

open VerityVerifier.Core
open VerityVerifier.Library.ByteString
open VerityVerifier.Library.Fallible
open VerityVerifier.Library.Runs
open VerityVerifier.Soundness

variable {κ : Type} {P : Platform κ}

/-- In every state of every run: bytes were sent only over connections whose own leaf the
client's connector accepted; the first transport is handed out at most once, and to the
first caller; the slot holds the newest successful verification; and every dial went to
the endpoint given to `connect_verified`, on a socket of its own. -/
theorem run_verified {request : ConnectRequest} {source : Bytes → Except CollateralUnavailable κ}
    {attempt : DialAttempt} {clock : Option UInt64} {s₀ s : Session P} {actions : List Action}
    (h₀ : connectVerified P request source attempt clock = .ok s₀)
    (hr : run Session.step s₀ actions = some s) :
    s₀.client.connector.request = OwnedRequest.fromBorrowed request ∧
    (∀ r t past, .sent r t :: past <:+ s.trace → ∃ caller clock h v,
      .verified caller clock h (.ok (v, t)) ∈ past ∧
      (s₀.client.connector.verifyHandshook clock h).1 = .ok (v, t) ∧ t.stream = h.stream ∧
      .dialled request.endpoint t.stream.socket (.completed h.leafDer) ∈ past) ∧
    (∃ clock h v t₀, s₀.trace.head? = some (.verified none clock h (.ok (v, t₀))) ∧
      (s.trace.filterMap Event.handedOut?).count t₀ ≤ 1 ∧
      (s.trace.filterMap Event.taken? = [] ∨
        ∃ n, s.trace.filterMap Event.taken? = List.replicate n none ++ [some t₀])) ∧
    (∃ v, s.trace.findSome? Event.published? = some v ∧
      s.client.connector.latest.lock = some (some v)) ∧
    (∀ endpoint socket attempt, .dialled endpoint socket attempt ∈ s.trace →
      endpoint = request.endpoint) ∧
    (s.trace.filterMap Event.socket?).Nodup := by
  have hi := run_inv h₀ hr
  obtain ⟨-, leafDer, rawQuote, collateral, v, -, -, -, hv, rfl⟩ := connectVerified_ok_iff.mp h₀
  refine ⟨rfl, ?_, ?_, hi.published, ?_, sockets_of_lawful hi.lawful⟩
  · intro r t past hs
    obtain ⟨v, caller, clock, h, hm⟩ := hi.lawful.of_suffix hs
    have hpast := hi.lawful.suffix ((List.suffix_cons _ past).trans hs)
    obtain ⟨hok, rfl, hd⟩ := made_of_lawful hpast hm
    exact ⟨caller, clock, h, v, hm, hok, rfl, hd⟩
  · exact ⟨clock, _, v, _, rfl, handedOut_of_lawful hi.lawful hi.opened,
      taken_of_lawful hi.lawful⟩
  · intro endpoint socket attempt hm
    obtain ⟨past, -, he, -⟩ := hi.lawful.of_mem hm
    exact he

/-! ## A recorded client whose endpoint changes its key -/

def recordedEndpoint : Endpoint where
  url := "https://example.com:8443"
  host := "example.com"
  port := 8443
  form := .unrecognised
  classified := by decide +kernel

def recordedRequest : ConnectRequest := ⟨recordedEndpoint, probeLicence, recordedDocument, none⟩

def recordedSource (_ : Bytes) : Except CollateralUnavailable String := .ok "august"

def recordedClock : Option UInt64 := some 1787875200

theorem recorded_leaf {k : RecordedKey} (hk : k ∈ [firstKey, secondKey]) :
    quoteFromCertificate recording.platform k.leaf = .ok k.quote := by
  have hq : (quoteFromCertificate recording.platform k.leaf).toOption = some k.quote := by
    rcases List.mem_pair.mp hk with rfl | rfl <;> decide +kernel
  exact ok_of_toOption hq

/-- A client of the recorded request accepts either key, and binds to it. -/
theorem recorded_made {k : RecordedKey} (hk : k ∈ [firstKey, secondKey]) (socket : Nat)
    (connector : VerifiedConnector recording.platform)
    (hr : connector.request = OwnedRequest.fromBorrowed recordedRequest)
    (hc : connector.collateral = "august") :
    ∃ v, (connector.verifyHandshook recordedClock ⟨⟨socket⟩, k.leaf⟩).1 = .ok (v, ⟨⟨socket⟩⟩) ∧
      v.binding.spkiDer = k.spkiDer := by
  have ht : (connector.judged recordedClock k.leaf k.quote).isTrustworthy = true := by
    apply trustworthy_iff_accepts.mpr
    have he : connector.evidence recordedClock k.leaf k.quote =
        k.evidence "august" 1787875200 := by
      unfold VerifiedConnector.evidence
      rw [hr, hc]
      rfl
    rw [he, hr]
    apply recorded_accepts hk (by simp) (recorded_report _)
    rcases List.mem_pair.mp hk with rfl | rfl <;> simp
  obtain ⟨v, t, hv⟩ :=
    (connector.verifyHandshook_ok_iff recordedClock ⟨⟨socket⟩, k.leaf⟩).mpr ⟨_, recorded_leaf hk, ht⟩
  obtain ⟨rfl, -⟩ := connector.verifyHandshook_made recordedClock _ hv
  refine ⟨v, hv, ?_⟩
  obtain ⟨_, quote, -, -, -, hb, -, -⟩ :=
    connector.verifyHandshook_ok recordedClock ⟨⟨socket⟩, k.leaf⟩ (Prod.ext hv rfl)
  obtain ⟨der, hp, hs⟩ := recorded_presents hk
  obtain rfl : k.leaf = der := PeerCertificate.presented.inj hp
  exact Except.ok.inj ((channelBinding_check_ok hb).1.symm.trans hs)

/-- The second call finds nothing pending and verifies a connection of its own, with the
new key, before the first call has written anything; the second is answered first. -/
def overlapping : List Action := [
  .submit 0 "/convert", .connect 0 [], .submit 1 "/health", .connect 1 [],
  .dial 1 (.completed secondKey.leaf), .verify 1 recordedClock, .transmit 1, .transmit 0,
  .respond 1 false, .finish 1, .respond 0 false]

/-- A successful verification gives the call its transport and publishes. -/
theorem step_verify {s : Session P} {r : Nat} {uri : String} {h : Handshook}
    {clock : Option UInt64} {v : Verification P} {t : VerifiedTransport}
    (hc : s.calls r = some ⟨uri, .shook h⟩)
    (hv : (s.client.connector.verifyHandshook clock h).1 = .ok (v, t)) :
    s.step (.verify r clock) = some ((((s.leave r).setConnector
      { s.client.connector with latest := s.client.connector.latest.store (some v) }).note
        (.verified (some r) clock h (.ok (v, t)))).enter r ⟨uri, .holding t⟩) := by
  have hafter := (s.client.connector.verifyHandshook_made clock h hv).2
  have heq : s.client.connector.verifyHandshook clock h = (.ok (v, t),
      { s.client.connector with latest := s.client.connector.latest.store (some v) }) :=
    Prod.ext hv hafter
  simp only [Session.step, hc, Session.verify, heq]

theorem recorded_opened : ∃ v,
    connectVerified recording.platform recordedRequest recordedSource (.completed firstKey.leaf)
      recordedClock = .ok (opened recordedRequest "august" recordedClock firstKey.leaf v) ∧
    v.binding.spkiDer = firstKey.spkiDer := by
  have h₁ : firstKey ∈ [firstKey, secondKey] := by simp
  obtain ⟨v, hv, hs⟩ := recorded_made h₁ 0 (newConnector recordedRequest "august") rfl rfl
  refine ⟨v, connectVerified_ok_iff.mpr ⟨rfl, firstKey.leaf, firstKey.quote, "august", v, rfl,
    recorded_leaf h₁, rfl, hv, rfl⟩, hs⟩

theorem recorded_overlap : ∃ v₁ v₂ s,
    connectVerified recording.platform recordedRequest recordedSource (.completed firstKey.leaf)
      recordedClock = .ok (opened recordedRequest "august" recordedClock firstKey.leaf v₁) ∧
    run Session.step (opened recordedRequest "august" recordedClock firstKey.leaf v₁)
      overlapping = some s ∧
    v₁.binding.spkiDer = firstKey.spkiDer ∧ v₂.binding.spkiDer = secondKey.spkiDer ∧
    s.client.latestVerification = v₂ ∧
    .verified none recordedClock ⟨⟨0⟩, firstKey.leaf⟩ (.ok (v₁, ⟨⟨0⟩⟩)) ∈ s.trace ∧
    .sent 0 ⟨⟨0⟩⟩ ∈ s.trace ∧ .sent 1 ⟨⟨1⟩⟩ ∈ s.trace ∧
    s.calls 0 = some ⟨requestUri recordedEndpoint "/convert", .answered ⟨⟨0⟩⟩⟩ ∧
    (∀ r, r ≠ 0 → s.calls r = none) := by
  have h₂ : secondKey ∈ [firstKey, secondKey] := by simp
  obtain ⟨v₁, h₀, hs₁⟩ := recorded_opened
  obtain ⟨v₂, hv₂, hs₂⟩ := recorded_made h₂ 1 ⟨OwnedRequest.fromBorrowed recordedRequest, "august",
    ⟨some v₁, false⟩, ⟨none, false⟩⟩ rfl rfl
  refine ⟨v₁, v₂, ?last, h₀, ?run, hs₁, hs₂, ?latest, ?opened, ?first, ?second,
    ?answered, ?alone⟩
  case run =>
    refine (run_cons_iff _).mpr ⟨_, rfl, ?_⟩
    refine (run_cons_iff _).mpr ⟨_, rfl, ?_⟩
    refine (run_cons_iff _).mpr ⟨_, rfl, ?_⟩
    refine (run_cons_iff _).mpr ⟨_, rfl, ?_⟩
    refine (run_cons_iff _).mpr ⟨_, rfl, ?_⟩
    refine (run_cons_iff _).mpr ⟨_, step_verify rfl hv₂, ?_⟩
    rfl
  case latest => rfl
  case opened => exact List.mem_of_getElem? (i := 7) rfl
  case first => exact List.mem_of_getElem? (i := 1) rfl
  case second => exact List.mem_of_getElem? (i := 2) rfl
  case answered => rfl
  case alone =>
    intro r hr
    match r with
    | 0 => exact absurd rfl hr
    | 1 => rfl
    | r + 2 => rfl

/-- Both calls of the recorded run sent their bytes over connections that were accepted. -/
theorem run_verified_recorded : ∃ s₀ s,
    connectVerified recording.platform recordedRequest recordedSource (.completed firstKey.leaf)
      recordedClock = .ok s₀ ∧
    run Session.step s₀ overlapping = some s ∧
    .sent 0 ⟨⟨0⟩⟩ ∈ s.trace ∧ .sent 1 ⟨⟨1⟩⟩ ∈ s.trace ∧
    ∀ r t past, .sent r t :: past <:+ s.trace → ∃ caller clock h v,
      .verified caller clock h (.ok (v, t)) ∈ past ∧
      (s₀.client.connector.verifyHandshook clock h).1 = .ok (v, t) ∧ t.stream = h.stream ∧
      .dialled recordedEndpoint t.stream.socket (.completed h.leafDer) ∈ past := by
  obtain ⟨v₁, -, s, h₀, hr, -, -, -, -, hfirst, hsecond, -⟩ := recorded_overlap
  exact ⟨_, s, h₀, hr, hfirst, hsecond, (run_verified h₀ hr).2.1⟩

end VerityVerifier.Connect
