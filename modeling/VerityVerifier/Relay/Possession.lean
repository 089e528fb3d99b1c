import VerityVerifier.Connect.Freshness
import VerityVerifier.Connect.Steps
import VerityVerifier.Connect.Transports
import VerityVerifier.Relay.Network

/-!
# Whom a client talks to

The client, the enclaves and the attacker take their steps in any order. A relay can copy
the enclave's certificate, or carry its quote in a certificate of its own; it gets no byte
of a request either way, on the first connection or on a later one.
-/
namespace VerityVerifier.Relay

open VerityVerifier.Core
open VerityVerifier.Connect
open VerityVerifier.Library.ByteString
open VerityVerifier.Library.Fallible
open VerityVerifier.Library.History
open VerityVerifier.Library.Runs
open VerityVerifier.Library.Text
open VerityVerifier.Soundness

variable {κ : Type} {P : Platform κ} {honest : Set ComposeHash}

/-- A step of the client dials when it is a dial, and on the next socket. -/
theorem step_dialled {s c : Session P} {a : Action} (hc : s.step a = some c) {endpoint : Endpoint}
    {socket : Nat} {attempt : DialAttempt} (hm : .dialled endpoint socket attempt ∈ c.trace) :
    .dialled endpoint socket attempt ∈ s.trace ∨
      ∃ r, a = .dial r attempt ∧ socket = s.nextSocket := by
  have hother : ∀ {e : Event P}, .dialled endpoint socket attempt ∈ e :: s.trace →
      .dialled endpoint socket attempt ≠ e → .dialled endpoint socket attempt ∈ s.trace := by
    intro e hm he
    exact (List.mem_cons.mp hm).resolve_left he
  have hdial : ∀ {r attempt'}, .dialled endpoint socket attempt ∈ (s.dial attempt').2.trace →
      .dialled endpoint socket attempt ∈ s.trace ∨
        ∃ r', Action.dial r attempt' = .dial r' attempt ∧ socket = s.nextSocket := by
    intro r attempt' hd
    rcases List.mem_cons.mp hd with he | hd
    · obtain ⟨-, rfl, rfl⟩ := Event.dialled.inj he
      exact .inr ⟨r, rfl, rfl⟩
    · exact .inl hd
  cases stepped_of_step hc with
  | submitted _ => exact .inl hm
  | reused _ _ => exact .inl hm
  | taken _ _ => exact .inl (hother hm (by simp))
  | missed _ _ => exact .inl (hother hm (by simp))
  | dialled _ => exact hdial hm
  | undialled _ => exact hdial hm
  | verified _ _ => exact .inl (hother hm (by simp))
  | refused _ _ => exact .inl (hother hm (by simp))
  | transmitted _ _ => exact .inl (hother hm (by simp))
  | responded _ => exact .inl hm
  | finished _ => exact .inl (hother hm (by simp))
  | retried _ _ => exact .inl hm
  | abandoned _ => exact .inl hm
  | expired _ => exact .inl hm

/-- The network, the party behind each socket, and the client. -/
structure System (P : Platform κ) where
  network : Network
  peer : Nat → Option Party
  client : Session P

namespace System

/-- The client opened with a handshake that a party completed on the first socket. -/
inductive Start (honest : Set ComposeHash) (request : ConnectRequest)
    (source : Bytes → Except CollateralUnavailable κ) : System P → Prop
  | opened {network : Network} {party : Party} {leafDer : Bytes} {clock : Option UInt64}
    {client : Session P}
    (hn : Relation.ReflTransGen (Network.Step P honest) .empty network)
    (hp : network.Presentable P party leafDer)
    (hc : connectVerified P request source (.completed leafDer) clock = .ok client) :
    Start honest request source ⟨network, Function.update (fun _ => none) 0 (some party), client⟩

/-- A handshake completes with a party that can complete it; every other step of the client and
every step of the network is free. -/
inductive Step (honest : Set ComposeHash) : System P → System P → Prop
  | network {s : System P} {n : Network} (hn : Network.Step P honest s.network n) :
    Step honest s { s with network := n }
  | client {s : System P} {a : Action} {c : Session P}
    (ha : ∀ r leafDer, a ≠ .dial r (.completed leafDer)) (hc : s.client.step a = some c) :
    Step honest s { s with client := c }
  | handshake {s : System P} {r : Nat} {party : Party} {leafDer : Bytes} {c : Session P}
    (hp : s.network.Presentable P party leafDer)
    (hc : s.client.step (.dial r (.completed leafDer)) = some c) :
    Step honest s { s with
      peer := Function.update s.peer s.client.nextSocket (some party), client := c }

def Reachable (honest : Set ComposeHash) (request : ConnectRequest)
    (source : Bytes → Except CollateralUnavailable κ) (s : System P) : Prop :=
  ∃ s₀, Start honest request source s₀ ∧ Relation.ReflTransGen (Step honest) s₀ s

/-- What the client does without a handshake, it can do while nothing else happens. -/
theorem client_run {s : System P} {actions : List Action} {c : Session P}
    (ha : ∀ a ∈ actions, ∀ r leafDer, a ≠ .dial r (.completed leafDer))
    (hr : run Session.step s.client actions = some c) :
    Relation.ReflTransGen (Step honest) s { s with client := c } := by
  induction actions generalizing s with
  | nil =>
    obtain rfl := Option.some.inj hr
    exact .refl
  | cons a rest ih =>
    obtain ⟨m, hs, hr⟩ := (run_cons_iff _).mp hr
    rw [List.forall_mem_cons] at ha
    exact .head (.client ha.1 hs) (ih (s := { s with client := m }) ha.2 hr)

/-- Behind every socket that a handshake was completed on is a party that can complete it. -/
structure Inv (honest : Set ComposeHash) (origin : VerifiedConnector P) (s : System P) :
    Prop where
  network : Network.Inv P honest s.network
  client : Connect.Inv origin ⟨⟨0⟩⟩ s.client
  behind : ∀ endpoint socket leafDer,
    .dialled endpoint socket (.completed leafDer) ∈ s.client.trace →
      ∃ party, s.peer socket = some party ∧ s.network.Presentable P party leafDer

theorem start_inv {request : ConnectRequest} {source : Bytes → Except CollateralUnavailable κ}
    {s : System P} (h : Start honest request source s) :
    Inv honest s.client.client.connector s ∧
      s.client.client.connector.request = OwnedRequest.fromBorrowed request := by
  cases h with
  | @opened network party leafDer clock client hn hp hc =>
    obtain ⟨-, leaf, rawQuote, collateral, v, hleaf, -, -, hv, rfl⟩ := connectVerified_ok_iff.mp hc
    obtain rfl := DialAttempt.completed.inj hleaf
    refine ⟨⟨Network.inv_of_reachable hn, opened_inv hv, ?_⟩, rfl⟩
    intro endpoint socket leaf hm
    rcases List.mem_cons.mp hm with he | hm
    · cases he
    · obtain ⟨-, rfl, he⟩ := Event.dialled.inj (List.mem_singleton.mp hm)
      obtain rfl := DialAttempt.completed.inj he
      refine ⟨party, ?_, hp⟩
      show Function.update (fun _ => (none : Option Party)) 0 (some party) 0 = some party
      exact Function.update_self _ _ _

theorem step_inv {origin : VerifiedConnector P} {s s' : System P} (h : Inv honest origin s)
    (hs : Step honest s s') : Inv honest origin s' := by
  cases hs with
  | network hn =>
    refine ⟨Network.step_inv h.network hn, h.client, ?_⟩
    intro endpoint socket leafDer hm
    obtain ⟨party, hparty, hp⟩ := h.behind endpoint socket leafDer hm
    exact ⟨party, hparty, hp.step hn⟩
  | client ha hc =>
    refine ⟨h.network, Connect.step_inv _ _ _ h.client hc, ?_⟩
    intro endpoint socket leafDer hm
    rcases step_dialled hc hm with hm | ⟨r, rfl, -⟩
    · exact h.behind endpoint socket leafDer hm
    · exact absurd rfl (ha r leafDer)
  | @handshake r party leafDer c hp hc =>
    refine ⟨h.network, Connect.step_inv _ _ _ h.client hc, ?_⟩
    intro endpoint socket leaf hm
    rcases step_dialled hc hm with hm | ⟨r', hdial, rfl⟩
    · -- An earlier dial was on an earlier socket.
      have hold : socket ≠ s.client.nextSocket :=
        Nat.ne_of_lt (h.client.sockets socket (List.mem_filterMap.mpr ⟨_, hm, rfl⟩))
      obtain ⟨party', hparty, hp'⟩ := h.behind endpoint socket leaf hm
      refine ⟨party', ?_, hp'⟩
      rw [← hparty]
      exact Function.update_of_ne hold _ _
    · obtain ⟨-, he⟩ := Action.dial.inj hdial
      obtain rfl := DialAttempt.completed.inj he
      exact ⟨party, Function.update_self _ _ _, hp⟩

theorem reachable_inv {request : ConnectRequest} {source : Bytes → Except CollateralUnavailable κ}
    {s : System P} (h : Reachable honest request source s) : ∃ origin,
      Inv honest origin s ∧ origin.request = OwnedRequest.fromBorrowed request := by
  obtain ⟨s₀, h₀, hr⟩ := h
  obtain ⟨hi, hreq⟩ := start_inv h₀
  refine ⟨s₀.client.client.connector, ?_, hreq⟩
  induction hr with
  | refl => exact hi
  | tail _ hs ih => exact step_inv ih hs

/-- A transport that a verification produced ends in an enclave with the licensed configuration,
and is bound to that enclave's key. -/
theorem Inv.enclave {origin : VerifiedConnector P} {s : System P} (h : Inv honest origin s)
    (hl : origin.request.licensed.composeHash ∈ honest)
    (hk : Set.InjOn (fun k => P.sha512 (utf8 "ratls-cert:" ++ k)) s.network.keys)
    {t : VerifiedTransport} {v : Verification P} (ht : Establishes s.client.trace t v) :
    ∃ e, s.peer t.stream.socket = some (.enclave e) ∧
      e.config = origin.request.licensed.composeHash ∧ e.spkiDer = v.binding.spkiDer := by
  obtain ⟨caller, clock, hs, hm⟩ := ht
  obtain ⟨hv, rfl, hd⟩ := made_of_lawful h.client.lawful hm
  obtain ⟨rawQuote, quote, hq, hjudged, hparse, hbound, -, -⟩ :=
    origin.verifyHandshook_ok clock hs (Prod.ext hv rfl)
  have hsound := v.verdict.trustworthy
  rw [hjudged] at hsound
  have haccepts := trustworthy_iff_accepts.mp hsound
  obtain ⟨party, hparty, hp⟩ := h.behind _ _ _ hd
  obtain ⟨spkiDer, hspki, hholds⟩ := hp.signs
  obtain ⟨report, hreport, -⟩ := haccepts.platform
  obtain ⟨quote', spki', hparse', hendorses, der, hder, hspki'⟩ := haccepts.quote
  obtain rfl : hs.leafDer = der := PeerCertificate.presented.inj hder
  obtain rfl : quote = quote' := Except.ok.inj (hparse.symm.trans hparse')
  obtain rfl : spkiDer = spki' := Except.ok.inj (hspki.symm.trans hspki')
  obtain ⟨e, he, hconfig, hcommits⟩ := h.network.attested quote
    (hp.genuine rawQuote _ _ report quote hq hreport hparse) _ hl hendorses.config
  -- The quote commits to the enclave's key and to the leaf's, so they are one key.
  have hkey : e.spkiDer = spkiDer := by
    apply hk ⟨.enclave e, he, rfl⟩ ⟨party, hholds⟩
    show P.sha512 _ = P.sha512 _
    rw [← commitmentOver_bytes, ← commitmentOver_bytes, ← hcommits, hendorses.key]
  refine ⟨e, ?_, hconfig, ?_⟩
  · rw [hparty, h.network.holder (.enclave e) party spkiDer ⟨he, hkey⟩ hholds]
  · rw [hkey]
    exact Except.ok.inj (hspki.symm.trans (channelBinding_check_ok hbound).1)

end System

/-- Whatever the attacker does with copied certificates and quotes, and however its steps fall
between the client's, every byte of a request goes to an enclave that runs the licensed
configuration; so does every connection that waits to be used. What the client says it is
bound to is the key of the enclave behind the connection that was verified last. The hash has
to tell the keys in use apart. -/
theorem sent_to_enclave (honest : Set ComposeHash) (request : ConnectRequest)
    (source : Bytes → Except CollateralUnavailable κ) (s : System P)
    (hl : request.licensed.composeHash ∈ honest) (hr : System.Reachable honest request source s)
    (hk : Set.InjOn (fun k => P.sha512 (utf8 "ratls-cert:" ++ k)) s.network.keys) :
    (∀ r t, .sent r t ∈ s.client.trace ∨ .returned r t ∈ s.client.trace ∨ t ∈ s.client.idle →
      ∃ e, s.peer t.stream.socket = some (.enclave e) ∧
        e.config = request.licensed.composeHash) ∧
    ∃ clock h e, s.client.trace.findSome? Event.accepted? = some (clock, h) ∧
      s.peer h.stream.socket = some (.enclave e) ∧ e.config = request.licensed.composeHash ∧
      s.client.client.channelBinding.spkiDer = e.spkiDer := by
  obtain ⟨origin, hi, hreq⟩ := System.reachable_inv hr
  have hlicensed : origin.request.licensed = request.licensed := by
    rw [hreq]
    rfl
  rw [← hlicensed] at hl
  constructor
  · intro r t hcase
    have ht : Established s.client.trace t := by
      rcases hcase with hm | hm | hm
      · obtain ⟨past, hs, v, caller, clock, h, hv⟩ := hi.client.lawful.of_mem hm
        exact ⟨v, caller, clock, h, mem_of_suffix hs hv⟩
      · obtain ⟨past, hs, v, caller, clock, h, hv⟩ := hi.client.lawful.of_mem hm
        exact ⟨v, caller, clock, h, mem_of_suffix hs hv⟩
      · exact hi.client.idle t hm
    obtain ⟨v, ht⟩ := ht
    obtain ⟨e, hp, hc, -⟩ := hi.enclave hl hk ht
    rw [hlicensed] at hc
    exact ⟨e, hp, hc⟩
  · obtain ⟨caller, clock, h, t, hm, hnewest⟩ := latest_accepted hi.client
    obtain ⟨e, hp, hc, hkey⟩ := hi.enclave hl hk ⟨caller, clock, h, hm⟩
    obtain ⟨-, rfl, -⟩ := made_of_lawful hi.client.lawful hm
    rw [hlicensed] at hc
    exact ⟨clock, h, e, hnewest, hp, hc, hkey.symm⟩

/-! ## A recorded enclave, and an attacker with a key of its own -/

def recordedEnclave : Enclave := ⟨recordedHash, firstKey.spkiDer⟩

def attackerKey : Bytes := [0]

theorem recorded_network : ∃ network,
    Relation.ReflTransGen (Network.Step recording.platform {recordedHash}) .empty network ∧
    network.Presentable recording.platform (.enclave recordedEnclave) firstKey.leaf ∧
    network.keys = {attackerKey, firstKey.spkiDer} := by
  have hk : firstKey ∈ [firstKey, secondKey] := by simp
  obtain ⟨quote, hq, he⟩ := recorded_endorses hk
  let booted : Network := ⟨[recordedEnclave], [], []⟩
  let attested : Network := ⟨[recordedEnclave], [], [quote]⟩
  let network : Network := ⟨[recordedEnclave], [attackerKey], [quote]⟩
  have hboot : Network.Step recording.platform {recordedHash} .empty booted := by
    refine .boot recordedEnclave rfl ?_
    intro hm
    obtain ⟨party, hh⟩ := hm
    cases party with
    | enclave e => exact absurd hh.1 List.not_mem_nil
    | attacker => exact absurd hh List.not_mem_nil
  have hattest : Network.Step recording.platform {recordedHash} booted attested :=
    .attest recordedEnclave quote List.mem_cons_self he.config he.key
  have hgenerate : Network.Step recording.platform {recordedHash} attested network := by
    refine .generate attackerKey ?_
    intro hm
    obtain ⟨party, hh⟩ := hm
    cases party with
    | enclave e =>
      obtain ⟨he, hkey⟩ := hh
      obtain rfl := List.mem_singleton.mp he
      exact absurd hkey (by decide)
    | attacker => exact absurd hh List.not_mem_nil
  refine ⟨network, .tail (.tail (.single hboot) hattest) hgenerate, ⟨?_, ?_⟩, ?_⟩
  · obtain ⟨der, hder, hs⟩ := recorded_presents hk
    obtain rfl := PeerCertificate.presented.inj hder
    exact ⟨firstKey.spkiDer, hs, List.mem_cons_self, rfl⟩
  · intro rawQuote collateral nowSecs report quote' hraw _ hparse
    rw [recorded_leaf hk] at hraw
    obtain rfl := Except.ok.inj hraw
    obtain rfl := Except.ok.inj (hq.symm.trans hparse)
    exact List.mem_cons_self
  · ext key
    constructor
    · intro hm
      obtain ⟨party, hh⟩ := hm
      cases party with
      | enclave e =>
        obtain ⟨he, rfl⟩ := hh
        obtain rfl := List.mem_singleton.mp he
        exact .inr rfl
      | attacker => exact .inl (List.mem_singleton.mp hh)
    · intro hm
      rcases hm with rfl | rfl
      · exact ⟨.attacker, List.mem_cons_self⟩
      · exact ⟨.enclave recordedEnclave, List.mem_cons_self, rfl⟩

/-- The first request of the recorded client reaches the recorded enclave, and the client is
bound to the key of the enclave behind the connection that it was opened with. -/
theorem sent_to_enclave_recorded : ∃ s : System recording.platform,
    System.Reachable {recordedHash} recordedRequest recordedSource s ∧
    (∃ r t, .sent r t ∈ s.client.trace) ∧
    (∀ r t, .sent r t ∈ s.client.trace → ∃ e, s.peer t.stream.socket = some (.enclave e) ∧
      e.config = recordedRequest.licensed.composeHash) ∧
    ∃ clock h e, s.client.trace.findSome? Event.accepted? = some (clock, h) ∧
      s.peer h.stream.socket = some (.enclave e) ∧
      e.config = recordedRequest.licensed.composeHash ∧
      s.client.client.channelBinding.spkiDer = e.spkiDer := by
  obtain ⟨network, hn, hp, hkeys⟩ := recorded_network
  obtain ⟨v, hc, -⟩ := recorded_opened
  obtain ⟨client, hrun, hsent⟩ : ∃ client, run Session.step
      (opened recordedRequest "august" recordedClock firstKey.leaf v)
      [.submit 0 "/convert", .connect 0 [], .transmit 0] = some client ∧
      .sent 0 ⟨⟨0⟩⟩ ∈ client.trace := ⟨_, rfl, List.mem_cons_self⟩
  have hr : System.Reachable {recordedHash} recordedRequest recordedSource _ :=
    ⟨_, .opened hn hp hc, System.client_run (by simp) hrun⟩
  have hinj : Set.InjOn (fun k => recording.platform.sha512 (utf8 "ratls-cert:" ++ k))
      network.keys := by
    have hne : recording.platform.sha512 (utf8 "ratls-cert:" ++ attackerKey) ≠
        recording.platform.sha512 (utf8 "ratls-cert:" ++ firstKey.spkiDer) := by
      decide +kernel
    rw [hkeys]
    intro a ha b hb he
    rcases ha with rfl | rfl
    · rcases hb with rfl | rfl
      · rfl
      · exact absurd he hne
    · rcases hb with rfl | rfl
      · exact absurd he.symm hne
      · rfl
  obtain ⟨hbytes, hbound⟩ :=
    sent_to_enclave {recordedHash} recordedRequest recordedSource _ rfl hr hinj
  exact ⟨_, hr, ⟨0, ⟨⟨0⟩⟩, hsent⟩, fun r t hm => hbytes r t (.inl hm), hbound⟩

end VerityVerifier.Relay
