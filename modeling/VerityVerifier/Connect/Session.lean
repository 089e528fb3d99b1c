import VerityVerifier.Connect.Steps
import VerityVerifier.Connect.Trace

/-!
# The invariant of a session

The history of a session is lawful, and the state is what the history says: the slots
of the connector, the transports in the pool and in the calls, the handshakes that wait
for a verification. The few operations a step is made of keep this, and so does every
run that starts with `connectVerified`.
-/
namespace VerityVerifier.Connect

open VerityVerifier.Core
open VerityVerifier.Library.ByteString
open VerityVerifier.Library.Fallible
open VerityVerifier.Library.History
open VerityVerifier.Library.Runs

variable {κ : Type} {P : Platform κ}

namespace Session

def place (s : Session P) (r : Nat) (c : Option Call) : Session P :=
  { s with calls := Function.update s.calls r c }

/-- The handshake a call waits to have verified. -/
def shaking (s : Session P) (r : Nat) : Option Handshook :=
  (s.calls r).bind fun c => c.phase.handshook?

/-- The transport a call uses. -/
def carrying (s : Session P) (r : Nat) : Option VerifiedTransport :=
  (s.calls r).bind fun c => c.phase.transport?

theorem shaking_of_calls (s : Session P) {r : Nat} {c : Call} (hc : s.calls r = some c) :
    s.shaking r = c.phase.handshook? := by
  unfold shaking
  rw [hc]
  rfl

theorem carrying_of_calls (s : Session P) {r : Nat} {c : Call} (hc : s.calls r = some c) :
    s.carrying r = c.phase.transport? := by
  unfold carrying
  rw [hc]
  rfl

theorem shaking_place (s : Session P) (r : Nat) (c : Option Call) :
    (s.place r c).shaking = Function.update s.shaking r (c.bind fun c => c.phase.handshook?) :=
  Function.comp_update (fun o : Option Call => o.bind fun c => c.phase.handshook?) s.calls r c

theorem carrying_place (s : Session P) (r : Nat) (c : Option Call) :
    (s.place r c).carrying = Function.update s.carrying r (c.bind fun c => c.phase.transport?) :=
  Function.comp_update (fun o : Option Call => o.bind fun c => c.phase.transport?) s.calls r c

end Session

/-- The invariant of a session. -/
structure Inv (origin : VerifiedConnector P) (t₀ : VerifiedTransport) (s : Session P) : Prop where
  request : s.client.connector.request = origin.request
  collateral : s.client.connector.collateral = origin.collateral
  lawful : Lawful (Allowed origin t₀) s.trace
  opened : Opened s.trace t₀
  latest : s.client.connector.latest = ⟨s.trace.findSome? Event.published?, false⟩
  pending : s.client.connector.pending = ⟨pendingAfter t₀ s.trace, false⟩
  idle : ∀ t ∈ s.idle, Established s.trace t
  carried : ∀ r t, s.carrying r = some t → Established s.trace t
  ready : ∀ r h, s.shaking r = some h → Ready origin s.trace h
  apart : ∀ r r' h h', s.shaking r = some h → s.shaking r' = some h' → r ≠ r' →
    h.stream ≠ h'.stream
  sockets : ∀ n ∈ s.trace.filterMap Event.socket?, n < s.nextSocket

namespace Inv

variable {origin : VerifiedConnector P} {t₀ : VerifiedTransport} {s : Session P}

theorem keep (h : Inv origin t₀ s) {idle : List VerifiedTransport}
    (hi : ∀ t ∈ idle, Established s.trace t) : Inv origin t₀ (s.keep idle) :=
  { h with idle := hi }

theorem eraseIdx (h : Inv origin t₀ s) (i : Nat) : Inv origin t₀ (s.keep (s.idle.eraseIdx i)) :=
  h.keep fun t ht => h.idle t (List.mem_of_mem_eraseIdx ht)

/-- The slot holds the newest verification that succeeded, and there is one. -/
theorem published (h : Inv origin t₀ s) : ∃ v, s.trace.findSome? Event.published? = some v ∧
    s.client.connector.latest.lock = some (some v) := by
  obtain ⟨clock, h', v, hm⟩ := h.opened
  have hsome : (s.trace.findSome? Event.published?).isSome = true :=
    List.findSome?_isSome_iff.mpr ⟨_, hm, rfl⟩
  obtain ⟨w, hw⟩ := Option.isSome_iff_exists.mp hsome
  refine ⟨w, hw, ?_⟩
  rw [h.latest, hw]
  rfl

/-- One call changes: what it carries was verified, and what it shook is its own. -/
theorem place (h : Inv origin t₀ s) {r : Nat} {c : Option Call}
    (ht : ∀ t, (c.bind fun c => c.phase.transport?) = some t → Established s.trace t)
    (hh : ∀ h', (c.bind fun c => c.phase.handshook?) = some h' → Ready origin s.trace h' ∧
      ∀ r' h'', r' ≠ r → s.shaking r' = some h'' → h''.stream ≠ h'.stream) :
    Inv origin t₀ (s.place r c) := by
  have hs := s.shaking_place r c
  refine { h with carried := ?_, ready := ?_, apart := ?_ }
  · intro r' t hc
    rw [s.carrying_place r c] at hc
    by_cases hr : r' = r
    · rw [hr, Function.update_self] at hc
      exact ht t hc
    · rw [Function.update_of_ne hr] at hc
      exact h.carried r' t hc
  · intro r' h' hc
    rw [hs] at hc
    by_cases hr : r' = r
    · rw [hr, Function.update_self] at hc
      exact (hh h' hc).1
    · rw [Function.update_of_ne hr] at hc
      exact h.ready r' h' hc
  · intro r₁ r₂ h₁ h₂ hc₁ hc₂ hne
    rw [hs] at hc₁ hc₂
    by_cases hr₁ : r₁ = r
    · have hr₂ : r₂ ≠ r := fun he => hne (hr₁.trans he.symm)
      rw [hr₁, Function.update_self] at hc₁
      rw [Function.update_of_ne hr₂] at hc₂
      exact ((hh h₁ hc₁).2 r₂ h₂ hr₂ hc₂).symm
    · rw [Function.update_of_ne hr₁] at hc₁
      by_cases hr₂ : r₂ = r
      · rw [hr₂, Function.update_self] at hc₂
        exact (hh h₂ hc₂).2 r₁ h₁ hr₁ hc₁
      · rw [Function.update_of_ne hr₂] at hc₂
        exact h.apart r₁ r₂ h₁ h₂ hc₁ hc₂ hne

theorem leave (h : Inv origin t₀ s) (r : Nat) : Inv origin t₀ (s.leave r) := by
  apply h.place
  · intro t ht
    cases ht
  · intro h' hh
    cases hh

/-- A call that has no connection in hand. -/
theorem wait (h : Inv origin t₀ s) {r : Nat} {c : Call} (ht : c.phase.transport? = none)
    (hh : c.phase.handshook? = none) : Inv origin t₀ (s.enter r c) := by
  apply h.place
  · intro t hc
    cases ht.symm.trans hc
  · intro h' hc
    cases hh.symm.trans hc

/-- A call that uses a transport some verification produced. -/
theorem carry (h : Inv origin t₀ s) {r : Nat} {c : Call} {t : VerifiedTransport}
    (hc : c.phase.transport? = some t) (hh : c.phase.handshook? = none)
    (ht : Established s.trace t) : Inv origin t₀ (s.enter r c) := by
  apply h.place
  · intro t' hc'
    obtain rfl := Option.some.inj (hc.symm.trans hc')
    exact ht
  · intro h' hc'
    cases hh.symm.trans hc'

/-- An event that opens nothing and judges nothing. -/
theorem note (h : Inv origin t₀ s) {e : Event P} {t : VerifiedTransport}
    (he : (∃ r, e = .sent r t) ∨ ∃ r, e = .returned r t) (ht : Established s.trace t) :
    Inv origin t₀ (s.note e) := by
  have hv : ∀ caller clock h' outcome, e ≠ .verified caller clock h' outcome := by
    rcases he with ⟨r, rfl⟩ | ⟨r, rfl⟩ <;> simp
  refine { h with
    lawful := ⟨?_, h.lawful⟩, opened := h.opened.cons e, latest := ?_, pending := ?_,
    idle := fun t ht => (h.idle t ht).cons e,
    carried := fun r t hc => (h.carried r t hc).cons e,
    ready := fun r h' hc => (h.ready r h' hc).cons fun c k x o hx => absurd hx (hv c k x o),
    sockets := ?_ }
  · rcases he with ⟨r, rfl⟩ | ⟨r, rfl⟩ <;> exact ht
  · rw [Session.note_client, h.latest]
    rcases he with ⟨r, rfl⟩ | ⟨r, rfl⟩ <;> rfl
  · rw [Session.note_client, h.pending]
    rcases he with ⟨r, rfl⟩ | ⟨r, rfl⟩ <;> rfl
  · rcases he with ⟨r, rfl⟩ | ⟨r, rfl⟩ <;> exact h.sockets

/-- A look at the pending slot finds what the history left there, and leaves nothing. -/
theorem takePending (h : Inv origin t₀ s) : s.client.connector.takePending =
    (pendingAfter t₀ s.trace, { s.client.connector with pending := ⟨none, false⟩ }) := by
  unfold VerifiedConnector.takePending
  rw [h.pending]
  rfl

theorem connect (h : Inv origin t₀ s) (details : ConnectionDetails)
    {taken : Option VerifiedTransport} (ht : taken = pendingAfter t₀ s.trace) :
    Inv origin t₀ ((s.setConnector { s.client.connector with pending := ⟨none, false⟩ }).note
      (.connected details taken)) := by
  refine { h with
    lawful := ⟨ht, h.lawful⟩, opened := h.opened.cons _, latest := h.latest,
    pending := congrArg (Mutex.mk · false) (pendingAfter_connected t₀ _ _ _).symm,
    idle := fun t ht => (h.idle t ht).cons _,
    carried := fun r t hc => (h.carried r t hc).cons _,
    ready := fun r h' hc => (h.ready r h' hc).cons ?_,
    sockets := h.sockets }
  intro caller clock h' outcome he
  cases he

/-- What waits in the slot is the first transport. -/
theorem pendingAfter_some (h : Inv origin t₀ s) {t : VerifiedTransport}
    (ht : pendingAfter t₀ s.trace = some t) : Established s.trace t := by
  unfold pendingAfter at ht
  split at ht
  · obtain rfl := Option.some.inj ht
    exact h.opened.established
  · cases ht

/-- A dial goes to the client's endpoint, and opens a socket of its own. -/
theorem dial (h : Inv origin t₀ s) (attempt : DialAttempt) :
    Inv origin t₀ (s.dial attempt).2 ∧
      ∀ h', (s.dial attempt).1 = .ok h' → Ready origin (s.dial attempt).2.trace h' ∧
        ∀ r h'', s.shaking r = some h'' → h''.stream ≠ h'.stream := by
  have hnew : s.nextSocket ∉ s.trace.filterMap Event.socket? :=
    fun hm => absurd (h.sockets _ hm) (Nat.lt_irrefl _)
  have hold : ∀ h', Ready origin s.trace h' → h'.stream.socket ≠ s.nextSocket := by
    intro h' hr he
    apply hnew
    rw [← he]
    exact List.mem_filterMap.mpr ⟨_, hr.dialled, rfl⟩
  constructor
  · refine { h with
      lawful := ⟨⟨congrArg OwnedRequest.endpoint h.request, hnew⟩, h.lawful⟩,
      opened := h.opened.cons _, latest := h.latest, pending := h.pending,
      idle := fun t ht => (h.idle t ht).cons _,
      carried := fun r t hc => (h.carried r t hc).cons _,
      ready := fun r h' hc => (h.ready r h' hc).cons ?_,
      sockets := ?_ }
    · intro caller clock h' outcome he
      cases he
    · intro n hn
      rcases List.mem_cons.mp hn with rfl | hn
      · exact Nat.lt_succ_self _
      · exact Nat.lt_succ_of_lt (h.sockets n hn)
  · intro h' hd
    obtain ⟨leafDer, rfl, rfl⟩ := dial_ok_iff.mp hd
    refine ⟨⟨?_, ?_⟩, ?_⟩
    · rw [← h.request]
      exact List.mem_cons_self
    · intro caller clock h' outcome hm he
      rcases List.mem_cons.mp hm with heq | hm
      · cases heq
      · obtain ⟨past, hs, -, hr⟩ := h.lawful.of_mem hm
        apply hnew
        have hd := mem_of_suffix hs hr.dialled
        rw [he] at hd
        exact List.mem_filterMap.mpr ⟨_, hd, rfl⟩
    · intro r h'' hc he
      exact hold h'' (h.ready r h'' hc) (congrArg Stream.socket he)

/-- A verification leaves in the slot what the history says was published last. -/
theorem judged (h : Inv origin t₀ s) {r : Nat} {h' : Handshook} (hc : s.shaking r = some h')
    {clock : Option UInt64} {outcome : Except Refusal (Verification P × VerifiedTransport)}
    (ho : (s.client.connector.verifyHandshook clock h').1 = outcome) (after : VerifiedConnector P)
    (ha : after = { s.client.connector with latest :=
      ⟨(Event.verified (some r) clock h' outcome :: s.trace).findSome? Event.published?,
        false⟩ }) :
    Inv origin t₀ (((s.leave r).setConnector after).note
      (.verified (some r) clock h' outcome)) := by
  have hleft := h.leave r
  have hsame := VerifiedConnector.verifyHandshook_fst h.request h.collateral clock h'
  have hothers : ∀ r' h'', (s.leave r).shaking r' = some h'' → h'.stream ≠ h''.stream := by
    intro r' h'' hc'
    have hs : (s.leave r).shaking = Function.update s.shaking r none := s.shaking_place r none
    rw [hs] at hc'
    by_cases hr : r' = r
    · rw [hr, Function.update_self] at hc'
      cases hc'
    · rw [Function.update_of_ne hr] at hc'
      exact h.apart r r' h' h'' hc hc' (Ne.symm hr)
  subst ha
  refine { hleft with
    lawful := ⟨⟨ho.symm.trans hsame, h.ready r h' hc⟩, h.lawful⟩,
    opened := h.opened.cons _, latest := rfl, pending := h.pending,
    idle := fun t ht => (h.idle t ht).cons _,
    carried := fun r' t hc' => (hleft.carried r' t hc').cons _,
    ready := fun r' h'' hc' => (hleft.ready r' h'' hc').cons ?_ }
  intro caller' clock' x outcome' he
  obtain ⟨-, -, rfl, -⟩ := Event.verified.inj he
  exact hothers r' h'' hc'

end Inv

/-! ## Every run keeps the invariant -/

/-- The session that starts with this verification of this leaf. -/
def opened (request : ConnectRequest) (collateral : κ) (clock : Option UInt64) (leafDer : Bytes)
    (v : Verification P) : Session P where
  client := {
    connector := {
      request := OwnedRequest.fromBorrowed request, collateral,
      latest := ⟨some v, false⟩, pending := ⟨some ⟨⟨0⟩⟩, false⟩ }
    endpoint := request.endpoint
    first := v }
  idle := []
  calls := fun _ => none
  nextSocket := 1
  trace := [.verified none clock ⟨⟨0⟩, leafDer⟩ (.ok (v, ⟨⟨0⟩⟩)),
    .dialled request.endpoint 0 (.completed leafDer)]

/-- What `connect_verified` needs, and what it returns then. -/
theorem connectVerified_ok_iff {request : ConnectRequest}
    {source : Bytes → Except CollateralUnavailable κ} {attempt : DialAttempt}
    {clock : Option UInt64} {s : Session P} :
    connectVerified P request source attempt clock = .ok s ↔
      request.endpoint.passthroughForm = none ∧ ∃ leafDer rawQuote collateral v,
        attempt = .completed leafDer ∧ quoteFromCertificate P leafDer = .ok rawQuote ∧
        source rawQuote = .ok collateral ∧
        ((newConnector request collateral).verifyHandshook clock ⟨⟨0⟩, leafDer⟩).1 =
          .ok (v, ⟨⟨0⟩⟩) ∧
        s = opened request collateral clock leafDer v := by
  unfold connectVerified
  cases hp : request.endpoint.passthroughForm with
  | some passthrough => simp
  | none =>
    simp only [bind_ok_iff, dial_ok_iff, mapError_ok_iff, true_and]
    constructor
    · intro h
      obtain ⟨_, ⟨leafDer, rfl, rfl⟩, rawQuote, hq, collateral, hc, ⟨v, t⟩, hv, hs⟩ := h
      obtain ⟨rfl, hafter⟩ := VerifiedConnector.verifyHandshook_made _ clock _ hv
      refine ⟨leafDer, rawQuote, collateral, v, rfl, hq, hc, hv, ?_⟩
      rw [← Except.ok.inj hs, hafter, hv]
      rfl
    · intro h
      obtain ⟨leafDer, rawQuote, collateral, v, rfl, hq, hc, hv, rfl⟩ := h
      refine ⟨_, ⟨leafDer, rfl, rfl⟩, rawQuote, hq, collateral, hc, ⟨v, ⟨⟨0⟩⟩⟩, hv, ?_⟩
      have hafter := (VerifiedConnector.verifyHandshook_made _ clock _ hv).2
      rw [hafter, hv]
      rfl

/-- Each way that a step can end keeps the invariant. -/
theorem step_inv {origin : VerifiedConnector P} {t₀ : VerifiedTransport} (s : Session P)
    (a : Action) (s' : Session P) (h : Inv origin t₀ s) (hs : s.step a = some s') :
    Inv origin t₀ s' := by
  cases stepped_of_step hs with
  | submitted hc => exact h.wait rfl rfl
  | reused hc ht => exact (h.eraseIdx _).carry rfl rfl (h.idle _ (List.mem_of_getElem? ht))
  | @taken r addrs uri t hc ht =>
    have hpending : pendingAfter t₀ s.trace = some t := by
      rw [← ht, h.pending]
    have hi := h.connect ⟨uri, addrs⟩ hpending.symm
    exact hi.carry rfl rfl ((h.pendingAfter_some hpending).cons _)
  | @missed r addrs uri hc ht =>
    rw [h.takePending] at ht ⊢
    exact (h.connect ⟨uri, addrs⟩ ht.symm).wait rfl rfl
  | @dialled r leafDer uri hc =>
    obtain ⟨hi, hd⟩ := h.dial (.completed leafDer)
    obtain ⟨hready, hapart⟩ := hd _ rfl
    apply hi.place
    · intro t ht
      cases ht
    · intro x hx
      obtain rfl := Option.some.inj hx
      exact ⟨hready, fun r' h'' _ hc' => hapart r' h'' hc'⟩
  | @undialled r attempt uri hc => exact (h.dial attempt).1.leave r
  | @verified r clock uri h' v hc hv =>
    have hi := h.judged (s.shaking_of_calls hc) hv
      { s.client.connector with latest := s.client.connector.latest.store (some v) } (by
        rw [h.latest]
        rfl)
    exact hi.carry rfl rfl ⟨v, some r, clock, h', List.mem_cons_self⟩
  | @refused r clock uri h' refusal hc hv =>
    -- A refusal publishes nothing, so the slot stays as it is.
    exact h.judged (s.shaking_of_calls hc) hv s.client.connector
      (congrArg (fun latest => { s.client.connector with latest }) h.latest)
  | @transmitted r uri phase t hc hp =>
    have ht : Established s.trace t := by
      apply h.carried r t
      rw [s.carrying_of_calls hc]
      rcases hp with rfl | rfl
      · rfl
      · rfl
    exact (h.carry rfl rfl ht).note (.inl ⟨r, rfl⟩) ht
  | @responded r kept uri t hc =>
    have ht := h.carried r t (s.carrying_of_calls hc)
    have hi : ∀ t' ∈ (if kept then t :: s.idle else s.idle), Established s.trace t' := by
      intro t' hm
      split at hm
      · rcases List.mem_cons.mp hm with rfl | hm
        · exact ht
        · exact h.idle t' hm
      · exact h.idle t' hm
    exact (h.keep hi).carry rfl rfl ht
  | @finished r uri t hc =>
    exact (h.leave r).note (.inr ⟨r, rfl⟩) (h.carried r t (s.carrying_of_calls hc))
  | retried hc hp => exact h.wait rfl rfl
  | @abandoned r c hc => exact h.leave r
  | @expired i hi => exact h.eraseIdx i

theorem opened_inv {request : ConnectRequest} {collateral : κ} {clock : Option UInt64}
    {leafDer : Bytes} {v : Verification P}
    (hv : ((newConnector request collateral).verifyHandshook clock ⟨⟨0⟩, leafDer⟩).1 =
      .ok (v, ⟨⟨0⟩⟩)) :
    let s := opened request collateral clock leafDer v
    Inv s.client.connector ⟨⟨0⟩⟩ s := by
  intro s
  have hsame : (s.client.connector.verifyHandshook clock ⟨⟨0⟩, leafDer⟩).1 = .ok (v, ⟨⟨0⟩⟩) := by
    rw [← hv]
    apply VerifiedConnector.verifyHandshook_fst <;> rfl
  refine {
    request := rfl, collateral := rfl, latest := rfl, pending := rfl
    lawful := ⟨⟨hsame.symm, ?_⟩, ⟨rfl, List.not_mem_nil⟩, trivial⟩
    opened := ⟨clock, ⟨⟨0⟩, leafDer⟩, v, List.mem_cons_self⟩
    idle := ?_, carried := ?_, ready := ?_, apart := ?_, sockets := ?_ }
  · refine ⟨List.mem_cons_self, ?_⟩
    intro caller clock' h' outcome hm
    cases List.mem_singleton.mp hm
  · intro t ht
    cases ht
  · intro r t hc
    cases hc
  · intro r h' hc
    cases hc
  · intro r r' h₁ h₂ hc
    cases hc
  · intro n hn
    obtain rfl := List.mem_singleton.mp hn
    exact Nat.one_pos

/-- A run of a client that `connect_verified` returned keeps the invariant. -/
theorem run_inv {request : ConnectRequest} {source : Bytes → Except CollateralUnavailable κ}
    {attempt : DialAttempt} {clock : Option UInt64} {s₀ s : Session P} {actions : List Action}
    (h₀ : connectVerified P request source attempt clock = .ok s₀)
    (hr : run Session.step s₀ actions = some s) : Inv s₀.client.connector ⟨⟨0⟩⟩ s := by
  obtain ⟨-, leafDer, rawQuote, collateral, v, -, -, -, hv, rfl⟩ := connectVerified_ok_iff.mp h₀
  exact run_invariant (fun s a s' => step_inv s a s') (opened_inv hv) hr

end VerityVerifier.Connect
