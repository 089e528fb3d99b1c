import VerityVerifier.Connect.Connector
import VerityVerifier.Library.Runs
import Mathlib.Logic.Function.Basic
import Mathlib.Tactic.Simps.Basic

/-!
# A verified client and its requests

`connectVerified` verifies one connection and leaves it for the first request. After
that any number of calls share the connector and the pool of the agent, one step at a
time and in any order. A verification and what it publishes are one step, because the
slot is written under its lock; no step poisons a lock. The trace records, newest first,
what a run did, and no step reads it.
-/
namespace VerityVerifier.Connect

open VerityVerifier.Core
open VerityVerifier.Library.ByteString
open VerityVerifier.Library.Runs

variable {κ : Type} {P : Platform κ}

structure VerifiedClient (P : Platform κ) where
  /-- The agent's connector; its slot is the one the client reads. -/
  connector : VerifiedConnector P
  endpoint : Endpoint
  first : Verification P

namespace VerifiedClient

def latestVerification (self : VerifiedClient P) : Verification P :=
  match self.connector.latest.lock with
  | some slot =>
    match slot with
    | some latest => latest
    | none => self.first
  | none => self.first

def verdict (self : VerifiedClient P) : TrustworthyVerdict := self.latestVerification.verdict

def channelBinding (self : VerifiedClient P) : ChannelBinding P := self.latestVerification.binding

end VerifiedClient

/-- The URI of a request: the endpoint's authority and the caller's path. -/
def requestUri (base : Endpoint) (path : String) : String :=
  let slash := if path.toList.head? = some '/' then "" else "/"
  s!"https://{base.host}:{base.port}{slash}{path}"

/-- Where a call of `get` or `post` stands. -/
inductive Phase where
  /-- The agent has no connection for it yet. -/
  | waiting
  /-- The connector found nothing pending. -/
  | dialling
  | shook (h : Handshook)
  /-- It has a connection and has written nothing. -/
  | holding (t : VerifiedTransport)
  | awaiting (t : VerifiedTransport)
  /-- The response is read; the call has not returned yet. -/
  | answered (t : VerifiedTransport)

namespace Phase

def handshook? : Phase → Option Handshook
  | .shook h => some h
  | _ => none

def transport? : Phase → Option VerifiedTransport
  | .holding t => some t
  | .awaiting t => some t
  | .answered t => some t
  | _ => none

end Phase

structure Call where
  uri : String
  phase : Phase

/-- What a run does that can be seen from outside the agent. -/
inductive Event (P : Platform κ) where
  /-- `Connector::connect` was called; `taken` is the pending transport it returned. -/
  | connected (details : ConnectionDetails) (taken : Option VerifiedTransport)
  | dialled (endpoint : Endpoint) (socket : Nat) (attempt : DialAttempt)
  /-- `verify_handshook` completed, for a call or for `connect_verified`. -/
  | verified (caller : Option Nat) (clock : Option UInt64) (h : Handshook)
    (outcome : Except Refusal (Verification P × VerifiedTransport))
  | sent (call : Nat) (t : VerifiedTransport)
  | returned (call : Nat) (t : VerifiedTransport)

/-- A client, the agent's pool, the calls in flight and what was done so far. -/
structure Session (P : Platform κ) where
  client : VerifiedClient P
  idle : List VerifiedTransport
  calls : Nat → Option Call
  nextSocket : Nat
  trace : List (Event P)

/-- The connector before its first verification. -/
def newConnector (request : ConnectRequest) (collateral : κ) : VerifiedConnector P where
  request := OwnedRequest.fromBorrowed request
  collateral
  latest := Mutex.new none
  pending := Mutex.new none

/-- The first connection. The client is returned with what opening it did. -/
def connectVerified (P : Platform κ) (request : ConnectRequest)
    (source : Bytes → Except CollateralUnavailable κ) (attempt : DialAttempt)
    (clock : Option UInt64) : Except Refusal (Session P) :=
  match request.endpoint.passthroughForm with
  | some passthrough => .error (.terminatingEndpoint request.endpoint.host passthrough)
  | none => do
    let handshook ← dial request.endpoint 0 attempt
    let rawQuote ← (quoteFromCertificate P handshook.leafDer).mapError attestationRefusal
    let collateral ← (source rawQuote).mapError .collateralUnavailable
    let outcome := (newConnector request collateral).verifyHandshook clock handshook
    let (first, transport) ← outcome.1
    return {
      client := ⟨outcome.2.setPending transport, request.endpoint, first⟩
      idle := []
      calls := fun _ => none
      nextSocket := 1
      trace := [.verified none clock handshook outcome.1, .dialled request.endpoint 0 attempt] }

/-! ## One step of a run -/

inductive Action where
  /-- A thread calls `get` or `post`. -/
  | submit (call : Nat) (path : String)
  /-- The agent takes a connection from its pool. -/
  | reuse (call : Nat) (index : Nat)
  /-- The agent asks the connector, which looks for the pending transport. -/
  | connect (call : Nat) (addrs : List String)
  | dial (call : Nat) (attempt : DialAttempt)
  | verify (call : Nat) (clock : Option UInt64)
  | transmit (call : Nat)
  /-- The response is read, and the connection is kept in the pool or closed. -/
  | respond (call : Nat) (keep : Bool)
  | finish (call : Nat)
  /-- The connection failed and the agent starts over. -/
  | retry (call : Nat)
  /-- The call returns an error. -/
  | abandon (call : Nat)
  /-- A connection in the pool closes. -/
  | expire (index : Nat)

namespace Session

@[simps]
def note (s : Session P) (e : Event P) : Session P := { s with trace := e :: s.trace }

@[simps]
def enter (s : Session P) (r : Nat) (c : Call) : Session P :=
  { s with calls := Function.update s.calls r (some c) }

@[simps]
def leave (s : Session P) (r : Nat) : Session P :=
  { s with calls := Function.update s.calls r none }

@[simps]
def keep (s : Session P) (idle : List VerifiedTransport) : Session P := { s with idle }

def setConnector (s : Session P) (connector : VerifiedConnector P) : Session P :=
  { s with client := { s.client with connector } }

/-- The first half of `Connector::connect`: its look at the pending slot. -/
def connect (s : Session P) (details : ConnectionDetails) :
    Option VerifiedTransport × Session P :=
  let (taken, connector) := s.client.connector.takePending
  (taken, (s.setConnector connector).note (.connected details taken))

/-- One dial, on a fresh socket. -/
def dial (s : Session P) (attempt : DialAttempt) : Except Refusal Handshook × Session P :=
  let endpoint := s.client.connector.request.endpoint
  (Connect.dial endpoint s.nextSocket attempt,
    { s.note (.dialled endpoint s.nextSocket attempt) with nextSocket := s.nextSocket + 1 })

/-- The handshake is taken by value: the call no longer has it. -/
def verify (s : Session P) (r : Nat) (clock : Option UInt64) (h : Handshook) :
    Except Refusal (Verification P × VerifiedTransport) × Session P :=
  let (outcome, connector) := s.client.connector.verifyHandshook clock h
  (outcome, ((s.leave r).setConnector connector).note (.verified (some r) clock h outcome))

def step (s : Session P) : Action → Option (Session P)
  | .submit r path =>
    match s.calls r with
    | none => some (s.enter r ⟨requestUri s.client.endpoint path, .waiting⟩)
    | some _ => none
  | .reuse r i =>
    match s.calls r, s.idle[i]? with
    | some ⟨uri, .waiting⟩, some t => some ((s.keep (s.idle.eraseIdx i)).enter r ⟨uri, .holding t⟩)
    | _, _ => none
  | .connect r addrs =>
    match s.calls r with
    | some ⟨uri, .waiting⟩ =>
      match s.connect ⟨uri, addrs⟩ with
      | (some t, s) => some (s.enter r ⟨uri, .holding t⟩)
      | (none, s) => some (s.enter r ⟨uri, .dialling⟩)
    | _ => none
  | .dial r attempt =>
    match s.calls r with
    | some ⟨uri, .dialling⟩ =>
      match s.dial attempt with
      | (.ok h, s) => some (s.enter r ⟨uri, .shook h⟩)
      | (.error _, s) => some (s.leave r)
    | _ => none
  | .verify r clock =>
    match s.calls r with
    | some ⟨uri, .shook h⟩ =>
      match s.verify r clock h with
      | (.ok (_, t), s) => some (s.enter r ⟨uri, .holding t⟩)
      | (.error _, s) => some s
    | _ => none
  | .transmit r =>
    match s.calls r with
    | some ⟨uri, .holding t⟩ => some ((s.enter r ⟨uri, .awaiting t⟩).note (.sent r t))
    | some ⟨uri, .awaiting t⟩ => some ((s.enter r ⟨uri, .awaiting t⟩).note (.sent r t))
    | _ => none
  | .respond r kept =>
    match s.calls r with
    | some ⟨uri, .awaiting t⟩ =>
      some ((s.keep (if kept then t :: s.idle else s.idle)).enter r ⟨uri, .answered t⟩)
    | _ => none
  | .finish r =>
    match s.calls r with
    | some ⟨_, .answered t⟩ => some ((s.leave r).note (.returned r t))
    | _ => none
  | .retry r =>
    match s.calls r with
    | some ⟨uri, .holding _⟩ => some (s.enter r ⟨uri, .waiting⟩)
    | some ⟨uri, .awaiting _⟩ => some (s.enter r ⟨uri, .waiting⟩)
    | _ => none
  | .abandon r =>
    match s.calls r with
    | some _ => some (s.leave r)
    | none => none
  | .expire i => if i < s.idle.length then some (s.keep (s.idle.eraseIdx i)) else none

end Session

/-! ## One call by itself -/

/-- Where an attempt to connect leaves a call. -/
def Call.connected (uri : String) : Except Refusal VerifiedTransport → Option Call
  | .ok t => some ⟨uri, .holding t⟩
  | .error _ => none

theorem dial_uninterrupted {s : Session P} {r : Nat} {uri : String}
    (hc : s.calls r = some ⟨uri, .dialling⟩) (attempt : DialAttempt) (clock : Option UInt64) :
    let result := s.client.connector.verifyConnection s.nextSocket attempt clock
    ∃ actions s', actions <+: [.dial r attempt, .verify r clock] ∧
      run Session.step s actions = some s' ∧ s'.client.connector = result.2 ∧
      s'.calls r = Call.connected uri result.1 := by
  let dialled := (s.dial attempt).2
  unfold VerifiedConnector.verifyConnection
  cases ha : dial s.client.connector.request.endpoint s.nextSocket attempt with
  | error refusal =>
    have hdial : s.dial attempt = (.error refusal, dialled) := Prod.ext ha rfl
    have hs : s.step (.dial r attempt) = some (dialled.leave r) := by
      simp only [Session.step, hc, hdial]
    exact ⟨[.dial r attempt], _, ⟨_, rfl⟩, (run_cons_iff _).mpr ⟨_, hs, rfl⟩, rfl,
      Function.update_self _ _ _⟩
  | ok h =>
    let shook := dialled.enter r ⟨uri, .shook h⟩
    have hdial : s.dial attempt = (.ok h, dialled) := Prod.ext ha rfl
    have hs : s.step (.dial r attempt) = some shook := by
      simp only [Session.step, hc, hdial, shook]
    have hshook : shook.calls r = some ⟨uri, .shook h⟩ := Function.update_self _ _ _
    have hsame : shook.client.connector = s.client.connector := rfl
    cases hv : s.client.connector.verifyHandshook clock h with
    | mk outcome connector =>
      let judged := ((shook.leave r).setConnector connector).note
        (.verified (some r) clock h outcome)
      have hverify : shook.verify r clock h = (outcome, judged) := by
        unfold Session.verify
        rw [hsame, hv]
      simp only [hv]
      cases outcome with
      | error refusal =>
        have hs' : shook.step (.verify r clock) = some judged := by
          simp only [Session.step, hshook, hverify]
        exact ⟨_, _, List.prefix_rfl, (run_cons_iff _).mpr ⟨_, hs, (run_cons_iff _).mpr
          ⟨_, hs', rfl⟩⟩, rfl, Function.update_self _ _ _⟩
      | ok made =>
        have hs' : shook.step (.verify r clock) =
            some (judged.enter r ⟨uri, .holding made.2⟩) := by
          simp only [Session.step, hshook, hverify]
        exact ⟨_, _, List.prefix_rfl, (run_cons_iff _).mpr ⟨_, hs, (run_cons_iff _).mpr
          ⟨_, hs', rfl⟩⟩, rfl, Function.update_self _ _ _⟩

/-- A call whose steps no other call interrupts gets what `Connector::connect` returns. -/
theorem connect_uninterrupted {s : Session P} {r : Nat} {uri : String}
    (hc : s.calls r = some ⟨uri, .waiting⟩) (addrs : List String) (attempt : DialAttempt)
    (clock : Option UInt64) :
    let result := s.client.connector.connect ⟨uri, addrs⟩ s.nextSocket attempt clock
    ∃ actions s', actions <+: [.connect r addrs, .dial r attempt, .verify r clock] ∧
      run Session.step s actions = some s' ∧ s'.client.connector = result.2 ∧
      s'.calls r = Call.connected uri result.1 := by
  unfold VerifiedConnector.connect
  cases hp : s.client.connector.takePending with
  | mk taken connector =>
    let looked := (s.setConnector connector).note (.connected ⟨uri, addrs⟩ taken)
    have hlook : s.connect ⟨uri, addrs⟩ = (taken, looked) := by
      unfold Session.connect
      rw [hp]
    cases taken with
    | some t =>
      have hs : s.step (.connect r addrs) = some (looked.enter r ⟨uri, .holding t⟩) := by
        simp only [Session.step, hc, hlook]
      exact ⟨[.connect r addrs], _, ⟨_, rfl⟩, (run_cons_iff _).mpr ⟨_, hs, rfl⟩, rfl,
        Function.update_self _ _ _⟩
    | none =>
      have hs : s.step (.connect r addrs) = some (looked.enter r ⟨uri, .dialling⟩) := by
        simp only [Session.step, hc, hlook]
      have hd : (looked.enter r ⟨uri, .dialling⟩).calls r = some ⟨uri, .dialling⟩ :=
        Function.update_self _ _ _
      obtain ⟨actions, s', hpre, hr, hs', hcall⟩ := dial_uninterrupted hd attempt clock
      exact ⟨.connect r addrs :: actions, s', List.cons_prefix_cons.mpr ⟨rfl, hpre⟩,
        (run_cons_iff _).mpr ⟨_, hs, hr⟩, hs', hcall⟩

end VerityVerifier.Connect
