import VerityVerifier.Core.Endpoint
import VerityVerifier.Core.Ratls
import VerityVerifier.Soundness.Acceptance

/-!
# The connector

Every connection comes through here. A handshake is verified as a whole: its quote is
lifted from its own leaf, judged by `verify`, guarded, and only then published and
turned into a transport. The network, the clock and the peer are inputs.
-/
namespace VerityVerifier.Connect

open VerityVerifier.Core
open VerityVerifier.Library.ByteString
open VerityVerifier.Library.Fallible
open VerityVerifier.Soundness

variable {κ : Type}

/-- `Mutex`: a value, and whether a holder of the lock has panicked. -/
structure Mutex (α : Type) where
  value : α
  poisoned : Bool

namespace Mutex

variable {α : Type}

def new (a : α) : Mutex α := ⟨a, false⟩

/-- `lock().ok()`, as a reader uses it. -/
def lock (m : Mutex α) : Option α := if m.poisoned then none else some m.value

/-- `if let Ok(mut slot) = m.lock() { *slot = a }`. -/
def store (m : Mutex α) (a : α) : Mutex α := if m.poisoned then m else { m with value := a }

variable {m : Mutex α}

theorem lock_of_poisoned (h : m.poisoned = true) : m.lock = none := if_pos h

theorem lock_of_sound (h : m.poisoned = false) : m.lock = some m.value := by
  rw [lock, h]
  rfl

theorem lock_eq_some {a : α} (h : m.lock = some a) : m.value = a := by
  cases hp : m.poisoned with
  | true =>
    rw [lock_of_poisoned hp] at h
    cases h
  | false =>
    rw [lock_of_sound hp] at h
    exact Option.some.inj h

theorem store_of_poisoned (h : m.poisoned = true) (a : α) : m.store a = m := if_pos h

theorem store_of_sound (h : m.poisoned = false) (a : α) : m.store a = ⟨a, false⟩ := by
  rw [store, h]
  rfl

end Mutex

structure CollateralUnavailable where
  detail : String
  deriving DecidableEq

/-- Why a connection was refused. -/
inductive Refusal where
  | terminatingEndpoint (host passthrough : String)
  | notReached (host : String) (port : UInt16) (detail : String)
  | handshakeFailed (host detail : String)
  | noPeerCertificate
  | noAttestation
  | unreadableAttestation (detail : String)
  | collateralUnavailable (e : CollateralUnavailable)
  | notTrustworthy (verdict : Verdict)
  deriving DecidableEq

/-- An established TLS stream, known by its socket. -/
structure Stream where
  socket : Nat
  deriving DecidableEq

/-- A completed handshake and the leaf it presented. -/
structure Handshook where
  stream : Stream
  leafDer : Bytes
  deriving DecidableEq

structure VerifiedTransport where
  stream : Stream
  deriving DecidableEq

/-! ## The dial -/

/-- What the resolver, the operating system and the TLS library answered during one
dial. A peer completes the handshake with any leaf. -/
inductive DialAttempt where
  | invalidServerName (detail : String)
  | unresolvable (detail : String)
  | noAddresses
  | unreachable (detail : String)
  | clientRejected (detail : String)
  | noProgress
  | tlsError (detail : String)
  | ioError (detail : String)
  | noPeerCertificate
  | completed (leafDer : Bytes)

def dial (endpoint : Endpoint) (socket : Nat) (attempt : DialAttempt) :
    Except Refusal Handshook :=
  let notReached detail := .error (.notReached endpoint.host endpoint.port detail)
  match attempt with
  | .invalidServerName detail =>
    notReached s!"`{endpoint.host}` is not a valid server name: {detail}"
  | .unresolvable detail => notReached detail
  | .noAddresses => notReached "the host resolved to no addresses"
  | .unreachable detail => notReached detail
  | .clientRejected detail => .error (.handshakeFailed endpoint.host detail)
  | .noProgress => notReached "the peer stopped responding during the TLS handshake"
  | .tlsError detail => .error (.handshakeFailed endpoint.host detail)
  | .ioError detail => notReached detail
  | .noPeerCertificate => .error .noPeerCertificate
  | .completed leafDer => .ok ⟨⟨socket⟩, leafDer⟩

theorem dial_ok_iff {endpoint : Endpoint} {socket : Nat} {attempt : DialAttempt}
    {h : Handshook} : dial endpoint socket attempt = .ok h ↔
      ∃ leafDer, attempt = .completed leafDer ∧ h = ⟨⟨socket⟩, leafDer⟩ := by
  cases attempt <;> simp [dial, eq_comm]

/-! ## The connector -/

/-- What a completed verification established. -/
structure Verification (P : Platform κ) where
  verdict : TrustworthyVerdict
  binding : ChannelBinding P
  deriving DecidableEq

structure ConnectRequest where
  endpoint : Endpoint
  licensed : LicensedVersion
  composeDocument : Bytes
  boot : Option BootReference

/-- The owned form of a `ConnectRequest`. -/
structure OwnedRequest where
  endpoint : Endpoint
  licensed : LicensedVersion
  composeDocument : Bytes
  boot : Option BootReference

def OwnedRequest.fromBorrowed (request : ConnectRequest) : OwnedRequest where
  endpoint := request.endpoint
  licensed := request.licensed
  composeDocument := request.composeDocument
  boot := request.boot

structure VerifiedConnector (P : Platform κ) where
  request : OwnedRequest
  collateral : κ
  latest : Mutex (Option (Verification P))
  pending : Mutex (Option VerifiedTransport)

/-- What the agent hands its connector. -/
structure ConnectionDetails where
  uri : String
  addrs : List String

/-- The verification time of one clock reading; a clock before 1970 gives none. -/
def nowSecs (clock : Option UInt64) : UInt64 := clock.getD 0

def attestationRefusal : AttestationError → Refusal
  | .missing => .noAttestation
  | other => .unreadableAttestation (toString other)

namespace VerifiedConnector

variable {P : Platform κ}

def evidence (self : VerifiedConnector P) (clock : Option UInt64) (leafDer rawQuote : Bytes) :
    Evidence κ where
  rawQuote
  composeDocument := self.request.composeDocument
  collateral := self.collateral
  nowSecs := nowSecs clock
  peerCertificate := .presented leafDer

/-- Verify a completed handshake. The connector is returned with the slot it publishes. -/
def verifyHandshook (self : VerifiedConnector P) (clock : Option UInt64) (handshook : Handshook) :
    Except Refusal (Verification P × VerifiedTransport) × VerifiedConnector P :=
  match (quoteFromCertificate P handshook.leafDer).mapError attestationRefusal with
  | .error refusal => (.error refusal, self)
  | .ok rawQuote =>
    let verdict := verify P self.request.licensed
      (self.evidence clock handshook.leafDer rawQuote) self.request.boot
    match TrustworthyVerdict.check verdict with
    | .error verdict => (.error (.notTrustworthy verdict), self)
    | .ok verdict =>
      match Quote.parse P.usizeBits rawQuote with
      | .error e => (.error (.unreadableAttestation (toString e)), self)
      | .ok quote =>
        match ChannelBinding.check P handshook.leafDer quote with
        | .error e => (.error (.unreadableAttestation (toString e)), self)
        | .ok binding =>
          let verification := ⟨verdict, binding⟩
          (.ok (verification, ⟨handshook.stream⟩),
            { self with latest := self.latest.store (some verification) })

/-- Take the transport `connect_verified` verified, if no request has used it yet. -/
def takePending (self : VerifiedConnector P) : Option VerifiedTransport × VerifiedConnector P :=
  match self.pending.lock with
  | none => (none, self)
  | some pending => (pending, { self with pending := self.pending.store none })

def setPending (self : VerifiedConnector P) (transport : VerifiedTransport) :
    VerifiedConnector P :=
  { self with pending := self.pending.store (some transport) }

/-- Dial, handshake and verify. -/
def verifyConnection (self : VerifiedConnector P) (socket : Nat) (attempt : DialAttempt)
    (clock : Option UInt64) : Except Refusal VerifiedTransport × VerifiedConnector P :=
  match dial self.request.endpoint socket attempt with
  | .error refusal => (.error refusal, self)
  | .ok handshook =>
    let (outcome, self) := self.verifyHandshook clock handshook
    (outcome.map Prod.snd, self)

/-- `Connector::connect`. The details are ignored. -/
def connect (self : VerifiedConnector P) (_details : ConnectionDetails) (socket : Nat)
    (attempt : DialAttempt) (clock : Option UInt64) :
    Except Refusal VerifiedTransport × VerifiedConnector P :=
  match self.takePending with
  | (some pending, self) => (.ok pending, self)
  | (none, self) => self.verifyConnection socket attempt clock

/-- The verdict `verify` reaches about a handshake whose leaf carries this quote. -/
def judged (self : VerifiedConnector P) (clock : Option UInt64) (leafDer rawQuote : Bytes) :
    Verdict :=
  verify P self.request.licensed (self.evidence clock leafDer rawQuote) self.request.boot

/-! ## What one verification can do -/

/-- After the guard both re-checks succeed, on the quote and the leaf it judged. -/
theorem rechecks_of_trustworthy {self : VerifiedConnector P} {clock : Option UInt64}
    {leafDer rawQuote : Bytes} (h : (self.judged clock leafDer rawQuote).isTrustworthy = true) :
    ∃ quote binding, Quote.parse P.usizeBits rawQuote = .ok quote ∧
      ChannelBinding.check P leafDer quote = .ok binding := by
  obtain ⟨quote, spkiDer, hq, he, der, hp, hs⟩ := (trustworthy_iff_accepts.mp h).quote
  obtain rfl : leafDer = der := PeerCertificate.presented.inj hp
  obtain ⟨binding, hb⟩ := channelBinding_check_ok_iff.mpr ⟨he.nonzero, spkiDer, hs, he.key⟩
  exact ⟨quote, binding, hq, hb⟩

/-- The three ways a verification ends, each with everything it changes. -/
inductive Ends (self : VerifiedConnector P) (clock : Option UInt64) (h : Handshook) :
    Except Refusal (Verification P × VerifiedTransport) × VerifiedConnector P → Prop
  | unattested (e : AttestationError) (hq : quoteFromCertificate P h.leafDer = .error e) :
    Ends self clock h (.error (attestationRefusal e), self)
  | refused (rawQuote : Bytes) (hq : quoteFromCertificate P h.leafDer = .ok rawQuote)
    (ht : (self.judged clock h.leafDer rawQuote).isTrustworthy = false) :
    Ends self clock h (.error (.notTrustworthy (self.judged clock h.leafDer rawQuote)), self)
  | verified (rawQuote : Bytes) (quote : Quote) (v : Verification P)
    (hq : quoteFromCertificate P h.leafDer = .ok rawQuote)
    (hv : v.verdict.verdict = self.judged clock h.leafDer rawQuote)
    (hp : Quote.parse P.usizeBits rawQuote = .ok quote)
    (hb : ChannelBinding.check P h.leafDer quote = .ok v.binding) :
    Ends self clock h
      (.ok (v, ⟨h.stream⟩), { self with latest := self.latest.store (some v) })

theorem verifyHandshook_ends (self : VerifiedConnector P) (clock : Option UInt64) (h : Handshook) :
    Ends self clock h (self.verifyHandshook clock h) := by
  cases hq : quoteFromCertificate P h.leafDer with
  | error e =>
    have hr : self.verifyHandshook clock h = (.error (attestationRefusal e), self) := by
      unfold verifyHandshook
      rw [hq]
      rfl
    rw [hr]
    exact .unattested e hq
  | ok rawQuote =>
    by_cases ht : (self.judged clock h.leafDer rawQuote).isTrustworthy = true
    · obtain ⟨quote, binding, hp, hb⟩ := rechecks_of_trustworthy ht
      have hc : TrustworthyVerdict.check (self.judged clock h.leafDer rawQuote) =
          .ok ⟨_, ht⟩ := trustworthyVerdict_check_ok_iff.mpr rfl
      have hr : self.verifyHandshook clock h = (.ok (⟨⟨_, ht⟩, binding⟩, ⟨h.stream⟩),
          { self with latest := self.latest.store (some ⟨⟨_, ht⟩, binding⟩) }) := by
        unfold judged at hc
        unfold verifyHandshook
        rw [hq]
        simp only [mapError_ok, hc, hp, hb]
        rfl
      rw [hr]
      exact .verified rawQuote quote ⟨⟨_, ht⟩, binding⟩ hq rfl hp hb
    · have hf : (self.judged clock h.leafDer rawQuote).isTrustworthy = false :=
        Bool.eq_false_iff.mpr ht
      have hc : TrustworthyVerdict.check (self.judged clock h.leafDer rawQuote) =
          .error (self.judged clock h.leafDer rawQuote) :=
        trustworthyVerdict_check_error_iff.mpr ⟨hf, rfl⟩
      have hr : self.verifyHandshook clock h =
          (.error (.notTrustworthy (self.judged clock h.leafDer rawQuote)), self) := by
        unfold judged at hc
        unfold verifyHandshook
        rw [hq]
        simp only [mapError_ok, hc]
        rfl
      rw [hr]
      exact .refused rawQuote hq hf

end VerifiedConnector

end VerityVerifier.Connect
