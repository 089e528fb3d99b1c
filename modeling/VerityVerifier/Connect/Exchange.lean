import VerityVerifier.Connect.Handshake
import VerityVerifier.Connect.Request
import VerityVerifier.Connect.Steps
import VerityVerifier.Library.Asking

/-!
# A request and the connections it asks for

The HTTP client decides how often it asks its connector for a connection, and what it makes of
one. An error of the connector ends it. Whatever it does, a refused connection comes out of
the request as a refusal, and as the one it was.
-/
namespace VerityVerifier.Connect

open VerityVerifier.Core
open VerityVerifier.Library
open VerityVerifier.Library.ByteString
open VerityVerifier.Library.Fallible
open VerityVerifier.Library.Reader

variable {κ : Type} {P : Platform κ} {Uri Request : Type}

/-- One call of the HTTP client. -/
abbrev Exchange := Asking ConnectionDetails VerifiedTransport (Except String RawResponse)

/-- The connector, and how many connections it was asked for. -/
structure Carrier (P : Platform κ) where
  connector : VerifiedConnector P
  asked : Nat

/-- What a dial finds, and what the clock says then. -/
abbrev Net := Nat → DialAttempt × Option UInt64

def Carrier.connect (net : Net) (details : ConnectionDetails) (self : Carrier P) :
    Except Refusal VerifiedTransport × Carrier P :=
  let (attempt, clock) := net self.asked
  let (outcome, connector) := self.connector.connect details self.asked attempt clock
  (outcome, ⟨connector, self.asked + 1⟩)

/-- What the HTTP client returns: a refusal in a box, and everything else as its own. -/
def boxed : Except Refusal (Except String RawResponse) → Except UreqError RawResponse
  | .error refusal => .error (.refusal refusal)
  | .ok (.error detail) => .error (.other detail)
  | .ok (.ok response) => .ok response

/-- The HTTP client over the connector. -/
def overConnector (net : Net) (parseUri : String → Except String Uri)
    (build : String → Uri → Option (String × Bytes) → Except String Request)
    (agent : Request → Exchange) : HttpClient (StateM (Carrier P)) Uri Request where
  parseUri
  build
  run built := fun carrier =>
    let (ended, carrier) := (agent built).run (Carrier.connect net) carrier
    (boxed ended, carrier)

/-! ## A refused connection -/

theorem VerifiedConnector.verifyConnection_error {self after : VerifiedConnector P} {socket : Nat}
    {attempt : DialAttempt} {clock : Option UInt64} {refusal : Refusal}
    (h : self.verifyConnection socket attempt clock = (.error refusal, after)) : after = self ∧
      (dial self.request.endpoint socket attempt = .error refusal ∨
        ∃ shook, dial self.request.endpoint socket attempt = .ok shook ∧
          (self.verifyHandshook clock shook).1 = .error refusal) := by
  unfold verifyConnection at h
  cases hd : dial self.request.endpoint socket attempt with
  | error e =>
    rw [hd] at h
    obtain ⟨he, rfl⟩ := Prod.mk.inj h
    obtain rfl := Except.error.inj he
    exact ⟨rfl, .inl rfl⟩
  | ok shook =>
    rw [hd] at h
    obtain ⟨⟨outcome, connector⟩, hv⟩ : ∃ r, self.verifyHandshook clock shook = r := ⟨_, rfl⟩
    simp only [hv] at h
    obtain ⟨he, rfl⟩ := Prod.mk.inj h
    obtain he := map_error_iff.mp he
    subst he
    exact ⟨(self.verifyHandshook_error clock shook hv).1, .inr ⟨shook, rfl, by rw [hv]⟩⟩

/-- The connection asked for now is refused, by its dial or by its verification, and the last
published verification stays. -/
structure RefusedNow (net : Net) (carrier carrier' : Carrier P) (refusal : Refusal) : Prop where
  unused : carrier.connector.takePending.1 = none
  latest : carrier'.connector.latest = carrier.connector.latest
  why : dial carrier.connector.request.endpoint carrier.asked (net carrier.asked).1 =
      .error refusal ∨
    ∃ h, dial carrier.connector.request.endpoint carrier.asked (net carrier.asked).1 = .ok h ∧
      (carrier.connector.verifyHandshook (net carrier.asked).2 h).1 = .error refusal

theorem refusedNow_of_connect {net : Net} {details : ConnectionDetails}
    {carrier carrier' : Carrier P} {refusal : Refusal}
    (h : carrier.connect net details = (.error refusal, carrier')) :
    RefusedNow net carrier carrier' refusal := by
  obtain ⟨hrequest, hcollateral, hlatest⟩ := carrier.connector.takePending_rest
  obtain ⟨⟨taken, connector⟩, ht⟩ : ∃ r, carrier.connector.takePending = r := ⟨_, rfl⟩
  rw [ht] at hrequest hcollateral hlatest
  unfold Carrier.connect VerifiedConnector.connect at h
  simp only [ht] at h
  cases taken with
  | some t =>
    cases (Prod.mk.inj h).1
  | none =>
    obtain ⟨⟨outcome, after⟩, hv⟩ :
      ∃ r, connector.verifyConnection carrier.asked (net carrier.asked).1 (net carrier.asked).2 =
        r := ⟨_, rfl⟩
    simp only [hv] at h
    obtain ⟨rfl, rfl⟩ := Prod.mk.inj h
    obtain ⟨rfl, hwhy⟩ := VerifiedConnector.verifyConnection_error hv
    refine ⟨by rw [ht], hlatest, ?_⟩
    rw [hrequest] at hwhy
    rcases hwhy with hd | ⟨shook, hd, hr⟩
    · exact .inl hd
    · rw [VerifiedConnector.verifyHandshook_fst hrequest hcollateral] at hr
      exact .inr ⟨shook, hd, hr⟩

/-! ## What the caller of a request is told -/

section
variable {net : Net} {parseUri : String → Except String Uri}
  {build : String → Uri → Option (String × Bytes) → Except String Request}
  {agent : Request → Exchange} {buffers : Buffers} {base : Endpoint} {method path : String}
  {body : Option (String × Bytes)} {limit : Nat} {carrier : Carrier P}

/-- What the caller gets of what the HTTP client returns. -/
def received (buffers : Buffers) (limit : Nat) :
    Except UreqError RawResponse → Except TransportError Response
  | .error e => .error (fromUreq e)
  | .ok response => (readBody buffers response.body limit).1.map fun body =>
      { status := response.status, headers := textHeaders response.headers, body }

theorem received_refused_iff {ended : Except Refusal (Except String RawResponse)}
    {refusal : Refusal} :
    received buffers limit (boxed ended) = .error (.refused refusal) ↔ ended = .error refusal := by
  cases ended with
  | error e => simp [received, boxed, fromUreq]
  | ok answered =>
    cases answered with
    | error detail => simp [received, boxed, fromUreq]
    | ok response =>
      refine iff_of_false ?_ (by simp)
      intro h
      have hread := map_error_iff.mp h
      unfold readBody readUpTo at hread
      split at hread
      · cases hread
      · split at hread
        · cases hread
        · cases hread

/-- A request that can be built ends as its exchange does. -/
theorem request_run {uri : Uri} {built : Request} (hu : parseUri (requestUri base path) = .ok uri)
    (hb : build method uri body = .ok built) :
    (request (overConnector net parseUri build agent) buffers base method path body limit).run
        carrier =
      (received buffers limit (boxed ((agent built).run (Carrier.connect net) carrier).1),
        ((agent built).run (Carrier.connect net) carrier).2) := by
  unfold request
  simp only [overConnector, hu, hb, StateT.run_bind]
  obtain ⟨⟨ended, after⟩, hr⟩ : ∃ r, (agent built).run (Carrier.connect net) carrier = r :=
    ⟨_, rfl⟩
  simp only [StateT.run, hr]
  show StateT.run (match boxed ended with
    | .error e => return .error (fromUreq e)
    | .ok response => return (readBody buffers response.body limit).1.map fun body =>
        { status := response.status, headers := textHeaders response.headers, body } :
      StateM (Carrier P) (Except TransportError Response)) after = _
  cases boxed ended with
  | error e => rfl
  | ok response => rfl

/-- A request that cannot be built asks for no connection. -/
theorem request_unbuilt (h : ∀ uri built, parseUri (requestUri base path) = .ok uri →
      build method uri body ≠ .ok built) :
    ∃ detail, (request (overConnector net parseUri build agent) buffers base method path body
      limit).run carrier = (.error (.io detail), carrier) := by
  unfold request
  cases hu : parseUri (requestUri base path) with
  | error e =>
    simp only [overConnector, hu]
    exact ⟨_, rfl⟩
  | ok uri =>
    cases hb : build method uri body with
    | error e =>
      simp only [overConnector, hu, hb]
      exact ⟨_, rfl⟩
    | ok built => exact absurd hb (h uri built hu)

end

/-- A request is refused exactly when the HTTP client, whatever it does, asks for a connection
that is refused. The caller gets that very refusal, and the verdict the client reports stays
what it was before that connection. -/
theorem request_refused_iff (net : Net) (parseUri : String → Except String Uri)
    (build : String → Uri → Option (String × Bytes) → Except String Request)
    (agent : Request → Exchange) (buffers : Buffers) (base : Endpoint) (method path : String)
    (body : Option (String × Bytes)) (limit : Nat) (carrier carrier' : Carrier P)
    (refusal : Refusal) :
    (request (overConnector net parseUri build agent) buffers base method path body limit).run
        carrier = (.error (.refused refusal), carrier') ↔
      ∃ uri built details next before, parseUri (requestUri base path) = .ok uri ∧
        build method uri body = .ok built ∧
        Asking.Leads (Carrier.connect net) (agent built) carrier (.ask details next) before ∧
        before.connect net details = (.error refusal, carrier') ∧
        RefusedNow net before carrier' refusal := by
  constructor
  · intro h
    by_cases hbuilt : ∃ uri built, parseUri (requestUri base path) = .ok uri ∧
        build method uri body = .ok built
    · obtain ⟨uri, built, hu, hb⟩ := hbuilt
      rw [request_run hu hb] at h
      obtain ⟨hended, hafter⟩ := Prod.mk.inj h
      have hrun : (agent built).run (Carrier.connect net) carrier = (.error refusal, carrier') :=
        Prod.ext (received_refused_iff.mp hended) hafter
      obtain ⟨details, next, before, hl, hc⟩ := Asking.run_error_iff.mp hrun
      exact ⟨uri, built, details, next, before, hu, hb, hl, hc, refusedNow_of_connect hc⟩
    · obtain ⟨detail, hd⟩ := @request_unbuilt κ P Uri Request net parseUri build agent buffers base
        method path body limit carrier fun uri built hu hb => hbuilt ⟨uri, built, hu, hb⟩
      rw [hd] at h
      cases (Prod.mk.inj h).1
  · intro h
    obtain ⟨uri, built, details, next, before, hu, hb, hl, hc, -⟩ := h
    have hrun := Asking.run_error_iff.mpr ⟨details, next, before, hl, hc⟩
    rw [request_run hu hb, hrun]
    exact congrArg (fun e => (e, carrier')) (received_refused_iff.mpr rfl)

end VerityVerifier.Connect
