import VerityVerifier.Connect.Connector
import VerityVerifier.Connect.Deadline
import VerityVerifier.Library.Runs

/-!
# The dial, call by call

The TLS library asks for reads and writes one at a time, and the peer decides when each of
them is answered. However it spreads its bytes, the time spent waiting for it is the budget
of the handshake, and what the whole loop returns is one of the results of `dial`.
-/
namespace VerityVerifier.Connect

open VerityVerifier.Core
open VerityVerifier.Library.ByteString
open VerityVerifier.Library.Clock
open VerityVerifier.Library.Fallible
open VerityVerifier.Library.Runs

variable {τ : Type} {c : Counter}

/-- Why `complete_io` fails: on what the peer sent, or on the socket. -/
inductive CompleteError where
  | tls (detail : String)
  | io (e : IoError)
  deriving DecidableEq

def IoError.message : IoError → String
  | .timedOut message => message
  | .invalidInput message => message
  | .other message => message

/-- Inside `complete_io`: one more call on the socket, or the return. -/
inductive Pending where
  | call (kind : IoKind)
  | returned (result : Except CompleteError (Nat × Nat))

/-- The TLS library's connection, over its own state. -/
structure ClientConnection (τ : Type) where
  isHandshaking : τ → Bool
  /-- `complete_io` is entered. -/
  completeIo : τ → τ
  pending : τ → Pending
  /-- The call on the socket came back with this. -/
  resume : τ → Except IoError Nat → τ
  peerCertificates : τ → Option (List Bytes)

/-- What a call gives the library. -/
def IoResult.answer : IoResult → Except IoError Nat
  | .failed e => .error e
  | .ran _ answer => answer

/-- `let _ = sock.set_read_timeout(None)`, and the same for writes. -/
def TcpStream.clearTimeouts (self : TcpStream) : TcpStream :=
  let self := (self.setReadTimeout none).toOption.getD self
  (self.setWriteTimeout none).toOption.getD self

/-! ## The loop -/

inductive Loop (τ : Type) (c : Counter) where
  /-- Before the test of the loop. -/
  | head (conn : τ) (io : DeadlineIo c)
  | inside (conn : τ) (io : DeadlineIo c)
  | ended (outcome : Except Refusal (TcpStream × Bytes))

/-- The loop, when the last call came back, and how long the calls took together. -/
structure Handshaking (τ : Type) (c : Counter) where
  loop : Loop τ c
  clock : Instant c
  waited : Nat

/-- When a call began, when it came back, and what the socket answered. -/
structure Reply (c : Counter) where
  began : Instant c
  ended : Instant c
  answer : Except IoError Nat

inductive Turn (c : Counter) where
  | proceed
  | reply (r : Reply c)

section
variable (tls : ClientConnection τ) (endpoint : Endpoint)

def leafOf (conn : τ) (io : DeadlineIo c) : Except Refusal (TcpStream × Bytes) :=
  match (tls.peerCertificates conn).bind List.head? with
  | none => .error .noPeerCertificate
  | some leafDer => .ok (io.sock.clearTimeouts, leafDer)

/-- What the loop does with a result of `complete_io`. -/
def afterIo (conn : τ) (io : DeadlineIo c) : Except CompleteError (Nat × Nat) → Loop τ c
  | .ok (0, 0) => .ended (.error (.notReached endpoint.host endpoint.port
      "the peer stopped responding during the TLS handshake"))
  | .ok _ => .head conn io
  | .error (.tls detail) => .ended (.error (.handshakeFailed endpoint.host detail))
  | .error (.io e) => .ended (.error (.notReached endpoint.host endpoint.port e.message))

def Handshaking.step (s : Handshaking τ c) : Turn c → Option (Handshaking τ c)
  | .proceed =>
    match s.loop with
    | .head conn io =>
      if tls.isHandshaking conn then some { s with loop := .inside (tls.completeIo conn) io }
      else some { s with loop := .ended (leafOf tls conn io) }
    | .inside conn io =>
      match tls.pending conn with
      | .returned result => some { s with loop := afterIo endpoint conn io result }
      | .call _ => none
    | .ended _ => none
  | .reply r =>
    match s.loop with
    | .inside conn io =>
      match tls.pending conn with
      | .call kind =>
        let (result, io) := io.perform ⟨kind, r.began, r.answer⟩
        some {
          loop := .inside (tls.resume conn result.answer) io
          clock := r.ended
          waited := s.waited + (r.ended.nanos - r.began.nanos) }
      | .returned _ => none
    | _ => none

end

/-! ## Before the loop -/

/-- What the dial asks before the handshake. -/
structure DialWorld (τ : Type) where
  serverName : String → Except String Unit
  toSocketAddrs : String → UInt16 → Except String (List String)
  connectTimeout : String → Except String TcpStream
  clientConnection : String → Except String τ

def resolve (world : DialWorld τ) (endpoint : Endpoint) : Except String String :=
  match world.toSocketAddrs endpoint.host endpoint.port with
  | .error e => .error e
  | .ok [] => .error "the host resolved to no addresses"
  | .ok (addr :: _) => .ok addr

/-- The name is checked first, then resolved, then connected to. -/
def openSocket (world : DialWorld τ) (endpoint : Endpoint) : Except Refusal (τ × TcpStream) := do
  let notReached := Refusal.notReached endpoint.host endpoint.port
  (world.serverName endpoint.host).mapError fun e =>
    notReached s!"`{endpoint.host}` is not a valid server name: {e}"
  let addr ← (resolve world endpoint).mapError notReached
  let sock ← (world.connectTimeout addr).mapError notReached
  let conn ← (world.clientConnection endpoint.host).mapError
    (Refusal.handshakeFailed endpoint.host)
  return (conn, sock)

/-- The dial up to its loop, or nothing where the deadline panics. -/
def beginDial (world : DialWorld τ) (endpoint : Endpoint) (now : Instant c)
    (handshakeTimeout : Duration) : Option (Handshaking τ c) :=
  match openSocket world endpoint with
  | .error refusal => some ⟨.ended (.error refusal), now, 0⟩
  | .ok (conn, sock) =>
    (handshakeIo sock now handshakeTimeout).map fun io => ⟨.head conn io, now, 0⟩

/-! ## One turn -/

def Loop.io? : Loop τ c → Option (DeadlineIo c)
  | .head _ io => some io
  | .inside _ io => some io
  | .ended _ => none

section
variable {tls : ClientConnection τ} {endpoint : Endpoint}

/-- The four turns of the loop. -/
inductive Turned (tls : ClientConnection τ) (endpoint : Endpoint) (s : Handshaking τ c) :
    Turn c → Handshaking τ c → Prop where
  | entered {conn : τ} {io : DeadlineIo c} (hl : s.loop = .head conn io)
      (hh : tls.isHandshaking conn = true) :
      Turned tls endpoint s .proceed { s with loop := .inside (tls.completeIo conn) io }
  | left {conn : τ} {io : DeadlineIo c} (hl : s.loop = .head conn io)
      (hh : tls.isHandshaking conn = false) :
      Turned tls endpoint s .proceed { s with loop := .ended (leafOf tls conn io) }
  | returned {conn : τ} {io : DeadlineIo c} {result : Except CompleteError (Nat × Nat)}
      (hl : s.loop = .inside conn io) (hp : tls.pending conn = .returned result) :
      Turned tls endpoint s .proceed { s with loop := afterIo endpoint conn io result }
  | called {conn : τ} {io : DeadlineIo c} {kind : IoKind} {r : Reply c}
      (hl : s.loop = .inside conn io) (hp : tls.pending conn = .call kind) :
      Turned tls endpoint s (.reply r) {
        loop := .inside (tls.resume conn (io.perform ⟨kind, r.began, r.answer⟩).1.answer)
          (io.perform ⟨kind, r.began, r.answer⟩).2
        clock := r.ended
        waited := s.waited + (r.ended.nanos - r.began.nanos) }

theorem Handshaking.step_eq_some_iff {s s' : Handshaking τ c} {turn : Turn c} :
    s.step tls endpoint turn = some s' ↔ Turned tls endpoint s turn s' := by
  constructor
  · intro h
    cases turn with
    | proceed =>
      unfold Handshaking.step at h
      cases hl : s.loop with
      | head conn io =>
        simp only [hl] at h
        cases hh : tls.isHandshaking conn with
        | true =>
          rw [if_pos hh] at h
          obtain rfl := Option.some.inj h
          exact .entered hl hh
        | false =>
          rw [if_neg (by rw [hh]; decide)] at h
          obtain rfl := Option.some.inj h
          exact .left hl hh
      | inside conn io =>
        simp only [hl] at h
        cases hp : tls.pending conn with
        | call kind =>
          rw [hp] at h
          cases h
        | returned result =>
          rw [hp] at h
          obtain rfl := Option.some.inj h
          exact .returned hl hp
      | ended outcome =>
        simp only [hl] at h
        cases h
    | reply r =>
      unfold Handshaking.step at h
      cases hl : s.loop with
      | head conn io =>
        simp only [hl] at h
        cases h
      | inside conn io =>
        simp only [hl] at h
        cases hp : tls.pending conn with
        | call kind =>
          rw [hp] at h
          obtain rfl := Option.some.inj h
          exact .called hl hp
        | returned result =>
          rw [hp] at h
          cases h
      | ended outcome =>
        simp only [hl] at h
        cases h
  · intro h
    cases h with
    | entered hl hh => simp only [Handshaking.step, hl, hh, if_true]
    | left hl hh => simp only [Handshaking.step, hl, hh, Bool.false_eq_true, if_false]
    | returned hl hp => simp only [Handshaking.step, hl, hp]
    | called hl hp => simp only [Handshaking.step, hl, hp]

/-- A result of `complete_io` keeps the I/O or ends the loop. -/
theorem afterIo_io? {conn : τ} {io io' : DeadlineIo c}
    {result : Except CompleteError (Nat × Nat)}
    (h : (afterIo endpoint conn io result).io? = some io') : io' = io := by
  unfold afterIo at h
  split at h
  · cases h
  · exact (Option.some.inj h).symm
  · cases h
  · cases h

/-! ## The time it takes -/

/-- How long a call waits. One that failed before the socket waits for nothing, and so does
a flush of a socket; the system keeps a timeout up to its slack. -/
def mayTake (slack : Nat) (kind : IoKind) (waited : Nat) : IoResult → Prop
  | .failed _ => waited = 0
  | .ran sock _ =>
    match kind with
    | .read => ∀ d, sock.readTimeout = some d → waited ≤ d.nanos + slack
    | .write => ∀ d, sock.writeTimeout = some d → waited ≤ d.nanos + slack
    | .flush => waited = 0

/-- A clock that never goes back and a system that keeps the timeouts it is given. What the
peer answers, and when within them, is left open. -/
def Timely (tls : ClientConnection τ) (slack : Nat) (s : Handshaking τ c) : Turn c → Prop
  | .proceed => True
  | .reply r => s.clock.nanos ≤ r.began.nanos ∧ r.began.nanos ≤ r.ended.nanos ∧
      ∀ conn io kind, s.loop = .inside conn io → tls.pending conn = .call kind →
        mayTake slack kind (r.ended.nanos - r.began.nanos)
          (io.perform ⟨kind, r.began, r.answer⟩).1

/-- One deadline for all the calls, and the time they took within it. -/
structure WithinBudget (start : Instant c) (budget slack : Nat) (s : Handshaking τ c) : Prop where
  deadline : ∀ io, s.loop.io? = some io → io.deadline.nanos = start.nanos + budget
  elapsed : start.nanos + s.waited ≤ s.clock.nanos
  bounded : s.waited ≤ budget + slack

theorem mayTake_ran {slack : Nat} {kind : IoKind} {waited : Nat} {d : Duration}
    {answer : Except IoError Nat} (hk : kind ≠ .flush)
    (hm : mayTake slack kind waited (.ran ⟨some d, some d⟩ answer)) :
    waited ≤ d.nanos + slack := by
  cases kind with
  | read => exact hm d rfl
  | write => exact hm d rfl
  | flush => exact absurd rfl hk

theorem DeadlineIo.perform_of_ne_flush (self : DeadlineIo c) {kind : IoKind} (hk : kind ≠ .flush)
    (now : Instant c) (answer : Except IoError Nat) :
    self.perform ⟨kind, now, answer⟩ =
      if now.nanos < self.deadline.nanos then
        (.ran ⟨some (self.deadline.durationSince now), some (self.deadline.durationSince now)⟩
          answer,
          { self with sock :=
            ⟨some (self.deadline.durationSince now), some (self.deadline.durationSince now)⟩ })
      else (.failed spent, self) := by
  have harmed : self.perform ⟨kind, now, answer⟩ = self.armed now answer := by
    cases kind with
    | read => rfl
    | write => rfl
    | flush => exact absurd rfl hk
  rw [harmed]
  unfold armed
  rw [arm_eq]
  by_cases hlt : now.nanos < self.deadline.nanos
  · rw [if_pos hlt, if_pos hlt]
  · rw [if_neg hlt, if_neg hlt]

/-- A call ends within the slack of the deadline, or waits for nothing. -/
theorem DeadlineIo.perform_ends {self : DeadlineIo c} {kind : IoKind} {r : Reply c} {slack : Nat}
    (hm : mayTake slack kind (r.ended.nanos - r.began.nanos)
      (self.perform ⟨kind, r.began, r.answer⟩).1) :
    r.ended.nanos - r.began.nanos = 0 ∨ r.ended.nanos ≤ self.deadline.nanos + slack := by
  by_cases hk : kind = .flush
  · subst hk
    exact .inl hm
  · rw [perform_of_ne_flush self hk] at hm
    by_cases hlt : r.began.nanos < self.deadline.nanos
    · rw [if_pos hlt] at hm
      have hle : r.ended.nanos - r.began.nanos ≤
          self.deadline.nanos - r.began.nanos + slack := mayTake_ran hk hm
      right
      omega
    · rw [if_neg hlt] at hm
      exact .inl hm

theorem WithinBudget.step {start : Instant c} {budget slack : Nat} {s s' : Handshaking τ c}
    {turn : Turn c} (hs : WithinBudget start budget slack s) (ht : Timely tls slack s turn)
    (h : s.step tls endpoint turn = some s') : WithinBudget start budget slack s' := by
  cases Handshaking.step_eq_some_iff.mp h with
  | entered hl hh =>
    refine ⟨fun io hio => hs.deadline io ?_, hs.elapsed, hs.bounded⟩
    rw [hl]
    exact hio
  | left hl hh =>
    refine ⟨fun io hio => ?_, hs.elapsed, hs.bounded⟩
    cases hio
  | returned hl hp =>
    refine ⟨fun io hio => hs.deadline io ?_, hs.elapsed, hs.bounded⟩
    rw [hl, afterIo_io? hio]
    rfl
  | @called conn io kind r hl hp =>
    obtain ⟨hbegan, hended, hmay⟩ := ht
    have hd : io.deadline.nanos = start.nanos + budget := hs.deadline io (by rw [hl]; rfl)
    have helapsed := hs.elapsed
    have hbounded := hs.bounded
    constructor
    · intro io' hio
      obtain rfl := Option.some.inj hio
      rw [DeadlineIo.perform_deadline]
      exact hd
    · show start.nanos + (s.waited + (r.ended.nanos - r.began.nanos)) ≤ r.ended.nanos
      omega
    · show s.waited + (r.ended.nanos - r.began.nanos) ≤ budget + slack
      rcases DeadlineIo.perform_ends (hmay conn io kind hl hp) with hz | hle
      · omega
      · omega

theorem beginDial_withinBudget {world : DialWorld τ} {start : Instant c} {budget : Duration}
    {slack : Nat} {s₀ : Handshaking τ c} (hb : beginDial world endpoint start budget = some s₀) :
    WithinBudget start budget.nanos slack s₀ := by
  unfold beginDial at hb
  split at hb
  · obtain rfl := Option.some.inj hb
    refine ⟨fun io hio => ?_, Nat.le_refl _, Nat.zero_le _⟩
    cases hio
  · obtain ⟨io, hio, rfl⟩ := Option.map_eq_some_iff.mp hb
    obtain ⟨deadline, hd, rfl⟩ := Option.map_eq_some_iff.mp hio
    refine ⟨fun io' hio' => ?_, Nat.le_refl _, Nat.zero_le _⟩
    obtain rfl := Option.some.inj hio'
    exact Instant.checkedAdd_eq_some_iff.mp hd

/-- However many calls there are, and whatever the peer answers within them, a dial waits for
its peer no longer than the budget of the handshake. A read asked for after it ends the dial as
an outage, and never reaches the socket. -/
theorem dial_within_budget {world : DialWorld τ} {start : Instant c} {budget : Duration}
    {slack : Nat} {s₀ s : Handshaking τ c} {turns : List (Turn c)}
    (hread : ∀ conn message, tls.pending conn = .call .read →
      tls.pending (tls.resume conn (.error (.timedOut message))) =
        .returned (.error (.io (.timedOut message))))
    (hb : beginDial world endpoint start budget = some s₀)
    (ht : Along (Handshaking.step tls endpoint) (Timely tls slack) s₀ turns)
    (hr : run (Handshaking.step tls endpoint) s₀ turns = some s) :
    s.waited ≤ budget.nanos + slack ∧
      ∀ conn io r, s.loop = .inside conn io → tls.pending conn = .call .read →
        start.nanos + budget.nanos ≤ r.began.nanos →
        (io.perform ⟨.read, r.began, r.answer⟩).1 = .failed DeadlineIo.spent ∧
          (run (Handshaking.step tls endpoint) s [.reply r, .proceed]).map Handshaking.loop =
            some (.ended (.error (.notReached endpoint.host endpoint.port
              DeadlineIo.spent.message))) := by
  have hs : WithinBudget start budget.nanos slack s :=
    run_invariant_along (fun _ _ _ hs ht h => hs.step ht h) (beginDial_withinBudget hb) ht hr
  refine ⟨hs.bounded, ?_⟩
  intro conn io r hl hp hlate
  have hd : io.deadline.nanos = start.nanos + budget.nanos := hs.deadline io (by rw [hl]; rfl)
  have hspent : io.perform ⟨.read, r.began, r.answer⟩ = (.failed DeadlineIo.spent, io) := by
    rw [DeadlineIo.perform_of_ne_flush io (by decide), if_neg (by omega)]
  refine ⟨congrArg Prod.fst hspent, ?_⟩
  have hreturned : tls.pending (tls.resume conn (.error DeadlineIo.spent)) =
      .returned (.error (.io DeadlineIo.spent)) := hread conn _ hp
  simp only [run, Handshaking.step, hl, hp, hspent, IoResult.answer, hreturned, afterIo,
    Option.bind_some, Option.map_some]

end

/-! ## A peer that dribbles -/

/-- A TLS library that waits for one record of so many bytes. -/
inductive Flight where
  | awaiting (missing : Nat)
  | failed (e : IoError)
  | complete

def oneRecord : ClientConnection Flight where
  isHandshaking
    | .complete => false
    | _ => true
  completeIo conn := conn
  pending
    | .awaiting _ => .call .read
    | .failed e => .returned (.error (.io e))
    | .complete => .returned (.ok (1, 0))
  resume
    | .awaiting missing, .ok n => if n < missing then .awaiting (missing - n) else .complete
    | conn, .ok _ => conn
    | _, .error e => .failed e
  peerCertificates
    | .complete => some [[48, 0]]
    | _ => none

def localEndpoint : Endpoint :=
  ⟨"https://127.0.0.1:8443", "127.0.0.1", 8443, Endpoint.classify "127.0.0.1", rfl⟩

def localWorld (record : Nat) : DialWorld Flight where
  serverName _ := .ok ()
  toSocketAddrs _ _ := .ok ["127.0.0.1:8443"]
  connectTimeout _ := .ok ⟨none, none⟩
  clientConnection _ := .ok (.awaiting record)

def instantAt (nanos : Nat) (h : nanos ≤ monotonic.last := by decide) : Instant monotonic :=
  ⟨nanos, h⟩

/-- One byte at a time, each well within the budget of a hundred. -/
def dribble : List (Turn monotonic) :=
  [.proceed, .reply ⟨instantAt 0, instantAt 60, .ok 1⟩,
    .reply ⟨instantAt 60, instantAt 100, .ok 1⟩]

def dribbled : Handshaking Flight monotonic where
  loop := .inside (.awaiting 16382)
    ⟨⟨some ⟨40, by decide⟩, some ⟨40, by decide⟩⟩, instantAt 100⟩
  clock := instantAt 100
  waited := 100

/-- The loop is entered with a hundred nanoseconds to go. -/
def begun (record : Nat) : Handshaking Flight monotonic :=
  ⟨.head (.awaiting record) ⟨⟨none, none⟩, instantAt 100⟩, instantAt 0, 0⟩

theorem beginDial_local (record : Nat) :
    beginDial (localWorld record) localEndpoint (instantAt 0) ⟨100, by decide⟩ =
      some (begun record) := rfl

theorem oneRecord_read (conn : Flight) (message : String)
    (hp : oneRecord.pending conn = .call .read) :
    oneRecord.pending (oneRecord.resume conn (.error (.timedOut message))) =
      .returned (.error (.io (.timedOut message))) := by
  cases conn with
  | awaiting missing => rfl
  | failed e => cases hp
  | complete => cases hp

theorem dribble_timely : Along (Handshaking.step oneRecord localEndpoint) (Timely oneRecord 0)
    (begun 16384) dribble := by
  refine ⟨trivial, fun s hs => ?_⟩
  obtain rfl := Option.some.inj hs
  refine ⟨⟨by decide, by decide, ?_⟩, fun s hs => ?_⟩
  · intro conn io kind hl hp
    obtain ⟨rfl, rfl⟩ := Loop.inside.inj hl
    obtain rfl := Pending.call.inj hp
    intro d hd
    obtain rfl := Option.some.inj hd
    decide
  · obtain rfl := Option.some.inj hs
    refine ⟨⟨by decide, by decide, ?_⟩, fun s hs => trivial⟩
    intro conn io kind hl hp
    obtain ⟨rfl, rfl⟩ := Loop.inside.inj hl
    obtain rfl := Pending.call.inj hp
    intro d hd
    obtain rfl := Option.some.inj hd
    decide

theorem dial_within_budget_dribbled : dribbled.waited ≤ 100 + 0 ∧
    (run (Handshaking.step oneRecord localEndpoint) dribbled
      [.reply ⟨instantAt 100, instantAt 100, .ok 1⟩, .proceed]).map Handshaking.loop =
        some (.ended (.error (.notReached "127.0.0.1" 8443 DeadlineIo.spent.message))) := by
  have hr : run (Handshaking.step oneRecord localEndpoint) (begun 16384) dribble =
      some dribbled := rfl
  have h := dial_within_budget oneRecord_read (beginDial_local 16384) dribble_timely hr
  exact ⟨h.1, (h.2 (.awaiting 16382) _ ⟨instantAt 100, instantAt 100, .ok 1⟩ rfl rfl
    (by decide)).2⟩

/-! ## The dial it is -/

section
variable {tls : ClientConnection τ} {endpoint : Endpoint}

/-- Some attempt is refused so. -/
def Attempted (endpoint : Endpoint) (refusal : Refusal) : Prop :=
  ∃ attempt, ∀ socket, dial endpoint socket attempt = .error refusal

/-- How the turn out of a state ended the dial: over the handshake that has just finished, its
first certificate the leaf and the timeouts of the socket taken back; or refused as some
attempt is, and for the handshake only where the TLS library has just turned it down. -/
def Handshaking.Concludes (tls : ClientConnection τ) (endpoint : Endpoint) (s : Handshaking τ c) :
    Except Refusal (TcpStream × Bytes) → Prop
  | .error refusal => Attempted endpoint refusal ∧
      ∀ host detail, refusal = .handshakeFailed host detail → ∃ conn io,
        s.loop = .inside conn io ∧ tls.pending conn = .returned (.error (.tls detail))
  | .ok (sock, leafDer) => sock = ⟨none, none⟩ ∧ ∃ conn io rest, s.loop = .head conn io ∧
      tls.isHandshaking conn = false ∧ tls.peerCertificates conn = some (leafDer :: rest)

/-- The dial came to this state, and one more turn ended it. -/
def EndedFrom (tls : ClientConnection τ) (endpoint : Endpoint) (s₀ : Handshaking τ c)
    (turns : List (Turn c)) (s : Handshaking τ c) : Prop :=
  ∃ earlier, turns = earlier ++ [.proceed] ∧
    run (Handshaking.step tls endpoint) s₀ earlier = some s

variable {world : DialWorld τ}

theorem clearTimeouts_eq (sock : TcpStream) : sock.clearTimeouts = ⟨none, none⟩ := rfl

theorem concludes_leafOf {s : Handshaking τ c} {conn : τ} {io : DeadlineIo c}
    (hl : s.loop = .head conn io) (hh : tls.isHandshaking conn = false) :
    s.Concludes tls endpoint (leafOf tls conn io) := by
  unfold leafOf
  cases hleaf : (tls.peerCertificates conn).bind List.head? with
  | none =>
    refine ⟨⟨.noPeerCertificate, fun _ => rfl⟩, ?_⟩
    intro host detail he
    cases he
  | some leafDer =>
    obtain ⟨chain, hchain, hhead⟩ := Option.bind_eq_some_iff.mp hleaf
    obtain ⟨rest, rfl⟩ := List.head?_eq_some_iff.mp hhead
    exact ⟨clearTimeouts_eq io.sock, conn, io, rest, hl, hh, hchain⟩

theorem concludes_notReached {s : Handshaking τ c} (attempt : DialAttempt) {detail : String}
    (h : ∀ socket, dial endpoint socket attempt =
      .error (.notReached endpoint.host endpoint.port detail)) :
    s.Concludes tls endpoint (.error (.notReached endpoint.host endpoint.port detail)) := by
  refine ⟨⟨attempt, h⟩, ?_⟩
  intro host detail' he
  cases he

theorem concludes_afterIo {s : Handshaking τ c} {conn : τ} {io : DeadlineIo c}
    {result : Except CompleteError (Nat × Nat)} (hl : s.loop = .inside conn io)
    (hp : tls.pending conn = .returned result) {outcome : Except Refusal (TcpStream × Bytes)}
    (h : afterIo endpoint conn io result = .ended outcome) : s.Concludes tls endpoint outcome := by
  unfold afterIo at h
  split at h
  · obtain rfl := Loop.ended.inj h
    exact concludes_notReached .noProgress fun _ => rfl
  · cases h
  · rename_i detail
    obtain rfl := Loop.ended.inj h
    refine ⟨⟨.tlsError detail, fun _ => rfl⟩, fun host detail' he => ?_⟩
    obtain ⟨-, rfl⟩ := Refusal.handshakeFailed.inj he
    exact ⟨conn, io, hl, hp⟩
  · rename_i e
    obtain rfl := Loop.ended.inj h
    exact concludes_notReached (.ioError e.message) fun _ => rfl

/-- The turn that ends a dial concludes it from the state before. -/
theorem Handshaking.step_concludes {s s' : Handshaking τ c} {turn : Turn c}
    {outcome : Except Refusal (TcpStream × Bytes)} (h : s.step tls endpoint turn = some s')
    (he : s'.loop = .ended outcome) : turn = .proceed ∧ s.Concludes tls endpoint outcome := by
  cases Handshaking.step_eq_some_iff.mp h with
  | entered hl hh => cases he
  | left hl hh =>
    obtain rfl := Loop.ended.inj he
    exact ⟨rfl, concludes_leafOf hl hh⟩
  | returned hl hp => exact ⟨rfl, concludes_afterIo hl hp he⟩
  | called hl hp => cases he

theorem openSocket_refused {refusal : Refusal} (h : openSocket world endpoint = .error refusal) :
    Attempted endpoint refusal ∧ ∀ host detail, refusal = .handshakeFailed host detail →
      world.clientConnection endpoint.host = .error detail := by
  have hnot : ∀ {detail} (attempt : DialAttempt), (∀ socket, dial endpoint socket attempt =
      .error (.notReached endpoint.host endpoint.port detail)) →
      refusal = .notReached endpoint.host endpoint.port detail →
      Attempted endpoint refusal ∧ ∀ host detail, refusal = .handshakeFailed host detail →
        world.clientConnection endpoint.host = .error detail := by
    intro detail attempt hd hr
    subst hr
    refine ⟨⟨attempt, hd⟩, ?_⟩
    intro host detail' he
    cases he
  unfold openSocket at h
  rcases bind_error_iff.mp h with hname | ⟨_, _, h⟩
  · obtain ⟨e, _, rfl⟩ := mapError_error_iff.mp hname
    exact hnot (.invalidServerName e) (fun _ => rfl) rfl
  rcases bind_error_iff.mp h with haddr | ⟨_, _, h⟩
  · obtain ⟨e, _, rfl⟩ := mapError_error_iff.mp haddr
    exact hnot (.unresolvable e) (fun _ => rfl) rfl
  rcases bind_error_iff.mp h with hsock | ⟨_, _, h⟩
  · obtain ⟨e, _, rfl⟩ := mapError_error_iff.mp hsock
    exact hnot (.unreachable e) (fun _ => rfl) rfl
  rcases bind_error_iff.mp h with hconn | ⟨_, _, h⟩
  · obtain ⟨e, he, rfl⟩ := mapError_error_iff.mp hconn
    refine ⟨⟨.clientRejected e, fun _ => rfl⟩, fun host detail hd => ?_⟩
    obtain ⟨-, rfl⟩ := Refusal.handshakeFailed.inj hd
    exact he
  · cases h

theorem beginDial_ended {start : Instant c} {budget : Duration} {s₀ : Handshaking τ c}
    {outcome : Except Refusal (TcpStream × Bytes)}
    (hb : beginDial world endpoint start budget = some s₀) (he : s₀.loop = .ended outcome) :
    ∃ refusal, outcome = .error refusal ∧ openSocket world endpoint = .error refusal := by
  unfold beginDial at hb
  split at hb
  · rename_i refusal hopen
    obtain rfl := Option.some.inj hb
    exact ⟨refusal, (Loop.ended.inj he).symm, hopen⟩
  · obtain ⟨io, _, rfl⟩ := Option.map_eq_some_iff.mp hb
    cases he

/-- A dial that ends is one of the attempts `dial` maps, whatever happened inside. An established
one ended with its own handshake finished, its leaf the first certificate of it, and the
timeouts of the socket taken back. One refused for its handshake was turned down by the TLS
library, never by the socket: before the first turn, or in the call that came back last. -/
theorem dial_refined {start : Instant c} {budget : Duration} {s₀ s : Handshaking τ c}
    {turns : List (Turn c)} {outcome : Except Refusal (TcpStream × Bytes)}
    (hb : beginDial world endpoint start budget = some s₀)
    (hr : run (Handshaking.step tls endpoint) s₀ turns = some s) (he : s.loop = .ended outcome) :
    (∃ attempt, ∀ socket, dial endpoint socket attempt =
        outcome.map fun opened => ⟨⟨socket⟩, opened.2⟩) ∧
      (∀ sock leafDer, outcome = .ok (sock, leafDer) → sock = ⟨none, none⟩ ∧
        ∃ last conn io rest, EndedFrom tls endpoint s₀ turns last ∧ last.loop = .head conn io ∧
          tls.isHandshaking conn = false ∧ tls.peerCertificates conn = some (leafDer :: rest)) ∧
      ∀ host detail, outcome = .error (.handshakeFailed host detail) →
        turns = [] ∧ world.clientConnection endpoint.host = .error detail ∨
          ∃ last conn io, EndedFrom tls endpoint s₀ turns last ∧ last.loop = .inside conn io ∧
            tls.pending conn = .returned (.error (.tls detail)) := by
  rcases run_last hr with ⟨rfl, rfl⟩ | ⟨earlier, turn, last, rfl, hrun, hstep⟩
  · -- No turn was taken: the dial was refused before its loop.
    obtain ⟨refusal, rfl, hopen⟩ := beginDial_ended hb he
    obtain ⟨hattempt, hfailed⟩ := openSocket_refused hopen
    refine ⟨hattempt, fun sock leafDer ho => ?_, fun host detail ho => .inl ⟨rfl, ?_⟩⟩
    · cases ho
    · exact hfailed host detail (Except.error.inj ho)
  · obtain ⟨rfl, hc⟩ := Handshaking.step_concludes hstep he
    have hended : EndedFrom tls endpoint s₀ (earlier ++ [.proceed]) last := ⟨earlier, rfl, hrun⟩
    cases outcome with
    | error refusal =>
      obtain ⟨hattempt, hfailed⟩ := hc
      refine ⟨hattempt, fun sock leafDer ho => ?_, fun host detail ho => .inr ?_⟩
      · cases ho
      · obtain ⟨conn, io, hl, hp⟩ := hfailed host detail (Except.error.inj ho)
        exact ⟨last, conn, io, hended, hl, hp⟩
    | ok opened =>
      obtain ⟨sock, leafDer⟩ := opened
      obtain ⟨hsock, conn, io, rest, hl, hh, hcert⟩ := hc
      refine ⟨⟨.completed leafDer, fun _ => rfl⟩, fun sock' leafDer' ho => ?_,
        fun host detail ho => ?_⟩
      · obtain ⟨rfl, rfl⟩ := Prod.ext_iff.mp (Except.ok.inj ho)
        exact ⟨hsock, last, conn, io, rest, hended, hl, hh, hcert⟩
      · cases ho

end

/-- The turns of a dial whose peer sends its one record at once. -/
def answered : List (Turn monotonic) :=
  [.proceed, .reply ⟨instantAt 0, instantAt 60, .ok 2⟩, .proceed, .proceed]

theorem dial_refined_answered :
    (∃ attempt, ∀ socket, dial localEndpoint socket attempt = .ok ⟨⟨socket⟩, [48, 0]⟩) ∧
      ∃ last conn io rest, EndedFrom oneRecord localEndpoint (begun 2) answered last ∧
        last.loop = .head conn io ∧ oneRecord.isHandshaking conn = false ∧
        oneRecord.peerCertificates conn = some ([48, 0] :: rest) := by
  have hr : run (Handshaking.step oneRecord localEndpoint) (begun 2) answered =
      some ⟨.ended (.ok (⟨none, none⟩, [48, 0])), instantAt 60, 60⟩ := rfl
  have h := dial_refined (beginDial_local 2) hr rfl
  exact ⟨h.1, (h.2.1 _ _ rfl).2⟩

end VerityVerifier.Connect
