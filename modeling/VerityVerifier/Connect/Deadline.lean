import VerityVerifier.Library.Clock
import VerityVerifier.Library.Fallible

/-!
# The deadline of the handshake

One budget is turned into one deadline, and every read and write of the handshake gets
the time that remains. The deadline is a sum without a check: it exists only where the
clock can hold it, and there the budget holds whatever the peer does.
-/
namespace VerityVerifier.Connect

open VerityVerifier.Library.Clock
open VerityVerifier.Library.Fallible

variable {c : Counter}

inductive IoError where
  | timedOut (message : String)
  | invalidInput (message : String)
  | other (message : String)
  deriving DecidableEq

/-- The two timeouts of a socket. No timeout waits forever. -/
structure TcpStream where
  readTimeout : Option Duration
  writeTimeout : Option Duration
  deriving DecidableEq

namespace TcpStream

/-- A timeout as the socket takes it: any but zero. -/
def timeout (dur : Option Duration) : Except IoError (Option Duration) :=
  if dur.any Duration.isZero then .error (.invalidInput "cannot set a 0 duration timeout")
  else .ok dur

def setReadTimeout (self : TcpStream) (dur : Option Duration) : Except IoError TcpStream :=
  (timeout dur).map fun t => { self with readTimeout := t }

def setWriteTimeout (self : TcpStream) (dur : Option Duration) : Except IoError TcpStream :=
  (timeout dur).map fun t => { self with writeTimeout := t }

end TcpStream

/-- What came of a call: it failed before the socket, or it ran on the socket as it was. -/
inductive IoResult where
  | failed (e : IoError)
  | ran (sock : TcpStream) (answer : Except IoError Nat)

structure DeadlineIo (c : Counter) where
  sock : TcpStream
  deadline : Instant c

namespace DeadlineIo

def spent : IoError :=
  .timedOut "the TLS handshake did not complete within the handshake timeout"

/-- Give the socket the time that remains, or report the budget as spent. -/
def arm (self : DeadlineIo c) (now : Instant c) : Except IoError (DeadlineIo c) := do
  let remaining ← okOr
    ((self.deadline.checkedDurationSince now).filter fun remaining => !remaining.isZero) spent
  let sock ← self.sock.setReadTimeout (some remaining)
  let sock ← sock.setWriteTimeout (some remaining)
  return { self with sock }

/-- A call on the socket behind `arm`. What the peer makes of it is a parameter. -/
def armed (self : DeadlineIo c) (now : Instant c) (answer : Except IoError Nat) :
    IoResult × DeadlineIo c :=
  match self.arm now with
  | .error e => (.failed e, self)
  | .ok io => (.ran io.sock answer, io)

def read (self : DeadlineIo c) (now : Instant c) (answer : Except IoError Nat) :
    IoResult × DeadlineIo c := self.armed now answer

def write (self : DeadlineIo c) (now : Instant c) (answer : Except IoError Nat) :
    IoResult × DeadlineIo c := self.armed now answer

/-- Not armed. -/
def flush (self : DeadlineIo c) (answer : Except IoError Nat) : IoResult × DeadlineIo c :=
  (.ran self.sock answer, self)

end DeadlineIo

/-- The I/O of one handshake, or nothing where the sum of instant and duration panics. -/
def handshakeIo (sock : TcpStream) (now : Instant c) (handshakeTimeout : Duration) :
    Option (DeadlineIo c) :=
  (now.checkedAdd handshakeTimeout).map fun deadline => ⟨sock, deadline⟩

/-! ## What the TLS library does with it -/

inductive IoKind where
  | read | write | flush
  deriving DecidableEq

/-- One call of the TLS library, with the clock at that moment and what the socket answers. -/
structure IoCall (c : Counter) where
  kind : IoKind
  now : Instant c
  answer : Except IoError Nat

def DeadlineIo.perform (self : DeadlineIo c) (call : IoCall c) : IoResult × DeadlineIo c :=
  match call.kind with
  | .read => self.read call.now call.answer
  | .write => self.write call.now call.answer
  | .flush => self.flush call.answer

/-- The calls of a handshake, in any number and order, each with what came of it. -/
def DeadlineIo.complete (self : DeadlineIo c) : List (IoCall c) → List (IoCall c × IoResult)
  | [] => []
  | call :: rest => (call, (self.perform call).1) :: (self.perform call).2.complete rest

/-! ## The budget -/

/-- A call gets exactly the time that remains, or fails because none does. -/
structure InBudget (deadline : Instant c) (budget : Duration) (call : IoCall c)
    (result : IoResult) : Prop where
  spent : result = .failed DeadlineIo.spent ↔ deadline.nanos ≤ call.now.nanos
  ran : result ≠ .failed DeadlineIo.spent → ∃ remaining : Duration,
    result = .ran ⟨some remaining, some remaining⟩ call.answer ∧ remaining.nanos ≠ 0 ∧
      remaining.nanos = deadline.nanos - call.now.nanos ∧ remaining.nanos ≤ budget.nanos

namespace TcpStream

theorem setReadTimeout_some {self : TcpStream} {d : Duration} (h : d.isZero = false) :
    self.setReadTimeout (some d) = .ok { self with readTimeout := some d } := by
  simp [setReadTimeout, timeout, h, Except.map]

theorem setWriteTimeout_some {self : TcpStream} {d : Duration} (h : d.isZero = false) :
    self.setWriteTimeout (some d) = .ok { self with writeTimeout := some d } := by
  simp [setWriteTimeout, timeout, h, Except.map]

end TcpStream

namespace DeadlineIo

/-- Arming sets both timeouts to the time that remains, and fails when none does. -/
theorem arm_eq (self : DeadlineIo c) (now : Instant c) :
    self.arm now =
      if now.nanos < self.deadline.nanos then
        .ok { self with sock :=
          ⟨some (self.deadline.durationSince now), some (self.deadline.durationSince now)⟩ }
      else .error spent := by
  unfold arm
  rw [Instant.checkedDurationSince_filter]
  by_cases hlt : now.nanos < self.deadline.nanos
  · have hz := Instant.durationSince_isZero hlt
    rw [if_pos hlt, if_pos hlt, okOr, ok_bind, TcpStream.setReadTimeout_some hz, ok_bind,
      TcpStream.setWriteTimeout_some hz, ok_bind]
    rfl
  · rw [if_neg hlt, if_neg hlt]
    rfl

theorem perform_deadline (self : DeadlineIo c) (call : IoCall c) :
    (self.perform call).2.deadline = self.deadline := by
  have harmed : (self.armed call.now call.answer).2.deadline = self.deadline := by
    unfold armed
    rw [arm_eq]
    by_cases hlt : call.now.nanos < self.deadline.nanos
    · rw [if_pos hlt]
    · rw [if_neg hlt]
  unfold perform
  cases call.kind with
  | read => exact harmed
  | write => exact harmed
  | flush => rfl

/-- One read or write, at any moment from the start on. -/
theorem perform_inBudget {self : DeadlineIo c} {start : Instant c} {budget : Duration}
    (hd : self.deadline.nanos = start.nanos + budget.nanos) {call : IoCall c}
    (hstart : start.nanos ≤ call.now.nanos) (hk : call.kind ≠ .flush) :
    InBudget self.deadline budget call (self.perform call).1 := by
  have hperform : (self.perform call).1 = (self.armed call.now call.answer).1 := by
    unfold perform
    cases hkind : call.kind with
    | read => rfl
    | write => rfl
    | flush => exact absurd hkind hk
  rw [hperform]
  unfold armed
  rw [arm_eq]
  by_cases hlt : call.now.nanos < self.deadline.nanos
  · rw [if_pos hlt]
    constructor
    · exact iff_of_false (fun h => by cases h) (Nat.not_le.mpr hlt)
    · intro _
      refine ⟨self.deadline.durationSince call.now, rfl, ?_, rfl, ?_⟩
      · show self.deadline.nanos - call.now.nanos ≠ 0
        omega
      · show self.deadline.nanos - call.now.nanos ≤ budget.nanos
        omega
  · rw [if_neg hlt]
    constructor
    · exact iff_of_true rfl (Nat.not_lt.mp hlt)
    · intro h
      exact absurd rfl h

/-- Every read and write of a handshake, whatever was called before it. -/
theorem complete_inBudget {self : DeadlineIo c} {start : Instant c} {budget : Duration}
    (hd : self.deadline.nanos = start.nanos + budget.nanos) {calls : List (IoCall c)}
    (hstart : ∀ call ∈ calls, start.nanos ≤ call.now.nanos) :
    ∀ e ∈ self.complete calls, e.1.kind ≠ .flush → InBudget self.deadline budget e.1 e.2 := by
  induction calls generalizing self with
  | nil =>
    intro e he
    cases he
  | cons call rest ih =>
    intro e he hk
    obtain rfl | he := List.mem_cons.mp he
    · exact perform_inBudget hd (hstart call List.mem_cons_self) hk
    · have hsame := perform_deadline self call
      rw [← hsame] at hd ⊢
      exact ih hd (fun x hx => hstart x (List.mem_cons_of_mem call hx)) e he hk

end DeadlineIo

/-- The budget is one deadline, and no read or write of the handshake outlives it. -/
def Budgeted (sock : TcpStream) (start : Instant c) (budget : Duration) : Prop :=
  ∃ io, handshakeIo sock start budget = some io ∧
    io.deadline.nanos = start.nanos + budget.nanos ∧
    ∀ calls : List (IoCall c),
      ((start :: calls.map IoCall.now).Pairwise fun a b => a.nanos ≤ b.nanos) →
      ∀ e ∈ io.complete calls, e.1.kind ≠ .flush → InBudget io.deadline budget e.1 e.2

/-- A budget holds for every handshake exactly when its end is an instant of the clock. Otherwise
the dial panics before the first read. -/
theorem budgeted_iff (sock : TcpStream) (start : Instant c) (budget : Duration) :
    Budgeted sock start budget ↔ start.nanos + budget.nanos ≤ c.last := by
  rw [← Instant.exists_checkedAdd_iff]
  constructor
  · intro h
    obtain ⟨io, hio, -⟩ := h
    obtain ⟨deadline, hd, -⟩ := Option.map_eq_some_iff.mp hio
    exact ⟨deadline, hd⟩
  · intro h
    obtain ⟨deadline, hd⟩ := h
    have hsum := Instant.checkedAdd_eq_some_iff.mp hd
    refine ⟨⟨sock, deadline⟩, Option.map_eq_some_iff.mpr ⟨deadline, hd, rfl⟩, hsum, ?_⟩
    intro calls hp
    have hstart : ∀ call ∈ calls, start.nanos ≤ call.now.nanos := by
      intro call hc
      exact (List.pairwise_cons.mp hp).1 _ (List.mem_map_of_mem hc)
    exact DeadlineIo.complete_inBudget hsum hstart

/-- A clock of 64 signed bits of seconds. -/
def monotonic : Counter := ⟨9223372036854775807 * 1000000000 + 999999999, by decide⟩

theorem longest_budget_panics :
    ¬ Budgeted ⟨none, none⟩ (⟨0, Nat.zero_le _⟩ : Instant monotonic) Duration.max := by
  intro h
  obtain ⟨io, hio, -⟩ := h
  have hnone : handshakeIo ⟨none, none⟩ (⟨0, Nat.zero_le _⟩ : Instant monotonic) Duration.max =
      none := by
    have hd : ¬ 0 + Duration.max.nanos ≤ monotonic.last := by decide
    unfold handshakeIo Instant.checkedAdd
    rw [dif_neg hd]
    rfl
  rw [hnone] at hio
  cases hio

end VerityVerifier.Connect
