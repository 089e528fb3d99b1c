import VerityVerifier.Connect.Ownership

/-!
# Judging and publishing

`verify_handshook` reads the clock and judges with no lock held, and takes the lock of the
slot only to publish. In between any other call can be judged, publish and be used. The
sessions that such threads reach are those in which a verification is one step: it stands
where its thread published.
-/
namespace VerityVerifier.Connect

open VerityVerifier.Core
open VerityVerifier.Library.Runs

variable {κ : Type} {P : Platform κ}

/-- What a thread has found out about its handshake, and has not published or returned yet. -/
structure Judged (P : Platform κ) where
  clock : Option UInt64
  handshook : Handshook
  outcome : Except Refusal (Verification P × VerifiedTransport)

/-- A session, and the threads in the middle of `verify_handshook`. -/
structure Threads (P : Platform κ) where
  session : Session P
  judged : Nat → Option (Judged P)

inductive ThreadStep where
  | act (a : Action)
  /-- The thread reads the clock and judges. -/
  | judge (call : Nat) (clock : Option UInt64)
  /-- It publishes under the lock and has its transport, or returns its refusal. -/
  | conclude (call : Nat)

def Action.isVerify : Action → Bool
  | .verify _ _ => true
  | _ => false

def Session.conclude (s : Session P) (r : Nat) (uri : String) (j : Judged P) : Session P :=
  match j.outcome with
  | .ok (v, t) => (((s.leave r).setConnector
      { s.client.connector with latest := s.client.connector.latest.store (some v) }).note
        (.verified (some r) j.clock j.handshook (.ok (v, t)))).enter r ⟨uri, .holding t⟩
  | .error refusal => (s.leave r).note (.verified (some r) j.clock j.handshook (.error refusal))

namespace Threads

/-- A thread that has judged does nothing else before it concludes. -/
def busy (s : Threads P) (a : Action) : Bool := a.call?.any fun r => (s.judged r).isSome

def step (s : Threads P) : ThreadStep → Option (Threads P)
  | .act a =>
    if a.isVerify || s.busy a then none
    else (s.session.step a).map fun session => { s with session }
  | .judge r clock =>
    match s.session.calls r, s.judged r with
    | some ⟨_, .shook h⟩, none =>
      let outcome := (s.session.client.connector.verifyHandshook clock h).1
      some { s with judged := Function.update s.judged r (some ⟨clock, h, outcome⟩) }
    | _, _ => none
  | .conclude r =>
    match s.session.calls r, s.judged r with
    | some ⟨uri, _⟩, some j =>
      some ⟨s.session.conclude r uri j, Function.update s.judged r none⟩
    | _, _ => none

/-- No thread is in the middle of a verification. -/
def idle (s : Session P) : Threads P := ⟨s, fun _ => none⟩

/-- A judgement that waits is about the handshake its call still has, and would come out the
same now. -/
def Sound (s : Threads P) : Prop := ∀ r j, s.judged r = some j → ∃ uri,
  s.session.calls r = some ⟨uri, .shook j.handshook⟩ ∧
    j.outcome = (s.session.client.connector.verifyHandshook j.clock j.handshook).1

end Threads

/-! ## A judgement keeps -/

/-- No step changes what a connector judges by. -/
theorem step_origin {s s' : Session P} {a : Action} (hs : s.step a = some s') :
    s'.client.connector.request = s.client.connector.request ∧
      s'.client.connector.collateral = s.client.connector.collateral := by
  cases stepped_of_step hs with
  | missed hc _ =>
    obtain ⟨hrequest, hcollateral, -⟩ := s.client.connector.takePending_rest
    exact ⟨hrequest, hcollateral⟩
  | submitted hc => exact ⟨rfl, rfl⟩
  | reused hc ht => exact ⟨rfl, rfl⟩
  | taken hc ht => exact ⟨rfl, rfl⟩
  | dialled hc => exact ⟨rfl, rfl⟩
  | undialled hc => exact ⟨rfl, rfl⟩
  | verified hc hv => exact ⟨rfl, rfl⟩
  | refused hc hv => exact ⟨rfl, rfl⟩
  | transmitted hc hp => exact ⟨rfl, rfl⟩
  | responded hc => exact ⟨rfl, rfl⟩
  | finished hc => exact ⟨rfl, rfl⟩
  | retried hc hp => exact ⟨rfl, rfl⟩
  | abandoned hc => exact ⟨rfl, rfl⟩
  | expired hi => exact ⟨rfl, rfl⟩

namespace Threads

/-- A step of one call leaves the judgements of the others as they are. -/
theorem Sound.other {s : Threads P} (h : s.Sound) {a : Action} {m : Session P}
    (hs : s.session.step a = some m) {judged : Nat → Option (Judged P)}
    (hj : ∀ r j, judged r = some j → s.judged r = some j ∧ a.call? ≠ some r) :
    Sound ⟨m, judged⟩ := by
  intro r j hr
  obtain ⟨hold, hne⟩ := hj r j hr
  obtain ⟨uri, hc, hout⟩ := h r j hold
  obtain ⟨hrequest, hcollateral⟩ := step_origin hs
  refine ⟨uri, ?_, ?_⟩
  · rw [← hc]
    exact (step_local _ a m hs).others r hne
  · rw [hout]
    exact (VerifiedConnector.verifyHandshook_fst hrequest hcollateral _ _).symm

theorem Sound.judge {s : Threads P} (h : s.Sound) {r : Nat} {uri : String} {h' : Handshook}
    (hc : s.session.calls r = some ⟨uri, .shook h'⟩) (clock : Option UInt64) :
    Sound ⟨s.session, Function.update s.judged r
      (some ⟨clock, h', (s.session.client.connector.verifyHandshook clock h').1⟩)⟩ := by
  intro q j hq
  have hup : Function.update s.judged r
      (some ⟨clock, h', (s.session.client.connector.verifyHandshook clock h').1⟩) q = some j := hq
  by_cases he : q = r
  · rw [he, Function.update_self] at hup
    obtain rfl := Option.some.inj hup
    rw [he]
    exact ⟨uri, hc, rfl⟩
  · rw [Function.update_of_ne he] at hup
    exact h q j hup

end Threads

/-- A conclusion is the verification of the coarser model, with the clock that was read. -/
theorem step_concluded {s : Session P} {r : Nat} {uri : String} {j : Judged P}
    (hc : s.calls r = some ⟨uri, .shook j.handshook⟩)
    (hj : j.outcome = (s.client.connector.verifyHandshook j.clock j.handshook).1) :
    s.step (.verify r j.clock) = some (s.conclude r uri j) := by
  unfold Session.conclude
  cases ho : j.outcome with
  | ok made =>
    obtain ⟨v, t⟩ := made
    exact step_verify hc (hj.symm.trans ho)
  | error refusal =>
    have hv := hj.symm.trans ho
    have heq : s.client.connector.verifyHandshook j.clock j.handshook =
        (.error refusal, s.client.connector) :=
      Prod.ext hv (VerifiedConnector.verifyHandshook_error _ _ _ (Prod.ext hv rfl)).1
    simp only [Session.step, hc, Session.verify, heq]
    rfl

/-! ## The two levels reach the same sessions -/

namespace Threads

theorem idle_sound (s : Session P) : (idle s).Sound := by
  intro r j hr
  cases hr

/-- A judgement is no step of the session, and every other step of a thread is one. -/
theorem step_simulated (s : Threads P) (a : ThreadStep) (s' : Threads P) (h : s.Sound)
    (hs : s.step a = some s') :
    s'.Sound ∧ ∃ actions, run Session.step s.session actions = some s'.session := by
  cases a with
  | act a =>
    simp only [step] at hs
    split at hs
    · cases hs
    · rename_i hfree
      obtain ⟨m, hm, rfl⟩ := Option.map_eq_some_iff.mp hs
      refine ⟨h.other hm ?_, [a], (run_cons_iff _).mpr ⟨m, hm, rfl⟩⟩
      intro r j hr
      refine ⟨hr, fun hcall => hfree ?_⟩
      have hbusy : s.busy a = true := by
        unfold busy
        rw [hcall, Option.any_some, hr]
        rfl
      rw [hbusy, Bool.or_true]
  | judge r clock =>
    simp only [step] at hs
    split at hs
    · rename_i uri h' hc hj
      obtain rfl := Option.some.inj hs
      -- Nothing that another call can see has changed.
      exact ⟨h.judge hc clock, [], rfl⟩
    · cases hs
  | conclude r =>
    simp only [step] at hs
    split at hs
    · rename_i uri phase j hc hj
      obtain rfl := Option.some.inj hs
      obtain ⟨uri', hc', hout⟩ := h r j hj
      obtain ⟨rfl, rfl⟩ := Call.mk.inj (Option.some.inj (hc.symm.trans hc'))
      have hverify := step_concluded hc' hout
      refine ⟨h.other hverify ?_, [.verify r j.clock],
        (run_cons_iff _).mpr ⟨_, hverify, rfl⟩⟩
      intro q k hq
      by_cases he : q = r
      · rw [he, Function.update_self] at hq
        cases hq
      · rw [Function.update_of_ne he] at hq
        exact ⟨hq, fun hcall => he (Option.some.inj hcall).symm⟩
    · cases hs

/-- A thread that nobody interrupts judges and publishes as the one step does. -/
theorem verify_uninterrupted {s s' : Session P} {r : Nat} {clock : Option UInt64}
    (hs : s.step (.verify r clock) = some s') :
    run step (idle s) [.judge r clock, .conclude r] = some (idle s') := by
  obtain ⟨uri, h, hc⟩ : ∃ uri h, s.calls r = some ⟨uri, .shook h⟩ := by
    cases stepped_of_step hs with
    | verified hc hv => exact ⟨_, _, hc⟩
    | refused hc hv => exact ⟨_, _, hc⟩
  let j : Judged P := ⟨clock, h, (s.client.connector.verifyHandshook clock h).1⟩
  have hsame : s.conclude r uri j = s' :=
    Option.some.inj ((step_concluded (j := j) hc rfl).symm.trans hs)
  have hjudge : (idle s).step (.judge r clock) =
      some ⟨s, Function.update (fun _ => none) r (some j)⟩ := by
    simp only [step, idle, hc]
    rfl
  have hconclude : step ⟨s, Function.update (fun _ => none) r (some j)⟩ (.conclude r) =
      some (idle s') := by
    have hnone : Function.update (Function.update (fun _ => none) r (some j)) r none =
        fun _ => (none : Option (Judged P)) := by
      rw [Function.update_idem]
      exact Function.update_eq_self r _
    simp only [step, hc, Function.update_self, hsame, hnone]
    rfl
  exact (run_cons_iff _).mpr ⟨_, hjudge, (run_cons_iff _).mpr ⟨_, hconclude, rfl⟩⟩

theorem step_idle (s : Session P) (a : Action) (s' : Session P) (hs : s.step a = some s') :
    ∃ steps, run step (idle s) steps = some (idle s') := by
  have hact : a.isVerify = false → (idle s).step (.act a) = some (idle s') := by
    intro ha
    have hfree : (idle s).busy a = false := by
      unfold busy
      cases a.call? with
      | none => rfl
      | some r => rfl
    simp only [step, ha, hfree, Bool.or_self, Bool.false_eq_true, if_false]
    show (s.step a).map _ = _
    rw [hs]
    rfl
  cases ha : a.isVerify with
  | false => exact ⟨[.act a], (run_cons_iff _).mpr ⟨_, hact ha, rfl⟩⟩
  | true =>
    cases a with
    | verify r clock => exact ⟨_, verify_uninterrupted hs⟩
    | _ => cases ha

end Threads

/-- Threads that judge without a lock and publish later, in any interleaving, reach exactly the
sessions, histories included, that verifications in one step reach. So what every run of the
sessions keeps holds of the threads too. -/
theorem threads_reach_iff (s₀ s : Session P) :
    (∃ steps judged, run Threads.step (Threads.idle s₀) steps = some ⟨s, judged⟩) ↔
      ∃ actions, run Session.step s₀ actions = some s := by
  constructor
  · intro h
    obtain ⟨steps, judged, hr⟩ := h
    exact run_simulation Threads.session Threads.step_simulated (Threads.idle_sound s₀) hr
  · intro h
    obtain ⟨actions, hr⟩ := h
    obtain ⟨steps, hsteps⟩ := run_simulation Threads.idle
      (fun s a s' (_ : True) hs => ⟨trivial, Threads.step_idle s a s' hs⟩) trivial hr
    exact ⟨steps, fun _ => none, hsteps⟩

end VerityVerifier.Connect
