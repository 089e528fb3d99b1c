import VerityVerifier.Connect.Steps
import VerityVerifier.Connect.Transports
import VerityVerifier.Library.Custody

/-!
# A connection has one owner

A transport is moved and never copied: from the handshake that was verified to a call, or
to the connector's slot and from there to a call, and between the calls and the pool of
the agent. Nothing a call does can then reach the connection of another call.
-/
namespace VerityVerifier.Connect

open VerityVerifier.Core
open VerityVerifier.Library.ByteString
open VerityVerifier.Library.Custody
open VerityVerifier.Library.Runs
open VerityVerifier.Soundness

variable {κ : Type} {P : Platform κ}

/-- The connection a call can read and write, verified or not yet. -/
def Phase.stream? : Phase → Option Stream
  | .shook h => some h.stream
  | .holding t => some t.stream
  | .awaiting t => some t.stream
  | _ => none

/-- Where a connection can be. -/
inductive Holder where
  /-- The `pending` slot of the connector. -/
  | slot
  | pool
  | call (r : Nat)

/-- The call whose thread takes the step. -/
def Action.call? : Action → Option Nat
  | .submit r _ => some r
  | .reuse r _ => some r
  | .connect r _ => some r
  | .dial r _ => some r
  | .verify r _ => some r
  | .transmit r => some r
  | .respond r _ => some r
  | .finish r => some r
  | .retry r => some r
  | .abandon r => some r
  | .expire _ => none

/-- The connection an event is about: what was handed out, dialled, judged or written to. -/
def Event.uses? : Event P → Option Stream
  | .connected _ taken => taken.map VerifiedTransport.stream
  | .dialled _ socket _ => some ⟨socket⟩
  | .verified _ _ h _ => some h.stream
  | .sent _ t => some t.stream
  | .returned _ _ => none

namespace Session

/-- The connection of one call. -/
def inHand (s : Session P) (r : Nat) : Option Stream :=
  (s.calls r).bind fun c => c.phase.stream?

def holds (s : Session P) : Holder → Stream → Prop
  | .slot, x => s.client.connector.pending.value = some ⟨x⟩
  | .pool, x => ⟨x⟩ ∈ s.idle
  | .call r, x => s.inHand r = some x

theorem inHand_of_calls (s : Session P) {r : Nat} {c : Call} (hc : s.calls r = some c) :
    s.inHand r = c.phase.stream? := by
  unfold inHand
  rw [hc]
  rfl

theorem inHand_place (s : Session P) (r : Nat) (c : Option Call) :
    (s.place r c).inHand = Function.update s.inHand r (c.bind fun c => c.phase.stream?) :=
  Function.comp_update (fun o : Option Call => o.bind fun c => c.phase.stream?) s.calls r c

/-- One call changes: what it has now, and what the others hold as before. -/
theorem holds_place {s : Session P} {r : Nat} {c : Option Call} {a : Holder} {x : Stream}
    (h : (s.place r c).holds a x) :
    (a ≠ .call r ∧ s.holds a x) ∨
      (a = .call r ∧ (c.bind fun c => c.phase.stream?) = some x) := by
  cases a with
  | slot => exact .inl ⟨nofun, h⟩
  | pool => exact .inl ⟨nofun, h⟩
  | call q =>
    have hq : (s.place r c).inHand q = some x := h
    rw [inHand_place] at hq
    by_cases he : q = r
    · rw [he, Function.update_self] at hq
      exact .inr ⟨congrArg Holder.call he, hq⟩
    · rw [Function.update_of_ne he] at hq
      exact .inl ⟨fun hc => he (Holder.call.inj hc), hq⟩

theorem holds_leave {s : Session P} {r : Nat} {a : Holder} {x : Stream}
    (h : (s.leave r).holds a x) : s.holds a x := by
  rcases s.holds_place (c := none) h with ⟨-, hold⟩ | ⟨-, hx⟩
  · exact hold
  · cases hx

end Session

/-- Every connection is in one place, and was opened before. -/
structure Custody (s : Session P) : Prop where
  exclusive : Exclusive s.holds
  pooled : s.idle.Nodup
  opened : ∀ a x, s.holds a x → x.socket < s.nextSocket

namespace Custody

variable {s s' : Session P} {r : Nat} {x : Stream}

/-- Letting go of connections. -/
theorem release (h : Custody s) (hs : ∀ a x, s'.holds a x → s.holds a x)
    (hp : s'.idle.Sublist s.idle) (hn : s.nextSocket ≤ s'.nextSocket) : Custody s' where
  exclusive := h.exclusive.release hs
  pooled := h.pooled.sublist hp
  opened a x ha := (h.opened a x (hs a x ha)).trans_le hn

/-- A connection goes from one holder to another. -/
theorem move (h : Custody s) {a b : Holder} (ha : s.holds a x) (hgone : ¬ s'.holds a x)
    (hs : ∀ c y, s'.holds c y → s.holds c y ∨ c = b ∧ y = x) (hp : s'.idle.Nodup)
    (hn : s'.nextSocket = s.nextSocket) : Custody s' where
  exclusive := h.exclusive.move ha hgone hs
  pooled := hp
  opened := by
    intro c y hc
    rw [hn]
    rcases hs c y hc with hold | ⟨-, rfl⟩
    · exact h.opened c y hold
    · exact h.opened a y ha

theorem note (h : Custody s) (e : Event P) : Custody (s.note e) :=
  ⟨h.exclusive, h.pooled, h.opened⟩

/-- A call goes on with the connection it has, or with none. -/
theorem place (h : Custody s) {c : Option Call}
    (hc : ∀ x, (c.bind fun c => c.phase.stream?) = some x → s.inHand r = some x) :
    Custody (s.place r c) := by
  refine h.release ?_ (List.Sublist.refl _) (Nat.le_refl _)
  intro a x ha
  rcases s.holds_place ha with ⟨-, hold⟩ | ⟨rfl, hx⟩
  · exact hold
  · exact hc x hx

theorem leave (h : Custody s) (r : Nat) : Custody (s.leave r) := h.place (c := none) nofun

/-- A call that has no connection in hand. -/
theorem wait (h : Custody s) (r : Nat) {c : Call} (hc : c.phase.stream? = none) :
    Custody (s.enter r c) := by
  apply h.place (c := some c)
  intro x hx
  cases hc.symm.trans hx

/-- The pool loses a connection. -/
theorem expire (h : Custody s) (i : Nat) : Custody (s.keep (s.idle.eraseIdx i)) := by
  refine h.release ?_ (List.eraseIdx_sublist _ _) (Nat.le_refl _)
  intro a x ha
  cases a with
  | slot => exact ha
  | pool => exact List.mem_of_mem_eraseIdx ha
  | call q => exact ha

/-- The pool gives a connection to a call. -/
theorem reuse (h : Custody s) {i : Nat} {t : VerifiedTransport} (ht : s.idle[i]? = some t)
    {c : Call} (hc : c.phase.stream? = some t.stream) :
    Custody ((s.keep (s.idle.eraseIdx i)).enter r c) := by
  have hgone : t ∉ s.idle.eraseIdx i := by
    intro hm
    obtain ⟨j, hj, hne, he⟩ := List.mem_eraseIdx_iff_getElem.mp hm
    obtain ⟨hi, hg⟩ := List.getElem?_eq_some_iff.mp ht
    exact hne ((h.pooled.getElem_inj_iff).mp (he.trans hg.symm))
  refine h.move (a := .pool) (b := .call r) (x := t.stream) (List.mem_of_getElem? ht) hgone
    ?_ ?_ rfl
  · intro a y ha
    rcases Session.holds_place ha with ⟨-, hold⟩ | ⟨rfl, hy⟩
    · left
      cases a with
      | slot => exact hold
      | pool => exact List.mem_of_mem_eraseIdx hold
      | call q => exact hold
    · exact .inr ⟨rfl, (Option.some.inj (hc.symm.trans hy)).symm⟩
  · exact h.pooled.sublist (List.eraseIdx_sublist _ _)

/-- A call lets its connection go back to the pool. -/
theorem giveBack (h : Custody s) {t : VerifiedTransport} (ht : s.inHand r = some t.stream)
    {c : Call} (hc : c.phase.stream? = none) : Custody ((s.keep (t :: s.idle)).enter r c) := by
  have hnew : t ∉ s.idle := by
    intro hm
    cases h.exclusive .pool (.call r) t.stream hm ht
  have hgone : ¬ ((s.keep (t :: s.idle)).enter r c).holds (.call r) t.stream := by
    intro ha
    rcases Session.holds_place ha with ⟨hne, -⟩ | ⟨-, hx⟩
    · exact hne rfl
    · cases hc.symm.trans hx
  refine h.move (a := .call r) (b := .pool) (x := t.stream) ht hgone ?_ ?_ rfl
  · intro a y ha
    rcases Session.holds_place ha with ⟨-, hold⟩ | ⟨-, hy⟩
    · cases a with
      | slot => exact .inl hold
      | pool =>
        rcases List.mem_cons.mp hold with he | hm
        · exact .inr ⟨rfl, congrArg VerifiedTransport.stream he⟩
        · exact .inl hm
      | call q => exact .inl hold
    · cases hc.symm.trans hy
  · exact List.nodup_cons.mpr ⟨hnew, h.pooled⟩

/-- A call takes what the connector kept in its slot. -/
theorem takeSlot (h : Custody s) {t : VerifiedTransport}
    (ht : s.client.connector.pending.value = some t) {e : Event P} {c : Call}
    (hc : c.phase.stream? = some t.stream) :
    Custody (((s.setConnector { s.client.connector with pending := ⟨none, false⟩ }).note e).enter
      r c) := by
  refine h.move (a := .slot) (b := .call r) (x := t.stream) ht nofun ?_ h.pooled rfl
  intro a y ha
  rcases Session.holds_place ha with ⟨-, hold⟩ | ⟨rfl, hy⟩
  · left
    cases a with
    | slot => cases hold
    | pool => exact hold
    | call q => exact hold
  · exact .inr ⟨rfl, (Option.some.inj (hc.symm.trans hy)).symm⟩

/-- A dial opens a connection that nobody had. -/
theorem dial (h : Custody s) {attempt : DialAttempt} {h' : Handshook}
    (hd : (s.dial attempt).1 = .ok h') {c : Call} (hc : c.phase.stream? = some h'.stream) :
    Custody ((s.dial attempt).2.enter r c) := by
  obtain ⟨leafDer, -, rfl⟩ := dial_ok_iff.mp hd
  have hs : ∀ a y, ((s.dial attempt).2.enter r c).holds a y →
      s.holds a y ∨ a = .call r ∧ y = ⟨s.nextSocket⟩ := by
    intro a y ha
    rcases Session.holds_place ha with ⟨-, hold⟩ | ⟨rfl, hy⟩
    · exact .inl hold
    · exact .inr ⟨rfl, (Option.some.inj (hc.symm.trans hy)).symm⟩
  refine ⟨h.exclusive.acquire ?_ hs, h.pooled, ?_⟩
  · intro a ha
    exact absurd (h.opened a _ ha) (Nat.lt_irrefl _)
  · intro a y ha
    rcases hs a y ha with hold | ⟨-, rfl⟩
    · exact Nat.lt_succ_of_lt (h.opened a y hold)
    · exact Nat.lt_succ_self _

/-- Between its handshake and its transport a call had nothing in hand, and nobody else
could have taken the connection. -/
theorem settle (h : Custody s) {m : Session P} (hm : ∀ a y, m.holds a y → s.holds a y)
    (hi : m.idle = s.idle) (hn : m.nextSocket = s.nextSocket) (hx : s.inHand r = some x)
    {c : Call} (hc : c.phase.stream? = some x) : Custody (m.enter r c) := by
  refine h.release ?_ (hi ▸ List.Sublist.refl _) (Nat.le_of_eq hn.symm)
  intro a y ha
  rcases Session.holds_place ha with ⟨-, hold⟩ | ⟨rfl, hy⟩
  · exact hm a y hold
  · obtain rfl := Option.some.inj (hc.symm.trans hy)
    exact hx

end Custody

/-! ## Every run keeps custody -/

theorem step_custody (s : Session P) (a : Action) (s' : Session P) (h : Custody s)
    (hs : s.step a = some s') : Custody s' := by
  cases stepped_of_step hs with
  | submitted hc => exact h.wait _ rfl
  | reused hc ht => exact h.reuse ht rfl
  | taken hc ht => exact h.takeSlot ht rfl
  | @missed r addrs uri hc _ =>
    have hlook : Custody (s.setConnector s.client.connector.takePending.2) := by
      refine h.release ?_ (List.Sublist.refl _) (Nat.le_refl _)
      intro a x ha
      cases a with
      | slot => exact value_of_takePending ha
      | pool => exact ha
      | call q => exact ha
    exact (hlook.note _).wait r rfl
  | dialled hc => exact h.dial rfl rfl
  | @undialled r attempt uri hc =>
    have hdial : Custody (s.dial attempt).2 :=
      h.release (fun _ _ ha => ha) (List.Sublist.refl _) (Nat.le_succ _)
    exact hdial.leave r
  | @verified r clock uri h' v hc hv =>
    apply h.settle (x := h'.stream)
    · intro a x ha
      apply Session.holds_leave (r := r)
      cases a with
      | slot => exact ha
      | pool => exact ha
      | call q => exact ha
    · rfl
    · rfl
    · exact s.inHand_of_calls hc
    · rfl
  | refused hc hv => exact (h.leave _).note _
  | transmitted hc hp =>
    refine (h.place ?_).note _
    intro x hx
    rw [s.inHand_of_calls hc]
    rcases hp with rfl | rfl
    · exact hx
    · exact hx
  | @responded r kept uri t hc =>
    cases kept with
    | true => exact h.giveBack (s.inHand_of_calls hc) rfl
    | false => exact h.wait r rfl
  | finished hc => exact (h.leave _).note _
  | retried hc hp => exact h.wait _ rfl
  | abandoned hc => exact h.leave _
  | expired hi => exact h.expire _

theorem opened_custody (request : ConnectRequest) (collateral : κ) (clock : Option UInt64)
    (leafDer : Bytes) (v : Verification P) :
    Custody (opened request collateral clock leafDer v) where
  exclusive := by
    intro a b x ha hb
    cases a with
    | slot =>
      cases b with
      | slot => rfl
      | pool => cases hb
      | call q => cases hb
    | pool => cases ha
    | call q => cases ha
  pooled := List.nodup_nil
  opened := by
    intro a x ha
    cases a with
    | slot =>
      obtain rfl : (⟨0⟩ : Stream) = x := VerifiedTransport.mk.inj (Option.some.inj ha)
      exact Nat.one_pos
    | pool => cases ha
    | call q => cases ha

/-! ## What the other calls can see of a step -/

/-- A step changes its own call only, and an event of it is about a connection that is
new, that its call had, or that no call had. -/
structure Local (s : Session P) (owner : Option Nat) (s' : Session P) : Prop where
  others : ∀ q, owner ≠ some q → s'.calls q = s.calls q
  events : ∃ events, s'.trace = events ++ s.trace ∧ ∀ e ∈ events, ∀ x, e.uses? = some x →
    x.socket = s.nextSocket ∨ ∃ a, s.holds a x ∧ ∀ q, a = .call q → owner = some q

namespace Local

variable {s s' : Session P} {owner : Option Nat}

theorem quiet (hc : ∀ q, owner ≠ some q → s'.calls q = s.calls q) (ht : s'.trace = s.trace) :
    Local s owner s' :=
  ⟨hc, [], ht, nofun⟩

theorem event (hc : ∀ q, owner ≠ some q → s'.calls q = s.calls q) {e : Event P}
    (ht : s'.trace = e :: s.trace) (he : ∀ x, e.uses? = some x →
      x.socket = s.nextSocket ∨ ∃ a, s.holds a x ∧ ∀ q, a = .call q → owner = some q) :
    Local s owner s' := by
  refine ⟨hc, [e], ht, ?_⟩
  intro e' hm
  rw [List.mem_singleton.mp hm]
  exact he

/-- An event about no connection that is open. -/
theorem silent (hc : ∀ q, owner ≠ some q → s'.calls q = s.calls q) {e : Event P}
    (ht : s'.trace = e :: s.trace) (he : e.uses? = none) : Local s owner s' := by
  apply event hc ht
  intro x hx
  cases he.symm.trans hx

end Local

theorem update_others {calls : Nat → Option Call} {r : Nat} (c : Option Call) (q : Nat)
    (hq : some r ≠ some q) : Function.update calls r c q = calls q :=
  Function.update_of_ne (fun he => hq (congrArg some he.symm)) c calls

theorem step_local (s : Session P) (a : Action) (s' : Session P) (hs : s.step a = some s') :
    Local s a.call? s' := by
  have howned : ∀ {r : Nat} {c : Call} {x : Stream}, s.calls r = some c →
      c.phase.stream? = some x → ∀ y, some x = some y →
      y.socket = s.nextSocket ∨ ∃ a, s.holds a y ∧ ∀ q, a = .call q → some r = some q := by
    intro r c x hc hx y hy
    refine .inr ⟨.call r, (s.inHand_of_calls hc).trans (hx.trans hy), ?_⟩
    intro q hq
    exact congrArg some (Holder.call.inj hq)
  have hnew : ∀ {r : Nat} (y : Stream), some (⟨s.nextSocket⟩ : Stream) = some y →
      y.socket = s.nextSocket ∨ ∃ a, s.holds a y ∧ ∀ q, a = .call q → some r = some q := by
    intro r y hy
    exact .inl (congrArg Stream.socket (Option.some.inj hy)).symm
  cases stepped_of_step hs with
  | submitted hc => exact .quiet (update_others _) rfl
  | reused hc ht => exact .quiet (update_others _) rfl
  | @taken r addrs uri t hc ht =>
    refine .event (update_others _) rfl ?_
    intro x hx
    obtain rfl : t.stream = x := Option.some.inj hx
    refine .inr ⟨.slot, ht, ?_⟩
    intro q hq
    cases hq
  | missed hc _ => exact .silent (update_others _) rfl rfl
  | dialled hc => exact .event (update_others _) rfl hnew
  | undialled hc => exact .event (update_others _) rfl hnew
  | verified hc hv =>
    refine .event (fun q hq => ?_) rfl (howned hc rfl)
    exact (update_others _ q hq).trans (update_others _ q hq)
  | refused hc hv => exact .event (update_others _) rfl (howned hc rfl)
  | transmitted hc hp =>
    refine .event (update_others _) rfl (howned hc ?_)
    rcases hp with rfl | rfl
    · rfl
    · rfl
  | responded hc => exact .quiet (update_others _) rfl
  | finished hc => exact .silent (update_others _) rfl rfl
  | retried hc hp => exact .quiet (update_others _) rfl
  | abandoned hc => exact .quiet (update_others _) rfl
  | expired hi => exact .quiet (fun _ _ => rfl) rfl

/-- While a call takes no step, nobody else touches what it has in hand. -/
theorem run_undisturbed {s s' : Session P} {r : Nat} {x : Stream} {later : List Action}
    (h : Custody s) (hx : s.inHand r = some x) (ha : ∀ a ∈ later, a.call? ≠ some r)
    (hr : run Session.step s later = some s') :
    s'.calls r = s.calls r ∧
      ∃ events, s'.trace = events ++ s.trace ∧ ∀ e ∈ events, e.uses? ≠ some x := by
  induction later generalizing s with
  | nil =>
    obtain rfl := Option.some.inj hr
    exact ⟨rfl, [], rfl, nofun⟩
  | cons a rest ih =>
    obtain ⟨m, hm, hrest⟩ := (run_cons_iff _).mp hr
    have hne := ha a List.mem_cons_self
    obtain ⟨hothers, earlier, htrace, huses⟩ := step_local s a m hm
    have hsame : m.calls r = s.calls r := hothers r hne
    have hx' : m.inHand r = some x := by
      unfold Session.inHand
      rw [hsame]
      exact hx
    obtain ⟨hcalls, events, htrace', hevents⟩ := ih (step_custody s a m h hm) hx'
      (fun b hb => ha b (List.mem_cons_of_mem a hb)) hrest
    refine ⟨hcalls.trans hsame, events ++ earlier, ?_, ?_⟩
    · rw [htrace', htrace, List.append_assoc]
    · intro e he
      rcases List.mem_append.mp he with he | he
      · exact hevents e he
      · intro hux
        rcases huses e he x hux with hnew | ⟨b, hb, hcall⟩
        · have hold := h.opened (.call r) x hx
          omega
        -- Whoever had the connection of the event had this one, and that is the call itself.
        · exact hne (hcall r (h.exclusive b (.call r) x hb hx))

/-- In every state of every run each connection is in one place: the slot, the pool once, or
one call. And from there on, as long as a call takes no step itself, no interleaving of
the others moves it, dials its connection again, judges it or writes to it. -/
theorem run_exclusive {request : ConnectRequest} {source : Bytes → Except CollateralUnavailable κ}
    {attempt : DialAttempt} {clock : Option UInt64} {s₀ s : Session P} {actions : List Action}
    (h₀ : connectVerified P request source attempt clock = .ok s₀)
    (hr : run Session.step s₀ actions = some s) :
    Exclusive s.holds ∧ s.idle.Nodup ∧
    ∀ r x later s', s.holds (.call r) x → (∀ a ∈ later, a.call? ≠ some r) →
      run Session.step s later = some s' →
      s'.calls r = s.calls r ∧
        ∃ events, s'.trace = events ++ s.trace ∧ ∀ e ∈ events, e.uses? ≠ some x := by
  obtain ⟨-, leafDer, rawQuote, collateral, v, -, -, -, -, rfl⟩ := connectVerified_ok_iff.mp h₀
  have h : Custody s := run_invariant step_custody (opened_custody _ _ _ _ _) hr
  refine ⟨h.exclusive, h.pooled, ?_⟩
  intro r x later s' hx ha hlater
  exact run_undisturbed h hx ha hlater

/-- In the recorded run the first call keeps its connection while the second dials, verifies
and writes. -/
theorem run_exclusive_recorded : ∃ s₀ m s,
    connectVerified recording.platform recordedRequest recordedSource (.completed firstKey.leaf)
      recordedClock = .ok s₀ ∧
    run Session.step s₀ (overlapping.take 2) = some m ∧ m.holds (.call 0) ⟨0⟩ ∧
    run Session.step m ((overlapping.drop 2).take 5) = some s ∧ s.calls 0 = m.calls 0 ∧
    ∃ events, s.trace = events ++ m.trace ∧ ∀ e ∈ events, e.uses? ≠ some ⟨0⟩ := by
  obtain ⟨v₁, -, last, h₀, hr, -⟩ := recorded_overlap
  have hsplit : overlapping =
      overlapping.take 2 ++ ((overlapping.drop 2).take 5 ++ overlapping.drop 7) := rfl
  rw [hsplit] at hr
  obtain ⟨m, hm, hrest⟩ := run_append_iff.mp hr
  obtain ⟨s, hs, -⟩ := run_append_iff.mp hrest
  have hhold : m.holds (.call 0) ⟨0⟩ := by
    obtain rfl := Option.some.inj hm
    rfl
  obtain ⟨-, -, halone⟩ := run_exclusive h₀ hm
  obtain ⟨hcalls, hevents⟩ := halone 0 ⟨0⟩ _ s hhold (by decide) hs
  exact ⟨_, m, s, h₀, hm, hhold, hs, hcalls, hevents⟩

end VerityVerifier.Connect
