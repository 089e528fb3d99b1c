import VerityVerifier.Connect.Client
import VerityVerifier.Connect.Handshake
import VerityVerifier.Library.History
import Mathlib.Data.List.Count

/-!
# What a client's history allows

Each kind of event has one rule about its past: a dial goes to the client's endpoint on
a new socket, a verification is of a handshake that was dialled and not judged before,
and bytes go out over a transport that a verification produced. What a lawful history
rules out follows by induction on it.
-/
namespace VerityVerifier.Connect

open VerityVerifier.Core
open VerityVerifier.Library.History

variable {κ : Type} {P : Platform κ}

namespace Event

/-- What a call of `Connector::connect` found pending. -/
def taken? : Event P → Option (Option VerifiedTransport)
  | .connected _ taken => some taken
  | _ => none

/-- The transport that `Connector::connect` returned to the agent. -/
def handedOut? : Event P → Option VerifiedTransport
  | .connected _ taken => taken
  | .verified (some _) _ _ (.ok (_, t)) => some t
  | _ => none

/-- What a successful verification established. -/
def published? : Event P → Option (Verification P)
  | .verified _ _ _ (.ok (v, _)) => some v
  | _ => none

def socket? : Event P → Option Nat
  | .dialled _ socket _ => some socket
  | _ => none

end Event

/-- This verification produced this transport. -/
def Establishes (history : List (Event P)) (t : VerifiedTransport) (v : Verification P) : Prop :=
  ∃ caller clock h, Event.verified caller clock h (.ok (v, t)) ∈ history

def Established (history : List (Event P)) (t : VerifiedTransport) : Prop :=
  ∃ v, Establishes history t v

theorem Established.cons {history : List (Event P)} {t : VerifiedTransport}
    (h : Established history t) (e : Event P) : Established (e :: history) t := by
  obtain ⟨v, caller, clock, hs, hm⟩ := h
  exact ⟨v, caller, clock, hs, List.mem_cons_of_mem e hm⟩

/-- The transport of the connection that `connect_verified` verified. -/
def Opened (history : List (Event P)) (t₀ : VerifiedTransport) : Prop :=
  ∃ clock h v, Event.verified none clock h (.ok (v, t₀)) ∈ history

theorem Opened.cons {history : List (Event P)} {t₀ : VerifiedTransport}
    (h : Opened history t₀) (e : Event P) : Opened (e :: history) t₀ := by
  obtain ⟨clock, hs, v, hm⟩ := h
  exact ⟨clock, hs, v, List.mem_cons_of_mem e hm⟩

theorem Opened.established {history : List (Event P)} {t₀ : VerifiedTransport}
    (h : Opened history t₀) : Established history t₀ := by
  obtain ⟨clock, hs, v, hm⟩ := h
  exact ⟨v, none, clock, hs, hm⟩

/-- A handshake that was dialled, with this leaf, and that nothing has judged yet. -/
structure Ready (origin : VerifiedConnector P) (history : List (Event P)) (h : Handshook) :
    Prop where
  dialled : .dialled origin.request.endpoint h.stream.socket (.completed h.leafDer) ∈ history
  unverified : ∀ caller clock h' outcome,
    .verified caller clock h' outcome ∈ history → h'.stream ≠ h.stream

theorem Ready.cons {origin : VerifiedConnector P} {history : List (Event P)} {h : Handshook}
    (hr : Ready origin history h) {e : Event P}
    (he : ∀ caller clock h' outcome, e = .verified caller clock h' outcome →
      h'.stream ≠ h.stream) : Ready origin (e :: history) h where
  dialled := List.mem_cons_of_mem e hr.dialled
  unverified caller clock h' outcome hm := by
    rcases List.mem_cons.mp hm with heq | hm
    · exact he caller clock h' outcome heq.symm
    · exact hr.unverified caller clock h' outcome hm

/-- What the pending slot holds after a history. -/
def pendingAfter (t₀ : VerifiedTransport) (history : List (Event P)) : Option VerifiedTransport :=
  if history.filterMap Event.taken? = [] then some t₀ else none

theorem pendingAfter_connected (t₀ : VerifiedTransport) (history : List (Event P))
    (details : ConnectionDetails) (taken : Option VerifiedTransport) :
    pendingAfter t₀ (.connected details taken :: history) = none :=
  if_neg (List.cons_ne_nil _ _)

/-- What each kind of event needs of its past, for a client whose connector has the
request and the collateral of `origin` and whose first transport is `t₀`. -/
def Allowed (origin : VerifiedConnector P) (t₀ : VerifiedTransport) (past : List (Event P)) :
    Event P → Prop
  | .connected _ taken => taken = pendingAfter t₀ past
  | .dialled endpoint socket _ =>
    endpoint = origin.request.endpoint ∧ socket ∉ past.filterMap Event.socket?
  | .verified _ clock h outcome =>
    outcome = (origin.verifyHandshook clock h).1 ∧ Ready origin past h
  | .sent _ t => Established past t
  | .returned _ t => Established past t

/-! ## What a lawful history rules out -/

section Lawful

variable {origin : VerifiedConnector P} {t₀ : VerifiedTransport} {history : List (Event P)}

/-- The first call finds the first transport, and later calls find nothing. -/
theorem taken_of_lawful (hl : Lawful (Allowed origin t₀) history) :
    history.filterMap Event.taken? = [] ∨
      ∃ n, history.filterMap Event.taken? = List.replicate n none ++ [some t₀] := by
  induction history with
  | nil => exact .inl rfl
  | cons e past ih =>
    obtain ⟨he, hl⟩ := hl
    cases e with
    | connected details taken =>
      have heq : taken = pendingAfter t₀ past := he
      right
      show ∃ n, taken :: past.filterMap Event.taken? = List.replicate n none ++ [some t₀]
      rw [heq]
      rcases ih hl with hnone | ⟨n, hn⟩
      · refine ⟨0, ?_⟩
        rw [pendingAfter, if_pos hnone, hnone]
        rfl
      · refine ⟨n + 1, ?_⟩
        have hne : past.filterMap Event.taken? ≠ [] := by
          rw [hn]
          simp
        rw [pendingAfter, if_neg hne, hn]
        rfl
    | dialled endpoint socket attempt => exact ih hl
    | verified caller clock h outcome => exact ih hl
    | sent r t => exact ih hl
    | returned r t => exact ih hl

/-- Every dial opens a socket of its own. -/
theorem sockets_of_lawful (hl : Lawful (Allowed origin t₀) history) :
    (history.filterMap Event.socket?).Nodup := by
  induction history with
  | nil => exact List.nodup_nil
  | cons e past ih =>
    obtain ⟨he, hl⟩ := hl
    cases e with
    | dialled endpoint socket attempt => exact List.nodup_cons.mpr ⟨he.2, ih hl⟩
    | connected details taken => exact ih hl
    | verified caller clock h outcome => exact ih hl
    | sent r t => exact ih hl
    | returned r t => exact ih hl

/-- A connection is judged once. -/
theorem verified_unique (hl : Lawful (Allowed origin t₀) history)
    {c c' : Option Nat} {k k' : Option UInt64} {h h' : Handshook}
    {o o' : Except Refusal (Verification P × VerifiedTransport)}
    (he : .verified c k h o ∈ history) (he' : .verified c' k' h' o' ∈ history)
    (hs : h.stream = h'.stream) :
    Event.verified c k h o = Event.verified c' k' h' o' := by
  induction history with
  | nil => cases he
  | cons e past ih =>
    obtain ⟨hok, hl⟩ := hl
    rcases List.mem_cons.mp he with rfl | hm
    · rcases List.mem_cons.mp he' with heq | hm'
      · exact heq.symm
      · exact absurd hs.symm (hok.2.unverified c' k' h' o' hm')
    · rcases List.mem_cons.mp he' with rfl | hm'
      · exact absurd hs (hok.2.unverified c k h o hm)
      · exact ih hl hm hm'

/-- A successful verification is one of the client's own connector, about the leaf that
the transport's own dial was presented with. -/
theorem made_of_lawful (hl : Lawful (Allowed origin t₀) history)
    {caller : Option Nat} {clock : Option UInt64} {h : Handshook} {v : Verification P}
    {t : VerifiedTransport} (he : .verified caller clock h (.ok (v, t)) ∈ history) :
    (origin.verifyHandshook clock h).1 = .ok (v, t) ∧ t = ⟨h.stream⟩ ∧
      .dialled origin.request.endpoint t.stream.socket (.completed h.leafDer) ∈ history := by
  obtain ⟨past, hs, hv, hr⟩ := hl.of_mem he
  have ht := (VerifiedConnector.verifyHandshook_made _ clock h hv.symm).1
  refine ⟨hv.symm, ht, ?_⟩
  rw [ht]
  exact mem_of_suffix hs hr.dialled

/-- No verification for a call produces the first transport again. -/
theorem not_made_again (hl : Lawful (Allowed origin t₀) history) (ho : Opened history t₀)
    {r : Nat} {clock : Option UInt64} {h : Handshook} {v : Verification P} :
    .verified (some r) clock h (.ok (v, t₀)) ∉ history := by
  intro he
  obtain ⟨clock', h', v', he'⟩ := ho
  have ht := (made_of_lawful hl he).2.1
  have ht' := (made_of_lawful hl he').2.1
  have hs : h.stream = h'.stream := VerifiedTransport.mk.inj (ht.symm.trans ht')
  cases verified_unique hl he he' hs

/-- Then the connector hands it out as often as a call finds it pending. -/
theorem count_handedOut (hn : ∀ r clock h v, .verified (some r) clock h (.ok (v, t₀)) ∉ history) :
    (history.filterMap Event.handedOut?).count t₀ =
      (history.filterMap Event.taken?).count (some t₀) := by
  induction history with
  | nil => rfl
  | cons e past ih =>
    have hpast := ih fun r clock h v hm => hn r clock h v (List.mem_cons_of_mem e hm)
    cases e with
    | connected details taken =>
      cases taken with
      | none =>
        show (past.filterMap Event.handedOut?).count t₀ =
          (none :: past.filterMap Event.taken?).count (some t₀)
        rw [List.count_cons_of_ne (by simp), hpast]
      | some t =>
        show (t :: past.filterMap Event.handedOut?).count t₀ =
          (some t :: past.filterMap Event.taken?).count (some t₀)
        rw [List.count_cons, List.count_cons, hpast]
        simp
    | verified caller clock h outcome =>
      cases caller with
      | none => exact hpast
      | some r =>
        cases outcome with
        | error refusal => exact hpast
        | ok made =>
          obtain ⟨v, t⟩ := made
          have hne : t ≠ t₀ := by
            intro he
            subst he
            exact hn r clock h v List.mem_cons_self
          show (t :: past.filterMap Event.handedOut?).count t₀ = _
          rw [List.count_cons_of_ne hne]
          exact hpast
    | dialled endpoint socket attempt => exact hpast
    | sent r t => exact hpast
    | returned r t => exact hpast

theorem handedOut_of_lawful (hl : Lawful (Allowed origin t₀) history)
    (ho : Opened history t₀) : (history.filterMap Event.handedOut?).count t₀ ≤ 1 := by
  rw [count_handedOut fun r clock h v => not_made_again hl ho]
  rcases taken_of_lawful hl with hnone | ⟨n, hn⟩
  · rw [hnone]
    exact Nat.zero_le 1
  · rw [hn, List.count_append, List.count_replicate]
    simp

end Lawful

end VerityVerifier.Connect
