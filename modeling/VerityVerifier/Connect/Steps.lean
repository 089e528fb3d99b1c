import VerityVerifier.Connect.Client
import VerityVerifier.Connect.Handshake

/-!
# What a step of a session can do

One case for each way a step can end, with what it needs and the state it leads to. A
verification appears by its outcome, and a look at the pending slot by what it found.
-/
namespace VerityVerifier.Connect

open VerityVerifier.Core
open VerityVerifier.Library.ByteString

variable {κ : Type} {P : Platform κ}

/-- A look at the slot puts nothing in it. -/
theorem value_of_takePending {connector : VerifiedConnector P} {t : VerifiedTransport}
    (ht : connector.takePending.2.pending.value = some t) :
    connector.pending.value = some t := by
  unfold VerifiedConnector.takePending at ht
  cases hp : connector.pending.poisoned with
  | true =>
    rw [Mutex.lock_of_poisoned hp] at ht
    exact ht
  | false =>
    rw [Mutex.lock_of_sound hp] at ht
    have hnone : (connector.pending.store none).value = some t := ht
    rw [Mutex.store_of_sound hp] at hnone
    cases hnone

theorem takePending_some {connector : VerifiedConnector P} {t : VerifiedTransport}
    (h : connector.takePending.1 = some t) : connector.pending.value = some t ∧
      connector.takePending.2 = { connector with pending := ⟨none, false⟩ } := by
  unfold VerifiedConnector.takePending at h ⊢
  cases hl : connector.pending.lock with
  | none =>
    rw [hl] at h
    cases h
  | some found =>
    rw [hl] at h
    obtain rfl : found = some t := h
    refine ⟨Mutex.lock_eq_some hl, ?_⟩
    cases hp : connector.pending.poisoned with
    | true =>
      rw [Mutex.lock_of_poisoned hp] at hl
      cases hl
    | false => rw [Mutex.store_of_sound hp]

/-- Looking for the pending transport touches no other part of the connector. -/
theorem VerifiedConnector.takePending_rest (self : VerifiedConnector P) :
    self.takePending.2.request = self.request ∧ self.takePending.2.collateral = self.collateral ∧
      self.takePending.2.latest = self.latest := by
  unfold takePending
  cases self.pending.lock with
  | none => exact ⟨rfl, rfl, rfl⟩
  | some pending => exact ⟨rfl, rfl, rfl⟩

/-- The ways a step can end. -/
inductive Stepped (s : Session P) : Action → Session P → Prop where
  | submitted {r : Nat} {path : String} (hc : s.calls r = none) :
    Stepped s (.submit r path) (s.enter r ⟨requestUri s.client.endpoint path, .waiting⟩)
  | reused {r i : Nat} {uri : String} {t : VerifiedTransport}
    (hc : s.calls r = some ⟨uri, .waiting⟩) (ht : s.idle[i]? = some t) :
    Stepped s (.reuse r i) ((s.keep (s.idle.eraseIdx i)).enter r ⟨uri, .holding t⟩)
  | taken {r : Nat} {addrs : List String} {uri : String} {t : VerifiedTransport}
    (hc : s.calls r = some ⟨uri, .waiting⟩)
    (ht : s.client.connector.pending.value = some t) :
    Stepped s (.connect r addrs)
      (((s.setConnector { s.client.connector with pending := ⟨none, false⟩ }).note
        (.connected ⟨uri, addrs⟩ (some t))).enter r ⟨uri, .holding t⟩)
  | missed {r : Nat} {addrs : List String} {uri : String}
    (hc : s.calls r = some ⟨uri, .waiting⟩) (ht : s.client.connector.takePending.1 = none) :
    Stepped s (.connect r addrs) (((s.setConnector s.client.connector.takePending.2).note
      (.connected ⟨uri, addrs⟩ none)).enter r ⟨uri, .dialling⟩)
  | dialled {r : Nat} {leafDer : Bytes} {uri : String} (hc : s.calls r = some ⟨uri, .dialling⟩) :
    Stepped s (.dial r (.completed leafDer)) ((s.dial (.completed leafDer)).2.enter r
      ⟨uri, .shook ⟨⟨s.nextSocket⟩, leafDer⟩⟩)
  | undialled {r : Nat} {attempt : DialAttempt} {uri : String}
    (hc : s.calls r = some ⟨uri, .dialling⟩) :
    Stepped s (.dial r attempt) ((s.dial attempt).2.leave r)
  | verified {r : Nat} {clock : Option UInt64} {uri : String} {h : Handshook}
    {v : Verification P} (hc : s.calls r = some ⟨uri, .shook h⟩)
    (hv : (s.client.connector.verifyHandshook clock h).1 = .ok (v, ⟨h.stream⟩)) :
    Stepped s (.verify r clock) ((((s.leave r).setConnector
      { s.client.connector with latest := s.client.connector.latest.store (some v) }).note
        (.verified (some r) clock h (.ok (v, ⟨h.stream⟩)))).enter r ⟨uri, .holding ⟨h.stream⟩⟩)
  | refused {r : Nat} {clock : Option UInt64} {uri : String} {h : Handshook} {refusal : Refusal}
    (hc : s.calls r = some ⟨uri, .shook h⟩)
    (hv : (s.client.connector.verifyHandshook clock h).1 = .error refusal) :
    Stepped s (.verify r clock)
      ((s.leave r).note (.verified (some r) clock h (.error refusal)))
  | transmitted {r : Nat} {uri : String} {phase : Phase} {t : VerifiedTransport}
    (hc : s.calls r = some ⟨uri, phase⟩) (hp : phase = .holding t ∨ phase = .awaiting t) :
    Stepped s (.transmit r) ((s.enter r ⟨uri, .awaiting t⟩).note (.sent r t))
  | responded {r : Nat} {kept : Bool} {uri : String} {t : VerifiedTransport}
    (hc : s.calls r = some ⟨uri, .awaiting t⟩) :
    Stepped s (.respond r kept)
      ((s.keep (if kept then t :: s.idle else s.idle)).enter r ⟨uri, .answered t⟩)
  | finished {r : Nat} {uri : String} {t : VerifiedTransport}
    (hc : s.calls r = some ⟨uri, .answered t⟩) :
    Stepped s (.finish r) ((s.leave r).note (.returned r t))
  | retried {r : Nat} {uri : String} {phase : Phase} {t : VerifiedTransport}
    (hc : s.calls r = some ⟨uri, phase⟩) (hp : phase = .holding t ∨ phase = .awaiting t) :
    Stepped s (.retry r) (s.enter r ⟨uri, .waiting⟩)
  | abandoned {r : Nat} {c : Call} (hc : s.calls r = some c) :
    Stepped s (.abandon r) (s.leave r)
  | expired {i : Nat} (hi : i < s.idle.length) :
    Stepped s (.expire i) (s.keep (s.idle.eraseIdx i))

theorem stepped_of_connect {s s' : Session P} {r : Nat} {addrs : List String}
    (hs : s.step (.connect r addrs) = some s') : Stepped s (.connect r addrs) s' := by
  simp only [Session.step] at hs
  split at hs
  · rename_i uri hc
    simp only [Session.connect] at hs
    cases htaken : s.client.connector.takePending.1 with
    | none =>
      rw [htaken] at hs
      obtain rfl := Option.some.inj hs
      exact .missed hc htaken
    | some t =>
      obtain ⟨hvalue, hafter⟩ := takePending_some htaken
      rw [htaken, hafter] at hs
      obtain rfl := Option.some.inj hs
      exact .taken hc hvalue
  · cases hs

theorem stepped_of_dial {s s' : Session P} {r : Nat} {attempt : DialAttempt}
    (hs : s.step (.dial r attempt) = some s') : Stepped s (.dial r attempt) s' := by
  simp only [Session.step] at hs
  split at hs
  · rename_i uri hc
    cases hd : s.dial attempt with
    | mk outcome m =>
      rw [hd] at hs
      obtain rfl : (s.dial attempt).2 = m := congrArg Prod.snd hd
      cases outcome with
      | error refusal =>
        obtain rfl := Option.some.inj hs
        exact .undialled hc
      | ok h =>
        obtain rfl := Option.some.inj hs
        obtain ⟨leafDer, rfl, rfl⟩ := dial_ok_iff.mp (congrArg Prod.fst hd)
        exact .dialled hc
  · cases hs

theorem stepped_of_verify {s s' : Session P} {r : Nat} {clock : Option UInt64}
    (hs : s.step (.verify r clock) = some s') : Stepped s (.verify r clock) s' := by
  simp only [Session.step] at hs
  split at hs
  · rename_i uri h hc
    simp only [Session.verify] at hs
    cases hv : s.client.connector.verifyHandshook clock h with
    | mk outcome after =>
      rw [hv] at hs
      cases outcome with
      | error refusal =>
        obtain rfl := Option.some.inj hs
        rw [(VerifiedConnector.verifyHandshook_error _ clock h hv).1]
        exact .refused hc (congrArg Prod.fst hv)
      | ok made =>
        obtain ⟨v, t⟩ := made
        obtain rfl := Option.some.inj hs
        have hok := congrArg Prod.fst hv
        obtain ⟨rfl, hafter⟩ := s.client.connector.verifyHandshook_made clock h hok
        obtain rfl := (congrArg Prod.snd hv).symm.trans hafter
        exact .verified hc hok
  · cases hs

theorem stepped_of_step {s s' : Session P} {a : Action} (hs : s.step a = some s') :
    Stepped s a s' := by
  cases a with
  | connect r addrs => exact stepped_of_connect hs
  | dial r attempt => exact stepped_of_dial hs
  | verify r clock => exact stepped_of_verify hs
  | submit r path =>
    simp only [Session.step] at hs
    split at hs
    · rename_i hc
      obtain rfl := Option.some.inj hs
      exact .submitted hc
    · cases hs
  | reuse r i =>
    simp only [Session.step] at hs
    split at hs
    · rename_i uri t hc ht
      obtain rfl := Option.some.inj hs
      exact .reused hc ht
    · cases hs
  | transmit r =>
    simp only [Session.step] at hs
    split at hs
    · rename_i uri t hc
      obtain rfl := Option.some.inj hs
      exact .transmitted hc (.inl rfl)
    · rename_i uri t hc
      obtain rfl := Option.some.inj hs
      exact .transmitted hc (.inr rfl)
    · cases hs
  | respond r kept =>
    simp only [Session.step] at hs
    split at hs
    · rename_i uri t hc
      obtain rfl := Option.some.inj hs
      exact .responded hc
    · cases hs
  | finish r =>
    simp only [Session.step] at hs
    split at hs
    · rename_i uri t hc
      obtain rfl := Option.some.inj hs
      exact .finished hc
    · cases hs
  | retry r =>
    simp only [Session.step] at hs
    split at hs
    · rename_i uri t hc
      obtain rfl := Option.some.inj hs
      exact .retried hc (.inl rfl)
    · rename_i uri t hc
      obtain rfl := Option.some.inj hs
      exact .retried hc (.inr rfl)
    · cases hs
  | abandon r =>
    simp only [Session.step] at hs
    split at hs
    · rename_i c hc
      obtain rfl := Option.some.inj hs
      exact .abandoned hc
    · cases hs
  | expire i =>
    simp only [Session.step] at hs
    split at hs
    · rename_i hi
      obtain rfl := Option.some.inj hs
      exact .expired hi
    · cases hs

end VerityVerifier.Connect
