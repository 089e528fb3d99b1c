import VerityVerifier.Connect.Connector
import VerityVerifier.Library.Bounded
import VerityVerifier.Library.Runs
import VerityVerifier.Retrieval.Source
import Mathlib.Logic.Function.Basic

/-!
# A cache in front of a source

A fetch looks a document up under the lock, asks the wrapped source without the lock,
and takes the lock again to store what came back. Any number of fetches are in flight
at once, and what the source answers, which entry makes room and when the cache is
cleared are all inputs.
-/
namespace VerityVerifier.Retrieval

open VerityVerifier.Connect (Mutex)
open VerityVerifier.Library
open VerityVerifier.Library.ByteString

abbrev Entries := Bounded.Map ComposeUri Bytes

structure Cached where
  capacity : Nat
  entries : Mutex Entries

namespace Cached

def withCapacity (capacity : Nat) : Cached where
  capacity := max capacity 1
  entries := Mutex.new ∅

/-- How many documents are held. -/
def len (self : Cached) : Nat := self.entries.lock.elim 0 Bounded.size

def clear (self : Cached) : Cached := { self with entries := self.entries.store ∅ }

/-- A holder of the lock panicked. -/
def poison (self : Cached) : Cached :=
  { self with entries := { self.entries with poisoned := true } }

/-- The first critical section of a fetch. -/
def get (self : Cached) (uri : ComposeUri) : Option Bytes :=
  self.entries.lock.bind fun entries => entries.lookup uri

/-- The second critical section of a fetch, with what the iterator of the keys yields. -/
def insert (self : Cached) (uri : ComposeUri) (bytes : Bytes) (next : Option ComposeUri) :
    Cached :=
  match self.entries.lock with
  | none => self
  | some entries =>
    let entries := Bounded.place self.capacity entries next uri bytes
    { self with entries := self.entries.store entries }

/-- What the map holds, locked or not. -/
def entry (self : Cached) (uri : ComposeUri) : Option Bytes := self.entries.value.lookup uri

variable {self : Cached} {uri : ComposeUri} {bytes : Bytes} {next : Option ComposeUri}

theorem get_entry (h : self.get uri = some bytes) : self.entry uri = some bytes := by
  obtain ⟨entries, hl, he⟩ := Option.bind_eq_some_iff.mp h
  rw [entry, Mutex.lock_eq_some hl]
  exact he

theorem len_le : self.len ≤ Bounded.size self.entries.value := by
  unfold len
  cases hp : self.entries.poisoned with
  | true =>
    rw [Mutex.lock_of_poisoned hp]
    exact Nat.zero_le _
  | false =>
    rw [Mutex.lock_of_sound hp]
    exact Nat.le_refl _

theorem insert_poisoned (hp : self.entries.poisoned = true) (uri : ComposeUri) (bytes : Bytes)
    (next : Option ComposeUri) : self.insert uri bytes next = self := by
  unfold insert
  rw [Mutex.lock_of_poisoned hp]

theorem insert_sound (hp : self.entries.poisoned = false) (uri : ComposeUri) (bytes : Bytes)
    (next : Option ComposeUri) : self.insert uri bytes next =
      ⟨self.capacity,
        ⟨Bounded.place self.capacity self.entries.value next uri bytes, false⟩⟩ := by
  unfold insert
  rw [Mutex.lock_of_sound hp]
  simp only [Mutex.store_of_sound hp]

@[simp] theorem insert_capacity : (self.insert uri bytes next).capacity = self.capacity := by
  cases hp : self.entries.poisoned with
  | true => rw [insert_poisoned hp]
  | false => rw [insert_sound hp]

/-- The bound is kept, whatever makes room. -/
theorem size_insert_le (hc : 0 < self.capacity)
    (hb : Bounded.size self.entries.value ≤ self.capacity)
    (hn : Bounded.IsNext self.entries.value next) :
    Bounded.size (self.insert uri bytes next).entries.value ≤ self.capacity := by
  cases hp : self.entries.poisoned with
  | true =>
    rw [insert_poisoned hp]
    exact hb
  | false =>
    rw [insert_sound hp]
    exact Bounded.size_place_le hc hb hn

theorem insert_entry_self (hp : self.entries.poisoned = false) :
    (self.insert uri bytes next).entry uri = some bytes := by
  rw [entry, insert_sound hp]
  exact Bounded.lookup_place_self

/-- What is held after an insertion was inserted by it or held before. -/
theorem insert_entry {other : ComposeUri} {held : Bytes}
    (h : (self.insert uri bytes next).entry other = some held) :
    (other = uri ∧ held = bytes) ∨ self.entry other = some held := by
  cases hp : self.entries.poisoned with
  | true =>
    rw [insert_poisoned hp] at h
    exact .inr h
  | false =>
    rw [entry, insert_sound hp] at h
    exact Bounded.lookup_place h

/-- Every other document stays, but for the one that makes room. -/
theorem insert_entry_of_ne {other : ComposeUri} (ho : other ≠ uri) :
    (self.insert uri bytes next).entry other = self.entry other ∨
      (self.insert uri bytes next).entry other = none ∧ next = some other ∧
        self.entry uri = none ∧ self.capacity ≤ Bounded.size self.entries.value := by
  cases hp : self.entries.poisoned with
  | true =>
    rw [insert_poisoned hp]
    exact .inl rfl
  | false =>
    rw [entry, entry, insert_sound hp]
    rcases Bounded.lookup_place_of_ne ho self.capacity self.entries.value next bytes with
      hsame | ⟨hnone, hnext, hfull, hnew⟩
    · exact .inl hsame
    · exact .inr ⟨hnone, hnext, AList.lookup_eq_none.mpr hnew, hfull⟩

/-- Clearing empties the map, or leaves it alone when the lock is poisoned. -/
theorem clear_value : self.clear.entries.value = ∅ ∨
    self.clear.entries.value = self.entries.value := by
  unfold clear
  cases hp : self.entries.poisoned with
  | true =>
    rw [Mutex.store_of_poisoned hp]
    exact .inr rfl
  | false =>
    rw [Mutex.store_of_sound hp]
    exact .inl rfl

end Cached

/-! ## Calls in flight -/

/-- Where a fetch is. -/
inductive Phase where
  | fetching (uri : ComposeUri)
  | storing (uri : ComposeUri) (bytes : Bytes)
  | returned (uri : ComposeUri) (result : Except FetchError Bytes)

/-- What the source answered to a call, and what the call returned. -/
inductive Event where
  | answered (call : Nat) (uri : ComposeUri) (result : Except FetchError Bytes)
  | returned (call : Nat) (uri : ComposeUri) (result : Except FetchError Bytes)

inductive Action where
  | fetch (call : Nat) (uri : ComposeUri)
  | answer (call : Nat) (result : Except FetchError Bytes)
  | insert (call : Nat) (next : Option ComposeUri)
  | clear
  | poison

/-- The call that takes the step. -/
def Action.call? : Action → Option Nat
  | .fetch call _ | .answer call _ | .insert call _ => some call
  | .clear | .poison => none

/-- A cache, the calls made to it, and what happened, the newest first. -/
structure Shared where
  cached : Cached
  calls : Nat → Option Phase
  history : List Event

namespace Shared

/-- A cache that nobody has used. -/
def opened (capacity : Nat) : Shared := ⟨Cached.withCapacity capacity, fun _ => none, []⟩

def enter (s : Shared) (call : Nat) (phase : Phase) : Shared :=
  { s with calls := Function.update s.calls call (some phase) }

def note (s : Shared) (e : Event) : Shared := { s with history := e :: s.history }

def finish (s : Shared) (call : Nat) (uri : ComposeUri) (result : Except FetchError Bytes) :
    Shared :=
  (s.enter call (.returned uri result)).note (.returned call uri result)

def step (s : Shared) : Action → Option Shared
  | .fetch call uri =>
    match s.calls call with
    | some _ => none
    | none =>
      match s.cached.get uri with
      | some hit => some (s.finish call uri (.ok hit))
      | none => some (s.enter call (.fetching uri))
  | .answer call result =>
    match s.calls call with
    | some (.fetching uri) =>
      match result with
      | .error e => some ((s.note (.answered call uri (.error e))).finish call uri (.error e))
      | .ok bytes => some ((s.note (.answered call uri (.ok bytes))).enter call (.storing uri bytes))
    | _ => none
  | .insert call next =>
    match s.calls call with
    | some (.storing uri bytes) =>
      if Bounded.IsNext s.cached.entries.value next then
        some ({ s with cached := s.cached.insert uri bytes next }.finish call uri (.ok bytes))
      else none
    | _ => none
  | .clear => some { s with cached := s.cached.clear }
  | .poison => some { s with cached := s.cached.poison }

/-- Everything a step can do, each with the state it leads to. -/
inductive Moves (s : Shared) : Action → Shared → Prop
  | hit (call : Nat) (uri : ComposeUri) (bytes : Bytes) (hc : s.calls call = none)
    (hg : s.cached.get uri = some bytes) :
    Moves s (.fetch call uri) (s.finish call uri (.ok bytes))
  | miss (call : Nat) (uri : ComposeUri) (hc : s.calls call = none)
    (hg : s.cached.get uri = none) :
    Moves s (.fetch call uri) (s.enter call (.fetching uri))
  | failed (call : Nat) (uri : ComposeUri) (e : FetchError)
    (hc : s.calls call = some (.fetching uri)) :
    Moves s (.answer call (.error e))
      ((s.note (.answered call uri (.error e))).finish call uri (.error e))
  | retrieved (call : Nat) (uri : ComposeUri) (bytes : Bytes)
    (hc : s.calls call = some (.fetching uri)) :
    Moves s (.answer call (.ok bytes))
      ((s.note (.answered call uri (.ok bytes))).enter call (.storing uri bytes))
  | stored (call : Nat) (uri : ComposeUri) (bytes : Bytes) (next : Option ComposeUri)
    (hc : s.calls call = some (.storing uri bytes))
    (hn : Bounded.IsNext s.cached.entries.value next) :
    Moves s (.insert call next)
      ({ s with cached := s.cached.insert uri bytes next }.finish call uri (.ok bytes))
  | cleared : Moves s .clear { s with cached := s.cached.clear }
  | poisoned : Moves s .poison { s with cached := s.cached.poison }

theorem step_moves {s s' : Shared} {a : Action} (h : s.step a = some s') : Moves s a s' := by
  cases a with
  | fetch call uri =>
    simp only [step] at h
    split at h
    · cases h
    · split at h
      · obtain rfl := Option.some.inj h
        exact .hit call uri _ ‹_› ‹_›
      · obtain rfl := Option.some.inj h
        exact .miss call uri ‹_› ‹_›
  | answer call result =>
    simp only [step] at h
    split at h
    · cases result with
      | error e =>
        obtain rfl := Option.some.inj h
        exact .failed call _ e ‹_›
      | ok bytes =>
        obtain rfl := Option.some.inj h
        exact .retrieved call _ bytes ‹_›
    · cases h
  | insert call next =>
    simp only [step] at h
    split at h
    · split at h
      · obtain rfl := Option.some.inj h
        exact .stored call _ _ next ‹_› ‹_›
      · cases h
    · cases h
  | clear =>
    obtain rfl := Option.some.inj h
    exact .cleared
  | poison =>
    obtain rfl := Option.some.inj h
    exact .poisoned

end Shared

end VerityVerifier.Retrieval
