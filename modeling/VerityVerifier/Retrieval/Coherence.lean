import VerityVerifier.Library.History
import VerityVerifier.Retrieval.Cached

/-!
# A cache serves what the source answered

Whatever the interleaving, the map stays within its bound and holds under a URI only
bytes the source answered for that URI. A fetch that misses leaves no trace when it
fails, and one that succeeds makes room for its own document only.
-/
namespace VerityVerifier.Retrieval

open VerityVerifier.Library
open VerityVerifier.Library.ByteString
open VerityVerifier.Library.History
open VerityVerifier.Library.Runs

/-- The source answered some call with these bytes for this URI. -/
def Answered (history : List Event) (uri : ComposeUri) (bytes : Bytes) : Prop :=
  ∃ call, .answered call uri (.ok bytes) ∈ history

/-- What a call returns was answered before: bytes to some call for the same URI, an error
to the call itself. -/
def Allowed (past : List Event) : Event → Prop
  | .answered _ _ _ => True
  | .returned _ uri (.ok bytes) => Answered past uri bytes
  | .returned call uri (.error e) => .answered call uri (.error e) ∈ past

theorem Answered.cons {history : List Event} {uri : ComposeUri} {bytes : Bytes}
    (h : Answered history uri bytes) (e : Event) : Answered (e :: history) uri bytes := by
  obtain ⟨call, hm⟩ := h
  exact ⟨call, List.mem_cons_of_mem e hm⟩

/-- The invariant of a shared cache. -/
structure Inv (capacity : Nat) (s : Shared) : Prop where
  capacity_eq : s.cached.capacity = max capacity 1
  bounded : Bounded.size s.cached.entries.value ≤ max capacity 1
  entries : ∀ uri bytes, s.cached.entry uri = some bytes → Answered s.history uri bytes
  storing : ∀ call uri bytes, s.calls call = some (.storing uri bytes) →
    Answered s.history uri bytes
  lawful : Lawful Allowed s.history
  ended : ∀ call uri result, .returned call uri result ∈ s.history →
    s.calls call = some (.returned uri result)

namespace Inv

variable {capacity : Nat} {s : Shared}

theorem opened (capacity : Nat) : Inv capacity (Shared.opened capacity) where
  capacity_eq := rfl
  bounded := Nat.zero_le _
  entries := by
    intro uri bytes h
    cases h
  storing := by
    intro call uri bytes h
    cases h
  lawful := trivial
  ended := by
    intro call uri result h
    cases h

/-- The cache changes: it is still bounded, and holds what was answered. -/
theorem replace (h : Inv capacity s) {cached : Cached}
    (hc : cached.capacity = s.cached.capacity)
    (hb : Bounded.size cached.entries.value ≤ max capacity 1)
    (he : ∀ uri bytes, cached.entry uri = some bytes → Answered s.history uri bytes) :
    Inv capacity { s with cached := cached } :=
  { h with capacity_eq := hc.trans h.capacity_eq, bounded := hb, entries := he }

/-- A call that has not returned moves on. -/
theorem enter (h : Inv capacity s) {call : Nat} {phase : Phase}
    (hc : ∀ uri result, s.calls call ≠ some (.returned uri result))
    (hs : ∀ uri bytes, phase = .storing uri bytes → Answered s.history uri bytes) :
    Inv capacity (s.enter call phase) := by
  refine { h with storing := ?_, ended := ?_ }
  · intro other uri bytes ho
    have ho : Function.update s.calls call (some phase) other = some (.storing uri bytes) := ho
    by_cases hoc : other = call
    · rw [hoc, Function.update_self] at ho
      exact hs uri bytes (Option.some.inj ho)
    · rw [Function.update_of_ne hoc] at ho
      exact h.storing other uri bytes ho
  · intro other uri result hm
    have ho := h.ended other uri result hm
    have hoc : other ≠ call := by
      intro heq
      rw [heq] at ho
      exact hc uri result ho
    show Function.update s.calls call (some phase) other = some (.returned uri result)
    rw [Function.update_of_ne hoc]
    exact ho

/-- The source answers. -/
theorem answered (h : Inv capacity s) (call : Nat) (uri : ComposeUri)
    (result : Except FetchError Bytes) : Inv capacity (s.note (.answered call uri result)) where
  capacity_eq := h.capacity_eq
  bounded := h.bounded
  entries := fun u b he => (h.entries u b he).cons _
  storing := fun c u b hs => (h.storing c u b hs).cons _
  lawful := ⟨trivial, h.lawful⟩
  ended := by
    intro c u r hm
    rcases List.mem_cons.mp hm with heq | hm
    · cases heq
    · exact h.ended c u r hm

/-- A call returns what it may. -/
theorem finish (h : Inv capacity s) {call : Nat} {uri : ComposeUri}
    {result : Except FetchError Bytes}
    (hc : ∀ uri result, s.calls call ≠ some (.returned uri result))
    (ha : Allowed s.history (.returned call uri result)) :
    Inv capacity (s.finish call uri result) := by
  have hi : Inv capacity (s.enter call (.returned uri result)) := by
    apply h.enter hc
    intro u b he
    cases he
  refine { hi with
    entries := fun u b he => (hi.entries u b he).cons _,
    storing := fun c u b hs => (hi.storing c u b hs).cons _,
    lawful := ⟨ha, h.lawful⟩, ended := ?_ }
  intro c u r hm
  rcases List.mem_cons.mp hm with heq | hm
  · obtain ⟨rfl, rfl, rfl⟩ := Event.returned.inj heq
    exact Function.update_self c _ s.calls
  · exact hi.ended c u r hm

/-- Storing keeps the bound, and adds only what the call was answered. -/
theorem insert (h : Inv capacity s) {uri : ComposeUri} {bytes : Bytes} {next : Option ComposeUri}
    (ha : Answered s.history uri bytes) (hn : Bounded.IsNext s.cached.entries.value next) :
    Inv capacity { s with cached := s.cached.insert uri bytes next } := by
  have hpos : 0 < s.cached.capacity := by
    rw [h.capacity_eq]
    omega
  have hb : Bounded.size s.cached.entries.value ≤ s.cached.capacity := by
    rw [h.capacity_eq]
    exact h.bounded
  apply h.replace Cached.insert_capacity
  · rw [← h.capacity_eq]
    exact Cached.size_insert_le hpos hb hn
  · intro u b he
    rcases Cached.insert_entry he with ⟨rfl, rfl⟩ | he
    · exact ha
    · exact h.entries u b he

theorem clear (h : Inv capacity s) : Inv capacity { s with cached := s.cached.clear } := by
  have hc : s.cached.clear.capacity = s.cached.capacity := rfl
  apply h.replace hc
  · rcases s.cached.clear_value with hv | hv
    · rw [hv]
      exact Nat.zero_le _
    · rw [hv]
      exact h.bounded
  · intro uri bytes he
    unfold Cached.entry at he
    rcases s.cached.clear_value with hv | hv
    · rw [hv] at he
      cases he
    · rw [hv] at he
      exact h.entries uri bytes he

theorem poison (h : Inv capacity s) : Inv capacity { s with cached := s.cached.poison } :=
  h.replace rfl h.bounded h.entries

end Inv

/-- One step keeps the invariant. -/
theorem step_inv {capacity : Nat} {s s' : Shared} {a : Action} (hi : Inv capacity s)
    (h : s.step a = some s') : Inv capacity s' := by
  cases Shared.step_moves h with
  | hit call uri bytes hc hg =>
    apply hi.finish
    · intro u r hr
      cases hc.symm.trans hr
    · exact hi.entries uri bytes (Cached.get_entry hg)
  | miss call uri hc hg =>
    apply hi.enter
    · intro u r hr
      cases hc.symm.trans hr
    · intro u b he
      cases he
  | failed call uri e hc =>
    apply (hi.answered call uri (.error e)).finish
    · intro u r hr
      cases hc.symm.trans hr
    · exact List.mem_cons_self
  | retrieved call uri bytes hc =>
    apply (hi.answered call uri (.ok bytes)).enter
    · intro u r hr
      cases hc.symm.trans hr
    · intro u b he
      obtain ⟨rfl, rfl⟩ := Phase.storing.inj he
      exact ⟨call, List.mem_cons_self⟩
  | stored call uri bytes next hc hn =>
    have ha := hi.storing call uri bytes hc
    apply (hi.insert ha hn).finish
    · intro u r hr
      cases hc.symm.trans hr
    · exact ha
  | cleared => exact hi.clear
  | poisoned => exact hi.poison

theorem run_inv {capacity : Nat} {s : Shared} {actions : List Action}
    (h : run Shared.step (Shared.opened capacity) actions = some s) : Inv capacity s :=
  run_invariant (fun _ _ _ => step_inv) (Inv.opened capacity) h

/-- Only a call that returns bytes touches the cache. -/
theorem step_cached {s s' : Shared} {a : Action} {call : Nat} (h : s.step a = some s')
    (ha : a.call? = some call) : s'.cached = s.cached ∨
      ∃ uri bytes, s'.calls call = some (.returned uri (.ok bytes)) := by
  cases Shared.step_moves h with
  | hit => exact .inl rfl
  | miss => exact .inl rfl
  | failed => exact .inl rfl
  | retrieved => exact .inl rfl
  | stored caller uri bytes next hc hn =>
    obtain rfl : caller = call := Option.some.inj ha
    exact .inr ⟨uri, bytes, Function.update_self caller _ s.calls⟩
  | cleared => cases ha
  | poisoned => cases ha

/-- A call that has returned stays returned. -/
theorem step_returned {s s' : Shared} {a : Action} {call : Nat} {uri : ComposeUri}
    {result : Except FetchError Bytes} (hr : s.calls call = some (.returned uri result))
    (h : s.step a = some s') : s'.calls call = some (.returned uri result) := by
  have hother : ∀ caller phase, s.calls caller ≠ some (.returned uri result) →
      Function.update s.calls caller (some phase) call = some (.returned uri result) := by
    intro caller phase hne
    have hcall : call ≠ caller := by
      intro heq
      rw [← heq] at hne
      exact hne hr
    rw [Function.update_of_ne hcall]
    exact hr
  cases Shared.step_moves h with
  | hit caller u b hc hg => exact hother caller _ (by simp [hc])
  | miss caller u hc hg => exact hother caller _ (by simp [hc])
  | failed caller u e hc => exact hother caller _ (by simp [hc])
  | retrieved caller u b hc => exact hother caller _ (by simp [hc])
  | stored caller u b next hc hn => exact hother caller _ (by simp [hc])
  | cleared => exact hr
  | poisoned => exact hr

/-- A call that returned an error has left the cache alone in every step it took. -/
theorem run_failed_call {s₀ m m' s : Shared} {before after : List Action} {a : Action}
    {call : Nat} {uri : ComposeUri} {e : FetchError}
    (h : run Shared.step s₀ (before ++ a :: after) = some s)
    (hm : run Shared.step s₀ before = some m) (ha : m.step a = some m')
    (hcall : a.call? = some call) (hr : s.calls call = some (.returned uri (.error e))) :
    m'.cached = m.cached := by
  obtain ⟨m₁, hm₁, h⟩ := run_append_iff.mp h
  obtain rfl : m = m₁ := Option.some.inj (hm.symm.trans hm₁)
  obtain ⟨m₂, hm₂, h⟩ := (run_cons_iff Shared.step).mp h
  obtain rfl : m' = m₂ := Option.some.inj (ha.symm.trans hm₂)
  rcases step_cached ha hcall with hsame | ⟨u, b, hok⟩
  · exact hsame
  · have hend := run_invariant (fun _ _ _ hs hstep => step_returned hs hstep) hok h
    have hres := (Phase.returned.inj (Option.some.inj (hend.symm.trans hr))).2
    cases hres

/-- What storing a document may do to the entries. -/
structure Stores (s s' : Shared) (uri : ComposeUri) (bytes : Bytes) : Prop where
  stored : s.cached.entries.poisoned = false → s'.cached.entry uri = some bytes
  dropped : ∀ other, other ≠ uri → s'.cached.entry other ≠ s.cached.entry other →
    s'.cached.entry other = none ∧ s.cached.entry uri = none ∧
      s.cached.capacity ≤ Bounded.size s.cached.entries.value
  single : ∀ k l, k ≠ uri → l ≠ uri → s'.cached.entry k ≠ s.cached.entry k →
    s'.cached.entry l ≠ s.cached.entry l → k = l

theorem step_stores {s s' : Shared} {call : Nat} {next : Option ComposeUri}
    (h : s.step (.insert call next) = some s') : ∃ uri bytes,
      s.calls call = some (.storing uri bytes) ∧ Stores s s' uri bytes := by
  cases Shared.step_moves h with
  | stored call uri bytes next hc hn =>
    refine ⟨uri, bytes, hc, ?_⟩
    show Stores s ⟨s.cached.insert uri bytes next, _, _⟩ uri bytes
    have hdropped : ∀ k, k ≠ uri →
        (s.cached.insert uri bytes next).entry k ≠ s.cached.entry k →
        (s.cached.insert uri bytes next).entry k = none ∧ next = some k ∧
          s.cached.entry uri = none ∧
          s.cached.capacity ≤ Bounded.size s.cached.entries.value := by
      intro k hk hne
      rcases Cached.insert_entry_of_ne hk with hsame | h
      · exact absurd hsame hne
      · exact h
    constructor
    · intro hp
      exact Cached.insert_entry_self hp
    · intro k hk hne
      obtain ⟨hnone, -, hnew, hfull⟩ := hdropped k hk hne
      exact ⟨hnone, hnew, hfull⟩
    · intro k l hk hl hkn hln
      obtain ⟨-, hnk, -⟩ := hdropped k hk hkn
      obtain ⟨-, hnl, -⟩ := hdropped l hl hln
      exact Option.some.inj (hnk.symm.trans hnl)

/-- Whatever the interleaving: the cache keeps its bound, holds and serves under a URI only
what the source answered for it, passes on the error of a call's own retrieval and then
changes nothing, and drops at most one entry to store another. -/
theorem shared_coherent {capacity : Nat} {actions : List Action} {s : Shared}
    (h : run Shared.step (Shared.opened capacity) actions = some s) :
    s.cached.len ≤ max capacity 1 ∧
    (∀ uri bytes, s.cached.entry uri = some bytes → Answered s.history uri bytes) ∧
    (∀ call uri bytes past, .returned call uri (.ok bytes) :: past <:+ s.history →
      Answered past uri bytes) ∧
    (∀ call uri e past, .returned call uri (.error e) :: past <:+ s.history →
      .answered call uri (.error e) ∈ past ∧
      ∀ before a after m m', actions = before ++ a :: after →
        run Shared.step (Shared.opened capacity) before = some m → m.step a = some m' →
        a.call? = some call → m'.cached = m.cached) ∧
    (∀ call next s', s.step (.insert call next) = some s' → ∃ uri bytes,
      s.calls call = some (.storing uri bytes) ∧ Stores s s' uri bytes) := by
  have hi := run_inv h
  refine ⟨?_, hi.entries, ?_, ?_, fun call next s' => step_stores⟩
  · have hl := s.cached.len_le
    have hb := hi.bounded
    omega
  · intro call uri bytes past hs
    exact hi.lawful.of_suffix hs
  · intro call uri e past hs
    refine ⟨hi.lawful.of_suffix hs, ?_⟩
    intro before a after m m' hsplit hm ha hcall
    rw [hsplit] at h
    have hm' : Event.returned call uri (.error e) ∈ s.history := hs.subset List.mem_cons_self
    exact run_failed_call h hm ha hcall (hi.ended call uri (.error e) hm')

def mirrored : ComposeUri := .http ⟨"https://mirror.example/compose", by decide⟩

def pinned : ComposeUri := .ipfs ⟨"bafkreidenehphc2", by decide, by decide⟩

/-- Two misses of one document overlap with a miss of another, in a cache that holds one. -/
def contended : List Action := [
  .fetch 0 pinned, .fetch 1 pinned, .fetch 2 mirrored,
  .answer 0 (.ok [1, 2]), .insert 0 none, .answer 1 (.ok [3]), .answer 2 (.ok [4]),
  .insert 1 (some pinned), .insert 2 (some pinned), .fetch 3 mirrored,
  .fetch 4 pinned, .answer 4 (.error (.status "ipfs://bafkreidenehphc2" 504))]

theorem shared_coherent_contended : ∃ s,
    run Shared.step (Shared.opened 0) contended = some s ∧
    s.cached.entry pinned = none ∧ s.cached.entry mirrored = some [4] ∧
    .returned 3 mirrored (.ok [4]) ∈ s.history ∧ s.cached.len ≤ max 0 1 ∧
    ∀ uri bytes, s.cached.entry uri = some bytes → Answered s.history uri bytes := by
  obtain ⟨s, h, hp, hm, hr⟩ : ∃ s, run Shared.step (Shared.opened 0) contended = some s ∧
      s.cached.entry pinned = none ∧ s.cached.entry mirrored = some [4] ∧
      .returned 3 mirrored (.ok [4]) ∈ s.history :=
    ⟨_, rfl, rfl, rfl, List.mem_cons_of_mem _ (List.mem_cons_of_mem _ List.mem_cons_self)⟩
  obtain ⟨hlen, hentries, -⟩ := shared_coherent h
  exact ⟨s, h, hp, hm, hr, hlen, hentries⟩

end VerityVerifier.Retrieval
