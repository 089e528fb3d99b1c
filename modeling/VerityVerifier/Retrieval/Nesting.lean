import VerityVerifier.Library.Attempts
import VerityVerifier.Retrieval.Chain

/-!
# Chains inside chains

The entries of a chain may be chains themselves, and any entry may stand in a box. What
such a tree of sources does is what the chain of its leaves does: the same bytes or the
same error, and the same sources asked in the same order.
-/
namespace VerityVerifier.Retrieval

open VerityVerifier.Core
open VerityVerifier.Library.Attempts
open VerityVerifier.Library.ByteString
open VerityVerifier.Soundness

variable {m : Type → Type} {S ι σ : Type}

/-- A box passes the call on. -/
def Box.fetch (inner : Source m) : Source m := fun uri => inner uri

/-- Any way to build a source from others by chains and boxes. -/
inductive Nest (S : Type) where
  | leaf (source : S)
  | boxed (inner : Nest S)
  | chain (first : Nest S) (rest : List (Nest S))

namespace Nest

mutual

def fetch [Monad m] (leafFetch : S → Source m) : Nest S → Source m
  | .leaf source => leafFetch source
  | .boxed inner => Box.fetch (inner.fetch leafFetch)
  | .chain first rest => fun uri =>
    Fallback.fetch ⟨first.fetch leafFetch, fetchAll leafFetch rest⟩ uri

def fetchAll [Monad m] (leafFetch : S → Source m) : List (Nest S) → List (Source m)
  | [] => []
  | n :: rest => n.fetch leafFetch :: fetchAll leafFetch rest

end

mutual

/-- The leaves, the first one apart. -/
def flatten : Nest S → S × List S
  | .leaf source => (source, [])
  | .boxed inner => inner.flatten
  | .chain first rest => (first.flatten.1, first.flatten.2 ++ flattenAll rest)

def flattenAll : List (Nest S) → List S
  | [] => []
  | n :: rest => n.flatten.1 :: (n.flatten.2 ++ flattenAll rest)

end

mutual

/-- The same tree with no box in it. -/
def unbox : Nest S → Nest S
  | .leaf source => .leaf source
  | .boxed inner => inner.unbox
  | .chain first rest => .chain first.unbox (unboxAll rest)

def unboxAll : List (Nest S) → List (Nest S)
  | [] => []
  | n :: rest => n.unbox :: unboxAll rest

end

/-- The chain of the leaves. -/
def flat (leafFetch : S → Source m) (n : Nest S) : Fallback m :=
  ⟨leafFetch n.flatten.1, n.flatten.2.map leafFetch⟩

end Nest

/-! ## One chain -/

theorem Fallback.fetchRest_eq [Monad m] [LawfulMonad m] (uri : ComposeUri) (rest : List (Source m))
    (e : FetchError) :
    Fallback.fetchRest uri rest (.error e) = firstOk (rest.map fun s => s uri) e := by
  induction rest generalizing e with
  | nil => rfl
  | cons source rest ih =>
    rw [List.map_cons, firstOk]
    unfold Fallback.fetchRest
    congr 1
    funext r
    cases r with
    | ok document => rfl
    | error e => exact ih e

theorem Fallback.fetch_eq [Monad m] [LawfulMonad m] (first : Source m) (rest : List (Source m))
    (uri : ComposeUri) (e : FetchError) :
    Fallback.fetch ⟨first, rest⟩ uri = firstOk (first uri :: rest.map fun s => s uri) e := by
  rw [firstOk]
  unfold Fallback.fetch
  congr 1
  funext r
  cases r with
  | ok document => rfl
  | error e => exact Fallback.fetchRest_eq uri rest e

theorem Fallback.fetch_map [Monad m] [LawfulMonad m] (leafFetch : S → Source m) (first : S)
    (rest : List S) (uri : ComposeUri) (e : FetchError) :
    Fallback.fetch ⟨leafFetch first, rest.map leafFetch⟩ uri =
      firstOk ((first :: rest).map fun s => leafFetch s uri) e := by
  rw [Fallback.fetch_eq _ _ uri e, List.map_map]
  rfl

/-! ## A tree of chains -/

mutual

theorem Nest.fetch_eq [Monad m] [LawfulMonad m] (leafFetch : S → Source m) (uri : ComposeUri)
    (e : FetchError) (n : Nest S) : n.fetch leafFetch uri =
      firstOk ((n.flatten.1 :: n.flatten.2).map fun s => leafFetch s uri) e := by
  cases n with
  | leaf source => exact (firstOk_singleton (leafFetch source uri) e).symm
  | boxed inner => exact Nest.fetch_eq leafFetch uri e inner
  | chain first rest =>
    have hfirst := Nest.fetch_eq leafFetch uri e first
    have hrest : firstOk ((Nest.fetchAll leafFetch rest).map fun s => s uri) =
        firstOk ((Nest.flattenAll rest).map fun s => leafFetch s uri) := by
      funext e'
      exact Nest.fetchAll_eq leafFetch uri e' rest
    have hchain := Fallback.fetch_eq (first.fetch leafFetch) (Nest.fetchAll leafFetch rest) uri e
    rw [firstOk, hrest, hfirst, ← firstOk_append, ← List.map_append] at hchain
    exact hchain

theorem Nest.fetchAll_eq [Monad m] [LawfulMonad m] (leafFetch : S → Source m) (uri : ComposeUri)
    (e : FetchError) (rest : List (Nest S)) :
    firstOk ((Nest.fetchAll leafFetch rest).map fun s => s uri) e =
      firstOk ((Nest.flattenAll rest).map fun s => leafFetch s uri) e := by
  cases rest with
  | nil => rfl
  | cons n rest =>
    have hn := Nest.fetch_eq leafFetch uri e n
    have hrest : firstOk ((Nest.fetchAll leafFetch rest).map fun s => s uri) =
        firstOk ((Nest.flattenAll rest).map fun s => leafFetch s uri) := by
      funext e'
      exact Nest.fetchAll_eq leafFetch uri e' rest
    rw [Nest.fetchAll, List.map_cons, firstOk, hrest, hn, ← firstOk_append, ← List.map_append]
    rfl

end

mutual

theorem Nest.unbox_fetch [Monad m] (leafFetch : S → Source m) (n : Nest S) :
    n.unbox.fetch leafFetch = n.fetch leafFetch := by
  cases n with
  | leaf source => rfl
  | boxed inner => exact Nest.unbox_fetch leafFetch inner
  | chain first rest =>
    rw [Nest.unbox, Nest.fetch, Nest.fetch, Nest.unbox_fetch leafFetch first,
      Nest.unboxAll_fetch leafFetch rest]

theorem Nest.unboxAll_fetch [Monad m] (leafFetch : S → Source m) (rest : List (Nest S)) :
    Nest.fetchAll leafFetch (Nest.unboxAll rest) = Nest.fetchAll leafFetch rest := by
  cases rest with
  | nil => rfl
  | cons n rest =>
    rw [Nest.unboxAll, Nest.fetchAll, Nest.fetchAll, Nest.unbox_fetch leafFetch n,
      Nest.unboxAll_fetch leafFetch rest]

end

theorem Nest.fetch_flat [Monad m] [LawfulMonad m] (leafFetch : S → Source m) (n : Nest S)
    (uri : ComposeUri) : n.fetch leafFetch uri = (n.flat leafFetch).fetch uri := by
  rw [Nest.fetch_eq leafFetch uri (.transport "" "") n, Nest.flat, Fallback.fetch_map]

/-! ## The sources a chain asks -/

/-- A source that leaves its label in a log at every call. -/
def loggedSource [Monad m] (s : ι × Source m) : Source (StateT (List ι) m) :=
  fun uri => logged s.1 (s.2 uri)

/-- A chain asks its sources in order, each once, up to the first that answers with bytes, and
its answer is that of the last one asked. Trees of chains and boxes do what the chain of their
leaves does, in any monad: with logged leaves, also in the order of the calls. -/
theorem fetch_in_order :
    (∀ (ι σ : Type) (first : ι × Source (StateM σ)) (rest : List (ι × Source (StateM σ)))
      (uri : ComposeUri) (w : σ) (log : List ι),
      ∃ before source after w' answer w'', first :: rest = before ++ source :: after ∧
        Failing (before.map fun s => s.2 uri) w w' ∧
        (source.2 uri).run w' = (answer, w'') ∧
        (Fallback.isOk answer = true ∨ after = []) ∧
        (Fallback.fetch ⟨first.2, rest.map Prod.snd⟩ uri).run w = (answer, w'') ∧
        ((Fallback.fetch ⟨loggedSource first, rest.map loggedSource⟩ uri).run log).run w =
          ((answer, log ++ (before ++ [source]).map Prod.fst), w'')) ∧
    (∀ (m : Type → Type) [Monad m] [LawfulMonad m] (S : Type) (leafFetch : S → Source m)
      (n : Nest S) (uri : ComposeUri),
      n.fetch leafFetch uri = (n.flat leafFetch).fetch uri) ∧
    (∀ (m : Type → Type) [Monad m] (S : Type) (leafFetch : S → Source m) (n : Nest S),
      n.unbox.fetch leafFetch = n.fetch leafFetch) := by
  refine ⟨?_, ?_, ?_⟩
  · intro ι σ first rest uri w log
    obtain ⟨before, entry, after, w', answer, w'', hs, hf, ha, hstop, hrun, hlog⟩ :=
      firstOk_run ((first :: rest).map fun s => (s.1, s.2 uri)) (List.cons_ne_nil _ _)
        (FetchError.transport "" "") w log
    obtain ⟨before, tail, hsplit, rfl, htail⟩ := List.map_eq_append_iff.mp hs
    obtain ⟨source, after, rfl, rfl, rfl⟩ := List.map_eq_cons_iff.mp htail
    refine ⟨before, source, after, w', answer, w'', hsplit, ?_, ha, ?_, ?_, ?_⟩
    · rw [List.map_map] at hf
      exact hf
    · obtain ⟨a, rfl⟩ | hnil := hstop
      · exact .inl rfl
      · exact .inr (List.map_eq_nil_iff.mp hnil)
    · rw [List.map_map] at hrun
      rw [Fallback.fetch_map Prod.snd first rest uri (.transport "" "")]
      exact hrun
    · rw [List.map_map, List.map_append, List.map_map] at hlog
      rw [Fallback.fetch_map loggedSource first rest uri (.transport "" ""), List.map_append]
      exact hlog
  · intro m _ _ S leafFetch n uri
    exact n.fetch_flat leafFetch uri
  · intro m _ S leafFetch n
    exact n.unbox_fetch leafFetch

def unreachable : Source Id := fun _ => (.error (.transport "" "timed out") : Except FetchError Bytes)

/-- A boxed chain of one source in front of another. -/
def boxedChain : Nest (Source Id) := .chain (.boxed (.chain (.leaf unreachable) [])) [.leaf serving]

theorem boxedChain_serves :
    boxedChain.fetch id recordedUri = (.ok recordedDocument : Except FetchError Bytes) := by
  rw [fetch_in_order.2.1 Id _ id boxedChain recordedUri]
  rfl

end VerityVerifier.Retrieval
