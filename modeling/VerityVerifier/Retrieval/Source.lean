import VerityVerifier.Core.Verdict
import VerityVerifier.Retrieval.Uri

/-!
# Sources and chains of sources

A source answers a URI with bytes or an error, and nothing about the bytes is known.
A chain tries its sources in order and returns the first answer that is bytes.
-/
namespace VerityVerifier.Retrieval

open VerityVerifier.Core
open VerityVerifier.Library.ByteString

/-- Why retrieval failed. -/
inductive FetchError where
  | transport (uri detail : String)
  | status (uri : String) (status : UInt16)
  | tooLarge (uri : String) (limit : Nat)
  | unsupported (sourceKind uri : String)
  deriving DecidableEq

instance : ToString FetchError where
  toString
    | .transport uri detail => s!"transport error fetching {uri}: {detail}"
    | .status uri status => s!"fetching {uri} returned HTTP {status}"
    | .tooLarge uri limit => s!"{uri} exceeded the {limit} byte limit"
    | .unsupported sourceKind uri => s!"{sourceKind} cannot fetch {uri}"

/-- Somewhere a document can be retrieved from, with whatever effect a call has. -/
abbrev Source (m : Type → Type) := ComposeUri → m (Except FetchError Bytes)

/-- A chain of sources that is never empty. -/
structure Fallback (m : Type → Type) where
  first : Source m
  rest : List (Source m)

namespace Fallback

def isOk (r : Except FetchError Bytes) : Bool :=
  match r with
  | .ok _ => true
  | .error _ => false

/-- The loop over the rest of the chain, with the last answer. -/
def fetchRest {m : Type → Type} [Monad m] (uri : ComposeUri) :
    List (Source m) → Except FetchError Bytes → m (Except FetchError Bytes)
  | [], last => pure last
  | source :: rest, _ => do
    let last ← source uri
    if isOk last then return last
    fetchRest uri rest last

def fetch {m : Type → Type} [Monad m] (f : Fallback m) (uri : ComposeUri) :
    m (Except FetchError Bytes) := do
  let first ← f.first uri
  if isOk first then return first
  fetchRest uri f.rest first

end Fallback

end VerityVerifier.Retrieval
