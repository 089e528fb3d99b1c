import VerityVerifier.Library.Hex
import VerityVerifier.Library.Reader
import VerityVerifier.Connect.Client
import VerityVerifier.Retrieval.Http

/-!
# Requests over a verified connection

A request goes to the endpoint that was verified, and its response is read up to a
limit in the way a document is. The client that carries it is a parameter.
-/
namespace VerityVerifier.Connect

open VerityVerifier.Core
open VerityVerifier.Library.ByteString
open VerityVerifier.Library.Reader
open VerityVerifier.Library.Text

/-- Why a request did not complete. -/
inductive TransportError where
  | io (detail : String)
  | tooLarge (limit : Nat)
  | refused (refusal : Refusal)
  deriving DecidableEq

instance : ToString TransportError where
  toString
    | .io detail => s!"the request did not complete: {detail}"
    | .tooLarge limit => s!"the response exceeded the {limit} byte limit"
    | .refused _ => "a reconnect to this endpoint did not verify"

/-- What the client reports: a refusal that the connector carried out through it, or
anything else. -/
inductive UreqError where
  | refusal (refusal : Refusal)
  | other (detail : String)

/-- A refusal is taken back out; what is left is a transport fault. -/
def fromUreq : UreqError → TransportError
  | .refusal refusal => .refused refusal
  | .other detail => .io detail

/-- A response whose body is still to be read. A header value need not be text. -/
structure RawResponse where
  status : UInt16
  headers : List (String × Option String)
  body : Body String

/-- A response from a verified connection. -/
structure Response where
  status : UInt16
  headers : List (String × String)
  body : Bytes

/-- The HTTP client, with its URIs and its requests. -/
structure HttpClient (m : Type → Type) (Uri Request : Type) where
  parseUri : String → Except String Uri
  build : String → Uri → Option (String × Bytes) → Except String Request
  run : Request → m (Except UreqError RawResponse)

/-- The header values that are text, under lower-case names. -/
def textHeaders (headers : List (String × Option String)) : List (String × String) :=
  headers.filterMap fun header => header.2.map fun value => (asciiLowercase header.1, value)

/-- The body of a response, refusing anything over the limit. -/
def readBody (buffers : Buffers) (body : Body String) (responseLimit : Nat) :
    Except TransportError Bytes × Body String :=
  readUpTo buffers (.tooLarge responseLimit) .io responseLimit body

def request {m : Type → Type} [Monad m] {Uri Request : Type} (client : HttpClient m Uri Request)
    (buffers : Buffers) (base : Endpoint) (method path : String) (body : Option (String × Bytes))
    (responseLimit : Nat) : m (Except TransportError Response) :=
  match client.parseUri (requestUri base path) with
  | .error e => return .error (.io s!"`{path}` is not a usable request path: {e}")
  | .ok uri =>
    match client.build method uri body with
    | .error e => return .error (.io s!"the request could not be built: {e}")
    | .ok built => do
      match ← client.run built with
      | .error e => return .error (fromUreq e)
      | .ok response =>
        return (readBody buffers response.body responseLimit).1.map fun body =>
          { status := response.status, headers := textHeaders response.headers, body }

/-- The two capped readers read within their limit, whatever the chunks and the buffers are. -/
theorem capped_readers_exact (limit : Nat) (h : limit < 2 ^ 64 - 1) (b : Body String)
    (uri : String) (buffers : Buffers) :
    ReadsWithin limit b (.tooLarge uri limit) (.transport uri)
      (Retrieval.readCapped buffers b uri limit) ∧
    ReadsWithin limit b (.tooLarge limit) .io (readBody buffers b limit) ∧
    ∀ (b' : Body String) (buffers' : Buffers), b'.content = b.content → b'.ending = b.ending →
      (Retrieval.readCapped buffers' b' uri limit).1 =
        (Retrieval.readCapped buffers b uri limit).1 ∧
      (readBody buffers' b' limit).1 = (readBody buffers b limit).1 := by
  refine ⟨?_, ?_, ?_⟩
  · exact readsWithin_readUpTo buffers (fun e he => by cases he)
      (fun e e' he => (Retrieval.FetchError.transport.inj he).2) h b
  · exact readsWithin_readUpTo buffers (fun e he => by cases he)
      (fun e e' he => TransportError.io.inj he) h b
  · intro b' buffers' hc he
    unfold Retrieval.readCapped readBody
    rw [(readUpTo_eq buffers' _ _ h b').1, (readUpTo_eq buffers _ _ h b).1,
      (readUpTo_eq buffers' _ _ h b').1, (readUpTo_eq buffers _ _ h b).1, hc, he]
    exact ⟨rfl, rfl⟩

/-- Four bytes in two chunks, of which a limit of three lets the first three and one be taken. -/
theorem capped_readers_four_bytes :
    (Retrieval.readCapped ⟨fun _ => 32, fun _ => by decide⟩
      ⟨[[1, 2], [3, 4]], none, by decide⟩ "u" 3).1 = .error (.tooLarge "u" 3) :=
  (capped_readers_exact 3 (by decide) ⟨[[1, 2], [3, 4]], none, by decide⟩ "u"
    ⟨fun _ => 32, fun _ => by decide⟩).1.beyond.mpr (by decide)

end VerityVerifier.Connect
