import VerityVerifier.Library.Percent
import VerityVerifier.Library.Reader
import VerityVerifier.Retrieval.Render
import VerityVerifier.Retrieval.Source

/-!
# Sources behind an HTTP client

A gateway and a node are asked for a content identifier at a URL built from it, and a
plain URL is fetched as it stands. The client that carries the request is a parameter.
-/
namespace VerityVerifier.Retrieval

open VerityVerifier.Library.ByteString
open VerityVerifier.Library.Reader
open VerityVerifier.Library.Text

variable {m : Type → Type} [Monad m]

/-- The bytes that are not encoded: letters, digits and `-._~`. -/
def isUnreserved (b : UInt8) : Bool :=
  (48 ≤ b.toNat && b.toNat ≤ 57) || (65 ≤ b.toNat && b.toNat ≤ 90) ||
  (97 ≤ b.toNat && b.toNat ≤ 122) || b.toNat == 45 || b.toNat == 46 || b.toNat == 95 ||
  b.toNat == 126

/-- Percent-encode any byte outside the unreserved set. -/
def percentEncode (s : String) : String := String.ofList (percentBytes isUnreserved (utf8 s))

/-- Read a response body, refusing anything over `limit`. -/
def readCapped (buffers : Buffers) (reader : Body String) (uri : String) (limit : Nat) :
    Except FetchError Bytes × Body String :=
  readUpTo buffers (.tooLarge uri limit) (.transport uri) limit reader

def defaultSizeLimit : Nat := 1024 * 1024

/-- What the client reports when there is no response body to read. -/
inductive AgentError where
  | statusCode (code : UInt16)
  | other (detail : String)

/-- The HTTP client: one request, answered with a body or an error. -/
structure Agent (m : Type → Type) where
  get : String → m (Except AgentError (Body String))
  post : String → m (Except AgentError (Body String))

/-- What becomes of the answer to a request. -/
def fromResponse (buffers : Buffers) (url : String) (limit : Nat) :
    Except AgentError (Body String) → Except FetchError Bytes
  | .error (.statusCode code) => .error (.status url code)
  | .error (.other detail) => .error (.transport url detail)
  | .ok response => (readCapped buffers response url limit).1

def get (agent : Agent m) (buffers : Buffers) (url : String) (limit : Nat) :
    m (Except FetchError Bytes) := do
  let response ← agent.get url
  return fromResponse buffers url limit response

def post (agent : Agent m) (buffers : Buffers) (url : String) (limit : Nat) :
    m (Except FetchError Bytes) := do
  let response ← agent.post url
  return fromResponse buffers url limit response

/-- Retrieves through an IPFS HTTP gateway. -/
structure Gateway where
  base : String
  limit : Nat

namespace Gateway

def new (base : String) : Gateway := ⟨trimEndMatches '/' base, defaultSizeLimit⟩

def withSizeLimit (self : Gateway) (limit : Nat) : Gateway := { self with limit }

def fetch (self : Gateway) (agent : Agent m) (buffers : Buffers) : Source m
  | .ipfs cid => get agent buffers s!"{self.base}/ipfs/{percentEncode cid.text}" self.limit
  | .http url => pure (.error (.unsupported "Gateway" url.text))

end Gateway

/-- Retrieves through a Kubo RPC API. -/
structure KuboRpc where
  api : String
  limit : Nat

namespace KuboRpc

def new (api : String) : KuboRpc := ⟨trimEndMatches '/' api, defaultSizeLimit⟩

def withSizeLimit (self : KuboRpc) (limit : Nat) : KuboRpc := { self with limit }

def fetch (self : KuboRpc) (agent : Agent m) (buffers : Buffers) : Source m
  | .ipfs cid =>
    post agent buffers s!"{self.api}/api/v0/cat?arg={percentEncode cid.text}" self.limit
  | .http url => pure (.error (.unsupported "KuboRpc" url.text))

end KuboRpc

/-- Retrieves plain HTTP URLs. -/
structure HttpUrl where
  limit : Nat

namespace HttpUrl

def fetch (self : HttpUrl) (agent : Agent m) (buffers : Buffers) : Source m
  | .http url => get agent buffers url.text self.limit
  | .ipfs cid => pure (.error (.unsupported "HttpUrl" s!"ipfs://{cid.text}"))

end HttpUrl

/-! ## Percent-encoding -/

theorem asciiOnly_unreserved : AsciiOnly isUnreserved := by
  intro b h
  simp only [isUnreserved, Bool.or_eq_true, Bool.and_eq_true, decide_eq_true_eq, beq_iff_eq] at h
  omega

theorem percentDecode_percentEncode (x : String) :
    percentDecode (percentEncode x).toList = some (utf8 x) := by
  rw [percentEncode, String.toList_ofList]
  exact percentDecode_percentBytes asciiOnly_unreserved (by decide) (utf8 x)

theorem percentEncode_inj {x y : String} (h : percentEncode x = percentEncode y) : x = y := by
  have hx := percentDecode_percentEncode x
  rw [h, percentDecode_percentEncode] at hx
  exact (utf8_inj (Option.some.inj hx)).symm

theorem percentEncode_eq_iff {x : String} :
    percentEncode x = x ↔ (utf8 x).all isUnreserved = true := by
  rw [← percentBytes_utf8_eq_iff asciiOnly_unreserved, percentEncode, ← String.toList_inj,
    String.toList_ofList]

/-- A content identifier is not changed by the encoding. -/
theorem percentEncode_cid (cid : Cid) : percentEncode cid.text = cid.text := by
  rw [percentEncode_eq_iff, List.all_eq_true]
  intro b hb
  have hc := List.all_eq_true.mp cid.safe b hb
  simp only [isCidByte, Bool.or_eq_true, Bool.and_eq_true, decide_eq_true_eq, beq_iff_eq] at hc
  simp only [isUnreserved, Bool.or_eq_true, Bool.and_eq_true, decide_eq_true_eq, beq_iff_eq]
  omega

/-! ## Request URLs -/

/-- What a gateway at `base` is asked for. -/
def gatewayUrl (base : String) (cid : Cid) : String :=
  trimEndMatches '/' base ++ "/ipfs/" ++ cid.text

/-- What a node at `api` is asked for. -/
def kuboUrl (api : String) (cid : Cid) : String :=
  trimEndMatches '/' api ++ "/api/v0/cat?arg=" ++ cid.text

theorem Gateway.fetch_ipfs (agent : Agent m) (buffers : Buffers) (base : String) (limit : Nat)
    (cid : Cid) : ((Gateway.new base).withSizeLimit limit).fetch agent buffers (.ipfs cid) =
      get agent buffers (gatewayUrl base cid) limit := by
  show get agent buffers (toString (trimEndMatches '/' base) ++ "/ipfs/" ++
    toString (percentEncode cid.text)) limit = _
  rw [percentEncode_cid]
  rfl

theorem KuboRpc.fetch_ipfs (agent : Agent m) (buffers : Buffers) (api : String) (limit : Nat)
    (cid : Cid) : ((KuboRpc.new api).withSizeLimit limit).fetch agent buffers (.ipfs cid) =
      post agent buffers (kuboUrl api cid) limit := by
  show post agent buffers (toString (trimEndMatches '/' api) ++ "/api/v0/cat?arg=" ++
    toString (percentEncode cid.text)) limit = _
  rw [percentEncode_cid]
  rfl

/-- No character with a meaning in a URL can be part of a content identifier. -/
theorem isCidChar_inert {c : Char} (h : isCidChar c = true) :
    c ∉ ['/', '?', '#', '&', '=', '%', ':', '@', '.'] ∧ isWhitespace c = false ∧
      32 ≤ c.toNat ∧ c.toNat < 127 := by
  refine ⟨?_, ?_⟩
  · intro hc
    have hnone : ['/', '?', '#', '&', '=', '%', ':', '@', '.'].all
        (fun c => (isCidChar c).not) = true := by decide
    have hn := List.all_eq_true.mp hnone c hc
    rw [h] at hn
    cases hn
  · simp only [isCidChar, Bool.or_eq_true, Bool.and_eq_true, decide_eq_true_eq, beq_iff_eq] at h
    simp only [isWhitespace, Bool.or_eq_false_iff, Bool.and_eq_false_iff, decide_eq_false_iff_not,
      beq_eq_false_iff_ne]
    omega

theorem Cid.ext_text {cid cid' : Cid} (h : cid.text = cid'.text) : cid = cid' := by
  cases cid
  cases cid'
  simpa using h

/-- A character that no content identifier holds is counted the same in every request URL. -/
theorem count_append_cid {x : Char} (hx : isCidChar x = false) (front : String) (cid : Cid) :
    (front ++ cid.text).toList.count x = front.toList.count x := by
  have hzero : cid.text.toList.count x = 0 := by
    rw [List.count_eq_zero]
    intro hm
    have hs := List.all_eq_true.mp (utf8_all_cid_iff.mp cid.safe) x hm
    rw [hx] at hs
    cases hs
  rw [String.toList_append, List.count_append, hzero, Nat.add_zero]

theorem append_cid_inj {front : String} {cid cid' : Cid}
    (h : front ++ cid.text = front ++ cid'.text) : cid = cid' := by
  apply Cid.ext_text
  rw [← String.toList_inj, String.toList_append, String.toList_append,
    List.append_cancel_left_eq] at h
  exact String.toList_inj.mp h

/-- No content identifier alters a request URL: it is put behind the path as it stands, and
nothing in it has a meaning there. The encoder alone would also escape whatever has. -/
theorem request_urls_exact :
    (∀ (agent : Agent m) (buffers : Buffers) (base : String) (limit : Nat) (cid : Cid),
      ((Gateway.new base).withSizeLimit limit).fetch agent buffers (.ipfs cid) =
        (agent.get (gatewayUrl base cid) >>= fun response =>
          pure (fromResponse buffers (gatewayUrl base cid) limit response)) ∧
      ((KuboRpc.new base).withSizeLimit limit).fetch agent buffers (.ipfs cid) =
        (agent.post (kuboUrl base cid) >>= fun response =>
          pure (fromResponse buffers (kuboUrl base cid) limit response))) ∧
    (∀ base, (∃ n, base.toList = (trimEndMatches '/' base).toList ++ List.replicate n '/') ∧
      (trimEndMatches '/' base).toList.getLast? ≠ some '/') ∧
    (∀ cid : Cid, cid.text ≠ "" ∧ ∀ c ∈ cid.text.toList,
      c ∉ ['/', '?', '#', '&', '=', '%', ':', '@', '.'] ∧ isWhitespace c = false ∧
        32 ≤ c.toNat ∧ c.toNat < 127) ∧
    (∀ base cid cid', (gatewayUrl base cid = gatewayUrl base cid' → cid = cid') ∧
      (kuboUrl base cid = kuboUrl base cid' → cid = cid') ∧
      ∀ x ∈ ['/', '?', '#', '&', '=', '%', ':', '@', '.'],
        (gatewayUrl base cid).toList.count x = (gatewayUrl base cid').toList.count x ∧
        (kuboUrl base cid).toList.count x = (kuboUrl base cid').toList.count x) ∧
    ∀ x, Escaped isUnreserved (percentEncode x).toList ∧
      percentDecode (percentEncode x).toList = some (utf8 x) ∧
      (∀ y, percentEncode x = percentEncode y → x = y) ∧
      (percentEncode x = x ↔ (utf8 x).all isUnreserved = true) := by
  refine ⟨?_, fun base => trimEndMatches_split '/' base, ?_, ?_, ?_⟩
  · intro agent buffers base limit cid
    exact ⟨Gateway.fetch_ipfs agent buffers base limit cid,
      KuboRpc.fetch_ipfs agent buffers base limit cid⟩
  · intro cid
    refine ⟨cid.nonempty, ?_⟩
    intro c hc
    exact isCidChar_inert (List.all_eq_true.mp (utf8_all_cid_iff.mp cid.safe) c hc)
  · intro base cid cid'
    refine ⟨append_cid_inj, append_cid_inj, ?_⟩
    intro x hx
    have hnot : isCidChar x = false := by
      rw [← Bool.not_eq_true]
      intro hc
      exact (isCidChar_inert hc).1 hx
    unfold gatewayUrl kuboUrl
    simp only [count_append_cid hnot, and_self]
  · intro x
    refine ⟨?_, percentDecode_percentEncode x, fun y => percentEncode_inj, percentEncode_eq_iff⟩
    rw [percentEncode, String.toList_ofList]
    exact escaped_percentBytes (utf8 x)

end VerityVerifier.Retrieval
