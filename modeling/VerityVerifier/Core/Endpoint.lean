import VerityVerifier.Library.Text

/-!
# What kind of endpoint this is

The gateway terminates TLS on one form of host name and passes it through on another.
An endpoint carries the classification of its own host, so the form cannot disagree
with the name.
-/
namespace VerityVerifier.Core

open VerityVerifier.Library.ByteString
open VerityVerifier.Library.Text

/-- Which gateway route an endpoint names. -/
inductive EndpointForm where
  | dstackPassthrough
  | dstackTerminating
  | unrecognised
  deriving DecidableEq

inductive EndpointError where
  | notHttps (scheme : String)
  | noHost
  | badPort (port : String)
  deriving DecidableEq

instance : ToString EndpointError where
  toString
    | .notHttps scheme =>
      s!"endpoint scheme is `{scheme}`, and only https can be channel bound"
    | .noHost => "endpoint has no host"
    | .badPort port => s!"endpoint port `{port}` is not a usable port number"

namespace Endpoint

def appIdHexLen : Nat := 40
def https : String := "https"
def defaultHttpsPort : UInt16 := 443

/-- Decide which gateway route a host names. -/
def classify (host : String) : EndpointForm :=
  match splitOnce "." host with
  | none => .unrecognised
  | some (firstLabel, _) =>
    match rsplitOnce '-' firstLabel with
    | none => .unrecognised
    | some (appId, port) =>
      if (utf8 appId).length ≠ appIdHexLen ∨ appId.toList.all isHexdigit ≠ true then .unrecognised
      else if (stripSuffix 's' port).any fun digits =>
          digits ≠ "" && digits.toList.all isDigit then .dstackPassthrough
      else if port ≠ "" && port.toList.all isDigit then .dstackTerminating
      else .unrecognised

end Endpoint

/-- A parsed `https` endpoint, classified by form. -/
structure Endpoint where
  url : String
  host : String
  port : UInt16
  form : EndpointForm
  classified : Endpoint.classify host = form
  deriving DecidableEq

namespace Endpoint

/-- The host and the port of an authority, split at the last colon outside brackets. -/
def splitPort (authority : String) : Except EndpointError (String × UInt16) :=
  match rsplitOnce ':' authority with
  | some (h, p) =>
    if h.toList.getLast? ≠ some ']' then
      match parseU16 p with
      | some port => if port = 0 then .error (.badPort p) else .ok (h, port)
      | none => .error (.badPort p)
    else .ok (authority, defaultHttpsPort)
  | none => .ok (authority, defaultHttpsPort)

def parse (url : String) : Except EndpointError Endpoint :=
  let url := trim url
  match splitOnce "://" url with
  | none => .error (.notHttps "")
  | some (scheme, rest) =>
    if eqIgnoreAsciiCase scheme https = false then .error (.notHttps scheme)
    else
      let authority := String.ofList (rest.toList.takeWhile fun c => (['/', '?', '#'].contains c).not)
      match splitPort authority with
      | .error e => .error e
      | .ok (host, port) =>
        if host = "" then .error .noHost else .ok ⟨url, host, port, classify host, rfl⟩

/-- The passthrough host a terminating host should have been. -/
def passthroughForm (e : Endpoint) : Option String :=
  if e.form ≠ .dstackTerminating then none
  else do
    let (firstLabel, domain) ← splitOnce "." e.host
    let (appId, port) ← rsplitOnce '-' firstLabel
    return s!"{appId}-{port}s.{domain}"

/-- The suggestion exists exactly for the form that is refused. -/
theorem passthroughForm_isSome_iff {e : Endpoint} :
    e.passthroughForm.isSome = true ↔ e.form = .dstackTerminating := by
  unfold passthroughForm
  by_cases hf : e.form = .dstackTerminating
  · have hc : classify e.host = .dstackTerminating := e.classified.trans hf
    unfold classify at hc
    split at hc
    · cases hc
    · rename_i firstLabel domain hd
      split at hc
      · cases hc
      · rename_i appId port hp
        simp [hf, hd, hp]
  · simp [hf]

end Endpoint

end VerityVerifier.Core
