import VerityVerifier.Library.Text

/-!
# Where a compose document lives

A content identifier holds only bytes that cannot change the structure of a URL it is
put into; a URL holds a string with one of the two schemes that are fetched. Neither
can be built without its check.
-/
namespace VerityVerifier.Retrieval

open VerityVerifier.Library.ByteString
open VerityVerifier.Library.Text

/-- Why a compose URI could not be parsed. -/
inductive UriError where
  | emptyCid
  | invalidCid
  | unsupportedScheme (scheme : String)
  | noScheme
  deriving DecidableEq

instance : ToString UriError where
  toString
    | .emptyCid => "ipfs:// URI has an empty CID"
    | .invalidCid => "ipfs:// CID contains a character unsafe to interpolate"
    | .unsupportedScheme scheme => s!"unsupported scheme `{scheme}`"
    | .noScheme => "URI has no scheme"

/-- `is_ascii_alphanumeric`, or `-`, or `_`. -/
def isCidByte (b : UInt8) : Bool :=
  (48 ≤ b.toNat && b.toNat ≤ 57) || (65 ≤ b.toNat && b.toNat ≤ 90) ||
  (97 ≤ b.toNat && b.toNat ≤ 122) || b.toNat == 45 || b.toNat == 95

/-- A content identifier that is safe to interpolate. -/
structure Cid where
  text : String
  nonempty : text ≠ ""
  safe : (utf8 text).all isCidByte = true
  deriving DecidableEq

def Cid.parse (s : String) : Except UriError Cid :=
  if hs : s = "" then .error .emptyCid
  else if hb : (utf8 s).all isCidByte = true then .ok ⟨s, hs, hb⟩
  else .error .invalidCid

/-- `starts_with` one of the two schemes that are fetched. -/
def hasHttpScheme (s : String) : Bool :=
  (stripPrefix "https://" s).isSome || (stripPrefix "http://" s).isSome

/-- An absolute `http` or `https` URL. -/
structure ComposeUrl where
  text : String
  scheme : hasHttpScheme text = true
  deriving DecidableEq

def ComposeUrl.parse (s : String) : Except UriError ComposeUrl :=
  if hs : hasHttpScheme s = true then .ok ⟨s, hs⟩
  else
    match splitOnce "://" s with
    | some (scheme, _) => .error (.unsupportedScheme scheme)
    | none => .error .noScheme

/-- Where a compose document lives. -/
inductive ComposeUri where
  | ipfs (cid : Cid)
  | http (url : ComposeUrl)
  deriving DecidableEq

namespace ComposeUri

def parse (s : String) : Except UriError ComposeUri :=
  match stripPrefix "ipfs://" (trim s) with
  | some cid => (Cid.parse cid).map .ipfs
  | none => (ComposeUrl.parse (trim s)).map .http

instance : ToString ComposeUri where
  toString
    | .ipfs cid => s!"ipfs://{cid.text}"
    | .http url => url.text

end ComposeUri

end VerityVerifier.Retrieval
