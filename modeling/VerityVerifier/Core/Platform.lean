import VerityVerifier.Library.ByteString

/-!
# What the crate takes from outside

The hash functions, the DCAP verifier, the X.509 decoder and the two loaders are
third-party code. A `Platform` is one choice of them together with the word size
of the target. Their errors arrive only as text, so they are modelled as text.
-/
namespace VerityVerifier.Core

open VerityVerifier.Library.ByteString

abbrev ObjectIdentifier := String

/-- One X.509 extension, with the outer octet string already removed. -/
structure Extension where
  extnId : ObjectIdentifier
  extnValue : Bytes

/-- What the crate reads out of a decoded certificate. -/
structure Certificate where
  extensions : Option (List Extension)
  /-- The result of re-encoding the subject public key info. -/
  subjectPublicKeyInfoToDer : Except String Bytes

/-- The fields of the DCAP verifier's report that the crate reads. -/
structure VerifiedReport where
  status : String
  advisoryIds : List String

/-- `serde_json::Value`. -/
inductive Json where
  | null
  | bool (b : Bool)
  | number (text : String)
  | string (s : String)
  | array (values : List Json)
  | object (entries : List (String × Json))

namespace Json

def get (key : String) : Json → Option Json
  | .object entries => (entries.find? fun e => e.1 == key).map Prod.snd
  | _ => none

def asStr : Json → Option String
  | .string s => some s
  | _ => none

end Json

/-- `yaml_rust2::Yaml`. -/
inductive Yaml where
  | real (text : String)
  | integer (i : Int)
  | string (s : String)
  | boolean (b : Bool)
  | array (values : List Yaml)
  | hash (entries : List (Yaml × Yaml))
  | alias (id : Nat)
  | null
  | badValue

namespace Yaml

def asHash : Yaml → Option (List (Yaml × Yaml))
  | .hash entries => some entries
  | _ => none

def asStr : Yaml → Option String
  | .string s => some s
  | _ => none

/-- Indexing by a string: the value under that string key, or `BadValue`. -/
def index (key : String) (doc : Yaml) : Yaml :=
  ((doc.asHash.getD []).find? fun e => e.1.asStr == some key).elim .badValue Prod.snd

/-- The first entry wins. -/
theorem index_cons_self (key : String) (value : Yaml) (entries : List (Yaml × Yaml)) :
    index key (.hash ((.string key, value) :: entries)) = value := by
  rw [index, asHash, Option.getD_some, List.find?_cons_of_pos (by rw [asStr, beq_self_eq_true])]
  rfl

end Yaml

/-- One choice of the code outside this repository. `κ` is the collateral of the
DCAP verifier. -/
structure Platform (κ : Type) where
  usizeBits : Nat
  sha256 : Bytes → Block 32
  sha512 : Bytes → Block 64
  qvlVerify : Bytes → κ → UInt64 → Except String VerifiedReport
  certificateFromDer : Bytes → Except String Certificate
  jsonFromSlice : Bytes → Except String Json
  yamlLoadFromStr : String → Except String (List Yaml)
  /-- The longest encoding the DER codec handles, and what it says of one it refuses. -/
  derMaxLength : Nat
  derError : Bytes → String

/-- What the outside code was asked in some runs, and what it answered. -/
structure Recording (κ : Type) where
  sha256 : List (Bytes × Block 32)
  sha512 : List (Bytes × Block 64)
  reports : List ((Bytes × κ × UInt64) × VerifiedReport)
  certificates : List (Bytes × Certificate)
  json : List (Bytes × Json)
  yaml : List (String × List Yaml)

namespace Recording

variable {α β : Type} [DecidableEq α]

def answer? (table : List (α × β)) (question : α) : Option β :=
  (table.find? fun e => e.1 == question).map Prod.snd

def answer (table : List (α × β)) (question : α) : Except String β :=
  match answer? table question with
  | some a => .ok a
  | none => .error "not recorded"

@[simp] theorem answer?_cons_self (question : α) (a : β) (table : List (α × β)) :
    answer? ((question, a) :: table) question = some a := by
  rw [answer?, List.find?_cons_of_pos (by rw [beq_self_eq_true])]
  rfl

@[simp] theorem answer_cons_self (question : α) (a : β) (table : List (α × β)) :
    answer ((question, a) :: table) question = .ok a := by
  rw [answer, answer?_cons_self]

/-- The 64-bit platform that gives the recorded answers and refuses every other input. -/
def platform {κ : Type} [DecidableEq κ] (r : Recording κ) : Platform κ where
  usizeBits := 64
  sha256 document := (answer? r.sha256 document).getD (Block.zero 32)
  sha512 message := (answer? r.sha512 message).getD (Block.zero 64)
  qvlVerify rawQuote collateral nowSecs := answer r.reports (rawQuote, collateral, nowSecs)
  certificateFromDer := answer r.certificates
  jsonFromSlice := answer r.json
  yamlLoadFromStr := answer r.yaml
  derMaxLength := 0xfffffff
  derError _ := "malformed"

end Recording

end VerityVerifier.Core
