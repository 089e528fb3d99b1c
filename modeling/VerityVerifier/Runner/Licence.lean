import VerityVerifier.Runner.Agreement

/-!
# A run without a licence

Where no licensed hash is named, the document is compared with its own hash. Such a run can
accept what the licence would refuse, and it says so.
-/
namespace VerityVerifier.Runner

open VerityVerifier.Core
open VerityVerifier.Library.ByteString
open VerityVerifier.Library.Console
open VerityVerifier.Library.Fallible
open VerityVerifier.Soundness

variable {κ : Type}

/-! ## The arguments -/

/-- The same files, with the hash that the licence names. -/
def Loaded.licensed (loaded : Loaded) (hash : ComposeHash) : Loaded :=
  { loaded with composeHash := hash, selfReferential := false }

section
variable {W : AttestWorld κ} {o : Options} {hex : String} {hash : ComposeHash}

end

end VerityVerifier.Runner
