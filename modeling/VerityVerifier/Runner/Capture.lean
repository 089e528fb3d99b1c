import VerityVerifier.Runner.Attestation
import VerityVerifier.Soundness.Boot

/-!
# Capturing a boot reference

Nothing bundled holds register values: a reference is copied out of what a run printed. A
copy loads in either runner, and it asks of another quote that the copied registers be the
same, and nothing else.
-/
namespace VerityVerifier.Runner

open VerityVerifier.Core
open VerityVerifier.Library.ByteString
open VerityVerifier.Library.Console
open VerityVerifier.Library.Fallible
open VerityVerifier.Soundness

variable {κ : Type}

/-! ## What is printed -/

end VerityVerifier.Runner
