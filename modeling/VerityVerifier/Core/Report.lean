import VerityVerifier.Core.Verdict
import VerityVerifier.Library.Lines

/-!
# The transcript that two shell gates read

One record is printed as one entry of the transcript: the name of the check, padded to a
column, and the label of the outcome, with the detail of the outcome after it. A gate
looks for a line that starts with a name and a label.
-/
namespace VerityVerifier.Core

open VerityVerifier.Library.Lines
open VerityVerifier.Library.Text

def Check.name : Check → String
  | .composeHash => "compose_hash"
  | .imagesPinned => "images_pinned"
  | .licensedImagePresent => "licensed_image_present"
  | .quoteSignature => "quote_signature"
  | .tcbStatus => "tcb_status"
  | .mrConfigId => "mr_config_id"
  | .bootMeasurements => "boot_measurements"
  | .channelBound => "channel_bound"

/-- The check behind a name. -/
def Check.named (name : String) : Option Check := Check.all.find? fun c => c.name == name

namespace Outcome

def label : Outcome → String
  | .passed => "passed"
  | .skipped _ => "skipped"
  | .failed _ => "FAILED"
  | .indeterminate _ _ => "indeterminate"

/-- What an outcome that did not pass explains. -/
def detail? : Outcome → Option String
  | .passed => none
  | .failed why | .skipped why | .indeterminate _ why => some why

end Outcome

def labels : List String := ["passed", "FAILED", "skipped", "indeterminate"]

/-- `{:<width}`. -/
def padRight (width : Nat) (s : String) : String :=
  s ++ String.ofList (List.replicate (width - s.length) ' ')

/-- One entry of the transcript. -/
def transcriptLine (check : Check) (outcome : Outcome) : String :=
  let label := outcome.label
  let rendered :=
    match outcome with
    | .passed => label
    | .failed why | .skipped why | .indeterminate _ why => label ++ " (" ++ why ++ ")"
  "  " ++ padRight 22 check.name ++ " " ++ rendered

/-- What the runner prints for the records of a verdict. -/
def reportTranscript (v : Verdict) : String :=
  String.join (v.results.map fun r => transcriptLine r.1 r.2 ++ "\n")

/-- The gates' pattern: two spaces, the name, at least one space, the label. -/
def matchesGrep (line name label : String) : Bool :=
  match stripPrefix "  " line with
  | none => false
  | some rest =>
    match stripPrefix name rest with
    | none => false
    | some rest =>
      let trimmed := rest.toList.dropWhile (· == ' ')
      let spaces := rest.toList.length - trimmed.length
      decide (1 ≤ spaces) && label.toList.isPrefixOf trimmed

/-- Some line of the report is one that a gate looks for. -/
def Verdict.Greps (v : Verdict) (check : Check) (label : String) : Prop :=
  ∃ line ∈ lines (reportTranscript v).toList,
    matchesGrep (String.ofList line) check.name label = true

theorem Check.named_name (c : Check) : Check.named c.name = some c := by
  cases c <;> decide

theorem Check.name_injective {c d : Check} (h : c.name = d.name) : c = d := by
  have hc := Check.named_name c
  rw [h, Check.named_name d] at hc
  exact (Option.some.inj hc).symm

end VerityVerifier.Core
