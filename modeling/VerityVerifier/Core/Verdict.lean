import VerityVerifier.Library.Ledger
import VerityVerifier.Library.Text

/-!
# The verdict: what was checked and what was found

A verdict is a list of records. `outcome` is the scan that lets a non-pass
dominate; trust and the two lists of essentials are derived from it.
-/
namespace VerityVerifier.Core

open VerityVerifier.Library
open VerityVerifier.Library.Text

def verifierVersion : String := "0.0.0"

/-- When the bundled reference data was assembled. -/
def referenceDataDate : String := "2026-07-28"

inductive Check where
  | composeHash
  | imagesPinned
  | licensedImagePresent
  | quoteSignature
  | tcbStatus
  | mrConfigId
  | bootMeasurements
  | channelBound
  deriving DecidableEq

namespace Check

def essential : List Check :=
  [.composeHash, .imagesPinned, .licensedImagePresent, .quoteSignature, .tcbStatus, .mrConfigId,
    .channelBound]

def all : List Check :=
  [.composeHash, .imagesPinned, .licensedImagePresent, .quoteSignature, .tcbStatus, .mrConfigId,
    .bootMeasurements, .channelBound]

end Check

/-- Why a check could not be established. -/
inductive Unestablished where
  | retrievalFailed
  | referenceUnavailable
  | verifierCannotJudge
  deriving DecidableEq

inductive Outcome where
  | passed
  | failed (why : String)
  | skipped (why : String)
  | indeterminate (cause : Unestablished) (detail : String)
  deriving DecidableEq

namespace Outcome

def unestablished (cause : Unestablished) (detail : String) : Outcome := .indeterminate cause detail

def cause : Outcome → Option Unestablished
  | .indeterminate cause _ => some cause
  | _ => none

/-- `Outcome::passed`, under another name because the constructor has that one. -/
def isPassed : Outcome → Bool
  | .passed => true
  | _ => false

end Outcome

/-- The one enforced rule about platform status. -/
def isTcbAcceptable (status : String) : Bool := eqIgnoreAsciiCase status "UpToDate"

structure AttestedTcb where
  status : String
  advisoryIds : List String
  deriving DecidableEq

def AttestedTcb.isUpToDate (tcb : AttestedTcb) : Bool := isTcbAcceptable tcb.status

structure Verdict where
  verifierVersion : String
  referenceDataDate : String
  results : List (Check × Outcome)
  tcb : Option AttestedTcb
  deriving DecidableEq

namespace Verdict

def new : Verdict := ⟨Core.verifierVersion, Core.referenceDataDate, [], none⟩

def record (v : Verdict) (check : Check) (outcome : Outcome) : Verdict :=
  { v with results := v.results ++ [(check, outcome)] }

def recordAttestedTcb (v : Verdict) (tcb : AttestedTcb) : Verdict := { v with tcb := some tcb }

def attestedTcb (v : Verdict) : Option AttestedTcb := v.tcb

/-- The outcome of one check, if it was considered at all. A non-pass dominates. -/
def outcome (v : Verdict) (check : Check) : Option Outcome :=
  Ledger.scan Outcome.isPassed check none v.results

/-- Essential checks that never ran at all. -/
def unrunEssentials (v : Verdict) : List Check :=
  Check.essential.filter fun c => (v.outcome c).isNone

/-- Essential checks that did not pass. -/
def missingEssentials (v : Verdict) : List Check :=
  Check.essential.filter fun c => !(v.outcome c).any Outcome.isPassed

def isTrustworthy (v : Verdict) : Bool := v.missingEssentials.isEmpty

end Verdict

/-- A verdict in which every essential check ran and passed. -/
structure TrustworthyVerdict where
  verdict : Verdict
  trustworthy : verdict.isTrustworthy = true
  deriving DecidableEq

def TrustworthyVerdict.check (verdict : Verdict) : Except Verdict TrustworthyVerdict :=
  if h : verdict.isTrustworthy = true then .ok ⟨verdict, h⟩ else .error verdict

/-! ## Reading a verdict back -/

namespace Check

theorem mem_all (c : Check) : c ∈ all := by cases c <;> decide

theorem all_nodup : all.Nodup := by decide

end Check

namespace Outcome

@[simp] theorem isPassed_iff {o : Outcome} : o.isPassed = true ↔ o = .passed := by
  cases o <;> simp [isPassed]

end Outcome

namespace Verdict

@[simp] theorem record_results (v : Verdict) (c : Check) (o : Outcome) :
    (v.record c o).results = v.results ++ [(c, o)] := rfl

@[simp] theorem record_tcb (v : Verdict) (c : Check) (o : Outcome) :
    (v.record c o).tcb = v.tcb := rfl

@[simp] theorem record_verifierVersion (v : Verdict) (c : Check) (o : Outcome) :
    (v.record c o).verifierVersion = v.verifierVersion := rfl

@[simp] theorem record_referenceDataDate (v : Verdict) (c : Check) (o : Outcome) :
    (v.record c o).referenceDataDate = v.referenceDataDate := rfl

/-- A verdict is trustworthy exactly when every essential check reads as passed. -/
theorem isTrustworthy_iff (v : Verdict) :
    v.isTrustworthy = true ↔ ∀ c ∈ Check.essential, v.outcome c = some .passed := by
  simp only [isTrustworthy, missingEssentials, List.isEmpty_iff, List.filter_eq_nil_iff,
    Bool.not_eq_true', Bool.not_eq_false]
  refine forall₂_congr fun c _ => ?_
  cases v.outcome c with
  | none => simp
  | some o => simp

theorem unrunEssentials_eq_nil_iff (v : Verdict) :
    v.unrunEssentials = [] ↔ ∀ c ∈ Check.essential, (v.outcome c).isSome = true := by
  simp only [unrunEssentials, List.filter_eq_nil_iff, Option.isNone_iff_eq_none,
    Option.isSome_iff_ne_none, ne_eq]

end Verdict

theorem trustworthyVerdict_check_ok_iff {v : Verdict} {t : TrustworthyVerdict} :
    TrustworthyVerdict.check v = .ok t ↔ t.verdict = v := by
  unfold TrustworthyVerdict.check
  split
  · rw [Except.ok.injEq]
    constructor
    · intro he
      subst he
      rfl
    · intro he
      subst he
      rfl
  · rename_i h
    constructor
    · intro hn
      cases hn
    · intro he
      subst he
      exact absurd t.trustworthy h

theorem trustworthyVerdict_check_error_iff {v w : Verdict} :
    TrustworthyVerdict.check v = .error w ↔ v.isTrustworthy = false ∧ w = v := by
  unfold TrustworthyVerdict.check
  split
  · rename_i h
    simp [h]
  · rename_i h
    simp [h, eq_comm]

end VerityVerifier.Core
