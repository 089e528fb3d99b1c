import Mathlib.Init

/-!
# A bounded clock

Instants are readings of a counter that ends somewhere, and durations have a longest one.
A sum that the counter cannot hold does not exist, and the difference of two instants is
always a duration.
-/
namespace VerityVerifier.Library.Clock

/-- The nanoseconds of 64 bits of seconds and of the last second's rest. -/
def maxNanos : Nat := 18446744073709551615 * 1000000000 + 999999999

structure Duration where
  nanos : Nat
  le : nanos ≤ maxNanos
  deriving DecidableEq

def Duration.max : Duration := ⟨maxNanos, Nat.le_refl _⟩

def Duration.isZero (d : Duration) : Bool := d.nanos == 0

/-- How far a clock counts. The whole of it is a duration. -/
structure Counter where
  last : Nat
  le : last ≤ maxNanos

structure Instant (c : Counter) where
  nanos : Nat
  le : nanos ≤ c.last
  deriving DecidableEq

variable {c : Counter}

namespace Instant

def checkedAdd (t : Instant c) (d : Duration) : Option (Instant c) :=
  if h : t.nanos + d.nanos ≤ c.last then some ⟨t.nanos + d.nanos, h⟩ else none

/-- The time since `earlier`, or zero where `earlier` is later. -/
def durationSince (t earlier : Instant c) : Duration :=
  ⟨t.nanos - earlier.nanos, Nat.le_trans (Nat.sub_le _ _) (Nat.le_trans t.le c.le)⟩

def checkedDurationSince (t earlier : Instant c) : Option Duration :=
  if earlier.nanos ≤ t.nanos then some (t.durationSince earlier) else none

theorem checkedAdd_eq_some_iff {t t' : Instant c} {d : Duration} :
    t.checkedAdd d = some t' ↔ t'.nanos = t.nanos + d.nanos := by
  unfold checkedAdd
  constructor
  · intro h
    split at h
    · rw [← Option.some.inj h]
    · cases h
  · intro h
    have hle := t'.le
    rw [h] at hle
    rw [dif_pos hle]
    congr 1
    cases t'
    subst h
    rfl

theorem exists_checkedAdd_iff {t : Instant c} {d : Duration} :
    (∃ t', t.checkedAdd d = some t') ↔ t.nanos + d.nanos ≤ c.last := by
  constructor
  · intro h
    obtain ⟨t', h⟩ := h
    rw [← checkedAdd_eq_some_iff.mp h]
    exact t'.le
  · intro h
    exact ⟨⟨_, h⟩, checkedAdd_eq_some_iff.mpr rfl⟩

theorem durationSince_isZero {t earlier : Instant c} (h : earlier.nanos < t.nanos) :
    (t.durationSince earlier).isZero = false := by
  show (t.nanos - earlier.nanos == 0) = false
  rw [beq_eq_false_iff_ne]
  omega

/-- A difference that is there and is not zero is that to an earlier instant. -/
theorem checkedDurationSince_filter (t earlier : Instant c) :
    ((t.checkedDurationSince earlier).filter fun d => !d.isZero) =
      if earlier.nanos < t.nanos then some (t.durationSince earlier) else none := by
  unfold checkedDurationSince
  by_cases hlt : earlier.nanos < t.nanos
  · rw [if_pos (Nat.le_of_lt hlt), if_pos hlt, Option.filter_some_pos]
    rw [durationSince_isZero hlt]
    rfl
  · rw [if_neg hlt]
    by_cases hle : earlier.nanos ≤ t.nanos
    · have hz : (t.durationSince earlier).isZero = true := by
        show (t.nanos - earlier.nanos == 0) = true
        rw [beq_iff_eq]
        omega
      rw [if_pos hle, Option.filter_some_neg]
      rw [hz]
      decide
    · rw [if_neg hle]
      rfl

end Instant

end VerityVerifier.Library.Clock
