import Mathlib.Logic.Basic

/-!
# Exclusive custody

Who holds which resource, as a relation. That no resource has two holders is kept when
somebody lets go, when a holder hands a resource on, and when a new one is taken.
-/
namespace VerityVerifier.Library.Custody

variable {ω ρ : Type*} {holds after : ω → ρ → Prop}

/-- No resource has two holders. -/
def Exclusive (holds : ω → ρ → Prop) : Prop :=
  ∀ a b x, holds a x → holds b x → a = b

theorem Exclusive.release (h : Exclusive holds) (hs : ∀ a x, after a x → holds a x) :
    Exclusive after := by
  intro a b x ha hb
  exact h a b x (hs a x ha) (hs b x hb)

/-- The holder `b` takes `x`, which nobody else is left with. -/
theorem Exclusive.take (h : Exclusive holds) {b : ω} {x : ρ} (hx : ∀ a, after a x → a = b)
    (hs : ∀ a y, after a y → holds a y ∨ a = b ∧ y = x) : Exclusive after := by
  intro p q y hp hq
  have hsole : y = x → p = q := by
    intro he
    rw [he] at hp hq
    exact (hx p hp).trans (hx q hq).symm
  rcases hs p y hp with hp' | ⟨-, he⟩
  · rcases hs q y hq with hq' | ⟨-, he⟩
    · exact h p q y hp' hq'
    · exact hsole he
  · exact hsole he

/-- The holder `a` hands `x` to `b` and keeps nothing of it. -/
theorem Exclusive.move (h : Exclusive holds) {a b : ω} {x : ρ} (ha : holds a x)
    (hgone : ¬ after a x) (hs : ∀ c y, after c y → holds c y ∨ c = b ∧ y = x) :
    Exclusive after := by
  apply h.take ?_ hs
  intro c hc
  rcases hs c x hc with hold | ⟨he, -⟩
  · obtain rfl : c = a := h c a x hold ha
    exact absurd hc hgone
  · exact he

/-- The holder `b` takes `x`, which nobody held before. -/
theorem Exclusive.acquire (h : Exclusive holds) {b : ω} {x : ρ} (hnew : ∀ a, ¬ holds a x)
    (hs : ∀ a y, after a y → holds a y ∨ a = b ∧ y = x) : Exclusive after := by
  apply h.take ?_ hs
  intro a ha
  rcases hs a x ha with hold | ⟨he, -⟩
  · exact absurd hold (hnew a)
  · exact he

end VerityVerifier.Library.Custody
