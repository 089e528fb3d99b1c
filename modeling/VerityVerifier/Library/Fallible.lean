import Mathlib.Logic.Basic

/-!
# When a fallible computation succeeds

A success is read backwards: through a sequence, a changed error, a missing value
and a guard, down to what each step returned.
-/
namespace VerityVerifier.Library.Fallible

variable {ε ε' α β : Type}

/-- `ok_or`. -/
def okOr (o : Option α) (e : ε) : Except ε α :=
  match o with
  | some a => .ok a
  | none => .error e

theorem bind_ok_iff {x : Except ε α} {f : α → Except ε β} {b : β} :
    (x >>= f) = .ok b ↔ ∃ a, x = .ok a ∧ f a = .ok b := by
  cases x with
  | error e => simp [bind, Except.bind]
  | ok a => simp [bind, Except.bind]

/-- A sequence fails in its first step, or in the rest of it. -/
theorem bind_error_iff {x : Except ε α} {f : α → Except ε β} {e : ε} :
    (x >>= f) = .error e ↔ x = .error e ∨ ∃ a, x = .ok a ∧ f a = .error e := by
  cases x with
  | error e' => simp [bind, Except.bind]
  | ok a => simp [bind, Except.bind]

@[simp] theorem ok_bind (a : α) (f : α → Except ε β) : (Except.ok a >>= f) = f a := rfl

@[simp] theorem throw_bind (e : ε) (f : α → Except ε β) :
    ((throw e : Except ε α) >>= f) = .error e := rfl

@[simp] theorem mapError_ok (a : α) (f : ε → ε') : (Except.ok a).mapError f = .ok a := rfl

@[simp] theorem mapError_error (e : ε) (f : ε → ε') :
    (Except.error e : Except ε α).mapError f = .error (f e) := rfl

theorem mapError_ok_iff {x : Except ε α} {f : ε → ε'} {a : α} :
    x.mapError f = .ok a ↔ x = .ok a := by
  cases x with
  | error e => simp
  | ok b => simp

theorem mapError_error_iff {x : Except ε α} {f : ε → ε'} {e : ε'} :
    x.mapError f = .error e ↔ ∃ e', x = .error e' ∧ f e' = e := by
  cases x with
  | error e' => simp
  | ok b => simp

theorem map_ok_iff {x : Except ε α} {f : α → β} {b : β} :
    x.map f = .ok b ↔ ∃ a, x = .ok a ∧ f a = b := by
  cases x with
  | error e => simp [Except.map]
  | ok a => simp [Except.map]

theorem map_error_iff {x : Except ε α} {f : α → β} {e : ε} : x.map f = .error e ↔ x = .error e := by
  cases x with
  | error e' => simp [Except.map]
  | ok a => simp [Except.map]

/-- A success read off an optional value, which can be compared. -/
theorem ok_of_toOption_map {x : Except ε α} {f : α → β} {b : β}
    (h : x.toOption.map f = some b) : ∃ a, x = .ok a ∧ f a = b := by
  cases x with
  | error e => cases h
  | ok a => exact ⟨a, rfl, Option.some.inj h⟩

theorem ok_of_toOption {x : Except ε α} {a : α} (h : x.toOption = some a) : x = .ok a := by
  cases x with
  | error e => cases h
  | ok b => exact congrArg Except.ok (Option.some.inj h)

theorem okOr_ok_iff {o : Option α} {e : ε} {a : α} : okOr o e = .ok a ↔ o = some a := by
  cases o with
  | none => simp [okOr]
  | some b => simp [okOr]

/-- A guard that refuses before the rest of a computation. -/
theorem guard_ok_iff {c : Prop} [Decidable c] {e : ε} {f : β → Except ε α} {x : Except ε α}
    {a : α} : (if c then (throw e : Except ε β) >>= f else x) = .ok a ↔ ¬ c ∧ x = .ok a := by
  by_cases hc : c
  · simp [hc, bind, Except.bind, throw, throwThe, MonadExceptOf.throw]
  · simp [hc]

/-- A unit success carries nothing. -/
theorem exists_unit_ok_iff {x : Except ε Unit} : (∃ a, x = .ok a) ↔ x = .ok () := by
  constructor
  · intro ⟨_, h⟩
    exact h
  · intro h
    exact ⟨(), h⟩

/-! ## The first that succeeds -/

section
variable {τ : Type*} {fails succeeds : τ → Prop}

theorem exists_first_nil : ¬ ∃ before x after, ([] : List τ) = before ++ x :: after ∧
    (∀ y ∈ before, fails y) ∧ succeeds x := by
  intro h
  obtain ⟨before, x, after, hl, -⟩ := h
  cases before <;> cases hl

/-- The first element that succeeds behind failures only is the head, or the head fails. -/
theorem exists_first_cons_iff {a : τ} {rest : List τ} :
    (∃ before x after, a :: rest = before ++ x :: after ∧ (∀ y ∈ before, fails y) ∧ succeeds x) ↔
      succeeds a ∨ fails a ∧ ∃ before x after, rest = before ++ x :: after ∧
        (∀ y ∈ before, fails y) ∧ succeeds x := by
  constructor
  · intro h
    obtain ⟨before, x, after, hl, hf, hs⟩ := h
    cases before with
    | nil =>
      obtain ⟨rfl, rfl⟩ := List.cons.inj hl
      exact .inl hs
    | cons b before =>
      obtain ⟨rfl, rfl⟩ := List.cons.inj hl
      have hrest : ∀ y ∈ before, fails y := fun y hy => hf y (List.mem_cons_of_mem a hy)
      exact .inr ⟨hf a List.mem_cons_self, before, x, after, rfl, hrest, hs⟩
  · intro h
    rcases h with hs | ⟨ha, before, x, after, rfl, hf, hs⟩
    · exact ⟨[], a, rest, rfl, by simp, hs⟩
    · refine ⟨a :: before, x, after, rfl, ?_, hs⟩
      intro y hy
      rcases List.mem_cons.mp hy with rfl | hy
      · exact ha
      · exact hf y hy

end

end VerityVerifier.Library.Fallible
