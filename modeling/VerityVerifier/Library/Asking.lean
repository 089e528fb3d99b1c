import Mathlib.Init

/-!
# Programs that ask

A program asks questions and goes on with the answers, until it is done. Whoever answers may
refuse, and the first refusal is the end of the program. What the program does between its
questions is left open.
-/
namespace VerityVerifier.Library

/-- A program over questions, answers and a result. -/
inductive Asking (κ α ρ : Type) where
  | done (result : ρ)
  | ask (question : κ) (next : α → Asking κ α ρ)

namespace Asking

variable {κ α ρ σ ε : Type}

/-- Run a program over a state that the answers change. -/
def run (answer : κ → σ → Except ε α × σ) : Asking κ α ρ → σ → Except ε ρ × σ
  | .done result, s => (.ok result, s)
  | .ask question next, s =>
    match answer question s with
    | (.ok a, s) => (next a).run answer s
    | (.error e, s) => (.error e, s)

variable {answer : κ → σ → Except ε α × σ}

/-- A program gets to another over questions that were answered. -/
inductive Leads (answer : κ → σ → Except ε α × σ) :
    Asking κ α ρ → σ → Asking κ α ρ → σ → Prop where
  | refl (p : Asking κ α ρ) (s : σ) : Leads answer p s p s
  | step {question : κ} {next : α → Asking κ α ρ} {s s' : σ} {a : α} {q : Asking κ α ρ} {t : σ}
    (ha : answer question s = (.ok a, s')) (hl : Leads answer (next a) s' q t) :
    Leads answer (.ask question next) s q t

theorem run_ask_ok {question : κ} {next : α → Asking κ α ρ} {s s' : σ} {a : α}
    (ha : answer question s = (.ok a, s')) :
    (ask question next).run answer s = (next a).run answer s' := by
  rw [run, ha]

theorem run_ask_error {question : κ} {next : α → Asking κ α ρ} {s s' : σ} {e : ε}
    (ha : answer question s = (.error e, s')) :
    (ask question next).run answer s = (.error e, s') := by
  rw [run, ha]

/-- A program that leads to another ends as that one does. -/
theorem Leads.run_eq {p q : Asking κ α ρ} {s t : σ} (h : Leads answer p s q t) :
    p.run answer s = q.run answer t := by
  induction h with
  | refl p s => rfl
  | step ha hl ih => exact (run_ask_ok ha).trans ih

/-- A program is refused exactly by the first question that is. -/
theorem run_error_iff {p : Asking κ α ρ} {s t : σ} {e : ε} : p.run answer s = (.error e, t) ↔
    ∃ question next m, Leads answer p s (.ask question next) m ∧
      answer question m = (.error e, t) := by
  constructor
  · intro h
    induction p generalizing s with
    | done result => cases h
    | ask question next ih =>
      obtain ⟨reply, m, hm⟩ : ∃ reply m, answer question s = (reply, m) := ⟨_, _, rfl⟩
      cases reply with
      | ok a =>
        rw [run_ask_ok hm] at h
        obtain ⟨question', next', m', hl, he⟩ := ih a h
        exact ⟨question', next', m', .step hm hl, he⟩
      | error e' =>
        rw [run_ask_error hm] at h
        obtain ⟨he, rfl⟩ := Prod.mk.inj h
        obtain rfl := Except.error.inj he
        exact ⟨question, next, s, .refl _ _, hm⟩
  · intro h
    obtain ⟨question, next, m, hl, he⟩ := h
    rw [hl.run_eq, run_ask_error he]

end Asking

end VerityVerifier.Library
