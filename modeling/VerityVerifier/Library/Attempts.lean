import Mathlib.Init

/-!
# The first success among effectful attempts

Attempts of an arbitrary monad are made in order until one succeeds. Grouping them
changes nothing, and an attempt behind the first success is never made.
-/
namespace VerityVerifier.Library.Attempts

variable {m : Type → Type} {ε α β ι σ : Type}

/-- Success is kept, and an error is handed on. -/
def orElse [Monad m] (next : ε → m (Except ε α)) : Except ε α → m (Except ε α)
  | .ok a => pure (.ok a)
  | .error e => next e

/-- The first success, or the error of the last attempt. -/
def firstOk [Monad m] : List (m (Except ε α)) → ε → m (Except ε α)
  | [], last => pure (.error last)
  | attempt :: rest, _ => attempt >>= orElse (firstOk rest)

theorem firstOk_singleton [Monad m] [LawfulMonad m] (attempt : m (Except ε α)) (last : ε) :
    firstOk [attempt] last = attempt := by
  have hk : orElse (firstOk []) = (pure : Except ε α → m (Except ε α)) := by
    funext r
    cases r <;> rfl
  unfold firstOk
  rw [hk, bind_pure]

theorem firstOk_append [Monad m] [LawfulMonad m] (front back : List (m (Except ε α))) (last : ε) :
    firstOk (front ++ back) last = firstOk front last >>= orElse (firstOk back) := by
  induction front generalizing last with
  | nil =>
    rw [firstOk, pure_bind]
    rfl
  | cons attempt front ih =>
    rw [List.cons_append, firstOk, firstOk, bind_assoc]
    congr 1
    funext r
    cases r with
    | ok a =>
      rw [orElse, orElse, pure_bind]
      rfl
    | error e => exact ih e

/-! ## Which attempts are made -/

/-- An attempt that leaves its label in a log. -/
def logged [Monad m] (label : ι) (attempt : m β) : StateT (List ι) m β := do
  modify (· ++ [label])
  attempt

theorem logged_run [Monad m] [LawfulMonad m] (label : ι) (attempt : m β) (log : List ι) :
    (logged label attempt).run log = (fun b => (b, log ++ [label])) <$> attempt := by
  simp [logged]

/-- Attempts that all fail, one after the other, and take a world to another. -/
inductive Failing : List (StateM σ (Except ε α)) → σ → σ → Prop where
  | nil {w : σ} : Failing [] w w
  | cons {attempt : StateM σ (Except ε α)} {rest : List (StateM σ (Except ε α))} {e : ε}
      {w w' w'' : σ} : attempt.run w = (.error e, w') → Failing rest w' w'' →
      Failing (attempt :: rest) w w''

section

variable {attempt : StateM σ (Except ε α)} {a : α} {e last : ε} {w w' : σ}

theorem firstOk_run_ok {rest : List (StateM σ (Except ε α))} (h : attempt.run w = (.ok a, w')) :
    (firstOk (attempt :: rest) last).run w = (.ok a, w') := by
  rw [firstOk, StateT.run_bind, h]
  rfl

theorem firstOk_run_error {rest : List (StateM σ (Except ε α))}
    (h : attempt.run w = (.error e, w')) :
    (firstOk (attempt :: rest) last).run w = (firstOk rest e).run w' := by
  rw [firstOk, StateT.run_bind, h]
  rfl

theorem firstOk_logged_ok {label : ι} {log : List ι}
    {rest : List (StateT (List ι) (StateM σ) (Except ε α))} (h : attempt.run w = (.ok a, w')) :
    ((firstOk (logged label attempt :: rest) last).run log).run w =
      ((.ok a, log ++ [label]), w') := by
  rw [firstOk, StateT.run_bind, logged_run, bind_map_left, StateT.run_bind, h]
  rfl

theorem firstOk_logged_error {label : ι} {log : List ι}
    {rest : List (StateT (List ι) (StateM σ) (Except ε α))} (h : attempt.run w = (.error e, w')) :
    ((firstOk (logged label attempt :: rest) last).run log).run w =
      ((firstOk rest e).run (log ++ [label])).run w' := by
  rw [firstOk, StateT.run_bind, logged_run, bind_map_left, StateT.run_bind, h]
  rfl

end

/-- The attempts made, in the order of the log, are the failing ones at the front and the one
behind them, which succeeds or is the last. -/
theorem firstOk_run (attempts : List (ι × StateM σ (Except ε α))) (hne : attempts ≠ [])
    (last : ε) (w : σ) (log : List ι) :
    ∃ before entry after w' answer w'', attempts = before ++ entry :: after ∧
      Failing (before.map Prod.snd) w w' ∧ entry.2.run w' = (answer, w'') ∧
      ((∃ a, answer = .ok a) ∨ after = []) ∧
      (firstOk (attempts.map Prod.snd) last).run w = (answer, w'') ∧
      ((firstOk (attempts.map fun x : ι × StateM σ (Except ε α) => logged x.1 x.2) last).run
        log).run w = ((answer, log ++ (before ++ [entry]).map Prod.fst), w'') := by
  induction attempts generalizing last w log with
  | nil => exact absurd rfl hne
  | cons entry rest ih =>
    obtain ⟨answer, w₁, h⟩ : ∃ answer w₁, entry.2.run w = (answer, w₁) := ⟨_, _, rfl⟩
    cases answer with
    | ok a =>
      refine ⟨[], entry, rest, w, .ok a, w₁, rfl, .nil, h, .inl ⟨a, rfl⟩, ?_, ?_⟩
      · exact firstOk_run_ok h
      · exact firstOk_logged_ok h
    | error e =>
      by_cases hr : rest = []
      · subst hr
        refine ⟨[], entry, [], w, .error e, w₁, rfl, .nil, h, .inr rfl, ?_, ?_⟩
        · exact firstOk_run_error h
        · exact firstOk_logged_error h
      · obtain ⟨before, found, after, w', answer, w'', hs, hf, ha, hstop, hrun, hlog⟩ :=
          ih hr e w₁ (log ++ [entry.1])
        refine ⟨entry :: before, found, after, w', answer, w'', ?_, .cons h hf, ha, hstop, ?_, ?_⟩
        · rw [hs]
          rfl
        · exact (firstOk_run_error h).trans hrun
        · rw [List.append_assoc] at hlog
          exact (firstOk_logged_error h).trans hlog

/-- A success is the success of one of the attempts, in the state that the others left. -/
theorem firstOk_ok_mem {attempts : List (StateM σ (Except ε α))} {last : ε} {a : α} {w w' : σ}
    (h : (firstOk attempts last).run w = (.ok a, w')) :
    ∃ attempt ∈ attempts, ∃ w₁, attempt.run w₁ = (.ok a, w') := by
  induction attempts generalizing last w with
  | nil => cases h
  | cons attempt rest ih =>
    obtain ⟨answer, w₁, ha⟩ : ∃ answer w₁, attempt.run w = (answer, w₁) := ⟨_, _, rfl⟩
    cases answer with
    | ok found =>
      rw [firstOk_run_ok ha] at h
      exact ⟨attempt, List.mem_cons_self, w, ha.trans h⟩
    | error e =>
      rw [firstOk_run_error ha] at h
      obtain ⟨found, hm, w₂, hf⟩ := ih h
      exact ⟨found, List.mem_cons_of_mem attempt hm, w₂, hf⟩

end VerityVerifier.Library.Attempts
