import Mathlib.Logic.Basic

/-!
# Runs of a step function

A system is a partial step function: an action is enabled in a state, and leads
to the next one, or it is refused. A run folds the step over a list of actions.
Invariants and guarded step properties are proved once per step here and lifted to
whole runs.
-/
namespace VerityVerifier.Library.Runs

variable {σ α : Type*} (step : σ → α → Option σ)

/-- The state a list of actions leads to, when every one of them is enabled. -/
def run : σ → List α → Option σ
  | s, [] => some s
  | s, a :: as => (step s a).bind fun s' => run s' as

/-- `G` holds of every step along the run, in the state before that step. -/
def Along (G : σ → α → Prop) : σ → List α → Prop
  | _, [] => True
  | s, a :: as => G s a ∧ ∀ s', step s a = some s' → Along G s' as

@[simp] theorem run_nil (s : σ) : run step s [] = some s := rfl

theorem run_cons_iff {s s' : σ} {a : α} {as : List α} :
    run step s (a :: as) = some s' ↔ ∃ m, step s a = some m ∧ run step m as = some s' := by
  simp only [run, Option.bind_eq_some_iff]

variable {step}

theorem run_append_iff {s s' : σ} {as bs : List α} :
    run step s (as ++ bs) = some s' ↔ ∃ m, run step s as = some m ∧ run step m bs = some s' := by
  induction as generalizing s with
  | nil => simp only [List.nil_append, run_nil, Option.some.injEq, exists_eq_left']
  | cons a as ih =>
    rw [List.cons_append, run_cons_iff]
    simp only [run_cons_iff, ih]
    constructor
    · intro h
      obtain ⟨n, hn, m, hm, hr⟩ := h
      exact ⟨m, ⟨n, hn, hm⟩, hr⟩
    · intro h
      obtain ⟨m, ⟨n, hn, hm⟩, hr⟩ := h
      exact ⟨n, hn, m, hm, hr⟩

/-- A run is empty, or has a last step. -/
theorem run_last {s s' : σ} {as : List α} (h : run step s as = some s') :
    as = [] ∧ s = s' ∨
      ∃ front a m, as = front ++ [a] ∧ run step s front = some m ∧ step m a = some s' := by
  rcases List.eq_nil_or_concat as with rfl | ⟨front, a, rfl⟩
  · exact .inl ⟨rfl, Option.some.inj h⟩
  · rw [List.concat_eq_append] at h ⊢
    obtain ⟨m, hfront, hlast⟩ := run_append_iff.mp h
    obtain ⟨_, hs, he⟩ := (run_cons_iff step).mp hlast
    obtain rfl := Option.some.inj he
    exact .inr ⟨front, a, m, rfl, hfront, hs⟩

theorem along_cons_iff {G : σ → α → Prop} {s s' : σ} {a : α} {as : List α}
    (h : step s a = some s') : Along step G s (a :: as) ↔ G s a ∧ Along step G s' as := by
  constructor
  · intro ha
    exact ⟨ha.1, ha.2 s' h⟩
  · intro ha
    refine ⟨ha.1, fun m hm => ?_⟩
    obtain rfl : s' = m := Option.some.inj (h.symm.trans hm)
    exact ha.2

/-- What holds along a run holds along the rest of it. -/
theorem along_of_append {G : σ → α → Prop} {s m : σ} {as bs : List α}
    (h : Along step G s (as ++ bs)) (hr : run step s as = some m) : Along step G m bs := by
  induction as generalizing s with
  | nil =>
    obtain rfl := Option.some.inj hr
    exact h
  | cons a as ih =>
    obtain ⟨s', hs, hr⟩ := (run_cons_iff step).mp hr
    exact ih (h.2 s' hs) hr

/-- A property kept by every step is kept by every run. -/
theorem run_invariant {Inv : σ → Prop}
    (hstep : ∀ s a s', Inv s → step s a = some s' → Inv s')
    {s s' : σ} {as : List α} (hs : Inv s) (hr : run step s as = some s') : Inv s' := by
  induction as generalizing s with
  | nil =>
    obtain rfl := Option.some.inj hr
    exact hs
  | cons a as ih =>
    obtain ⟨m, hm, hr⟩ := (run_cons_iff step).mp hr
    exact ih (hstep s a m hs hm) hr

/-- A property kept by every step that meets its guard is kept by every run whose steps do. -/
theorem run_invariant_along {Inv : σ → Prop} {G : σ → α → Prop}
    (hstep : ∀ s a s', Inv s → G s a → step s a = some s' → Inv s')
    {s s' : σ} {as : List α} (hs : Inv s) (ha : Along step G s as)
    (hr : run step s as = some s') : Inv s' := by
  induction as generalizing s with
  | nil =>
    obtain rfl := Option.some.inj hr
    exact hs
  | cons a as ih =>
    obtain ⟨m, hm, hr⟩ := (run_cons_iff step).mp hr
    exact ih (hstep s a m hs ha.1 hm) (ha.2 m hm) hr

/-- A step property that the invariant gives in the state before the step holds
along every run. -/
theorem along_of_invariant {Inv : σ → Prop} {G H : σ → α → Prop}
    (hstep : ∀ s a s', Inv s → step s a = some s' → Inv s')
    (hG : ∀ s a, Inv s → G s a → H s a)
    {s : σ} {as : List α} (hs : Inv s) (ha : Along step G s as) : Along step H s as := by
  induction as generalizing s with
  | nil => trivial
  | cons a as ih =>
    obtain ⟨h, hrest⟩ := ha
    exact ⟨hG s a hs h, fun s' hs' => ih (hstep s a s' hs hs') (hrest s' hs')⟩

/-- Where every step of one system is a run of another, every run of it is. -/
theorem run_simulation {τ β : Type*} {coarse : τ → β → Option τ} {Inv : σ → Prop} (view : σ → τ)
    (hsim : ∀ s a s', Inv s → step s a = some s' →
      Inv s' ∧ ∃ bs, run coarse (view s) bs = some (view s'))
    {s s' : σ} {as : List α} (hs : Inv s) (hr : run step s as = some s') :
    ∃ bs, run coarse (view s) bs = some (view s') := by
  induction as generalizing s with
  | nil =>
    obtain rfl := Option.some.inj hr
    exact ⟨[], rfl⟩
  | cons a as ih =>
    obtain ⟨m, hm, hr⟩ := (run_cons_iff step).mp hr
    obtain ⟨hinv, bs, hbs⟩ := hsim s a m hs hm
    obtain ⟨cs, hcs⟩ := ih hinv hr
    exact ⟨bs ++ cs, run_append_iff.mpr ⟨_, hbs, hcs⟩⟩

end VerityVerifier.Library.Runs
