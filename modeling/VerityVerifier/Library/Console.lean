import VerityVerifier.Library.Fallible

/-!
# Programs that print and may stop

A run is the lines a program printed and how it ended. A program that stops keeps what it
printed before, and prints nothing after.
-/
namespace VerityVerifier.Library.Console

open VerityVerifier.Library.Fallible

/-- A line of output and the stream it goes to. -/
inductive Line where
  | out (text : String)
  | err (text : String)
  deriving DecidableEq

/-- What a program printed, in order, and how it ended. -/
structure Ran (ε α : Type) where
  lines : List Line
  result : Except ε α

namespace Ran

variable {ε α β : Type}

instance : Monad (Ran ε) where
  pure a := ⟨[], .ok a⟩
  bind x f :=
    match x.result with
    | .ok a => ⟨x.lines ++ (f a).lines, (f a).result⟩
    | .error e => ⟨x.lines, .error e⟩

/-- A computation that prints nothing. -/
def silent (x : Except ε α) : Ran ε α := ⟨[], x⟩

def println (text : String) : Ran ε Unit := ⟨[.out text], .ok ()⟩

def eprintln (text : String) : Ran ε Unit := ⟨[.err text], .ok ()⟩

def stop (e : ε) : Ran ε α := ⟨[], .error e⟩

/-- A loop that prints something for each element. -/
def forEach (body : α → Ran ε Unit) : List α → Ran ε Unit
  | [] => pure ()
  | a :: rest => do
    body a
    forEach body rest

/-- How a program whose value is its exit ends. -/
def exit (x : Ran ε ε) : ε :=
  match x.result with
  | .ok e => e
  | .error e => e

@[simp] theorem result_pure (a : α) : (pure a : Ran ε α).result = .ok a := rfl

@[simp] theorem result_silent (x : Except ε α) : (silent x).result = x := rfl

@[simp] theorem result_println (text : String) : (println text : Ran ε Unit).result = .ok () := rfl

@[simp] theorem result_eprintln (text : String) :
    (eprintln text : Ran ε Unit).result = .ok () := rfl

@[simp] theorem result_stop (e : ε) : (stop e : Ran ε α).result = .error e := rfl

@[simp] theorem result_bind (x : Ran ε α) (f : α → Ran ε β) :
    (x >>= f).result = x.result >>= fun a => (f a).result := by
  show (match x.result with
    | .ok a => (⟨x.lines ++ (f a).lines, (f a).result⟩ : Ran ε β)
    | .error e => ⟨x.lines, .error e⟩).result = _
  cases x.result <;> rfl

theorem bind_ok {x : Ran ε α} {f : α → Ran ε β} {b : β} : (x >>= f).result = .ok b ↔
    ∃ a, x.result = .ok a ∧ (f a).result = .ok b := by
  rw [result_bind, bind_ok_iff]

/-- A program stops in its first part, or in the rest of it. -/
theorem bind_error {x : Ran ε α} {f : α → Ran ε β} {e : ε} : (x >>= f).result = .error e ↔
    x.result = .error e ∨ ∃ a, x.result = .ok a ∧ (f a).result = .error e := by
  rw [result_bind, bind_error_iff]

theorem lines_bind (x : Ran ε α) (f : α → Ran ε β) : (x >>= f).lines =
    x.lines ++ match x.result with
      | .ok a => (f a).lines
      | .error _ => [] := by
  show (match x.result with
    | .ok a => (⟨x.lines ++ (f a).lines, (f a).result⟩ : Ran ε β)
    | .error e => ⟨x.lines, .error e⟩).lines = _
  cases x.result with
  | ok a => rfl
  | error e => exact (List.append_nil x.lines).symm

theorem exit_iff {x : Ran ε ε} {e : ε} : x.exit = e ↔ x.result = .ok e ∨ x.result = .error e := by
  unfold exit
  cases x.result with
  | ok a => simp
  | error a => simp

/-- A loop over bodies that do not stop does not stop. -/
theorem result_forEach {body : α → Ran ε Unit} (h : ∀ a, (body a).result = .ok ()) (l : List α) :
    (forEach body l).result = .ok () := by
  induction l with
  | nil => rfl
  | cons a rest ih =>
    rw [forEach, result_bind, h a, ok_bind]
    exact ih

end Ran

end VerityVerifier.Library.Console
