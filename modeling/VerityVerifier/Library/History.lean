import Mathlib.Data.List.Infix

/-!
# Histories

A history is the list of the events of a run, the newest first. It is lawful when
every event was allowed by the events before it. A rule about the past of an event
then holds at every place of a lawful history.
-/
namespace VerityVerifier.Library.History

variable {ε : Type*} {ok : List ε → ε → Prop}

/-- Every event is allowed by its past. -/
def Lawful (ok : List ε → ε → Prop) : List ε → Prop
  | [] => True
  | e :: past => ok past e ∧ Lawful ok past

theorem Lawful.of_suffix {e : ε} {past history : List ε} (h : Lawful ok history)
    (hs : e :: past <:+ history) : ok past e := by
  induction history with
  | nil => exact absurd (List.suffix_nil.mp hs) (List.cons_ne_nil e past)
  | cons newest older ih =>
    rcases List.suffix_cons_iff.mp hs with heq | hs
    · obtain ⟨rfl, rfl⟩ := List.cons.inj heq
      exact h.1
    · exact ih h.2 hs

theorem Lawful.suffix {past history : List ε} (h : Lawful ok history) (hs : past <:+ history) :
    Lawful ok past := by
  induction history with
  | nil =>
    rw [List.suffix_nil.mp hs]
    exact h
  | cons newest older ih =>
    rcases List.suffix_cons_iff.mp hs with rfl | hs
    · exact h
    · exact ih h.2 hs

/-- An event of a lawful history was allowed by some earlier part of it. -/
theorem Lawful.of_mem {e : ε} {history : List ε} (h : Lawful ok history) (he : e ∈ history) :
    ∃ past, e :: past <:+ history ∧ ok past e := by
  obtain ⟨newer, past, rfl⟩ := List.append_of_mem he
  have hs : e :: past <:+ newer ++ e :: past := List.suffix_append _ _
  exact ⟨past, hs, h.of_suffix hs⟩

theorem mem_of_suffix {e d : ε} {past history : List ε} (hs : e :: past <:+ history)
    (hd : d ∈ past) : d ∈ history :=
  hs.subset (List.mem_cons_of_mem e hd)

end VerityVerifier.Library.History
