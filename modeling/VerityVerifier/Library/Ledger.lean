import Mathlib.Data.List.Nodup

/-!
# Ledgers of keyed results

A ledger is a list of records, each a key with its result. A key may be recorded
more than once; the dominating scan lets a result that does not pass win over
every one that does.
-/
namespace VerityVerifier.Library.Ledger

variable {κ ο : Type*} [DecidableEq κ] (pass : ο → Bool)

/-- The scan for one key: `held` is the first pass, kept only until a non-pass appears. -/
def scan (key : κ) : Option ο → List (κ × ο) → Option ο
  | held, [] => held
  | held, (k, o) :: rest =>
    if k ≠ key then scan key held rest
    else if pass o then scan key (held.or (some o)) rest
    else some o

/-- A key that no record names leaves the scan with what it held. -/
theorem scan_absent {key : κ} {records : List (κ × ο)} (h : key ∉ records.map Prod.fst)
    (held : Option ο) : scan pass key held records = held := by
  induction records with
  | nil => rfl
  | cons r rest ih =>
    obtain ⟨k, o⟩ := r
    rw [List.map_cons, List.mem_cons, not_or] at h
    have hk : k ≠ key := fun hk => h.1 hk.symm
    rw [scan, if_pos hk]
    exact ih h.2

/-- In a ledger that records no key twice, the scan finds the one record. -/
theorem scan_of_mem {key : κ} {o : ο} {records : List (κ × ο)}
    (hn : (records.map Prod.fst).Nodup) (hm : (key, o) ∈ records) :
    scan pass key none records = some o := by
  induction records with
  | nil => cases hm
  | cons r rest ih =>
    obtain ⟨k, p⟩ := r
    rw [List.map_cons, List.nodup_cons] at hn
    rcases List.mem_cons.mp hm with he | hm
    · obtain ⟨rfl, rfl⟩ := Prod.mk.inj he
      rw [scan, if_neg (not_not.mpr rfl)]
      split
      · exact scan_absent pass hn.1 _
      · rfl
    · have hk : k ≠ key := by
        intro he
        subst he
        exact hn.1 (List.mem_map.mpr ⟨_, hm, rfl⟩)
      rw [scan, if_pos hk]
      exact ih hn.2 hm

/-- A ledger with one record for each key of a duplicate-free list reads back as a function. -/
theorem scan_graph {keys : List κ} (hk : keys.Nodup) (f : κ → ο) {key : κ} (h : key ∈ keys) :
    scan pass key none (keys.map fun k => (k, f k)) = some (f key) := by
  apply scan_of_mem
  · simpa only [List.map_map, Function.comp_def, List.map_id'] using hk
  · exact List.mem_map.mpr ⟨key, h, rfl⟩

/-! ## The scan as a search -/

/-- The results recorded for one key, in order. -/
def resultsFor (key : κ) (records : List (κ × ο)) : List ο :=
  records.filterMap fun r => if r.1 = key then some r.2 else none

theorem mem_resultsFor {key : κ} {o : ο} {records : List (κ × ο)} :
    o ∈ resultsFor key records ↔ (key, o) ∈ records := by
  unfold resultsFor
  rw [List.mem_filterMap]
  constructor
  · intro h
    obtain ⟨⟨k, p⟩, hm, he⟩ := h
    by_cases hk : k = key
    · rw [if_pos hk] at he
      obtain rfl := Option.some.inj he
      exact hk ▸ hm
    · rw [if_neg hk] at he
      cases he
  · intro h
    exact ⟨_, h, if_pos rfl⟩

/-- The scan is the first result that does not pass, and else the first of all. -/
theorem scan_eq (key : κ) (held : Option ο) (records : List (κ × ο)) :
    scan pass key held records =
      ((resultsFor key records).find? fun o => !pass o).or
        (held.or (resultsFor key records).head?) := by
  induction records generalizing held with
  | nil =>
    rw [scan, resultsFor, List.filterMap_nil, List.find?_nil, List.head?_nil, Option.none_or,
      Option.or_none]
  | cons r rest ih =>
    obtain ⟨k, o⟩ := r
    by_cases hk : k = key
    · have hr : resultsFor key ((k, o) :: rest) = o :: resultsFor key rest := by
        rw [resultsFor, List.filterMap_cons, if_pos hk]
        rfl
      rw [scan, if_neg (not_not.mpr hk), hr, List.head?_cons]
      by_cases hp : pass o = true
      · rw [if_pos hp, ih, List.find?_cons_of_neg (by simp [hp]), Option.or_assoc, Option.some_or]
      · rw [if_neg hp, List.find?_cons_of_pos (by simp [hp]), Option.some_or]
    · have hr : resultsFor key ((k, o) :: rest) = resultsFor key rest := by
        rw [resultsFor, List.filterMap_cons, if_neg hk]
        rfl
      rw [scan, if_pos hk, hr, ih]

/-- The first result that does not pass stands behind passes of its key alone. -/
theorem find?_resultsFor_eq_some_iff {key : κ} {o : ο} {records : List (κ × ο)} :
    ((resultsFor key records).find? fun o => !pass o) = some o ↔
      pass o = false ∧ ∃ earlier later, records = earlier ++ (key, o) :: later ∧
        ∀ p, (key, p) ∈ earlier → pass p = true := by
  simp only [List.find?_eq_some_iff_append, Bool.not_eq_true', Bool.not_not]
  apply and_congr_right
  intro _
  constructor
  · intro h
    obtain ⟨front, back, he, hfront⟩ := h
    obtain ⟨l₁, l₂, rfl, h₁, h₂⟩ := List.filterMap_eq_append_iff.mp he
    obtain ⟨skipped, ⟨k, p⟩, later, rfl, hskip, hk, -⟩ := List.filterMap_eq_cons_iff.mp h₂
    obtain ⟨rfl, hp⟩ := Option.ite_none_right_eq_some.mp hk
    obtain rfl := Option.some.inj hp
    refine ⟨l₁ ++ skipped, later, by rw [List.append_assoc], ?_⟩
    intro q hq
    rcases List.mem_append.mp hq with hq | hq
    · apply hfront
      rw [← h₁]
      exact mem_resultsFor.mpr hq
    · have hnone := hskip _ hq
      rw [if_pos rfl] at hnone
      cases hnone
  · intro h
    obtain ⟨earlier, later, rfl, hpass⟩ := h
    refine ⟨resultsFor key earlier, resultsFor key later, ?_, fun p hp => ?_⟩
    · rw [resultsFor, List.filterMap_append, List.filterMap_cons, if_pos rfl]
      rfl
    · exact hpass p (mem_resultsFor.mp hp)

theorem scan_eq_none_iff {key : κ} {records : List (κ × ο)} :
    scan pass key none records = none ↔ ∀ o, (key, o) ∉ records := by
  rw [scan_eq, Option.none_or, Option.or_eq_none_iff, List.head?_eq_none_iff]
  constructor
  · intro h o ho
    have hm := mem_resultsFor.mpr ho
    rw [h.2] at hm
    cases hm
  · intro h
    have hr : resultsFor key records = [] :=
      List.eq_nil_iff_forall_not_mem.mpr fun o ho => h o (mem_resultsFor.mp ho)
    rw [hr]
    exact ⟨rfl, rfl⟩

/-- A pass is read back exactly when the key has a record and every one of them passes. -/
theorem scan_any_iff {key : κ} {records : List (κ × ο)} :
    (scan pass key none records).any pass = true ↔
      (∃ o, (key, o) ∈ records) ∧ ∀ o, (key, o) ∈ records → pass o = true := by
  rw [scan_eq, Option.none_or]
  cases hf : (resultsFor key records).find? fun o => !pass o with
  | some o =>
    have hp : pass o = false := by simpa using List.find?_some hf
    have hm := mem_resultsFor.mp (List.mem_of_find?_eq_some hf)
    rw [Option.some_or, Option.any_some, hp]
    constructor
    · intro h
      cases h
    · intro h
      rw [h.2 o hm] at hp
      cases hp
  | none =>
    have hall : ∀ o, (key, o) ∈ records → pass o = true := by
      intro o ho
      simpa using List.find?_eq_none.mp hf o (mem_resultsFor.mpr ho)
    rw [Option.none_or]
    cases hr : (resultsFor key records).head? with
    | none =>
      have hnil := List.head?_eq_none_iff.mp hr
      constructor
      · intro h
        cases h
      · intro h
        obtain ⟨⟨o, ho⟩, -⟩ := h
        have hm := mem_resultsFor.mpr ho
        rw [hnil] at hm
        cases hm
    | some o =>
      have ho := mem_resultsFor.mp (List.mem_of_head? hr)
      rw [Option.any_some]
      constructor
      · intro _
        exact ⟨⟨o, ho⟩, hall⟩
      · intro _
        exact hall o ho

end VerityVerifier.Library.Ledger
