import Mathlib.Data.List.AList

/-!
# Bounded maps with an arbitrary victim

A finite map that makes room by dropping whatever key its iterator yields first. The
iteration order is not specified, so the victim is an input; the bound and what an
insertion leaves alone hold for every choice of it.
-/
namespace VerityVerifier.Library.Bounded

variable {κ ν : Type} [DecidableEq κ]

abbrev Map (κ ν : Type) [DecidableEq κ] := AList fun _ : κ => ν

def size (m : Map κ ν) : Nat := m.keys.length

/-- What `keys().next()` can yield: some key, and nothing exactly for the empty map. -/
def IsNext (m : Map κ ν) : Option κ → Prop
  | some victim => victim ∈ m
  | none => size m = 0

instance (m : Map κ ν) (next : Option κ) : Decidable (IsNext m next) := by
  cases next with
  | none => exact inferInstanceAs (Decidable (size m = 0))
  | some victim => exact inferInstanceAs (Decidable (victim ∈ m))

def remove (m : Map κ ν) : Option κ → Map κ ν
  | some victim => m.erase victim
  | none => m

/-- Insert a value, dropping the next key first when a new one would not fit. -/
def place (capacity : Nat) (m : Map κ ν) (next : Option κ) (key : κ) (value : ν) : Map κ ν :=
  if capacity ≤ size m ∧ key ∉ m then (remove m next).insert key value
  else m.insert key value

variable {capacity : Nat} {m : Map κ ν} {next : Option κ} {key k : κ} {value : ν}

theorem size_insert_of_mem (h : key ∈ m) : size (m.insert key value) = size m := by
  have hk : key ∈ m.keys := h
  have hp := List.length_pos_of_mem hk
  rw [size, size, AList.keys_insert, List.length_cons, List.length_erase_of_mem hk]
  omega

theorem size_insert_le (m : Map κ ν) (key : κ) (value : ν) :
    size (m.insert key value) ≤ size m + 1 := by
  have hl := List.length_erase_le (a := key) (l := m.keys)
  rw [size, size, AList.keys_insert, List.length_cons]
  omega

theorem size_erase (h : k ∈ m) : size (m.erase k) + 1 = size m := by
  have hk : k ∈ m.keys := h
  have hp := List.length_pos_of_mem hk
  rw [size, size, AList.keys_erase, List.length_erase_of_mem hk]
  omega

/-- The bound is kept by every insertion, whatever is dropped. -/
theorem size_place_le (hc : 0 < capacity) (hm : size m ≤ capacity) (hn : IsNext m next) :
    size (place capacity m next key value) ≤ capacity := by
  unfold place
  by_cases hfull : capacity ≤ size m ∧ key ∉ m
  · rw [if_pos hfull]
    cases next with
    | none =>
      have hz : size m = 0 := hn
      omega
    | some victim =>
      have hv := size_erase (m := m) hn
      have hi := size_insert_le (m.erase victim) key value
      show size ((m.erase victim).insert key value) ≤ capacity
      omega
  · rw [if_neg hfull]
    by_cases hk : key ∈ m
    · rw [size_insert_of_mem hk]
      exact hm
    · have hlt : size m < capacity := by
        by_contra hge
        exact hfull ⟨by omega, hk⟩
      have hi := size_insert_le m key value
      omega

@[simp] theorem lookup_place_self : (place capacity m next key value).lookup key = some value := by
  unfold place
  split
  · exact AList.lookup_insert _
  · exact AList.lookup_insert _

/-- Every other key keeps its value, but for one victim that is dropped to make room. -/
theorem lookup_place_of_ne (hk : k ≠ key) (capacity : Nat) (m : Map κ ν) (next : Option κ)
    (value : ν) :
    (place capacity m next key value).lookup k = m.lookup k ∨
      (place capacity m next key value).lookup k = none ∧ next = some k ∧
        capacity ≤ size m ∧ key ∉ m := by
  unfold place
  by_cases hfull : capacity ≤ size m ∧ key ∉ m
  · rw [if_pos hfull, AList.lookup_insert_ne hk]
    cases next with
    | none => exact .inl rfl
    | some victim =>
      by_cases hv : k = victim
      · subst hv
        exact .inr ⟨AList.lookup_erase k m, rfl, hfull⟩
      · exact .inl (AList.lookup_erase_ne hv)
  · rw [if_neg hfull, AList.lookup_insert_ne hk]
    exact .inl rfl

/-- A value of the new map is the inserted one, or was there before. -/
theorem lookup_place {v : ν} (h : (place capacity m next key value).lookup k = some v) :
    (k = key ∧ v = value) ∨ m.lookup k = some v := by
  by_cases hk : k = key
  · subst hk
    rw [lookup_place_self] at h
    exact .inl ⟨rfl, (Option.some.inj h).symm⟩
  · rcases lookup_place_of_ne hk capacity m next value with hl | ⟨hl, -⟩
    · rw [hl] at h
      exact .inr h
    · rw [hl] at h
      cases h

/-- What the values weigh together. -/
def weight (w : ν → Nat) (m : Map κ ν) : Nat := m.entries.foldr (fun e rest => w e.2 + rest) 0

theorem weight_le {w : ν → Nat} {bound : Nat} (h : ∀ k v, m.lookup k = some v → w v ≤ bound) :
    weight w m ≤ size m * bound := by
  have hentries : ∀ e ∈ m.entries, w e.2 ≤ bound := fun e he =>
    h e.1 e.2 (AList.mem_lookup_iff.mpr he)
  have hsize : size m = m.entries.length := List.length_map _
  rw [hsize, weight]
  clear hsize
  generalize m.entries = entries at hentries
  induction entries with
  | nil => exact Nat.zero_le _
  | cons e entries ih =>
    have hhead := hentries e List.mem_cons_self
    have htail := ih fun e' he => hentries e' (List.mem_cons_of_mem e he)
    rw [List.foldr_cons, List.length_cons, Nat.succ_mul]
    omega

end VerityVerifier.Library.Bounded
