import VerityVerifier.Library.Numeral
import VerityVerifier.Library.Split

/-!
# The version floor

An image name is vouched for from version 0.5.6 on. The components that do not read as
numbers are passed over, not refused, and only the 0.5 series is compared with the
floor: the order and the function part in both directions.
-/
namespace VerityVerifier.Core

open VerityVerifier.Library.Text

/-- Whether the minimum dstack version is satisfied. -/
def meetsMinimumVersion (name : String) : Bool :=
  match stripPrefix "dstack-" name with
  | none => false
  | some rest =>
    let parts := (split '.' rest).filterMap parseU32
    match parts[0]?, parts[1]?, parts[2]? with
    | some 0, some 5, some patch => 6 ≤ patch
    | some major, _, _ => 0 < major
    | none, _, _ => false

/-- A dstack version. -/
structure Version where
  major : Nat
  minor : Nat
  patch : Nat
  deriving DecidableEq

namespace Version

/-- Versions are ordered lexicographically. -/
def AtMost (v w : Version) : Prop :=
  v.major < w.major ∨ v.major = w.major ∧
    (v.minor < w.minor ∨ v.minor = w.minor ∧ v.patch ≤ w.patch)

def floor : Version := ⟨0, 5, 6⟩

/-- The name writes out the version: three decimal numerals that fit in 32 bits. -/
def Names (v : Version) (name : String) : Prop :=
  ∃ major minor patch : String, name = "dstack-" ++ major ++ "." ++ minor ++ "." ++ patch ∧
    IsU32 major v.major ∧ IsU32 minor v.minor ∧ IsU32 patch v.patch

/-- A version before 1.0 and past the 0.5 series. -/
def LaterMinor (v : Version) : Prop := v.major = 0 ∧ 5 < v.minor

end Version

/-- What stands between the dots of a name, behind its prefix. -/
def Components (name : String) (components : List String) : Prop :=
  components ≠ [] ∧ (∀ component ∈ components, '.' ∉ component.toList) ∧
    name = "dstack-" ++ ".".intercalate components

/-- Components none of which is a number. -/
def Unnumbered (components : List String) : Prop :=
  ∀ component ∈ components, ∀ n, ¬ SignedU32 component n

/-- Components with a positive number that none stands before, or with 0, 5 and a patch of
at least 6 as the first three numbers. Whatever is no number can stand anywhere, and
whatever is left can follow. -/
inductive Loose : List String → Prop
  | major {junk rest : List String} {first : String} {major : Nat} :
    Unnumbered junk → SignedU32 first major → 0 < major → Loose (junk ++ first :: rest)
  | series {junk junk₁ junk₂ rest : List String} {zero five last : String} {patch : Nat} :
    Unnumbered junk → SignedU32 zero 0 → Unnumbered junk₁ → SignedU32 five 5 →
    Unnumbered junk₂ → SignedU32 last patch → 6 ≤ patch →
    Loose (junk ++ zero :: (junk₁ ++ five :: (junk₂ ++ last :: rest)))

/-- The numbers among the components of a name, in order. -/
def readable (name : String) : Option (List Nat) :=
  (stripPrefix "dstack-" name).map fun rest => (split '.' rest).filterMap parseU32

/-- What the first numbers of an accepted name can be. -/
def Vouches (numbers : List Nat) : Prop :=
  (∃ major rest, numbers = major :: rest ∧ 0 < major) ∨
    ∃ patch rest, numbers = 0 :: 5 :: patch :: rest ∧ 6 ≤ patch

/-- Only the numbers count, whatever stands between them. -/
theorem meetsMinimumVersion_iff {name : String} :
    meetsMinimumVersion name = true ↔ ∃ numbers, readable name = some numbers ∧ Vouches numbers := by
  unfold meetsMinimumVersion readable
  cases stripPrefix "dstack-" name with
  | none => simp
  | some rest =>
    simp only [Option.map_some, Option.some.injEq, exists_eq_left']
    generalize (split '.' rest).filterMap parseU32 = numbers
    unfold Vouches
    cases numbers with
    | nil => simp
    | cons major tail =>
      by_cases hseries : ∃ patch rest, tail = 5 :: patch :: rest
      · obtain ⟨patch, rest, rfl⟩ := hseries
        cases major with
        | zero => simp
        | succ n => simp
      · have hcode : (match (major :: tail)[0]?, (major :: tail)[1]?, (major :: tail)[2]? with
            | some 0, some 5, some patch => decide (6 ≤ patch)
            | some major, _, _ => decide (0 < major)
            | none, _, _ => false) = decide (0 < major) := by
          split
          · rename_i patch h0 h1 h2
            exfalso
            apply hseries
            cases tail with
            | nil => simp at h1
            | cons minor tail =>
              cases tail with
              | nil => simp at h2
              | cons p rest =>
                obtain rfl : minor = 5 := by simpa using h1
                exact ⟨p, rest, rfl⟩
          · rename_i h _
            obtain rfl : major = _ := by simpa using h
            rfl
          · rename_i h
            simp at h
        rw [hcode, decide_eq_true_eq]
        constructor
        · intro h
          exact .inl ⟨major, tail, rfl, h⟩
        · intro h
          obtain ⟨m, rest, he, hm⟩ | ⟨patch, rest, he, -⟩ := h
          · rwa [(List.cons.inj he).1]
          · exact absurd ⟨patch, rest, (List.cons.inj he).2⟩ hseries

theorem readable_iff {name : String} {numbers : List Nat} : readable name = some numbers ↔
    ∃ components, Components name components ∧ components.filterMap parseU32 = numbers := by
  unfold readable
  rw [Option.map_eq_some_iff]
  constructor
  · intro h
    obtain ⟨rest, hrest, hnumbers⟩ := h
    obtain ⟨hne, hdot, hjoin⟩ := split_eq_iff.mp (Eq.refl (split '.' rest))
    refine ⟨split '.' rest, ⟨hne, hdot, ?_⟩, hnumbers⟩
    have hname := stripPrefix_eq_some_iff.mp hrest
    rw [← String.toList_append, String.toList_inj] at hname
    exact hname.trans (congrArg ("dstack-" ++ ·) hjoin)
  · intro h
    obtain ⟨components, ⟨hne, hdot, rfl⟩, hnumbers⟩ := h
    refine ⟨".".intercalate components, ?_, ?_⟩
    · apply stripPrefix_eq_some_iff.mpr
      rw [String.toList_append]
    · have hsplit : split '.' (".".intercalate components) = components :=
        split_eq_iff.mpr ⟨hne, hdot, rfl⟩
      rw [hsplit, hnumbers]

/-- The numbers begin with `n` where the first component that is a number is one for `n`. -/
theorem numbers_eq_cons_iff {components : List String} {n : Nat} {numbers : List Nat} :
    components.filterMap parseU32 = n :: numbers ↔
      ∃ junk component rest, components = junk ++ component :: rest ∧ Unnumbered junk ∧
        SignedU32 component n ∧ rest.filterMap parseU32 = numbers := by
  rw [List.filterMap_eq_cons_iff]
  simp only [parseU32_eq_none_iff, parseU32_eq_some_iff, Unnumbered]

theorem numbers_of_unnumbered {junk rest : List String} {component : String} {n : Nat}
    (hjunk : Unnumbered junk) (hn : SignedU32 component n) :
    (junk ++ component :: rest).filterMap parseU32 = n :: rest.filterMap parseU32 :=
  numbers_eq_cons_iff.mpr ⟨junk, component, rest, rfl, hjunk, hn, rfl⟩

theorem loose_iff_vouches {components : List String} :
    Loose components ↔ Vouches (components.filterMap parseU32) := by
  unfold Vouches
  constructor
  · intro h
    cases h with
    | major hjunk hfirst hpos =>
      rw [numbers_of_unnumbered hjunk hfirst]
      exact .inl ⟨_, _, rfl, hpos⟩
    | series hjunk hzero hjunk₁ hfive hjunk₂ hlast hle =>
      rw [numbers_of_unnumbered hjunk hzero, numbers_of_unnumbered hjunk₁ hfive,
        numbers_of_unnumbered hjunk₂ hlast]
      exact .inr ⟨_, _, rfl, hle⟩
  · intro h
    obtain ⟨major, rest, he, hpos⟩ | ⟨patch, rest, he, hle⟩ := h
    · obtain ⟨junk, first, tail, rfl, hjunk, hfirst, -⟩ := numbers_eq_cons_iff.mp he
      exact .major hjunk hfirst hpos
    · obtain ⟨junk, zero, tail, rfl, hjunk, hzero, he₁⟩ := numbers_eq_cons_iff.mp he
      obtain ⟨junk₁, five, tail₁, rfl, hjunk₁, hfive, he₂⟩ := numbers_eq_cons_iff.mp he₁
      obtain ⟨junk₂, last, tail₂, rfl, hjunk₂, hlast, -⟩ := numbers_eq_cons_iff.mp he₂
      exact .series hjunk hzero hjunk₁ hfive hjunk₂ hlast hle

/-- What the function accepts, as a grammar of names. -/
theorem meetsMinimumVersion_iff_loose {name : String} :
    meetsMinimumVersion name = true ↔
      ∃ components, Components name components ∧ Loose components := by
  rw [meetsMinimumVersion_iff]
  constructor
  · intro h
    obtain ⟨numbers, hr, hv⟩ := h
    obtain ⟨components, hc, rfl⟩ := readable_iff.mp hr
    exact ⟨components, hc, loose_iff_vouches.mpr hv⟩
  · intro h
    obtain ⟨components, hc, hl⟩ := h
    exact ⟨_, readable_iff.mpr ⟨components, hc, rfl⟩, loose_iff_vouches.mp hl⟩

theorem isU32_no_dot {s : String} {n : Nat} (h : IsU32 s n) : '.' ∉ s.toList :=
  not_mem_numeral h.1 (by decide)

/-- The numbers of a version name are its three components. -/
theorem Version.Names.readable {v : Version} {name : String} (h : v.Names name) :
    readable name = some [v.major, v.minor, v.patch] := by
  obtain ⟨major, minor, patch, rfl, hM, hm, hp⟩ := h
  have hpre : stripPrefix "dstack-" ("dstack-" ++ major ++ "." ++ minor ++ "." ++ patch) =
      some (major ++ "." ++ (minor ++ "." ++ patch)) := by
    apply stripPrefix_eq_some_iff.mpr
    simp
  have hsplit : split '.' (major ++ "." ++ (minor ++ "." ++ patch)) = [major, minor, patch] := by
    have h₁ : split '.' (major ++ "." ++ (minor ++ "." ++ patch)) = _ :=
      split_append _ (isU32_no_dot hM)
    have h₂ : split '.' (minor ++ "." ++ patch) = _ := split_append _ (isU32_no_dot hm)
    rw [h₁, h₂, split_of_not_mem (isU32_no_dot hp)]
  rw [Core.readable, hpre, Option.map_some, hsplit]
  simp [parseU32_of_isU32 hM, parseU32_of_isU32 hm, parseU32_of_isU32 hp]

theorem Version.Names.unique {v w : Version} {name : String} (hv : v.Names name)
    (hw : w.Names name) : v = w := by
  have h := hv.readable.symm.trans hw.readable
  simp only [Option.some.injEq, List.cons.injEq, and_true] at h
  obtain ⟨hM, hm, hp⟩ := h
  cases v
  cases w
  simp_all

theorem Version.floor_atMost_iff {v : Version} : Version.floor.AtMost v ↔
    0 < v.major ∨ v.major = 0 ∧ (5 < v.minor ∨ v.minor = 5 ∧ 6 ≤ v.patch) := by
  show 0 < v.major ∨ 0 = v.major ∧ (5 < v.minor ∨ 5 = v.minor ∧ 6 ≤ v.patch) ↔ _
  omega

/-- Of the version names, those past 0.5 and before 1.0 are not compared with the floor. -/
theorem Version.Names.meets_iff {v : Version} {name : String} (h : v.Names name) :
    meetsMinimumVersion name = true ↔ Version.floor.AtMost v ∧ ¬ v.LaterMinor := by
  rw [meetsMinimumVersion_iff, h.readable, Version.floor_atMost_iff]
  simp only [Option.some.injEq, exists_eq_left', Vouches, List.cons.injEq]
  unfold Version.LaterMinor
  constructor
  · intro hv
    obtain ⟨major, rest, ⟨rfl, -⟩, hpos⟩ | ⟨patch, rest, ⟨hM, hm, rfl, -⟩, hle⟩ := hv
    · omega
    · omega
  · intro hv
    by_cases hpos : 0 < v.major
    · exact .inl ⟨v.major, _, ⟨rfl, rfl⟩, hpos⟩
    · exact .inr ⟨v.patch, [], ⟨by omega, by omega, rfl, rfl⟩, by omega⟩

/-- The specification: the name of a version that is at least the floor. -/
def NamesSupported (name : String) : Prop :=
  ∃ v : Version, v.Names name ∧ Version.floor.AtMost v

theorem Version.Names.supported_iff {v : Version} {name : String} (h : v.Names name) :
    NamesSupported name ↔ Version.floor.AtMost v := by
  constructor
  · intro hs
    obtain ⟨w, hw, hle⟩ := hs
    rwa [h.unique hw]
  · exact fun hle => ⟨v, h, hle⟩

theorem Version.Names.order_iff {v : Version} {name : String} (h : v.Names name) :
    (meetsMinimumVersion name = true ↔ NamesSupported name) ↔ ¬ v.LaterMinor := by
  rw [h.meets_iff, h.supported_iff]
  constructor
  · intro heq hl
    have hfloor : Version.floor.AtMost v := Version.floor_atMost_iff.mpr (.inr ⟨hl.1, .inl hl.2⟩)
    exact (heq.mpr hfloor).2 hl
  · intro hl
    exact ⟨fun hc => hc.1, fun hle => ⟨hle, hl⟩⟩

/-- A name that is no version is treated as one exactly where its components are loose. -/
theorem order_iff_of_unnamed {name : String} (h : ¬ ∃ v : Version, v.Names name) :
    (meetsMinimumVersion name = true ↔ NamesSupported name) ↔
      ¬ ∃ components, Components name components ∧ Loose components := by
  have hspec : ¬ NamesSupported name := by
    intro hs
    obtain ⟨v, hv, -⟩ := hs
    exact h ⟨v, hv⟩
  rw [meetsMinimumVersion_iff_loose]
  exact iff_false_right hspec

/-- A later version is accepted with an earlier one unless it is past 0.5 and before 1.0. -/
theorem meetsMinimumVersion_mono_iff {v w : Version} {older newer : String} (hv : v.Names older)
    (hw : w.Names newer) (hle : v.AtMost w) :
    (meetsMinimumVersion older = true → meetsMinimumVersion newer = true) ↔
      ¬ (v.major = 0 ∧ v.minor = 5 ∧ 6 ≤ v.patch ∧ w.LaterMinor) := by
  rw [hv.meets_iff, hw.meets_iff, Version.floor_atMost_iff, Version.floor_atMost_iff]
  unfold Version.AtMost at hle
  unfold Version.LaterMinor
  omega

/-- The function is the version order exactly on the version names that are not past 0.5 and
before 1.0, and on the other names whose components are not loose; the order is kept from one
version to a later one except from the 0.5 series to a later minor. -/
theorem meetsMinimumVersion_order_iff (name : String) :
    ((meetsMinimumVersion name = true ↔ NamesSupported name) ↔
      (∃ v : Version, v.Names name ∧ ¬ v.LaterMinor) ∨
      (¬ ∃ v : Version, v.Names name) ∧
        ¬ ∃ components, Components name components ∧ Loose components) ∧
    ∀ (v w : Version) (newer : String), v.Names name → w.Names newer → v.AtMost w →
      ((meetsMinimumVersion name = true → meetsMinimumVersion newer = true) ↔
        ¬ (v.major = 0 ∧ v.minor = 5 ∧ 6 ≤ v.patch ∧ w.LaterMinor)) := by
  refine ⟨?_, fun v w newer hv hw hle => meetsMinimumVersion_mono_iff hv hw hle⟩
  by_cases hn : ∃ v : Version, v.Names name
  · obtain ⟨v, hv⟩ := hn
    rw [hv.order_iff]
    constructor
    · exact fun hl => .inl ⟨v, hv, hl⟩
    · intro h
      obtain ⟨w, hw, hl⟩ | ⟨hnone, -⟩ := h
      · rwa [hv.unique hw]
      · exact absurd ⟨v, hv⟩ hnone
  · rw [order_iff_of_unnamed hn]
    constructor
    · exact fun hv => .inr ⟨hn, hv⟩
    · intro h
      obtain ⟨w, hw, -⟩ | ⟨-, hv⟩ := h
      · exact absurd ⟨w, hw⟩ hn
      · exact hv

/-- A later minor is refused, and a name without its minor and patch is accepted. -/
theorem version_order_broken :
    ¬ (meetsMinimumVersion "dstack-0.6.0" = true ↔ NamesSupported "dstack-0.6.0") ∧
    ¬ (meetsMinimumVersion "dstack-1" = true ↔ NamesSupported "dstack-1") := by
  constructor
  · intro h
    have hn : (⟨0, 6, 0⟩ : Version).Names "dstack-0.6.0" :=
      ⟨"0", "6", "0", by decide, by decide, by decide, by decide⟩
    have hc := h.mpr ⟨_, hn, .inr ⟨rfl, .inl (by decide)⟩⟩
    exact absurd hc (by decide)
  · intro h
    obtain ⟨v, hv, -⟩ := h.mp (by decide)
    have hr : readable "dstack-1" = some [1] := by rfl
    rw [hv.readable] at hr
    simp at hr

end VerityVerifier.Core
