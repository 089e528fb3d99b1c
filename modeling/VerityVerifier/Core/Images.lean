import VerityVerifier.Library.Fallible
import VerityVerifier.Library.Text
import VerityVerifier.Library.Utf8
import VerityVerifier.Core.Platform

/-!
# Image references inside a compose document

An `ImageRef` carries the proof that it is pinned, so a tag cannot become one.
The walk refuses the first service it cannot classify.
-/
namespace VerityVerifier.Core

open VerityVerifier.Library.ByteString
open VerityVerifier.Library.Fallible
open VerityVerifier.Library.Text

variable {κ : Type}

/-- `repo@sha256:<64 hex>`, with nothing before the first `@` but the repository. -/
def Pinned (reference digest : String) : Prop :=
  ∃ repo digits, reference = repo ++ "@sha256:" ++ digits ∧ '@' ∉ repo.toList ∧
    digest = "sha256:" ++ digits ∧ digits.toList.length = 64 ∧
    digits.toList.all isHexdigit = true

/-- A digest-pinned image reference. -/
structure ImageRef where
  reference : String
  digest : String
  pinned : Pinned reference digest

inductive ImageError where
  | notJson (detail : String)
  | missingComposeFile
  | notYaml (detail : String)
  | notPinned (service reference : String)
  | noImage (service : String)
  | noServices
  | licensedDigestAbsent (licensed : String)
  deriving DecidableEq

instance : ToString ImageError where
  toString
    | .notJson detail => s!"compose is not valid JSON: {detail}"
    | .missingComposeFile => "compose has no `docker_compose_file` field"
    | .notYaml detail => s!"embedded docker-compose is not valid YAML: {detail}"
    | .notPinned service reference =>
      s!"service `{service}` references image `{reference}` by tag, not digest"
    | .noImage service => s!"service `{service}` has no image reference"
    | .noServices => "compose declares no services"
    | .licensedDigestAbsent licensed =>
      s!"compose does not reference the licensed image digest `{licensed}`"

theorem pinned_of_splits {reference repo digest algorithm digits : String}
    (ha : splitOnce "@" reference = some (repo, digest))
    (hc : splitOnce ":" digest = some (algorithm, digits))
    (hd : ¬ (algorithm ≠ "sha256" ∨ (utf8 digits).length ≠ 64 ∨
      (utf8 digits).all isAsciiHexdigit ≠ true)) : Pinned reference digest := by
  obtain ⟨rfl, hr⟩ := (splitOnce_char (c := '@')).mp ha
  obtain ⟨rfl, -⟩ := (splitOnce_char (c := ':')).mp hc
  simp only [ne_eq, not_or, not_not] at hd
  obtain ⟨rfl, hl, hh⟩ := hd
  have hall := utf8_all_hexdigit_iff.mp hh
  have hlen := length_utf8_of_hexdigits hall
  refine ⟨repo, digits, ?_, hr, rfl, by omega, hall⟩
  rw [← String.toList_inj]
  simp

/-- Is this reference digest-pinned? -/
def classify (reference : String) : Option ImageRef :=
  match ha : splitOnce "@" reference with
  | none => none
  | some (_, digest) =>
    match hc : splitOnce ":" digest with
    | none => none
    | some (algorithm, digits) =>
      if hd : algorithm ≠ "sha256" ∨ (utf8 digits).length ≠ 64 ∨
          (utf8 digits).all isAsciiHexdigit ≠ true then none
      else some ⟨reference, digest, pinned_of_splits ha hc hd⟩

/-- The loop over the services, with the images found so far. -/
def pinnedServices : List (Yaml × Yaml) → List ImageRef → Except ImageError (List ImageRef)
  | [], found => .ok found
  | (name, body) :: rest, found =>
    let service := name.asStr.getD "<unnamed>"
    match body.index "image" with
    | .string reference =>
      match classify reference with
      | some image => pinnedServices rest (found ++ [image])
      | none => .error (.notPinned service reference)
    | _ => .error (.noImage service)

def pinnedImages (P : Platform κ) (compose : Bytes) : Except ImageError (List ImageRef) := do
  let outer ← (P.jsonFromSlice compose).mapError .notJson
  let inner ← okOr ((outer.get "docker_compose_file").bind Json.asStr) .missingComposeFile
  let docs ← (P.yamlLoadFromStr inner).mapError .notYaml
  let services ← okOr (docs.head?.bind fun d => (d.index "services").asHash) .noServices
  if services.isEmpty then
    throw .noServices
  pinnedServices services []

def checkReferencesLicensedDigest (P : Platform κ) (compose : Bytes) (licensedDigest : String) :
    Except ImageError Unit := do
  let images ← pinnedImages P compose
  if images.any fun i => i.digest == licensedDigest then
    return ()
  else
    throw (.licensedDigestAbsent licensedDigest)

/-! ## What the walk establishes -/

theorem classify_reference {reference : String} {image : ImageRef}
    (h : classify reference = some image) : image.reference = reference := by
  unfold classify at h
  split at h
  · cases h
  · split at h
    · cases h
    · split at h
      · cases h
      · obtain rfl := Option.some.inj h
        rfl

/-- Every pinned reference is classified. -/
theorem classify_of_pinned {reference digest : String} (h : Pinned reference digest) :
    ∃ image, classify reference = some image ∧ image.reference = reference := by
  obtain ⟨repo, digits, rfl, hr, -, hl, hh⟩ := h
  have hall := utf8_all_hexdigit_iff.mpr hh
  have hlen := length_utf8_of_hexdigits hh
  have ha : splitOnce "@" (repo ++ "@sha256:" ++ digits) = some (repo, "sha256:" ++ digits) := by
    refine (splitOnce_char (c := '@')).mpr ⟨?_, hr⟩
    rw [← String.toList_inj]
    simp
  have hc : splitOnce ":" ("sha256:" ++ digits) = some ("sha256", digits) := by
    refine (splitOnce_char (c := ':')).mpr ⟨?_, by decide⟩
    rw [← String.toList_inj]
    simp
  cases he : classify (repo ++ "@sha256:" ++ digits) with
  | some image => exact ⟨image, rfl, classify_reference he⟩
  | none =>
    exfalso
    unfold classify at he
    split at he
    · rename_i hn
      rw [ha] at hn
      cases hn
    · rename_i hs
      rw [ha] at hs
      obtain ⟨rfl, rfl⟩ := Prod.mk.inj (Option.some.inj hs)
      split at he
      · rename_i hn
        rw [hc] at hn
        cases hn
      · rename_i hs'
        rw [hc] at hs'
        obtain ⟨rfl, rfl⟩ := Prod.mk.inj (Option.some.inj hs')
        split at he
        · rename_i hd
          rcases hd with hd | hd | hd
          · exact hd rfl
          · exact hd (hlen.trans hl)
          · exact hd hall
        · cases he

/-- The image a service names is the reference `i` carries. -/
def Names (service : Yaml × Yaml) (i : ImageRef) : Prop :=
  service.2.index "image" = .string i.reference

/-- The walk appends exactly one image for each service, in order. -/
theorem pinnedServices_ok {services : List (Yaml × Yaml)} {found images : List ImageRef}
    (h : pinnedServices services found = .ok images) :
    ∃ new, images = found ++ new ∧ List.Forall₂ Names services new := by
  induction services generalizing found with
  | nil =>
    obtain rfl := Except.ok.inj h
    exact ⟨[], (List.append_nil found).symm, .nil⟩
  | cons s rest ih =>
    obtain ⟨name, body⟩ := s
    simp only [pinnedServices] at h
    split at h
    · rename_i reference hb
      split at h
      · rename_i image hc
        obtain ⟨new, rfl, hn⟩ := ih h
        refine ⟨image :: new, by rw [List.append_assoc, List.singleton_append], .cons ?_ hn⟩
        exact hb.trans (congrArg Yaml.string (classify_reference hc).symm)
      · cases h
    · cases h

theorem pinnedServices_cons {name body : Yaml} {reference : String} {image : ImageRef}
    (hb : body.index "image" = .string reference) (hc : classify reference = some image)
    (rest : List (Yaml × Yaml)) (found : List ImageRef) :
    pinnedServices ((name, body) :: rest) found = pinnedServices rest (found ++ [image]) := by
  simp only [pinnedServices, hb, hc]

/-- A walk over services that all name pinned images is not refused. -/
theorem pinnedServices_total {services : List (Yaml × Yaml)} (found : List ImageRef)
    (h : ∀ s ∈ services, ∃ r d, s.2.index "image" = .string r ∧ Pinned r d) :
    ∃ images, pinnedServices services found = .ok images := by
  induction services generalizing found with
  | nil => exact ⟨found, rfl⟩
  | cons s rest ih =>
    obtain ⟨r, d, hr, hp⟩ := h s List.mem_cons_self
    obtain ⟨image, hc, -⟩ := classify_of_pinned hp
    obtain ⟨images, hi⟩ := ih (found ++ [image]) fun t ht => h t (List.mem_cons_of_mem s ht)
    exact ⟨images, (pinnedServices_cons hr hc rest found).trans hi⟩

/-- The string under `docker_compose_file`, when the document is an object that has one. -/
def Embeds (P : Platform κ) (compose : Bytes) (inner : String) : Prop :=
  ∃ outer, P.jsonFromSlice compose = .ok outer ∧
    (outer.get "docker_compose_file").bind Json.asStr = some inner

/-- The walk over a document reads the answers for it alone. -/
theorem pinnedImages_congr {P Q : Platform κ} {compose : Bytes}
    (hj : P.jsonFromSlice compose = Q.jsonFromSlice compose)
    (hy : P.yamlLoadFromStr = Q.yamlLoadFromStr) :
    pinnedImages P compose = pinnedImages Q compose := by
  unfold pinnedImages
  rw [hj, hy]

/-- Acceptance, read backwards through the loaders to the walk over the services. -/
theorem pinnedImages_ok_iff {P : Platform κ} {compose : Bytes} {images : List ImageRef} :
    pinnedImages P compose = .ok images ↔
      ∃ inner docs services, Embeds P compose inner ∧ P.yamlLoadFromStr inner = .ok docs ∧
        (docs.head?.bind fun d => (d.index "services").asHash) = some services ∧
        services ≠ [] ∧ pinnedServices services [] = .ok images := by
  simp only [pinnedImages, bind_ok_iff, mapError_ok_iff, okOr_ok_iff, guard_ok_iff,
    List.isEmpty_iff]
  constructor
  · intro ⟨outer, hj, inner, hf, docs, hy, services, hs, hne, hp⟩
    exact ⟨inner, docs, services, ⟨outer, hj, hf⟩, hy, hs, hne, hp⟩
  · intro ⟨inner, docs, services, ⟨outer, hj, hf⟩, hy, hs, hne, hp⟩
    exact ⟨outer, hj, inner, hf, docs, hy, services, hs, hne, hp⟩

/-- The licensed digest is present exactly when the walk succeeds and finds it. -/
theorem checkReferencesLicensedDigest_ok_iff {P : Platform κ} {compose : Bytes}
    {licensedDigest : String} :
    checkReferencesLicensedDigest P compose licensedDigest = .ok () ↔
      ∃ images, pinnedImages P compose = .ok images ∧ ∃ i ∈ images, i.digest = licensedDigest := by
  unfold checkReferencesLicensedDigest
  cases h : pinnedImages P compose with
  | error e => simp [bind, Except.bind]
  | ok images =>
    simp only [bind, Except.bind, List.any_eq_true, beq_iff_eq, Except.ok.injEq, exists_eq_left']
    split
    · rename_i hi
      exact ⟨fun _ => hi, fun _ => rfl⟩
    · rename_i hi
      constructor
      · intro hn
        cases hn
      · intro hi'
        exact absurd hi' hi

end VerityVerifier.Core
