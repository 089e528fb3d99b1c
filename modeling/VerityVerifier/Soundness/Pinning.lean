import VerityVerifier.Soundness.Replay

/-!
# What the pinning walk covers

The walk visits the services of the first document of the stream. Every image it
returns is pinned; a later document is covered exactly when it repeats images of
the first.
-/
namespace VerityVerifier.Soundness

open VerityVerifier.Core
open VerityVerifier.Library.ByteString
open VerityVerifier.Library.Text

variable {κ : Type}

/-- The entries of a document's `services` mapping. -/
def servicesOf (doc : Yaml) : List (Yaml × Yaml) := (doc.index "services").asHash.getD []

/-- The service names a pinned image, and that image was returned. -/
def Examined (images : List ImageRef) (service : Yaml × Yaml) : Prop :=
  ∃ i ∈ images, service.2.index "image" = .string i.reference ∧ Pinned i.reference i.digest

/-- No service image of any document is left unexamined. -/
def Covers (docs : List Yaml) (images : List ImageRef) : Prop :=
  ∀ doc ∈ docs, ∀ service ∈ servicesOf doc, Examined images service

/-- A document that declares services, all of which name pinned images. -/
def FullyPinned (doc : Yaml) : Prop :=
  servicesOf doc ≠ [] ∧
    ∀ s ∈ servicesOf doc, ∃ r d, s.2.index "image" = .string r ∧ Pinned r d

/-- The service names an image that a service of this document names too. -/
def Repeats (doc : Yaml) (service : Yaml × Yaml) : Prop :=
  ∃ t ∈ servicesOf doc, ∃ r, service.2.index "image" = .string r ∧
    t.2.index "image" = .string r

private theorem named_of_forall₂ {services : List (Yaml × Yaml)} {images : List ImageRef}
    (h : List.Forall₂ Names services images) :
    (∀ s ∈ services, ∃ i ∈ images, Names s i) ∧ ∀ i ∈ images, ∃ s ∈ services, Names s i := by
  induction h with
  | nil => simp
  | @cons s i _ _ hn _ ih =>
    constructor
    · intro t ht
      rcases List.mem_cons.mp ht with rfl | ht
      · exact ⟨i, List.mem_cons_self, hn⟩
      · obtain ⟨j, hj, hnj⟩ := ih.1 t ht
        exact ⟨j, List.mem_cons_of_mem i hj, hnj⟩
    · intro j hj
      rcases List.mem_cons.mp hj with rfl | hj
      · exact ⟨s, List.mem_cons_self, hn⟩
      · obtain ⟨t, ht, hnt⟩ := ih.2 j hj
        exact ⟨t, List.mem_cons_of_mem s ht, hnt⟩

theorem servicesOf_eq {doc : Yaml} {services : List (Yaml × Yaml)} (hne : services ≠ []) :
    (doc.index "services").asHash = some services ↔ servicesOf doc = services := by
  unfold servicesOf
  cases h : (doc.index "services").asHash with
  | none => simpa using hne.symm
  | some entries => simp

section
variable {P : Platform κ} {compose : Bytes} {inner : String} {docs : List Yaml}

/-- Acceptance of a stream is about its first document only. -/
theorem pinnedImages_of_loads (hi : Embeds P compose inner)
    (hy : P.yamlLoadFromStr inner = .ok docs) {images : List ImageRef} :
    pinnedImages P compose = .ok images ↔
      ∃ first, docs.head? = some first ∧ servicesOf first ≠ [] ∧
        pinnedServices (servicesOf first) [] = .ok images := by
  rw [pinnedImages_ok_iff]
  constructor
  · intro ⟨inner', docs', services, ⟨outer', hj', hf'⟩, hy', hs, hne, hp⟩
    obtain ⟨outer, hj, hf⟩ := hi
    obtain rfl : outer' = outer := Except.ok.inj (hj'.symm.trans hj)
    obtain rfl : inner' = inner := Option.some.inj (hf'.symm.trans hf)
    obtain rfl : docs' = docs := Except.ok.inj (hy'.symm.trans hy)
    obtain ⟨first, hd, hs⟩ := Option.bind_eq_some_iff.mp hs
    have he : servicesOf first = services := (servicesOf_eq hne).mp hs
    rw [← he] at hne hp
    exact ⟨first, hd, hne, hp⟩
  · intro ⟨first, hd, hne, hp⟩
    have hs : (first.index "services").asHash = some (servicesOf first) :=
      (servicesOf_eq hne).mpr rfl
    exact ⟨inner, docs, servicesOf first, hi, hy, by rw [hd, Option.bind_some, hs], hne, hp⟩

/-- The walk accepts exactly the fully pinned first documents. -/
theorem pinnedServices_accepts_iff {doc : Yaml} :
    (servicesOf doc ≠ [] ∧ ∃ images, pinnedServices (servicesOf doc) [] = .ok images) ↔
      FullyPinned doc := by
  refine and_congr_right fun _ => ?_
  constructor
  · intro ⟨images, hp⟩ s hs
    obtain ⟨new, -, hn⟩ := pinnedServices_ok hp
    obtain ⟨i, -, hi⟩ := (named_of_forall₂ hn).1 s hs
    exact ⟨i.reference, i.digest, hi, i.pinned⟩
  · intro h
    exact pinnedServices_total [] h

/-- Whenever the stream is accepted, every document of it is covered: this holds exactly
when the first document is refused or the others only repeat its images. -/
theorem pinnedImages_covers_iff (hi : Embeds P compose inner)
    (hy : P.yamlLoadFromStr inner = .ok docs) :
    (∀ images, pinnedImages P compose = .ok images → Covers docs images) ↔
      ∀ first, docs.head? = some first → FullyPinned first →
        ∀ doc ∈ docs.tail, ∀ service ∈ servicesOf doc, Repeats first service := by
  constructor
  · intro h first hd hf doc hdoc service hs
    obtain ⟨hne, images, hp⟩ := pinnedServices_accepts_iff.mpr hf
    have hok : pinnedImages P compose = .ok images :=
      (pinnedImages_of_loads hi hy).mpr ⟨first, hd, hne, hp⟩
    obtain ⟨i, him, hin, -⟩ := h images hok doc (List.mem_of_mem_tail hdoc) service hs
    obtain ⟨new, rfl, hn⟩ := pinnedServices_ok hp
    obtain ⟨t, ht, htn⟩ := (named_of_forall₂ hn).2 i him
    exact ⟨t, ht, i.reference, hin, htn⟩
  · intro h images hok
    obtain ⟨first, hd, hne, hp⟩ := (pinnedImages_of_loads hi hy).mp hok
    have hf : FullyPinned first := pinnedServices_accepts_iff.mp ⟨hne, images, hp⟩
    obtain ⟨new, rfl, hn⟩ := pinnedServices_ok hp
    have hnamed := (named_of_forall₂ hn).1
    obtain ⟨rest, rfl⟩ : ∃ rest, docs = first :: rest := List.head?_eq_some_iff.mp hd
    intro doc hdoc service hs
    rcases List.mem_cons.mp hdoc with rfl | hdoc
    · obtain ⟨i, him, hin⟩ := hnamed service hs
      exact ⟨i, him, hin, i.pinned⟩
    · obtain ⟨t, ht, r, hr, htr⟩ := h first hd hf doc hdoc service hs
      obtain ⟨i, him, hin⟩ := hnamed t ht
      have hri : r = i.reference := Yaml.string.inj (htr.symm.trans hin)
      exact ⟨i, him, hri ▸ hr, i.pinned⟩

end

/-! ## A stream whose second document is not covered -/

/-- Two documents with one service each, as served in a JSON string. -/
@[irreducible] def streamDocument (name image : String) : Bytes :=
  utf8 ("\x7b\"docker_compose_file\":\"services:\\n  probe:\\n    image: alpine@" ++ probeDigest ++
    "\\n---\\nservices:\\n  " ++ name ++ ":\\n    image: " ++ image ++ "\\n\"\x7d")

@[irreducible] def streamCompose (name image : String) : String :=
  "services:\n  probe:\n    image: alpine@" ++ probeDigest ++
    "\n---\nservices:\n  " ++ name ++ ":\n    image: " ++ image ++ "\n"

def singleService (name image : String) : Yaml :=
  .hash [(.string "services", .hash [(.string name, .hash [(.string "image", .string image)])])]

def probeService : Yaml := singleService "probe" ("alpine@" ++ probeDigest)

/-- The loaders' answers for the stream. -/
def streamRecording (name image : String) : Recording String where
  sha256 := []
  sha512 := []
  reports := []
  certificates := []
  json := [(streamDocument name image,
    .object [("docker_compose_file", .string (streamCompose name image))])]
  yaml := [(streamCompose name image, [probeService, singleService name image])]

section
variable (name image : String)

theorem stream_embeds : Embeds (streamRecording name image).platform (streamDocument name image)
    (streamCompose name image) :=
  ⟨_, Recording.answer_cons_self _ _ _, rfl⟩

theorem stream_loads :
    (streamRecording name image).platform.yamlLoadFromStr (streamCompose name image) =
      .ok [probeService, singleService name image] :=
  Recording.answer_cons_self _ _ _

theorem servicesOf_single : servicesOf (singleService name image) =
    [(.string name, .hash [(.string "image", .string image)])] := by
  rw [servicesOf, singleService, Yaml.index_cons_self]
  rfl

/-- The first document of the stream is accepted, whatever the second one is. -/
theorem stream_accepted : ∃ images,
    pinnedImages (streamRecording name image).platform (streamDocument name image) =
      .ok images := by
  have he : servicesOf probeService = _ := servicesOf_single "probe" ("alpine@" ++ probeDigest)
  obtain ⟨probe, hc⟩ : ∃ probe, classify ("alpine@" ++ probeDigest) = some probe := by
    apply Option.isSome_iff_exists.mp
    decide +kernel
  have hp : pinnedServices (servicesOf probeService) [] = .ok [probe] := by
    rw [he, pinnedServices_cons (Yaml.index_cons_self _ _ _) hc]
    rfl
  refine ⟨[probe], (pinnedImages_of_loads (stream_embeds name image) (stream_loads name image)).mpr
    ⟨probeService, rfl, ?_, hp⟩⟩
  rw [he]
  exact List.cons_ne_nil _ _

end

/-- A stream whose second document names the first's image again is covered. -/
theorem repeated_stream_covered : ∃ images,
    pinnedImages (streamRecording "again" ("alpine@" ++ probeDigest)).platform
      (streamDocument "again" ("alpine@" ++ probeDigest)) = .ok images ∧
    Covers [probeService, singleService "again" ("alpine@" ++ probeDigest)] images := by
  obtain ⟨images, hok⟩ := stream_accepted "again" ("alpine@" ++ probeDigest)
  have hcov := (pinnedImages_covers_iff (stream_embeds "again" ("alpine@" ++ probeDigest))
    (stream_loads "again" ("alpine@" ++ probeDigest))).mpr
  refine ⟨images, hok, hcov ?_ images hok⟩
  intro first hd _ doc hdoc service hs
  obtain rfl : probeService = first := Option.some.inj hd
  obtain rfl := List.mem_singleton.mp hdoc
  rw [servicesOf_single] at hs
  obtain rfl := List.mem_singleton.mp hs
  have he : servicesOf probeService = _ := servicesOf_single "probe" ("alpine@" ++ probeDigest)
  refine ⟨_, he ▸ List.mem_singleton_self _, "alpine@" ++ probeDigest, ?_⟩
  exact ⟨Yaml.index_cons_self _ _ _, Yaml.index_cons_self _ _ _⟩

/-- A pinned reference contains the separator. -/
theorem at_mem_of_pinned {reference digest : String} (h : Pinned reference digest) :
    '@' ∈ reference.toList := by
  obtain ⟨repo, digits, rfl, -⟩ := h
  simp

/-- The tagged image in the second document of the stream goes unexamined. -/
theorem tagged_stream_accepted :
    ¬ ∀ (P : Platform String) (compose : Bytes) (inner : String) (docs : List Yaml)
      (images : List ImageRef), Embeds P compose inner → P.yamlLoadFromStr inner = .ok docs →
      pinnedImages P compose = .ok images → Covers docs images := by
  intro h
  obtain ⟨images, hok⟩ := stream_accepted "sidecar" "nginx:latest"
  have hcov := h _ _ _ _ _ (stream_embeds _ _) (stream_loads _ _) hok
  have hs : servicesOf (singleService "sidecar" "nginx:latest") = _ := servicesOf_single _ _
  obtain ⟨i, -, hi, hpin⟩ := hcov _ (by simp) _ (hs ▸ List.mem_singleton_self _)
  have hr : "nginx:latest" = i.reference := by
    rw [Yaml.index_cons_self] at hi
    exact Yaml.string.inj hi
  have ha := at_mem_of_pinned hpin
  rw [← hr] at ha
  exact absurd ha (by decide)

end VerityVerifier.Soundness
