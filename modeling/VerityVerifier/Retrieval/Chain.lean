import VerityVerifier.Library.Utf8
import VerityVerifier.Retrieval.Source
import VerityVerifier.Soundness.Replay

/-!
# What a chain of sources can serve

The sources are arbitrary functions here: each answers with any bytes or any error. A
chain answers with the first bytes that come back, so an entry that serves anything at
all hides every entry behind it, and only an entry that fails is passed over.
-/
namespace VerityVerifier.Retrieval

open VerityVerifier.Core
open VerityVerifier.Library.ByteString
open VerityVerifier.Library.Fallible
open VerityVerifier.Library.Text
open VerityVerifier.Soundness

variable {κ : Type}

/-- What a source without effects answers. -/
def answer (source : Source Id) (uri : ComposeUri) : Except FetchError Bytes := source uri

/-- Every source of the chain, in the order in which they are tried. -/
def sources (f : Fallback Id) : List (Source Id) := f.first :: f.rest

/-- The chain gets to this source: every source before it fails. -/
def Reached (f : Fallback Id) (uri : ComposeUri) (source : Source Id) : Prop :=
  ∃ before after, sources f = before ++ source :: after ∧
    ∀ s ∈ before, ∃ e, answer s uri = .error e

/-- The source answers with the licensed document. -/
def Serves (P : Platform κ) (licensed : ComposeHash) (uri : ComposeUri) (source : Source Id) :
    Prop :=
  ∃ document, answer source uri = .ok document ∧ ComposeHash.of P document = licensed

theorem fetchRest_cons (uri : ComposeUri) (source : Source Id) (rest : List (Source Id))
    (last : Except FetchError Bytes) :
    Fallback.fetchRest uri (source :: rest) last =
      if Fallback.isOk (answer source uri) then answer source uri
      else Fallback.fetchRest uri rest (answer source uri) := rfl

theorem fetchRest_ok_iff {uri : ComposeUri} {rest : List (Source Id)} {e : FetchError}
    {document : Bytes} :
    Fallback.fetchRest uri rest (.error e) = (.ok document : Except FetchError Bytes) ↔
      ∃ before source after, rest = before ++ source :: after ∧
        (∀ s ∈ before, ∃ e, answer s uri = .error e) ∧ answer source uri = .ok document := by
  induction rest generalizing e with
  | nil =>
    constructor
    · intro h
      cases h
    · intro h
      exact absurd h exists_first_nil
  | cons source rest ih =>
    rw [fetchRest_cons, exists_first_cons_iff]
    cases ha : answer source uri with
    | ok found =>
      show (.ok found : Except FetchError Bytes) = .ok document ↔ _
      constructor
      · intro h
        exact .inl h
      · intro h
        rcases h with h | ⟨⟨e', he⟩, -⟩
        · exact h
        · cases he
    | error e' =>
      show Fallback.fetchRest uri rest (.error e') = (.ok document : Except FetchError Bytes) ↔ _
      rw [ih]
      constructor
      · intro h
        exact .inr ⟨⟨e', rfl⟩, h⟩
      · intro h
        rcases h with h | ⟨-, h⟩
        · cases h
        · exact h

/-- A chain serves exactly what the first of its sources that does not fail serves. -/
theorem fetch_ok_iff {f : Fallback Id} {uri : ComposeUri} {document : Bytes} :
    f.fetch uri = (.ok document : Except FetchError Bytes) ↔
      ∃ source, Reached f uri source ∧ answer source uri = .ok document := by
  have hf : f.fetch uri = Fallback.fetchRest uri (sources f) (.error (.transport "" "")) := rfl
  rw [hf, fetchRest_ok_iff]
  constructor
  · intro h
    obtain ⟨before, source, after, hs, hb, hd⟩ := h
    exact ⟨source, ⟨before, after, hs, hb⟩, hd⟩
  · intro h
    obtain ⟨source, ⟨before, after, hs, hb⟩, hd⟩ := h
    exact ⟨before, source, after, hs, hb, hd⟩

theorem Reached.mem {f : Fallback Id} {uri : ComposeUri} {source : Source Id}
    (h : Reached f uri source) : source ∈ sources f := by
  obtain ⟨before, after, hs, -⟩ := h
  rw [hs]
  simp

/-- A chain with a good source serves the licensed document exactly when a good source is
reached: when every entry in front of it fails. -/
theorem fetch_licensed_iff (P : Platform κ) (licensed : ComposeHash) (f : Fallback Id)
    (uri : ComposeUri) :
    ((∃ source ∈ sources f, Serves P licensed uri source) →
      ∃ document, f.fetch uri = (.ok document : Except FetchError Bytes) ∧
        ∃ v, VerifiedCompose.check P document licensed = .ok v) ↔
    ((∀ source ∈ sources f, ¬ Serves P licensed uri source) ∨
      ∃ source, Reached f uri source ∧ Serves P licensed uri source) := by
  simp only [verifiedCompose_check_ok_iff, fetch_ok_iff]
  constructor
  · intro h
    by_cases hg : ∃ source ∈ sources f, Serves P licensed uri source
    · obtain ⟨document, ⟨source, hr, ha⟩, hd⟩ := h hg
      exact .inr ⟨source, hr, document, ha, hd⟩
    · left
      intro source hs hserves
      exact hg ⟨source, hs, hserves⟩
  · intro h hg
    obtain ⟨good, hm, hserves⟩ := hg
    rcases h with h | ⟨source, hr, document, ha, hd⟩
    · exact absurd hserves (h good hm)
    · exact ⟨document, ⟨source, hr, ha⟩, hd⟩

/-- A gateway that answers with a redirect, which comes back as an empty body. -/
def redirecting : Source Id := fun _ => (.ok [] : Except FetchError Bytes)

def serving : Source Id := fun _ => (.ok recordedDocument : Except FetchError Bytes)

def redirected : Fallback Id := ⟨redirecting, [serving]⟩

def recordedUri : ComposeUri :=
  .ipfs ⟨"bafkreidenehphc2udb62cgsbuveql5pvhhuuricbjtvtcleag3ec6zjj7u", by decide, by decide⟩

/-- An empty body is not the recorded document. -/
theorem redirected_hash : ComposeHash.of recording.platform [] ≠ recordedHash := by
  have hd : recordedDocument ≠ [] := by
    unfold recordedDocument
    intro h
    have hs : _ = "" := utf8_inj h
    simp [String.append_eq_empty_iff] at hs
  have ha : Recording.answer? recording.sha256 [] = none := by
    show Recording.answer? [(recordedDocument, recordedHash.bytes)] [] = none
    simp [Recording.answer?, hd]
  have hz : (⟨Block.zero 32⟩ : ComposeHash) ≠ recordedHash := by decide +kernel
  show (⟨(Recording.answer? recording.sha256 []).getD (Block.zero 32)⟩ : ComposeHash) ≠ _
  rw [ha]
  exact hz

/-- One entry in front of a good one denies the document. -/
theorem redirect_denies :
    ¬ ((∃ source ∈ sources redirected, Serves recording.platform recordedHash recordedUri source) →
      ∃ document, redirected.fetch recordedUri = (.ok document : Except FetchError Bytes) ∧
        ∃ v, VerifiedCompose.check recording.platform document recordedHash = .ok v) := by
  intro h
  have hm : serving ∈ sources redirected := List.mem_cons_of_mem _ List.mem_cons_self
  obtain ⟨document, hf, hv⟩ := h ⟨serving, hm, recordedDocument, rfl, recorded_hash⟩
  have he : ([] : Bytes) = document := Except.ok.inj hf
  subst he
  exact redirected_hash (verifiedCompose_check_ok_iff.mp hv)

end VerityVerifier.Retrieval
