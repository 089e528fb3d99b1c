import VerityVerifier.Library.Fallible
import VerityVerifier.Library.Split
import VerityVerifier.Library.Utf8
import VerityVerifier.Retrieval.Uri

/-!
# What a URI is parsed from and rendered to

The decision is split over three constructors and taken on the trimmed text. Rendering
gives that text back, so equal URIs are equal trimmed texts.
-/
namespace VerityVerifier.Retrieval

open VerityVerifier.Library.ByteString
open VerityVerifier.Library.Fallible
open VerityVerifier.Library.Text

/-! ## The characters of a content identifier -/

/-- `[A-Za-z0-9_-]`. -/
def isCidChar (c : Char) : Bool :=
  (48 ≤ c.toNat && c.toNat ≤ 57) || (65 ≤ c.toNat && c.toNat ≤ 90) ||
  (97 ≤ c.toNat && c.toNat ≤ 122) || c.toNat == 45 || c.toNat == 95

theorem asciiOnly_cid : AsciiOnly isCidByte := by
  intro b h
  simp only [isCidByte, Bool.or_eq_true, Bool.and_eq_true, decide_eq_true_eq, beq_iff_eq] at h
  omega

theorem isCidChar_lt {c : Char} (h : isCidChar c = true) : c.toNat < 128 := by
  simp only [isCidChar, Bool.or_eq_true, Bool.and_eq_true, decide_eq_true_eq, beq_iff_eq] at h
  omega

theorem isCidChar_iff {c : Char} :
    isCidChar c = true ↔ c.toNat < 128 ∧ isCidByte (asciiByte c) = true := by
  constructor
  · intro h
    have hlt := isCidChar_lt h
    refine ⟨hlt, ?_⟩
    rwa [isCidByte, toNat_asciiByte hlt]
  · intro h
    have hb := h.2
    rw [isCidByte, toNat_asciiByte h.1] at hb
    exact hb

theorem utf8_all_cid_iff {s : String} :
    (utf8 s).all isCidByte = true ↔ s.toList.all isCidChar = true := by
  rw [utf8_all_iff asciiOnly_cid, List.all_eq_true]
  simp only [isCidChar_iff]

theorem Cid.parse_ok_iff {s : String} {cid : Cid} : Cid.parse s = .ok cid ↔ cid.text = s := by
  unfold Cid.parse
  constructor
  · intro h
    split at h
    · cases h
    · split at h
      · rw [← Except.ok.inj h]
      · cases h
  · intro h
    subst h
    rw [dif_neg cid.nonempty, dif_pos cid.safe]

theorem Cid.parse_error_iff {s : String} {e : UriError} : Cid.parse s = .error e ↔
    e = .emptyCid ∧ s = "" ∨ e = .invalidCid ∧ s ≠ "" ∧ s.toList.all isCidChar = false := by
  rw [← Bool.not_eq_true (s.toList.all isCidChar), ← utf8_all_cid_iff]
  unfold Cid.parse
  by_cases hs : s = ""
  · rw [dif_pos hs, Except.error.injEq]
    simp only [hs, and_true, ne_eq, not_true_eq_false, false_and, and_false, or_false]
    exact eq_comm
  · by_cases hb : (utf8 s).all isCidByte = true
    · simp [hs, hb]
    · rw [dif_neg hs, dif_neg hb, Except.error.injEq]
      simp only [hs, hb, and_false, ne_eq, not_false_eq_true, and_true, false_or,
        Bool.false_eq_true]
      exact eq_comm

/-! ## The three constructors -/

/-- The text has one of the two schemes that are fetched. -/
def HttpText (t : String) : Prop := ∃ rest, t = "http://" ++ rest ∨ t = "https://" ++ rest

theorem stripPrefix_isSome_iff {pre t : String} :
    (stripPrefix pre t).isSome = true ↔ ∃ rest, t = pre ++ rest := by
  rw [Option.isSome_iff_exists]
  simp only [stripPrefix_eq_some_iff, ← String.toList_inj, String.toList_append]

theorem hasHttpScheme_iff {t : String} : hasHttpScheme t = true ↔ HttpText t := by
  unfold hasHttpScheme HttpText
  rw [Bool.or_eq_true, stripPrefix_isSome_iff, stripPrefix_isSome_iff, ← exists_or]
  exact exists_congr fun rest => or_comm

theorem ComposeUrl.parse_ok_iff {t : String} {url : ComposeUrl} :
    ComposeUrl.parse t = .ok url ↔ url.text = t := by
  unfold ComposeUrl.parse
  constructor
  · intro h
    split at h
    · rw [← Except.ok.inj h]
    · split at h <;> cases h
  · intro h
    subst h
    rw [dif_pos url.scheme]

theorem ComposeUrl.parse_error_iff {t : String} {e : UriError} :
    ComposeUrl.parse t = .error e ↔ ¬ HttpText t ∧
      ((∃ scheme rest, FirstOccurrence "://" t scheme rest ∧ e = .unsupportedScheme scheme) ∨
        (∀ a b, t ≠ a ++ "://" ++ b) ∧ e = .noScheme) := by
  rw [← hasHttpScheme_iff]
  unfold ComposeUrl.parse
  by_cases hs : hasHttpScheme t = true
  · simp [hs]
  · rw [dif_neg hs]
    simp only [hs, Bool.false_eq_true, not_false_eq_true, true_and]
    simp only [← splitOnce_eq_some_iff, ← splitOnce_eq_none_iff]
    cases hp : splitOnce "://" t with
    | none => simp [eq_comm]
    | some found =>
      obtain ⟨scheme, rest⟩ := found
      simp [eq_comm]

/-- The scheme of an `ipfs` text is neither of the two. -/
theorem not_httpText_ipfs (c : String) : ¬ HttpText ("ipfs://" ++ c) := by
  intro h
  obtain ⟨rest, h | h⟩ := h
  · have hl := congrArg (fun s => s.toList.head?) h
    simp at hl
  · have hl := congrArg (fun s => s.toList.head?) h
    simp at hl

theorem ComposeUri.parse_ipfs {s c : String} (h : trim s = "ipfs://" ++ c) :
    ComposeUri.parse s = (Cid.parse c).map .ipfs := by
  unfold ComposeUri.parse
  rw [h, stripPrefix_eq_some_iff.mpr String.toList_append]

theorem ComposeUri.parse_url {s : String} (h : ∀ c, trim s ≠ "ipfs://" ++ c) :
    ComposeUri.parse s = (ComposeUrl.parse (trim s)).map .http := by
  have hn : stripPrefix "ipfs://" (trim s) = none := by
    rw [← Option.not_isSome_iff_eq_none, stripPrefix_isSome_iff]
    exact not_exists.mpr h
  unfold ComposeUri.parse
  rw [hn]

/-! ## The decision and the rendering -/

theorem ComposeUri.parse_ipfs_iff {s c : String} :
    (∃ cid, ComposeUri.parse s = .ok (.ipfs cid) ∧ cid.text = c) ↔
      trim s = "ipfs://" ++ c ∧ c ≠ "" ∧ c.toList.all isCidChar = true := by
  constructor
  · intro h
    obtain ⟨cid, hp, rfl⟩ := h
    have hsafe := utf8_all_cid_iff.mp cid.safe
    by_cases hi : ∃ c, trim s = "ipfs://" ++ c
    · obtain ⟨c, hc⟩ := hi
      rw [ComposeUri.parse_ipfs hc, map_ok_iff] at hp
      obtain ⟨cid', hcid, he⟩ := hp
      obtain rfl := ComposeUri.ipfs.inj he
      rw [Cid.parse_ok_iff.mp hcid]
      rw [Cid.parse_ok_iff.mp hcid] at hsafe
      exact ⟨hc, Cid.parse_ok_iff.mp hcid ▸ cid'.nonempty, hsafe⟩
    · rw [ComposeUri.parse_url (not_exists.mp hi), map_ok_iff] at hp
      obtain ⟨url, -, he⟩ := hp
      cases he
  · intro h
    obtain ⟨ht, hne, hsafe⟩ := h
    refine ⟨⟨c, hne, utf8_all_cid_iff.mpr hsafe⟩, ?_, rfl⟩
    rw [ComposeUri.parse_ipfs ht, map_ok_iff]
    exact ⟨_, Cid.parse_ok_iff.mpr rfl, rfl⟩

theorem ComposeUri.parse_http_iff {s u : String} :
    (∃ url, ComposeUri.parse s = .ok (.http url) ∧ url.text = u) ↔
      u = trim s ∧ HttpText (trim s) := by
  constructor
  · intro h
    obtain ⟨url, hp, rfl⟩ := h
    by_cases hi : ∃ c, trim s = "ipfs://" ++ c
    · obtain ⟨c, hc⟩ := hi
      rw [ComposeUri.parse_ipfs hc, map_ok_iff] at hp
      obtain ⟨cid, -, he⟩ := hp
      cases he
    · rw [ComposeUri.parse_url (not_exists.mp hi), map_ok_iff] at hp
      obtain ⟨url', hu, he⟩ := hp
      obtain rfl := ComposeUri.http.inj he
      have ht := ComposeUrl.parse_ok_iff.mp hu
      exact ⟨ht, ht ▸ hasHttpScheme_iff.mp url'.scheme⟩
  · intro h
    obtain ⟨rfl, hhttp⟩ := h
    have hi : ∀ c, trim s ≠ "ipfs://" ++ c := by
      intro c hc
      exact not_httpText_ipfs c (hc ▸ hhttp)
    refine ⟨⟨trim s, hasHttpScheme_iff.mpr hhttp⟩, ?_, rfl⟩
    rw [ComposeUri.parse_url hi, map_ok_iff]
    exact ⟨_, ComposeUrl.parse_ok_iff.mpr rfl, rfl⟩

/-- Which error a text is refused with: by the prefix first, then by the first separator. -/
theorem ComposeUri.parse_error_iff {s : String} {e : UriError} :
    ComposeUri.parse s = .error e ↔
      e = .emptyCid ∧ trim s = "ipfs://" ∨
      (e = .invalidCid ∧ ∃ c, trim s = "ipfs://" ++ c ∧ c ≠ "" ∧ c.toList.all isCidChar = false) ∨
      ((¬ ∃ c, trim s = "ipfs://" ++ c) ∧ ¬ HttpText (trim s) ∧
        ((∃ scheme rest, FirstOccurrence "://" (trim s) scheme rest ∧
            e = .unsupportedScheme scheme) ∨
          (∀ a b, trim s ≠ a ++ "://" ++ b) ∧ e = .noScheme)) := by
  have hcancel : ∀ a b : String, "ipfs://" ++ a = "ipfs://" ++ b ↔ a = b := by
    intro a b
    rw [← String.toList_inj, String.toList_append, String.toList_append,
      List.append_cancel_left_eq, String.toList_inj]
  by_cases hi : ∃ c, trim s = "ipfs://" ++ c
  · obtain ⟨c, hc⟩ := hi
    have hempty : trim s = "ipfs://" ↔ c = "" := by
      rw [hc, ← hcancel c "", String.append_empty]
    rw [ComposeUri.parse_ipfs hc, map_error_iff, Cid.parse_error_iff, hempty]
    simp only [hc, hcancel, exists_eq_left', exists_eq', not_true_eq_false, false_and, or_false]
  · rw [ComposeUri.parse_url (not_exists.mp hi), map_error_iff, ComposeUrl.parse_error_iff]
    have hempty : trim s ≠ "ipfs://" := by
      intro ht
      exact hi ⟨"", by rw [ht, String.append_empty]⟩
    constructor
    · intro h
      exact .inr (.inr ⟨hi, h⟩)
    · intro h
      obtain ⟨-, ht⟩ | ⟨-, c, hc, -⟩ | ⟨-, h⟩ := h
      · exact absurd ht hempty
      · exact absurd ⟨c, hc⟩ hi
      · exact h

/-- Rendering gives the trimmed text back. -/
theorem ComposeUri.parse_toString {s : String} {u : ComposeUri} (h : ComposeUri.parse s = .ok u) :
    toString u = trim s := by
  cases u with
  | ipfs cid =>
    obtain ⟨ht, -⟩ := ComposeUri.parse_ipfs_iff.mp ⟨cid, h, rfl⟩
    rw [ht]
    rfl
  | http url => exact (ComposeUri.parse_http_iff.mp ⟨url, h, rfl⟩).1

/-- Rendered, a URI parses back to itself. -/
theorem ComposeUri.parse_rendered {s : String} {u : ComposeUri} (h : ComposeUri.parse s = .ok u) :
    ComposeUri.parse (toString u) = .ok u := by
  rw [ComposeUri.parse_toString h]
  unfold ComposeUri.parse at h ⊢
  rwa [trim_trim]

/-- Two texts are the same URI exactly when they are trimmed to the same text. -/
theorem ComposeUri.parse_eq_iff {s s' : String} {u u' : ComposeUri}
    (h : ComposeUri.parse s = .ok u) (h' : ComposeUri.parse s' = .ok u') :
    u = u' ↔ trim s = trim s' := by
  constructor
  · intro he
    rw [← ComposeUri.parse_toString h, ← ComposeUri.parse_toString h', he]
  · intro ht
    have hr := ComposeUri.parse_rendered h
    have hr' := ComposeUri.parse_rendered h'
    rw [ComposeUri.parse_toString h, ht, ← ComposeUri.parse_toString h', hr'] at hr
    exact (Except.ok.inj hr).symm

/-- Parsing is exact on every text, and is undone by rendering. -/
theorem composeUri_parse_exact :
    (∀ s,
      (∀ c, (∃ cid, ComposeUri.parse s = .ok (.ipfs cid) ∧ cid.text = c) ↔
        trim s = "ipfs://" ++ c ∧ c ≠ "" ∧ c.toList.all isCidChar = true) ∧
      (∀ u, (∃ url, ComposeUri.parse s = .ok (.http url) ∧ url.text = u) ↔
        u = trim s ∧ HttpText (trim s)) ∧
      (ComposeUri.parse s = .error .emptyCid ↔ trim s = "ipfs://") ∧
      (ComposeUri.parse s = .error .invalidCid ↔
        ∃ c, trim s = "ipfs://" ++ c ∧ c ≠ "" ∧ c.toList.all isCidChar = false) ∧
      (∀ x, ComposeUri.parse s = .error (.unsupportedScheme x) ↔
        (¬ ∃ c, trim s = "ipfs://" ++ c) ∧ ¬ HttpText (trim s) ∧
          ∃ rest, FirstOccurrence "://" (trim s) x rest) ∧
      (ComposeUri.parse s = .error .noScheme ↔
        (¬ ∃ c, trim s = "ipfs://" ++ c) ∧ ¬ HttpText (trim s) ∧
          ∀ a b, trim s ≠ a ++ "://" ++ b) ∧
      ∀ u, ComposeUri.parse s = .ok u →
        toString u = trim s ∧ ComposeUri.parse (toString u) = .ok u) ∧
    ∀ s s' u u', ComposeUri.parse s = .ok u → ComposeUri.parse s' = .ok u' →
      (u = u' ↔ trim s = trim s') := by
  refine ⟨?_, fun s s' u u' h h' => ComposeUri.parse_eq_iff h h'⟩
  intro s
  refine ⟨fun c => ComposeUri.parse_ipfs_iff, fun u => ComposeUri.parse_http_iff, ?_, ?_, ?_, ?_,
    fun u h => ⟨ComposeUri.parse_toString h, ComposeUri.parse_rendered h⟩⟩
  · rw [ComposeUri.parse_error_iff]
    simp
  · rw [ComposeUri.parse_error_iff]
    simp
  · intro x
    rw [ComposeUri.parse_error_iff]
    simp
  · rw [ComposeUri.parse_error_iff]
    simp

end VerityVerifier.Retrieval
