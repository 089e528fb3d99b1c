import VerityVerifier.Library.Utf8
import VerityVerifier.Connect.Grammar

/-!
# What a refused endpoint is told to use

A gateway host is an app id, a port and a domain; a mark behind the port tells the two
forms apart. The suggestion writes the mark into a host that lacks it.
-/
namespace VerityVerifier.Connect

open VerityVerifier.Core
open VerityVerifier.Library.Text

/-- The first label of a gateway host: a 40 digit app id, a port and a mark. -/
def GatewayLabel (mark label : String) : Prop :=
  ∃ appId digits, label = appId ++ "-" ++ digits ++ mark ∧ appId.length = 40 ∧
    appId.toList.all isHexdigit = true ∧ isNumeral digits.toList = true

/-- Such a label and anything after a dot. -/
def GatewayHost (mark host : String) : Prop :=
  ∃ label rest, GatewayLabel mark label ∧ host = label ++ "." ++ rest

/-- The parts of a gateway label are where the splits of the code look for them. -/
theorem rsplitOnce_label {appId port : String} (hport : '-' ∉ port.toList) :
    rsplitOnce '-' (appId ++ "-" ++ port) = some (appId, port) :=
  rsplitOnce_char.mpr ⟨rfl, hport⟩

theorem GatewayLabel.no_dot {mark label : String} (hmark : '.' ∉ mark.toList)
    (h : GatewayLabel mark label) : '.' ∉ label.toList := by
  obtain ⟨appId, digits, rfl, -, hhex, hnum⟩ := h
  intro hm
  simp only [String.toList_append, List.mem_append] at hm
  obtain ((hm | hm) | hm) | hm := hm
  · exact not_mem_of_all hhex (by decide) hm
  · exact absurd hm (by decide)
  · exact not_mem_numeral hnum (by decide) hm
  · exact hmark hm

theorem splitOnce_dot {label rest : String} (h : '.' ∉ label.toList) :
    splitOnce "." (label ++ "." ++ rest) = some (label, rest) :=
  (splitOnce_char (c := '.')).mpr ⟨rfl, h⟩

/-- The form of a host whose first label splits, by what stands behind the app id. -/
theorem classify_of_split {appId port rest : String}
    (hdot : '.' ∉ (appId ++ "-" ++ port).toList) (hdash : '-' ∉ port.toList)
    (hlen : appId.length = 40) (hhex : appId.toList.all isHexdigit = true) :
    Endpoint.classify (appId ++ "-" ++ port ++ "." ++ rest) =
      if (stripSuffix 's' port).any (fun digits => isNumeral digits.toList) then .dstackPassthrough
      else if isNumeral port.toList then .dstackTerminating
      else .unrecognised := by
  have hbytes : (utf8 appId).length = 40 := by
    rw [length_utf8_of_hexdigits hhex, String.length_toList, hlen]
  have hempty : ∀ s : String, (decide (s ≠ "") && s.toList.all isDigit) = isNumeral s.toList := by
    intro s
    have he : decide (s ≠ "") = s.toList.isEmpty.not := by
      rw [Bool.eq_iff_iff]
      simp
    rw [he]
    rfl
  unfold Endpoint.classify
  rw [splitOnce_dot hdot]
  simp only [rsplitOnce_label hdash, hbytes, Endpoint.appIdHexLen, hhex, ne_eq, not_true_eq_false,
    or_self, if_false, hempty]

theorem no_dash_of_numeral {digits mark : String} (hnum : isNumeral digits.toList = true)
    (hmark : '-' ∉ mark.toList) : '-' ∉ (digits ++ mark).toList := by
  intro hm
  rw [String.toList_append, List.mem_append] at hm
  obtain hm | hm := hm
  · exact not_mem_numeral hnum (by decide) hm
  · exact hmark hm

theorem stripSuffix_numeral {digits : String} (hnum : isNumeral digits.toList = true) :
    stripSuffix 's' digits = none := by
  unfold stripSuffix
  apply if_neg
  intro hl
  exact not_mem_numeral hnum (by decide) (List.mem_of_getLast? hl)

theorem stripSuffix_eq_some_iff {c : Char} {s t : String} :
    stripSuffix c s = some t ↔ s = t ++ String.singleton c := by
  unfold stripSuffix
  rw [Option.ite_none_right_eq_some, Option.some.injEq, ← String.toList_inj, ← String.toList_inj]
  simp only [String.toList_ofList, String.toList_append, String.toList_singleton]
  constructor
  · intro h
    obtain ⟨hl, ht⟩ := h
    rw [← ht, List.dropLast_append_getLast? c hl]
  · intro h
    rw [h]
    simp

/-- Only a host whose first label has an app id has a form. -/
theorem split_of_recognised {host : String} (h : Endpoint.classify host ≠ .unrecognised) :
    ∃ appId port rest, host = appId ++ "-" ++ port ++ "." ++ rest ∧
      '.' ∉ (appId ++ "-" ++ port).toList ∧ '-' ∉ port.toList ∧ appId.length = 40 ∧
      appId.toList.all isHexdigit = true := by
  unfold Endpoint.classify at h
  split at h
  · exact absurd rfl h
  · rename_i label rest hs
    split at h
    · exact absurd rfl h
    · rename_i appId port hr
      obtain ⟨rfl, hdot⟩ := (splitOnce_char (c := '.')).mp hs
      obtain ⟨rfl, hdash⟩ := rsplitOnce_char.mp hr
      split at h
      · exact absurd rfl h
      · rename_i hgood
        rw [not_or, not_not, not_not] at hgood
        obtain ⟨hlen, hhex⟩ := hgood
        rw [length_utf8_of_hexdigits hhex, String.length_toList] at hlen
        exact ⟨appId, port, rest, rfl, hdot, hdash, hlen, hhex⟩

theorem classify_of_label {mark label rest : String} (h : GatewayLabel mark label)
    (hmark : mark = "" ∨ mark = "s") : Endpoint.classify (label ++ "." ++ rest) =
      if mark = "s" then .dstackPassthrough else .dstackTerminating := by
  have hdot : '.' ∉ label.toList := by
    refine h.no_dot ?_
    obtain rfl | rfl := hmark <;> decide
  obtain ⟨appId, digits, rfl, hlen, hhex, hnum⟩ := h
  have hassoc : appId ++ "-" ++ digits ++ mark = appId ++ "-" ++ (digits ++ mark) :=
    String.append_assoc
  rw [hassoc] at hdot ⊢
  obtain rfl | rfl := hmark
  · rw [classify_of_split hdot (no_dash_of_numeral hnum (by decide)) hlen hhex, String.append_empty,
      stripSuffix_numeral hnum]
    simp [hnum]
  · have hstrip : stripSuffix 's' (digits ++ "s") = some digits := stripSuffix_eq_some_iff.mpr rfl
    rw [classify_of_split hdot (no_dash_of_numeral hnum (by decide)) hlen hhex, hstrip]
    simp [hnum]

/-- A host is terminating exactly when it has a gateway label without a mark. -/
theorem classify_eq_terminating_iff {host : String} :
    Endpoint.classify host = .dstackTerminating ↔ GatewayHost "" host := by
  constructor
  · intro h
    obtain ⟨appId, port, rest, rfl, hdot, hdash, hlen, hhex⟩ :=
      split_of_recognised (by rw [h]; decide)
    rw [classify_of_split hdot hdash hlen hhex] at h
    split at h
    · cases h
    · split at h
      · rename_i hnum
        exact ⟨_, rest, ⟨appId, port, String.append_empty.symm, hlen, hhex, hnum⟩, rfl⟩
      · cases h
  · intro h
    obtain ⟨label, rest, hl, rfl⟩ := h
    exact classify_of_label hl (.inl rfl)

/-- A host is a passthrough one exactly when its gateway label has the mark. -/
theorem classify_eq_passthrough_iff {host : String} :
    Endpoint.classify host = .dstackPassthrough ↔ GatewayHost "s" host := by
  constructor
  · intro h
    obtain ⟨appId, port, rest, rfl, hdot, hdash, hlen, hhex⟩ :=
      split_of_recognised (by rw [h]; decide)
    rw [classify_of_split hdot hdash hlen hhex] at h
    split at h
    · rename_i hs
      rw [Option.any_eq_true] at hs
      obtain ⟨digits, hd, hnum⟩ := hs
      obtain rfl := stripSuffix_eq_some_iff.mp hd
      exact ⟨_, rest, ⟨appId, digits, String.append_assoc.symm, hlen, hhex, hnum⟩, rfl⟩
    · split at h <;> cases h
  · intro h
    obtain ⟨label, rest, hl, rfl⟩ := h
    exact classify_of_label hl (.inr rfl)

/-! ## The suggestion -/

/-- The mark goes in front of the first dot of the host. -/
theorem passthroughForm_eq_some {e : Endpoint} {suggestion : String}
    (h : e.passthroughForm = some suggestion) : ∃ label domain, e.host = label ++ "." ++ domain ∧
      GatewayLabel "" label ∧ suggestion = label ++ "s" ++ "." ++ domain := by
  have hf : e.form = .dstackTerminating := by
    apply Endpoint.passthroughForm_isSome_iff.mp
    rw [h]
    rfl
  obtain ⟨label, domain, hl, hhost⟩ := classify_eq_terminating_iff.mp (e.classified.trans hf)
  have hlabel := hl
  obtain ⟨appId, digits, rfl, hlen, hhex, hnum⟩ := hl
  refine ⟨_, domain, hhost, hlabel, ?_⟩
  unfold Endpoint.passthroughForm at h
  rw [if_neg (not_not.mpr hf), hhost, splitOnce_dot (hlabel.no_dot (by decide))] at h
  rw [String.append_empty, Option.bind_eq_bind, Option.bind_some] at h
  have hdash : '-' ∉ digits.toList := not_mem_numeral hnum (by decide)
  simp only [rsplitOnce_label hdash, Option.bind_some] at h
  have hs := Option.some.inj h
  rw [← hs, ← String.toList_inj]
  simp [toString]

theorem GatewayLabel.marked {label : String} (h : GatewayLabel "" label) :
    GatewayLabel "s" (label ++ "s") := by
  obtain ⟨appId, digits, rfl, hlen, hhex, hnum⟩ := h
  exact ⟨appId, digits, by rw [String.append_empty], hlen, hhex, hnum⟩

theorem splitPort_host {a host : String} {port : UInt16}
    (h : Endpoint.splitPort a = .ok (host, port)) {c : Char} (hc : c ∈ host.toList) :
    c ∈ a.toList := by
  unfold Endpoint.splitPort at h
  split at h
  · rename_i x p hs
    obtain ⟨rfl, -⟩ := rsplitOnce_char.mp hs
    split at h
    · split at h
      · split at h
        · cases h
        · obtain ⟨rfl, -⟩ := Prod.mk.inj (Except.ok.inj h)
          simp [hc]
      · cases h
    · obtain ⟨rfl, -⟩ := Prod.mk.inj (Except.ok.inj h)
      exact hc
  · obtain ⟨rfl, -⟩ := Prod.mk.inj (Except.ok.inj h)
    exact hc

/-- The host of an accepted endpoint ends where its authority does. -/
theorem parse_host_chars {s : String} {e : Endpoint} (h : Endpoint.parse s = .ok e) {c : Char}
    (hc : c ∈ e.host.toList) : c ∉ ['/', '?', '#'] := by
  obtain ⟨-, scheme, rest, -, -, hp, -⟩ := parse_ok h
  have hm := splitPort_host hp hc
  rw [authorityOf, String.toList_ofList] at hm
  have hb := List.mem_takeWhile_imp hm
  simpa using hb

/-- An `https` URL that is all host is accepted with that host. -/
theorem parse_https_host {url host : String} (ht : trim url = "https://" ++ host)
    (hne : host ≠ "") (hsep : ∀ c ∈ host.toList, c ∉ ['/', '?', '#']) (hcolon : ':' ∉ host.toList) :
    Endpoint.parse url = .ok ⟨"https://" ++ host, host, 443, Endpoint.classify host, rfl⟩ := by
  have ha : String.ofList (host.toList.takeWhile fun c => (['/', '?', '#'].contains c).not) =
      host := by
    rw [List.takeWhile_eq_self_iff.mpr, String.ofList_toList]
    intro c hc
    simpa using hsep c hc
  have hp : Endpoint.splitPort host = .ok (host, 443) := by
    unfold Endpoint.splitPort
    rw [rsplitOnce_char_none.mpr hcolon]
    rfl
  have hscheme : eqIgnoreAsciiCase "https" Endpoint.https = true := by decide
  unfold Endpoint.parse
  rw [ht]
  simp only [splitOnce_https, hscheme, ha, hp, if_neg hne]
  rfl

theorem trim_https_dot {label domain : String} :
    trim ("https://" ++ (label ++ "." ++ domain)) = "https://" ++ (label ++ "." ++
      String.ofList (domain.toList.rdropWhile isWhitespace)) := by
  have hx : ("https://" ++ label ++ ".").toList.head? = some 'h' := by
    rw [String.toList_append, String.toList_append]
    rfl
  have hy : ("https://" ++ label ++ ".").toList.getLast? = some '.' := by
    rw [String.toList_append]
    exact List.getLast?_concat
  have ht : trim ("https://" ++ label ++ "." ++ domain) = _ :=
    trim_append hx hy (by decide) (by decide)
  simpa only [String.append_assoc] using ht

/-- Following the suggestion is never refused as a terminating endpoint again. -/
theorem suggestion_accepted {s suggestion : String} {e : Endpoint} (h : Endpoint.parse s = .ok e)
    (hs : e.passthroughForm = some suggestion) (hcolon : ':' ∉ e.host.toList) :
    ∃ e', Endpoint.parse ("https://" ++ suggestion) = .ok e' ∧ e'.form = .dstackPassthrough ∧
      e'.passthroughForm = none := by
  obtain ⟨label, domain, hhost, hl, rfl⟩ := passthroughForm_eq_some hs
  obtain ⟨cut, hcut⟩ : ∃ cut, String.ofList (domain.toList.rdropWhile isWhitespace) = cut := ⟨_, rfl⟩
  have hmem : ∀ c ∈ (label ++ "s" ++ "." ++ cut).toList, c ∈ e.host.toList ∨ c = 's' := by
    intro c hc
    rw [hhost]
    simp only [← hcut, String.toList_append, String.toList_ofList, List.mem_append] at hc ⊢
    obtain ((hc | hc) | hc) | hc := hc
    · exact .inl (.inl (.inl hc))
    · exact .inr (List.mem_singleton.mp hc)
    · exact .inl (.inl (.inr hc))
    · exact .inl (.inr ((List.rdropWhile_prefix _ _).subset hc))
  have hsep : ∀ c ∈ (label ++ "s" ++ "." ++ cut).toList, c ∉ ['/', '?', '#'] := by
    intro c hc
    obtain hc | rfl := hmem c hc
    · exact parse_host_chars h hc
    · decide
  have hnocolon : ':' ∉ (label ++ "s" ++ "." ++ cut).toList := by
    intro hc
    obtain hc | hc := hmem ':' hc
    · exact hcolon hc
    · exact absurd hc (by decide)
  have ht : trim ("https://" ++ (label ++ "s" ++ "." ++ domain)) =
      "https://" ++ (label ++ "s" ++ "." ++ cut) := by
    rw [trim_https_dot, hcut]
  have hform : Endpoint.classify (label ++ "s" ++ "." ++ cut) = .dstackPassthrough :=
    classify_eq_passthrough_iff.mpr ⟨_, cut, hl.marked, rfl⟩
  refine ⟨_, parse_https_host ht (by simp) hsep hnocolon, hform, ?_⟩
  rw [← Option.not_isSome_iff_eq_none, Endpoint.passthroughForm_isSome_iff]
  intro hterm
  cases hform.symm.trans hterm

/-- The form of an accepted endpoint is the shape of its host, and the suggestion a refusal
names is the host with one mark written in, which is then accepted. -/
theorem suggestion_usable (s : String) (e : Endpoint) (h : Endpoint.parse s = .ok e) :
    (e.form = .dstackTerminating ↔ GatewayHost "" e.host) ∧
    (e.form = .dstackPassthrough ↔ GatewayHost "s" e.host) ∧
    (e.form = .unrecognised ↔ ¬ GatewayHost "" e.host ∧ ¬ GatewayHost "s" e.host) ∧
    (e.passthroughForm.isSome = true ↔ e.form = .dstackTerminating) ∧
    ∀ suggestion, e.passthroughForm = some suggestion →
      (∃ label domain, FirstOccurrence "." e.host label domain ∧
        suggestion = label ++ "s" ++ "." ++ domain) ∧
      (':' ∉ e.host.toList → ∃ e', Endpoint.parse ("https://" ++ suggestion) = .ok e' ∧
        e'.form = .dstackPassthrough ∧ e'.passthroughForm = none) := by
  have hterm : e.form = .dstackTerminating ↔ GatewayHost "" e.host := by
    rw [← e.classified, classify_eq_terminating_iff]
  have hpass : e.form = .dstackPassthrough ↔ GatewayHost "s" e.host := by
    rw [← e.classified, classify_eq_passthrough_iff]
  refine ⟨hterm, hpass, ?_, Endpoint.passthroughForm_isSome_iff, ?_⟩
  · rw [← hterm, ← hpass]
    cases e.form <;> simp
  · intro suggestion hs
    refine ⟨?_, suggestion_accepted h hs⟩
    obtain ⟨label, domain, hhost, hl, hsug⟩ := passthroughForm_eq_some hs
    refine ⟨label, domain, ?_, hsug⟩
    apply splitOnce_eq_some_iff.mp
    rw [hhost, splitOnce_dot (hl.no_dot (by decide))]

theorem suggestion_usable_gateway : ∃ e,
    Endpoint.parse "https://00000000000000000000000000000000000000ff-443.dstack.org" = .ok e ∧
      (e.form = .dstackTerminating ↔ GatewayHost "" e.host) := by
  have ht : trim "https://00000000000000000000000000000000000000ff-443.dstack.org" =
      "https://" ++ "00000000000000000000000000000000000000ff-443.dstack.org" := by
    decide +kernel
  have hall : "00000000000000000000000000000000000000ff-443.dstack.org".toList.all
      (fun c => (['/', '?', '#'].contains c).not) = true := by decide
  have h := parse_https_host ht (by decide)
    (fun c hc => by simpa using List.all_eq_true.mp hall c hc) (by decide)
  exact ⟨_, h, (suggestion_usable _ _ h).1⟩

end VerityVerifier.Connect
