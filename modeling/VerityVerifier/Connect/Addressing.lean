import VerityVerifier.Connect.Client
import VerityVerifier.Connect.Suggestion

/-!
# Where a request is addressed

A caller gives a path, and the rest of the URI is the endpoint's. No path moves the end of the
authority, and the authority reads back as the endpoint, but for a host that ends in a bracket.
-/
namespace VerityVerifier.Connect

open VerityVerifier.Core
open VerityVerifier.Library.Text

/-! ## The parts of the URI -/

def authorityText (e : Endpoint) : String := e.host ++ ":" ++ toString e.port.toNat

/-- The path with its slash. -/
def requestTarget (path : String) : String :=
  if path.toList.head? = some '/' then path else "/" ++ path

theorem requestUri_eq (e : Endpoint) (path : String) :
    requestUri e path = "https://" ++ authorityText e ++ requestTarget path := by
  have hport : toString e.port = toString e.port.toNat := rfl
  have hhost : toString e.host = e.host := rfl
  have hpath : toString path = path := rfl
  have hslash : ∀ slash : String, toString slash = slash := fun _ => rfl
  unfold requestUri requestTarget authorityText
  by_cases hp : path.toList.head? = some '/'
  · rw [if_pos hp, if_pos hp, hport]
    simp only [hhost, hpath, hslash, String.append_assoc, String.empty_append]
  · rw [if_neg hp, if_neg hp, hport]
    simp only [hhost, hpath, hslash, String.append_assoc]

theorem requestTarget_slash (path : String) : ∃ rest, requestTarget path = "/" ++ rest := by
  unfold requestTarget
  by_cases hp : path.toList.head? = some '/'
  · rw [if_pos hp]
    obtain ⟨tail, ht⟩ := List.head?_eq_some_iff.mp hp
    refine ⟨String.ofList tail, ?_⟩
    rw [← String.toList_inj, ht, String.toList_append]
    exact congrArg (List.cons '/') String.toList_ofList.symm
  · rw [if_neg hp]
    exact ⟨path, rfl⟩

/-! ## Reading it back -/

theorem colon_not_mem_port (port : UInt16) : ':' ∉ (toString port.toNat).toList :=
  not_mem_numeral (isNumeral_toString _) (by decide)

theorem rsplitOnce_authorityText (e : Endpoint) :
    rsplitOnce ':' (authorityText e) = some (e.host, toString e.port.toNat) :=
  rsplitOnce_char.mpr ⟨rfl, colon_not_mem_port e.port⟩

/-- No character of an accepted endpoint's authority ends it. -/
theorem authorityText_inside {url : String} {e : Endpoint} (h : Endpoint.parse url = .ok e)
    {c : Char} (hc : c ∈ (authorityText e).toList) : c ∉ ['/', '?', '#'] := by
  unfold authorityText at hc
  rw [String.toList_append, String.toList_append] at hc
  rcases List.mem_append.mp hc with hc | hc
  · rcases List.mem_append.mp hc with hc | hc
    · exact parse_host_chars h hc
    · obtain rfl := List.mem_singleton.mp hc
      decide
  · intro hs
    have hdigit := (isNumeral_iff.mp (isNumeral_toString e.port.toNat)).2 c hc
    simp only [List.mem_cons, List.not_mem_nil, or_false] at hs
    rcases hs with rfl | rfl | rfl <;> exact absurd hdigit (by decide)

/-- An accepted port is not zero. -/
theorem parse_port_ne_zero {url : String} {e : Endpoint} (h : Endpoint.parse url = .ok e) :
    e.port ≠ 0 := by
  obtain ⟨-, scheme, rest, -, -, hp, -⟩ := parse_ok h
  unfold Endpoint.splitPort at hp
  split at hp
  · split at hp
    · split at hp
      · rename_i port hport
        split at hp
        · cases hp
        · rename_i hne
          obtain ⟨-, rfl⟩ := Prod.mk.inj (Except.ok.inj hp)
          exact hne
      · cases hp
    · obtain ⟨-, hport⟩ := Prod.mk.inj (Except.ok.inj hp)
      rw [← hport]
      decide
  · obtain ⟨-, hport⟩ := Prod.mk.inj (Except.ok.inj hp)
    rw [← hport]
    decide

/-- The authority splits into the endpoint again where the last colon is taken for its own. -/
theorem splitPort_authorityText {e : Endpoint} (hport : e.port ≠ 0) :
    Endpoint.splitPort (authorityText e) =
      if e.host.toList.getLast? ≠ some ']' then .ok (e.host, e.port)
      else .ok (authorityText e, 443) := by
  unfold Endpoint.splitPort
  rw [rsplitOnce_authorityText]
  by_cases hlast : e.host.toList.getLast? ≠ some ']'
  · simp only [if_pos hlast, parseU16_toString, if_neg hport]
  · simp only [if_neg hlast]
    rfl

/-- The trimmed URI, split at its scheme: nothing of the path is in front of the first slash. -/
theorem requestUri_split {url : String} {e : Endpoint} (h : Endpoint.parse url = .ok e)
    (path : String) : ∃ rest, splitOnce "://" (trim (requestUri e path)) = some ("https", rest) ∧
      authorityOf rest = authorityText e := by
  obtain ⟨target, ht⟩ := requestTarget_slash path
  have huri : requestUri e path = ("https://" ++ authorityText e ++ "/") ++ target := by
    rw [requestUri_eq, ht]
    simp only [String.append_assoc]
  have hhead : ("https://" ++ authorityText e ++ "/").toList.head? = some 'h' := by
    rw [String.toList_append, String.toList_append]
    rfl
  have hlast : ("https://" ++ authorityText e ++ "/").toList.getLast? = some '/' := by
    rw [String.toList_append]
    exact List.getLast?_concat
  have htrim : trim (requestUri e path) = "https://" ++ (authorityText e ++ ("/" ++
      String.ofList (target.toList.rdropWhile isWhitespace))) := by
    rw [huri, trim_append hhead hlast (by decide) (by decide)]
    simp only [String.append_assoc]
  refine ⟨_, by rw [htrim, splitOnce_https], ?_⟩
  have hstop : ((authorityText e).toList ++ ("/" ++
      String.ofList (target.toList.rdropWhile isWhitespace)).toList).takeWhile
        (fun c => (['/', '?', '#'].contains c).not) = (authorityText e).toList := by
    apply takeWhile_append_of_head
    · intro c hc
      simpa using authorityText_inside h hc
    · intro c hc
      rw [String.toList_append] at hc
      obtain rfl := Option.some.inj hc
      decide
  rw [authorityOf, String.toList_append, hstop, String.ofList_toList]

theorem authorityText_ne (e : Endpoint) : authorityText e ≠ e.host := by
  have h := append_portText_ne e.host e.port
  unfold authorityText
  rw [String.append_assoc]
  exact h

/-- The URI reads back as the endpoint exactly when the host does not end in a bracket. -/
theorem requestUri_reread {url : String} {e : Endpoint} (h : Endpoint.parse url = .ok e)
    (path : String) : (∃ e', Endpoint.parse (requestUri e path) = .ok e' ∧ e'.host = e.host ∧
      e'.port = e.port ∧ e'.form = e.form) ↔ e.host.toList.getLast? ≠ some ']' := by
  obtain ⟨rest, hsplit, hauthority⟩ := requestUri_split h path
  have hport := splitPort_authorityText (parse_port_ne_zero h)
  constructor
  · intro hread hlast
    obtain ⟨e', he, hhost, -⟩ := hread
    obtain ⟨-, scheme, rest', hs, -, hp, -⟩ := parse_ok he
    obtain ⟨-, rfl⟩ := Prod.mk.inj (Option.some.inj (hsplit.symm.trans hs))
    rw [hauthority, hport, if_neg (fun hne => hne hlast)] at hp
    obtain ⟨hsame, -⟩ := Prod.mk.inj (Except.ok.inj hp)
    exact authorityText_ne e (hsame.trans hhost)
  · intro hlast
    rw [if_pos hlast] at hport
    have hscheme : eqIgnoreAsciiCase "https" Endpoint.https = true := by decide
    have hhost : e.host ≠ "" := by
      obtain ⟨-, _, _, -, -, -, hne⟩ := parse_ok h
      exact hne
    refine ⟨⟨trim (requestUri e path), e.host, e.port, Endpoint.classify e.host, rfl⟩, ?_, rfl, rfl,
      e.classified⟩
    unfold authorityOf at hauthority
    unfold Endpoint.parse
    simp only [hsplit, hscheme, hauthority, hport, if_neg hhost, Bool.true_eq_false, if_false]

/-- Whatever the path, the authority of a request is the host and the port of the endpoint that
was verified, and its last colon is the one in front of the port. -/
theorem requestUri_addressed {url : String} {e : Endpoint} (h : Endpoint.parse url = .ok e)
    (path : String) :
    (∃ rest, splitOnce "://" (trim (requestUri e path)) = some ("https", rest) ∧
      ∃ digits, authorityOf rest = e.host ++ ":" ++ digits ∧
        rsplitOnce ':' (authorityOf rest) = some (e.host, digits) ∧
        parseU16 digits = some e.port) ∧
    ((∃ e', Endpoint.parse (requestUri e path) = .ok e' ∧ e'.host = e.host ∧
      e'.port = e.port ∧ e'.form = e.form) ↔ e.host.toList.getLast? ≠ some ']') := by
  obtain ⟨rest, hsplit, hauthority⟩ := requestUri_split h path
  refine ⟨⟨rest, hsplit, toString e.port.toNat, hauthority, ?_, parseU16_toString e.port⟩,
    requestUri_reread h path⟩
  rw [hauthority]
  exact rsplitOnce_authorityText e

theorem requestUri_addressed_relative : ∃ e, Endpoint.parse " HTTPS://a.example:8443/x?y " = .ok e ∧
    (∃ e', Endpoint.parse (requestUri e "@b.example/#z ") = .ok e' ∧ e'.host = e.host ∧
      e'.port = e.port ∧ e'.form = e.form) := by
  have hp : (Endpoint.parse " HTTPS://a.example:8443/x?y ").toOption.map
      (fun e => (e.host, e.port)) = some ("a.example", 8443) := by decide +kernel
  cases he : Endpoint.parse " HTTPS://a.example:8443/x?y " with
  | error why =>
    rw [he] at hp
    cases hp
  | ok e =>
    rw [he] at hp
    have hhost : e.host = "a.example" := (Prod.mk.inj (Option.some.inj hp)).1
    refine ⟨e, rfl, (requestUri_addressed he "@b.example/#z ").2.mpr ?_⟩
    rw [hhost]
    decide

end VerityVerifier.Connect
