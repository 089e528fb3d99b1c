import VerityVerifier.Library.Numeral
import VerityVerifier.Library.Split
import VerityVerifier.Connect.Authority

/-!
# The grammar of an endpoint

An endpoint URL outside brackets is `https://`, a host and an optional port. The grammar
is stated over what counts as a port number, so that the documented one and the one the
integer parser reads are two instances of it.
-/
namespace VerityVerifier.Connect

open VerityVerifier.Core
open VerityVerifier.Library.Text

/-- What stands before the first `/`, `?` or `#`. -/
def authorityOf (rest : String) : String :=
  String.ofList (rest.toList.takeWhile fun c => (['/', '?', '#'].contains c).not)

/-- The text is an `https` URL, in any case, with this authority. -/
def HttpsAuthority (t a : String) : Prop :=
  ∃ scheme rest, FirstOccurrence "://" t scheme rest ∧
    eqIgnoreAsciiCase scheme "https" = true ∧ authorityOf rest = a

/-- A port as it is documented: ASCII digits with a value in `1..=65535`. -/
def PortNumber (p : String) (port : UInt16) : Prop :=
  isNumeral p.toList = true ∧ decimal p.toList = port.toNat ∧ 1 ≤ port.toNat ∧ port.toNat ≤ 65535

/-- A port as the integer parser reads it: a plus sign may stand before the digits. -/
def SignedPort (p : String) (port : UInt16) : Prop :=
  PortNumber p port ∨ ∃ digits, p = "+" ++ digits ∧ PortNumber digits port

/-- What an authority yields: the last colon separates the port, and a port that is no
number is reported before a host that is missing. -/
inductive AuthorityReads (number : String → UInt16 → Prop) :
    String → Except EndpointError (String × UInt16) → Prop where
  | host {a} : ':' ∉ a.toList → a ≠ "" → AuthorityReads number a (.ok (a, 443))
  | hostPort {h p port} : ':' ∉ p.toList → number p port → h ≠ "" →
      AuthorityReads number (h ++ ":" ++ p) (.ok (h, port))
  | badPort {h p} : ':' ∉ p.toList → (∀ port, ¬ number p port) →
      AuthorityReads number (h ++ ":" ++ p) (.error (.badPort p))
  | noHost : AuthorityReads number "" (.error .noHost)
  | noHostPort {p port} : ':' ∉ p.toList → number p port →
      AuthorityReads number ("" ++ ":" ++ p) (.error .noHost)

/-- What a trimmed text yields: the scheme is looked at first. -/
inductive Reads (number : String → UInt16 → Prop) (t : String) :
    Except EndpointError (String × UInt16) → Prop where
  | noScheme : (∀ a b, t ≠ a ++ "://" ++ b) → Reads number t (.error (.notHttps ""))
  | notHttps {scheme rest} : FirstOccurrence "://" t scheme rest →
      eqIgnoreAsciiCase scheme "https" = false → Reads number t (.error (.notHttps scheme))
  | https {a r} : HttpsAuthority t a → AuthorityReads number a r → Reads number t r

theorem HttpsAuthority.unique {t a a' : String} (h : HttpsAuthority t a)
    (h' : HttpsAuthority t a') : a = a' := by
  obtain ⟨scheme, rest, hf, -, rfl⟩ := h
  obtain ⟨scheme', rest', hf', -, rfl⟩ := h'
  obtain ⟨-, hr⟩ := hf.unique hf'
  rw [hr]

theorem reads_of_https {number : String → UInt16 → Prop} {t a : String}
    {r : Except EndpointError (String × UInt16)} (ha : HttpsAuthority t a) :
    Reads number t r ↔ AuthorityReads number a r := by
  constructor
  · intro h
    cases h with
    | noScheme hn =>
      obtain ⟨scheme, rest, hf, -⟩ := ha
      exact absurd hf.1 (hn scheme rest)
    | notHttps hf hs =>
      obtain ⟨scheme', rest', hf', hs', -⟩ := ha
      obtain ⟨rfl, -⟩ := hf.unique hf'
      rw [hs] at hs'
      cases hs'
    | https ha' hr =>
      rw [ha.unique ha']
      exact hr
  · exact Reads.https ha

/-! ## The code reads the signed grammar -/

theorem parseU16_port_iff {p : String} {port : UInt16} :
    parseU16 p = some port ∧ port ≠ 0 ↔ SignedPort p port := by
  have hlt : port.toNat < 65536 := port.toNat_lt
  have hzero : port ≠ 0 ↔ 1 ≤ port.toNat := by
    rw [ne_eq, ← UInt16.toNat_inj]
    show ¬ port.toNat = 0 ↔ _
    omega
  have hparse : parseU16 p = some port ↔ parseUnsigned 65536 p = some port.toNat := by
    rw [parseU16_eq, Option.map_eq_some_iff]
    constructor
    · intro h
      obtain ⟨n, hn, rfl⟩ := h
      obtain ⟨-, -, -, -, hb⟩ := parseUnsigned_eq_some_iff.mp hn
      rw [hn, UInt16.toNat_ofNat', Nat.mod_eq_of_lt hb]
    · intro h
      exact ⟨port.toNat, h, UInt16.ofNat_toNat⟩
  rw [hparse, parseUnsigned_eq_some_iff, hzero]
  unfold SignedPort PortNumber
  constructor
  · intro h
    obtain ⟨⟨digits, hd | hd, hn, hv, hb⟩, h1⟩ := h
    · subst hd
      exact .inl ⟨hn, hv, h1, by omega⟩
    · refine .inr ⟨String.ofList digits, ?_, ?_⟩
      · rw [← String.toList_inj, hd]
        simp
      · rw [String.toList_ofList]
        exact ⟨hn, hv, h1, by omega⟩
  · intro h
    obtain ⟨hn, hv, h1, -⟩ | ⟨digits, rfl, hn, hv, h1, -⟩ := h
    · exact ⟨⟨p.toList, .inl rfl, hn, hv, hlt⟩, h1⟩
    · exact ⟨⟨digits.toList, .inr (by simp), hn, hv, hlt⟩, h1⟩

/-- The host and port of an authority, or what is wrong with it. -/
def readAuthority (a : String) : Except EndpointError (String × UInt16) :=
  match Endpoint.splitPort a with
  | .error e => .error e
  | .ok (host, port) => if host = "" then .error .noHost else .ok (host, port)

/-- What an accepted endpoint is made of. -/
theorem parse_ok {s : String} {e : Endpoint} (h : Endpoint.parse s = .ok e) :
    e.url = trim s ∧ ∃ scheme rest, splitOnce "://" (trim s) = some (scheme, rest) ∧
      eqIgnoreAsciiCase scheme "https" = true ∧
      Endpoint.splitPort (authorityOf rest) = .ok (e.host, e.port) ∧ e.host ≠ "" := by
  unfold Endpoint.parse at h
  simp only at h
  split at h
  · cases h
  · rename_i scheme rest hs
    split at h
    · cases h
    · rename_i hscheme
      split at h
      · cases h
      · rename_i host port hp
        split at h
        · cases h
        · rename_i hh
          rw [← Except.ok.inj h]
          exact ⟨rfl, scheme, rest, hs, Bool.not_eq_false _ |>.mp hscheme, hp, hh⟩

theorem splitPort_of_colon {h p : String} (hp : ':' ∉ p.toList) (hb : ']' ∉ h.toList) :
    Endpoint.splitPort (h ++ ":" ++ p) =
      match parseU16 p with
      | some port => if port = 0 then .error (.badPort p) else .ok (h, port)
      | none => .error (.badPort p) := by
  have hr : rsplitOnce ':' (h ++ ":" ++ p) = some (h, p) := rsplitOnce_char.mpr ⟨rfl, hp⟩
  have hlast : h.toList.getLast? ≠ some ']' := fun hl => hb (List.mem_of_getLast? hl)
  unfold Endpoint.splitPort
  rw [hr]
  refine Eq.trans (if_pos hlast) ?_
  cases parseU16 p <;> rfl

theorem readAuthority_of_colon {h p : String} (hp : ':' ∉ p.toList) (hb : ']' ∉ h.toList) :
    AuthorityReads SignedPort (h ++ ":" ++ p) (readAuthority (h ++ ":" ++ p)) := by
  unfold readAuthority
  rw [splitPort_of_colon hp hb]
  by_cases hn : ∃ port, SignedPort p port
  · obtain ⟨port, hport⟩ := hn
    obtain ⟨hparse, hne⟩ := parseU16_port_iff.mpr hport
    simp only [hparse, if_neg hne]
    by_cases hh : h = ""
    · subst hh
      exact .noHostPort hp hport
    · rw [if_neg hh]
      exact .hostPort hp hport hh
  · have hbad : AuthorityReads SignedPort (h ++ ":" ++ p) (.error (.badPort p)) :=
      .badPort hp (not_exists.mp hn)
    cases hparse : parseU16 p with
    | none => exact hbad
    | some port =>
      by_cases hz : port = 0
      · simpa only [if_pos hz] using hbad
      · exact absurd ⟨port, parseU16_port_iff.mp ⟨hparse, hz⟩⟩ hn

theorem authorityReads_readAuthority {a : String} (hb : ']' ∉ a.toList) :
    AuthorityReads SignedPort a (readAuthority a) := by
  cases hr : rsplitOnce ':' a with
  | none =>
    have hc := rsplitOnce_char_none.mp hr
    have hs : Endpoint.splitPort a = .ok (a, 443) := by
      unfold Endpoint.splitPort
      rw [hr]
      rfl
    unfold readAuthority
    rw [hs]
    by_cases ha : a = ""
    · subst ha
      exact .noHost
    · simp only [if_neg ha]
      exact .host hc ha
  | some found =>
    obtain ⟨h, p⟩ := found
    obtain ⟨rfl, hp⟩ := rsplitOnce_char.mp hr
    exact readAuthority_of_colon hp (fun hm => hb (by simp [hm]))

/-- Every text without brackets is read by the signed grammar. -/
theorem reads_dialled {s : String} (hb : ']' ∉ s.toList) :
    Reads SignedPort (trim s) (dialled s) := by
  have hb' : ']' ∉ (trim s).toList := fun hm => hb (mem_of_mem_trim hm)
  unfold dialled Endpoint.parse
  cases hs : splitOnce "://" (trim s) with
  | none => simpa [hs, Except.map] using Reads.noScheme (splitOnce_eq_none_iff.mp hs)
  | some found =>
    obtain ⟨scheme, rest⟩ := found
    have hf := splitOnce_eq_some_iff.mp hs
    cases he : eqIgnoreAsciiCase scheme "https" with
    | false =>
      have hc : eqIgnoreAsciiCase scheme Endpoint.https = false := he
      simpa [hs, hc, Except.map] using Reads.notHttps hf he
    | true =>
      have hc : eqIgnoreAsciiCase scheme Endpoint.https = true := he
      have ha : ']' ∉ (authorityOf rest).toList := by
        intro hm
        rw [authorityOf, String.toList_ofList] at hm
        have hrest := (List.takeWhile_prefix _).subset hm
        exact hb' (by rw [hf.1]; simp [hrest])
      have hread := Reads.https ⟨scheme, rest, hf, he, rfl⟩ (authorityReads_readAuthority ha)
      simp only [hs, hc, Bool.true_eq_false, if_false, ← authorityOf.eq_1 rest]
      unfold readAuthority at hread
      cases hp : Endpoint.splitPort (authorityOf rest) with
      | error e => simpa [hp, Except.map] using hread
      | ok dial =>
        obtain ⟨host, port⟩ := dial
        by_cases hh : host = "" <;> simpa [hp, hh, Except.map] using hread

/-! ## What an authority yields is determined -/

theorem lastColon_unique {h p h' p' : String} (hp : ':' ∉ p.toList) (hp' : ':' ∉ p'.toList)
    (he : h ++ ":" ++ p = h' ++ ":" ++ p') : h = h' ∧ p = p' := by
  have hr : rsplitOnce ':' (h ++ ":" ++ p) = some (h, p) := rsplitOnce_char.mpr ⟨rfl, hp⟩
  have hr' : rsplitOnce ':' (h ++ ":" ++ p) = some (h', p') := rsplitOnce_char.mpr ⟨he, hp'⟩
  rw [hr] at hr'
  exact Prod.mk.inj (Option.some.inj hr')

theorem authorityReads_of_no_colon {number : String → UInt16 → Prop} {a : String}
    {r : Except EndpointError (String × UInt16)} (hc : ':' ∉ a.toList)
    (hr : AuthorityReads number a r) :
    r = if a = "" then .error .noHost else .ok (a, 443) := by
  cases hr with
  | host _ ha => rw [if_neg ha]
  | noHost => rfl
  | hostPort => simp at hc
  | badPort => simp at hc
  | noHostPort => simp at hc

theorem authorityReads_of_colon {number : String → UInt16 → Prop} {h p : String}
    {r : Except EndpointError (String × UInt16)} (hp : ':' ∉ p.toList)
    (hr : AuthorityReads number (h ++ ":" ++ p) r) :
    (∃ port, number p port ∧ r = if h = "" then .error .noHost else .ok (h, port)) ∨
      (∀ port, ¬ number p port) ∧ r = .error (.badPort p) := by
  generalize ha : h ++ ":" ++ p = a at hr
  cases hr with
  | host hc => simp [← ha] at hc
  | noHost => simp at ha
  | hostPort hp' hn hh =>
    obtain ⟨rfl, rfl⟩ := lastColon_unique hp hp' ha
    exact .inl ⟨_, hn, (if_neg hh).symm⟩
  | badPort hp' hn =>
    obtain ⟨rfl, rfl⟩ := lastColon_unique hp hp' ha
    exact .inr ⟨hn, rfl⟩
  | noHostPort hp' hn =>
    obtain ⟨rfl, rfl⟩ := lastColon_unique hp hp' ha
    exact .inl ⟨_, hn, (if_pos rfl).symm⟩

theorem signedPort_unique {p : String} {port port' : UInt16} (h : SignedPort p port)
    (h' : SignedPort p port') : port = port' := by
  have hp := (parseU16_port_iff.mpr h).1
  rw [(parseU16_port_iff.mpr h').1] at hp
  exact (Option.some.inj hp).symm

theorem authorityReads_unique {a : String} {r r' : Except EndpointError (String × UInt16)}
    (hr : AuthorityReads SignedPort a r) (hr' : AuthorityReads SignedPort a r') : r = r' := by
  cases hs : rsplitOnce ':' a with
  | none =>
    have hc := rsplitOnce_char_none.mp hs
    rw [authorityReads_of_no_colon hc hr, authorityReads_of_no_colon hc hr']
  | some found =>
    obtain ⟨h, p⟩ := found
    obtain ⟨rfl, hp⟩ := rsplitOnce_char.mp hs
    obtain ⟨port, hn, rfl⟩ | ⟨hn, rfl⟩ := authorityReads_of_colon hp hr
    · obtain ⟨port', hn', rfl⟩ | ⟨hn', -⟩ := authorityReads_of_colon hp hr'
      · rw [signedPort_unique hn hn']
      · exact absurd hn (hn' port)
    · obtain ⟨port', hn', -⟩ | ⟨-, rfl⟩ := authorityReads_of_colon hp hr'
      · exact absurd hn' (hn port')
      · rfl

theorem reads_unique {t : String} {r r' : Except EndpointError (String × UInt16)}
    (hr : Reads SignedPort t r) (hr' : Reads SignedPort t r') : r = r' := by
  cases hr with
  | noScheme hn =>
    cases hr' with
    | noScheme => rfl
    | notHttps hf => exact absurd hf.1 (hn _ _)
    | https ha =>
      obtain ⟨_, _, hf, -⟩ := ha
      exact absurd hf.1 (hn _ _)
  | notHttps hf hs =>
    cases hr' with
    | noScheme hn => exact absurd hf.1 (hn _ _)
    | notHttps hf' => rw [(hf.unique hf').1]
    | https ha =>
      obtain ⟨_, _, hf', hs', -⟩ := ha
      rw [← (hf.unique hf').1, hs] at hs'
      cases hs'
  | https ha hr => exact authorityReads_unique hr ((reads_of_https ha).mp hr')

/-! ## Where the two grammars part -/

/-- The authority writes its port with a plus sign. -/
def PlusPort (a : String) : Prop :=
  ∃ h digits port, a = h ++ ":" ++ ("+" ++ digits) ∧ PortNumber digits port

theorem signedPort_iff_of_not_plus {h p : String} {port : UInt16}
    (hplus : ¬ PlusPort (h ++ ":" ++ p)) : SignedPort p port ↔ PortNumber p port := by
  constructor
  · intro hs
    obtain hn | ⟨digits, rfl, hn⟩ := hs
    · exact hn
    · exact absurd ⟨h, digits, port, rfl, hn⟩ hplus
  · exact Or.inl

theorem authorityReads_iff_of_not_plus {a : String} {r : Except EndpointError (String × UInt16)}
    (hplus : ¬ PlusPort a) : AuthorityReads SignedPort a r ↔ AuthorityReads PortNumber a r := by
  constructor
  · intro hr
    cases hr with
    | host hc ha => exact .host hc ha
    | hostPort hp hn hh => exact .hostPort hp ((signedPort_iff_of_not_plus hplus).mp hn) hh
    | badPort hp hn =>
      exact .badPort hp (fun port hd => hn port ((signedPort_iff_of_not_plus hplus).mpr hd))
    | noHost => exact .noHost
    | noHostPort hp hn => exact .noHostPort hp ((signedPort_iff_of_not_plus hplus).mp hn)
  · intro hr
    cases hr with
    | host hc ha => exact .host hc ha
    | hostPort hp hn hh => exact .hostPort hp (.inl hn) hh
    | badPort hp hn =>
      exact .badPort hp (fun port hd => hn port ((signedPort_iff_of_not_plus hplus).mp hd))
    | noHost => exact .noHost
    | noHostPort hp hn => exact .noHostPort hp (.inl hn)

theorem reads_iff_of_not_plus {t : String} {r : Except EndpointError (String × UInt16)}
    (hplus : ∀ a, HttpsAuthority t a → ¬ PlusPort a) :
    Reads SignedPort t r ↔ Reads PortNumber t r := by
  constructor
  · intro hr
    cases hr with
    | noScheme hn => exact .noScheme hn
    | notHttps hf hs => exact .notHttps hf hs
    | https ha hr => exact .https ha ((authorityReads_iff_of_not_plus (hplus _ ha)).mp hr)
  · intro hr
    cases hr with
    | noScheme hn => exact .noScheme hn
    | notHttps hf hs => exact .notHttps hf hs
    | https ha hr => exact .https ha ((authorityReads_iff_of_not_plus (hplus _ ha)).mpr hr)

theorem not_portNumber_plus (digits : String) (port : UInt16) :
    ¬ PortNumber ("+" ++ digits) port := by
  intro h
  have hn := h.1
  rw [String.toList_append] at hn
  change isNumeral ('+' :: digits.toList) = true at hn
  rw [not_isNumeral_plus] at hn
  cases hn

theorem colon_not_mem_digits {p : String} {port : UInt16} (h : PortNumber p port) :
    ':' ∉ ("+" ++ p).toList := by
  intro hm
  rw [String.toList_append, List.mem_append] at hm
  obtain hm | hm := hm
  · exact absurd hm (by decide)
  · exact not_mem_numeral h.1 (by decide) hm

/-- A plus sign is the documented grammar's refusal and the code's number. -/
theorem not_reads_of_plus {t a : String} (ha : HttpsAuthority t a) (hplus : PlusPort a) :
    ∃ r, Reads PortNumber t r ∧ ¬ Reads SignedPort t r := by
  obtain ⟨h, digits, port, rfl, hn⟩ := hplus
  have hc := colon_not_mem_digits hn
  refine ⟨.error (.badPort ("+" ++ digits)),
    .https ha (.badPort hc (not_portNumber_plus digits)), ?_⟩
  intro hr
  obtain ⟨port', -, he⟩ | ⟨hnone, -⟩ := authorityReads_of_colon hc ((reads_of_https ha).mp hr)
  · split at he <;> cases he
  · exact hnone port (.inr ⟨digits, rfl, hn⟩)

/-- The endpoint parser reads its documented grammar on every text without brackets but
those whose authority writes a number behind a plus sign as its port. -/
theorem parse_grammar_iff (s : String) (hclose : ']' ∉ s.toList) :
    ((∀ r, dialled s = r ↔ Reads PortNumber (trim s) r) ∧
      ∀ e, Endpoint.parse s = .ok e → e.url = trim s ∧
        ∀ s' e', Endpoint.parse s' = .ok e' → e'.host = e.host → e'.form = e.form) ↔
    ∀ a, HttpsAuthority (trim s) a → ¬ PlusPort a := by
  have hcode : ∀ r, dialled s = r ↔ Reads SignedPort (trim s) r := by
    intro r
    constructor
    · intro h
      rw [← h]
      exact reads_dialled hclose
    · exact reads_unique (reads_dialled hclose)
  constructor
  · intro h a ha hplus
    obtain ⟨r, hr, hn⟩ := not_reads_of_plus ha hplus
    exact hn ((hcode r).mp ((h.1 r).mpr hr))
  · intro hplus
    constructor
    · intro r
      rw [hcode, reads_iff_of_not_plus hplus]
    · intro e he
      refine ⟨(parse_ok he).1, ?_⟩
      intro s' e' _ hh
      rw [← e'.classified, ← e.classified, hh]

theorem parse_grammar_named_port :
    Reads PortNumber (trim "https://example.com:8443/convert") (.ok ("example.com", 8443)) := by
  have ha : HttpsAuthority (trim "https://example.com:8443/convert") "example.com:8443" :=
    ⟨"https", "example.com:8443/convert", splitOnce_eq_some_iff.mp rfl, rfl, rfl⟩
  have hcode : dialled "https://example.com:8443/convert" = .ok ("example.com", 8443) := by rfl
  refine (((parse_grammar_iff "https://example.com:8443/convert" (by decide)).mpr ?_).1 _).mp hcode
  intro a ha' hplus
  obtain rfl := ha'.unique ha
  obtain ⟨h, digits, port, he, -⟩ := hplus
  have hm : '+' ∈ "example.com:8443".toList := by
    rw [he]
    simp
  exact absurd hm (by decide)

/-- A plus sign before the port is accepted, and the documented grammar refuses it. -/
theorem plus_port_accepted :
    dialled "https://example.com:+443" = .ok ("example.com", 443) ∧
      Reads PortNumber (trim "https://example.com:+443") (.error (.badPort "+443")) ∧
      ¬ ∀ r, dialled "https://example.com:+443" = r ↔
        Reads PortNumber (trim "https://example.com:+443") r := by
  have hcode : dialled "https://example.com:+443" = .ok ("example.com", 443) := by rfl
  have ha : HttpsAuthority (trim "https://example.com:+443") ("example.com" ++ ":" ++ "+443") :=
    ⟨"https", "example.com:+443", splitOnce_eq_some_iff.mp rfl, rfl, rfl⟩
  have hspec : Reads PortNumber (trim "https://example.com:+443") (.error (.badPort "+443")) :=
    .https ha (.badPort (by decide) (not_portNumber_plus "443"))
  refine ⟨hcode, hspec, ?_⟩
  intro h
  have hbad := (h _).mpr hspec
  rw [hcode] at hbad
  cases hbad

end VerityVerifier.Connect
