import VerityVerifier.Core.Endpoint

/-!
# Which host and port a URL names

The authority of a URL is split at its last colon. A bracketed literal has colons of its
own: the split keeps the brackets together only when no colon stands inside them and
none after them.
-/
namespace VerityVerifier.Connect

open VerityVerifier.Core
open VerityVerifier.Library.Text

/-- The host and the port an endpoint will be dialled at. -/
def dialled (url : String) : Except EndpointError (String × UInt16) :=
  (Endpoint.parse url).map fun e => (e.host, e.port)

theorem dialled_eq_ok_iff {url host : String} {port : UInt16} : dialled url = .ok (host, port) ↔
    ∃ e, Endpoint.parse url = .ok e ∧ e.host = host ∧ e.port = port := by
  unfold dialled
  cases Endpoint.parse url with
  | error e =>
    constructor
    · intro h
      cases h
    · intro h
      obtain ⟨_, h, -⟩ := h
      cases h
  | ok e =>
    constructor
    · intro h
      obtain ⟨hh, hp⟩ := Prod.mk.inj (Except.ok.inj h)
      exact ⟨e, rfl, hh, hp⟩
    · intro h
      obtain ⟨_, he, rfl, rfl⟩ := h
      obtain rfl := Except.ok.inj he
      rfl

/-- What may follow the authority: nothing, a path, a query or a fragment. -/
def StartsSuffix (suffix : String) : Prop :=
  ∀ c, suffix.toList.head? = some c → c ∈ ['/', '?', '#']

/-- A character that belongs to the authority wherever it stands. -/
def isPlain (c : Char) : Bool := (['/', '?', '#'].contains c).not && (isWhitespace c).not

theorem StartsSuffix.trimmed {suffix : String} (h : StartsSuffix suffix) :
    StartsSuffix (String.ofList (suffix.toList.rdropWhile isWhitespace)) := by
  intro c hc
  apply h
  obtain ⟨dropped, hd⟩ := suffix.toList.rdropWhile_prefix isWhitespace
  rw [String.toList_ofList] at hc
  obtain ⟨tail, ht⟩ := List.head?_eq_some_iff.mp hc
  rw [← hd, ht]
  rfl

/-- The authority ends where the suffix starts. -/
theorem takeWhile_authority {authority suffix : String} (ha : authority.toList.all isPlain = true)
    (hs : StartsSuffix suffix) :
    (authority.toList ++ suffix.toList).takeWhile (fun c => (['/', '?', '#'].contains c).not) =
      authority.toList := by
  apply takeWhile_append_of_head
  · intro c hc
    have h := List.all_eq_true.mp ha c hc
    unfold isPlain at h
    exact (Bool.and_eq_true_iff.mp h).1
  · intro c hc
    rw [List.contains_iff_mem.mpr (hs c hc)]
    rfl

theorem splitOnce_https (rest : String) :
    splitOnce "://" ("https://" ++ rest) = some ("https", rest) := by
  have hl : ("https://" ++ rest).toList = 'h' :: 't' :: 't' :: 'p' :: 's' :: ':' :: '/' :: '/' ::
      rest.toList := by
    rw [String.toList_append]
    rfl
  unfold splitOnce
  rw [hl]
  show some (String.ofList ['h', 't', 't', 'p', 's'], String.ofList rest.toList) = _
  rw [String.ofList_toList]

/-- Trimming stops at the authority. -/
theorem https_last {authority : String} (ha : authority.toList.all isPlain = true) :
    ∃ y, ("https://" ++ authority).toList.getLast? = some y ∧ isWhitespace y = false := by
  rw [String.toList_append]
  cases hl : authority.toList.getLast? with
  | none =>
    have hnil := List.getLast?_eq_none_iff.mp hl
    refine ⟨'/', ?_, by decide⟩
    rw [hnil]
    rfl
  | some y =>
    have hm := List.all_eq_true.mp ha y (List.mem_of_getLast? hl)
    have hw := (Bool.and_eq_true_iff.mp hm).2
    refine ⟨y, ?_, by simpa using hw⟩
    rw [List.getLast?_append, hl]
    rfl

/-- An `https` URL is dialled at what its authority splits into. -/
theorem dialled_https {authority suffix : String} (ha : authority.toList.all isPlain = true)
    (hs : StartsSuffix suffix) : dialled ("https://" ++ authority ++ suffix) =
      match Endpoint.splitPort authority with
      | .error e => .error e
      | .ok (host, port) => if host = "" then .error .noHost else .ok (host, port) := by
  obtain ⟨y, hy, hwy⟩ := https_last ha
  have hx : ("https://" ++ authority).toList.head? = some 'h' := by
    rw [String.toList_append]
    rfl
  have ht : trim ("https://" ++ authority ++ suffix) = "https://" ++ (authority ++
      String.ofList (suffix.toList.rdropWhile isWhitespace)) := by
    rw [trim_append hx hy (by decide) hwy, String.append_assoc]
  have hauth : String.ofList (List.takeWhile (fun c => (['/', '?', '#'].contains c).not)
      (authority ++ String.ofList (suffix.toList.rdropWhile isWhitespace)).toList) = authority := by
    rw [String.toList_append, takeWhile_authority ha hs.trimmed, String.ofList_toList]
  have hscheme : eqIgnoreAsciiCase "https" Endpoint.https = true := by decide
  unfold dialled Endpoint.parse
  rw [ht]
  simp only [splitOnce_https, hscheme, hauth]
  cases Endpoint.splitPort authority with
  | error e => rfl
  | ok found =>
    obtain ⟨host, port⟩ := found
    by_cases hh : host = ""
    · simp [hh, Except.map]
    · simp [hh, Except.map]

/-! ## Bracketed literals -/

/-- What an IPv6 literal is written with. -/
def isLiteral (c : Char) : Bool := isHexdigit c || c == ':' || c == '.'

def bracketed (literal : String) : String := "[" ++ literal ++ "]"

/-- The port as it is written in a URL, when there is one. -/
def portText (port : Option UInt16) : String := port.elim "" fun p => ":" ++ toString p.toNat

def bracketedUrl (literal : String) (port : Option UInt16) (suffix : String) : String :=
  "https://" ++ (bracketed literal ++ portText port) ++ suffix

/-- A host with a port behind it is not the host. -/
theorem append_portText_ne (host : String) (port : UInt16) :
    host ++ portText (some port) ≠ host := by
  intro he
  have hlen := congrArg String.length he
  have hport : (portText (some port)).length = 1 + (toString port.toNat).length :=
    String.length_append ":" (toString port.toNat)
  rw [String.length_append] at hlen
  omega

theorem isPlain_of_isLiteral {c : Char} (h : isLiteral c = true) : isPlain c = true := by
  have hsep : c ∉ ['/', '?', '#'] := by
    intro hc
    simp only [List.mem_cons, List.not_mem_nil, or_false] at hc
    rcases hc with rfl | rfl | rfl <;> exact absurd h (by decide)
  have hwhite : isWhitespace c = false := by
    simp only [isLiteral, isHexdigit, Bool.or_eq_true, Bool.and_eq_true, decide_eq_true_eq,
      beq_iff_eq] at h
    rcases h with (h | rfl) | rfl
    · simp only [isWhitespace, Bool.or_eq_false_iff, Bool.and_eq_false_iff, decide_eq_false_iff_not,
        beq_eq_false_iff_ne]
      omega
    · decide
    · decide
  have hcontains : ['/', '?', '#'].contains c = false := by
    rw [← Bool.not_eq_true, List.contains_iff_mem]
    exact hsep
  unfold isPlain
  rw [hcontains, hwhite]
  rfl

theorem isLiteral_of_decimal {n : Nat} {c : Char} (h : c ∈ (toString n).toList) :
    isLiteral c = true ∧ c ≠ ':' := by
  rw [Nat.toString_eq_ofList_toDigits, String.toList_ofList] at h
  have hd : c.isDigit = true := Nat.isDigit_of_mem_toDigits (by decide) (by decide) h
  obtain ⟨hlow, hhigh⟩ := Char.isDigit_iff_toNat.mp hd
  have hlow : 48 ≤ c.toNat := hlow
  have hhigh : c.toNat ≤ 57 := hhigh
  constructor
  · simp [isLiteral, isHexdigit, hlow, hhigh]
  · intro hc
    rw [hc] at hhigh
    exact absurd hhigh (by decide)

theorem bracketed_plain {literal : String} (port : Option UInt16)
    (h : literal.toList.all isLiteral = true) :
    (bracketed literal ++ portText port).toList.all isPlain = true := by
  have hl : literal.toList.all isPlain = true := by
    rw [List.all_eq_true] at h ⊢
    exact fun c hc => isPlain_of_isLiteral (h c hc)
  have hp : (portText port).toList.all isPlain = true := by
    cases port with
    | none => rfl
    | some p =>
      rw [List.all_eq_true]
      intro c hc
      unfold portText at hc
      rw [Option.elim_some, String.toList_append, List.mem_append] at hc
      rcases hc with hc | hc
      · obtain rfl := List.mem_singleton.mp hc
        decide
      · exact isPlain_of_isLiteral (isLiteral_of_decimal hc).1
  have hopen : isPlain '[' = true := by decide
  have hclose : isPlain ']' = true := by decide
  unfold bracketed
  simp [hl, hp, hopen, hclose]

/-- A colon after the brackets is the last one, and the guard then refuses to split there. -/
theorem splitPort_bracketed_port (literal : String) (port : UInt16) :
    Endpoint.splitPort (bracketed literal ++ portText (some port)) =
      .ok (bracketed literal ++ portText (some port), 443) := by
  have hr : rsplitOnce ':' (bracketed literal ++ portText (some port)) =
      some (bracketed literal, toString port.toNat) := by
    apply rsplitOnce_char.mpr
    refine ⟨?_, ?_⟩
    · unfold portText
      rw [Option.elim_some, String.append_assoc]
      rfl
    · intro hc
      exact (isLiteral_of_decimal hc).2 rfl
  have hlast : (bracketed literal).toList.getLast? = some ']' := by
    unfold bracketed
    rw [String.toList_append]
    exact List.getLast?_concat
  unfold Endpoint.splitPort
  rw [hr]
  simp only [hlast]
  rfl

theorem splitPort_bracketed {literal : String} (h : ':' ∉ literal.toList) :
    Endpoint.splitPort (bracketed literal) = .ok (bracketed literal, 443) := by
  have hr : rsplitOnce ':' (bracketed literal) = none := by
    apply rsplitOnce_char_none.mpr
    unfold bracketed
    simp [h]
  unfold Endpoint.splitPort
  rw [hr]
  rfl

/-- Without one the last colon is inside the brackets, and what follows it is no port. -/
theorem splitPort_bracketed_colon {literal : String} (hl : literal.toList.all isLiteral = true)
    (h : ':' ∈ literal.toList) :
    ∃ p, Endpoint.splitPort (bracketed literal) = .error (.badPort p) := by
  cases hs : rsplitOnce ':' literal with
  | none => exact absurd h (rsplitOnce_char_none.mp hs)
  | some found =>
    obtain ⟨x, y⟩ := found
    obtain ⟨rfl, hy⟩ := rsplitOnce_char.mp hs
    have hr : rsplitOnce ':' (bracketed (x ++ String.singleton ':' ++ y)) =
        some ("[" ++ x, y ++ "]") := by
      apply rsplitOnce_char.mpr
      constructor
      · simp only [bracketed, String.append_assoc]
      · simp [hy]
    have hlast : ("[" ++ x).toList.getLast? ≠ some ']' := by
      intro hx
      have hm := List.mem_of_getLast? hx
      rw [String.toList_append] at hm
      rcases List.mem_append.mp hm with hm | hm
      · exact absurd hm (by decide)
      · have hxl : ']' ∈ (x ++ String.singleton ':' ++ y).toList := by
          simp [hm]
        exact absurd (List.all_eq_true.mp hl ']' hxl) (by decide)
    have hport : parseU16 (y ++ "]") = none := by
      apply parseU16_of_mem (c := ']')
      · simp
      · decide
      · decide
    refine ⟨y ++ "]", ?_⟩
    unfold Endpoint.splitPort
    rw [hr]
    simp only [hlast, ne_eq, not_false_eq_true, if_true, hport]

/-- A bracketed literal is dialled as written exactly when the URL names no port and the
literal has no colon. -/
theorem parse_bracketed_iff {literal suffix : String} {port : Option UInt16}
    (hl : literal.toList.all isLiteral = true) (hs : StartsSuffix suffix) :
    (∃ e, Endpoint.parse (bracketedUrl literal port suffix) = .ok e ∧
      e.host = bracketed literal ∧ e.port = port.getD 443) ↔
    port = none ∧ ':' ∉ literal.toList := by
  have hd := dialled_https (bracketed_plain port hl) hs
  rw [← dialled_eq_ok_iff]
  unfold bracketedUrl
  rw [hd]
  have hne : bracketed literal ≠ "" := by
    unfold bracketed
    simp
  cases port with
  | none =>
    have ha : bracketed literal ++ portText none = bracketed literal := String.append_empty
    rw [ha]
    by_cases hc : ':' ∈ literal.toList
    · obtain ⟨p, hp⟩ := splitPort_bracketed_colon hl hc
      rw [hp]
      simp [hc]
    · rw [splitPort_bracketed hc]
      simp [hc, hne]
  | some p =>
    rw [splitPort_bracketed_port]
    have hfull : bracketed literal ++ portText (some p) ≠ "" := by
      intro he
      exact hne (String.append_eq_empty_iff.mp he).1
    show (if bracketed literal ++ portText (some p) = "" then _ else _) = _ ↔ _
    rw [if_neg hfull]
    constructor
    · intro h
      exact absurd (Prod.mk.inj (Except.ok.inj h)).1 (append_portText_ne _ p)
    · intro h
      cases h.1

theorem parse_bracketed_colonless : ∃ e,
    Endpoint.parse (bracketedUrl "fe.80" none "/convert") = .ok e ∧
      e.host = bracketed "fe.80" ∧ e.port = 443 := by
  have hs : StartsSuffix "/convert" := by
    intro c hc
    obtain rfl := Option.some.inj hc
    decide
  exact (parse_bracketed_iff (by decide) hs).mpr ⟨rfl, by decide⟩

/-- The loopback literal: its port goes into the host name, and without one it is refused. -/
theorem loopback_misread :
    ¬ ((∃ e, Endpoint.parse "https://[::1]:8443/" = .ok e ∧ e.host = "[::1]" ∧ e.port = 8443) ∧
      ∃ e, Endpoint.parse "https://[::1]/" = .ok e ∧ e.host = "[::1]" ∧ e.port = 443) ∧
    dialled "https://[::1]:8443/" = .ok ("[::1]:8443", 443) ∧
    dialled "https://[::1]/" = .error (.badPort "1]") := by
  have hport : dialled "https://[::1]:8443/" = .ok ("[::1]:8443", 443) := by rfl
  have hbare : dialled "https://[::1]/" = .error (.badPort "1]") := by rfl
  refine ⟨?_, hport, hbare⟩
  intro h
  obtain ⟨-, e, he⟩ := h
  have hok := dialled_eq_ok_iff.mpr ⟨e, he⟩
  rw [hbare] at hok
  cases hok

end VerityVerifier.Connect
