import VerityVerifier.Runner.Attestation
import VerityVerifier.Soundness.Replay

/-!
# What the exit codes say

A shell reads nothing but the code. Zero and one are verdicts, for and against; two says
that there is none. The endpoint that was named changes none of them.
-/
namespace VerityVerifier.Runner

open VerityVerifier.Core
open VerityVerifier.Library.ByteString
open VerityVerifier.Library.Console
open VerityVerifier.Library.Fallible
open VerityVerifier.Library.Text
open VerityVerifier.Soundness

variable {κ : Type}

/-! ## How each part ends -/

theorem orExit_ok_iff {α : Type} {said : String → String} {x : Except String α} {a : α} :
    (orExit said x).result = .ok a ↔ x = .ok a := by
  cases x with
  | ok b => simp [orExit]
  | error why => simp [orExit]

theorem orExit_error_iff {α : Type} {said : String → String} {x : Except String α} {e : Exit} :
    (orExit said x).result = .error e ↔ e = .code 2 ∧ ∃ why, x = .error why := by
  cases x with
  | ok b => simp [orExit]
  | error why => simp [orExit, eq_comm]

theorem expect_ok_iff {α : Type} {o : Option α} {message : String} {a : α} :
    expect o message = .ok a ↔ o = some a := by
  cases o <;> simp [expect]

theorem expectOk_ok_iff {ε α : Type} {x : Except ε α} {message : String} {a : α} :
    expectOk x message = .ok a ↔ x = .ok a := by
  unfold expectOk
  rw [expect_ok_iff]
  cases x <;> simp [Except.toOption]

/-- A part that only panics exits with no code. -/
def Panics {α : Type} (x : Except Exit α) : Prop := ∀ n, x ≠ .error (.code n)

theorem panics_expect {α : Type} (o : Option α) (message : String) : Panics (expect o message) := by
  intro n
  cases o <;> simp [expect]

theorem Panics.bind {α β : Type} {x : Except Exit α} {f : α → Except Exit β} (hx : Panics x)
    (hf : ∀ a, Panics (f a)) : Panics (x >>= f) := by
  intro n h
  cases x with
  | ok a => exact hf a n h
  | error e => exact hx n (congrArg Except.error (Except.error.inj h))

theorem Panics.map {α β : Type} {x : Except Exit α} (hx : Panics x) (f : α → β) :
    Panics (x.map f) := by
  intro n h
  exact hx n (map_error_iff.mp h)

theorem panics_options (args : List String) : Panics (options args) := by
  refine (panics_expect _ _).bind fun _ => (panics_expect _ _).bind fun _ =>
    (panics_expect _ _).bind fun _ n h => ?_
  cases h

theorem panics_attestedQuote (W : World κ) (path : String) : Panics (attestedQuote W path) :=
  (panics_expect _ _).bind fun _ => (panics_expect _ _).bind fun _ =>
    (panics_expect _ _).bind fun _ => panics_expect _ _

theorem panics_measurementAt {notHex wrongLength : String → String} {raw : Json} {key : String} :
    Panics (measurementAt (fun k => .panicked (notHex k)) (fun k => .panicked (wrongLength k)) raw
      key) := by
  intro n h
  unfold measurementAt at h
  split at h
  · cases h
  · split at h
    · cases h
    · split at h
      · cases h
      · cases h

theorem panics_bootReference (W : World κ) (path : Option String) :
    Panics (bootReference W path) := by
  cases path with
  | none =>
    intro n h
    cases h
  | some path =>
    apply Panics.map
    refine (panics_expect _ _).bind fun _ => (panics_expect _ _).bind fun raw => ?_
    refine panics_measurementAt.bind fun _ => panics_measurementAt.bind fun _ =>
      panics_measurementAt.bind fun _ => panics_measurementAt.bind fun _ n h => ?_
    cases h

/-- No image in the bundle is revoked, so the report aborts no run. -/
theorem reportOsImage_result (before : String) (name : Option String) :
    (reportOsImage before name).result = .ok true := by
  unfold reportOsImage
  cases name with
  | none => rfl
  | some name =>
    dsimp only
    split
    · rename_i image hf
      have hr : image.revoked = false := by
        have hall : ∀ i ∈ knownOsImages, i.revoked = false := by decide
        exact hall image (List.mem_of_find?_eq_some hf)
      rw [hr]
      by_cases hm : meetsMinimumVersion name = false
      · simp [hm]
      · simp [hm]
    · rfl

section
variable {W : World κ} {o : Options}

theorem load_ok_iff {loaded : Loaded} : (load W o).result = .ok loaded ↔
    attestedQuote W o.attestation = .ok loaded.rawQuote ∧
    W.read o.compose = .ok loaded.composeDocument ∧
    licensedHash W.platform o.licensedComposeHash loaded.composeDocument =
      .ok (loaded.composeHash, loaded.selfReferential) ∧
    peerCertificate W o.leafCert = .ok loaded.peer := by
  simp only [load, Ran.bind_ok, Ran.result_silent, expectOk_ok_iff, orExit_ok_iff, Prod.exists,
    Ran.result_pure, Except.ok.injEq]
  constructor
  · intro h
    obtain ⟨_, hq, _, hd, _, _, hh, _, hp, rfl⟩ := h
    exact ⟨hq, hd, hh, hp⟩
  · intro h
    obtain ⟨hq, hd, hh, hp⟩ := h
    exact ⟨_, hq, _, hd, _, _, hh, _, hp, rfl⟩

/-- The licensed hash or the leaf cannot be read, once the quote and the document can. -/
inductive Unreadable (W : World κ) (o : Options) : Prop
  | hash {rawQuote document : Bytes} {why : String}
    (hq : attestedQuote W o.attestation = .ok rawQuote) (hd : W.read o.compose = .ok document)
    (hh : licensedHash W.platform o.licensedComposeHash document = .error why)
  | leaf {rawQuote document : Bytes} {hash : ComposeHash × Bool} {why : String}
    (hq : attestedQuote W o.attestation = .ok rawQuote) (hd : W.read o.compose = .ok document)
    (hh : licensedHash W.platform o.licensedComposeHash document = .ok hash)
    (hp : peerCertificate W o.leafCert = .error why)

theorem load_code_iff {n : UInt8} :
    (load W o).result = .error (.code n) ↔ n = 2 ∧ Unreadable W o := by
  have hq : ∀ n, attestedQuote W o.attestation ≠ .error (.code n) :=
    panics_attestedQuote W o.attestation
  have hd : ∀ n, expectOk (W.read o.compose) "compose file" ≠ .error (.code n) :=
    panics_expect _ _
  simp only [load, Ran.bind_error, Ran.result_silent, hq, hd, expectOk_ok_iff, orExit_ok_iff,
    orExit_error_iff, Prod.exists, Ran.result_pure, reduceCtorEq, Exit.code.injEq, false_or,
    and_false, exists_false, or_false]
  constructor
  · intro h
    obtain ⟨_, hq, _, hd, ⟨rfl, why, hh⟩ | ⟨_, _, hh, rfl, why, hp⟩⟩ := h
    · exact ⟨rfl, .hash hq hd hh⟩
    · exact ⟨rfl, .leaf hq hd hh hp⟩
  · intro h
    obtain ⟨rfl, ⟨hq, hd, hh⟩ | ⟨hq, hd, hh, hp⟩⟩ := h
    · exact ⟨_, hq, _, hd, .inl ⟨rfl, _, hh⟩⟩
    · exact ⟨_, hq, _, hd, .inr ⟨_, _, hh, rfl, _, hp⟩⟩

theorem introduce_result (loaded : Loaded) : (introduce loaded).result = .ok () := by
  unfold introduce
  cases loaded.selfReferential <;> simp

theorem noteEndpoint_result (endpoint : Option String) :
    (noteEndpoint endpoint).result = .ok () := by
  cases endpoint with
  | none => rfl
  | some endpoint =>
    simp only [noteEndpoint, Ran.result_bind, Ran.result_println, ok_bind]
    unfold warnIfTlsTerminating
    split
    · rfl
    · split
      · rfl
      · rfl

end

section
variable {W : AttestWorld κ} {o : Options} {loaded : Loaded}

theorem noted_result (p : Prepared κ) : (if loaded.peer = .notConnected then do
    Ran.println notAttempted
    pure p
  else (pure p : Ran Exit (Prepared κ))).result = .ok p := by
  split
  · rfl
  · rfl

theorem gather_ok_iff {p : Prepared κ} : (gather W o loaded).result = .ok p ↔
    W.collateralClient = .ok () ∧ W.fetch loaded.rawQuote = .ok p.evidence.collateral ∧
    W.clock = some p.evidence.nowSecs ∧
    bootReference W.toWorld o.bootReference = .ok p.boot ∧
    p.licensed = ⟨loaded.composeHash, o.imageDigest⟩ ∧
    p.evidence.rawQuote = loaded.rawQuote ∧
    p.evidence.composeDocument = loaded.composeDocument ∧
    p.evidence.peerCertificate = loaded.peer := by
  simp only [gather, Ran.bind_ok, Ran.result_silent, expectOk_ok_iff, orExit_ok_iff, expect_ok_iff,
    reportOsImage_result, Except.ok.injEq, exists_eq_left', Bool.true_eq_false, if_false,
    noted_result]
  constructor
  · intro h
    obtain ⟨_, hc, _, hf, _, ht, _, hb, rfl⟩ := h
    exact ⟨hc, hf, ht, hb, rfl, rfl, rfl, rfl⟩
  · intro h
    obtain ⟨hc, hf, ht, hb, hl, hq, hd, hp⟩ := h
    obtain ⟨licensed, ⟨rawQuote, document, collateral, nowSecs, peer⟩, boot⟩ := p
    dsimp only at hl hq hd hp
    subst hl hq hd hp
    exact ⟨_, hc, _, hf, _, ht, _, hb, rfl⟩

theorem gather_code_iff {n : UInt8} : (gather W o loaded).result = .error (.code n) ↔
    n = 2 ∧ W.collateralClient = .ok () ∧ ∃ why, W.fetch loaded.rawQuote = .error why := by
  have hclient : ∀ n, expectOk W.collateralClient "collateral client" ≠ .error (.code n) :=
    panics_expect _ _
  have hclock : ∀ n, expect W.clock "clock" ≠ .error (.code n) := panics_expect _ _
  have hboot : ∀ n, bootReference W.toWorld o.bootReference ≠ .error (.code n) :=
    panics_bootReference W.toWorld o.bootReference
  simp only [gather, Ran.bind_error, Ran.result_silent, hclient, hclock, hboot, expectOk_ok_iff,
    orExit_ok_iff, orExit_error_iff, expect_ok_iff, reportOsImage_result, Except.ok.injEq,
    exists_eq_left', Bool.true_eq_false, if_false, noted_result, reduceCtorEq, false_or, and_false,
    exists_false, or_false, Exit.code.injEq]
  constructor
  · intro h
    obtain ⟨_, hc, rfl, hf⟩ := h
    exact ⟨rfl, hc, hf⟩
  · intro h
    obtain ⟨rfl, hc, hf⟩ := h
    exact ⟨(), hc, rfl, hf⟩

theorem reportTranscript_result (v : Verdict) : (reportTranscript v).result = .ok () := by
  simp only [reportTranscript, Ran.result_bind, Ran.result_println, ok_bind]
  rw [Ran.result_forEach (fun _ => rfl), ok_bind, Ran.result_forEach (fun _ => rfl)]

theorem reportMeasuredRegisters_result (P : Platform κ) (rawQuote : Bytes) :
    (reportMeasuredRegisters P rawQuote).result = .ok () := by
  unfold reportMeasuredRegisters
  split
  · rfl
  · simp only [Ran.result_bind, Ran.result_println, ok_bind]
    exact Ran.result_forEach (fun _ => rfl) _

/-- The last word is the verdict's. -/
theorem conclude_result (P : Platform κ) (p : Prepared κ) : (conclude P p).result =
    .ok (if (verify P p.licensed p.evidence p.boot).isTrustworthy then .success else .failure) := by
  simp only [conclude, Ran.result_bind, reportTranscript_result, reportMeasuredRegisters_result,
    ok_bind]
  split
  · rfl
  · rfl

end

/-! ## The codes -/

/-- Everything a run needs is there: this is what it verifies. -/
structure Ready (W : AttestWorld κ) (o : Options) (p : Prepared κ) : Prop where
  quote : attestedQuote W.toWorld o.attestation = .ok p.evidence.rawQuote
  document : W.read o.compose = .ok p.evidence.composeDocument
  hash : ∃ b, licensedHash W.platform o.licensedComposeHash p.evidence.composeDocument =
    .ok (p.licensed.composeHash, b)
  digest : p.licensed.imageDigest = o.imageDigest
  peer : peerCertificate W.toWorld o.leafCert = .ok p.evidence.peerCertificate
  client : W.collateralClient = .ok ()
  collateral : W.fetch p.evidence.rawQuote = .ok p.evidence.collateral
  clock : W.clock = some p.evidence.nowSecs
  boot : bootReference W.toWorld o.bootReference = .ok p.boot

/-- Everything was read, and the collateral cannot be had. -/
structure Unfetched (W : AttestWorld κ) (o : Options) : Prop where
  load : ∃ loaded, (load W.toWorld o).result = .ok loaded ∧
    ∃ why, W.fetch loaded.rawQuote = .error why
  client : W.collateralClient = .ok ()

variable {W : AttestWorld κ}

theorem runOptions_result (W : AttestWorld κ) (o : Options) : (runOptions W o).result =
    ((load W.toWorld o).result >>= fun loaded => (gather W o loaded).result) >>= fun p =>
      .ok (if (verify W.platform p.licensed p.evidence p.boot).isTrustworthy then .success
        else .failure) := by
  simp only [runOptions, Ran.result_bind, introduce_result, noteEndpoint_result, conclude_result,
    ok_bind]
  cases (load W.toWorld o).result <;> rfl

theorem ready_iff {o : Options} {p : Prepared κ} : Ready W o p ↔
    ∃ loaded, (load W.toWorld o).result = .ok loaded ∧ (gather W o loaded).result = .ok p := by
  simp only [load_ok_iff, gather_ok_iff]
  constructor
  · intro h
    obtain ⟨b, hb⟩ := h.hash
    refine ⟨⟨p.evidence.rawQuote, p.evidence.composeDocument, p.licensed.composeHash, b,
      p.evidence.peerCertificate⟩, ⟨h.quote, h.document, hb, h.peer⟩, h.client, h.collateral,
      h.clock, h.boot, ?_, rfl, rfl, rfl⟩
    rw [← h.digest]
  · intro h
    obtain ⟨loaded, ⟨hq, hd, hh, hp⟩, hc, hf, ht, hb, hl, hq', hd', hp'⟩ := h
    rw [← hq'] at hq hf
    rw [← hd'] at hd hh
    rw [← hp'] at hp
    have hhash : p.licensed.composeHash = loaded.composeHash := by rw [hl]
    have hdigest : p.licensed.imageDigest = o.imageDigest := by rw [hl]
    rw [← hhash] at hh
    exact ⟨hq, hd, ⟨_, hh⟩, hdigest, hp, hc, hf, ht, hb⟩

/-- The code of the verdict, once everything is there. -/
theorem verifyAttestation_ok_iff {e : Exit} : (verifyAttestation W).result = .ok e ↔
    ∃ o p, options W.args = .ok o ∧ Ready W o p ∧
      e = if (verify W.platform p.licensed p.evidence p.boot).isTrustworthy then .success
        else .failure := by
  simp only [verifyAttestation, Ran.bind_ok, Ran.result_silent, runOptions_result, bind_ok_iff,
    ready_iff, Except.ok.injEq]
  constructor
  · intro h
    obtain ⟨o, ho, p, ⟨loaded, hl, hg⟩, rfl⟩ := h
    exact ⟨o, p, ho, ⟨loaded, hl, hg⟩, rfl⟩
  · intro h
    obtain ⟨o, p, ho, hr, rfl⟩ := h
    exact ⟨o, ho, p, hr, rfl⟩

theorem verifyAttestation_code_iff {n : UInt8} :
    (verifyAttestation W).result = .error (.code n) ↔
      n = 2 ∧ ∃ o, options W.args = .ok o ∧ (Unreadable W.toWorld o ∨ Unfetched W o) := by
  have hoptions : ∀ n, options W.args ≠ .error (.code n) := panics_options W.args
  have hrun : ∀ o, (runOptions W o).result = .error (.code n) ↔
      (load W.toWorld o).result = .error (.code n) ∨
        ∃ loaded, (load W.toWorld o).result = .ok loaded ∧
          (gather W o loaded).result = .error (.code n) := by
    intro o
    rw [runOptions_result]
    cases hl : (load W.toWorld o).result with
    | error e => simp [bind, Except.bind]
    | ok loaded =>
      simp only [ok_bind, reduceCtorEq, Except.ok.injEq, exists_eq_left', false_or]
      cases hg : (gather W o loaded).result with
      | error e => simp [bind, Except.bind]
      | ok p => simp
  simp only [verifyAttestation, Ran.bind_error, Ran.result_silent, hoptions, false_or, hrun,
    load_code_iff, gather_code_iff]
  constructor
  · intro h
    obtain ⟨o, ho, ⟨rfl, hu⟩ | ⟨loaded, hl, rfl, hc, hf⟩⟩ := h
    · exact ⟨rfl, o, ho, .inl hu⟩
    · exact ⟨rfl, o, ho, .inr ⟨⟨loaded, hl, hf⟩, hc⟩⟩
  · intro h
    obtain ⟨rfl, o, ho, hu | ⟨⟨loaded, hl, hf⟩, hc⟩⟩ := h
    · exact ⟨o, ho, .inl ⟨rfl, hu⟩⟩
    · exact ⟨o, ho, .inr ⟨loaded, hl, rfl, hc, hf⟩⟩

/-- Zero is acceptance and one is refusal, both of evidence that was all there; two is a run
that could not be performed; any other end is a panic. -/
theorem verifyAttestation_exit (W : AttestWorld κ) :
    ((verifyAttestation W).exit = .code 0 ↔ ∃ o p, options W.args = .ok o ∧ Ready W o p ∧
      Accepts W.platform p.licensed p.evidence) ∧
    ((verifyAttestation W).exit = .code 1 ↔ ∃ o p, options W.args = .ok o ∧ Ready W o p ∧
      ¬ Accepts W.platform p.licensed p.evidence) ∧
    ((verifyAttestation W).exit = .code 2 ↔ ∃ o, options W.args = .ok o ∧
      (Unreadable W.toWorld o ∨ Unfetched W o)) ∧
    ∀ n, (verifyAttestation W).exit = .code n → n = 0 ∨ n = 1 ∨ n = 2 := by
  have hverdict : ∀ (p : Prepared κ) (n : UInt8),
      (.code n = if (verify W.platform p.licensed p.evidence p.boot).isTrustworthy then
        Exit.success else Exit.failure) ↔
      n = 0 ∧ Accepts W.platform p.licensed p.evidence ∨
        n = 1 ∧ ¬ Accepts W.platform p.licensed p.evidence := by
    intro p n
    rw [← @trustworthy_iff_accepts κ W.platform p.licensed p.evidence p.boot]
    split
    · rename_i ht
      simp [Exit.success, ht]
    · rename_i ht
      simp [Exit.failure, ht]
  simp only [Ran.exit_iff, verifyAttestation_ok_iff, verifyAttestation_code_iff, hverdict]
  refine ⟨?_, ?_, ?_, ?_⟩
  · simp
  · simp
  · simp
  · intro n h
    rcases h with ⟨o, p, -, -, ⟨rfl, -⟩ | ⟨rfl, -⟩⟩ | ⟨rfl, -⟩
    · exact .inl rfl
    · exact .inr (.inl rfl)
    · exact .inr (.inr rfl)

theorem verifyAttestation_of_ready {W : AttestWorld κ} {o : Options} {p : Prepared κ}
    (ho : options W.args = .ok o) (hp : Ready W o p) : (verifyAttestation W).exit =
      if (verify W.platform p.licensed p.evidence p.boot).isTrustworthy then .success
      else .failure := by
  unfold Ran.exit
  rw [verifyAttestation_ok_iff.mpr ⟨o, p, ho, hp, rfl⟩]

/-! ## What the arguments cannot do -/

theorem lines_of_ok {α β : Type} {x : Ran Exit α} {a : α} (hx : x.result = .ok a)
    (f : α → Ran Exit β) : (x >>= f).lines = x.lines ++ (f a).lines := by
  rw [Ran.lines_bind, hx]

theorem load_endpoint (W : World κ) (o : Options) (endpoint : Option String) :
    load W { o with endpoint } = load W o := rfl

/-- The endpoint adds its own lines in one place or none, and nothing else of a run depends
on it. -/
theorem runOptions_endpoint (W : AttestWorld κ) (o : Options) :
    (∀ endpoint, (runOptions W { o with endpoint }).exit = (runOptions W o).exit) ∧
    ((∃ before after, ∀ endpoint, (runOptions W { o with endpoint }).lines =
        before ++ (noteEndpoint endpoint).lines ++ after) ∨
      ∀ endpoint, (runOptions W { o with endpoint }).lines = (runOptions W o).lines) := by
  constructor
  · intro endpoint
    unfold Ran.exit
    rw [runOptions_result, runOptions_result]
    rfl
  · cases hl : (load W.toWorld o).result with
    | error e =>
      right
      intro endpoint
      unfold runOptions
      rw [Ran.lines_bind, Ran.lines_bind, load_endpoint, hl]
    | ok loaded =>
      left
      refine ⟨(load W.toWorld o).lines ++ (introduce loaded).lines,
        (do conclude W.platform (← gather W o loaded)).lines, ?_⟩
      intro endpoint
      unfold runOptions
      rw [load_endpoint, lines_of_ok hl, lines_of_ok (introduce_result loaded),
        lines_of_ok (noteEndpoint_result _)]
      simp only [List.append_assoc]
      rfl

/-! ## The arguments -/

/-- One more name and its value at the end are not seen by another name, also where the value is
that name. -/
theorem arg_append {args : List String} {flag value name : String}
    (hlast : args.getLast? ≠ some name) (hname : name ≠ flag) :
    arg (args ++ [flag, value]) name = arg args name := by
  induction args with
  | nil =>
    have hvalue : arg [value] name = none := by
      unfold arg
      split
      · rfl
      · rfl
    exact (if_neg hname.symm).trans hvalue
  | cons a rest ih =>
    cases rest with
    | nil =>
      have ha : a ≠ name := fun he => hlast (congrArg some he)
      rw [List.cons_append, arg, arg, if_neg ha, if_neg ha]
      exact ih (by simp)
    | cons b rest =>
      rw [List.getLast?_cons_cons] at hlast
      rw [List.cons_append, arg, arg, ih hlast]
      rfl

/-- The names that a run looks up, but for the endpoint. -/
def flags : List String :=
  ["--attestation", "--compose", "--image-digest", "--os-image", "--boot-reference",
    "--leaf-cert", "--licensed-compose-hash"]

theorem options_endpoint {args : List String} (hlast : ∀ name ∈ flags, args.getLast? ≠ some name)
    (url : String) :
    options (args ++ ["--endpoint", url]) = (options args).map fun o =>
      { o with endpoint := arg (args ++ ["--endpoint", url]) "--endpoint" } := by
  have hkeep : ∀ name ∈ flags, arg (args ++ ["--endpoint", url]) name = arg args name := by
    intro name hn
    apply arg_append (hlast name hn)
    intro he
    subst he
    exact absurd hn (by decide)
  simp only [flags, List.forall_mem_cons] at hkeep
  obtain ⟨h₁, h₂, h₃, h₄, h₅, h₆, h₇, -⟩ := hkeep
  unfold options
  rw [h₁, h₂, h₃, h₄, h₅, h₆, h₇]
  cases arg args "--attestation" with
  | none => rfl
  | some attestation =>
    cases arg args "--compose" with
    | none => rfl
    | some compose =>
      cases arg args "--image-digest" with
      | none => rfl
      | some imageDigest => rfl

/-- Naming an endpoint behind complete arguments, whatever it is, never changes how the run
ends. -/
theorem verifyAttestation_endpoint (W : AttestWorld κ) (url : String)
    (hlast : ∀ name ∈ flags, W.args.getLast? ≠ some name) :
    (verifyAttestation { W with args := W.args ++ ["--endpoint", url] }).exit =
      (verifyAttestation W).exit := by
  have hrun : ∀ (args : List String) (o : Options),
      (runOptions { W with args } o).exit = (runOptions W o).exit := fun _ _ => rfl
  have hexit : ∀ (x : Except Exit Options) (f : Options → Ran Exit Exit),
      (Ran.silent x >>= f).exit = match x with
        | .ok o => (f o).exit
        | .error e => e := by
    intro x f
    unfold Ran.exit
    rw [Ran.result_bind, Ran.result_silent]
    cases x <;> rfl
  unfold verifyAttestation
  rw [hexit, hexit, options_endpoint hlast url]
  cases options W.args with
  | error e => rfl
  | ok o => exact (hrun _ _).trans ((runOptions_endpoint W o).1 _)

/-! ## Recorded evidence, in files -/

@[irreducible] def attestationFile : Bytes :=
  utf8 ("\x7b\"app_certificates\":[\x7b\"quote\":\"" ++ hex firstKey.quote ++ "\"\x7d]\x7d")

def attestationJson : Json :=
  .object [("app_certificates", .array [.object [("quote", .string (hex firstKey.quote))]])]

/-- The recorded platform, with an answer for the attestation file. -/
def filedPlatform : Platform String :=
  { recording.platform with
    jsonFromSlice := fun bytes =>
      if bytes = attestationFile then .ok attestationJson
      else recording.platform.jsonFromSlice bytes }

def recordedHex : String := "4203954168c6d38813a107f48f6dfa679e1daff8dd5dabed4e1752ef2d2b29c5"

def filed (args : List String) : World String where
  platform := filedPlatform
  args
  read path :=
    if path = "attestation.json" then .ok attestationFile
    else if path = "app-compose.json" then .ok recordedDocument
    else if path = "leaf.der" then .ok firstKey.leaf
    else .error "not found"
  pemDecode _ := .error "not PEM"

def recordedRun : AttestWorld String where
  toWorld := filed ["verify-attestation", "--attestation", "attestation.json", "--compose",
    "app-compose.json", "--image-digest", probeDigest, "--leaf-cert", "leaf.der",
    "--licensed-compose-hash", recordedHex]
  collateralClient := .ok ()
  fetch _ := .ok "august"
  clock := some 1787875200

def recordedOptions : Options where
  attestation := "attestation.json"
  compose := "app-compose.json"
  imageDigest := probeDigest
  osImage := none
  bootReference := none
  endpoint := none
  leafCert := some "leaf.der"
  licensedComposeHash := some recordedHex

def recordedPrepared : Prepared String where
  licensed := probeLicence
  evidence := augustEvidence
  boot := none

theorem attestedQuote_of {W : World κ} {path quoteHex : String} {file : Bytes} {attestation : Json}
    (hr : W.read path = .ok file) (hj : W.platform.jsonFromSlice file = .ok attestation)
    (hq : (indexKey "quote" (indexItem 0 (indexKey "app_certificates" attestation))).asStr =
      some quoteHex) :
    attestedQuote W path = expect (hexDecode quoteHex) "quote is hex" := by
  unfold attestedQuote
  rw [expectOk_ok_iff.mpr hr, ok_bind, expectOk_ok_iff.mpr hj, ok_bind]
  dsimp only
  rw [expect_ok_iff.mpr hq, ok_bind]

theorem recorded_parseHex : ComposeHash.parseHex recordedHex = .ok recordedHash := by
  have h : (ComposeHash.parseHex recordedHex).toOption = some recordedHash := by decide +kernel
  exact ok_of_toOption h

theorem recordedRun_ready : Ready recordedRun recordedOptions recordedPrepared where
  quote := by
    have hread : recordedRun.read "attestation.json" = .ok attestationFile := rfl
    have hj : recordedRun.platform.jsonFromSlice attestationFile = .ok attestationJson :=
      if_pos rfl
    refine (attestedQuote_of hread hj rfl).trans ?_
    rw [(hexDecode_hex _).1]
    rfl
  document := rfl
  hash := by
    refine ⟨false, ?_⟩
    show ((ComposeHash.parseHex recordedHex).map fun h => (h, false)).mapError toString = _
    rw [recorded_parseHex]
    rfl
  digest := rfl
  peer := rfl
  client := rfl
  collateral := rfl
  clock := rfl
  boot := rfl

theorem recordedDocument_ne_attestationFile : recordedDocument ≠ attestationFile := by
  intro he
  have hd : recordedDocument[2]? = some 100 := by
    unfold recordedDocument
    simp only [utf8_append, List.append_assoc]
    rw [List.getElem?_append_left (by decide)]
    rfl
  have ha : attestationFile[2]? = some 97 := by
    unfold attestationFile
    simp only [utf8_append, List.append_assoc]
    rw [List.getElem?_append_left (by decide)]
    rfl
  rw [he, ha] at hd
  exact absurd hd (by decide)

/-- The files add an answer of their own and change none about the document. -/
theorem filed_images :
    pinnedImages filedPlatform recordedDocument =
      pinnedImages recording.platform recordedDocument :=
  pinnedImages_congr (if_neg recordedDocument_ne_attestationFile) rfl

theorem filed_accepts : Accepts filedPlatform probeLicence augustEvidence := by
  have ha : Accepts recording.platform probeLicence augustEvidence :=
    recorded_accepts (by simp) (by simp) (recorded_report (by simp))
  have hi : ∃ images, pinnedImages filedPlatform recordedDocument = .ok images ∧
      ∃ i ∈ images, i.digest = probeLicence.imageDigest := by
    rw [filed_images]
    exact ha.images
  have hreport : filedPlatform.qvlVerify = recording.platform.qvlVerify := rfl
  have hspki : spkiDerOf filedPlatform = spkiDerOf recording.platform := rfl
  obtain ⟨quote, spkiDer, hq, he, der, hd, hs⟩ := ha.quote
  refine ⟨ha.document, hi, ?_, quote, spkiDer, hq, ⟨he.config, he.nonzero, he.key⟩, der, hd, ?_⟩
  · rw [hreport]
    exact ha.platform
  · rw [hspki]
    exact hs

/-- What was prepared from the files is accepted. -/
theorem exit_of_recorded {W : AttestWorld String} {o : Options} (hP : W.platform = filedPlatform)
    (ho : options W.args = .ok o) (hp : Ready W o recordedPrepared) :
    (verifyAttestation W).exit = .code 0 := by
  rw [verifyAttestation_of_ready ho hp, if_pos]
  · rfl
  · rw [hP]
    exact trustworthy_iff_accepts.mpr filed_accepts

theorem recordedRun_options : options recordedRun.args = .ok recordedOptions := by
  simp [options, arg, expect, recordedRun, filed, recordedOptions, recordedHex, probeDigest]

theorem recordedRun_exit : (verifyAttestation recordedRun).exit = .code 0 :=
  exit_of_recorded rfl recordedRun_options recordedRun_ready

def terminatingUrl : String :=
  "https://38817d24b2e3bd9cdeae1acc60aaec7ea0957d18-8443.dstack-pha-prod5.phala.network"

/-- The recorded evidence is accepted, also behind an endpoint that terminates TLS, and behind
one that does not parse. -/
theorem verifyAttestation_endpoint_recorded :
    (Endpoint.parse terminatingUrl).toOption.map Endpoint.form = some .dstackTerminating ∧
    (verifyAttestation { recordedRun with args := recordedRun.args ++
      ["--endpoint", terminatingUrl] }).exit = .code 0 ∧
    (Endpoint.parse "--compose").toOption = none ∧
    (verifyAttestation { recordedRun with args := recordedRun.args ++
      ["--endpoint", "--compose"] }).exit = .code 0 := by
  have hlast : ∀ name ∈ flags, recordedRun.args.getLast? ≠ some name := by
    decide
  refine ⟨by decide +kernel, ?_, by decide +kernel, ?_⟩
  · exact (verifyAttestation_endpoint recordedRun terminatingUrl hlast).trans recordedRun_exit
  · exact (verifyAttestation_endpoint recordedRun "--compose" hlast).trans recordedRun_exit

end VerityVerifier.Runner
