import Mathlib.Logic.Relation
import VerityVerifier.Core.Ratls
import VerityVerifier.Soundness.Acceptance

/-!
# The network around a client

Certificates and quotes are public: whoever sees one can present it. Two things cannot be
copied. The hardware alone signs quotes, for the configuration that asks, and a handshake
is completed only with the private key of the leaf it presents.
-/
namespace VerityVerifier.Relay

open VerityVerifier.Core
open VerityVerifier.Library.ByteString
open VerityVerifier.Soundness

variable {κ : Type}

/-- An enclave with an honest configuration, and the key it made. -/
structure Enclave where
  config : ComposeHash
  spkiDer : Bytes
  deriving DecidableEq

/-- Who completes a handshake. -/
inductive Party where
  | enclave (e : Enclave)
  | attacker
  deriving DecidableEq

/-- The enclaves, the attacker's keys, and the quotes that the hardware has signed. -/
structure Network where
  enclaves : List Enclave
  attackerKeys : List Bytes
  quotes : List Quote

namespace Network

def empty : Network := ⟨[], [], []⟩

/-- The party has the private key. -/
def Holds (n : Network) (party : Party) (spkiDer : Bytes) : Prop :=
  match party with
  | .enclave e => e ∈ n.enclaves ∧ e.spkiDer = spkiDer
  | .attacker => spkiDer ∈ n.attackerKeys

/-- The keys in use. -/
def keys (n : Network) : Set Bytes := { spkiDer | ∃ party, n.Holds party spkiDer }

/-- What happens without the client. An enclave attests its own key and no other; the attacker
runs configurations of its own, and has any report data attested for those. -/
inductive Step (P : Platform κ) (honest : Set ComposeHash) : Network → Network → Prop
  | boot {n : Network} (e : Enclave) (hc : e.config ∈ honest) (hk : e.spkiDer ∉ n.keys) :
    Step P honest n { n with enclaves := e :: n.enclaves }
  | attest {n : Network} (e : Enclave) (quote : Quote) (he : e ∈ n.enclaves)
    (hm : quote.mrconfigid = expectedMrconfigidV1 e.config)
    (hr : quote.reportData.bytes = (commitmentOver P e.spkiDer).bytes) :
    Step P honest n { n with quotes := quote :: n.quotes }
  | rogue {n : Network} (quote : Quote)
    (hm : ∀ config ∈ honest, quote.mrconfigid ≠ expectedMrconfigidV1 config) :
    Step P honest n { n with quotes := quote :: n.quotes }
  | generate {n : Network} (spkiDer : Bytes) (hk : spkiDer ∉ n.keys) :
    Step P honest n { n with attackerKeys := spkiDer :: n.attackerKeys }

/-- The party can complete a handshake with this leaf: it signs with the leaf's key, and a quote
in the leaf that the DCAP verifier accepts is one that the hardware signed. -/
structure Presentable (P : Platform κ) (n : Network) (party : Party) (leafDer : Bytes) : Prop where
  signs : ∃ spkiDer, spkiDerOf P leafDer = .ok spkiDer ∧ n.Holds party spkiDer
  genuine : ∀ rawQuote collateral nowSecs report quote,
    quoteFromCertificate P leafDer = .ok rawQuote →
    P.qvlVerify rawQuote collateral nowSecs = .ok report →
    Quote.parse P.usizeBits rawQuote = .ok quote → quote ∈ n.quotes

/-! ## What no step undoes -/

theorem Step.holds {P : Platform κ} {honest : Set ComposeHash} {n n' : Network}
    (hs : Step P honest n n') {party : Party} {spkiDer : Bytes} (h : n.Holds party spkiDer) :
    n'.Holds party spkiDer := by
  cases hs with
  | boot e _ _ =>
    cases party with
    | enclave e' => exact ⟨List.mem_cons_of_mem e h.1, h.2⟩
    | attacker => exact h
  | attest | rogue => exact h
  | generate spki _ =>
    cases party with
    | enclave e' => exact h
    | attacker => exact List.mem_cons_of_mem spki h

theorem Step.quotes {P : Platform κ} {honest : Set ComposeHash} {n n' : Network}
    (hs : Step P honest n n') {quote : Quote} (h : quote ∈ n.quotes) : quote ∈ n'.quotes := by
  cases hs with
  | boot | generate => exact h
  | attest e q _ _ _ => exact List.mem_cons_of_mem q h
  | rogue q _ => exact List.mem_cons_of_mem q h

theorem Presentable.step {P : Platform κ} {honest : Set ComposeHash} {n n' : Network}
    {party : Party} {leafDer : Bytes} (h : Presentable P n party leafDer)
    (hs : Step P honest n n') : Presentable P n' party leafDer where
  signs := by
    obtain ⟨spkiDer, hspki, hh⟩ := h.signs
    exact ⟨spkiDer, hspki, hs.holds hh⟩
  genuine rawQuote collateral nowSecs report quote hq hv hp :=
    hs.quotes (h.genuine rawQuote collateral nowSecs report quote hq hv hp)

/-! ## The invariant -/

/-- A key has one holder, and a quote for an honest configuration names the key of an enclave
that runs it. -/
structure Inv (P : Platform κ) (honest : Set ComposeHash) (n : Network) : Prop where
  holder : ∀ p p' spkiDer, n.Holds p spkiDer → n.Holds p' spkiDer → p = p'
  attested : ∀ quote ∈ n.quotes, ∀ config ∈ honest,
    quote.mrconfigid = expectedMrconfigidV1 config → ∃ e ∈ n.enclaves, e.config = config ∧
      quote.reportData.bytes = (commitmentOver P e.spkiDer).bytes

theorem empty_inv (P : Platform κ) (honest : Set ComposeHash) : Inv P honest empty where
  holder p p' spkiDer h _ := by
    cases p with
    | enclave e => exact absurd h.1 List.not_mem_nil
    | attacker => exact absurd h List.not_mem_nil
  attested quote hq := absurd hq List.not_mem_nil

/-- A party that holds a key after a step held it before, or the step made the key. -/
theorem holder_of_new {n : Network} {spkiDer : Bytes} (hk : spkiDer ∉ n.keys) {p p' : Party}
    {k : Bytes} (hinv : ∀ p p' spkiDer, n.Holds p spkiDer → n.Holds p' spkiDer → p = p')
    {owner : Party} (h : n.Holds p k ∨ p = owner ∧ k = spkiDer)
    (h' : n.Holds p' k ∨ p' = owner ∧ k = spkiDer) : p = p' := by
  rcases h with h | ⟨rfl, rfl⟩
  · rcases h' with h' | ⟨rfl, rfl⟩
    · exact hinv p p' k h h'
    · exact absurd ⟨p, h⟩ hk
  · rcases h' with h' | ⟨rfl, -⟩
    · exact absurd ⟨p', h'⟩ hk
    · rfl

theorem step_inv {P : Platform κ} {honest : Set ComposeHash} {n n' : Network}
    (h : Inv P honest n) (hs : Step P honest n n') : Inv P honest n' := by
  cases hs with
  | boot e hc hk =>
    have hnew : ∀ p k, Holds { n with enclaves := e :: n.enclaves } p k →
        n.Holds p k ∨ p = .enclave e ∧ k = e.spkiDer := by
      intro p k hh
      cases p with
      | attacker => exact .inl hh
      | enclave e' =>
        obtain ⟨hm, rfl⟩ := hh
        rcases List.mem_cons.mp hm with rfl | hm
        · exact .inr ⟨rfl, rfl⟩
        · exact .inl ⟨hm, rfl⟩
    constructor
    · intro p p' k hp hp'
      exact holder_of_new hk h.holder (hnew p k hp) (hnew p' k hp')
    · intro quote hq config hconfig hm
      obtain ⟨e', he', hc', hr⟩ := h.attested quote hq config hconfig hm
      exact ⟨e', List.mem_cons_of_mem e he', hc', hr⟩
  | attest e q he hm hr =>
    refine { holder := h.holder, attested := ?_ }
    intro quote hq config hconfig hquote
    rcases List.mem_cons.mp hq with rfl | hq
    · exact ⟨e, he, expectedMrconfigidV1_injective (hm.symm.trans hquote), hr⟩
    · exact h.attested quote hq config hconfig hquote
  | rogue q hm =>
    refine { holder := h.holder, attested := ?_ }
    intro quote hq config hconfig hquote
    rcases List.mem_cons.mp hq with rfl | hq
    · exact absurd hquote (hm config hconfig)
    · exact h.attested quote hq config hconfig hquote
  | generate spki hk =>
    have hnew : ∀ p k, Holds { n with attackerKeys := spki :: n.attackerKeys } p k →
        n.Holds p k ∨ p = .attacker ∧ k = spki := by
      intro p k hh
      cases p with
      | enclave e => exact .inl hh
      | attacker =>
        rcases List.mem_cons.mp hh with rfl | hm
        · exact .inr ⟨rfl, rfl⟩
        · exact .inl hm
    refine { holder := ?_, attested := h.attested }
    intro p p' k hp hp'
    exact holder_of_new hk h.holder (hnew p k hp) (hnew p' k hp')

/-- Every network that can arise satisfies the invariant. -/
theorem inv_of_reachable {P : Platform κ} {honest : Set ComposeHash} {n : Network}
    (h : Relation.ReflTransGen (Step P honest) empty n) : Inv P honest n := by
  induction h with
  | refl => exact empty_inv P honest
  | tail _ hs ih => exact step_inv ih hs

end Network

end VerityVerifier.Relay
