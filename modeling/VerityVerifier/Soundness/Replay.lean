import Mathlib.Data.Set.Function
import VerityVerifier.Core.Ratls
import VerityVerifier.Soundness.Acceptance

/-!
# One quote, one licence, one key

A quote that two trustworthy verdicts share fixes the licensed configuration outright,
and fixes the public key and the document up to a collision of the hash function.
The rest of the two inputs is free.
-/
namespace VerityVerifier.Soundness

open VerityVerifier.Core
open VerityVerifier.Library.ByteString
open VerityVerifier.Library.Fallible
open VerityVerifier.Library.Text

variable {κ : Type} {P : Platform κ}

/-- One quote endorses at most one configuration. -/
theorem Endorses.config_unique {quote : Quote} {h₁ h₂ : ComposeHash} {s₁ s₂ : Bytes}
    (h : Endorses P quote h₁ s₁) (h' : Endorses P quote h₂ s₂) : h₁ = h₂ := by
  apply expectedMrconfigidV1_injective
  rw [← h.config, ← h'.config]

/-- Two keys endorsed by one quote have one commitment. -/
theorem Endorses.key_collides {quote : Quote} {h₁ h₂ : ComposeHash} {s₁ s₂ : Bytes}
    (h : Endorses P quote h₁ s₁) (h' : Endorses P quote h₂ s₂) :
    P.sha512 (utf8 "ratls-cert:" ++ s₁) = P.sha512 (utf8 "ratls-cert:" ++ s₂) := by
  rw [← commitmentOver_bytes, ← commitmentOver_bytes, ← h.key, ← h'.key]

/-- A recorded quote cannot be presented for another licence, and for another key or
another document only through a collision. -/
theorem verify_replay {licensed₁ licensed₂ : LicensedVersion} {evidence₁ evidence₂ : Evidence κ}
    {boot₁ boot₂ : Option BootReference}
    (h₁ : (verify P licensed₁ evidence₁ boot₁).isTrustworthy = true)
    (h₂ : (verify P licensed₂ evidence₂ boot₂).isTrustworthy = true)
    (hq : evidence₁.rawQuote = evidence₂.rawQuote) :
    licensed₁.composeHash = licensed₂.composeHash ∧
    (∃ s₁ s₂, Presents P evidence₁.peerCertificate s₁ ∧ Presents P evidence₂.peerCertificate s₂ ∧
      ∀ keys : Set Bytes, Set.InjOn (fun s => P.sha512 (utf8 "ratls-cert:" ++ s)) keys →
        s₁ ∈ keys → s₂ ∈ keys → s₁ = s₂) ∧
    ∀ documents : Set Bytes, Set.InjOn P.sha256 documents →
      evidence₁.composeDocument ∈ documents → evidence₂.composeDocument ∈ documents →
      evidence₁.composeDocument = evidence₂.composeDocument := by
  have a₁ := trustworthy_iff_accepts.mp h₁
  have a₂ := trustworthy_iff_accepts.mp h₂
  obtain ⟨quote, s₁, hp₁, e₁, hs₁⟩ := a₁.quote
  obtain ⟨quote', s₂, hp₂, e₂, hs₂⟩ := a₂.quote
  have he : quote' = quote := by
    rw [hq, hp₂] at hp₁
    exact Except.ok.inj hp₁
  subst he
  have hl : licensed₁.composeHash = licensed₂.composeHash := e₁.config_unique e₂
  refine ⟨hl, ⟨s₁, s₂, hs₁, hs₂, ?_⟩, ?_⟩
  · intro keys hk m₁ m₂
    exact hk m₁ m₂ (e₁.key_collides e₂)
  · intro documents hd m₁ m₂
    apply hd m₁ m₂
    have hh : ComposeHash.of P evidence₁.composeDocument =
        ComposeHash.of P evidence₂.composeDocument := by
      rw [a₁.document, a₂.document, hl]
    exact congrArg ComposeHash.bytes hh

/-! ## Two recorded runs over one quote -/

/-- A quote for a configuration and a key, with every other field zero. -/
def recordedQuote (config : Block 32) (reportData : Block 64) : Bytes :=
  [0x04, 0x00, 0x02, 0x00, 0x81, 0x00, 0x00, 0x00] ++ List.replicate 224 0x00 ++
    0x01 :: config.toList ++ List.replicate 303 0x00 ++ reportData.toList ++ List.replicate 4 0x00

/-- The subject public key info of a P-256 key. -/
def p256SpkiDer (point : Bytes) : Bytes :=
  [0x30, 0x59, 0x30, 0x13, 0x06, 0x07, 0x2a, 0x86, 0x48, 0xce, 0x3d, 0x02, 0x01, 0x06, 0x08,
   0x2a, 0x86, 0x48, 0xce, 0x3d, 0x03, 0x01, 0x07, 0x03, 0x42, 0x00, 0x04] ++
    point

/-- A leaf for a 91-byte public key info that carries a 636-byte quote in its extension. -/
def leafDer (spkiDer quote : Bytes) : Bytes :=
  [0x30, 0x82, 0x03, 0x43, 0x30, 0x82, 0x03, 0x2f, 0xa0, 0x03, 0x02, 0x01, 0x02, 0x02, 0x01,
   0x01, 0x30, 0x0a, 0x06, 0x08, 0x2a, 0x86, 0x48, 0xce, 0x3d, 0x04, 0x03, 0x02, 0x30, 0x00,
   0x30, 0x1e, 0x17, 0x0d, 0x37, 0x35, 0x30, 0x31, 0x30, 0x31, 0x30, 0x30, 0x30, 0x30, 0x30,
   0x30, 0x5a, 0x17, 0x0d, 0x33, 0x36, 0x30, 0x38, 0x31, 0x30, 0x31, 0x34, 0x33, 0x32, 0x31,
   0x30, 0x5a, 0x30, 0x00] ++
  spkiDer ++
  [0xa3, 0x82, 0x02, 0x98, 0x30, 0x82, 0x02, 0x94, 0x30, 0x82, 0x02, 0x90, 0x06, 0x0a, 0x2b,
   0x06, 0x01, 0x04, 0x01, 0x83, 0xe7, 0x3d, 0x01, 0x01, 0x04, 0x82, 0x02, 0x80, 0x04, 0x82,
   0x02, 0x7c] ++
  quote ++
  [0x30, 0x0a, 0x06, 0x08, 0x2a, 0x86, 0x48, 0xce, 0x3d, 0x04, 0x03, 0x02, 0x03, 0x02, 0x00,
   0x00]

def probeDigest : String :=
  "sha256:d9e853e87e55526f6b2917df91a2115c36dd7c696a35be12163d44e6e2a4b6bc"

def sidecarDigest : String :=
  "sha256:9d75f0d7c398df565d7ac04c6819b62d6d8f9560f5eb4672596ecd8f7e96ae91"

/-- The document as served, with the line breaks of the embedded file escaped. -/
@[irreducible] def recordedDocument : Bytes :=
  utf8 ("\x7b\"docker_compose_file\":\"services:\\n  probe:\\n    image: alpine@" ++ probeDigest ++
    "\\n  sidecar:\\n    image: busybox@" ++ sidecarDigest ++ "\\n\"\x7d")

@[irreducible] def embeddedCompose : String :=
  "services:\n  probe:\n    image: alpine@" ++ probeDigest ++
    "\n  sidecar:\n    image: busybox@" ++ sidecarDigest ++ "\n"

def recordedHash : ComposeHash := ⟨⟨
    [0x42, 0x03, 0x95, 0x41, 0x68, 0xc6, 0xd3, 0x88, 0x13, 0xa1, 0x07, 0xf4, 0x8f, 0x6d, 0xfa,
     0x67, 0x9e, 0x1d, 0xaf, 0xf8, 0xdd, 0x5d, 0xab, 0xed, 0x4e, 0x17, 0x52, 0xef, 0x2d, 0x2b,
     0x29, 0xc5], rfl⟩⟩

/-- A public key info and the digest it commits to. -/
structure RecordedKey where
  spkiDer : Bytes
  reportData : Block 64

def RecordedKey.quote (k : RecordedKey) : Bytes := recordedQuote recordedHash.bytes k.reportData

def RecordedKey.leaf (k : RecordedKey) : Bytes := leafDer k.spkiDer k.quote

def firstKey : RecordedKey where
  spkiDer := p256SpkiDer
    [0x6a, 0x91, 0xb0, 0x23, 0x66, 0xeb, 0x2b, 0x1e, 0x8b, 0xc9, 0x54, 0xcb, 0xe7, 0x45, 0x58,
     0xdb, 0xb2, 0x7d, 0xd6, 0x9c, 0xe4, 0x26, 0xaa, 0x81, 0xd1, 0x8b, 0x69, 0xa6, 0x14, 0x64,
     0xb1, 0x54, 0x9c, 0x90, 0x76, 0xe6, 0xd1, 0xd2, 0x0b, 0xd3, 0x39, 0x26, 0x49, 0x2a, 0x8b,
     0x7a, 0x01, 0xf0, 0xab, 0x3a, 0xf0, 0x4e, 0xff, 0x53, 0x33, 0x82, 0xf7, 0xe7, 0x8a, 0x25,
     0x81, 0xdc, 0x2d, 0xfb]
  reportData := ⟨
    [0xd8, 0x6f, 0xfc, 0xba, 0x38, 0x61, 0x03, 0x25, 0xb8, 0x0f, 0x6e, 0x83, 0x12, 0x1c, 0x0b,
     0x36, 0x7d, 0x90, 0x7f, 0x9d, 0x9e, 0x6e, 0x50, 0x02, 0x75, 0x90, 0x91, 0x13, 0x3d, 0xbf,
     0x1b, 0xaf, 0x10, 0x79, 0x62, 0x47, 0xb4, 0xe8, 0x69, 0x57, 0x17, 0x15, 0x1e, 0x57, 0x69,
     0xc9, 0xd5, 0x42, 0xd1, 0xc9, 0xe1, 0x12, 0x0e, 0x5d, 0x31, 0xba, 0xc3, 0x89, 0x14, 0xbf,
     0xe1, 0x9b, 0x43, 0x9f], rfl⟩

def secondKey : RecordedKey where
  spkiDer := p256SpkiDer
    [0xec, 0xc7, 0x5c, 0x8a, 0x5d, 0xcb, 0x25, 0xdc, 0xe4, 0x39, 0x61, 0xe3, 0x4c, 0xa5, 0x4c,
     0x59, 0xa9, 0xa2, 0x36, 0x77, 0xec, 0x33, 0x78, 0x4a, 0x29, 0x6b, 0x0e, 0x09, 0x08, 0xc7,
     0x9a, 0xd7, 0x19, 0xa2, 0xe8, 0xd5, 0x60, 0x22, 0x57, 0x7b, 0x76, 0xde, 0xc5, 0x6e, 0x08,
     0x42, 0x50, 0x79, 0x90, 0x87, 0x68, 0x26, 0xdb, 0x95, 0x5d, 0x9f, 0x62, 0x43, 0x6c, 0x83,
     0xcd, 0xb3, 0xe0, 0x71]
  reportData := ⟨
    [0xbb, 0x2e, 0x8f, 0x02, 0x61, 0x56, 0x74, 0xd3, 0xf8, 0xbd, 0xf0, 0xe6, 0x5f, 0xa4, 0x44,
     0x55, 0xb3, 0x6a, 0x0b, 0x05, 0x27, 0xc3, 0x1e, 0xe8, 0x51, 0x4f, 0x8b, 0x47, 0x40, 0x56,
     0xb0, 0xd2, 0x4f, 0x24, 0x73, 0x69, 0x0c, 0x0d, 0xa0, 0xd7, 0xd6, 0x1f, 0xc5, 0xfb, 0x47,
     0x77, 0x6c, 0x83, 0xa3, 0x79, 0x9e, 0x0a, 0x59, 0xa6, 0xe1, 0x94, 0x63, 0xe1, 0x18, 0x79,
     0xd8, 0x9e, 0xec, 0xcd], rfl⟩

/-- Two keys attested by one configuration, in two months. -/
def recording : Recording String where
  sha256 := [(recordedDocument, recordedHash.bytes)]
  sha512 := [firstKey, secondKey].map fun k => (utf8 "ratls-cert:" ++ k.spkiDer, k.reportData)
  reports := [
    ((firstKey.quote, "july", 1785196800), ⟨"UpToDate", []⟩),
    ((firstKey.quote, "august", 1787875200), ⟨"UpToDate", []⟩),
    ((secondKey.quote, "august", 1787875200), ⟨"UpToDate", []⟩)]
  certificates := [firstKey, secondKey].map fun k => (k.leaf, {
    extensions := some [⟨dstackQuoteOid, [0x04, 0x82, 0x02, 0x7c] ++ k.quote⟩]
    subjectPublicKeyInfoToDer := .ok k.spkiDer })
  json := [(recordedDocument, .object [("docker_compose_file", .string embeddedCompose)])]
  yaml := [(embeddedCompose, [.hash [(.string "services", .hash [
    (.string "probe", .hash [(.string "image", .string ("alpine@" ++ probeDigest))]),
    (.string "sidecar", .hash [(.string "image", .string ("busybox@" ++ sidecarDigest))])])]])]

def RecordedKey.evidence (k : RecordedKey) (collateral : String) (nowSecs : UInt64) :
    Evidence String where
  rawQuote := k.quote
  composeDocument := recordedDocument
  collateral
  nowSecs
  peerCertificate := .presented k.leaf

theorem recorded_hash : ComposeHash.of recording.platform recordedDocument = recordedHash := by
  have h : Recording.answer? recording.sha256 recordedDocument = some recordedHash.bytes :=
    Recording.answer?_cons_self _ _ _
  show (⟨(Recording.answer? recording.sha256 recordedDocument).getD (Block.zero 32)⟩ : ComposeHash) =
    recordedHash
  rw [h]
  rfl

theorem recorded_images : ∃ images, pinnedImages recording.platform recordedDocument = .ok images ∧
    images.map ImageRef.digest = [probeDigest, sidecarDigest] := by
  obtain ⟨probe, hp, hpd⟩ : ∃ i, classify ("alpine@" ++ probeDigest) = some i ∧
      i.digest = probeDigest := by
    have h : (classify ("alpine@" ++ probeDigest)).map ImageRef.digest = some probeDigest := by
      decide +kernel
    exact Option.map_eq_some_iff.mp h
  obtain ⟨sidecar, hs, hsd⟩ : ∃ i, classify ("busybox@" ++ sidecarDigest) = some i ∧
      i.digest = sidecarDigest := by
    have h : (classify ("busybox@" ++ sidecarDigest)).map ImageRef.digest =
        some sidecarDigest := by
      decide +kernel
    exact Option.map_eq_some_iff.mp h
  refine ⟨[probe, sidecar], ?_, by rw [List.map_cons, List.map_singleton, hpd, hsd]⟩
  apply pinnedImages_ok_iff.mpr
  refine ⟨embeddedCompose, _, _, ⟨_, Recording.answer_cons_self _ _ _, rfl⟩,
    Recording.answer_cons_self _ _ _, rfl, List.cons_ne_nil _ _, ?_⟩
  rw [pinnedServices_cons (Yaml.index_cons_self _ _ _) hp,
    pinnedServices_cons (Yaml.index_cons_self _ _ _) hs]
  rfl

/-- Both quotes endorse the recorded configuration and their own key. -/
theorem recorded_endorses {k : RecordedKey} (hk : k ∈ [firstKey, secondKey]) :
    ∃ quote, Quote.parse recording.platform.usizeBits k.quote = .ok quote ∧
      Endorses recording.platform quote recordedHash k.spkiDer := by
  have hp : (Quote.parse 64 k.quote).toOption.map (fun q => (q.mrconfigid, q.reportData)) =
      some (expectedMrconfigidV1 recordedHash, ⟨k.reportData⟩) := by
    rcases List.mem_pair.mp hk with rfl | rfl <;> decide +kernel
  have hz : k.reportData.isZero = false := by
    rcases List.mem_pair.mp hk with rfl | rfl <;> decide +kernel
  have hc : commitmentOver recording.platform k.spkiDer = ⟨k.reportData⟩ := by
    rcases List.mem_pair.mp hk with rfl | rfl <;> decide +kernel
  obtain ⟨quote, hq, he⟩ := ok_of_toOption_map hp
  obtain ⟨hm, hr⟩ := Prod.mk.inj he
  refine ⟨quote, hq, ⟨hm, ?_, ?_⟩⟩
  · rw [hr]
    exact hz
  · rw [hr, hc]

theorem recorded_presents {k : RecordedKey} (hk : k ∈ [firstKey, secondKey]) :
    Presents recording.platform (.presented k.leaf) k.spkiDer := by
  have hs : (spkiDerOf recording.platform k.leaf).toOption = some k.spkiDer := by
    rcases List.mem_pair.mp hk with rfl | rfl <;> decide +kernel
  exact ⟨k.leaf, rfl, ok_of_toOption hs⟩

/-- Both keys are accepted for either licensed image, with any recorded collateral. -/
theorem recorded_accepts {k : RecordedKey} (hk : k ∈ [firstKey, secondKey]) {digest : String}
    (hd : digest ∈ [probeDigest, sidecarDigest]) {collateral : String} {nowSecs : UInt64}
    (hr : recording.platform.qvlVerify k.quote collateral nowSecs = .ok ⟨"UpToDate", []⟩) :
    Accepts recording.platform ⟨recordedHash, digest⟩ (k.evidence collateral nowSecs) := by
  obtain ⟨images, hi, hm⟩ := recorded_images
  obtain ⟨quote, hq, he⟩ := recorded_endorses hk
  rw [← hm] at hd
  constructor
  · show ComposeHash.of recording.platform recordedDocument = recordedHash
    exact recorded_hash
  · exact ⟨images, hi, List.mem_map.mp hd⟩
  · exact ⟨_, hr, by decide⟩
  · exact ⟨quote, k.spkiDer, hq, he, recorded_presents hk⟩

theorem recorded_report {k : RecordedKey} {collateral : String} {nowSecs : UInt64}
    (h : (k, collateral, nowSecs) ∈ [(firstKey, "july", (1785196800 : UInt64)),
      (firstKey, "august", 1787875200), (secondKey, "august", 1787875200)]) :
    recording.platform.qvlVerify k.quote collateral nowSecs = .ok ⟨"UpToDate", []⟩ := by
  have hr : (recording.platform.qvlVerify k.quote collateral nowSecs).toOption.map
      (fun r => (r.status, r.advisoryIds)) = some ("UpToDate", []) := by
    simp only [List.mem_cons, List.not_mem_nil, or_false, Prod.mk.injEq] at h
    rcases h with ⟨rfl, rfl, rfl⟩ | ⟨rfl, rfl, rfl⟩ | ⟨rfl, rfl, rfl⟩ <;> decide +kernel
  obtain ⟨⟨status, ids⟩, hq, he⟩ := ok_of_toOption_map hr
  obtain ⟨rfl, rfl⟩ := Prod.mk.inj he
  exact hq

def probeLicence : LicensedVersion := ⟨recordedHash, probeDigest⟩
def sidecarLicence : LicensedVersion := ⟨recordedHash, sidecarDigest⟩
def julyEvidence : Evidence String := firstKey.evidence "july" 1785196800
def augustEvidence : Evidence String := firstKey.evidence "august" 1787875200

theorem july_trustworthy :
    (verify recording.platform probeLicence julyEvidence none).isTrustworthy = true := by
  apply trustworthy_iff_accepts.mpr
  apply recorded_accepts (by simp) (by simp) (recorded_report (by simp))

/-- The second month's verification: another image, other collateral, a boot reference. -/
theorem august_trustworthy (boot : Option BootReference) :
    (verify recording.platform sidecarLicence augustEvidence boot).isTrustworthy = true := by
  apply trustworthy_iff_accepts.mpr
  apply recorded_accepts (by simp) (by simp) (recorded_report (by simp))

theorem verify_replay_recorded :
    probeLicence.composeHash = sidecarLicence.composeHash ∧
    (∃ s₁ s₂, Presents recording.platform julyEvidence.peerCertificate s₁ ∧
      Presents recording.platform augustEvidence.peerCertificate s₂ ∧
      ∀ keys : Set Bytes,
        Set.InjOn (fun s => recording.platform.sha512 (utf8 "ratls-cert:" ++ s)) keys →
        s₁ ∈ keys → s₂ ∈ keys → s₁ = s₂) ∧
    ∀ documents : Set Bytes, Set.InjOn recording.platform.sha256 documents →
      julyEvidence.composeDocument ∈ documents → augustEvidence.composeDocument ∈ documents →
      julyEvidence.composeDocument = augustEvidence.composeDocument :=
  verify_replay july_trustworthy (august_trustworthy (some ⟨none, none, none, none⟩)) rfl

end VerityVerifier.Soundness
