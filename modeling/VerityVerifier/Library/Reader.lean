import VerityVerifier.Library.ByteString

/-!
# Reading to the end, up to a limit

A body arrives in chunks and ends with its last byte or with an error. A read returns
at most as many bytes as its buffer holds, and a limited reader stops asking at its
limit. What is read does not depend on the chunks or on the buffers.
-/
namespace VerityVerifier.Library.Reader

open VerityVerifier.Library.ByteString

variable {ε : Type}

/-- What is still to be read: chunks that are not empty, then the end or an error. -/
structure Body (ε : Type) where
  chunks : List Bytes
  ending : Option ε
  nonempty : ∀ c ∈ chunks, c ≠ []

/-- Every byte the body delivers. -/
def Body.content (b : Body ε) : Bytes := b.chunks.flatten

/-- `read` into a buffer of `n` bytes. No bytes is the end. -/
def Body.read (n : Nat) (b : Body ε) : Except ε Bytes × Body ε :=
  match h : b.chunks with
  | [] =>
    match b.ending with
    | none => (.ok [], b)
    | some e => (.error e, b)
  | c :: cs =>
    if hn : c.length ≤ n then
      (.ok c, ⟨cs, b.ending, fun x hx => b.nonempty x (h ▸ List.mem_cons_of_mem c hx)⟩)
    else
      (.ok (c.take n), ⟨c.drop n :: cs, b.ending, by
        intro x hx
        obtain rfl | hx := List.mem_cons.mp hx
        · intro hd
          exact hn (List.drop_eq_nil_iff.mp hd)
        · exact b.nonempty x (h ▸ List.mem_cons_of_mem c hx)⟩)

/-- `take`: a reader that stops asking at its limit. -/
structure Take (ε : Type) where
  limit : Nat
  inner : Body ε

def Take.read (n : Nat) (t : Take ε) : Except ε Bytes × Take ε :=
  if t.limit = 0 then (.ok [], t)
  else
    match t.inner.read (min n t.limit) with
    | (.ok bytes, inner) => (.ok bytes, ⟨t.limit - bytes.length, inner⟩)
    | (.error e, inner) => (.error e, ⟨t.limit, inner⟩)

/-- The sizes of the buffers that `read_to_end` reads into. None is empty. -/
structure Buffers where
  size : Nat → Nat
  pos : ∀ i, 0 < size i

/-! ## One read -/

theorem Body.read_end {n : Nat} {b : Body ε} (h : b.content = []) :
    b.read n = ((match b.ending with | none => .ok [] | some e => .error e), b) := by
  have hc : b.chunks = [] := by
    cases hb : b.chunks with
    | nil => rfl
    | cons c cs =>
      unfold Body.content at h
      rw [hb, List.flatten_cons] at h
      exact absurd (List.append_eq_nil_iff.mp h).1 (b.nonempty c (hb ▸ List.mem_cons_self))
  unfold Body.read
  split
  · split <;> rfl
  · rename_i c cs hb
    rw [hc] at hb
    cases hb

/-- Before its end a body gives some bytes, no more than fit. -/
theorem Body.read_more {n : Nat} {b : Body ε} (hn : 0 < n) (h : b.content ≠ []) :
    ∃ bytes b', b.read n = (.ok bytes, b') ∧ bytes ≠ [] ∧ bytes.length ≤ n ∧
      b.content = bytes ++ b'.content ∧ b'.ending = b.ending := by
  unfold Body.read
  split
  · rename_i hb
    exact absurd (by rw [Body.content, hb]; rfl) h
  · rename_i c cs hb
    have hc : c ≠ [] := b.nonempty c (hb ▸ List.mem_cons_self)
    have hcontent : b.content = c ++ cs.flatten := by
      rw [Body.content, hb, List.flatten_cons]
    split
    · rename_i hle
      exact ⟨_, _, rfl, hc, hle, hcontent, rfl⟩
    · rename_i hle
      refine ⟨_, _, rfl, ?_, ?_, ?_, rfl⟩
      · intro ht
        obtain hz | hz := List.take_eq_nil_iff.mp ht
        · omega
        · exact hc hz
      · rw [List.length_take]
        omega
      · rw [hcontent, Body.content, List.flatten_cons, ← List.append_assoc, List.take_append_drop]

theorem Take.read_decreases {n : Nat} {t t' : Take ε} {x : UInt8} {xs : Bytes}
    (h : t.read n = (.ok (x :: xs), t')) : t'.limit < t.limit := by
  unfold Take.read at h
  split at h
  · cases (Except.ok.inj (Prod.mk.inj h).1)
  · rename_i hl
    split at h
    · rename_i bytes inner hr
      obtain ⟨hb, rfl⟩ := Prod.mk.inj h
      rw [Except.ok.inj hb]
      simp only [List.length_cons]
      omega
    · cases (Prod.mk.inj h).1

theorem Take.read_full {n : Nat} {t : Take ε} (h : t.limit = 0) : t.read n = (.ok [], t) :=
  if_pos h

theorem Take.read_end {n : Nat} {t : Take ε} (hl : t.limit ≠ 0) (h : t.inner.content = []) :
    (t.read n).1 = (match t.inner.ending with | none => .ok [] | some e => .error e) ∧
      (t.read n).2.inner = t.inner := by
  unfold Take.read
  rw [if_neg hl, Body.read_end h]
  cases t.inner.ending with
  | none => exact ⟨rfl, rfl⟩
  | some e => exact ⟨rfl, rfl⟩

theorem Take.read_more {n : Nat} {t : Take ε} (hn : 0 < n) (hl : t.limit ≠ 0)
    (h : t.inner.content ≠ []) :
    ∃ x xs t', t.read n = (.ok (x :: xs), t') ∧ t.inner.content = x :: xs ++ t'.inner.content ∧
      t'.inner.ending = t.inner.ending ∧ t.limit = (x :: xs).length + t'.limit := by
  obtain ⟨bytes, b', hr, hne, hlen, hcontent, hending⟩ :=
    Body.read_more (n := min n t.limit) (by omega) h
  obtain ⟨x, xs, rfl⟩ := List.exists_cons_of_ne_nil hne
  refine ⟨x, xs, ⟨t.limit - (x :: xs).length, b'⟩, ?_, hcontent, hending, ?_⟩
  · unfold Take.read
    rw [if_neg hl, hr]
  · have hle := Nat.le_trans hlen (Nat.min_le_right n t.limit)
    show t.limit = (x :: xs).length + (t.limit - (x :: xs).length)
    omega

/-- `read_to_end`: read until no bytes come back. -/
def readToEnd (buffers : Buffers) (i : Nat) (t : Take ε) (buf : Bytes) :
    Except ε Bytes × Take ε :=
  match _h : t.read (buffers.size i) with
  | (.error e, t') => (.error e, t')
  | (.ok [], t') => (.ok buf, t')
  | (.ok (x :: xs), t') => readToEnd buffers (i + 1) t' (buf ++ x :: xs)
termination_by t.limit
decreasing_by exact Take.read_decreases _h

/-! ## Reading to the end -/

/-- What reading up to a limit yields: that many bytes, or all of them and the end. -/
def outcome (limit : Nat) (b : Body ε) (buf : Bytes) : Except ε Bytes :=
  if limit ≤ b.content.length then .ok (buf ++ b.content.take limit)
  else
    match b.ending with
    | none => .ok (buf ++ b.content)
    | some e => .error e

theorem readToEnd_of_more {buffers : Buffers} {i : Nat} {t t' : Take ε} {buf : Bytes} {x : UInt8}
    {xs : Bytes} (h : t.read (buffers.size i) = (.ok (x :: xs), t')) :
    readToEnd buffers i t buf = readToEnd buffers (i + 1) t' (buf ++ x :: xs) := by
  rw [readToEnd]
  split
  · rename_i e t₁ he
    rw [h] at he
    cases he
  · rename_i t₁ he
    rw [h] at he
    cases he
  · rename_i y ys t₁ he
    rw [h] at he
    cases he
    rfl

theorem readToEnd_of_stop {buffers : Buffers} {i : Nat} {t : Take ε} {buf : Bytes}
    (h : ∀ x xs t', t.read (buffers.size i) ≠ (.ok (x :: xs), t')) :
    readToEnd buffers i t buf =
      ((t.read (buffers.size i)).1.map fun _ => buf, (t.read (buffers.size i)).2) := by
  rw [readToEnd]
  split
  · rename_i e t₁ he
    rw [he]
    rfl
  · rename_i t₁ he
    rw [he]
    rfl
  · rename_i y ys t₁ he
    exact absurd he (h y ys t₁)

theorem outcome_append {n : Nat} {b b' : Body ε} {front : Bytes} (buf : Bytes)
    (hc : b.content = front ++ b'.content) (he : b'.ending = b.ending) :
    outcome (front.length + n) b buf = outcome n b' (buf ++ front) := by
  have hle : front.length + n ≤ (front ++ b'.content).length ↔ n ≤ b'.content.length := by
    rw [List.length_append]
    omega
  unfold outcome
  rw [hc, he, List.take_length_add_append, List.append_assoc, List.append_assoc]
  by_cases hn : n ≤ b'.content.length
  · rw [if_pos (hle.mpr hn), if_pos hn]
  · rw [if_neg (fun h => hn (hle.mp h)), if_neg hn]

/-- Neither the chunks nor the buffers are seen in what is read and in what is left. -/
theorem readToEnd_eq (buffers : Buffers) (i : Nat) (t : Take ε) (buf : Bytes) :
    (readToEnd buffers i t buf).1 = outcome t.limit t.inner buf ∧
      (readToEnd buffers i t buf).2.inner.content = t.inner.content.drop t.limit := by
  induction hn : t.limit using Nat.strongRecOn generalizing i t buf with
  | ind n ih =>
    subst hn
    by_cases hl : t.limit = 0
    · have hr := Take.read_full (n := buffers.size i) hl
      rw [readToEnd_of_stop (by rw [hr]; simp), hr]
      unfold outcome
      rw [hl, if_pos (Nat.zero_le _)]
      simp [Except.map]
    · by_cases hc : t.inner.content = []
      · obtain ⟨hr, hinner⟩ := Take.read_end (n := buffers.size i) hl hc
        have hstop : ∀ x xs t', t.read (buffers.size i) ≠ (.ok (x :: xs), t') := by
          intro x xs t' he
          rw [he] at hr
          cases hend : t.inner.ending <;> simp [hend] at hr
        rw [readToEnd_of_stop hstop, hr, hinner]
        unfold outcome
        rw [hc, if_neg (by simpa using hl), List.drop_nil, List.append_nil]
        cases t.inner.ending with
        | none => exact ⟨rfl, rfl⟩
        | some e => exact ⟨rfl, rfl⟩
      · obtain ⟨x, xs, t', hr, hcontent, hending, hlimit⟩ :=
          Take.read_more (buffers.pos i) hl hc
        have hlt : t'.limit < t.limit := Take.read_decreases hr
        obtain ⟨h₁, h₂⟩ := ih t'.limit hlt (i + 1) t' (buf ++ x :: xs) rfl
        rw [readToEnd_of_more hr, h₁, h₂]
        rw [hlimit]
        refine ⟨(outcome_append buf hcontent hending).symm, ?_⟩
        rw [hcontent, List.drop_length_add_append]

/-! ## Reading up to a limit -/

/-- `u64::MAX`. -/
def u64Max : Nat := 2 ^ 64 - 1

/-- `u64::try_from(limit).unwrap_or(u64::MAX).saturating_add(1)`. -/
def takeLimit (limit : Nat) : Nat :=
  let limit := if limit ≤ u64Max then limit else u64Max
  if limit + 1 ≤ u64Max then limit + 1 else u64Max

/-- Read one byte past the limit, and refuse what is over. -/
def readUpTo {ε' : Type} (buffers : Buffers) (tooLarge : ε') (failed : ε → ε') (limit : Nat)
    (b : Body ε) : Except ε' Bytes × Body ε :=
  match readToEnd buffers 0 ⟨takeLimit limit, b⟩ [] with
  | (.error e, t) => (.error (failed e), t.inner)
  | (.ok buf, t) => if limit < buf.length then (.error tooLarge, t.inner) else (.ok buf, t.inner)

/-- What is read up to a limit is within it. -/
theorem readUpTo_length {ε' : Type} {buffers : Buffers} {tooLarge : ε'} {failed : ε → ε'}
    {limit : Nat} {b : Body ε} {bytes : Bytes}
    (h : (readUpTo buffers tooLarge failed limit b).1 = .ok bytes) : bytes.length ≤ limit := by
  unfold readUpTo at h
  split at h
  · cases h
  · split at h
    · cases h
    · rename_i hle
      obtain rfl := Except.ok.inj h
      exact Nat.le_of_not_lt hle

theorem takeLimit_eq {limit : Nat} (h : limit < 2 ^ 64 - 1) : takeLimit limit = limit + 1 := by
  have hle : limit ≤ u64Max := Nat.le_of_lt h
  unfold takeLimit
  rw [if_pos hle]
  exact if_pos h

/-- What a read up to a limit yields, by what the body delivers and how it ends. -/
theorem readUpTo_eq {ε' : Type} (buffers : Buffers) (tooLarge : ε') (failed : ε → ε') {limit : Nat}
    (h : limit < 2 ^ 64 - 1) (b : Body ε) :
    (readUpTo buffers tooLarge failed limit b).1 =
      (if limit < b.content.length then .error tooLarge
      else
        match b.ending with
        | none => .ok b.content
        | some e => .error (failed e)) ∧
      (readUpTo buffers tooLarge failed limit b).2.content = b.content.drop (limit + 1) := by
  obtain ⟨hresult, hrest⟩ := readToEnd_eq buffers 0 ⟨limit + 1, b⟩ []
  unfold readUpTo
  rw [takeLimit_eq h]
  generalize readToEnd buffers 0 ⟨limit + 1, b⟩ [] = r at hresult hrest
  obtain ⟨result, t⟩ := r
  simp only [outcome, List.nil_append] at hresult hrest
  by_cases hover : limit < b.content.length
  · rw [if_pos (by omega)] at hresult
    have hlen : limit < (b.content.take (limit + 1)).length := by
      rw [List.length_take]
      omega
    rw [hresult, if_pos hover]
    simp only [if_pos hlen]
    exact ⟨trivial, hrest⟩
  · rw [if_neg (by omega)] at hresult
    rw [hresult, if_neg hover]
    cases b.ending with
    | none =>
      simp only [if_neg hover]
      exact ⟨trivial, hrest⟩
    | some e => exact ⟨rfl, hrest⟩

/-- What a read up to a limit is to be: the whole body when it ends within the limit, the
refusal when one byte more arrives, the error when it comes first, and never a byte more
taken than the limit and one. -/
structure ReadsWithin {ε' : Type} (limit : Nat) (b : Body ε) (tooLarge : ε') (failed : ε → ε')
    (r : Except ε' Bytes × Body ε) : Prop where
  whole : ∀ bytes, r.1 = .ok bytes ↔
    b.ending = none ∧ b.content.length ≤ limit ∧ bytes = b.content
  beyond : r.1 = .error tooLarge ↔ limit + 1 ≤ b.content.length
  broken : ∀ e, r.1 = .error (failed e) ↔ b.ending = some e ∧ b.content.length ≤ limit
  bounded : ∃ taken, b.content = taken ++ r.2.content ∧ taken.length ≤ limit + 1

theorem readsWithin_readUpTo {ε' : Type} (buffers : Buffers) {tooLarge : ε'} {failed : ε → ε'}
    (hne : ∀ e, failed e ≠ tooLarge) (hinj : ∀ e e', failed e = failed e' → e = e') {limit : Nat}
    (h : limit < 2 ^ 64 - 1) (b : Body ε) :
    ReadsWithin limit b tooLarge failed (readUpTo buffers tooLarge failed limit b) := by
  obtain ⟨hresult, hrest⟩ := readUpTo_eq buffers tooLarge failed h b
  by_cases hover : limit < b.content.length
  · rw [if_pos hover] at hresult
    refine ⟨?_, ?_, ?_, ?_⟩
    · intro bytes
      rw [hresult]
      exact iff_of_false (fun he => by cases he) (fun hw => absurd hw.2.1 (by omega))
    · rw [hresult]
      exact iff_of_true rfl (by omega)
    · intro e
      rw [hresult, Except.error.injEq]
      exact iff_of_false (fun he => hne e he.symm) (fun hw => absurd hw.2 (by omega))
    · refine ⟨b.content.take (limit + 1), ?_, List.length_take_le _ _⟩
      rw [hrest, List.take_append_drop]
  · rw [if_neg hover] at hresult
    refine ⟨?_, ?_, ?_, ?_⟩
    · intro bytes
      rw [hresult]
      cases b.ending with
      | none =>
        rw [Except.ok.injEq]
        exact ⟨fun he => ⟨rfl, by omega, he.symm⟩, fun hw => hw.2.2.symm⟩
      | some e => exact iff_of_false (fun he => by cases he) (fun hw => by cases hw.1)
    · rw [hresult]
      refine iff_of_false ?_ (by omega)
      cases b.ending with
      | none => exact fun he => by cases he
      | some e => exact fun he => hne e (Except.error.inj he)
    · intro e
      rw [hresult]
      cases b.ending with
      | none => exact iff_of_false (fun he => by cases he) (fun hw => by cases hw.1)
      | some e' =>
        rw [Except.error.injEq, Option.some.injEq]
        constructor
        · exact fun he => ⟨hinj _ _ he, by omega⟩
        · exact fun hw => congrArg failed hw.1
    · refine ⟨b.content, ?_, by omega⟩
      rw [hrest, List.drop_of_length_le (by omega), List.append_nil]

end VerityVerifier.Library.Reader
