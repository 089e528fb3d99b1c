import Mathlib.Algebra.Group.Nat.Defs
import Mathlib.Data.List.Basic

/-!
# Byte strings and fixed-width blocks

Byte strings are lists. A block carries its width, so a read that returns one
cannot return a shorter slice. Reads are partial, as slicing by `get` is.
-/
namespace VerityVerifier.Library.ByteString

abbrev Bytes := List UInt8

/-- A byte array of fixed width. -/
@[ext] structure Block (n : Nat) where
  toList : Bytes
  length_eq : toList.length = n
  deriving DecidableEq

variable {n : Nat}

/-- True when every byte is zero. -/
def Block.isZero (b : Block n) : Bool := b.toList.all (· == 0)

def Block.zero (n : Nat) : Block n := ⟨List.replicate n 0, List.length_replicate⟩

def Block.set (b : Block n) (i : Nat) (x : UInt8) : Block n :=
  ⟨b.toList.set i x, by rw [List.length_set, b.length_eq]⟩

/-- The `n` bytes at `off`, when the input reaches that far. -/
def block? (bytes : Bytes) (off n : Nat) : Option (Block n) :=
  if h : off + n ≤ bytes.length then
    some ⟨(bytes.drop off).take n, by rw [List.length_take, List.length_drop]; omega⟩
  else none

/-- The natural number a little-endian byte string denotes. -/
def leNat : Bytes → Nat
  | [] => 0
  | b :: bs => b.toNat + 256 * leNat bs

/-- The `n` bytes from `off`, or as many of them as there are. -/
def slice (bytes : Bytes) (off n : Nat) : Bytes := (bytes.drop off).take n

theorem length_slice {bytes : Bytes} {off : Nat} (h : off + n ≤ bytes.length) :
    (slice bytes off n).length = n := by
  rw [slice, List.length_take, List.length_drop]
  omega

theorem block?_eq_some_iff {bytes : Bytes} {off : Nat} {b : Block n} :
    block? bytes off n = some b ↔ off + n ≤ bytes.length ∧ b.toList = slice bytes off n := by
  unfold block?
  split
  · rename_i h
    rw [Option.some.injEq, Block.ext_iff, eq_comm]
    simp only [h, true_and]
    rfl
  · rename_i h
    simp [h]

theorem block?_of_le {bytes : Bytes} {off : Nat} (h : off + n ≤ bytes.length) :
    block? bytes off n = some ⟨slice bytes off n, length_slice h⟩ :=
  block?_eq_some_iff.mpr ⟨h, rfl⟩

/-- A slice of the part before an appended tail does not see the tail. -/
theorem slice_append_left {bytes : Bytes} {off : Nat} (h : off + n ≤ bytes.length)
    (tail : Bytes) : slice (bytes ++ tail) off n = slice bytes off n := by
  rw [slice, slice, List.drop_append_of_le_length (by omega), List.take_append_of_le_length]
  rw [List.length_drop]
  omega

/-- A slice behind a known prefix is a slice of the rest. -/
theorem slice_append_right {front : Bytes} {width : Nat} (h : front.length = width)
    (rest : Bytes) (off : Nat) : slice (front ++ rest) (width + off) n = slice rest off n := by
  rw [slice, slice, ← List.drop_drop, List.drop_left' h]

/-- A slice that ends with the front part does not see the rest. -/
theorem slice_front {front : Bytes} (h : front.length = n) (rest : Bytes) :
    slice (front ++ rest) 0 n = front := by
  rw [slice, List.drop_zero, List.take_left' h]

/-- Two adjacent slices are one longer slice. -/
theorem slice_add (bytes : Bytes) (off m n : Nat) :
    slice bytes off (m + n) = slice bytes off m ++ slice bytes (off + m) n := by
  rw [slice, slice, slice, List.take_add, List.drop_drop]

theorem leNat_lt (bytes : Bytes) : leNat bytes < 256 ^ bytes.length := by
  induction bytes with
  | nil => exact Nat.one_pos
  | cons b bs ih =>
    have hb : b.toNat < 256 := b.toNat_lt
    rw [leNat, List.length_cons, Nat.pow_succ]
    omega

/-- `to_le_bytes` at a given width. -/
def leBytes : Nat → Nat → Bytes
  | 0, _ => []
  | width + 1, value => UInt8.ofNat value :: leBytes width (value / 256)

theorem length_leBytes (width value : Nat) : (leBytes width value).length = width := by
  induction width generalizing value with
  | zero => rfl
  | succ width ih => rw [leBytes, List.length_cons, ih]

theorem leNat_leBytes {width value : Nat} (h : value < 256 ^ width) :
    leNat (leBytes width value) = value := by
  induction width generalizing value with
  | zero =>
    rw [Nat.pow_zero] at h
    rw [leBytes, leNat]
    omega
  | succ width ih =>
    rw [Nat.pow_succ] at h
    have hd : value / 256 < 256 ^ width := Nat.div_lt_of_lt_mul (by rwa [Nat.mul_comm])
    have hb : (UInt8.ofNat value).toNat = value % 256 := UInt8.toNat_ofNat'
    rw [leBytes, leNat, ih hd, hb]
    omega

/-- `copy_from_slice` into the range that starts at `off`. -/
def overwrite (bytes : Bytes) (off : Nat) (slice : Bytes) : Bytes :=
  bytes.take off ++ slice ++ bytes.drop (off + slice.length)

theorem length_overwrite {bytes slice : Bytes} {off : Nat}
    (h : off + slice.length ≤ bytes.length) :
    (overwrite bytes off slice).length = bytes.length := by
  simp only [overwrite, List.length_append, List.length_take, List.length_drop]
  omega

/-- Writing one byte and then the ones behind it is writing them all. -/
theorem overwrite_set {bytes : Bytes} {off : Nat} (h : off < bytes.length) (x : UInt8)
    (slice : Bytes) :
    overwrite (bytes.set off x) (off + 1) slice = overwrite bytes off (x :: slice) := by
  have htake : (bytes.set off x).take (off + 1) = bytes.take off ++ [x] := by
    have hlen : (bytes.take off).length = off := by
      rw [List.length_take]
      omega
    rw [List.set_eq_take_append_cons_drop, if_pos h, List.take_append, hlen,
      List.take_of_length_le (by omega), Nat.add_sub_cancel_left]
    rfl
  have hdrop : (bytes.set off x).drop (off + 1 + slice.length) =
      bytes.drop (off + (x :: slice).length) := by
    rw [List.drop_set_of_lt (by omega), List.length_cons, Nat.add_assoc, Nat.add_comm 1]
  unfold overwrite
  rw [htake, hdrop, List.append_assoc (bytes.take off)]
  rfl

/-- Writing as many bytes as there are leaves none of the old ones. -/
theorem overwrite_all {bytes slice : Bytes} (h : slice.length = bytes.length) :
    overwrite bytes 0 slice = slice := by
  unfold overwrite
  rw [Nat.zero_add, h, List.drop_length, List.take_zero, List.append_nil, List.nil_append]

/-- `{:02x}`. -/
def hexByte (b : UInt8) : String :=
  String.ofList [Nat.digitChar (b.toNat / 16), Nat.digitChar (b.toNat % 16)]

/-- `{:02x}` of every byte in order. -/
def hex (bytes : Bytes) : String := String.join (bytes.map hexByte)

/-- `{:x}`. -/
def hexNat (n : Nat) : String := String.ofList (Nat.toDigits 16 n)

end VerityVerifier.Library.ByteString
