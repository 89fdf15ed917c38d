import Mathlib.Algebra.Group.Nat.Defs
import Mathlib.Data.List.Basic

/-! Numbers stored in memory with the lowest byte first. -/
namespace LittleEndian

/-- The bytes of the memory from an offset on. -/
def slice (memory : Nat → UInt8) (offset n : Nat) : List UInt8 :=
  (List.range n).map fun i => memory (offset + i)

/-- The number which is stored in these bytes. -/
def ofBytes : List UInt8 → Nat
  | [] => 0
  | byte :: rest => byte.toNat + 256 * ofBytes rest

/-- The lowest `n` bytes of a number. -/
def toBytes : Nat → Nat → List UInt8
  | 0, _ => []
  | n + 1, value => UInt8.ofNat value :: toBytes n (value / 256)

variable {memory : Nat → UInt8} {offset n m : Nat} {bytes bytes' : List UInt8}

@[simp] theorem length_slice : (slice memory offset n).length = n := by simp [slice]

@[simp] theorem length_toBytes (n value : Nat) : (toBytes n value).length = n := by
  induction n generalizing value with
  | zero => rfl
  | succ n ih => rw [toBytes, List.length_cons, ih]

/-- A longer piece of memory is two pieces, one after the other. -/
theorem slice_add : slice memory offset (n + m) =
    slice memory offset n ++ slice memory (offset + n) m := by
  rw [slice, List.range_add, List.map_append, List.map_map]
  simp only [slice, Function.comp_def, Nat.add_assoc]

/-- A number which fits is read back. -/
theorem ofBytes_toBytes {value : Nat} (h : value < 256 ^ n) :
    ofBytes (toBytes n value) = value := by
  induction n generalizing value with
  | zero => simp_all [toBytes, ofBytes]
  | succ n ih =>
      rw [Nat.pow_succ] at h
      rw [toBytes, ofBytes, ih (Nat.div_lt_of_lt_mul (by omega)), UInt8.toNat_ofNat']
      omega

/-- What is read is stored in the same bytes. -/
theorem toBytes_ofBytes (bytes : List UInt8) : toBytes bytes.length (ofBytes bytes) = bytes := by
  induction bytes with
  | nil => rfl
  | cons byte bytes ih =>
      have hLt := byte.toNat_lt
      have hByte : UInt8.ofNat (byte.toNat + 256 * ofBytes bytes) = byte := by
        apply UInt8.toNat_inj.mp
        rw [UInt8.toNat_ofNat']
        omega
      rw [ofBytes, List.length_cons, toBytes, hByte,
        show (byte.toNat + 256 * ofBytes bytes) / 256 = ofBytes bytes by omega, ih]

/-- What is read fits the bytes which it is read from. -/
theorem ofBytes_lt (bytes : List UInt8) : ofBytes bytes < 256 ^ bytes.length := by
  induction bytes with
  | nil => simp [ofBytes]
  | cons byte bytes ih =>
      have hLt := byte.toNat_lt
      rw [ofBytes, List.length_cons, Nat.pow_succ]
      omega

theorem ofBytes_injective (hLength : bytes.length = bytes'.length)
    (h : ofBytes bytes = ofBytes bytes') : bytes = bytes' := by
  rw [← toBytes_ofBytes bytes, ← toBytes_ofBytes bytes', hLength, h]

/-- A piece depends on no other memory. -/
theorem slice_congr {memory' : Nat → UInt8}
    (h : ∀ i, offset ≤ i → i < offset + n → memory' i = memory i) :
    slice memory' offset n = slice memory offset n := by
  refine List.map_congr_left fun i hi => h _ (by omega) ?_
  have hLt := List.mem_range.mp hi
  omega

/-- The memory holds as many bytes as there are in the list. -/
theorem slice_append (h : slice memory offset (bytes ++ bytes').length = bytes ++ bytes') :
    slice memory offset bytes.length = bytes ∧
      slice memory (offset + bytes.length) bytes'.length = bytes' := by
  rw [List.length_append, slice_add] at h
  exact List.append_inj h length_slice

end LittleEndian
