import Mathlib.Algebra.Group.Nat.Defs
import Mathlib.Data.List.Basic

/-! Records of a 16-bit key, a 16-bit length and that many value bytes, stored
one after the other. Both numbers are little-endian. The reader knows the
memory and an offset only, so nothing marks where the last record ends. -/
namespace KeyLengthValue

/-- A record. Its length has to fit into the 16 bits which announce it. -/
structure Entry where
  key : UInt16
  value : List UInt8
  fits : value.length < 2 ^ 16

/-- The little-endian number stored at an offset. -/
def word (memory : Nat → UInt8) (offset : Nat) : UInt16 :=
  UInt16.ofNat ((memory offset).toNat + 256 * (memory (offset + 1)).toNat)

def wordBytes (w : UInt16) : List UInt8 :=
  [UInt8.ofNat (w.toNat % 256), UInt8.ofNat (w.toNat / 256)]

def Entry.encode (entry : Entry) : List UInt8 :=
  wordBytes entry.key ++ wordBytes (UInt16.ofNat entry.value.length) ++ entry.value

def encode (entries : List Entry) : List UInt8 := entries.flatMap Entry.encode

/-- Where the `k`-th record starts. -/
def start (entries : List Entry) (k : Nat) : Nat := (encode (entries.take k)).length

/-- The bytes are what the memory holds from the offset on. -/
def Holds (memory : Nat → UInt8) (offset : Nat) (bytes : List UInt8) : Prop :=
  ∀ i (h : i < bytes.length), memory (offset + i) = bytes[i]

theorem Holds.append {memory : Nat → UInt8} {offset : Nat} {first second : List UInt8}
    (h : Holds memory offset (first ++ second)) :
    Holds memory offset first ∧ Holds memory (offset + first.length) second := by
  refine ⟨fun i hi => ?_, fun i hi => ?_⟩
  · have hAt := h i (by rw [List.length_append]; omega)
    rwa [List.getElem_append_left hi] at hAt
  · have hAt := h (first.length + i) (by rw [List.length_append]; omega)
    rw [List.getElem_append_right (by omega)] at hAt
    simpa [Nat.add_assoc] using hAt

theorem word_of_holds {memory : Nat → UInt8} {offset : Nat} {w : UInt16}
    (h : Holds memory offset (wordBytes w)) : word memory offset = w := by
  have hLow := h 0 (by simp [wordBytes])
  have hHigh := h 1 (by simp [wordBytes])
  have hLt := w.toNat_lt
  simp only [wordBytes, Nat.add_zero, List.getElem_cons_zero] at hLow
  simp only [wordBytes, List.getElem_cons_succ, List.getElem_cons_zero] at hHigh
  apply UInt16.toNat_inj.mp
  simp only [word, hLow, hHigh, UInt8.toNat_ofNat', UInt16.toNat_ofNat']
  omega

@[simp] theorem encode_nil : encode [] = [] := rfl

theorem encode_append (first second : List Entry) :
    encode (first ++ second) = encode first ++ encode second := List.flatMap_append

@[simp] theorem Entry.encode_length (entry : Entry) :
    entry.encode.length = 4 + entry.value.length := by
  simp only [Entry.encode, wordBytes, List.length_append, List.length_cons, List.length_nil]

theorem start_zero (entries : List Entry) : start entries 0 = 0 := by simp [start]

theorem take_succ {entries : List Entry} {k : Nat} {entry : Entry}
    (h : entries[k]? = some entry) : entries.take (k + 1) = entries.take k ++ [entry] := by
  rw [List.take_add_one, h, Option.toList_some]

theorem start_succ {entries : List Entry} {k : Nat} {entry : Entry}
    (h : entries[k]? = some entry) :
    start entries (k + 1) = start entries k + 4 + entry.value.length := by
  rw [start, start, take_succ h, encode_append, List.length_append]
  simp only [encode, List.flatMap_singleton, Entry.encode_length]
  omega

/-- No record starts after the end of all of them. -/
theorem start_le (entries : List Entry) (k : Nat) : start entries k ≤ (encode entries).length := by
  calc start entries k
      ≤ (encode (entries.take k) ++ encode (entries.drop k)).length := by
        rw [List.length_append, start]
        omega
    _ = (encode entries).length := by rw [← encode_append, List.take_append_drop]

theorem encode_replicate (n : Nat) (entry : Entry) (hValue : entry.value = [])
    (hKey : entry.key = 0) : encode (List.replicate n entry) = List.replicate (4 * n) 0 := by
  induction n with
  | zero => rfl
  | succ n ih =>
      have hEntry : entry.encode = List.replicate 4 0 := by
        simp [Entry.encode, hValue, hKey, wordBytes, List.replicate]
      rw [List.replicate_succ, ← List.singleton_append, encode_append, ih, Nat.mul_succ,
        Nat.add_comm, ← List.replicate_append_replicate]
      simp only [encode, List.flatMap_singleton, hEntry]

theorem holds_getD (bytes : List UInt8) : Holds (fun i => bytes.getD i 0) 0 bytes := by
  intro i hi
  simp [hi]

/-- What the reader finds at the start of a record. -/
theorem entry_at {memory : Nat → UInt8} {entries : List Entry} {k : Nat} {entry : Entry}
    (h : Holds memory 0 (encode entries)) (hEntry : entries[k]? = some entry) :
    word memory (start entries k) = entry.key ∧
    word memory (start entries k + 2) = UInt16.ofNat entry.value.length ∧
    Holds memory (start entries k + 4) entry.value := by
  obtain ⟨hLt, hGet⟩ := List.getElem?_eq_some_iff.mp hEntry
  have hSplit : encode entries =
      encode (entries.take k) ++ (entry.encode ++ encode (entries.drop (k + 1))) := by
    rw [← hGet]
    calc encode entries
        = encode (entries.take k ++ entries.drop k) := by rw [List.take_append_drop]
      _ = _ := by rw [encode_append, List.drop_eq_getElem_cons hLt]; rfl
  rw [hSplit] at h
  have hHere := h.append.2.append.1
  rw [Nat.zero_add, Entry.encode] at hHere
  exact ⟨word_of_holds hHere.append.1.append.1, word_of_holds hHere.append.1.append.2,
    hHere.append.2⟩

/-- The value of the last record with a given key. -/
def lastValue (key : UInt16) (entries : List Entry) : Option (List UInt8) :=
  ((entries.filter fun entry => entry.key = key).getLast?).map Entry.value

@[simp] theorem lastValue_nil (key : UInt16) : lastValue key [] = none := rfl

theorem lastValue_append_singleton (key : UInt16) (entries : List Entry) (entry : Entry) :
    lastValue key (entries ++ [entry]) =
      if entry.key = key then some entry.value else lastValue key entries := by
  by_cases h : entry.key = key
  · simp [lastValue, List.filter_append, h]
  · simp [lastValue, List.filter_append, h]

end KeyLengthValue
