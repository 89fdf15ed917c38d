import Mathlib.Algebra.Group.Nat.Defs
import Mathlib.Data.List.Basic

/-! Decimal numbers in texts: what formatted output writes and what formatted
input reads. -/
namespace Decimal

/-- `%04d`: at least four characters, filled with zeros behind the sign. -/
def format04 (n : Int) : String :=
  let digits := Nat.toDigits 10 n.natAbs
  if n < 0 then String.ofList ('-' :: List.replicate (3 - digits.length) '0' ++ digits)
  else String.ofList (List.replicate (4 - digits.length) '0' ++ digits)

def isSpace (c : Char) : Bool :=
  c = ' ' || c = '\t' || c = '\n' || c = '\x0b' || c = '\x0c' || c = '\r'

/-- The digits which unsigned input accepts, and whether a minus stands before. -/
def scan (text : List Char) : Bool × List Char :=
  match text.dropWhile isSpace with
  | '-' :: rest => (true, rest.takeWhile Char.isDigit)
  | '+' :: rest => (false, rest.takeWhile Char.isDigit)
  | rest => (false, rest.takeWhile Char.isDigit)

/-- `stream >> id` for a 32-bit unsigned `id`. Without a number `id` is set to
zero, and to its maximum by a number which does not fit. -/
def readUInt32 (text : String) : UInt32 :=
  let (negative, digits) := scan text.toList
  let n := Nat.ofDigitChars 10 digits 0
  if 2 ^ 32 ≤ n then UInt32.ofNat (2 ^ 32 - 1)
  else if negative then 0 - UInt32.ofNat n else UInt32.ofNat n

theorem isDigit_toDigits {n : Nat} {c : Char} (h : c ∈ Nat.toDigits 10 n) : c.isDigit :=
  Nat.isDigit_of_mem_toDigits (by decide) (by decide) h

theorem takeWhile_toDigits (n : Nat) (rest : List Char)
    (hRest : ∀ c ∈ rest.head?, c.isDigit = false) :
    (Nat.toDigits 10 n ++ rest).takeWhile Char.isDigit = Nat.toDigits 10 n := by
  rw [List.takeWhile_append_of_pos fun c hc => isDigit_toDigits hc]
  cases rest with
  | nil => simp
  | cons c rest => simp [hRest c (by simp)]

theorem isDigit_ne {c d : Char} (hc : c.isDigit = true) (hd : d.isDigit = false) : c ≠ d := by
  rintro rfl
  rw [hc] at hd
  cases hd

theorem isSpace_of_isDigit {c : Char} (hc : c.isDigit = true) : isSpace c = false := by
  simp [isSpace, isDigit_ne hc (show (' ' : Char).isDigit = false by decide),
    isDigit_ne hc (show ('\t' : Char).isDigit = false by decide),
    isDigit_ne hc (show ('\n' : Char).isDigit = false by decide),
    isDigit_ne hc (show ('\x0b' : Char).isDigit = false by decide),
    isDigit_ne hc (show ('\x0c' : Char).isDigit = false by decide),
    isDigit_ne hc (show ('\r' : Char).isDigit = false by decide)]

theorem scan_toDigits (n : Nat) (rest : List Char) (hRest : ∀ c ∈ rest.head?, c.isDigit = false) :
    scan (Nat.toDigits 10 n ++ rest) = (false, Nat.toDigits 10 n) := by
  have hTake := takeWhile_toDigits n rest hRest
  cases hDigits : Nat.toDigits 10 n with
  | nil => exact absurd hDigits Nat.toDigits_ne_nil
  | cons c digits =>
      rw [hDigits] at hTake
      have hMem : c ∈ Nat.toDigits 10 n := by simp [hDigits]
      have hc : c.isDigit = true := isDigit_toDigits hMem
      have hMinus : c ≠ '-' := isDigit_ne hc (by decide)
      have hPlus : c ≠ '+' := isDigit_ne hc (by decide)
      rw [scan, List.cons_append, List.dropWhile_cons_of_neg (by simp [isSpace_of_isDigit hc])]
      split
      · rename_i h
        cases h
        exact absurd rfl hMinus
      · rename_i h
        cases h
        exact absurd rfl hPlus
      · rw [← List.cons_append, hTake]

/-- A number written on a line of its own is read back. -/
theorem readUInt32_line (n : Nat) (h : n < 2 ^ 32) :
    readUInt32 (toString (n : Int) ++ "\n") = UInt32.ofNat n := by
  have hText : (toString (n : Int) ++ "\n").toList = Nat.toDigits 10 n ++ ['\n'] := by
    rw [String.toList_append]
    exact congrArg (· ++ ['\n']) Nat.toList_repr
  rw [readUInt32, hText, scan_toDigits n _ (by simp)]
  simp only [Nat.ofDigitChars_ten_toDigits, Nat.not_le.mpr h, if_false, Bool.false_eq_true]

theorem ofDigitChars_zeros (k n : Nat) :
    Nat.ofDigitChars 10 (List.replicate k '0' ++ Nat.toDigits 10 n) 0 = n := by
  rw [Nat.ofDigitChars_append, Nat.ofDigitChars_replicate_zero, Nat.mul_zero,
    Nat.ofDigitChars_ten_toDigits]

theorem not_minus_mem_zeros (k n : Nat) :
    '-' ∉ List.replicate k '0' ++ Nat.toDigits 10 n := by
  intro h
  rcases List.mem_append.mp h with h | h
  · exact absurd (List.eq_of_mem_replicate h) (by decide)
  · exact absurd (isDigit_toDigits h) (by decide)

/-- Two numbers never look the same. -/
theorem format04_injective : Function.Injective format04 := by
  intro m n h
  simp only [format04] at h
  split_ifs at h with hm hn hn
  · have hList := String.ofList_injective h
    rw [List.cons_append, List.cons_append] at hList
    have hAbs := congrArg (Nat.ofDigitChars 10 · 0) (List.cons.inj hList).2
    simp only [ofDigitChars_zeros] at hAbs
    omega
  · refine absurd ?_ (not_minus_mem_zeros (4 - (Nat.toDigits 10 n.natAbs).length) n.natAbs)
    rw [← String.ofList_injective h]
    simp
  · refine absurd ?_ (not_minus_mem_zeros (4 - (Nat.toDigits 10 m.natAbs).length) m.natAbs)
    rw [String.ofList_injective h]
    simp
  · have hAbs := congrArg (Nat.ofDigitChars 10 · 0) (String.ofList_injective h)
    simp only [ofDigitChars_zeros] at hAbs
    omega

/-- A number in some base with at least two digits. -/
def padded (base n : Nat) : List Char :=
  List.replicate (2 - (Nat.toDigits base n).length) '0' ++ Nat.toDigits base n

/-- `%02d` of a number which is not negative. -/
def format02 (n : Nat) : List Char := padded 10 n

/-- `%02X`. -/
def format02X (n : Nat) : List Char := (padded 16 n).map Char.toUpper

theorem padded_of_lt {base n : Nat} (hBase : 1 < base) (h : n < base * base) :
    padded base n = [Nat.digitChar (n / base), Nat.digitChar (n % base)] := by
  have hMod : n % base < base := Nat.mod_lt _ (by omega)
  by_cases hn : n < base
  · simp [padded, Nat.toDigits_of_lt_base hn, Nat.div_eq_of_lt hn, Nat.mod_eq_of_lt hn]
  · have hDiv : 0 < n / base := Nat.div_pos (by omega) (by omega)
    have hDigits := Nat.toDigits_append_toDigits hBase hDiv hMod
    rw [Nat.div_add_mod, Nat.toDigits_of_lt_base hMod,
      Nat.toDigits_of_lt_base (Nat.div_lt_of_lt_mul h)] at hDigits
    simp [padded, ← hDigits]

theorem isDigit_format02 {n : Nat} {c : Char} (h : c ∈ format02 n) : c.isDigit := by
  rcases List.mem_append.mp h with hZero | hDigit
  · rw [List.eq_of_mem_replicate hZero]
    decide
  · exact isDigit_toDigits hDigit

theorem ofDigitChars_format02 (n : Nat) : Nat.ofDigitChars 10 (format02 n) 0 = n :=
  ofDigitChars_zeros _ n

/-- Two is the least width only. -/
theorem length_format02_le_iff {n k : Nat} (h : 2 ≤ k) :
    (format02 n).length ≤ k ↔ n < 10 ^ k := by
  rw [← Nat.length_toDigits_le_iff (by decide) (by omega), format02, padded, List.length_append,
    List.length_replicate]
  omega

end Decimal
