import Mathlib.Data.List.Induction
import Mathlib.Logic.Function.Iterate

/-! Cyclic redundancy checks. A message is compared bit by bit with what a register
shifts out, and a polynomial is added for each difference. -/
namespace Crc

/-- The direction in which a register is shifted, and its polynomial. -/
structure Register (w : Nat) where
  shift : BitVec w → BitVec w
  out : BitVec w → Bool
  polynomial : BitVec w
  shift_xor : ∀ s s', shift (s ^^^ s') = shift s ^^^ shift s'
  out_xor : ∀ s s', out (s ^^^ s') = (out s ^^ out s')
  eq_zero : ∀ s, shift s = 0#w → out s = false → s = 0#w
  /-- The polynomial has the place into which a shift only moves zeros. -/
  polynomial_ne : ∀ n < w, ∀ s, shift^[n] polynomial ≠ shift^[n + 1] s

/-- The value if the bit is set. -/
def select {w : Nat} (bit : Bool) (value : BitVec w) : BitVec w := if bit then value else 0#w

theorem select_xor {w : Nat} (bit bit' : Bool) (value : BitVec w) :
    select (bit ^^ bit') value = select bit value ^^^ select bit' value := by
  cases bit <;> cases bit' <;> simp [select]

namespace Register

variable {w : Nat} (R : Register w)

def step (s : BitVec w) (bit : Bool) : BitVec w :=
  R.shift s ^^^ select (R.out s ^^ bit) R.polynomial

/-- The register after a message. -/
def remainder (s : BitVec w) (bits : List Bool) : BitVec w := bits.foldl R.step s

variable {R} {s s' : BitVec w} {bits bits' before after : List Bool} {n : Nat}

theorem out_zero : R.out 0#w = false := by
  have h := R.out_xor 0#w 0#w
  rwa [BitVec.xor_self, Bool.xor_self] at h

theorem iterate_shift_zero (n : Nat) : R.shift^[n] 0#w = 0#w := by
  have hShift := R.shift_xor 0#w 0#w
  rw [BitVec.xor_self, BitVec.xor_self] at hShift
  exact Function.iterate_fixed hShift n

theorem iterate_shift_xor (n : Nat) (s s' : BitVec w) :
    R.shift^[n] (s ^^^ s') = R.shift^[n] s ^^^ R.shift^[n] s' := by
  induction n generalizing s s' with
  | zero => rfl
  | succ n ih =>
      rw [Function.iterate_succ_apply, R.shift_xor, ih]
      rfl

theorem step_xor (s s' : BitVec w) (bit bit' : Bool) :
    R.step (s ^^^ s') (bit ^^ bit') = R.step s bit ^^^ R.step s' bit' := by
  have hBits : (R.out (s ^^^ s') ^^ (bit ^^ bit')) = ((R.out s ^^ bit) ^^ (R.out s' ^^ bit')) := by
    rw [R.out_xor]
    cases R.out s <;> cases R.out s' <;> cases bit <;> cases bit' <;> rfl
  rw [step, step, step, R.shift_xor, hBits, select_xor]
  ac_rfl

theorem remainder_append (s : BitVec w) (bits bits' : List Bool) :
    R.remainder s (bits ++ bits') = R.remainder (R.remainder s bits) bits' :=
  List.foldl_append

/-- Registers and messages may be added before or after the division. -/
theorem remainder_xor (h : bits.length = bits'.length) :
    R.remainder (s ^^^ s') (List.zipWith xor bits bits') =
      R.remainder s bits ^^^ R.remainder s' bits' := by
  induction bits generalizing s s' bits' with
  | nil =>
      cases bits' with
      | nil => rfl
      | cons bit' bits' => cases h
  | cons bit bits ih =>
      cases bits' with
      | nil => cases h
      | cons bit' bits' =>
          rw [List.zipWith_cons_cons, remainder, List.foldl_cons, step_xor]
          exact ih (Nat.succ.inj h)

theorem remainder_zero (h : ∀ bit ∈ bits, bit = false) : R.remainder 0#w bits = 0#w := by
  induction bits with
  | nil => rfl
  | cons bit bits ih =>
      obtain ⟨rfl, hRest⟩ := List.forall_mem_cons.mp h
      have hStep : R.step 0#w false = 0#w := by
        have hShift : R.shift 0#w = 0#w := iterate_shift_zero 1
        rw [step, hShift, out_zero]
        simp [select]
      rw [remainder, List.foldl_cons, hStep]
      exact ih hRest

/-- A short message which does not leave anything that shifts do not remove is zero:
each bit of it that counted would still be in the register. -/
theorem eq_false_of_remainder (h : R.shift^[n] (R.remainder 0#w bits) = 0#w)
    (hShort : n + bits.length ≤ w) : ∀ bit ∈ bits, bit = false := by
  induction bits using List.reverseRecOn generalizing n with
  | nil => exact fun bit hBit => nomatch hBit
  | append_singleton bits bit ih =>
      rw [List.length_append, List.length_singleton] at hShort
      rw [remainder_append, remainder, List.foldl_cons, List.foldl_nil, step, iterate_shift_xor,
        ← Function.iterate_succ_apply] at h
      cases hFeedback : R.out (R.remainder 0#w bits) ^^ bit with
      | true =>
          rw [hFeedback, BitVec.xor_eq_zero_iff] at h
          exact absurd h.symm (R.polynomial_ne n (by omega) _)
      | false =>
          rw [hFeedback, select, if_neg Bool.false_ne_true, iterate_shift_zero,
            BitVec.xor_zero] at h
          have hBits := ih h (by omega)
          rw [remainder_zero hBits, out_zero, Bool.false_xor] at hFeedback
          simpa [hFeedback] using hBits

theorem remainder_eq_zero (hw : 0 < w) (hZero : ∀ bit ∈ bits, bit = false)
    (h : R.remainder s bits = 0#w) : s = 0#w := by
  induction bits generalizing s with
  | nil => exact h
  | cons bit bits ih =>
      obtain ⟨rfl, hRest⟩ := List.forall_mem_cons.mp hZero
      have hStep : R.step s false = 0#w := ih hRest h
      rw [step, Bool.xor_false] at hStep
      cases hOut : R.out s with
      | true =>
          rw [hOut, BitVec.xor_eq_zero_iff] at hStep
          exact absurd hStep.symm (R.polynomial_ne 0 hw s)
      | false =>
          rw [hOut, select, if_neg Bool.false_ne_true, BitVec.xor_zero] at hStep
          exact R.eq_zero s hStep hOut

theorem eq_of_zipWith_xor (hLength : bits.length = bits'.length)
    (h : ∀ bit ∈ List.zipWith xor bits bits', bit = false) : bits = bits' := by
  induction bits generalizing bits' with
  | nil => exact (List.eq_nil_of_length_eq_zero hLength.symm).symm
  | cons bit bits ih =>
      cases bits' with
      | nil => cases hLength
      | cons bit' bits' =>
          rw [List.zipWith_cons_cons, List.forall_mem_cons] at h
          have hHead : bit = bit' := by
            revert h
            cases bit <;> cases bit' <;> simp
          rw [hHead, ih (Nat.succ.inj hLength) h.2]

theorem zipWith_xor_self (bits : List Bool) :
    ∀ bit ∈ List.zipWith xor bits bits, bit = false := by
  induction bits with
  | nil => exact fun bit hBit => nomatch hBit
  | cons bit bits ih =>
      rw [List.zipWith_cons_cons, List.forall_mem_cons]
      exact ⟨Bool.xor_self bit, ih⟩

/-- A change within as many successive bits as the register has changes the remainder. -/
theorem eq_of_remainder_eq (hLength : bits.length = bits'.length) (hShort : bits.length ≤ w)
    (h : R.remainder s (before ++ bits ++ after) = R.remainder s (before ++ bits' ++ after)) :
    bits = bits' := by
  rcases Nat.eq_zero_or_pos w with hw | hw
  · have hBits : bits = [] := List.eq_nil_of_length_eq_zero (by omega)
    subst hBits
    exact (List.eq_nil_of_length_eq_zero hLength.symm).symm
  · rw [remainder_append, remainder_append, remainder_append, remainder_append] at h
    -- What comes after the change does not make up for it.
    have hAfter : R.remainder (R.remainder s before) bits =
        R.remainder (R.remainder s before) bits' := by
      rw [← BitVec.xor_eq_zero_iff] at h ⊢
      rw [← remainder_xor rfl] at h
      exact remainder_eq_zero hw (zipWith_xor_self after) h
    rw [← BitVec.xor_eq_zero_iff, ← remainder_xor hLength, BitVec.xor_self] at hAfter
    refine eq_of_zipWith_xor hLength (eq_false_of_remainder (n := 0) hAfter ?_)
    rw [List.length_zipWith, ← hLength, Nat.min_self]
    omega

/-- The part which is not given out is only shifted, and a message which the register
holds leaves nothing. -/
theorem remainder_split {held index rest : BitVec w} (hHeld : R.remainder held bits = 0#w)
    (hRest : ∀ i < bits.length, R.out (R.shift^[i] rest) = false)
    (h : s ^^^ held = rest ^^^ index) : R.remainder s bits =
      R.shift^[bits.length] rest ^^^
        R.remainder index (List.replicate bits.length false) := by
  have hShifts : ∀ n ≤ bits.length,
      R.remainder rest (List.replicate n false) = R.shift^[n] rest := by
    intro n hn
    induction n with
    | zero => rfl
    | succ n ih =>
        rw [List.replicate_succ', remainder_append, ih (by omega), Function.iterate_succ_apply',
          remainder, List.foldl_cons, List.foldl_nil, step, hRest n hn]
        simp [select]
  have hSame : List.zipWith xor bits bits = List.replicate bits.length false := by
    refine (List.eq_replicate_of_mem (zipWith_xor_self bits)).trans ?_
    rw [List.length_zipWith, Nat.min_self]
  have hZeros : List.zipWith xor (List.replicate bits.length false)
      (List.replicate bits.length false) = List.replicate bits.length false := by
    rw [List.zipWith_replicate', Bool.xor_self]
  have hHolds : R.remainder s bits =
      R.remainder (s ^^^ held) (List.replicate bits.length false) := by
    rw [← hSame, remainder_xor rfl, hHeld, BitVec.xor_zero]
  rw [hHolds, h, ← hZeros, remainder_xor rfl, hShifts _ (Nat.le_refl _), hZeros]

end Register

section Directions

variable {w : Nat}

theorem iterate_shiftLeft (s : BitVec w) (n : Nat) :
    (fun t : BitVec w => t <<< 1)^[n] s = s <<< n := by
  induction n with
  | zero => simp
  | succ n ih => rw [Function.iterate_succ_apply', ih, ← BitVec.shiftLeft_add]

theorem iterate_shiftRight (s : BitVec w) (n : Nat) :
    (fun t : BitVec w => t >>> 1)^[n] s = s >>> n := by
  induction n with
  | zero => simp
  | succ n ih => rw [Function.iterate_succ_apply', ih, ← BitVec.shiftRight_add]

/-- The highest bit is given out first. -/
def Register.left (polynomial : BitVec w) (h : polynomial.getLsbD 0 = true) : Register w where
  shift s := s <<< 1
  out s := s.msb
  polynomial := polynomial
  shift_xor s s' := BitVec.shiftLeft_xor_distrib s s' 1
  out_xor s s' := BitVec.msb_xor
  eq_zero s hShift hOut := by
    refine BitVec.eq_of_getLsbD_eq fun i hi => ?_
    rw [BitVec.msb_eq_getLsbD_last] at hOut
    have hBit := congrArg (BitVec.getLsbD · (i + 1)) hShift
    simp only [BitVec.getLsbD_shiftLeft, BitVec.getLsbD_zero] at hBit
    by_cases hLast : i = w - 1
    · rw [hLast, hOut, BitVec.getLsbD_zero]
    · simpa [show i + 1 < w by omega] using hBit
  polynomial_ne n hn s hEq := by
    rw [iterate_shiftLeft, iterate_shiftLeft] at hEq
    have hBit := congrArg (BitVec.getLsbD · n) hEq
    simp only [BitVec.getLsbD_shiftLeft, hn, decide_true, Nat.lt_irrefl, decide_false,
      Bool.not_false, Bool.true_and, Nat.sub_self, h, Nat.lt_succ_self, Bool.not_true,
      Bool.and_false, Bool.false_and] at hBit
    cases hBit

/-- The lowest bit is given out first. -/
def Register.right (polynomial : BitVec w) (h : polynomial.getLsbD (w - 1) = true) :
    Register w where
  shift s := s >>> 1
  out s := s.getLsbD 0
  polynomial := polynomial
  shift_xor s s' := BitVec.ushiftRight_xor_distrib s s' 1
  out_xor s s' := BitVec.getLsbD_xor
  eq_zero s hShift hOut := by
    refine BitVec.eq_of_getLsbD_eq fun i hi => ?_
    cases i with
    | zero => rw [hOut, BitVec.getLsbD_zero]
    | succ i =>
        have hBit := congrArg (BitVec.getLsbD · i) hShift
        simpa only [BitVec.getLsbD_ushiftRight, BitVec.getLsbD_zero, Nat.add_comm] using hBit
  polynomial_ne n hn s hEq := by
    rw [iterate_shiftRight, iterate_shiftRight] at hEq
    have hBit := congrArg (BitVec.getLsbD · (w - 1 - n)) hEq
    simp only [BitVec.getLsbD_ushiftRight] at hBit
    rw [show n + (w - 1 - n) = w - 1 by omega, h, BitVec.getLsbD_of_ge _ _ (by omega)] at hBit
    cases hBit

end Directions

end Crc
