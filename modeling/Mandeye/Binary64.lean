import Mathlib.Algebra.Order.Floor.Ring
import Mathlib.Data.Int.Log
import Mathlib.Data.Rat.Floor
import Mathlib.Tactic.Linarith
import Mathlib.Tactic.Positivity

/-! Rounding of exact results to double precision: 53 significant bits, ties to
even. Overflow and subnormal results are left out. -/
namespace Binary64

def roundHalfEven (q : ℚ) : ℤ :=
  let below := ⌊q⌋
  let part := q - below
  if part < 1 / 2 then below
  else if 1 / 2 < part then below + 1
  else if below % 2 = 0 then below else below + 1

/-- The distance of neighbouring doubles at the magnitude of `q`. -/
def ulp (q : ℚ) : ℚ := 2 ^ (Int.log 2 |q| - 52)

/-- The double nearest to the exact result `q`. -/
def round (q : ℚ) : ℚ := roundHalfEven (q / ulp q) * ulp q

variable {q q' : ℚ}

/-- Rounding goes to one of the two neighbours. -/
theorem roundHalfEven_cases (q : ℚ) :
    (roundHalfEven q = ⌊q⌋ ∧ q - ⌊q⌋ ≤ 1 / 2) ∨ (roundHalfEven q = ⌊q⌋ + 1 ∧ 1 / 2 ≤ q - ⌊q⌋) := by
  simp only [roundHalfEven]
  split
  · rename_i hLess
    exact .inl ⟨rfl, hLess.le⟩
  · rename_i hNotLess
    split
    · rename_i hGreater
      exact .inr ⟨rfl, hGreater.le⟩
    · rename_i hNotGreater
      split
      · exact .inl ⟨rfl, not_lt.mp hNotGreater⟩
      · exact .inr ⟨rfl, not_lt.mp hNotLess⟩

@[simp] theorem roundHalfEven_intCast (n : ℤ) : roundHalfEven n = n := by
  simp [roundHalfEven]

theorem abs_roundHalfEven_sub_le (q : ℚ) : |roundHalfEven q - q| ≤ 1 / 2 := by
  rcases roundHalfEven_cases q with ⟨hRound, hPart⟩ | ⟨hRound, hPart⟩
  · have hFloor := Int.floor_le q
    rw [hRound, abs_le]
    constructor <;> linarith
  · have hFloor := Int.lt_floor_add_one q
    rw [hRound, abs_le]
    push_cast
    constructor <;> linarith

theorem roundHalfEven_mono (h : q ≤ q') : roundHalfEven q ≤ roundHalfEven q' := by
  rcases (Int.floor_mono h).lt_or_eq with hLess | hSame
  · rcases roundHalfEven_cases q with ⟨hRound, -⟩ | ⟨hRound, -⟩ <;>
      rcases roundHalfEven_cases q' with ⟨hRound', -⟩ | ⟨hRound', -⟩ <;> omega
  · simp only [roundHalfEven, hSame]
    split_ifs <;> first | omega | (exfalso; linarith)

theorem ulp_pos (q : ℚ) : 0 < ulp q := by
  exact zpow_pos (by norm_num) _

@[simp] theorem roundHalfEven_zero : roundHalfEven 0 = 0 := roundHalfEven_intCast 0

@[simp] theorem round_zero : round 0 = 0 := by
  simp [round]

section Positive

variable {e : ℤ}

theorem log_pow_le (hq : 0 < q) : (2 : ℚ) ^ Int.log 2 q ≤ q :=
  Int.zpow_log_le_self (b := 2) (by norm_num) hq

theorem lt_log_pow (q : ℚ) : q < (2 : ℚ) ^ (Int.log 2 q + 1) :=
  Int.lt_zpow_succ_log_self (b := 2) (by norm_num) q

theorem ulp_eq (hq : 0 ≤ q) : ulp q = 2 ^ (Int.log 2 q - 52) := by
  rw [ulp, abs_of_nonneg hq]

theorem log_pow_eq (hq : 0 ≤ q) : (2 : ℚ) ^ Int.log 2 q = 2 ^ 52 * ulp q := by
  have hNat : (2 : ℚ) ^ 52 = 2 ^ (52 : ℤ) := by norm_num
  rw [ulp_eq hq, hNat, ← zpow_add₀ (by norm_num)]
  congr 1
  ring

theorem log_succ_pow_eq (hq : 0 ≤ q) : (2 : ℚ) ^ (Int.log 2 q + 1) = 2 ^ 53 * ulp q := by
  rw [zpow_add_one₀ (by norm_num), log_pow_eq hq]
  ring

/-- The double stays between the two powers of two around the exact result. -/
theorem round_mem_binade (hq : 0 < q) :
    (2 : ℚ) ^ Int.log 2 q ≤ round q ∧ round q ≤ 2 ^ (Int.log 2 q + 1) := by
  have hUlp := ulp_pos q
  constructor
  · have hScaled : ((2 ^ 52 : ℤ) : ℚ) ≤ q / ulp q := by
      rw [le_div_iff₀ hUlp]
      push_cast
      exact (log_pow_eq hq.le).symm.trans_le (log_pow_le hq)
    have hRound := roundHalfEven_mono hScaled
    rw [roundHalfEven_intCast] at hRound
    rw [log_pow_eq hq.le, round]
    exact mul_le_mul_of_nonneg_right (by exact_mod_cast hRound) hUlp.le
  · have hScaled : q / ulp q ≤ ((2 ^ 53 : ℤ) : ℚ) := by
      rw [div_le_iff₀ hUlp]
      push_cast
      exact (lt_log_pow q).le.trans_eq (log_succ_pow_eq hq.le)
    have hRound := roundHalfEven_mono hScaled
    rw [roundHalfEven_intCast] at hRound
    rw [log_succ_pow_eq hq.le, round]
    exact mul_le_mul_of_nonneg_right (by exact_mod_cast hRound) hUlp.le

theorem round_nonneg (hq : 0 ≤ q) : 0 ≤ round q := by
  rcases hq.eq_or_lt with rfl | hPos
  · simp
  · exact (zpow_pos (by norm_num) _).le.trans (round_mem_binade hPos).1

theorem round_mono (hq : 0 ≤ q) (h : q ≤ q') : round q ≤ round q' := by
  rcases hq.eq_or_lt with rfl | hPos
  · simpa using round_nonneg h
  · rcases (Int.log_mono_right (b := 2) hPos h).eq_or_lt with hSame | hLess
    · have hUlp : ulp q' = ulp q := by rw [ulp_eq hq, ulp_eq (hq.trans h), hSame]
      have hScaled : roundHalfEven (q / ulp q) ≤ roundHalfEven (q' / ulp q) :=
        roundHalfEven_mono (div_le_div_of_nonneg_right h (ulp_pos q).le)
      rw [round, round, hUlp]
      exact mul_le_mul_of_nonneg_right (by exact_mod_cast hScaled) (ulp_pos q).le
    · calc
        round q ≤ 2 ^ (Int.log 2 q + 1) := (round_mem_binade hPos).2
        _ ≤ 2 ^ Int.log 2 q' := zpow_le_zpow_right₀ (by norm_num) (by omega)
        _ ≤ round q' := (round_mem_binade (hPos.trans_le h)).1

/-- The error is at most half a unit in the last place. -/
theorem abs_round_sub_le (hq : 0 ≤ q) : |round q - q| ≤ q / 2 ^ 53 := by
  rcases hq.eq_or_lt with rfl | hPos
  · simp
  · have hUlp := ulp_pos q
    have hPart := abs_roundHalfEven_sub_le (q / ulp q)
    have hScale : round q - q = (roundHalfEven (q / ulp q) - q / ulp q) * ulp q := by
      rw [sub_mul, div_mul_cancel₀ _ hUlp.ne', round]
    have hSmall : 2 ^ 52 * ulp q ≤ q := (log_pow_eq hq).symm.trans_le (log_pow_le hPos)
    rw [hScale, abs_mul, abs_of_pos hUlp]
    calc
      |roundHalfEven (q / ulp q) - q / ulp q| * ulp q ≤ 1 / 2 * ulp q :=
        mul_le_mul_of_nonneg_right hPart hUlp.le
      _ ≤ q / 2 ^ 53 := by linarith

theorem round_of_lt (m : ℕ) (k : ℤ) (hm : m < 2 ^ 53) : round (m * 2 ^ k) = m * 2 ^ k := by
  rcases Nat.eq_zero_or_pos m with rfl | hPos
  · simp
  · have hq : (0 : ℚ) < m * 2 ^ k := mul_pos (by exact_mod_cast hPos) (zpow_pos (by norm_num) _)
    have hLog : Int.log 2 ((m : ℚ) * 2 ^ k) < 53 + k := by
      rw [← Int.lt_zpow_iff_log_lt (b := 2) (by norm_num) hq, Nat.cast_ofNat,
        zpow_add₀ (by norm_num)]
      refine mul_lt_mul_of_pos_right ?_ (zpow_pos (by norm_num) _)
      exact_mod_cast hm
    obtain ⟨j, hj⟩ : ∃ j : ℕ, k = Int.log 2 ((m : ℚ) * 2 ^ k) - 52 + j :=
      ⟨(k - (Int.log 2 ((m : ℚ) * 2 ^ k) - 52)).toNat, by omega⟩
    have hScaled : (m : ℚ) * 2 ^ k / ulp (m * 2 ^ k) = ((m * 2 ^ j : ℤ) : ℚ) := by
      rw [div_eq_iff (ulp_pos _).ne', ulp_eq hq.le]
      push_cast
      rw [mul_assoc, ← zpow_natCast, ← zpow_add₀ (by norm_num)]
      congr 2
      omega
    rw [round, hScaled, roundHalfEven_intCast, ← hScaled, div_mul_cancel₀ _ (ulp_pos _).ne']

/-- A number of at most 53 bits is a double, and so is the next power of two. -/
theorem round_of_bits (m : ℕ) (k : ℤ) (hm : m ≤ 2 ^ 53) : round (m * 2 ^ k) = m * 2 ^ k := by
  rcases hm.eq_or_lt with rfl | hLess
  · have hShift : ((2 ^ 53 : ℕ) : ℚ) * 2 ^ k = (2 ^ 52 : ℕ) * 2 ^ (k + 1) := by
      rw [zpow_add_one₀ (by norm_num)]
      push_cast
      ring
    rw [hShift]
    exact round_of_lt _ _ (by norm_num)
  · exact round_of_lt m k hLess

theorem round_natCast {n : ℕ} (hn : n ≤ 2 ^ 53) : round n = n := by
  simpa using round_of_bits n 0 hn

/-- What has been rounded stays as it is. -/
theorem round_round (hq : 0 ≤ q) : round (round q) = round q := by
  rcases hq.eq_or_lt with rfl | hPos
  · simp
  · have hUlp := ulp_pos q
    have hLow : 0 ≤ roundHalfEven (q / ulp q) := by
      simpa using roundHalfEven_mono (div_nonneg hq hUlp.le)
    have hHigh : roundHalfEven (q / ulp q) ≤ 2 ^ 53 := by
      have hBound := (round_mem_binade hPos).2
      rw [log_succ_pow_eq hq, round] at hBound
      exact_mod_cast le_of_mul_le_mul_right hBound hUlp
    obtain ⟨m, hm⟩ := Int.eq_ofNat_of_zero_le hLow
    have hBits : round q = (m : ℕ) * 2 ^ (Int.log 2 q - 52) := by
      rw [round, hm, ulp_eq hq]
      rfl
    rw [hBits]
    exact round_of_bits m _ (by omega)

end Positive

section Integers

variable {n : ℕ}

/-- From 2 ^ 52 on the doubles are integers. -/
theorem ulp_of_floor (hn : 2 ^ 52 ≤ n) (hq : (n : ℚ) ≤ q) (hq' : q < n + 1) :
    ulp q = 2 ^ (Nat.log 2 n - 52) := by
  have hPos : 0 < n := lt_of_lt_of_le (by norm_num) hn
  have hOne : (1 : ℚ) ≤ n := by exact_mod_cast hPos
  have hFloor : ⌊q⌋₊ = n := (Nat.floor_eq_iff (by linarith)).mpr ⟨hq, hq'⟩
  have hLog : 52 ≤ Nat.log 2 n := Nat.le_log_of_pow_le (by norm_num) hn
  rw [ulp_eq (by linarith), Int.log_of_one_le_right 2 (hOne.trans hq), hFloor, ← zpow_natCast]
  congr 1
  omega

/-- An integer is rounded to an integer. -/
theorem round_natCast_eq (n : ℕ) : ∃ m : ℕ, round n = m := by
  rcases le_total n (2 ^ 53) with hSmall | hLarge
  · exact ⟨n, round_natCast hSmall⟩
  · have hUlp := ulp_of_floor (q := n) ((by norm_num : 2 ^ 52 ≤ 2 ^ 53).trans hLarge) le_rfl
      (lt_add_one _)
    have hRound : round n = ((roundHalfEven (n / ulp n) * 2 ^ (Nat.log 2 n - 52) : ℤ) : ℚ) := by
      rw [round, Int.cast_mul, Int.cast_pow, Int.cast_ofNat, ← hUlp]
    have hSign := round_nonneg (q := n) (Nat.cast_nonneg n)
    rw [hRound] at hSign ⊢
    obtain ⟨m, hm⟩ := Int.eq_ofNat_of_zero_le (Int.cast_nonneg_iff.mp hSign)
    exact ⟨m, by rw [hm]; rfl⟩

/-- Strictly between neighbouring integers there is no double and no number half way
between two doubles, from 2 ^ 53 on. -/
theorem round_between (hn : 2 ^ 53 ≤ n) : ∃ m : ℕ, ∀ q : ℚ, n < q → q < n + 1 → round q = m := by
  have hLog : 53 ≤ Nat.log 2 n := Nat.le_log_of_pow_le (by norm_num) hn
  obtain ⟨half, hHalf⟩ : ∃ half : ℕ, 2 * half = 2 ^ (Nat.log 2 n - 52) :=
    ⟨2 ^ (Nat.log 2 n - 53), by rw [← pow_succ']; congr 1; omega⟩
  have hHalfPos : 0 < half := by
    have hPow : 0 < 2 ^ (Nat.log 2 n - 52) := by positivity
    omega
  have hDiv := Nat.div_add_mod n (2 * half)
  have hMod := Nat.mod_lt n (y := 2 * half) (by omega)
  set quotient := n / (2 * half)
  set rest := n % (2 * half)
  refine ⟨(if rest < half then quotient else quotient + 1) * (2 * half), fun q hq hq' => ?_⟩
  have hUlp : ulp q = (2 * half : ℕ) := by
    rw [ulp_of_floor ((by norm_num : 2 ^ 52 ≤ 2 ^ 53).trans hn) hq.le hq', hHalf]
    push_cast
    rfl
  have hRational : (n : ℚ) = 2 * half * quotient + rest := by exact_mod_cast hDiv.symm
  have hUlpPos : (0 : ℚ) < (2 * half : ℕ) := by exact_mod_cast (by omega : 0 < 2 * half)
  have hPart : q / ulp q - quotient = (rest + (q - n)) / (2 * half : ℕ) := by
    rw [hUlp, eq_div_iff hUlpPos.ne', sub_mul, div_mul_cancel₀ _ hUlpPos.ne']
    push_cast
    linarith
  have hRest : (rest : ℚ) + 1 ≤ (2 * half : ℕ) := by exact_mod_cast hMod
  have hFloor : ⌊q / ulp q⌋ = quotient := by
    have hLow : 0 ≤ q / ulp q - quotient := by
      rw [hPart]
      exact div_nonneg (by linarith [rest.cast_nonneg (α := ℚ)]) hUlpPos.le
    have hHigh : q / ulp q - quotient < 1 := by
      rw [hPart, div_lt_one hUlpPos]
      linarith
    rw [Int.floor_eq_iff, Int.cast_natCast]
    constructor <;> linarith
  -- The half way point is an integer, so `q` lies on the same side of it as `n + 1 / 2`.
  by_cases hSide : rest < half
  · have hHalfRest : (rest : ℚ) + 1 ≤ half := by exact_mod_cast hSide
    have hBelow : q / ulp q - quotient < 1 / 2 := by
      rw [hPart, div_lt_iff₀ hUlpPos]
      push_cast
      linarith
    rw [round, roundHalfEven, hFloor, Int.cast_natCast, if_pos hBelow, hUlp, if_pos hSide]
    push_cast
    rfl
  · have hHalfRest : (half : ℚ) ≤ rest := by exact_mod_cast not_lt.mp hSide
    have hAbove : 1 / 2 < q / ulp q - quotient := by
      rw [hPart, lt_div_iff₀ hUlpPos]
      push_cast
      linarith
    rw [round, roundHalfEven, hFloor, Int.cast_natCast, if_neg hAbove.asymm, if_pos hAbove, hUlp,
      if_neg hSide]
    push_cast
    rfl

end Integers

section Quotients

variable {a b : ℕ}

/-- A quotient of natural numbers which is no integer has a distance to all of them. -/
theorem quotient_cases (a : ℕ) (hb : 0 < b) : (∃ m : ℕ, a = m * b ∧ (a / b : ℚ) = m) ∨
    ∃ m : ℕ, m * b < a ∧ (m : ℚ) + 1 / b ≤ a / b ∧ (a / b : ℚ) + 1 / b ≤ m + 1 := by
  have hPos : (0 : ℚ) < b := by exact_mod_cast hb
  have hDivMod := Nat.div_add_mod a b
  have hMod := Nat.mod_lt a hb
  set m := a / b
  set rest := a % b
  have hExact : (a / b : ℚ) = m + rest / b := by
    rw [div_eq_iff hPos.ne', add_mul, div_mul_cancel₀ _ hPos.ne', mul_comm]
    exact_mod_cast hDivMod.symm
  rcases Nat.eq_zero_or_pos rest with hZero | hSome
  · refine .inl ⟨m, by rw [mul_comm]; omega, ?_⟩
    rw [hExact, hZero, Nat.cast_zero, zero_div, add_zero]
  · have hOne : (1 : ℚ) / b ≤ rest / b :=
      div_le_div_of_nonneg_right (by exact_mod_cast hSome) hPos.le
    have hLast : (rest : ℚ) / b + 1 / b ≤ 1 := by
      rw [← add_div, div_le_one hPos]
      exact_mod_cast hMod
    refine .inr ⟨m, by rw [mul_comm]; omega, ?_, ?_⟩ <;> linarith

/-- Such a quotient is not rounded to an integer, nor past one. -/
theorem ceil_round_div (hb : 0 < b) (ha : a < 2 ^ 53) :
    ⌈round (a / b)⌉ = ⌈(a / b : ℚ)⌉ := by
  have hPos : (0 : ℚ) < b := by exact_mod_cast hb
  rcases quotient_cases a hb with ⟨m, hProduct, hExact⟩ | ⟨m, -, hLow, hHigh⟩
  · have hSmall : m ≤ 2 ^ 53 := (Nat.le_mul_of_pos_right m hb).trans (by omega)
    rw [hExact, round_natCast hSmall]
  · have hError := abs_le.mp (abs_round_sub_le (q := (a / b : ℚ)) (by positivity))
    have hSmall : (a / b : ℚ) / 2 ^ 53 < 1 / b := by
      rw [div_right_comm]
      refine div_lt_div_of_pos_right ?_ hPos
      rw [div_lt_one (by positivity)]
      exact_mod_cast ha
    have hCeil : ∀ q : ℚ, m < q → q < m + 1 → ⌈q⌉ = m + 1 := by
      intro q hAbove hBelow
      rw [Int.ceil_eq_iff]
      push_cast
      constructor <;> linarith
    have hStep : (0 : ℚ) < 1 / b := by positivity
    rw [hCeil (round (a / b)) (by linarith [hError.1]) (by linarith [hError.2]),
      hCeil (a / b) (by linarith) (by linarith)]

end Quotients

end Binary64
