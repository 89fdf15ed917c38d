import Mathlib.Algebra.Ring.Divisibility.Basic
import Mathlib.Data.List.Basic
import Mathlib.Data.PNat.Basic

/-! Every so many-th element of a list. -/
namespace Decimation

/-- The elements at the multiples of the step, for a list which begins at an index. -/
def decimated {α : Type} (step : ℕ+) (i : Nat) (elements : List α) : List α :=
  ((elements.zipIdx i).filter fun entry => (step : Nat) ∣ entry.2).map Prod.fst

variable {α : Type} {step : ℕ+} {i k : Nat} {elements : List α}

/-- Elements between two multiples of the step are passed over. -/
theorem decimated_drop (h : ∀ j, i ≤ j → j < i + k → ¬(step : Nat) ∣ j) :
    decimated step i elements = decimated step (i + k) (elements.drop k) := by
  induction k generalizing i elements with
  | zero => rfl
  | succ k ih =>
      cases elements with
      | nil => rfl
      | cons first rest =>
          have hFirst : decimated step i (first :: rest) = decimated step (i + 1) rest := by
            simp [decimated, h i le_rfl (by omega)]
          rw [hFirst, List.drop_succ_cons, ih fun j hj hLess => h j (by omega) (by omega)]
          congr 1
          omega

/-- After an element which is taken, the next one is a step further. -/
theorem decimated_cons (first : α) (rest : List α) (hi : (step : Nat) ∣ i) :
    decimated step i (first :: rest) =
      first :: decimated step (i + step) ((first :: rest).drop step) := by
  obtain ⟨before, hBefore⟩ := Nat.exists_eq_succ_of_ne_zero step.ne_zero
  have hFirst : decimated step i (first :: rest) = first :: decimated step (i + 1) rest := by
    simp [decimated, hi]
  rw [hFirst, hBefore, List.drop_succ_cons]
  have hShift : i + before.succ = i + 1 + before := by omega
  rw [hShift]
  congr 1
  refine decimated_drop fun j hj hLess hDvd => ?_
  have hRest : (step : Nat) ∣ j - i := Nat.dvd_sub hDvd hi
  exact absurd (Nat.le_of_dvd (by omega) hRest) (by omega)

theorem ceilDiv_sub {m n : Nat} (hn : 0 < n) (hm : 0 < m) :
    (m + n - 1) / n = (m - n + n - 1) / n + 1 := by
  rcases le_total n m with hLarge | hSmall
  · have hSplit : m + n - 1 = (m - n + n - 1) + n := by omega
    rw [hSplit, Nat.add_div_right _ hn]
  · have hSplit : m + n - 1 = m - 1 + n := by omega
    have hNone : m - n + n - 1 = n - 1 := by omega
    rw [hSplit, hNone, Nat.add_div_right _ hn, Nat.div_eq_of_lt (by omega : m - 1 < n),
      Nat.div_eq_of_lt (by omega : n - 1 < n)]

/-- As many elements are left as there are multiples. -/
theorem length_decimated (hi : (step : Nat) ∣ i) :
    (decimated step i elements).length = (elements.length + step - 1) / step := by
  induction hLength : elements.length using Nat.strong_induction_on generalizing i elements with
  | _ size ih =>
      cases elements with
      | nil =>
          rw [← hLength]
          exact (Nat.div_eq_of_lt (by simp)).symm
      | cons first rest =>
          have hRest : ((first :: rest).drop step).length = size - step := by
            rw [List.length_drop, hLength]
          have hSize : 0 < size := by
            rw [← hLength]
            exact Nat.succ_pos _
          rw [decimated_cons first rest hi, List.length_cons, ceilDiv_sub step.pos hSize,
            ih (size - step) (Nat.sub_lt hSize step.pos) (hi.add dvd_rfl) hRest]

theorem length_decimated_le (step : ℕ+) (i : Nat) (elements : List α) :
    (decimated step i elements).length ≤ elements.length := by
  rw [decimated, List.length_map]
  exact (List.length_filter_le _ _).trans_eq List.length_zipIdx

theorem decimated_one (i : Nat) (elements : List α) :
    decimated 1 i elements = elements := by
  simp [decimated]

end Decimation
