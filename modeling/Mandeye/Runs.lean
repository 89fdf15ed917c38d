import Mathlib.Data.List.DropRight
import Mathlib.Data.List.Infix

/-! Runs of `true` in a sequence of samples. -/
namespace Runs

/-- The length of the run at the end. -/
def trailing (samples : List Bool) : Nat := (samples.rtakeWhile id).length

/-- The lengths of all runs, where the first one continues a run of length `n`.
Between two adjacent samples of `false`, and at the end, a run may be empty. -/
def lengthsFrom (n : Nat) : List Bool → List Nat
  | [] => [n]
  | true :: rest => lengthsFrom (n + 1) rest
  | false :: rest => n :: lengthsFrom 0 rest

def lengths (samples : List Bool) : List Nat := lengthsFrom 0 samples

variable {samples : List Bool} {n bound : Nat}

@[simp] theorem trailing_nil : trailing [] = 0 := by simp [trailing]

@[simp] theorem trailing_concat_true : trailing (samples ++ [true]) = trailing samples + 1 := by
  simp [trailing]

@[simp] theorem trailing_concat_false : trailing (samples ++ [false]) = 0 := by
  simp [trailing]

/-- A further sample ends the last run or makes it longer. -/
theorem lengthsFrom_concat (n : Nat) (samples : List Bool) : ∃ closed last,
    lengthsFrom n samples = closed ++ [last] ∧
      lengthsFrom n (samples ++ [false]) = closed ++ [last, 0] ∧
      lengthsFrom n (samples ++ [true]) = closed ++ [last + 1] := by
  induction samples generalizing n with
  | nil => exact ⟨[], n, rfl, rfl, rfl⟩
  | cons sample rest ih =>
      cases sample with
      | true => exact ih (n + 1)
      | false =>
          obtain ⟨closed, last, hRest, hFalse, hTrue⟩ := ih 0
          exact ⟨n :: closed, last, by simp [lengthsFrom, hRest], by simp [lengthsFrom, hFalse],
            by simp [lengthsFrom, hTrue]⟩

theorem trailing_eq_last {closed : List Nat} {last : Nat}
    (h : lengths samples = closed ++ [last]) : trailing samples = last := by
  induction samples using List.reverseRecOn generalizing closed last with
  | nil =>
      have hSame : [] ++ [0] = closed ++ [last] := h
      exact List.singleton_inj.mp (List.append_inj' hSame rfl).2
  | append_singleton samples sample ih =>
      obtain ⟨before, middle, hSamples, hFalse, hTrue⟩ := lengthsFrom_concat 0 samples
      cases sample with
      | false =>
          have hSame : (before ++ [middle]) ++ [0] = closed ++ [last] := by
            rw [← h, lengths, hFalse, List.append_assoc]
            rfl
          rw [trailing_concat_false]
          exact List.singleton_inj.mp (List.append_inj' hSame rfl).2
      | true =>
          have hSame : before ++ [middle + 1] = closed ++ [last] := hTrue.symm.trans h
          rw [trailing_concat_true, ih hSamples]
          exact List.singleton_inj.mp (List.append_inj' hSame rfl).2

theorem lengths_concat (samples : List Bool) : ∃ closed,
    lengths samples = closed ++ [trailing samples] ∧
      lengths (samples ++ [false]) = closed ++ [trailing samples, 0] ∧
      lengths (samples ++ [true]) = closed ++ [trailing samples + 1] := by
  obtain ⟨closed, last, hSamples, hFalse, hTrue⟩ := lengthsFrom_concat 0 samples
  rw [trailing_eq_last hSamples]
  exact ⟨closed, hSamples, hFalse, hTrue⟩

theorem trailing_mem_lengths (samples : List Bool) : trailing samples ∈ lengths samples := by
  obtain ⟨closed, hClosed, -⟩ := lengths_concat samples
  simp [hClosed]

theorem lengths_lt_of_concat {sample : Bool}
    (h : ∀ run ∈ lengths (samples ++ [sample]), run < bound) :
    ∀ run ∈ lengths samples, run < bound := by
  obtain ⟨closed, hSamples, hFalse, hTrue⟩ := lengths_concat samples
  rw [hSamples]
  cases sample with
  | false =>
      rw [hFalse] at h
      exact fun run hRun => h run (by simp at hRun ⊢; tauto)
  | true =>
      rw [hTrue] at h
      intro run hRun
      rcases List.mem_append.mp hRun with hClosed | hLast
      · exact h run (by simp [hClosed])
      · have hLonger := h (trailing samples + 1) (by simp)
        rw [List.mem_singleton.mp hLast]
        omega

/-- A run of length `n` is found at the sample at which it gets so long. -/
theorem countP_lengths_concat (hn : 0 < n) (sample : Bool) :
    (lengths (samples ++ [sample])).countP (n ≤ ·) =
      (lengths samples).countP (n ≤ ·) + if trailing (samples ++ [sample]) = n then 1 else 0 := by
  obtain ⟨closed, hSamples, hFalse, hTrue⟩ := lengths_concat samples
  cases sample with
  | false =>
      rw [hFalse, hSamples, trailing_concat_false, if_neg (by omega)]
      simp [List.countP_cons, List.countP_append]
      omega
  | true =>
      rw [hTrue, hSamples, trailing_concat_true]
      simp only [List.countP_append, List.countP_singleton]
      grind

theorem replicate_suffix_iff : List.replicate n true <:+ samples ↔ n ≤ trailing samples := by
  induction samples using List.reverseRecOn generalizing n with
  | nil => cases n <;> simp [List.replicate_succ]
  | append_singleton samples sample ih =>
      cases n with
      | zero => simp
      | succ n =>
          rw [List.replicate_succ', List.suffix_concat_iff]
          cases sample with
          | false => simp
          | true => simp [ih]

/-- A run of length `n` has come up if it had before or has now. -/
theorem replicate_infix_concat {sample : Bool} :
    List.replicate n true <:+: samples ++ [sample] ↔
      List.replicate n true <:+: samples ∨ n ≤ trailing (samples ++ [sample]) := by
  rw [List.infix_concat_iff, replicate_suffix_iff, or_comm]

end Runs
