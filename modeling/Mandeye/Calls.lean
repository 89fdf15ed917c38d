import Mathlib.Data.List.DropRight
import Mathlib.Data.List.Induction

/-! Laws of sequences of calls. A law speaks about the calls made so far, and it
holds throughout a sequence if it holds at every point of it. Whether it does can
often be told call by call. -/
namespace Calls

variable {Call Note : Type}

/-- The law holds at every point of the sequence. -/
def Throughout (Law : List Call → Prop) (calls : List Call) : Prop :=
  ∀ earlier, earlier <+: calls → Law earlier

/-- Every call meets the condition, which may depend on the calls before it. -/
def Each (Condition : List Call → Call → Prop) (calls : List Call) : Prop :=
  ∀ earlier call later, calls = earlier ++ call :: later → Condition earlier call

/-- The calls, each with a note on those before it. -/
def annotate (note : List Call → Note) (calls : List Call) : List (Call × Note) :=
  calls.mapIdx fun i call => (call, note (calls.take i))

variable {Law : List Call → Prop} {Condition Other : List Call → Call → Prop}
  {calls : List Call} {call : Call} {note : List Call → Note}

theorem Throughout.last (h : Throughout Law calls) : Law calls := h calls List.prefix_rfl

@[simp] theorem throughout_nil : Throughout Law [] ↔ Law [] := by
  simp [Throughout]

/-- A law holds throughout if it did before the last call and does after it. -/
@[simp] theorem throughout_concat :
    Throughout Law (calls ++ [call]) ↔ Throughout Law calls ∧ Law (calls ++ [call]) := by
  constructor
  · intro h
    exact ⟨fun earlier hEarlier => h earlier (hEarlier.trans (List.prefix_append _ _)), h.last⟩
  · rintro ⟨hCalls, hLast⟩ earlier hEarlier
    rcases List.prefix_concat_iff.mp hEarlier with rfl | hBefore
    · exact hLast
    · exact hCalls earlier hBefore

@[simp] theorem each_nil : Each Condition [] := by
  intro earlier call later hCalls
  simp at hCalls

/-- The last call is judged by those before it. -/
@[simp] theorem each_concat :
    Each Condition (calls ++ [call]) ↔ Each Condition calls ∧ Condition calls call := by
  constructor
  · intro h
    refine ⟨fun earlier middle later hCalls => ?_, h calls call [] rfl⟩
    exact h earlier middle (later ++ [call]) (by simp [hCalls])
  · rintro ⟨hCalls, hLast⟩ earlier middle later hEq
    rcases List.eq_nil_or_concat later with rfl | ⟨rest, last, rfl⟩
    · obtain ⟨rfl, hCall⟩ := List.append_inj' hEq rfl
      simp only [List.cons.injEq, and_true] at hCall
      exact hCall ▸ hLast
    · rw [List.concat_eq_append, ← List.cons_append, ← List.append_assoc] at hEq
      exact hCalls earlier middle rest (List.append_inj' hEq rfl).1

theorem Each.imp (h : Each Condition calls)
    (hImp : ∀ earlier call, Condition earlier call → Other earlier call) : Each Other calls :=
  fun earlier call later hCalls => hImp earlier call (h earlier call later hCalls)

theorem each_congr
    (h : ∀ earlier call later, calls = earlier ++ call :: later →
      (Condition earlier call ↔ Other earlier call)) :
    Each Condition calls ↔ Each Other calls := by
  constructor
  · intro hEach earlier call later hCalls
    exact (h earlier call later hCalls).mp (hEach earlier call later hCalls)
  · intro hEach earlier call later hCalls
    exact (h earlier call later hCalls).mpr (hEach earlier call later hCalls)

@[simp] theorem annotate_nil : annotate note [] = [] := rfl

@[simp] theorem annotate_concat :
    annotate note (calls ++ [call]) = annotate note calls ++ [(call, note calls)] := by
  have hTake : ∀ i < calls.length, (calls ++ [call]).take i = calls.take i := by
    intro i hi
    rw [List.take_append_of_le_length (by omega)]
  rw [annotate, List.mapIdx_concat, List.take_left', annotate]
  · congr 1
    apply List.ext_getElem?
    intro i
    by_cases hi : i < calls.length
    · simp [hi, hTake i hi]
    · simp [hi]
  · rfl

/-- A law which each call keeps exactly if it meets the condition holds throughout
exactly if all calls meet it. -/
theorem throughout_iff_each (hNil : Law [])
    (hStep : ∀ earlier call, earlier ++ [call] <+: calls → Throughout Law earlier →
      (Law (earlier ++ [call]) ↔ Condition earlier call)) :
    Throughout Law calls ↔ Each Condition calls := by
  induction calls using List.reverseRecOn with
  | nil => simp [hNil]
  | append_singleton calls call ih =>
      have hBefore : Throughout Law calls ↔ Each Condition calls :=
        ih fun earlier other hPrefix => hStep earlier other (hPrefix.trans (List.prefix_append _ _))
      rw [throughout_concat, each_concat, ← hBefore]
      exact and_congr_right fun hCalls => hStep calls call List.prefix_rfl hCalls

end Calls
