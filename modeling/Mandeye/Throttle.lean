import Mathlib.Data.List.Chain
import Mathlib.Order.Basic

/-! A throttle lets an event pass if it comes late enough after the last one which
passed. Of all selections with such gaps it makes one of the longest. -/
namespace Throttle

variable {Event Time : Type}

/-- The events which pass, the last one before them having passed at some time. -/
def passed (late : Time → Time → Bool) (time : Event → Time) (last : Time) :
    List Event → List Event
  | [] => []
  | event :: rest =>
      if late last (time event) then event :: passed late time (time event) rest
      else passed late time last rest

/-- Each event comes late enough after the one before it. -/
def Spaced (late : Time → Time → Bool) (time : Event → Time) (last : Time)
    (events : List Event) : Prop :=
  (last :: events.map time).IsChain fun before now => late before now = true

variable {late : Time → Time → Bool} {time : Event → Time} {last : Time}

theorem spaced_nil : Spaced late time last [] := .singleton last

theorem spaced_cons {event : Event} {rest : List Event} :
    Spaced late time last (event :: rest) ↔
      late last (time event) = true ∧ Spaced late time (time event) rest :=
  List.isChain_cons_cons

theorem passed_sublist (last : Time) (events : List Event) :
    (passed late time last events).Sublist events := by
  induction events generalizing last with
  | nil => exact .slnil
  | cons event rest ih =>
      unfold passed
      split
      · exact (ih (time event)).cons_cons event
      · exact (ih last).cons event

theorem spaced_passed (last : Time) (events : List Event) :
    Spaced late time last (passed late time last events) := by
  induction events generalizing last with
  | nil => exact spaced_nil
  | cons event rest ih =>
      unfold passed
      split
      · rename_i hLate
        exact spaced_cons.mpr ⟨hLate, ih (time event)⟩
      · exact ih last

/-- The throttle stays ahead of any other selection: it is ready again at least as
early after each event. -/
theorem length_le_passed [Preorder Time]
    (hLate : ∀ earlier later now, earlier ≤ later → late later now = true →
      late earlier now = true)
    {events selected : List Event} {other : Time}
    (hOrder : (events.map time).Pairwise (· ≤ ·)) (hOther : last ≤ other)
    (hSelected : selected.Sublist events) (hSpaced : Spaced late time other selected) :
    selected.length ≤ (passed late time last events).length := by
  induction events generalizing last other selected with
  | nil =>
      rw [List.sublist_nil.mp hSelected]
      exact Nat.le_refl _
  | cons event rest ih =>
      obtain ⟨hFirst, hRest⟩ := List.pairwise_cons.mp hOrder
      unfold passed
      cases hSelected with
      | cons _ hLater =>
          split
          · cases selected with
            | nil => exact Nat.zero_le _
            | cons chosen further =>
                have hChosen : time event ≤ time chosen :=
                  hFirst _ (List.mem_map_of_mem (hLater.subset List.mem_cons_self))
                have hFurther := ih hRest hChosen ((List.sublist_cons_self _ _).trans hLater)
                  (spaced_cons.mp hSpaced).2
                exact Nat.succ_le_succ hFurther
          · exact ih hRest hOther hLater hSpaced
      | cons_cons _ hLater =>
          obtain ⟨hNow, hFurther⟩ := spaced_cons.mp hSpaced
          rw [if_pos (hLate last other (time event) hOther hNow)]
          exact Nat.succ_le_succ (ih hRest le_rfl hLater hFurther)

end Throttle
