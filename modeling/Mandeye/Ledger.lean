import Mandeye.SwapBuffer

/-! The books of a buffer which producers fill and a consumer empties. What was
taken out of the buffer has to be handed on; what is appended after the last
time it was emptied never will be. -/

/-- What one action means for the buffer. -/
inductive Effect (α : Type) where
  | start
  | append (items : List α)
  | retrieve
  | hand (items : List α)
  | other

/-- Everything since the latest `start`, in order. `waiting` was appended since
the buffer was last emptied. -/
structure Ledger (α : Type) where
  appended : List α
  retrieved : List α
  waiting : List α
  handed : List α
  balanced : appended = retrieved ++ waiting

namespace Ledger

variable {α Entry : Type}

def empty : Ledger α := ⟨[], [], [], [], rfl⟩

def enter (l : Ledger α) : Effect α → Ledger α
  | .start => empty
  | .append items =>
      { l with
        appended := l.appended ++ items
        waiting := l.waiting ++ items
        balanced := by rw [l.balanced, List.append_assoc] }
  | .retrieve =>
      { l with
        retrieved := l.retrieved ++ l.waiting
        waiting := []
        balanced := by rw [l.balanced, List.append_nil] }
  | .hand items => { l with handed := l.handed ++ items }
  | .other => l

/-- The books after a history, whose latest entry comes first. -/
def of (effect : Entry → Effect α) : List Entry → Ledger α
  | [] => empty
  | entry :: earlier => (of effect earlier).enter (effect entry)

/-- The items were taken out of the buffer and are still to be handed on. -/
def Owes (l : Ledger α) (items : List α) : Prop := l.handed ++ items = l.retrieved

/-- The buffer holds what is waiting. Without a buffer nothing is said. -/
def Holds (l : Ledger α) (held : Option (List α)) : Prop :=
  ∀ items, held = some items → items = l.waiting

end Ledger

namespace Effect

variable {α : Type}

/-- An action of the producers, or none that concerns the buffer. -/
def Passive : Effect α → Prop
  | .append _ => True
  | .other => True
  | _ => False

/-- What an action does to the content of the buffer. -/
def Follows : Effect α → Option (List α) → Option (List α) → Prop
  | .start, _, after => after = some []
  | .append items, before, after => after = before.map (· ++ items)
  | .retrieve, _, after => after = some []
  | _, before, after => after = before ∨ after = none

end Effect

namespace Ledger

variable {α : Type} {l : Ledger α} {effect : Effect α} {items : List α}

theorem owes_empty : (empty : Ledger α).Owes [] := rfl

theorem Owes.passive (h : l.Owes items) (hEffect : effect.Passive) :
    (l.enter effect).Owes items := by
  cases effect with
  | append more => exact h
  | other => exact h
  | _ => exact hEffect.elim

theorem Owes.retrieve (h : l.Owes []) : (l.enter .retrieve).Owes l.waiting := by
  simp only [Owes, List.append_nil] at h
  simp [Owes, enter, h]

theorem Owes.hand (h : l.Owes items) : (l.enter (.hand items)).Owes [] := by
  simpa [Owes, enter] using h

theorem holds_none : l.Holds none := by
  intro items h
  cases h

theorem Holds.enter {before after : Option (List α)} (h : l.Holds before)
    (hFollows : effect.Follows before after) : (l.enter effect).Holds after := by
  rintro items rfl
  cases effect with
  | start => exact Option.some.inj hFollows
  | retrieve => exact Option.some.inj hFollows
  | append more =>
      obtain ⟨content, hContent, rfl⟩ := Option.map_eq_some_iff.mp hFollows.symm
      exact congrArg (· ++ more) (h content hContent)
  | hand more =>
      rcases hFollows with hSame | hNone
      · exact h items hSame.symm
      · cases hNone
  | other =>
      rcases hFollows with hSame | hNone
      · exact h items hSame.symm
      · cases hNone

/-- If nothing is owed, what was appended has been handed on unless it came
after the buffer was last emptied. -/
theorem Owes.handed_iff (h : l.Owes []) : l.handed = l.appended ↔ l.waiting = [] := by
  simp only [Owes, List.append_nil] at h
  rw [h, l.balanced]
  constructor
  · intro hAll
    simpa using hAll
  · intro hNone
    rw [hNone, List.append_nil]

end Ledger

namespace SwapBuffer

variable {α : Type}

/-- The content of the current buffer, if there is one. -/
def held (b : SwapBuffer α) : Option (List α) := b.pointer.map fun p => b.content (some p)

/-- What an append adds. -/
def accepted (b : SwapBuffer α) (items : List α) : List α :=
  if b.pointer.isSome then items else []

/-- A buffer handed out earlier which still has its content. -/
def Keeps (p : Nat) (items : List α) (b : SwapBuffer α) : Prop :=
  b.Retired p ∧ b.content (some p) = items

/-- What can happen to a buffer which may not have been created yet. -/
inductive Step : Option (SwapBuffer α) → Effect α → Option (SwapBuffer α) → Prop where
  | other (b : Option (SwapBuffer α)) : Step b .other b
  | hand (b : Option (SwapBuffer α)) (items : List α) : Step b (.hand items) b
  | create : Step none .other (some .initial)
  | start (b : SwapBuffer α) : Step (some b) .start (some b.start)
  | stop (b : SwapBuffer α) : Step (some b) .other (some b.stop)
  | append (b : SwapBuffer α) (items : List α) :
      Step (some b) (.append (b.accepted items)) (some (b.append items))
  | retrieve (b : SwapBuffer α) : Step (some b) .retrieve (some b.start)

variable {b : SwapBuffer α}

theorem held_of_none (h : b.pointer = none) : b.held = none := by
  simp [held, h]

theorem held_of_some {p : Nat} (h : b.pointer = some p) : b.held = some b.current := by
  simp [held, current, h]

theorem start_held (b : SwapBuffer α) : b.start.held = some [] := by
  rw [held_of_some b.start_pointer, start_current]

theorem append_held (b : SwapBuffer α) (items : List α) :
    (b.append items).held = b.held.map (· ++ b.accepted items) := by
  cases h : b.pointer with
  | none => rw [append_of_none items h, held_of_none h, Option.map_none]
  | some p =>
      rw [held_of_some h, held_of_some ((append_pointer b items).trans h),
        append_current items h, Option.map_some, accepted, h, Option.isSome_some, if_pos rfl]

theorem Step.follows {before after : Option (SwapBuffer α)} {effect : Effect α}
    (h : Step before effect after) : effect.Follows (before.bind held) (after.bind held) := by
  cases h with
  | other => exact .inl rfl
  | hand => exact .inl rfl
  | create => exact .inl rfl
  | start b => exact start_held b
  | stop b => exact .inr rfl
  | append b items => exact append_held b items
  | retrieve b => exact start_held b

theorem Step.keeps {before after : Option (SwapBuffer α)} {effect : Effect α}
    (h : Step before effect after) {p : Nat} {items : List α}
    (hKeeps : ∃ b, before = some b ∧ b.Keeps p items) : ∃ b, after = some b ∧ b.Keeps p items := by
  obtain ⟨b, rfl, hRetired, hContent⟩ := hKeeps
  cases h with
  | other => exact ⟨b, rfl, hRetired, hContent⟩
  | hand => exact ⟨b, rfl, hRetired, hContent⟩
  | start => exact ⟨_, rfl, start_retired hRetired.1, (start_content hRetired.1).trans hContent⟩
  | stop => exact ⟨_, rfl, stop_retired hRetired, (stop_content b _).trans hContent⟩
  | append _ items =>
      exact ⟨_, rfl, append_retired items hRetired, (append_content items hRetired).trans hContent⟩
  | retrieve => exact ⟨_, rfl, start_retired hRetired.1, (start_content hRetired.1).trans hContent⟩

/-- The buffer which is taken away keeps what it held. -/
theorem retrieve_keeps {p : Nat} (h : b.pointer = some p) : b.start.Keeps p b.current := by
  have hLt := b.allocated p h
  exact ⟨start_retired hLt, (start_content hLt).trans (by rw [current, h])⟩

end SwapBuffer
