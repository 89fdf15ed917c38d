import Mathlib.Data.List.Basic

/-! A buffer which producers reach through one shared pointer and which a
consumer takes away by exchanging the pointer for one to a fresh buffer. The
buffers stay where they were allocated, so a pointer handed out earlier can be
read again at any later time. -/

/-- Every buffer allocated so far, in order of allocation, and the pointer
through which producers append. There may be no current buffer. -/
structure SwapBuffer (α : Type) where
  cells : List (List α)
  pointer : Option Nat
  allocated : ∀ p, pointer = some p → p < cells.length

namespace SwapBuffer

variable {α : Type}

/-- Nothing allocated, no current buffer. -/
def initial : SwapBuffer α := ⟨[], none, by simp⟩

/-- What a pointer points to. A null pointer has no content. -/
def content (b : SwapBuffer α) : Option Nat → List α
  | none => []
  | some p => b.cells.getD p []

/-- The content of the current buffer. -/
def current (b : SwapBuffer α) : List α := b.content b.pointer

/-- Point to a freshly allocated empty buffer. -/
def start (b : SwapBuffer α) : SwapBuffer α :=
  ⟨b.cells ++ [[]], some b.cells.length, by simp⟩

def stop (b : SwapBuffer α) : SwapBuffer α := ⟨b.cells, none, by simp⟩

/-- Append to the current buffer; without one nothing happens. -/
def append (b : SwapBuffer α) (items : List α) : SwapBuffer α :=
  match h : b.pointer with
  | none => b
  | some p => ⟨b.cells.modify p (· ++ items), some p, by
      intro q hq
      cases hq
      simpa using b.allocated p h⟩

/-- Exchange the current buffer for a fresh one and hand out the old pointer,
which is null when there was no current buffer. -/
def retrieve (b : SwapBuffer α) : Option Nat × SwapBuffer α := (b.pointer, b.start)

@[simp] theorem initial_pointer : (initial : SwapBuffer α).pointer = none := rfl

@[simp] theorem start_pointer (b : SwapBuffer α) : b.start.pointer = some b.cells.length := rfl

@[simp] theorem stop_pointer (b : SwapBuffer α) : b.stop.pointer = none := rfl

@[simp] theorem append_pointer (b : SwapBuffer α) (items : List α) :
    (b.append items).pointer = b.pointer := by
  unfold append
  split
  · rfl
  · rename_i p h
    exact h.symm

theorem append_of_none {b : SwapBuffer α} (items : List α) (h : b.pointer = none) :
    b.append items = b := by
  unfold append
  split
  · rfl
  · rename_i p hp
    simp [hp] at h

theorem append_cells {b : SwapBuffer α} {p : Nat} (items : List α) (h : b.pointer = some p) :
    (b.append items).cells = b.cells.modify p (· ++ items) := by
  unfold append
  split
  · rename_i hp
    simp [hp] at h
  · rename_i q hq
    cases hq.symm.trans h
    rfl

/-- Appending nothing and not appending at all are the same. -/
@[simp] theorem append_nil (b : SwapBuffer α) : b.append [] = b := by
  unfold append
  split
  · rfl
  · rename_i p h
    obtain ⟨cells, pointer, allocated⟩ := b
    have hModify : cells.modify p (· ++ []) = cells := by
      simp only [List.append_nil]
      exact List.modify_id p cells
    cases (show pointer = some p from h)
    simp only [hModify]

@[simp] theorem start_current (b : SwapBuffer α) : b.start.current = [] := by
  simp [current, content, start]

@[simp] theorem stop_current (b : SwapBuffer α) : b.stop.current = [] := rfl

theorem append_current {b : SwapBuffer α} {p : Nat} (items : List α) (h : b.pointer = some p) :
    (b.append items).current = b.current ++ items := by
  have hLt := b.allocated p h
  simp [current, content, append_cells items h, h, hLt]

/-- A buffer which was allocated and is not the current one. -/
def Retired (b : SwapBuffer α) (p : Nat) : Prop := p < b.cells.length ∧ b.pointer ≠ some p

theorem start_retired {b : SwapBuffer α} {p : Nat} (h : p < b.cells.length) :
    b.start.Retired p := by
  constructor
  · simp only [start, List.length_append, List.length_singleton]
    omega
  · simp only [start_pointer, ne_eq, Option.some.injEq]
    omega

theorem start_content {b : SwapBuffer α} {p : Nat} (h : p < b.cells.length) :
    b.start.content (some p) = b.content (some p) := by
  simp [content, start, List.getElem?_append_left h]

theorem stop_content (b : SwapBuffer α) (p : Option Nat) : b.stop.content p = b.content p := by
  cases p <;> rfl

theorem stop_retired {b : SwapBuffer α} {p : Nat} (h : b.Retired p) : b.stop.Retired p :=
  ⟨h.1, by simp⟩

theorem append_retired {b : SwapBuffer α} {p : Nat} (items : List α) (h : b.Retired p) :
    (b.append items).Retired p := by
  refine ⟨?_, by simpa using h.2⟩
  cases hp : b.pointer with
  | none => simpa [append_of_none items hp] using h.1
  | some q => simpa [append_cells items hp] using h.1

/-- Producers never touch a buffer which was taken away. -/
theorem append_content {b : SwapBuffer α} {p : Nat} (items : List α) (h : b.Retired p) :
    (b.append items).content (some p) = b.content (some p) := by
  cases hp : b.pointer with
  | none => rw [append_of_none items hp]
  | some q =>
      have hNe : q ≠ p := fun e => h.2 (by rw [hp, e])
      simp [content, append_cells items hp, hNe]

/-- The producers' and the consumer's accesses while a log is running. -/
inductive Access (α : Type) where
  | append (items : List α)
  | retrieve

/-- A sequence of accesses in the order in which they got hold of the buffer,
with the pointers handed out by the exchanges. -/
def run (b : SwapBuffer α) : List (Access α) → SwapBuffer α × List (Option Nat)
  | [] => (b, [])
  | .append items :: rest => (b.append items).run rest
  | .retrieve :: rest =>
      let (pointer, b) := b.retrieve
      let (final, pointers) := b.run rest
      (final, pointer :: pointers)

/-- Everything the producers appended, in order. -/
def appended : List (Access α) → List α
  | [] => []
  | .append items :: rest => items ++ appended rest
  | .retrieve :: rest => appended rest

theorem run_append (b : SwapBuffer α) (first second : List (Access α)) :
    b.run (first ++ second) =
      (((b.run first).1.run second).1,
        (b.run first).2 ++ ((b.run first).1.run second).2) := by
  induction first generalizing b with
  | nil => rfl
  | cons access rest ih =>
      cases access with
      | append items => simpa [run] using ih (b.append items)
      | retrieve => simp [run, ih]

theorem run_retired {b : SwapBuffer α} {p : Nat} (accesses : List (Access α)) (h : b.Retired p) :
    (b.run accesses).1.Retired p ∧
      (b.run accesses).1.content (some p) = b.content (some p) := by
  induction accesses generalizing b with
  | nil => exact ⟨h, rfl⟩
  | cons access rest ih =>
      cases access with
      | append items =>
          obtain ⟨hRetired, hContent⟩ := ih (append_retired items h)
          exact ⟨hRetired, hContent.trans (append_content items h)⟩
      | retrieve =>
          obtain ⟨hRetired, hContent⟩ := ih (start_retired h.1)
          exact ⟨hRetired, hContent.trans (start_content h.1)⟩

/-- While a log is running every exchange hands out a buffer, and these
buffers with the current one hold exactly what was appended, in order. -/
theorem run_delivers {b : SwapBuffer α} {p : Nat} (accesses : List (Access α))
    (h : b.pointer = some p) :
    (∃ q, (b.run accesses).1.pointer = some q) ∧
    (∀ r ∈ (b.run accesses).2, ∃ q, r = some q ∧ (b.run accesses).1.Retired q) ∧
    ((b.run accesses).2.map (b.run accesses).1.content).flatten ++ (b.run accesses).1.current =
      b.current ++ appended accesses := by
  induction accesses generalizing b p with
  | nil => exact ⟨⟨p, h⟩, by simp [run], by simp [run, appended]⟩
  | cons access rest ih =>
      cases access with
      | append items =>
          obtain ⟨hPointer, hPointers, hContent⟩ := ih ((append_pointer b items).trans h)
          refine ⟨hPointer, hPointers, ?_⟩
          rw [appended, ← List.append_assoc, ← append_current items h]
          exact hContent
      | retrieve =>
          obtain ⟨hPointer, hPointers, hContent⟩ := ih b.start_pointer
          have hLt := b.allocated p h
          obtain ⟨hRetired, hSame⟩ := run_retired rest (start_retired hLt)
          refine ⟨hPointer, ?_, ?_⟩
          · intro r hr
            rcases List.mem_cons.mp hr with rfl | hr
            · exact ⟨p, h, hRetired⟩
            · exact hPointers r hr
          · have hFirst : (b.start.run rest).1.content b.pointer = b.current := by
              rw [current, h, hSame, start_content hLt]
            simp only [run, retrieve, appended, List.map_cons, List.flatten_cons,
              List.append_assoc, hFirst]
            rw [hContent, start_current, List.nil_append]

/-- A buffer handed out while a log is running keeps the content which it had
at that moment, whatever happens later. -/
theorem run_content_fixed {b : SwapBuffer α} {p : Nat} (first second : List (Access α))
    (h : b.pointer = some p) :
    (b.run (first ++ .retrieve :: second)).1.content (b.run first).1.pointer =
      (b.run first).1.current := by
  obtain ⟨⟨q, hq⟩, -, -⟩ := run_delivers first h
  have hLt := (b.run first).1.allocated q hq
  rw [run_append, hq]
  simp only [run, retrieve]
  rw [(run_retired second (start_retired hLt)).2, start_content hLt, current, hq]

end SwapBuffer
