/-! Sequential code which reads and writes one state. It may throw an exception,
which leaves the state as it was then, or go on through a null pointer. -/
namespace Exceptions

/-- How code ends. -/
inductive Exit (State Result : Type) where
  | returns (result : Result) (state : State)
  | throws (what : String) (state : State)
  | faults (pointer : String)

/-- The state in which code ends, unless it follows a null pointer. -/
def Exit.state? {State Result : Type} : Exit State Result → Option State
  | .returns _ s => some s
  | .throws _ s => some s
  | .faults _ => none

/-- Code is what it makes of a state. -/
def Code (State Result : Type) := State → Exit State Result

namespace Code

variable {State Result Other : Type}

/-- The rest is executed unless an exception was thrown. -/
def bind (code : Code State Result) (next : Result → Code State Other) : Code State Other :=
  fun s => match code s with
    | .returns result s' => next result s'
    | .throws what s' => .throws what s'
    | .faults pointer => .faults pointer

instance : Monad (Code State) where
  pure result := .returns result
  bind := bind

/-- Read something from the state. -/
def read (f : State → Result) : Code State Result := fun s => .returns (f s) s

/-- Change the state. -/
def modify (f : State → State) : Code State Unit := fun s => .returns () (f s)

/-- Go on with the value unless it is an exception. -/
def ofExcept : Except String Result → Code State Result
  | .ok result => .returns result
  | .error what => .throws what

/-- A null pointer is dereferenced. -/
def fault (pointer : String) : Code State Result := fun _ => .faults pointer

/-- A block with a handler of all exceptions. -/
def handle (code : Code State Result) (handler : String → Code State Result) :
    Code State Result :=
  fun s => match code s with
    | .throws what s' => handler what s'
    | exit => exit

end Code

section Triples

variable {State Result Other : Type}

/-- What holds of an exit: one assertion for each way, and no null pointer. -/
def Exit.Meets (Q : Result → State → Prop) (E : State → Prop) : Exit State Result → Prop
  | .returns result s => Q result s
  | .throws _ s => E s
  | .faults _ => False

/-- Code started in a state satisfying `P` returns in one satisfying `Q` or
throws in one satisfying `E`, and follows no null pointer. -/
def Code.Triple (P : State → Prop) (code : Code State Result) (Q : Result → State → Prop)
    (E : State → Prop) : Prop :=
  ∀ s, P s → (code s).Meets Q E

namespace Code.Triple

variable {P P' E E' : State → Prop} {Q Q' : Result → State → Prop} {code : Code State Result}

/-- Less may be known before, and more is known after. -/
theorem mono (h : Triple P code Q E) (hP : ∀ s, P' s → P s)
    (hQ : ∀ result s, Q result s → Q' result s) (hE : ∀ s, E s → E' s) : Triple P' code Q' E' := by
  intro s hs
  have hMeets := h s (hP s hs)
  revert hMeets
  cases code s with
  | returns result s' => exact hQ result s'
  | throws what s' => exact hE s'
  | faults pointer => exact id

/-- Say less about the state in which an exception is thrown. -/
theorem throws (h : Triple P code Q E) (hE : ∀ s, E s → E' s) : Triple P code Q E' :=
  h.mono (fun _ hs => hs) (fun _ _ hs => hs) hE

/-- Code which throws nothing may stand where exceptions are expected. -/
theorem total (h : Triple P code Q fun _ => False) : Triple P code Q E :=
  h.throws fun _ hs => hs.elim

theorem bind {next : Result → Code State Other} {R : Other → State → Prop}
    (h : Triple P code Q E) (hNext : ∀ result, Triple (Q result) (next result) R E) :
    Triple P (code >>= next) R E := by
  intro s hs
  change (Code.bind code next s).Meets R E
  have hMeets := h s hs
  revert hMeets
  unfold Code.bind
  cases code s with
  | returns result s' => exact hNext result s'
  | throws what s' => exact id
  | faults pointer => exact False.elim

theorem pure {result : Result} (h : ∀ s, P s → Q result s) :
    Triple P (Pure.pure result : Code State Result) Q E := h

theorem read {f : State → Result} (h : ∀ s, P s → Q (f s) s) : Triple P (Code.read f) Q E := h

theorem modify {f : State → State} {R : Unit → State → Prop} (h : ∀ s, P s → R () (f s)) :
    Triple P (Code.modify f) R E := h

theorem update {f : State → State} (h : ∀ s, P s → P (f s)) :
    Triple P (Code.modify f) (fun _ => P) E := h

theorem handle {handler : String → Code State Result} (h : Triple P code Q E)
    (hHandler : ∀ what, Triple E (handler what) Q E') :
    Triple P (Code.handle code handler) Q E' := by
  intro s hs
  have hMeets := h s hs
  revert hMeets
  unfold Code.handle
  cases code s with
  | returns result s' => exact id
  | throws what s' => exact hHandler what s'
  | faults pointer => exact id

/-- A fact which does not depend on the state can be taken out of it. -/
theorem of_fact {p : Prop} (h : p → Triple P code Q E) : Triple (fun s => p ∧ P s) code Q E :=
  fun s hs => h hs.1 s hs.2

end Code.Triple

/-- Code which keeps an assertion, and throws exactly if a condition fails. -/
def Code.Checks (P : State → Prop) (condition : Bool) (code : Code State Result) : Prop :=
  Code.Triple P code (fun _ s => condition = true ∧ P s) fun s => condition = false ∧ P s

namespace Code.Checks

variable {P : State → Prop}

theorem pure {result : Result} : Checks P true (Pure.pure result : Code State Result) :=
  Triple.pure fun _ hs => ⟨rfl, hs⟩

theorem modify {f : State → State} (h : ∀ s, P s → P (f s)) : Checks P true (Code.modify f) :=
  Triple.modify fun s hs => ⟨rfl, h s hs⟩

theorem ofExcept (value : Except String Result) : Checks P value.isOk (Code.ofExcept value) := by
  cases value with
  | ok result => exact fun s hs => ⟨rfl, hs⟩
  | error what => exact fun s hs => ⟨rfl, hs⟩

theorem bind {first second : Bool} {code : Code State Result} {next : Result → Code State Other}
    (h : Checks P first code) (hNext : ∀ result, Checks P second (next result)) :
    Checks P (first && second) (code >>= next) := by
  have hFirst : Triple P code (fun _ s => first = true ∧ P s)
      fun s => (first && second) = false ∧ P s := by
    refine Triple.throws h fun s hs => ⟨?_, hs.2⟩
    rw [hs.1, Bool.false_and]
  refine hFirst.bind fun result => .of_fact fun hTrue => ?_
  rw [hTrue, Bool.true_and]
  exact hNext result

end Code.Checks

end Triples

theorem Code.bind_of_returns {State Result Other : Type} {code : Code State Result}
    {next : Result → Code State Other} {result : Result} {s s' : State}
    (h : code s = .returns result s') : (code >>= next) s = next result s' := by
  change Code.bind code next s = _
  rw [Code.bind, h]

theorem Code.bind_of_throws {State Result Other : Type} {code : Code State Result}
    {next : Result → Code State Other} {what : String} {s s' : State}
    (h : code s = .throws what s') : (code >>= next) s = .throws what s' := by
  change Code.bind code next s = _
  rw [Code.bind, h]

theorem Code.bind_modify {State Result : Type} (f : State → State)
    (next : Unit → Code State Result) (s : State) : (modify f >>= next) s = next () (f s) := rfl

theorem Code.bind_read {State Value Result : Type} (f : State → Value)
    (next : Value → Code State Result) (s : State) : (read f >>= next) s = next (f s) s := rfl

section Applies

variable {State Value : Type}

/-- The code ends in the same way whatever the state, and changes the state by one of
some functions. -/
inductive Code.Applies (F : (State → State) → Prop) (code : Code State Unit) : Prop where
  | returns (f : State → State) (hf : F f) (h : ∀ s, code s = .returns () (f s))
  | throws (what : String) (f : State → State) (hf : F f) (h : ∀ s, code s = .throws what (f s))

namespace Code.Applies

variable {F : (State → State) → Prop}

theorem pure (hId : F id) : Applies F (Pure.pure () : Code State Unit) :=
  .returns id hId fun _ => rfl

theorem modify {f : State → State} (hf : F f) : Applies F (Code.modify f) :=
  .returns f hf fun _ => rfl

theorem ofExcept {value : Except String Value} {next : Value → Code State Unit} (hId : F id)
    (hNext : ∀ result, value = .ok result → Applies F (next result)) :
    Applies F (Code.ofExcept value >>= next) := by
  cases value with
  | error what => exact .throws what id hId fun _ => rfl
  | ok result =>
      cases hNext result rfl with
      | returns f hf h => exact .returns f hf h
      | throws what f hf h => exact .throws what f hf h

theorem bind {code next : Code State Unit} (hCode : Applies F code) (hNext : Applies F next)
    (hComp : ∀ f g, F f → F g → F (g ∘ f)) : Applies F (code >>= fun _ => next) := by
  cases hCode with
  | throws what f hf h => exact .throws what f hf fun s => bind_of_throws (h s)
  | returns f hf h =>
      cases hNext with
      | returns g hg hg' =>
          exact .returns (g ∘ f) (hComp f g hf hg) fun s =>
            (bind_of_returns (h s)).trans (hg' (f s))
      | throws what g hg hg' =>
          exact .throws what (g ∘ f) (hComp f g hf hg) fun s =>
            (bind_of_returns (h s)).trans (hg' (f s))

end Code.Applies

end Applies

end Exceptions
