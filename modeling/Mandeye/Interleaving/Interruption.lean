import Mandeye.Interleaving.Program

/-! Code which runs alone on a state and may be cut off between any two of its
statements. What is left behind then is the state after the statements which
were completed. -/
namespace Interleaving.Program

variable {Request : Type} {Response : Request → Type} {Result Other State : Type}

/-- The completed statements, each with the state it was applied to, when the
code is cut off after at most `k` of them. -/
def performed (handle : (request : Request) → State → Response request × State) :
    Nat → Program Request Response Result → State → List (State × Request)
  | 0, _, _ => []
  | _ + 1, .done _, _ => []
  | k + 1, .call request next, s =>
      (s, request) :: performed handle k (next (handle request s).1) (handle request s).2

/-- The state which is left behind. -/
def cutOff (handle : (request : Request) → State → Response request × State) :
    Nat → Program Request Response Result → State → State
  | 0, _, s => s
  | _ + 1, .done _, s => s
  | k + 1, .call request next, s =>
      cutOff handle k (next (handle request s).1) (handle request s).2

/-- The code runs to its end, alone. -/
def execute (handle : (request : Request) → State → Response request × State) :
    Program Request Response Result → State → Result × State
  | .done result, s => (result, s)
  | .call request next, s => execute handle (next (handle request s).1) (handle request s).2

/-- The code runs to its end, alone, unless it is blocked or fails. -/
def alone (perform : (request : Request) → State → Outcome State (Response request)) :
    Program Request Response Result → State → Option (Result × State)
  | .done result, s => some (result, s)
  | .call request next, s =>
      match perform request s with
      | .returns response s => alone perform (next response) s
      | .blocks => none
      | .faults => none

section Alone

variable {perform : (request : Request) → State → Outcome State (Response request)} {s : State}

@[simp] theorem alone_pure (result : Result) :
    (pure result : Program Request Response Result).alone perform s = some (result, s) := rfl

@[simp] theorem alone_bind (code : Program Request Response Result)
    (next : Result → Program Request Response Other) : (code >>= next).alone perform s =
      (code.alone perform s).bind fun (result, s') => (next result).alone perform s' := by
  induction code generalizing s with
  | done result => rfl
  | call request rest ih =>
      change alone perform (.call request fun response => rest response >>= next) s = _
      simp only [alone]
      cases perform request s with
      | returns response s' => exact ih response
      | blocks => rfl
      | faults => rfl

@[simp] theorem alone_when_true (body : Program Request Response Unit) :
    (Program.when true body).alone perform s = body.alone perform s := rfl

@[simp] theorem alone_when_false (body : Program Request Response Unit) :
    (Program.when false body).alone perform s = some ((), s) := rfl

end Alone

theorem Yields.execute {P : Result → Prop} {code : Program Request Response Result}
    (h : code.Yields P) (handle : (request : Request) → State → Response request × State)
    (s : State) : P (code.execute handle s).1 := by
  induction code generalizing s with
  | done result => exact h
  | call request next ih => exact ih _ (h _) _

/-- The weakest precondition of code which may be cut off: each state which it
can leave behind satisfies `C`, each statement is allowed where it is applied,
and at its end, if it is not cut off, it satisfies `Q`. -/
def Survives (handle : (request : Request) → State → Response request × State)
    (C : State → Prop) (allowed : Request → State → Prop) :
    Program Request Response Result → (Result → State → Prop) → State → Prop
  | .done result, Q, s => C s ∧ Q result s
  | .call request next, Q, s => C s ∧ allowed request s ∧
      Survives handle C allowed (next (handle request s).1) Q (handle request s).2

variable {handle : (request : Request) → State → Response request × State}
  {C : State → Prop} {allowed : Request → State → Prop}

theorem Survives.mono {code : Program Request Response Result} {Q Q' : Result → State → Prop}
    {s : State} (h : code.Survives handle C allowed Q s)
    (hQ : ∀ result s, Q result s → Q' result s) :
    code.Survives handle C allowed Q' s := by
  induction code generalizing s with
  | done result => exact ⟨h.1, hQ _ _ h.2⟩
  | call request next ih => exact ⟨h.1, h.2.1, ih _ h.2.2⟩

theorem Survives.bind {code : Program Request Response Result}
    {next : Result → Program Request Response Other} {Q : Other → State → Prop} {s : State}
    (h : code.Survives handle C allowed (fun result s =>
      (next result).Survives handle C allowed Q s) s) :
    (code >>= next).Survives handle C allowed Q s := by
  induction code generalizing s with
  | done result => exact h.2
  | call request rest ih => exact ⟨h.1, h.2.1, ih _ h.2.2⟩

/-- A statement followed by more code. -/
theorem Survives.statement {request : Request}
    {next : Response request → Program Request Response Result} {Q : Result → State → Prop}
    {s s' : State} {response : Response request} (hC : C s) (hAllowed : allowed request s)
    (hHandle : handle request s = (response, s'))
    (hNext : (next response).Survives handle C allowed Q s') :
    (Program.perform request >>= next).Survives handle C allowed Q s := by
  refine ⟨hC, hAllowed, ?_⟩
  rw [hHandle]
  exact hNext

theorem Survives.cutOff {code : Program Request Response Result} {Q : Result → State → Prop}
    {s : State} (h : code.Survives handle C allowed Q s) (k : Nat) :
    C (code.cutOff handle k s) := by
  induction k generalizing code s with
  | zero => cases code <;> exact h.1
  | succ k ih =>
      cases code with
      | done result => exact h.1
      | call request next => exact ih h.2.2

theorem Survives.performed {code : Program Request Response Result} {Q : Result → State → Prop}
    {s : State} (h : code.Survives handle C allowed Q s) (k : Nat) :
    ∀ entry ∈ code.performed handle k s, allowed entry.2 entry.1 := by
  induction k generalizing code s with
  | zero => cases code <;> exact nofun
  | succ k ih =>
      cases code with
      | done result => exact nofun
      | call request next =>
          intro entry hEntry
          rcases List.mem_cons.mp hEntry with rfl | hEntry
          · exact h.2.1
          · exact ih h.2.2 entry hEntry

end Interleaving.Program
