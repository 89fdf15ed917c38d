import Mathlib.Logic.Function.Basic

/-! Threads over one shared state. A thread's code is a syntax tree whose nodes
are single indivisible statements. Between two statements of one thread any
other thread, and the surroundings of the process, may act. -/
namespace Interleaving

/-- The code a thread still has to execute. The answer of a statement selects
the rest of the code; all computation between two statements is local. -/
inductive Program (Request : Type) (Response : Request → Type) (Result : Type) where
  | done (result : Result)
  | call (request : Request) (next : Response request → Program Request Response Result)

namespace Program

variable {Request : Type} {Response : Request → Type} {Result Other : Type}

/-- The second program begins where the first one ends. -/
def bind : Program Request Response Result → (Result → Program Request Response Other) →
    Program Request Response Other
  | .done result, more => more result
  | .call request next, more => .call request fun response => (next response).bind more

instance : Monad (Program Request Response) where
  pure := .done
  bind := bind

/-- A single statement, answering with its own response. -/
def perform (request : Request) : Program Request Response (Response request) :=
  .call request .done

/-- The body of an `if` without an `else`. -/
def when (condition : Bool) (body : Program Request Response Unit) :
    Program Request Response Unit :=
  if condition then body else .done ()

/-- Whatever the statements answer, the result satisfies the predicate. -/
def Yields (P : Result → Prop) : Program Request Response Result → Prop
  | .done result => P result
  | .call _ next => ∀ response, (next response).Yields P

/-- A predicate which always holds holds of the result. -/
theorem Yields.of_forall {P : Result → Prop} (code : Program Request Response Result)
    (h : ∀ result, P result) : code.Yields P := by
  induction code with
  | done result => exact h result
  | call request next ih => exact fun response => ih response

/-- The result of the first program is what the second one is chosen by. -/
theorem Yields.bind {P : Result → Prop} {Q : Other → Prop} {code : Program Request Response Result}
    {next : Result → Program Request Response Other} (h : code.Yields P)
    (hNext : ∀ result, P result → (next result).Yields Q) : (code >>= next).Yields Q := by
  induction code with
  | done result => exact hNext result h
  | call request rest ih => exact fun response => ih response (h response)

/-- Only the end of the code matters. -/
theorem Yields.after {Q : Other → Prop} {code : Program Request Response Result}
    {next : Result → Program Request Response Other} (h : ∀ result, (next result).Yields Q) :
    (code >>= next).Yields Q :=
  .bind (.of_forall code fun _ => trivial) fun result _ => h result

end Program

/-- What happens when a thread reaches a statement. A blocked statement is
tried again later; a faulting one takes the whole process down. -/
inductive Outcome (State Response : Type) where
  | returns (response : Response) (state : State)
  | blocks
  | faults

/-- The meaning of the statements of every thread, and of the moves which the
surroundings of the process make on the same state. -/
structure Machine {Thread : Type} {Request : Thread → Type}
    (Response : (t : Thread) → Request t → Type) (State Move : Type) where
  perform : (t : Thread) → (request : Request t) → State → Outcome State (Response t request)
  move : Move → State → Option State

/-- One completed action of a run. -/
inductive Label {Thread : Type} {Request : Thread → Type}
    (Response : (t : Thread) → Request t → Type) (Move : Type) where
  | statement (t : Thread) (request : Request t) (response : Response t request)
  | move (action : Move)

/-- The shared state with the history which led to it. The history lists every
completed action with the state it was applied to, the latest action first. -/
structure World {Thread : Type} {Request : Thread → Type}
    (Response : (t : Thread) → Request t → Type) (State Move : Type) where
  state : State
  trace : List (State × Label Response Move)

variable {Thread : Type} {Request : Thread → Type}
  {Response : (t : Thread) → Request t → Type} {Local : Thread → Type} {State Move : Type}

/-- An action is done and goes down in the history. -/
def World.record (w : World Response State Move) (label : Label Response Move)
    (state : State) : World Response State Move :=
  ⟨state, (w.state, label) :: w.trace⟩

/-- A machine with the code of its threads. A thread starts with `start` and
goes on in rounds; what it remembers from one round to the next is its local
state, and without one it has ended. -/
structure System {Request : Thread → Type} (Response : (t : Thread) → Request t → Type)
    (Local : Thread → Type) (State Move : Type) extends Machine Response State Move where
  start : (t : Thread) → Program (Request t) (Response t) (Option (Local t))
  loop : (t : Thread) → Local t → Program (Request t) (Response t) (Option (Local t))

structure Configuration {Request : Thread → Type} (Response : (t : Thread) → Request t → Type)
    (Local : Thread → Type) (State Move : Type) where
  world : World Response State Move
  code : (t : Thread) → Program (Request t) (Response t) (Option (Local t))
  crashed : Bool

/-- What the scheduler lets happen next. -/
inductive Choice (Thread Move : Type) where
  | run (t : Thread)
  | move (action : Move)

/-- A thread runs for a number of steps. -/
def steps {Thread Move : Type} (t : Thread) (n : Nat) : List (Choice Thread Move) :=
  .replicate n (.run t)

namespace System

variable [DecidableEq Thread] (S : System Response Local State Move)

def initial (state : State) : Configuration Response Local State Move :=
  ⟨⟨state, []⟩, S.start, false⟩

def next (c : Configuration Response Local State Move) :
    Choice Thread Move → Option (Configuration Response Local State Move)
  | .move action =>
      if c.crashed then none
      else (S.move action c.world.state).map fun state =>
        { c with world := c.world.record (.move action) state }
  | .run t =>
      if c.crashed then none
      else match c.code t with
        | .done (some locals) => some { c with code := Function.update c.code t (S.loop t locals) }
        | .done none => none
        | .call request rest =>
            match S.perform t request c.world.state with
            | .returns response state =>
                some { c with
                  world := c.world.record (.statement t request response) state
                  code := Function.update c.code t (rest response) }
            | .blocks => none
            | .faults => some { c with crashed := true }

def run (c : Configuration Response Local State Move) :
    List (Choice Thread Move) → Option (Configuration Response Local State Move)
  | [] => some c
  | choice :: rest => (S.next c choice).bind fun d => run d rest

/-- Everything the scheduler can lead to from a given state of the process. -/
inductive Reachable (state : State) : Configuration Response Local State Move → Prop where
  | initial : Reachable state (S.initial state)
  | next {c d : Configuration Response Local State Move} {choice : Choice Thread Move}
      (prior : Reachable state c) (last : S.next c choice = some d) : Reachable state d

variable {S}

theorem Reachable.run {state : State} {c d : Configuration Response Local State Move}
    (h : S.Reachable state c) (choices : List (Choice Thread Move))
    (hRun : S.run c choices = some d) : S.Reachable state d := by
  induction choices generalizing c with
  | nil =>
      cases hRun
      exact h
  | cons choice rest ih =>
      obtain ⟨middle, hNext, hRest⟩ := Option.bind_eq_some_iff.mp hRun
      exact ih (h.next hNext) hRest

theorem next_move {c d : Configuration Response Local State Move} {action : Move}
    (h : S.next c (.move action) = some d) :
    ∃ state, S.move action c.world.state = some state ∧
      d = { c with world := c.world.record (.move action) state } := by
  simp only [System.next] at h
  split at h
  · cases h
  · obtain ⟨state, hMove, rfl⟩ := Option.map_eq_some_iff.mp h
    exact ⟨state, hMove, rfl⟩

theorem next_run {c d : Configuration Response Local State Move} {t : Thread}
    (h : S.next c (.run t) = some d) :
    (∃ locals, c.code t = .done (some locals) ∧
      d = { c with code := Function.update c.code t (S.loop t locals) }) ∨
    (∃ request rest response state, c.code t = .call request rest ∧
      S.perform t request c.world.state = .returns response state ∧
      d = { c with
        world := c.world.record (.statement t request response) state
        code := Function.update c.code t (rest response) }) ∨
    (∃ request rest, c.code t = .call request rest ∧
      S.perform t request c.world.state = .faults ∧ d = { c with crashed := true }) := by
  simp only [System.next] at h
  split at h
  · cases h
  · split at h
    · rename_i locals hCode
      cases h
      exact .inl ⟨locals, hCode, rfl⟩
    · cases h
    · rename_i request rest hCode
      split at h
      · rename_i response state hPerform
        cases h
        exact .inr (.inl ⟨request, rest, response, state, hCode, hPerform, rfl⟩)
      · cases h
      · rename_i hPerform
        cases h
        exact .inr (.inr ⟨request, rest, hCode, hPerform, rfl⟩)

/-- What can happen in one step, without the bookkeeping of the scheduler. -/
theorem next_cases {c d : Configuration Response Local State Move}
    {choice : Choice Thread Move} (h : S.next c choice = some d) :
    (∃ action state, S.move action c.world.state = some state ∧
      d = { c with world := c.world.record (.move action) state }) ∨
    (∃ t locals, c.code t = .done (some locals) ∧
      d = { c with code := Function.update c.code t (S.loop t locals) }) ∨
    (∃ t request rest response state, c.code t = .call request rest ∧
      S.perform t request c.world.state = .returns response state ∧
      d = { c with
        world := c.world.record (.statement t request response) state
        code := Function.update c.code t (rest response) }) ∨
    (∃ t request rest, c.code t = .call request rest ∧
      S.perform t request c.world.state = .faults ∧ d = { c with crashed := true }) := by
  cases choice with
  | move action => exact .inl ⟨action, next_move h⟩
  | run t => exact .inr ((next_run h).imp (⟨t, ·⟩) (.imp (⟨t, ·⟩) (⟨t, ·⟩)))

/-- The responses of the history are those of the machine. -/
theorem Reachable.performed {state : State} {c : Configuration Response Local State Move}
    (h : S.Reachable state c) {before : State} {t : Thread} {request : Request t}
    {response : Response t request}
    (hEntry : (before, .statement t request response) ∈ c.world.trace) :
    ∃ after, S.perform t request before = .returns response after := by
  induction h with
  | initial => simp [System.initial] at hEntry
  | @next c d choice prior last ih =>
      rcases next_cases last with ⟨action, s, -, rfl⟩ | ⟨u, locals, -, rfl⟩ |
        ⟨u, request, rest, response, s, -, hPerform, rfl⟩ | ⟨u, request, rest, -, -, rfl⟩
      · rcases List.mem_cons.mp hEntry with hHead | hTail
        · cases hHead
        · exact ih hTail
      · exact ih hEntry
      · rcases List.mem_cons.mp hEntry with hHead | hTail
        · cases hHead
          exact ⟨s, hPerform⟩
        · exact ih hTail
      · exact ih hEntry

/-- Each entry of the history was made by a step from a configuration which had
been reached. -/
theorem Reachable.history {state : State} {c : Configuration Response Local State Move}
    (h : S.Reachable state c) {later earlier : List (State × Label Response Move)} {s : State}
    {label : Label Response Move} (hTrace : c.world.trace = later ++ (s, label) :: earlier) :
    ∃ d, S.Reachable state d ∧ d.world = ⟨s, earlier⟩ ∧
      ∃ choice e, S.next d choice = some e ∧ e.world.trace = (s, label) :: earlier := by
  induction h generalizing later with
  | initial => simp [System.initial] at hTrace
  | @next c d choice prior last ih =>
      have hRecord : ∀ {label' : Label Response Move} {s' : State},
          d.world = c.world.record label' s' →
            ∃ d, S.Reachable state d ∧ d.world = ⟨s, earlier⟩ ∧
              ∃ choice e, S.next d choice = some e ∧ e.world.trace = (s, label) :: earlier := by
        intro label' s' hWorld
        rw [hWorld] at hTrace
        cases later with
        | nil =>
            cases hTrace
            exact ⟨c, prior, rfl, choice, d, last, by rw [hWorld]; rfl⟩
        | cons entry later => exact ih (List.cons.inj hTrace).2
      rcases next_cases last with ⟨action, s', -, rfl⟩ | ⟨u, locals, -, rfl⟩ |
        ⟨u, request, rest, response, s', -, -, rfl⟩ | ⟨u, request, rest, -, -, rfl⟩
      · exact hRecord rfl
      · exact ih hTrace
      · exact hRecord rfl
      · exact ih hTrace

end System

end Interleaving
