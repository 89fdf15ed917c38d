import Mathlib.Logic.Relation
import Mandeye.Interleaving.Program

/-! Pre- and postconditions for one thread among others. Each thread gives a
guarantee about the statements it performs, and relies on what the others
guarantee about theirs; an assertion may speak about the history as well as
about the state. Nothing is assumed about the scheduler, so no contract
promises that a thread gets on. -/
namespace Interleaving

variable {Thread : Type} {Request : Thread → Type}
  {Response : (t : Thread) → Request t → Type} {Local : Thread → Type} {State Move : Type}

/-- A condition on the world in which each statement is performed. -/
abbrev Guarantee {Thread : Type} {Request : Thread → Type}
    (Response : (t : Thread) → Request t → Type) (State Move : Type) :=
  (t : Thread) → Request t → World Response State Move → Prop

/-- One action of somebody other than thread `t`: a move of the surroundings,
or a statement which another thread performs as it has guaranteed. -/
inductive Machine.Interference (M : Machine Response State Move)
    (G : Guarantee Response State Move) (t : Thread) (w : World Response State Move) :
    World Response State Move → Prop where
  | move {action : Move} {state : State} (h : M.move action w.state = some state) :
      Interference M G t w (w.record (.move action) state)
  | statement {u : Thread} {request : Request u} {response : Response u request} {state : State}
      (hOther : u ≠ t) (hGuarantee : G u request w)
      (h : M.perform u request w.state = .returns response state) :
      Interference M G t w (w.record (.statement u request response) state)

/-- No interference with thread `t` invalidates the assertion. -/
def Machine.Stable (M : Machine Response State Move) (G : Guarantee Response State Move)
    (t : Thread) (P : World Response State Move → Prop) : Prop :=
  ∀ w w', M.Interference G t w w' → P w → P w'

section Assertions

variable {M : Machine Response State Move} {G : Guarantee Response State Move} {t : Thread}
  {P R : World Response State Move → Prop}

theorem Machine.Stable.steps (hStable : M.Stable G t P) {w w' : World Response State Move}
    (hSteps : Relation.ReflTransGen (M.Interference G t) w w') (h : P w) : P w' := by
  induction hSteps with
  | refl => exact h
  | tail _ hLast ih => exact hStable _ _ hLast ih

theorem Machine.Stable.and (hP : M.Stable G t P) (hR : M.Stable G t R) :
    M.Stable G t (fun w => P w ∧ R w) :=
  fun w w' h hw => ⟨hP w w' h hw.1, hR w w' h hw.2⟩

theorem Machine.Stable.or (hP : M.Stable G t P) (hR : M.Stable G t R) :
    M.Stable G t (fun w => P w ∨ R w) :=
  fun w w' h hw => hw.imp (hP w w' h) (hR w w' h)

theorem Machine.Stable.exists {Value : Type} {P : Value → World Response State Move → Prop}
    (h : ∀ value, M.Stable G t (P value)) : M.Stable G t (fun w => ∃ value, P value w) :=
  fun w w' hStep ⟨value, hw⟩ => ⟨value, h value w w' hStep hw⟩

theorem Machine.Stable.const (p : Prop) : M.Stable G t (fun _ => p) := fun _ _ _ hp => hp

end Assertions

/-- The weakest precondition of code of thread `t`. The guarantee is checked
whenever a statement is about to be performed, after any interference. -/
def Machine.wp (M : Machine Response State Move) (G : Guarantee Response State Move) (t : Thread)
    {Result : Type} :
    Program (Request t) (Response t) Result → (Result → World Response State Move → Prop) →
      World Response State Move → Prop
  | .done result, Q, w =>
      ∀ w', Relation.ReflTransGen (M.Interference G t) w w' → Q result w'
  | .call request next, Q, w =>
      ∀ w', Relation.ReflTransGen (M.Interference G t) w w' → G t request w' ∧
        ∀ response state, M.perform t request w'.state = .returns response state →
          M.wp G t (next response) Q (w'.record (.statement t request response) state)

/-- Code started in a world satisfying `P` respects the guarantee at each of
its statements and ends, if it ends, in a world satisfying `Q`. -/
def Machine.Triple (M : Machine Response State Move) (G : Guarantee Response State Move)
    (t : Thread) {Result : Type} (P : World Response State Move → Prop)
    (code : Program (Request t) (Response t) Result)
    (Q : Result → World Response State Move → Prop) : Prop :=
  ∀ w, P w → M.wp G t code Q w

section Rules

variable {M : Machine Response State Move} {G : Guarantee Response State Move} {t : Thread}
  {Result Other : Type} {P P' : World Response State Move → Prop}
  {Q Q' : Result → World Response State Move → Prop}

theorem Machine.wp_steps {code : Program (Request t) (Response t) Result}
    {w w' : World Response State Move} (h : M.wp G t code Q w)
    (hSteps : Relation.ReflTransGen (M.Interference G t) w w') : M.wp G t code Q w' := by
  cases code with
  | done result => exact fun v hv => h v (hSteps.trans hv)
  | call request next => exact fun v hv => h v (hSteps.trans hv)

theorem Machine.wp_mono (code : Program (Request t) (Response t) Result)
    (hQ : ∀ result w, Q result w → Q' result w) (w : World Response State Move)
    (h : M.wp G t code Q w) : M.wp G t code Q' w := by
  induction code generalizing w with
  | done result => exact fun v hv => hQ _ _ (h v hv)
  | call request next ih =>
      intro v hv
      obtain ⟨hGuarantee, hNext⟩ := h v hv
      exact ⟨hGuarantee, fun response state hPerform => ih _ _ (hNext response state hPerform)⟩

theorem Machine.wp_bind (code : Program (Request t) (Response t) Result)
    (next : Result → Program (Request t) (Response t) Other)
    {Q : Other → World Response State Move → Prop} (w : World Response State Move)
    (h : M.wp G t code (fun result => M.wp G t (next result) Q) w) :
    M.wp G t (code >>= next) Q w := by
  induction code generalizing w with
  | done result => exact h w .refl
  | call request rest ih =>
      intro v hv
      obtain ⟨hGuarantee, hNext⟩ := h v hv
      exact ⟨hGuarantee, fun response state hPerform => ih _ _ (hNext response state hPerform)⟩

theorem Machine.wp_map (code : Program (Request t) (Response t) Result) (f : Result → Other)
    {Q : Other → World Response State Move → Prop} (w : World Response State Move)
    (h : M.wp G t code (fun result => Q (f result)) w) : M.wp G t (f <$> code) Q w := by
  induction code generalizing w with
  | done result => exact h
  | call request next ih =>
      intro v hv
      obtain ⟨hGuarantee, hNext⟩ := h v hv
      exact ⟨hGuarantee, fun response state hPerform => ih _ _ (hNext response state hPerform)⟩

theorem Machine.Triple.mono {code : Program (Request t) (Response t) Result}
    (h : M.Triple G t P code Q) (hP : ∀ w, P' w → P w)
    (hQ : ∀ result w, Q result w → Q' result w) : M.Triple G t P' code Q' :=
  fun w hw => M.wp_mono code hQ w (h w (hP w hw))

theorem Machine.Triple.bind {code : Program (Request t) (Response t) Result}
    {next : Result → Program (Request t) (Response t) Other}
    {R : Other → World Response State Move → Prop} (h : M.Triple G t P code Q)
    (hNext : ∀ result, M.Triple G t (Q result) (next result) R) :
    M.Triple G t P (code >>= next) R :=
  fun w hw => M.wp_bind code next w (M.wp_mono code hNext w (h w hw))

/-- Applying a function to the result takes no statement. -/
theorem Machine.Triple.map {code : Program (Request t) (Response t) Result} (f : Result → Other)
    {Q : Other → World Response State Move → Prop}
    (h : M.Triple G t P code fun result => Q (f result)) : M.Triple G t P (f <$> code) Q :=
  fun w hw => M.wp_map code f w (h w hw)

/-- What is known of the result from the code alone. -/
theorem Machine.Triple.yields {R : Result → Prop} {code : Program (Request t) (Response t) Result}
    (h : M.Triple G t P code Q) (hYields : code.Yields R) :
    M.Triple G t P code fun result w => R result ∧ Q result w := by
  have hWp : ∀ w, M.wp G t code Q w → M.wp G t code (fun result w => R result ∧ Q result w) w := by
    clear h
    induction code with
    | done result => exact fun w hw v hv => ⟨hYields, hw v hv⟩
    | call request next ih =>
        intro w hw v hv
        obtain ⟨hGuarantee, hNext⟩ := hw v hv
        exact ⟨hGuarantee, fun response state hPerform =>
          ih response (hYields response) _ (hNext response state hPerform)⟩
  exact fun w hw => hWp w (h w hw)

/-- A thread which relies on less is hindered by less. -/
theorem Machine.Interference.mono {G' : Guarantee Response State Move}
    (hG : ∀ u request w, G u request w → G' u request w) {w w' : World Response State Move}
    (h : M.Interference G t w w') : M.Interference G' t w w' := by
  cases h with
  | move hMove => exact .move hMove
  | statement hOther hGuarantee hPerform => exact .statement hOther (hG _ _ _ hGuarantee) hPerform

/-- What is known under two guarantees holds under both together. -/
theorem Machine.wp_and {G' : Guarantee Response State Move}
    (code : Program (Request t) (Response t) Result) (w : World Response State Move)
    (h : M.wp G t code Q w) (h' : M.wp G' t code Q' w) :
    M.wp (fun u request w => G u request w ∧ G' u request w) t code
      (fun result w => Q result w ∧ Q' result w) w := by
  have hLeft : ∀ {w v : World Response State Move},
      Relation.ReflTransGen (M.Interference (fun u request w => G u request w ∧ G' u request w) t)
        w v → Relation.ReflTransGen (M.Interference G t) w v :=
    fun h => Relation.ReflTransGen.mono (fun _ _ hStep => hStep.mono fun _ _ _ hG => hG.1) _ _ h
  have hRight : ∀ {w v : World Response State Move},
      Relation.ReflTransGen (M.Interference (fun u request w => G u request w ∧ G' u request w) t)
        w v → Relation.ReflTransGen (M.Interference G' t) w v :=
    fun h => Relation.ReflTransGen.mono (fun _ _ hStep => hStep.mono fun _ _ _ hG => hG.2) _ _ h
  induction code generalizing w with
  | done result => exact fun v hv => ⟨h v (hLeft hv), h' v (hRight hv)⟩
  | call request next ih =>
      intro v hv
      obtain ⟨hGuarantee, hNext⟩ := h v (hLeft hv)
      obtain ⟨hGuarantee', hNext'⟩ := h' v (hRight hv)
      exact ⟨⟨hGuarantee, hGuarantee'⟩, fun response state hPerform =>
        ih response _ (hNext response state hPerform) (hNext' response state hPerform)⟩

theorem Machine.Triple.done {result : Result} (hStable : M.Stable G t P)
    (h : ∀ w, P w → Q result w) : M.Triple G t P (.done result) Q :=
  fun _ hw _ hSteps => h _ (hStable.steps hSteps hw)

/-- A statement followed by more code. What the statement establishes may
depend on its response and need not be stable before the code goes on. -/
theorem Machine.Triple.statement {request : Request t}
    {next : Response t request → Program (Request t) (Response t) Result}
    (R : Response t request → World Response State Move → Prop) (hStable : M.Stable G t P)
    (hGuarantee : ∀ w, P w → G t request w)
    (hEffect : ∀ w response state, P w → M.perform t request w.state = .returns response state →
      R response (w.record (.statement t request response) state))
    (hNext : ∀ response, M.Triple G t (R response) (next response) Q) :
    M.Triple G t P (Program.perform request >>= next) Q := by
  intro w hw v hv
  have hP := hStable.steps hv hw
  exact ⟨hGuarantee v hP, fun response state hPerform =>
    hNext response _ (hEffect v response state hP hPerform)⟩

theorem Machine.Triple.perform {request : Request t}
    {Q : Response t request → World Response State Move → Prop} (hStable : M.Stable G t P)
    (hAfter : ∀ response, M.Stable G t (Q response))
    (hGuarantee : ∀ w, P w → G t request w)
    (hEffect : ∀ w response state, P w → M.perform t request w.state = .returns response state →
      Q response (w.record (.statement t request response) state)) :
    M.Triple G t P (Program.perform request) Q :=
  Machine.Triple.statement Q hStable hGuarantee hEffect
    fun response => .done (hAfter response) fun _ h => h

theorem Machine.Triple.when {condition : Bool} {body : Program (Request t) (Response t) Unit}
    {Q : Unit → World Response State Move → Prop}
    (hTrue : condition = true → M.Triple G t P body Q)
    (hFalse : condition = false → M.Triple G t P (.done ()) Q) :
    M.Triple G t P (Program.when condition body) Q := by
  cases condition with
  | false => exact hFalse rfl
  | true => exact hTrue rfl

theorem Machine.Triple.of_false {code : Program (Request t) (Response t) Result}
    (h : ∀ w, ¬P w) : M.Triple G t P code Q :=
  fun w hw => (h w hw).elim

/-- Reason separately about the ways in which a precondition can hold. -/
theorem Machine.Triple.or {code : Program (Request t) (Response t) Result}
    (h : M.Triple G t P code Q) (h' : M.Triple G t P' code Q) :
    M.Triple G t (fun w => P w ∨ P' w) code Q :=
  fun w hw => hw.elim (h w) (h' w)

/-- A value which the precondition only asserts to exist may be named. -/
theorem Machine.Triple.of_exists {Value : Type} {R : Value → World Response State Move → Prop}
    {code : Program (Request t) (Response t) Result} (h : ∀ value, M.Triple G t (R value) code Q) :
    M.Triple G t (fun w => ∃ value, R value w) code Q :=
  fun w ⟨value, hw⟩ => h value w hw

/-- A fact which does not depend on the world can be taken out of it. -/
theorem Machine.Triple.of_fact {p : Prop} {code : Program (Request t) (Response t) Result}
    (h : p → M.Triple G t P code Q) : M.Triple G t (fun w => p ∧ P w) code Q :=
  fun w hw => h hw.1 w hw.2

end Rules

/-- Every statement which the code can come to satisfies the predicate. -/
def Program.Issues {Request : Type} {Response : Request → Type} {Result : Type}
    (allowed : Request → Prop) : Program Request Response Result → Prop
  | .done _ => True
  | .call request next => allowed request ∧ ∀ response, (next response).Issues allowed

section Frames

variable {M : Machine Response State Move} {G : Guarantee Response State Move} {t : Thread}
  {Result : Type} {P : World Response State Move → Prop}

/-- Code which keeps an assertion, with no information about its results. -/
def Machine.Keeps (M : Machine Response State Move) (G : Guarantee Response State Move)
    (t : Thread) (P : World Response State Move → Prop)
    (code : Program (Request t) (Response t) Result) : Prop :=
  M.Triple G t P code fun _ => P

/-- A single statement respects the guarantee in worlds satisfying `P` and
leads to such worlds again. -/
def Machine.Preserves (M : Machine Response State Move) (G : Guarantee Response State Move)
    (t : Thread) (P : World Response State Move → Prop) (request : Request t) : Prop :=
  ∀ w, P w → G t request w ∧ ∀ response state,
    M.perform t request w.state = .returns response state →
      P (w.record (.statement t request response) state)

theorem Machine.Keeps.of_issues {code : Program (Request t) (Response t) Result}
    (hStable : M.Stable G t P) (h : code.Issues (M.Preserves G t P)) : M.Keeps G t P code := by
  induction code with
  | done result => exact .done hStable fun _ hw => hw
  | call request next ih =>
      intro w hw v hv
      obtain ⟨hGuarantee, hNext⟩ := h.1 v (hStable.steps hv hw)
      exact ⟨hGuarantee, fun response state hPerform =>
        ih response (h.2 response) _ (hNext response state hPerform)⟩

end Frames

namespace Program

variable {Request : Type} {Response : Request → Type} {Result Other : Type}
  {allowed allowed' : Request → Prop}

theorem Issues.mono {code : Program Request Response Result} (h : code.Issues allowed)
    (hAllowed : ∀ request, allowed request → allowed' request) : code.Issues allowed' := by
  induction code with
  | done result => trivial
  | call request next ih => exact ⟨hAllowed _ h.1, fun response => ih response (h.2 response)⟩

theorem Issues.and {code : Program Request Response Result} (h : code.Issues allowed)
    (h' : code.Issues allowed') :
    code.Issues fun request => allowed request ∧ allowed' request := by
  induction code with
  | done result => trivial
  | call request next ih =>
      exact ⟨⟨h.1, h'.1⟩, fun response => ih response (h.2 response) (h'.2 response)⟩

theorem Issues.of_forall (code : Program Request Response Result)
    (h : ∀ request, allowed request) : code.Issues allowed := by
  induction code with
  | done result => trivial
  | call request next ih => exact ⟨h request, fun response => ih response⟩

theorem Issues.done {result : Result} :
    (Program.done result : Program Request Response Result).Issues allowed := trivial

theorem Issues.bind {code : Program Request Response Result}
    {next : Result → Program Request Response Other} (h : code.Issues allowed)
    (hNext : ∀ result, (next result).Issues allowed) : (code >>= next).Issues allowed := by
  induction code with
  | done result => exact hNext result
  | call request rest ih => exact ⟨h.1, fun response => ih response (h.2 response)⟩

theorem Issues.perform {request : Request} (h : allowed request) :
    (Program.perform request : Program Request Response (Response request)).Issues allowed :=
  ⟨h, fun _ => trivial⟩

theorem Issues.when {condition : Bool} {body : Program Request Response Unit}
    (h : body.Issues allowed) : (Program.when condition body).Issues allowed := by
  cases condition with
  | false => trivial
  | true => exact h

end Program

namespace System

/-- The postcondition of one round of a thread is the precondition of its next
one. Every thread may rely on the guarantees of all others. -/
structure Contract (S : System Response Local State Move) (G : Guarantee Response State Move)
    (initially : State → Prop)
    (post : (t : Thread) → Option (Local t) → World Response State Move → Prop) : Prop where
  start : ∀ t state, initially state →
    S.Triple G t (fun w => w = ⟨state, []⟩) (S.start t) (post t)
  loop : ∀ t locals, S.Triple G t (post t (some locals)) (S.loop t locals) (post t)

/-- Two contracts of one system are one contract. -/
theorem Contract.and {S : System Response Local State Move} {G G' : Guarantee Response State Move}
    {initially : State → Prop}
    {post post' : (t : Thread) → Option (Local t) → World Response State Move → Prop}
    (h : S.Contract G initially post) (h' : S.Contract G' initially post') :
    S.Contract (fun t request w => G t request w ∧ G' t request w) initially
      (fun t locals w => post t locals w ∧ post' t locals w) where
  start t state hState w hw :=
    Machine.wp_and _ w (h.start t state hState w hw) (h'.start t state hState w hw)
  loop t locals w hw := Machine.wp_and _ w (h.loop t locals w hw.1) (h'.loop t locals w hw.2)

variable [DecidableEq Thread] {S : System Response Local State Move}
  {G : Guarantee Response State Move} {initially : State → Prop}
  {post : (t : Thread) → Option (Local t) → World Response State Move → Prop} {state : State}
  {c : Configuration Response Local State Move}

/-- A step either goes on with the code of a thread or begins its next round. -/
theorem wp_next {d : Configuration Response Local State Move} {choice : Choice Thread Move}
    (hAll : ∀ t, S.wp G t (c.code t) (post t) c.world) {t : Thread}
    {Q : Option (Local t) → World Response State Move → Prop} (h : S.wp G t (c.code t) Q c.world)
    (last : S.next c choice = some d) :
    S.wp G t (d.code t) Q d.world ∨
      ∃ locals, c.code t = .done (some locals) ∧ d.code t = S.loop t locals ∧
        d.world = c.world := by
  rcases next_cases last with ⟨action, s, hMove, rfl⟩ | ⟨u, locals, hCode, rfl⟩ |
    ⟨u, request, rest, response, s, hCode, hPerform, rfl⟩ | ⟨u, request, rest, -, -, rfl⟩
  · exact .inl (Machine.wp_steps h (.single (.move hMove)))
  · by_cases hu : u = t
    · subst hu
      exact .inr ⟨locals, hCode, Function.update_self .., rfl⟩
    · exact .inl (by simpa only [Function.update_of_ne (Ne.symm hu)] using h)
  · by_cases hu : u = t
    · subst hu
      rw [hCode] at h
      exact .inl (by simpa only [Function.update_self] using (h _ .refl).2 response s hPerform)
    · have hHere := hAll u
      rw [hCode] at hHere
      have hStep := Machine.wp_steps h (.single (.statement hu (hHere _ .refl).1 hPerform))
      exact .inl (by simpa only [Function.update_of_ne (Ne.symm hu)] using hStep)
  · exact .inl h

theorem Contract.wp (hContract : S.Contract G initially post) (hState : initially state)
    (h : S.Reachable state c) (t : Thread) : S.wp G t (c.code t) (post t) c.world := by
  induction h generalizing t with
  | initial => exact hContract.start t state hState _ rfl
  | @next c d choice prior last ih =>
      rcases wp_next ih (ih t) last with hOn | ⟨locals, hCode, hLoop, hWorld⟩
      · exact hOn
      · have hEnd := ih t
        rw [hCode] at hEnd
        rw [hLoop, hWorld]
        exact hContract.loop t locals _ (hEnd _ .refl)

/-- The guarantee holds at the statement which a thread is about to perform. -/
theorem Contract.at_statement (hContract : S.Contract G initially post)
    (hState : initially state) (h : S.Reachable state c) {t : Thread} {request : Request t}
    {next : Response t request → Program (Request t) (Response t) (Option (Local t))}
    (hCode : c.code t = .call request next) : G t request c.world := by
  have hWp := hContract.wp hState h t
  rw [hCode] at hWp
  exact (hWp _ .refl).1

theorem Contract.at_end (hContract : S.Contract G initially post) (hState : initially state)
    (h : S.Reachable state c) {t : Thread} {locals : Option (Local t)}
    (hCode : c.code t = .done locals) : post t locals c.world := by
  have hWp := hContract.wp hState h t
  rw [hCode] at hWp
  exact hWp _ .refl

/-- Every statement of the history was performed as guaranteed, in the world
made of the history before it. -/
theorem Contract.recorded (hContract : S.Contract G initially post) (hState : initially state)
    (h : S.Reachable state c) {later earlier : List (State × Label Response Move)} {s : State}
    {t : Thread} {request : Request t} {response : Response t request}
    (hTrace : c.world.trace = later ++ (s, .statement t request response) :: earlier) :
    G t request ⟨s, earlier⟩ := by
  obtain ⟨d, hReachable, hWorld, choice, e, hNext, hEntry⟩ := h.history hTrace
  have hOther : d.world.trace ≠ (s, .statement t request response) :: earlier := by
    rw [hWorld]
    exact (List.cons_ne_self _ _).symm
  rcases next_cases hNext with ⟨action, s', -, rfl⟩ | ⟨u, locals, -, rfl⟩ |
    ⟨u, request', rest, response', s', hCode, -, rfl⟩ | ⟨u, request', rest, -, -, rfl⟩
  · simp [World.record] at hEntry
  · exact absurd hEntry hOther
  · simp only [World.record, List.cons.injEq, Prod.mk.injEq, Label.statement.injEq] at hEntry
    obtain ⟨⟨-, rfl, hRequest, -⟩, -⟩ := hEntry
    cases hRequest
    rw [← hWorld]
    exact hContract.at_statement hState hReachable hCode
  · exact absurd hEntry hOther

/-- What neither a move nor a statement performed as guaranteed invalidates
holds throughout a run. -/
theorem Contract.invariant (hContract : S.Contract G initially post) (hState : initially state)
    {I : World Response State Move → Prop} (hInitial : I ⟨state, []⟩)
    (hMove : ∀ w action s, I w → S.move action w.state = some s → I (w.record (.move action) s))
    (hStatement : ∀ w t request response s, I w → G t request w →
      S.perform t request w.state = .returns response s →
        I (w.record (.statement t request response) s))
    (h : S.Reachable state c) : I c.world := by
  induction h with
  | initial => exact hInitial
  | @next c d choice prior last ih =>
      rcases next_cases last with ⟨action, s, hStep, rfl⟩ | ⟨u, locals, hCode, rfl⟩ |
        ⟨u, request, rest, response, s, hCode, hPerform, rfl⟩ | ⟨u, request, rest, -, -, rfl⟩
      · exact hMove c.world action s ih hStep
      · exact ih
      · have hGuarantee := hContract.at_statement hState prior hCode
        exact hStatement c.world u request response s ih hGuarantee hPerform
      · exact ih

/-- What the code of a thread establishes to the end of its round, and nothing
undoes, holds when a round has ended. -/
theorem Contract.after_round (hContract : S.Contract G initially post) (hState : initially state)
    (h : S.Reachable state c) {t : Thread} {F : World Response State Move → Prop}
    (hKeep : ∀ w label s, F w → F (w.record label s))
    (hWp : S.wp G t (c.code t) (fun result w => result ≠ none → F w) c.world)
    {d : Configuration Response Local State Move} {choices : List (Choice Thread Move)}
    (hRun : S.run c choices = some d) :
    F d.world ∨ S.wp G t (d.code t) (fun result w => result ≠ none → F w) d.world := by
  have hSince : F c.world ∨ S.wp G t (c.code t) (fun result w => result ≠ none → F w) c.world :=
    .inr hWp
  clear hWp
  induction choices generalizing c with
  | nil =>
      cases hRun
      exact hSince
  | cons choice rest ih =>
      obtain ⟨middle, hNext, hRest⟩ := Option.bind_eq_some_iff.mp hRun
      apply ih (h.next hNext) hRest
      rcases hSince with hDone | hWp
      · rcases next_cases hNext with ⟨action, s, -, rfl⟩ | ⟨u, locals, -, rfl⟩ |
          ⟨u, request, rest, response, s, -, -, rfl⟩ | ⟨u, request, rest, -, -, rfl⟩
        · exact .inl (hKeep _ _ _ hDone)
        · exact .inl hDone
        · exact .inl (hKeep _ _ _ hDone)
        · exact .inl hDone
      · rcases wp_next (hContract.wp hState h) hWp hNext with hOn | ⟨locals, hCode, -, hWorld⟩
        · exact .inr hOn
        · rw [hCode] at hWp
          rw [hWorld]
          exact .inl (hWp _ .refl (by simp))

end System

end Interleaving
