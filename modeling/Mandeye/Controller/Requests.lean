import Mandeye.Controller.Directories

/-! Requests of the users which the watcher overwrites. They come at any point
of a branch, so the state which a branch stores may follow from a test which is
out of date. Requests lead from state to state in one direction only: a branch
is late exactly if the state is no longer the one it was entered for. -/
namespace Mandeye.Controller

open Interleaving
open StateWatcher

/-- A request which has changed the state and has answered that it was accepted. -/
def accepts (settings : Settings) : Controller × Label Response Move → Bool
  | (s, .move (.trigger request)) =>
      (s.trigger settings request).1 && (s.trigger settings request).2.appState ≠ s.appState
  | _ => false

/-- The watcher writes `app_state`. -/
def writes : Controller × Label Response Move → Bool
  | (_, .statement .watcher (.storeAppState _) _) => true
  | _ => false

/-- The watcher finds `app_state` to be the state which it asks for. -/
def finds : Controller × Label Response Move → Bool
  | (_, .statement .watcher (.testAppState _) found) => found
  | _ => false

/-- After every accepted request, the watcher has found its state before it
writes the next time. -/
def Noticed (settings : Settings) (trace : Trace) : Prop :=
  ∀ later store between request earlier,
    trace = later ++ store :: (between ++ request :: earlier) →
      writes store = true → accepts settings request = true →
        (∀ entry ∈ between, writes entry = false) → ∃ entry ∈ between, finds entry = true

/-- The state which the watcher has found in its latest successful test, if it
has not written one since. -/
def observed : Trace → Option States
  | [] => none
  | (_, .statement .watcher (.testAppState state) true) :: _ => some state
  | (_, .statement .watcher (.storeAppState _) _) :: _ => none
  | _ :: rest => observed rest

/-- The branches, each with a state which it stores, in which a request can be
accepted between the test and the store. -/
def windows : List (States × States) :=
  [(.idle, .lidarError), (.idle, .startingScan), (.stoppingStage1, .scanning),
   (.stoppingStage2, .scanning)]

/-- A store in one of these branches while the state is no longer the one the
branch was entered for. -/
def belated (before : Controller) (state : States) (earlier : Trace) : Bool :=
  (observed earlier).any fun branch =>
    (branch, state) ∈ windows && before.appState ≠ branch

/-- The latest action is a belated store. -/
def endsBelated : Trace → Bool
  | (before, .statement .watcher (.storeAppState state) _) :: earlier =>
      belated before state earlier
  | _ => false

/-- No store of the history is belated. -/
abbrev Punctual (trace : Trace) : Prop := ∀ history ∈ trace.tails, endsBelated history = false

/-- A request was accepted and the watcher has neither noticed it nor written
over it. -/
def pending (settings : Settings) : Trace → Bool
  | [] => false
  | entry :: rest =>
      !finds entry && !writes entry && (accepts settings entry || pending settings rest)

theorem accepts_other {settings : Settings} {entry : Controller × Label Response Move}
    (h : accepts settings entry = true) : writes entry = false ∧ finds entry = false := by
  obtain ⟨s, label⟩ := entry
  cases label with
  | move action => exact ⟨rfl, rfl⟩
  | statement t request response => cases h

theorem pending_iff {settings : Settings} {trace : Trace} :
    pending settings trace = true ↔ ∃ between request earlier,
      trace = between ++ request :: earlier ∧ accepts settings request = true ∧
        ∀ entry ∈ between, writes entry = false ∧ finds entry = false := by
  induction trace with
  | nil => simp [pending]
  | cons head rest ih =>
      simp only [pending, Bool.and_eq_true, Bool.not_eq_true', Bool.or_eq_true]
      constructor
      · rintro ⟨⟨hFinds, hWrites⟩, hAccepts | hPending⟩
        · exact ⟨[], head, rest, rfl, hAccepts, by simp⟩
        · obtain ⟨between, request, earlier, rfl, hAccepts, hBetween⟩ := ih.mp hPending
          refine ⟨head :: between, request, earlier, rfl, hAccepts, ?_⟩
          exact List.forall_mem_cons.mpr ⟨⟨hWrites, hFinds⟩, hBetween⟩
      · rintro ⟨between, request, earlier, hTrace, hAccepts, hBetween⟩
        cases between with
        | nil =>
            obtain ⟨rfl, rfl⟩ := List.cons.inj hTrace
            exact ⟨(accepts_other hAccepts).symm, .inl hAccepts⟩
        | cons entry between =>
            obtain ⟨rfl, hRest⟩ := List.cons.inj hTrace
            obtain ⟨hHead, hBetween⟩ := List.forall_mem_cons.mp hBetween
            exact ⟨hHead.symm, .inr (ih.mpr ⟨between, request, earlier, hRest, hAccepts, hBetween⟩)⟩

theorem writes_store {entry : Controller × Label Response Move} (h : writes entry = true) :
    ∃ before state, entry = (before, .statement .watcher (.storeAppState state) ()) := by
  unfold writes at h
  split at h
  · exact ⟨_, _, rfl⟩
  · cases h

/-- A request is overwritten when a store finds it pending. -/
theorem noticed_iff {settings : Settings} {trace : Trace} :
    Noticed settings trace ↔ ∀ later store earlier, trace = later ++ store :: earlier →
      writes store = true → pending settings earlier = false := by
  constructor
  · intro h later store earlier hTrace hStore
    by_contra hPending
    obtain ⟨between, request, rest, rfl, hAccepts, hBetween⟩ :=
      pending_iff.mp (by simpa using hPending)
    obtain ⟨entry, hEntry, hFinds⟩ := h later store between request rest hTrace hStore hAccepts
      fun entry hEntry => (hBetween entry hEntry).1
    simp [(hBetween entry hEntry).2] at hFinds
  · intro h later store between request earlier hTrace hStore hAccepts hBetween
    by_contra hNone
    have hPending : pending settings (between ++ request :: earlier) = true := by
      refine pending_iff.mpr ⟨between, request, earlier, rfl, hAccepts, fun entry hEntry => ?_⟩
      exact ⟨hBetween entry hEntry, by
        by_contra hFinds
        exact hNone ⟨entry, hEntry, by simpa using hFinds⟩⟩
    simp [h later store _ hTrace hStore] at hPending

theorem observed_cons {entry : Controller × Label Response Move} (hWrites : writes entry = false)
    (hFinds : finds entry = false) (earlier : Trace) :
    observed (entry :: earlier) = observed earlier := by
  conv_lhs => unfold observed
  split
  · cases ‹_ :: _ = []›
  · rename_i hTrace
    cases hTrace
    cases hFinds
  · rename_i hTrace
    cases hTrace
    cases hWrites
  · rename_i hTrace
    cases hTrace
    rfl

section Order

/-- The states in which a request can be accepted. -/
abbrev Accepting (state : States) : Prop :=
  state ∈ [States.idle, .stopped, .scanning, .stoppingStage1, .stoppingStage2]

/-- How far requests have led. -/
def progress : States → Nat
  | .idle => 0
  | .stopped => 0
  | .scanning => 0
  | .stoppingStage1 => 1
  | .stoppingStage2 => 2
  | _ => 3

theorem Requested.progress {state state' : States} (h : Requested state state') :
    progress state < progress state' := by
  cases h with
  | startingScan h => rcases h with rfl | rfl <;> decide
  | startingStopScan h => rcases h with rfl | rfl <;> decide
  | _ => decide

variable {state state' : States} (h : Relation.TransGen Requested state state')

include h

theorem chain_progress : progress state < progress state' := by
  induction h with
  | single hFirst => exact hFirst.progress
  | tail _ hLast ih => exact ih.trans hLast.progress

/-- No sequence of requests leads back to where it began. -/
theorem chain_ne : state' ≠ state := by
  rintro rfl
  exact lt_irrefl _ (chain_progress h)

theorem chain_source : Accepting state := by
  obtain ⟨middle, hFirst, -⟩ := Relation.TransGen.head'_iff.mp h
  exact hFirst.source

theorem chain_target : state' ≠ .waitForResources ∧ state' ≠ .usbIoError := by
  obtain ⟨middle, -, hLast⟩ := Relation.TransGen.tail'_iff.mp h
  cases hLast <;> exact ⟨by decide, by decide⟩

end Order

section Assertions

variable {settings : Settings}

/-- In a branch, before its store: the state is the one which the branch was
entered for, or what accepted requests have made of it. -/
structure Entered (settings : Settings) (branch : States) (w : History) : Prop where
  observed : observed w.trace = some branch
  requested : pending settings w.trace = true →
    Relation.TransGen Requested branch w.state.appState
  current : pending settings w.trace = false → w.state.appState = branch

/-- Nothing can be requested, and nothing is remembered of the state. -/
structure Settled (settings : Settings) (w : History) : Prop where
  observed : observed w.trace = none
  pending : pending settings w.trace = false
  state : ¬Accepting w.state.appState

/-- What one action does to the state, if it is not a store of the watcher. -/
def Honest (settings : Settings) (w : History) (label : Label Response Move)
    (s : Controller) : Prop :=
  accepts settings (w.state, label) = true ∧ Requested w.state.appState s.appState ∨
    accepts settings (w.state, label) = false ∧ s.appState = w.state.appState

/-- An assertion which survives everything but the tests and the stores. -/
def AboutRequests (settings : Settings) (A : History → Prop) : Prop :=
  ∀ w label s, A w → writes (w.state, label) = false → finds (w.state, label) = false →
    Honest settings w label s → A (w.record label s)

theorem pending_record {w : History} {label : Label Response Move} {s : Controller}
    (hWrites : writes (w.state, label) = false) (hFinds : finds (w.state, label) = false) :
    pending settings (w.record label s).trace =
      (accepts settings (w.state, label) || pending settings w.trace) := by
  simp [World.record, pending, hWrites, hFinds]

variable (settings)

theorem aboutRequests_entered (branch : States) :
    AboutRequests settings (Entered settings branch) := by
  intro w label s hw hWrites hFinds hHonest
  have hPending : pending settings (w.record label s).trace = _ := pending_record hWrites hFinds
  refine ⟨(observed_cons hWrites hFinds _).trans hw.observed, fun hRequested => ?_, fun hNone => ?_⟩
  · rcases hHonest with ⟨-, hStep⟩ | ⟨hAccepts, hSame⟩
    · cases hBefore : pending settings w.trace with
      | true => exact (hw.requested hBefore).tail hStep
      | false => exact .single (hw.current hBefore ▸ hStep)
    · have hBefore : pending settings w.trace = true := by
        simpa [hPending, hAccepts] using hRequested
      exact (congrArg _ hSame).mpr (hw.requested hBefore)
  · simp only [hPending, Bool.or_eq_false_iff] at hNone
    rcases hHonest with ⟨hAccepts, -⟩ | ⟨-, hSame⟩
    · simp [hAccepts] at hNone
    · exact hSame.trans (hw.current hNone.2)

theorem aboutRequests_settled : AboutRequests settings (Settled settings) := by
  intro w label s hw hWrites hFinds hHonest
  rcases hHonest with ⟨-, hStep⟩ | ⟨hAccepts, hSame⟩
  · exact absurd hStep.source hw.state
  · refine ⟨(observed_cons hWrites hFinds _).trans hw.observed, ?_, ?_⟩
    · rw [pending_record hWrites hFinds, hAccepts, hw.pending, Bool.or_false]
    · exact (congrArg (fun state => ¬Accepting state) hSame).mpr hw.state

end Assertions

section Interference

/-- The guarantee of the watcher: its stores find a request pending only where
they are belated. Nothing is said of the stores which the start-up alone reaches. -/
def requestGuarantee (settings : Settings) : WatcherRequest → History → Prop
  | .storeAppState state, w =>
      pending settings w.trace = belated w.state state w.trace ∨ state = .usbIoError ∧
        (pending settings w.trace = true →
          w.state.appState ≠ .waitForResources ∧ w.state.appState ≠ .usbIoError)
  | _, _ => True

variable {settings : Settings} {w w' : History}

/-- A request which changes the state answers that it was accepted. -/
theorem trigger_true {request : Trigger} {s : Controller}
    (h : (s.trigger settings request).2.appState ≠ s.appState) :
    (s.trigger settings request).1 = true := by
  cases request with
  | startScan =>
      simp only [trigger, startScan] at h ⊢
      split_ifs at h ⊢ with hIdle
      · rfl
      · exact absurd rfl h
  | stopScan =>
      simp only [trigger, stopScan] at h ⊢
      split_ifs at h ⊢ with hScanning
      · rfl
      · exact absurd rfl h
  | triggerStopScan =>
      simp only [trigger, triggerStopScan] at h ⊢
      split_ifs at h ⊢ with hIdle
      · rfl
      · exact absurd rfl h
  | triggerContinousScanning =>
      simp only [trigger, triggerContinousScanning] at h ⊢
      split_ifs at h ⊢
      · rfl
      · rfl
      · rfl
      · rfl
      · rfl
      · rfl
      · rfl
      · exact absurd rfl h

theorem accepts_move {action : Move} {s s' : Controller} (h : move settings action s = some s')
    (hSame : s'.appState = s.appState) : accepts settings (s, .move action) = false := by
  cases action with
  | trigger request =>
      cases h
      simp [accepts, hSame]
  | _ => rfl

theorem other_thread {t : Thread} {request : Request t} {response : Response t request}
    {s : Controller} (ht : t ≠ .watcher) :
    writes (s, .statement t request response) = false ∧
      finds (s, .statement t request response) = false := by
  cases t with
  | watcher => exact absurd rfl ht
  | _ => exact ⟨rfl, rfl⟩

theorem interference_honest
    (h : (machine settings).Interference (guarantee (requestGuarantee settings)) .watcher w w') :
    ∃ label s, w' = w.record label s ∧ writes (w.state, label) = false ∧
      finds (w.state, label) = false ∧ Honest settings w label s := by
  obtain ⟨hMove⟩ | ⟨hOther, -, hPerform⟩ := h
  · refine ⟨_, _, rfl, rfl, rfl, ?_⟩
    rcases move_appState hMove with hSame | ⟨request, rfl, hRequested⟩
    · exact .inr ⟨accepts_move hMove hSame, hSame⟩
    · cases hMove
      have hChanged : (w.state.trigger settings request).2.appState ≠ w.state.appState :=
        chain_ne (.single hRequested)
      exact .inl ⟨by simp [accepts, hChanged, trigger_true hChanged], hRequested⟩
  · obtain ⟨hWrites, hFinds⟩ := other_thread hOther
    exact ⟨_, _, rfl, hWrites, hFinds, .inr ⟨rfl, perform_appState hOther hPerform⟩⟩

/-- The statements which are neither a test nor a store. -/
def Blind : WatcherRequest → Prop
  | .testAppState _ => False
  | .storeAppState _ => False
  | _ => True

theorem Plain.blind (request : WatcherRequest) (h : Plain request) : Blind request := by
  cases request with
  | testAppState state => exact h.elim
  | storeAppState state => exact h.elim
  | _ => trivial

theorem Quiet.blind (request : WatcherRequest) (h : Quiet request) : Blind request := h.plain.blind

theorem Blind.honest {request : WatcherRequest} {response : request.Response} {s : Controller}
    (hBlind : Blind request)
    (h : performWatcher settings request w.state = .returns response s) :
    writes (w.state, .statement .watcher request response) = false ∧
      finds (w.state, .statement .watcher request response) = false ∧
      Honest settings w (.statement .watcher request response) s := by
  have hState : s.appState = w.state.appState := by
    rcases performWatcher_appState h with hSame | rfl
    · exact hSame
    · exact hBlind.elim
  cases request with
  | testAppState state => exact hBlind.elim
  | storeAppState state => exact hBlind.elim
  | _ => exact ⟨rfl, rfl, .inr ⟨rfl, hState⟩⟩

theorem Blind.allowed {request : WatcherRequest} (h : Blind request) (w : History) :
    requestGuarantee settings request w := by
  cases request with
  | storeAppState state => exact h.elim
  | _ => trivial

end Interference

section Rules

variable {settings : Settings} {A B : History → Prop}

theorem AboutRequests.stable (h : AboutRequests settings A) :
    WatcherStable settings (requestGuarantee settings) A := by
  intro w w' hInterference hw
  obtain ⟨label, s, rfl, hWrites, hFinds, hHonest⟩ := interference_honest hInterference
  exact h w label s hw hWrites hFinds hHonest

theorem AboutRequests.preserves (h : AboutRequests settings A) (request : WatcherRequest)
    (hBlind : Blind request) :
    (machine settings).Preserves (guarantee (requestGuarantee settings)) .watcher A request := by
  refine fun w hw => ⟨hBlind.allowed w, fun response s hPerform => ?_⟩
  obtain ⟨hWrites, hFinds, hHonest⟩ := hBlind.honest hPerform
  exact h w _ s hw hWrites hFinds hHonest

theorem AboutRequests.robust (h : AboutRequests settings A) :
    Robust settings (requestGuarantee settings) A :=
  ⟨h.stable, fun request hQuiet => h.preserves request hQuiet.blind⟩

theorem AboutRequests.keeps (h : AboutRequests settings A) {Result : Type} {code : Code Result}
    (hCode : code.Issues Plain) :
    WatcherTriple settings (requestGuarantee settings) A code fun _ => A :=
  Machine.Keeps.of_issues h.stable <| hCode.mono fun request hPlain =>
    h.preserves request hPlain.blind

theorem AboutRequests.or (hA : AboutRequests settings A) (hB : AboutRequests settings B) :
    AboutRequests settings fun w => A w ∨ B w :=
  fun w label s hw hWrites hFinds hHonest =>
    hw.imp (hA w label s · hWrites hFinds hHonest) (hB w label s · hWrites hFinds hHonest)

/-- Between the branches nothing has to be known. -/
abbrev Anything (_ : History) : Prop := True

variable (settings)

theorem aboutRequests_anything : AboutRequests settings Anything := fun _ _ _ _ _ _ _ => trivial

/-- What a test needs to know is nothing either. -/
theorem observes_entered :
    Observes settings (requestGuarantee settings) Anything (Entered settings) where
  robust := (aboutRequests_anything settings).robust
  entered branch := (aboutRequests_entered settings branch).stable
  allowed _ _ _ := trivial
  found w _ := by
    refine ⟨rfl, fun hPending => ?_, fun _ => rfl⟩
    simp [World.record, pending, finds] at hPending
  notFound _ _ _ _ := trivial

variable {settings}

theorem stable_anything : WatcherStable settings (requestGuarantee settings) Anything :=
  (aboutRequests_anything settings).stable

/-- In one of the windows a request is pending exactly if the store is belated.
In any other branch no request has been accepted. -/
theorem Entered.allowed {branch state : States} {w : History} (h : Entered settings branch w)
    (hStore : Accepting branch → (branch, state) ∈ windows ∨ state = .usbIoError) :
    requestGuarantee settings (.storeAppState state) w := by
  by_cases hError : state = .usbIoError
  · exact .inr ⟨hError, fun hPending => chain_target (h.requested hPending)⟩
  · left
    cases hPending : pending settings w.trace with
    | false => simp [belated, h.observed, h.current hPending]
    | true =>
        have hChain := h.requested hPending
        have hWindow := (hStore (chain_source hChain)).resolve_right hError
        simp [belated, h.observed, hWindow, chain_ne hChain]

theorem Settled.allowed {w : History} (h : Settled settings w) (state : States) :
    requestGuarantee settings (.storeAppState state) w :=
  .inl (by simp [belated, h.observed, h.pending])

/-- After the store of a state in which nothing can be requested. -/
theorem settled_store {w : History} {state : States} (hState : ¬Accepting state) :
    Settled settings
      (w.record (.statement .watcher (.storeAppState state) ())
        { w.state with appState := state }) :=
  ⟨rfl, rfl, hState⟩

theorem triple_store_entered {branch state : States}
    (hStore : Accepting branch → (branch, state) ∈ windows ∨ state = .usbIoError) :
    WatcherTriple settings (requestGuarantee settings) (Entered settings branch)
      (call (.storeAppState state)) fun _ => Anything :=
  .perform (aboutRequests_entered settings branch).stable (fun _ => stable_anything)
    (fun _ hw => hw.allowed hStore) fun _ _ _ _ _ => trivial

end Rules

section Branches

variable (settings : Settings) (locals : Locals)

abbrev RequestTriple (A : History → Prop) {Result : Type} (code : Code Result) : Prop :=
  WatcherTriple settings (requestGuarantee settings) A code fun _ => Anything

variable {settings}

theorem AboutRequests.finally {A : History → Prop} (h : AboutRequests settings A) {Result : Type}
    {code : Code Result} (hCode : code.Issues Plain) : RequestTriple settings A code :=
  (h.keeps hCode).mono (fun _ hw => hw) fun _ _ _ => trivial

theorem plain_of_quiet {Result : Type} {code : Code Result} (h : code.Issues Quiet) :
    code.Issues Plain :=
  h.mono Quiet.plain

variable (settings)

theorem request_waitForResources :
    RequestTriple settings (Entered settings .waitForResources)
      (waitForResources settings locals) := by
  have hWait := (aboutRequests_entered settings .waitForResources).robust
  have hStore : ∀ fileSystemClient, RequestTriple settings (Entered settings .waitForResources)
      (.when fileSystemClient do
        call (.storeAppState .idle)
        .when (!settings.disableBuzzer)
          (call (.beep [100, 50, 100, 50, 100, 50, 100, 50, 100, 50, 100, 50]))) := fun _ =>
    .when (fun _ => (triple_store_entered (by decide)).bind fun _ =>
      (aboutRequests_anything settings).keeps (.when (.perform trivial)))
      fun _ => triple_return () hWait.stable fun _ _ => trivial
  refine hWait.before (.when (.perform trivial)) fun _ => ?_
  refine hWait.statement (.sleepFor 100) trivial fun _ => ?_
  refine hWait.statement (.lock .livoxClientPtrLock) trivial fun _ => ?_
  refine hWait.statement (.lock .gpioClientPtrLock) trivial fun _ => ?_
  refine hWait.before (.when (issues_waitForLidarSync.mono Preparing.quiet)) fun _ => ?_
  refine hWait.statement (.isSet .gpioClientPtr) trivial fun _ => ?_
  refine hWait.before (issues_andAlso (.perform trivial)) fun fileSystemClient => ?_
  refine (hStore fileSystemClient).bind fun _ => (aboutRequests_anything settings).keeps ?_
  refine .bind (.perform trivial) fun _ => .bind (.when (.perform trivial)) fun _ => ?_
  exact .bind (.perform trivial) fun _ => .bind (.perform trivial) fun _ => .done

/-- After the first store no request is accepted any more, and the second one
would be harmless. -/
theorem request_idle :
    RequestTriple settings (Entered settings .idle) (idle settings locals) := by
  have hIdle := aboutRequests_entered settings .idle
  have hEither := hIdle.or (aboutRequests_settled settings)
  have hError : ∀ isLidarError, WatcherTriple settings (requestGuarantee settings)
      (Entered settings .idle) (.when isLidarError (call (.storeAppState .lidarError)))
      fun _ w => Entered settings .idle w ∨ Settled settings w := by
    refine fun _ => .when (fun _ => ?_) fun _ => triple_return () hIdle.stable fun _ hw => .inl hw
    refine .perform hIdle.stable (fun _ => hEither.stable) (fun _ hw => hw.allowed (by decide)) ?_
    intro w response s _ hPerform
    cases hPerform
    exact .inr (settled_store (by decide))
  have hStart : WatcherTriple settings (requestGuarantee settings)
      (fun w => Entered settings .idle w ∨ Settled settings w)
      (call (.storeAppState .startingScan)) fun _ => Anything := by
    refine .perform hEither.stable (fun _ => stable_anything) ?_
      fun _ _ _ _ _ => trivial
    rintro w (hw | hw)
    · exact hw.allowed (by decide)
    · exact hw.allowed _
  have hAutostart : RequestTriple settings (fun w => Entered settings .idle w ∨ Settled settings w)
      (.when settings.autostart do
        let isLidarError ← call .isLidarError
        .when (!isLidarError) (call (.storeAppState .startingScan))) := by
    refine .when (fun _ => ?_) fun _ => triple_return () hEither.stable fun _ _ => trivial
    exact hEither.robust.statement .isLidarError trivial fun _ =>
      .when (fun _ => hStart) fun _ => triple_return () hEither.stable fun _ _ => trivial
  refine hIdle.robust.statement .isLidarError trivial fun isLidarError => ?_
  refine (hError isLidarError).bind fun _ => ?_
  refine hEither.robust.statement (.isSet .gpioClientPtr) trivial fun gpioClient => ?_
  refine hEither.robust.before (.when (issues_setLeds _ _ _)) fun _ => ?_
  refine hEither.robust.statement (.sleepFor 100) trivial fun _ => ?_
  exact hAutostart.bind fun _ =>
    triple_return locals stable_anything fun _ _ => trivial

theorem request_startingScan :
    RequestTriple settings (Entered settings .startingScan) (startingScan locals) := by
  have hStarting := aboutRequests_entered settings .startingScan
  have hScan : RequestTriple settings (Entered settings .startingScan) startContinousScan := by
    have hLogs : WatcherTriple settings (requestGuarantee settings)
        (Entered settings .startingScan) (call .startLog) fun _ => Entered settings .startingScan :=
      hStarting.keeps (.perform trivial)
    have hGnss : ∀ gnssClient, WatcherTriple settings (requestGuarantee settings)
        (Entered settings .startingScan) (.when gnssClient (call .gnssStartLog))
        fun _ => Entered settings .startingScan :=
      fun _ => hStarting.keeps (.when (.perform trivial))
    refine hLogs.bind fun _ => ?_
    refine hStarting.robust.statement (.isSet .gnssClientPtr) trivial fun _ => ?_
    exact (hGnss _).bind fun _ => triple_store_entered (by decide)
  refine hStarting.robust.before issues_showStart fun _ => ?_
  refine hStarting.robust.statement (.isSet .livoxCLientPtr) trivial fun livoxCLient => ?_
  have hWhen : RequestTriple settings (Entered settings .startingScan)
      (.when livoxCLient startContinousScan) :=
    .when (fun _ => hScan) fun _ => triple_return () hStarting.stable fun _ _ => trivial
  refine hWhen.bind fun _ => (aboutRequests_anything settings).keeps ?_
  exact .bind (.perform trivial) fun _ => .done

/-- The only store is the one for want of a directory. -/
theorem request_rotateChunk :
    RequestTriple settings (Entered settings .scanning) (rotateChunk locals) := by
  have hScanning := aboutRequests_entered settings .scanning
  have hTaken : WatcherTriple settings (requestGuarantee settings) (Entered settings .scanning)
      (call .retrieveData) fun _ => Entered settings .scanning := hScanning.keeps (.perform trivial)
  refine hScanning.robust.statement (.setLed .copyData true) trivial fun _ => ?_
  refine hScanning.robust.statement .steadyClockNow trivial fun chunkStart => ?_
  refine hTaken.bind fun buffers => ?_
  refine hScanning.robust.statement (.isSet .gnssClientPtr) trivial fun gnssClient => ?_
  refine (hScanning.keeps (issues_retrieveGnss gnssClient)).bind ?_
  intro ⟨gnssBuffer, gnssRawBuffer⟩
  dsimp only
  split_ifs
  · exact (triple_store_entered (by decide)).bind fun _ =>
      triple_return _ stable_anything fun _ _ => trivial
  · refine hScanning.finally (.bind (issues_saveLidarData _ _ _ _) fun _ => ?_)
    refine .bind (.perform trivial) fun _ => .bind (.when ?_) fun _ => ?_
    · exact .bind (.perform trivial) fun _ => .perform trivial
    · exact .bind (.perform trivial) fun _ => .done

theorem request_confirmationStage {stage : States} (deadline changeLed : Deadline) (period : Int)
    (led : Bool)
    (hStage : Accepting stage → (stage, .scanning) ∈ windows ∨ States.scanning = .usbIoError) :
    RequestTriple settings Anything (confirmationStage stage deadline changeLed period led) := by
  have hEntered := aboutRequests_entered settings stage
  refine ((observes_entered settings).tests.test stage).bind fun entered => ?_
  cases entered with
  | false => exact triple_return led stable_anything fun _ _ => trivial
  | true =>
      refine hEntered.robust.statement .steadyClockNow trivial fun now => ?_
      refine hEntered.robust.statement (.readDeadline changeLed) trivial fun changeLedTime => ?_
      refine hEntered.robust.before (.when ?_) fun _ => ?_
      · exact .bind (.perform trivial) fun _ => .bind (.perform trivial) fun _ => .perform trivial
      · refine hEntered.robust.statement (.readDeadline deadline) trivial fun deadlineTime => ?_
        have hLate : RequestTriple settings (Entered settings stage)
            (.when (deadlineTime < now) (call (.storeAppState .scanning))) :=
          .when (fun _ => triple_store_entered hStage)
            fun _ => triple_return () hEntered.stable fun _ _ => trivial
        exact hLate.bind fun _ => triple_return _ stable_anything fun _ _ => trivial

theorem request_scanning : RequestTriple settings Anything (scanning locals) := by
  have hAny := aboutRequests_anything settings
  have hTest := (observes_entered settings).tests.test .scanning
  have hShow : RequestTriple settings Anything showScanning :=
    Machine.Keeps.of_issues stable_anything <| issues_showScanning hAny.robust.calm
      fun _ _ _ => ⟨trivial, fun _ _ _ => trivial⟩
  have hChunk : ∀ now, RequestTriple settings Anything (checkChunk now locals) := by
    intro now
    have hTested : WatcherTriple settings (requestGuarantee settings) Anything
        (andAlso (seconds 10 < now - locals.chunkStart) (call (.testAppState .scanning)))
        fun found w => if found then Entered settings .scanning w else Anything w :=
      triple_andAlso (fun _ => triple_return false stable_anything fun _ hw => hw) fun _ => hTest
    refine hTested.bind fun chunkEnds => ?_
    cases chunkEnds with
    | false => exact triple_return locals stable_anything fun _ hw => hw
    | true => exact request_rotateChunk settings locals
  refine hShow.bind fun _ => ?_
  refine hAny.robust.statement .steadyClockNow trivial fun now => ?_
  refine hAny.robust.before (.when (issues_blink _ _ _)) fun _ => ?_
  refine hAny.robust.before (.when (issues_blink _ _ _)) fun _ => ?_
  refine (hChunk now).bind fun rotated => ?_
  refine (request_confirmationStage settings _ _ _ _ (by decide)).bind fun led1 => ?_
  refine (request_confirmationStage settings _ _ _ _ (by decide)).bind fun led2 => ?_
  exact hAny.robust.statement (.sleepFor 20) trivial fun _ =>
    triple_return _ stable_anything fun _ _ => trivial

/-- The end of a scan, in whose states no request is accepted. -/
theorem request_close {branch state : States} (hBranch : ¬Accepting branch) (result : Locals) :
    RequestTriple settings (Entered settings branch)
      (do
        call (.storeAppState state)
        return result) :=
  (triple_store_entered fun h => absurd h hBranch).bind fun _ =>
    triple_return result stable_anything fun _ _ => trivial

theorem request_stopping :
    RequestTriple settings (Entered settings .stopping) (stopping locals) := by
  have hStopping := aboutRequests_entered settings .stopping
  refine hStopping.robust.before issues_showCopying fun _ => ?_
  have hLogs := hStopping.keeps (issues_closeLogs Working.plain trivial)
  refine hLogs.bind fun ⟨buffers, gnssData⟩ => ?_
  refine hStopping.robust.before (issues_blinkTimes _ _ _ _) fun _ => ?_
  refine hStopping.robust.before issues_showCopying fun _ => ?_
  split_ifs
  · exact request_close settings (by decide) locals
  · refine (hStopping.keeps (issues_saveLastChunk _ _ _ _)).bind fun _ => ?_
    exact hStopping.robust.statement (.setLed .copyData false) trivial fun _ =>
      request_close settings (by decide) _

theorem request_startingStopScan :
    RequestTriple settings (Entered settings .startingStopScan) (startingStopScan locals) := by
  have hStarting := aboutRequests_entered settings .startingStopScan
  refine hStarting.robust.statement (.isSet .gpioClientPtr) trivial fun gpioClient => ?_
  refine hStarting.robust.before (.when (issues_setLeds _ _ _)) fun _ => ?_
  exact hStarting.robust.statement .steadyClockNow trivial fun now =>
    request_close settings (by decide) _

theorem request_stopScanInInitialProgress :
    RequestTriple settings (Entered settings .stopScanInInitialProgress)
      (stopScanInInitialProgress locals) := by
  have hInitial := aboutRequests_entered settings .stopScanInInitialProgress
  have hLivox : ∀ livoxCLient, WatcherTriple settings (requestGuarantee settings)
      (Entered settings .stopScanInInitialProgress)
      (.when livoxCLient do
        call (.setLed .stopScan true)
        call .startLog) fun _ => Entered settings .stopScanInInitialProgress :=
    fun _ => hInitial.keeps (.when (.bind (.perform trivial) fun _ => .perform trivial))
  have hGnss : ∀ gnssClient, WatcherTriple settings (requestGuarantee settings)
      (Entered settings .stopScanInInitialProgress) (.when gnssClient (call .gnssStartLog))
      fun _ => Entered settings .stopScanInInitialProgress :=
    fun _ => hInitial.keeps (.when (.perform trivial))
  have hStart : RequestTriple settings (Entered settings .stopScanInInitialProgress)
      startStopScan := by
    refine hInitial.robust.statement (.isSet .livoxCLientPtr) trivial fun livoxCLient => ?_
    refine (hLivox livoxCLient).bind fun _ => ?_
    refine hInitial.robust.statement (.isSet .gnssClientPtr) trivial fun gnssClient => ?_
    exact (hGnss gnssClient).bind fun _ => triple_store_entered (by decide)
  refine hInitial.robust.statement .steadyClockNow trivial fun now => ?_
  split_ifs
  · exact hInitial.finally (.bind (plain_of_quiet (issues_blink _ _ _)) fun _ => .done)
  · exact hStart.bind fun _ =>
      triple_return locals stable_anything fun _ _ => trivial

theorem request_stopScanInProgress :
    RequestTriple settings (Entered settings .stopScanInProgress) (stopScanInProgress locals) := by
  have hProgress := aboutRequests_entered settings .stopScanInProgress
  refine hProgress.robust.statement .steadyClockNow trivial fun now => ?_
  have hStore : RequestTriple settings (Entered settings .stopScanInProgress)
      (.when (locals.stopScanDeadline < now) (call (.storeAppState .stopingStopScan))) :=
    .when (fun _ => triple_store_entered (by decide))
      fun _ => triple_return () hProgress.stable fun _ _ => trivial
  exact hStore.bind fun _ => triple_return locals stable_anything fun _ _ => trivial

theorem request_stopingStopScan :
    RequestTriple settings (Entered settings .stopingStopScan) (stopingStopScan locals) := by
  have hStoping := aboutRequests_entered settings .stopingStopScan
  refine hStoping.robust.before issues_showStopScanClosing fun _ => ?_
  have hLogs := hStoping.keeps (issues_closeLogs Working.plain trivial)
  refine hLogs.bind fun ⟨buffers, gnssData⟩ => ?_
  dsimp only
  split_ifs
  · exact request_close settings (by decide) locals
  · refine (hStoping.keeps (issues_saveLastChunk _ _ _ _)).bind fun _ => ?_
    exact hStoping.robust.before issues_showStopScanEnd fun _ =>
      request_close settings (by decide) _

theorem branches_entered :
    BranchTriples settings (requestGuarantee settings) (Entered settings) locals
      fun _ => Anything where
  usbIoError := (aboutRequests_entered settings _).finally <| plain_of_quiet <|
    .bind (issues_showError _ _ _ _ _) fun _ => .done
  waitForResources := request_waitForResources settings locals
  idle := request_idle settings locals
  startingScan := request_startingScan settings locals
  scanning _ _ := (request_scanning settings locals).mono (fun _ _ => trivial) fun _ _ hw => hw
  stopping := request_stopping settings locals
  startingStopScan := request_startingStopScan settings locals
  stopScanInInitialProgress := request_stopScanInInitialProgress settings locals
  stopScanInProgress := request_stopScanInProgress settings locals
  stopingStopScan := request_stopingStopScan settings locals

end Branches

theorem request_contract (settings : Settings) :
    (system settings).Contract (guarantee (requestGuarantee settings)) Controller.Initial
      (posts fun _ => Anything) := by
  refine contract_of_watcher (fun s hInitial => ?_) fun locals => ?_
  · have hSettled := aboutRequests_settled settings
    have hStore : (machine settings).Preserves (guarantee (requestGuarantee settings)) .watcher
        (Settled settings) (.storeAppState .usbIoError) := by
      refine fun w hw => ⟨hw.allowed _, fun response s hPerform => ?_⟩
      cases hPerform
      exact settled_store (by decide)
    have hStartUp : WatcherTriple settings (requestGuarantee settings) (Settled settings) startUp
        fun _ => Settled settings :=
      Machine.Keeps.of_issues hSettled.stable <| issues_startUp (hSettled.robust.calm _ trivial)
        (hSettled.robust.calm _ trivial)
        (fun _ => hSettled.preserves _ trivial) (fun _ => hSettled.preserves _ trivial) hStore
    refine hStartUp.mono ?_ fun _ _ _ => trivial
    rintro w rfl
    exact ⟨rfl, rfl, by simp [hInitial.appState]⟩
  · have hError : RequestTriple settings (Entered settings .lidarError) (lidarError settings) :=
      (aboutRequests_entered settings _).finally (plain_of_quiet (issues_showError _ _ _ _ _))
    exact (observes_entered settings).round hError (branches_entered settings locals)
      (fun _ _ => trivial) fun _ _ => trivial

/-- A store finds a request pending exactly if it is belated. -/
theorem pending_eq_belated {settings : Settings} {s : Controller} (hInitial : s.Initial)
    {c : Configuration Response Local Controller Move} (h : (system settings).Reachable s c)
    {later earlier : Trace} {before : Controller} {state : States}
    (hTrace : c.world.trace =
      later ++ (before, .statement .watcher (.storeAppState state) ()) :: earlier) :
    pending settings earlier = belated before state earlier := by
  rcases (request_contract settings).recorded hInitial h hTrace with hEq | ⟨rfl, hPending⟩
  · exact hEq
  · -- Such a store is made at the start only, when nothing can be requested.
    obtain ⟨-, -, hState⟩ := (startUp_contract settings).recorded hInitial h hTrace
    have hNone : pending settings earlier = false := by
      by_contra hSome
      obtain ⟨hWait, hDown⟩ := hPending (by simpa using hSome)
      exact hState.elim hWait hDown
    have hPunctual : belated before .usbIoError earlier = false := by
      unfold belated
      cases observed earlier with
      | none => rfl
      | some branch => simp [windows]
    rw [hNone, hPunctual]

/-- In any run, every accepted request is noticed before the watcher writes
again, if and only if the watcher stores nothing belatedly. -/
theorem noticed_iff_punctual {settings : Settings} {s : Controller} (hInitial : s.Initial)
    {c : Configuration Response Local Controller Move} (h : (system settings).Reachable s c) :
    Noticed settings c.world.trace ↔ Punctual c.world.trace := by
  rw [noticed_iff]
  constructor
  · intro hNone history hHistory
    unfold endsBelated
    split
    · obtain ⟨later, hTrace⟩ := (List.mem_tails _ _).mp hHistory
      rw [← pending_eq_belated hInitial h hTrace.symm]
      exact hNone later _ _ hTrace.symm rfl
    · rfl
  · intro hPunctual later store earlier hTrace hStore
    obtain ⟨before, state, rfl⟩ := writes_store hStore
    rw [pending_eq_belated hInitial h hTrace]
    exact hPunctual _ ((List.mem_tails _ _).mpr ⟨later, hTrace.symm⟩)

/-- A stop scan which is asked for between two rounds is noticed. -/
theorem noticed_iff_punctual_stopScan :
    ∃ c, (system plainSettings).run ((system plainSettings).initial (switchedOn true))
      (untilIdle ++ [.move (.trigger .triggerStopScan)] ++ steps .watcher 21) = some c ∧
    c.world.state.appState = .stopScanInInitialProgress ∧ Noticed plainSettings c.world.trace := by
  have hRun : (system plainSettings).run ((system plainSettings).initial (switchedOn true))
      (untilIdle ++ [.move (.trigger .triggerStopScan)] ++ steps .watcher 21) = some _ := rfl
  have hReachable := System.Reachable.initial.run _ hRun
  exact ⟨_, hRun, rfl,
    (noticed_iff_punctual (switchedOn_initial true) hReachable).mpr (by decide +kernel)⟩

/-- With the automatic start, a stop scan which is asked for in the round of
`IDLE` never takes place. -/
theorem autostart_overwrites :
    ∃ c, (system { plainSettings with autostart := true }).Reachable (switchedOn true) c ∧
      c.world.state.appState = .startingScan ∧
      ¬Noticed { plainSettings with autostart := true } c.world.trace := by
  have hRun : (system { plainSettings with autostart := true }).run
      ((system { plainSettings with autostart := true }).initial (switchedOn true))
      (untilIdle ++ steps .watcher 9 ++ [.move (.trigger .triggerStopScan)] ++
        steps .watcher 8) = some _ := rfl
  refine ⟨_, System.Reachable.initial.run _ hRun, rfl, fun hNoticed => ?_⟩
  have hNone := noticed_iff.mp hNoticed [] _ _ rfl rfl
  revert hNone
  decide +kernel

end Mandeye.Controller
