import Mandeye.Controller.Directories
import Mandeye.Controller.Stages

/-! The confirmation of a stop. A continuous scan is only stopped by three
clicks, each in time after the one before: the deadlines are written by the
clicks and looked at by the clicks and by the watcher. -/
namespace Mandeye.Controller

open Interleaving
open StateWatcher

/-- A click on the button of the continuous scan. -/
abbrev click : Label Response Move := .move (.trigger .triggerContinousScanning)

/-- The stage was opened by a click, and has lasted since then. -/
structure Since (stage : Stage) (w : History) (start : Controller) (earlier : Trace) : Prop where
  history : ∃ between, w.trace = between ++ (start, click) :: earlier ∧
    ∀ entry ∈ between, entry.1.appState = stage.state
  source : start.appState = stage.source
  opens : stage.opens start
  deadline : w.state.deadlines stage.deadline = start.steadyClock + milliseconds 2000
  clock : start.steadyClock ≤ w.state.steadyClock

/-- Each stage has been opened by a click. -/
def Opened (w : History) : Prop :=
  ∀ stage : Stage, w.state.appState = stage.state → ∃ start earlier, Since stage w start earlier

/-- A continuous scan is under way, or its stop is being confirmed. -/
def Runs : States → Prop
  | .scanning => True
  | .stoppingStage1 => True
  | .stoppingStage2 => True
  | _ => False

def Apart (w : History) : Prop := ¬Runs w.state.appState

/-- The watcher opens no stage and leaves the deadlines of the stages alone. A
scan which is under way goes on until a request or an error ends it. -/
def stopGuarantee : WatcherRequest → History → Prop
  | .storeDeadline deadline _, _ => ∀ stage : Stage, deadline ≠ stage.deadline
  | .storeAppState state, w =>
      state = .usbIoError ∨ state = .scanning ∨ ¬Runs state ∧ Apart w
  | .stopLog, w => Apart w
  | _, _ => True

section Histories

variable {settings : Settings} {w : History} {label : Label Response Move} {s : Controller}

theorem Since.record {stage : Stage} {start : Controller} {earlier : Trace}
    (h : Since stage w start earlier) (hState : w.state.appState = stage.state)
    (hDeadline : s.deadlines stage.deadline = w.state.deadlines stage.deadline)
    (hClock : w.state.steadyClock ≤ s.steadyClock) :
    Since stage (w.record label s) start earlier where
  history := by
    obtain ⟨between, hTrace, hBetween⟩ := h.history
    refine ⟨(w.state, label) :: between, ?_, ?_⟩
    · rw [World.record, hTrace, List.cons_append]
    · exact List.forall_mem_cons.mpr ⟨hState, hBetween⟩
  source := h.source
  opens := h.opens
  deadline := hDeadline.trans h.deadline
  clock := h.clock.trans hClock

/-- Nothing has happened to the stages. -/
theorem Opened.same (h : Opened w) (hState : s.appState = w.state.appState)
    (hDeadlines : ∀ stage : Stage,
      s.deadlines stage.deadline = w.state.deadlines stage.deadline)
    (hClock : w.state.steadyClock ≤ s.steadyClock) : Opened (w.record label s) := by
  intro stage hStage
  have hBefore : w.state.appState = stage.state := hState.symm.trans hStage
  obtain ⟨start, earlier, hSince⟩ := h stage hBefore
  exact ⟨start, earlier, hSince.record hBefore (hDeadlines stage) hClock⟩

theorem opened_trigger (hClicks : settings.stopOneClick = false) (h : Opened w)
    (request : Trigger) :
    Opened (w.record (.move (.trigger request)) (w.state.trigger settings request).2) := by
  intro stage hStage
  rcases trigger_opens hClicks hStage with ⟨hBefore, hSame⟩ |
    ⟨rfl, hSource, hOpens, hDeadline, hClock⟩
  · obtain ⟨start, earlier, hSince⟩ := h stage hBefore
    refine ⟨start, earlier, hSince.record hBefore ?_ ?_⟩
    · rw [hSame]
    · rw [hSame]
  · refine ⟨w.state, w.trace, ⟨[], rfl, by simp⟩, hSource, hOpens, hDeadline, hClock.ge⟩

theorem opened_move (hClicks : settings.stopOneClick = false) {action : Move} (h : Opened w)
    (hMove : move settings action w.state = some s) : Opened (w.record (.move action) s) := by
  cases action with
  | trigger request =>
      cases hMove
      exact opened_trigger hClicks h request
  | elapse nanoseconds =>
      cases hMove
      exact h.same rfl (fun _ => rfl) (by simp)
  | _ =>
      have hPanel := move_samePanel (by simp) (by simp) hMove
      have hState : s.appState = w.state.appState := by
        rcases move_appState hMove with hSame | ⟨request, hRequest, -⟩
        · exact hSame
        · cases hRequest
      exact h.same hState (fun _ => congrFun hPanel.deadlines _) hPanel.steadyClock.ge

theorem not_stage_of_store {state : States} (hGuarantee : stopGuarantee (.storeAppState state) w)
    (stage : Stage) : state ≠ stage.state := by
  rcases hGuarantee with rfl | rfl | ⟨hRuns, -⟩
  · cases stage <;> simp [Stage.state]
  · cases stage <;> simp [Stage.state]
  · rintro rfl
    cases stage <;> exact hRuns trivial

theorem opened_watcher {request : WatcherRequest} {response : request.Response} (h : Opened w)
    (hGuarantee : stopGuarantee request w)
    (hPerform : performWatcher settings request w.state = .returns response s) :
    Opened (w.record (.statement .watcher request response) s) := by
  have hState := (performWatcher_changes hPerform).appState
  cases request with
  | storeAppState state =>
      cases hPerform
      exact fun stage hStage => absurd hStage (not_stage_of_store hGuarantee stage)
  | storeDeadline deadline time =>
      cases hPerform
      exact h.same rfl (fun stage => Function.update_of_ne (hGuarantee stage).symm _ _) le_rfl
  | _ =>
      have hPanel := performWatcher_samePanel (by simp) hPerform
      exact h.same hState (fun _ => congrFun hPanel.deadlines _) hPanel.steadyClock.ge

/-- In a stage the watcher stores nothing but `SCANNING`. -/
theorem stage_statement {stage : Stage} {request : WatcherRequest} {response : request.Response}
    (hStage : w.state.appState = stage.state) (hStop : stopGuarantee request w)
    (hStartUp : startUpGuarantee request w)
    (h : performWatcher settings request w.state = .returns response s) :
    (s.appState = w.state.appState ∧
      s.deadlines stage.deadline = w.state.deadlines stage.deadline) ∨
    s.appState = .scanning := by
  have hState := (performWatcher_changes h).appState
  cases request with
  | storeAppState state =>
      rcases hStop with rfl | rfl | ⟨-, hApart⟩
      · rcases hStartUp.2.2 with hWait | hError
        · cases stage <;> cases hStage.symm.trans hWait
        · cases stage <;> cases hStage.symm.trans hError
      · exact .inr hState
      · refine absurd ?_ hApart
        rw [hStage]
        cases stage <;> trivial
  | storeDeadline deadline time =>
      cases h
      exact .inl ⟨rfl, Function.update_of_ne (hStop stage).symm _ _⟩
  | _ => exact .inl ⟨hState, congrFun (performWatcher_samePanel (by simp) h).deadlines _⟩

end Histories

section Branches

variable (settings : Settings) (locals : Locals)

/-- The statements of a running scan, which may be performed at any time. -/
def Within : WatcherRequest → Prop
  | .storeDeadline deadline _ => ∀ stage : Stage, deadline ≠ stage.deadline
  | .storeAppState state => state = .usbIoError ∨ state = .scanning
  | .stopLog => False
  | _ => True

/-- The statements outside a continuous scan. -/
def Aside : WatcherRequest → Prop
  | .storeDeadline _ _ => False
  | .storeAppState state => ¬Runs state
  | _ => True

theorem Within.allowed {request : WatcherRequest} (h : Within request) (w : History) :
    stopGuarantee request w := by
  cases request with
  | storeDeadline deadline time => exact h
  | storeAppState state => exact h.imp_right .inl
  | stopLog => exact h.elim
  | _ => trivial

theorem Aside.allowed {request : WatcherRequest} (h : Aside request) {w : History}
    (hApart : Apart w) : stopGuarantee request w := by
  cases request with
  | storeDeadline deadline time => exact h.elim
  | storeAppState state => exact .inr (.inr ⟨h, hApart⟩)
  | stopLog => exact hApart
  | _ => trivial

theorem Working.within (request : WatcherRequest) (h : Working request) : Within request := by
  cases request with
  | storeDeadline deadline time => exact h.elim
  | storeAppState state => exact h.elim
  | stopLog => exact h.elim
  | _ => trivial

theorem Calm.within (request : WatcherRequest) (h : Calm request) : Within request :=
  h.working.within

theorem Working.aside (request : WatcherRequest) (h : Working request) : Aside request := by
  cases request with
  | storeDeadline deadline time => exact h.elim
  | storeAppState state => exact h.elim
  | _ => trivial

theorem Calm.aside (request : WatcherRequest) (h : Calm request) : Aside request :=
  h.working.aside

theorem Preparing.aside (request : WatcherRequest) (h : Preparing request) : Aside request := by
  cases request with
  | storeDeadline deadline time => exact h.elim
  | storeAppState state => exact h.elim
  | _ => trivial

theorem Requested.runs {state state' : States} (h : Requested state state') (hRuns : Runs state') :
    Runs state := by
  cases h with
  | startingScan h => exact hRuns.elim
  | startingStopScan h => exact hRuns.elim
  | _ => trivial

theorem stable_apart : WatcherStable settings stopGuarantee Apart := by
  intro w w' h hw
  obtain ⟨label, s, rfl, -, hSame | hRequested⟩ := interference_record h
  · rw [Apart, World.record, hSame]
    exact hw
  · exact fun hRuns => hw (hRequested.runs hRuns)

theorem preserves_apart (request : WatcherRequest) (h : Aside request) :
    (machine settings).Preserves (guarantee stopGuarantee) .watcher Apart request := by
  intro w hw
  refine ⟨h.allowed hw, fun response s hPerform => ?_⟩
  have hState := (performWatcher_changes hPerform).appState
  rw [Apart, World.record, hState]
  cases request with
  | storeAppState state => exact h
  | _ => exact hw

theorem stop_within {Result : Type} {code : Code Result} (hCode : code.Issues Within) :
    WatcherTriple settings stopGuarantee (fun _ => True) code fun _ _ => True :=
  Machine.Keeps.of_issues (stable_true settings stopGuarantee .watcher) <|
    hCode.mono fun _ h _ _ => ⟨h.allowed _, fun _ _ _ => trivial⟩

/-- A branch of a state in which no scan runs stays apart from it. -/
theorem stop_aside {state : States} (hState : ¬Runs state) {code : Code Locals}
    (hCode : code.Issues Aside) :
    WatcherTriple settings stopGuarantee (fun w => ¬Runs state → Apart w) code
      fun _ _ => True := by
  have hKeeps : WatcherTriple settings stopGuarantee Apart code fun _ => Apart :=
    Machine.Keeps.of_issues (stable_apart settings) (hCode.mono (preserves_apart settings))
  exact hKeeps.mono (fun _ hw => hw hState) fun _ _ _ => trivial

theorem stop_branches :
    BranchTriples settings stopGuarantee (fun state w => ¬Runs state → Apart w) locals
      fun _ _ => True := by
  have hWithin : ∀ {state : States} {code : Code Locals}, code.Issues Within →
      WatcherTriple settings stopGuarantee (fun w => ¬Runs state → Apart w) code
        fun _ _ => True := fun hCode =>
    (stop_within settings hCode).mono (fun _ _ => trivial) fun _ _ h => h
  constructor
  case usbIoError => exact hWithin (issues_usbIoError Calm.within settings locals)
  case waitForResources =>
    exact stop_aside settings id (issues_preparing Preparing.aside settings locals id)
  case idle => exact stop_aside settings id (issues_idle Calm.aside settings locals id id)
  case startingScan =>
    exact hWithin (issues_startingScan Calm.within locals trivial trivial (.inr rfl))
  case scanning =>
    intro state _
    refine hWithin (issues_scanning locals Working.within (fun _ => trivial) (.inr rfl) ?_ ?_
      fun _ => .inl rfl)
    · intro time stage
      cases stage <;> simp [Stage.deadline]
    · intro time stage
      cases stage <;> simp [Stage.deadline]
  case stopping =>
    exact stop_aside settings id (issues_stopping locals Working.aside id trivial fun _ => id)
  case startingStopScan =>
    exact stop_aside settings id (issues_startingStopScan Calm.aside locals id)
  case stopScanInInitialProgress =>
    exact stop_aside settings id
      (issues_stopScanInInitialProgress Calm.aside locals trivial trivial id)
  case stopScanInProgress =>
    exact stop_aside settings id (issues_stopScanInProgress Calm.aside locals id)
  case stopingStopScan =>
    exact stop_aside settings id
      (issues_stopingStopScan locals Working.aside id trivial fun _ => id)

end Branches

theorem stop_contract (settings : Settings) :
    (system settings).Contract (guarantee stopGuarantee) Controller.Initial
      (posts fun _ _ => True) := by
  have hTrue := stable_true settings stopGuarantee .watcher
  apply contract_of_watcher
  · intro s _
    have hCode : startUp.Issues Within :=
      issues_startUp trivial trivial (fun _ => trivial) (fun _ => trivial) (.inl rfl)
    exact (stop_within settings hCode).mono (fun _ _ => trivial) fun _ _ hw => hw
  · intro locals
    have hTests : Tests settings stopGuarantee (fun _ => True) fun state w =>
        ¬Runs state → Apart w :=
      ⟨hTrue, fun _ w w' h hw hRuns => stable_apart settings w w' h (hw hRuns),
        fun _ _ _ => trivial, fun _ _ => id, fun _ _ _ _ => trivial⟩
    have hShow := stop_within settings (calm_publishState.mono Calm.within)
    have hError : WatcherTriple settings stopGuarantee
        (fun w => ¬Runs .lidarError → Apart w) (lidarError settings) fun _ _ => True :=
      (stop_within settings ((calm_showError _ _ _ _ _).mono Calm.within)).mono
        (fun _ _ => trivial) fun _ _ hw => hw
    exact hTests.round (fun _ _ => ⟨trivial, fun _ _ _ => trivial⟩) hShow hError
      (stop_branches settings locals) (fun _ hw => hw) fun _ hw => hw

section Runs

variable {settings : Settings} {s : Controller}
  {c : Configuration Response Local Controller Move}

theorem opened (hInitial : s.Initial) (hClicks : settings.stopOneClick = false)
    (h : (system settings).Reachable s c) : Opened c.world := by
  refine (stop_contract settings).invariant hInitial ?_ ?_ ?_ h
  · intro stage hStage
    rw [hInitial.appState] at hStage
    cases stage <;> cases hStage
  · exact fun w action s' hw hMove => opened_move hClicks hw hMove
  · intro w t request response s' hw hGuarantee hPerform
    by_cases ht : t = .watcher
    · subst ht
      exact opened_watcher hw hGuarantee hPerform
    · obtain ⟨hDeadlines, hClock⟩ := perform_deadlines ht hPerform
      exact hw.same (perform_appState ht hPerform) (fun _ => congrFun hDeadlines _) hClock.ge

/-- A step out of a stage is a click in time or the watcher's way back. -/
theorem stage_step (hInitial : s.Initial) (h : (system settings).Reachable s c) {stage : Stage}
    (hStage : c.world.state.appState = stage.state) {choice : Choice Thread Move}
    {d : Configuration Response Local Controller Move}
    (hNext : (system settings).next c choice = some d) :
    (d.world.state.appState = stage.state ∧
      d.world.state.deadlines stage.deadline = c.world.state.deadlines stage.deadline) ∨
    (choice = .move (.trigger .triggerContinousScanning) ∧
      c.world.state.steadyClock < c.world.state.deadlines stage.deadline ∧
      d.world.state.appState = stage.target) ∨
    choice = .run .watcher ∧ d.world.state.appState = .scanning := by
  cases choice with
  | move action =>
      obtain ⟨s', hMove, rfl⟩ := System.next_move hNext
      rcases stage_move hStage hMove with ⟨hState, hDeadline, -⟩ | ⟨rfl, hInTime, hTarget⟩
      · exact .inl ⟨hState.trans hStage, hDeadline⟩
      · exact .inr (.inl ⟨rfl, hInTime, hTarget⟩)
  | run t =>
      rcases System.next_run hNext with ⟨locals, -, rfl⟩ |
        ⟨request, rest, response, s', hCode, hPerform, rfl⟩ | ⟨request, rest, -, -, rfl⟩
      · exact .inl ⟨hStage, rfl⟩
      · by_cases ht : t = .watcher
        · subst ht
          have hStop := (stop_contract settings).at_statement hInitial h hCode
          have hStartUp := (startUp_contract settings).at_statement hInitial h hCode
          rcases stage_statement hStage hStop hStartUp hPerform with ⟨hState, hDeadline⟩ | hBack
          · exact .inl ⟨hState.trans hStage, hDeadline⟩
          · exact .inr (.inr ⟨rfl, hBack⟩)
        · have hDeadlines := (perform_deadlines ht hPerform).1
          exact .inl ⟨(perform_appState ht hPerform).trans hStage, congrFun hDeadlines _⟩
      · exact .inl ⟨hStage, rfl⟩

/-- Which clicks came before a click that opens a stage or stops the scan. -/
theorem stage_history (hInitial : s.Initial) (hClicks : settings.stopOneClick = false)
    (h : (system settings).Reachable s c) {later earlier : Trace} {s' : Controller}
    (hTrace : c.world.trace = later ++ (s', click) :: earlier) (stage : Stage)
    (hStage : s'.appState = stage.state) :
    ∃ start first, Since stage ⟨s', earlier⟩ start first := by
  obtain ⟨d, hReachable, hWorld, -⟩ := h.history hTrace
  have hOpened := opened hInitial hClicks hReachable
  rw [hWorld] at hOpened
  exact hOpened stage hStage

/-- In a stage whose deadline has passed, a round of the watcher does not end
before the stage. -/
theorem falls_back (hInitial : s.Initial) (h : (system settings).Reachable s c) {stage : Stage}
    (hStage : c.world.state.appState = stage.state)
    (hPassed : c.world.state.deadlines stage.deadline < c.world.state.steadyClock)
    {locals : Locals} (hCode : c.code .watcher = round settings locals)
    {choices : List (Choice Thread Move)} {d : Configuration Response Local Controller Move}
    (hRun : (system settings).run c choices = some d) {locals' : Locals}
    (hEnd : d.code .watcher = .done (some locals')) : FellBack stage c.world.trace d.world := by
  have hExpired : Expired stage (c.world.state.deadlines stage.deadline) c.world.trace c.world :=
    ⟨hStage, rfl, hPassed, List.suffix_refl _⟩
  have hWp := triple_round_expired settings stage (c.world.state.deadlines stage.deadline)
    c.world.trace locals c.world hExpired
  rw [← hCode] at hWp
  rcases (clients_contract settings).after_round hInitial h (fun _ _ _ hw => hw.record) hWp hRun
    with hBack | hRest
  · exact hBack
  · rw [hEnd] at hRest
    exact hRest _ .refl (by simp)

end Runs

/-- A continuous scan is stopped by a click only if this is the third one and
each came in time after the one before. A stage whose deadline has passed
ignores all requests; the next round of the watcher goes back to `SCANNING`.
The lidar log is not stopped while a scan is under way. -/
theorem stop_confirmed {settings : Settings} {s : Controller} (hInitial : s.Initial)
    (hClicks : settings.stopOneClick = false)
    {c : Configuration Response Local Controller Move} (h : (system settings).Reachable s c) :
    (∀ later s₃ earlier, c.world.trace = later ++ (s₃, click) :: earlier →
      s₃.appState ≠ .stopping →
      (s₃.trigger settings .triggerContinousScanning).2.appState = .stopping →
      ∃ between₂ s₂ between₁ s₁ first,
        earlier = between₂ ++ (s₂, click) :: (between₁ ++ (s₁, click) :: first) ∧
        s₁.appState = .scanning ∧ (∀ entry ∈ between₁, entry.1.appState = .stoppingStage1) ∧
        s₂.appState = .stoppingStage1 ∧ (∀ entry ∈ between₂, entry.1.appState = .stoppingStage2) ∧
        s₃.appState = .stoppingStage2 ∧
        s₁.steadyClock ≤ s₂.steadyClock ∧ s₂.steadyClock < s₁.steadyClock + milliseconds 2000 ∧
        s₂.steadyClock ≤ s₃.steadyClock ∧ s₃.steadyClock < s₂.steadyClock + milliseconds 2000) ∧
    (∀ stage : Stage, c.world.state.appState = stage.state →
      (c.world.state.deadlines stage.deadline ≤ c.world.state.steadyClock →
        ∀ request, (c.world.state.trigger settings request).2 = c.world.state) ∧
      (∀ choice d, (system settings).next c choice = some d →
        (d.world.state.appState = stage.state ∧
          d.world.state.deadlines stage.deadline = c.world.state.deadlines stage.deadline) ∨
        (choice = .move (.trigger .triggerContinousScanning) ∧
          c.world.state.steadyClock < c.world.state.deadlines stage.deadline ∧
          d.world.state.appState = stage.target) ∨
        choice = .run .watcher ∧ d.world.state.appState = .scanning) ∧
      (∀ locals, c.code .watcher = round settings locals →
        c.world.state.deadlines stage.deadline < c.world.state.steadyClock →
        ∀ choices d, (system settings).run c choices = some d →
          ∀ locals', d.code .watcher = .done (some locals') →
            FellBack stage c.world.trace d.world)) ∧
    ∀ later before response earlier,
      c.world.trace = later ++ (before, .statement .watcher .stopLog response) :: earlier →
        ¬Runs before.appState := by
  refine ⟨?_, ?_, ?_⟩
  · intro later s₃ earlier hTrace hBefore hStops
    obtain ⟨hStage2, hInTime₂⟩ := click_stops hClicks hBefore hStops
    obtain ⟨s₂, earlier₂, hSince₂⟩ := stage_history hInitial hClicks h hTrace .stage2 hStage2
    obtain ⟨between₂, rfl, hBetween₂⟩ := hSince₂.history
    have hTrace₂ : c.world.trace =
        (later ++ (s₃, click) :: between₂) ++ (s₂, click) :: earlier₂ := by
      rw [hTrace, List.append_assoc, List.cons_append]
    obtain ⟨s₁, first, hSince₁⟩ :=
      stage_history hInitial hClicks h hTrace₂ .stage1 hSince₂.source
    obtain ⟨between₁, rfl, hBetween₁⟩ := hSince₁.history
    refine ⟨between₂, s₂, between₁, s₁, first, rfl, hSince₁.source, hBetween₁, hSince₂.source,
      hBetween₂, hStage2, hSince₁.clock, ?_, hSince₂.clock, ?_⟩
    · rw [← hSince₁.deadline]
      exact hSince₂.opens
    · rw [← hSince₂.deadline]
      exact hInTime₂
  · intro stage hStage
    refine ⟨trigger_expired hStage, fun choice d => stage_step hInitial h hStage, ?_⟩
    intro locals hCode hPassed choices d hRun locals' hEnd
    exact falls_back hInitial h hStage hPassed hCode hRun hEnd
  · intro later before response earlier hTrace
    exact (stop_contract settings).recorded hInitial h hTrace

/-- Three clicks, one second apart. -/
def threeClicks : List (Choice Thread Move) :=
  [.move (.trigger .triggerContinousScanning), .move (.elapse 1000000000),
    .move (.trigger .triggerContinousScanning), .move (.elapse 1000000000),
    .move (.trigger .triggerContinousScanning)]

theorem stop_confirmed_threeClicks :
    ∃ c s₃ earlier, (system plainSettings).run ((system plainSettings).initial (switchedOn true))
      (scanStartedBy .triggerContinousScanning ++ threeClicks) = some c ∧
    c.world.trace = (s₃, click) :: earlier ∧ c.world.state.appState = .stopping ∧
    ∃ between₂ s₂ between₁ s₁ first,
      earlier = between₂ ++ (s₂, click) :: (between₁ ++ (s₁, click) :: first) ∧
      s₁.appState = .scanning ∧ (∀ entry ∈ between₁, entry.1.appState = .stoppingStage1) ∧
      s₂.appState = .stoppingStage1 ∧ (∀ entry ∈ between₂, entry.1.appState = .stoppingStage2) ∧
      s₃.appState = .stoppingStage2 ∧
      s₁.steadyClock ≤ s₂.steadyClock ∧ s₂.steadyClock < s₁.steadyClock + milliseconds 2000 ∧
      s₂.steadyClock ≤ s₃.steadyClock ∧ s₃.steadyClock < s₂.steadyClock + milliseconds 2000 := by
  have hStopped : ∃ c s₃ earlier,
      (system plainSettings).run ((system plainSettings).initial (switchedOn true))
        (scanStartedBy .triggerContinousScanning ++ threeClicks) = some c ∧
      c.world.trace = (s₃, click) :: earlier ∧ c.world.state.appState = .stopping ∧
      s₃.appState = .stoppingStage2 ∧
      (s₃.trigger plainSettings .triggerContinousScanning).2.appState = .stopping :=
    ⟨_, _, _, rfl, rfl, rfl, rfl, rfl⟩
  obtain ⟨c, s₃, earlier, hRun, hTrace, hState, hBefore, hStops⟩ := hStopped
  have hReachable := System.Reachable.initial.run _ hRun
  refine ⟨c, s₃, earlier, hRun, hTrace, hState, ?_⟩
  have hConfirmed := stop_confirmed (switchedOn_initial true) rfl hReachable
  refine hConfirmed.1 [] s₃ earlier hTrace ?_ hStops
  rw [hBefore]
  decide

end Mandeye.Controller
