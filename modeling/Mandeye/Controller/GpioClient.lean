import Mandeye.Controller.Rounds

/-! The pointer to the hardware. It is null until the GPIO thread has created
the client, and most of the watcher uses it without a test: it relies on the
states which can be reached without it. -/
namespace Mandeye.Controller

open Interleaving
open StateWatcher

/-- The statements which call a method through `gpioClientPtr`. -/
def UsesGpio : WatcherRequest → Prop
  | .setLed _ _ => True
  | .beep _ => True
  | _ => False

/-- The latest statement of the watcher has found `WAIT_FOR_RESOURCES`. -/
def entersWaiting : Trace → Bool
  | [] => false
  | (_, .statement .watcher (.testAppState .waitForResources) found) :: _ => found
  | (_, .statement .watcher _ _) :: _ => false
  | _ :: earlier => entersWaiting earlier

/-- The beep at the beginning of `WAIT_FOR_RESOURCES` comes before the client. -/
structure Hasty (settings : Settings) (w : History) : Prop where
  buzzer : settings.disableBuzzer = false
  enters : entersWaiting w.trace = true
  noClient : w.state.gpioClientPtr = false

/-- The pointer is only used when it is set or in haste, and nothing else is
done in haste. -/
def gpioGuarantee (settings : Settings) (request : WatcherRequest) (w : History) : Prop :=
  (UsesGpio request → w.state.gpioClientPtr = true ∨ Hasty settings w) ∧
    (Hasty settings w → ∃ durations, request = .beep durations)

section Steps

variable {settings : Settings} {s s' : Controller}

theorem performWatcher_gpioClientPtr {request : WatcherRequest} {response : request.Response}
    (h : performWatcher settings request s = .returns response s') :
    s'.gpioClientPtr = s.gpioClientPtr := by
  cases request with
  | storeDeadline deadline time =>
      cases h
      rfl
  | _ => exact (performWatcher_samePanel (by simp) h).gpioClientPtr

/-- Whatever happens, the client stays once it is there. -/
theorem perform_gpioClientPtr {t : Thread} {request : Request t} {response : Response t request}
    (h : (machine settings).perform t request s = .returns response s')
    (hReady : s.gpioClientPtr = true) : s'.gpioClientPtr = true := by
  cases t with
  | watcher => exact (performWatcher_gpioClientPtr h).trans hReady
  | livox => exact (performLivox_samePanel h).gpioClientPtr.trans hReady
  | gnss => exact (performGnss_samePanel h).gpioClientPtr.trans hReady
  | gpio =>
      by_cases hRequest : request = .createGpioClient
      · subst hRequest
        cases h
        rfl
      · exact (performGpio_samePanel hRequest h).gpioClientPtr.trans hReady

theorem move_gpioClientPtr {action : Move} (h : move settings action s = some s') :
    s'.gpioClientPtr = s.gpioClientPtr := by
  cases action with
  | trigger request =>
      cases h
      exact trigger_gpioClientPtr request
  | elapse nanoseconds =>
      cases h
      rfl
  | _ => exact (move_samePanel (by simp) (by simp) h).gpioClientPtr

end Steps

section Assertions

def Ready (w : History) : Prop := w.state.gpioClientPtr = true

/-- The states in which the client may be missing. No request leaves them. -/
def Waiting (state : States) : Prop := state = .waitForResources ∨ state = .usbIoError

structure Early (w : History) : Prop where
  waiting : Waiting w.state.appState
  enters : entersWaiting w.trace = false

/-- What holds between two rounds. -/
def Known (w : History) : Prop := Ready w ∨ Early w

/-- In the branch of this state. -/
def Branch (state : States) (w : History) : Prop :=
  Ready w ∨ w.state.appState = state ∧
    (state = .waitForResources ∧ entersWaiting w.trace = true ∨ state = .usbIoError ∧ Early w)

variable {settings : Settings} {w w' : History} {label : Label Response Move} {s : Controller}

theorem Known.not_hasty (h : Known w) : ¬Hasty settings w := by
  rintro ⟨-, hEnters, hNone⟩
  rcases h with hReady | hEarly
  · rw [Ready, hNone] at hReady
    cases hReady
  · rw [hEarly.enters] at hEnters
    cases hEnters

theorem Ready.allowed (h : Ready w) (request : WatcherRequest) :
    gpioGuarantee settings request w :=
  ⟨fun _ => .inl h, fun hHasty => absurd hHasty (Known.not_hasty (.inl h))⟩

theorem Known.allowed (h : Known w) {request : WatcherRequest} (hRequest : ¬UsesGpio request) :
    gpioGuarantee settings request w :=
  ⟨fun hUses => absurd hUses hRequest, fun hHasty => absurd hHasty h.not_hasty⟩

theorem Waiting.requested {state state' : States} (h : Waiting state) :
    ¬Requested state state' := by
  intro hRequested
  obtain ⟨hWait, hError, -⟩ := hRequested.permanent
  exact h.elim hWait hError

theorem entersWaiting_other (h : ¬ByWatcher label) :
    entersWaiting (w.record label s).trace = entersWaiting w.trace := by
  cases label, h using not_byWatcher_cases with
  | move action => rfl
  | livox request response => rfl
  | gpio request response => rfl
  | gnss request response => rfl

theorem entersWaiting_statement {request : WatcherRequest} {response : request.Response}
    (hRequest : request ≠ .testAppState .waitForResources) :
    entersWaiting (w.record (.statement .watcher request response) s).trace = false := by
  cases request with
  | testAppState state =>
      cases state with
      | waitForResources => exact absurd rfl hRequest
      | _ => rfl
  | _ => rfl

theorem interference_gpio
    (h : (machine settings).Interference (guarantee (gpioGuarantee settings)) .watcher w w') :
    (Ready w → Ready w') ∧ entersWaiting w'.trace = entersWaiting w.trace ∧
      (Waiting w.state.appState → w'.state.appState = w.state.appState) := by
  obtain ⟨label, s, rfl, hLabel, hState⟩ := interference_record h
  refine ⟨fun hReady => ?_, entersWaiting_other hLabel, fun hWaiting => ?_⟩
  · generalize hAfter : w.record label s = after at h
    cases h with
    | move hMove =>
        cases hAfter
        exact (move_gpioClientPtr hMove).trans hReady
    | statement hOther hGuarantee hPerform =>
        cases hAfter
        exact perform_gpioClientPtr hPerform hReady
  · exact hState.resolve_right hWaiting.requested

variable (settings)

theorem stable_ready : WatcherStable settings (gpioGuarantee settings) Ready :=
  fun _ _ h hw => (interference_gpio h).1 hw

theorem stable_early : WatcherStable settings (gpioGuarantee settings) Early := by
  intro w w' h hw
  obtain ⟨-, hEnters, hState⟩ := interference_gpio h
  constructor
  · rw [hState hw.waiting]
    exact hw.waiting
  · exact hEnters.trans hw.enters

theorem stable_known : WatcherStable settings (gpioGuarantee settings) Known :=
  (stable_ready settings).or (stable_early settings)

theorem stable_branch (state : States) :
    WatcherStable settings (gpioGuarantee settings) (Branch state) := by
  apply (stable_ready settings).or
  rintro w w' h ⟨rfl, hBranch⟩
  obtain ⟨-, hEnters, hState⟩ := interference_gpio h
  rcases hBranch with ⟨hWait, hEntered⟩ | ⟨hError, hEarly⟩
  · exact ⟨hState (.inl hWait), .inl ⟨hWait, hEnters.trans hEntered⟩⟩
  · exact ⟨hState (.inr hError), .inr ⟨hError, stable_early settings _ _ h hEarly⟩⟩

/-- With the client there every statement is allowed. -/
theorem keeps_ready {Result : Type} (code : Code Result) :
    WatcherTriple settings (gpioGuarantee settings) Ready code fun _ => Ready :=
  Machine.Keeps.of_issues (stable_ready settings) <| .of_forall code fun request _ hw =>
    ⟨hw.allowed request, fun _ _ hPerform => perform_gpioClientPtr (t := .watcher) hPerform hw⟩

/-- The statements which are allowed without the client and do not look at the
state. A store has to name a state which is possible then. -/
def Unplugged : WatcherRequest → Prop
  | .setLed _ _ => False
  | .beep _ => False
  | .testAppState _ => False
  | .storeAppState state => state = .usbIoError
  | _ => True

theorem preserves_known (request : WatcherRequest) (hRequest : Unplugged request) :
    (machine settings).Preserves (guarantee (gpioGuarantee settings)) .watcher Known request := by
  have hUses : ¬UsesGpio request := by
    cases request with
    | setLed led state => exact hRequest.elim
    | beep durations => exact hRequest.elim
    | _ => exact id
  have hTest : request ≠ .testAppState .waitForResources := by
    rintro rfl
    exact hRequest
  refine fun w hw => ⟨hw.allowed hUses, fun response s hPerform => ?_⟩
  rcases hw with hReady | hEarly
  · exact .inl (perform_gpioClientPtr (t := .watcher) hPerform hReady)
  · refine .inr ⟨?_, entersWaiting_statement hTest⟩
    rcases performWatcher_appState hPerform with hSame | hStore
    · exact hSame ▸ hEarly.waiting
    · rw [hStore] at hRequest
      exact .inr hRequest

theorem keeps_known {Result : Type} {code : Code Result} (hCode : code.Issues Unplugged) :
    WatcherTriple settings (gpioGuarantee settings) Known code fun _ => Known :=
  Machine.Keeps.of_issues (stable_known settings) (hCode.mono (preserves_known settings))

end Assertions

section Branches

variable (settings : Settings) (locals : Locals)

theorem tests_known : Tests settings (gpioGuarantee settings) Known Branch where
  stable := stable_known settings
  entered := stable_branch settings
  allowed _ _ hw := hw.allowed id
  found w hw := by
    rcases hw with hReady | ⟨hWait | hError, hEnters⟩
    · exact .inl hReady
    · exact .inr ⟨rfl, .inl ⟨hWait, by rw [hWait]; rfl⟩⟩
    · exact .inr ⟨rfl, .inr ⟨hError, ⟨.inr hError, by rw [hError]; rfl⟩⟩⟩
  notFound state w hw _ := by
    rcases hw with hReady | hEarly
    · exact .inl hReady
    · refine .inr ⟨hEarly.waiting, ?_⟩
      cases state <;> rfl

theorem triple_isSet_gpioClientPtr :
    WatcherTriple settings (gpioGuarantee settings) Known (call (.isSet .gpioClientPtr))
      fun isSet w => if isSet = true then Ready w else Known w := by
  apply Machine.Triple.perform (stable_known settings)
  · intro isSet
    cases isSet with
    | false => exact stable_known settings
    | true => exact stable_ready settings
  · exact fun w hw => hw.allowed id
  · intro w isSet s hw hPerform
    have hPreserves := preserves_known settings (.isSet .gpioClientPtr) trivial w hw
    have hKnown := hPreserves.2 isSet s hPerform
    cases isSet with
    | false => exact hKnown
    | true =>
        have hReturns : Outcome.returns w.state.gpioClientPtr w.state = .returns true s := hPerform
        injection hReturns with hSet hSame
        exact hSame ▸ hSet

/-- Code which is only executed with the client there. -/
theorem triple_when_ready {condition : Bool} {body : Code Unit} :
    WatcherTriple settings (gpioGuarantee settings)
      (fun w => if condition = true then Ready w else Known w) (.when condition body)
      fun _ => Known := by
  cases condition with
  | false => exact triple_return () (stable_known settings) fun _ hw => hw
  | true => exact (keeps_ready settings body).mono (fun _ hw => hw) fun _ _ hw => .inl hw

theorem known_showError (stopScan copyData continousScanning : Bool) (lastBeep : Nat) :
    WatcherTriple settings (gpioGuarantee settings) Known
      (showError settings stopScan copyData continousScanning lastBeep) fun _ => Known :=
  (triple_isSet_gpioClientPtr settings).bind fun _ => triple_when_ready settings

theorem known_publishState :
    WatcherTriple settings (gpioGuarantee settings) Known publishState fun _ => Known := by
  apply keeps_known
  refine .bind (.perform trivial) fun _ => .bind (.when ?_) fun _ => ?_
  · exact .bind (.perform trivial) fun _ => .perform trivial
  · exact .bind (.perform trivial) fun _ => .perform trivial

/-- The beep returns if the client is there. -/
theorem triple_firstBeep :
    WatcherTriple settings (gpioGuarantee settings) (Branch .waitForResources)
      (.when (!settings.disableBuzzer) (call (.beep [10])))
      fun _ w => if settings.disableBuzzer then Branch .waitForResources w else Ready w := by
  have hStable := stable_branch settings .waitForResources
  cases hBuzzer : settings.disableBuzzer with
  | true => exact triple_return () hStable fun _ hw => hw
  | false =>
      apply Machine.Triple.perform hStable fun _ => stable_ready settings
      · intro w hw
        refine ⟨fun _ => ?_, fun _ => ⟨[10], rfl⟩⟩
        cases hClient : w.state.gpioClientPtr with
        | true => exact .inl rfl
        | false =>
            rcases hw with hReady | ⟨-, ⟨-, hEnters⟩ | ⟨hOther, -⟩⟩
            · rw [Ready, hClient] at hReady
              cases hReady
            · exact .inr ⟨hBuzzer, hEnters, hClient⟩
            · cases hOther
      · intro w response s hw hPerform
        have hReturns : w.state.withGpio = .returns response s := hPerform
        unfold withGpio at hReturns
        split_ifs at hReturns with hReady
        cases hReturns
        exact hReady

/-- After the pause the watcher no longer has just entered the branch. -/
theorem triple_firstSleep :
    WatcherTriple settings (gpioGuarantee settings)
      (fun w => if settings.disableBuzzer then Branch .waitForResources w else Ready w)
      (call (.sleepFor 100)) fun _ => Known := by
  cases hBuzzer : settings.disableBuzzer with
  | false => exact (keeps_ready settings _).mono (fun _ hw => hw) fun _ _ hw => .inl hw
  | true =>
      apply Machine.Triple.perform (stable_branch settings .waitForResources)
        fun _ => stable_known settings
      · intro w hw
        refine ⟨fun hUses => hUses.elim, fun hHasty => ?_⟩
        have hOn := hHasty.buzzer
        rw [hBuzzer] at hOn
        cases hOn
      · intro w response s hw hPerform
        cases hPerform
        rcases hw with hReady | ⟨hState, -⟩
        · exact .inl hReady
        · exact .inr ⟨.inl hState, rfl⟩

theorem known_waitForResources :
    WatcherTriple settings (gpioGuarantee settings) (Branch .waitForResources)
      (waitForResources settings locals) fun _ => Known := by
  have hKnown : ∀ (request : WatcherRequest), Unplugged request →
      WatcherTriple settings (gpioGuarantee settings) Known (call request) fun _ => Known :=
    fun _ h => keeps_known settings (.perform h)
  have hSync : WatcherTriple settings (gpioGuarantee settings) Known
      (.when settings.waitForLidarSync waitForLidarSync) fun _ => Known := by
    apply keeps_known
    apply Program.Issues.when
    exact .bind (issues_isLidarSynced trivial trivial trivial 60) fun _ =>
      .when (.perform trivial)
  have hFileSystem : ∀ gpioClient, WatcherTriple settings (gpioGuarantee settings)
      (fun w => if gpioClient = true then Ready w else Known w)
      (andAlso gpioClient (call (.isSet .fileSystemClientPtr)))
      fun fileSystemClient w => if fileSystemClient = true then Ready w else Known w := by
    intro gpioClient
    cases gpioClient with
    | false => exact triple_return false (stable_known settings) fun _ hw => hw
    | true =>
        apply (keeps_ready settings _).mono fun _ hw => hw
        intro fileSystemClient w hw
        cases fileSystemClient with
        | false => exact .inl hw
        | true => exact hw
  refine (triple_firstBeep settings).bind fun _ => (triple_firstSleep settings).bind fun _ => ?_
  refine (hKnown (.lock .livoxClientPtrLock) trivial).bind fun _ => ?_
  refine (hKnown (.lock .gpioClientPtrLock) trivial).bind fun _ => hSync.bind fun _ => ?_
  refine (triple_isSet_gpioClientPtr settings).bind fun gpioClient => ?_
  refine (hFileSystem gpioClient).bind fun fileSystemClient => ?_
  refine (triple_when_ready settings).bind fun _ => ?_
  refine (hKnown (.isSet .publisherPtr) trivial).bind fun publisher => ?_
  apply keeps_known
  refine .bind (.when (.perform trivial)) fun _ => .bind (.perform trivial) fun _ => ?_
  exact .bind (.perform trivial) fun _ => .done

/-- A branch which is only entered with the client there. -/
theorem known_of_ready {state : States} (hState : ¬Waiting state) (code : Code Locals) :
    WatcherTriple settings (gpioGuarantee settings) (Branch state) code fun _ => Known := by
  apply (keeps_ready settings code).mono
  · intro w hw
    rcases hw with hReady | ⟨-, ⟨hWait, -⟩ | ⟨hError, -⟩⟩
    · exact hReady
    · exact absurd (.inl hWait) hState
    · exact absurd (.inr hError) hState
  · exact fun _ _ hw => .inl hw

theorem known_branches :
    BranchTriples settings (gpioGuarantee settings) Branch locals fun _ => Known := by
  have hReady : ∀ {state : States}, state ≠ .waitForResources ∧ state ≠ .usbIoError →
      ∀ code : Code Locals, WatcherTriple settings (gpioGuarantee settings) (Branch state) code
        fun _ => Known := by
    intro state hState code
    apply known_of_ready
    rintro (hWait | hError)
    · exact hState.1 hWait
    · exact hState.2 hError
  constructor
  case usbIoError =>
    have hShow := known_showError settings false true false 5000
    refine (hShow.mono ?_ fun _ _ hw => hw).bind fun _ =>
      triple_return locals (stable_known settings) fun _ hw => hw
    rintro w (hReady | ⟨-, ⟨hOther, -⟩ | ⟨-, hEarly⟩⟩)
    · exact .inl hReady
    · cases hOther
    · exact .inr hEarly
  case waitForResources => exact known_waitForResources settings locals
  case scanning =>
    rintro state (rfl | rfl | rfl)
    · exact hReady (by simp) _
    · exact hReady (by simp) _
    · exact hReady (by simp) _
  all_goals exact hReady (by simp) _

end Branches

theorem gpio_contract (settings : Settings) :
    (system settings).Contract (guarantee (gpioGuarantee settings)) Controller.Initial
      (posts fun _ => Known) := by
  apply contract_of_watcher
  · intro s hInitial
    have hCode : startUp.Issues Unplugged :=
      issues_startUp trivial trivial (fun _ => trivial) (fun _ => trivial) rfl
    apply (keeps_known settings hCode).mono
    · rintro w rfl
      exact .inr ⟨.inl hInitial.appState, rfl⟩
    · exact fun _ _ hw => hw
  · intro locals
    have hRunning := preserves_known settings .isRunning trivial
    have hError : WatcherTriple settings (gpioGuarantee settings) (Branch .lidarError)
        (lidarError settings) fun _ => Known := by
      apply (keeps_ready settings (lidarError settings)).mono
      · rintro w (hReady | ⟨-, ⟨hOther, -⟩ | ⟨hOther, -⟩⟩)
        · exact hReady
        · cases hOther
        · cases hOther
      · exact fun _ _ hw => .inl hw
    exact (tests_known settings).round hRunning (known_publishState settings) hError
      (known_branches settings locals) (fun _ hw => hw) fun _ hw => hw

/-- The watcher calls no method through a null `gpioClientPtr`, unless it is
about to beep at the beginning of `WAIT_FOR_RESOURCES` without the client. -/
theorem gpioClient_used_iff {settings : Settings} {s : Controller} (hInitial : s.Initial)
    {c : Configuration Response Local Controller Move} (h : (system settings).Reachable s c) :
    (∀ request rest, c.code .watcher = .call request rest → UsesGpio request →
      c.world.state.gpioClientPtr = true) ↔ ¬Hasty settings c.world := by
  have hContract := gpio_contract settings
  constructor
  · intro hUses hHasty
    cases hCode : c.code .watcher with
    | done result => exact Known.not_hasty (hContract.at_end hInitial h hCode) hHasty
    | call request rest =>
        obtain ⟨durations, hBeep⟩ := (hContract.at_statement hInitial h hCode).2 hHasty
        have hReady := hUses request rest hCode (by rw [hBeep]; trivial)
        rw [hHasty.noClient] at hReady
        cases hReady
  · intro hNotHasty request rest hCode hUses
    exact ((hContract.at_statement hInitial h hCode).1 hUses).resolve_right hNotHasty

def buzzerSettings : Settings := { plainSettings with disableBuzzer := false }

/-- With the client there the buzzer is used safely. -/
theorem gpioClient_used_iff_ready :
    ∃ c rest, (system buzzerSettings).run ((system buzzerSettings).initial (switchedOn true))
      (steps .gpio 39 ++ steps .watcher 14) = some c ∧
    c.code .watcher = .call (.beep [10]) rest ∧ c.world.state.gpioClientPtr = true := by
  have hRun : (system buzzerSettings).run ((system buzzerSettings).initial (switchedOn true))
      (steps .gpio 39 ++ steps .watcher 14) = some _ := rfl
  have hReachable := System.Reachable.initial.run _ hRun
  refine ⟨_, _, hRun, rfl, ?_⟩
  apply (gpioClient_used_iff (switchedOn_initial true) hReachable).mpr
  · rintro ⟨-, -, hNone⟩
    cases hNone
  · rfl
  · trivial

/-- The watcher is ready before the GPIO thread. -/
theorem null_gpioClient_beeps :
    ∃ c rest, (system buzzerSettings).Reachable (switchedOn true) c ∧
      c.code .watcher = .call (.beep [10]) rest ∧ c.world.state.gpioClientPtr = false := by
  have hRun : (system buzzerSettings).run ((system buzzerSettings).initial (switchedOn true))
      (steps .watcher 14) = some _ := rfl
  exact ⟨_, _, System.Reachable.initial.run _ hRun, rfl, rfl⟩

end Mandeye.Controller
