import Mandeye.Controller.LidarLogs
import Mandeye.Controller.Walk

/-! The times of a stop scan. A request opens it, and from then on nothing but
the watcher moves `app_state` until the scan has been saved; two deadlines, both
set when the watcher notices the request, say when it goes on. This is so because
a request tests and stores in one step and is refused in the states of a scan. -/
namespace Mandeye.Controller

open Interleaving
open StateWatcher

section Clock

variable {settings : Settings} {s s' : Controller}

/-- To read the clock takes no time. -/
theorem performWatcher_steadyClock {request : WatcherRequest} {response : request.Response}
    (h : performWatcher settings request s = .returns response s') :
    s'.steadyClock = s.steadyClock := by
  cases request with
  | storeDeadline deadline time =>
      cases h
      rfl
  | _ => exact (performWatcher_samePanel (by simp) h).steadyClock

/-- Nor does any other statement. -/
theorem perform_steadyClock {t : Thread} {request : Request t} {response : Response t request}
    (h : (machine settings).perform t request s = .returns response s') :
    s'.steadyClock = s.steadyClock := by
  cases t with
  | watcher => exact performWatcher_steadyClock h
  | livox => exact (performLivox_samePanel h).steadyClock
  | gpio =>
      by_cases hRequest : request = .createGpioClient
      · subst hRequest
        cases h
        rfl
      · exact (performGpio_samePanel hRequest h).steadyClock
  | gnss => exact (performGnss_samePanel h).steadyClock

/-- A request comes at an instant. -/
theorem trigger_steadyClock (request : Trigger) :
    (s.trigger settings request).2.steadyClock = s.steadyClock := by
  cases request with
  | startScan => simp only [trigger, startScan]; split_ifs <;> rfl
  | stopScan => simp only [trigger, stopScan]; split_ifs <;> rfl
  | triggerStopScan => simp only [trigger, triggerStopScan]; split_ifs <;> rfl
  | triggerContinousScanning =>
      simp only [trigger, triggerContinousScanning]
      split_ifs <;> rfl

/-- Time passes forwards. -/
theorem move_steadyClock {action : Move} (h : move settings action s = some s') :
    s.steadyClock ≤ s'.steadyClock := by
  cases action with
  | trigger request =>
      cases h
      exact (trigger_steadyClock request).ge
  | elapse nanoseconds =>
      cases h
      change s.steadyClock ≤ s.steadyClock + nanoseconds
      omega
  | _ => exact (move_samePanel (by simp) (by simp) h).steadyClock.ge

/-- The clock never goes back. -/
theorem interference_steadyClock {g : WatcherRequest → History → Prop} {w w' : History}
    (h : (machine settings).Interference (guarantee g) .watcher w w') :
    w.state.steadyClock ≤ w'.state.steadyClock := by
  rcases h with hMove | ⟨-, -, hPerform⟩
  · exact move_steadyClock hMove
  · exact (perform_steadyClock hPerform).ge

/-- The clock has reached a time. -/
def Past (time : Int) (w : History) : Prop := time ≤ w.state.steadyClock

/-- What is past remains so. -/
theorem stable_past {g : WatcherRequest → History → Prop} (time : Int) :
    WatcherStable settings g (Past time) :=
  fun _ _ h hw => le_trans hw (interference_steadyClock h)

end Clock

/-- The states of a stop scan, in their order. -/
def InStopScan (state : States) : Prop :=
  state = .startingStopScan ∨ state = .stopScanInInitialProgress ∨
    state = .stopScanInProgress ∨ state = .stopingStopScan

/-- Histories which end in a stop scan that was asked for at time `t₀`, with the
state which it has reached. The lidar log is started five seconds after the
request at the earliest, and the scan ends more than thirty-five seconds after
it. -/
inductive StopScan (t₀ : Int) : States → Trace → Prop where
  | requested {before : Controller} {earlier : Trace} (hClock : before.steadyClock = t₀)
      (hState : before.appState = .idle ∨ before.appState = .stopped) :
      StopScan t₀ .startingStopScan ((before, .move (.trigger .triggerStopScan)) :: earlier)
  | waits {before : Controller} {earlier : Trace} (h : StopScan t₀ .startingStopScan earlier) :
      StopScan t₀ .stopScanInInitialProgress
        ((before, .statement .watcher (.storeAppState .stopScanInInitialProgress) ()) :: earlier)
  | runs {before : Controller} {earlier : Trace}
      (hClock : t₀ + milliseconds 5000 ≤ before.steadyClock)
      (h : StopScan t₀ .stopScanInInitialProgress earlier) :
      StopScan t₀ .stopScanInProgress
        ((before, .statement .watcher (.storeAppState .stopScanInProgress) ()) :: earlier)
  | ends {before : Controller} {earlier : Trace}
      (hClock : t₀ + milliseconds 35000 < before.steadyClock)
      (h : StopScan t₀ .stopScanInProgress earlier) :
      StopScan t₀ .stopingStopScan
        ((before, .statement .watcher (.storeAppState .stopingStopScan) ()) :: earlier)
  | stays {before : Controller} {label : Label Response Move} {earlier : Trace} {state : States}
      (hState : before.appState = state)
      (hStartLog : label = .statement .watcher .startLog () →
        t₀ + milliseconds 5000 ≤ before.steadyClock)
      (h : StopScan t₀ state earlier) : StopScan t₀ state ((before, label) :: earlier)

/-- The watcher is in this state of a stop scan, and its request was made at a
time which satisfies `A`. -/
structure Scan (state : States) (A : Int → Prop) (w : History) : Prop where
  reached : w.state.appState = state
  requested : ∃ t₀ ≤ w.state.steadyClock, StopScan t₀ state w.trace ∧ A t₀

/-- The statements which move a stop scan on. -/
def stopScanGuarantee : WatcherRequest → History → Prop
  | .storeAppState .startingStopScan, _ => False
  | .storeAppState .stopScanInInitialProgress, w => Scan .startingStopScan (fun _ => True) w
  | .storeAppState .stopScanInProgress, w =>
      Scan .stopScanInInitialProgress (fun t₀ => t₀ + milliseconds 5000 ≤ w.state.steadyClock) w
  | .storeAppState .stopingStopScan, w =>
      Scan .stopScanInProgress (fun t₀ => t₀ + milliseconds 35000 < w.state.steadyClock) w
  | .startLog, w => InStopScan w.state.appState →
      Scan .stopScanInInitialProgress (fun t₀ => t₀ + milliseconds 5000 ≤ w.state.steadyClock) w
  | _, _ => True

/-- What the deadlines of the watcher are worth in a state. -/
def Scheduled (locals : Locals) : States → Int → Prop
  | .stopScanInInitialProgress, t₀ => t₀ + milliseconds 5000 ≤ locals.stopScanInitialDeadline ∧
      t₀ + milliseconds 35000 ≤ locals.stopScanDeadline
  | .stopScanInProgress, t₀ => t₀ + milliseconds 35000 ≤ locals.stopScanDeadline
  | _, _ => True

/-- Every stop scan has been asked for, at a time which satisfies `B`. -/
def Followed (B : States → Int → Prop) (w : History) : Prop :=
  InStopScan w.state.appState → Scan w.state.appState (B w.state.appState) w

/-- Between two rounds. -/
abbrev OnSchedule (locals : Locals) : History → Prop := Followed (Scheduled locals)

section Assertions

variable {settings : Settings} {w w' : History} {state : States} {A B : Int → Prop}
  {label : Label Response Move} {s : Controller}

/-- A stop scan refuses all requests. -/
theorem InStopScan.not_requested {state' : States} (h : InStopScan state) :
    ¬Requested state state' := by
  intro hRequested
  have hSource := hRequested.source
  rcases h with rfl | rfl | rfl | rfl <;> simp at hSource

/-- The only request which leads into a stop scan opens one. -/
theorem Requested.inStopScan {state' : States} (h : Requested state state')
    (hState : InStopScan state') : state' = .startingStopScan := by
  cases h with
  | startingStopScan h => rfl
  | _ => rcases hState with hState | hState | hState | hState <;> cases hState

/-- No request opens a stop scan but the one for it. -/
theorem trigger_startingStopScan {request : Trigger} (hOther : s.appState ≠ .startingStopScan)
    (h : (s.trigger settings request).2.appState = .startingStopScan) :
    request = .triggerStopScan ∧ (s.appState = .idle ∨ s.appState = .stopped) := by
  cases request with
  | startScan =>
      simp only [trigger, startScan] at h
      split_ifs at h
      exact absurd h hOther
  | stopScan =>
      simp only [trigger, stopScan] at h
      split_ifs at h
      exact absurd h hOther
  | triggerStopScan =>
      simp only [trigger, triggerStopScan] at h
      split_ifs at h with hIdle
      · exact ⟨rfl, hIdle⟩
      · exact absurd h hOther
  | triggerContinousScanning =>
      simp only [trigger, triggerContinousScanning] at h
      split_ifs at h
      all_goals first | cases h | exact absurd h hOther

/-- Less may be said of the time of the request. -/
theorem Scan.mono (h : Scan state A w) (hA : ∀ t₀, A t₀ → B t₀) : Scan state B w := by
  obtain ⟨hReached, t₀, hClock, hScan, hHolds⟩ := h
  exact ⟨hReached, t₀, hClock, hScan, hA t₀ hHolds⟩

/-- The scan goes on in its state, with anything but the start of the log. -/
theorem Scan.stays (h : Scan state A w) (hLabel : label ≠ .statement .watcher .startLog ())
    (hState : s.appState = w.state.appState) (hClock : w.state.steadyClock ≤ s.steadyClock) :
    Scan state A (w.record label s) := by
  obtain ⟨hReached, t₀, hBefore, hScan, hHolds⟩ := h
  refine ⟨hState.trans hReached, t₀, hBefore.trans hClock, ?_, hHolds⟩
  exact .stays hReached (fun hStartLog => absurd hStartLog hLabel) hScan

/-- Only the watcher starts the log. -/
theorem not_startLog (h : ¬ByWatcher label) : label ≠ .statement .watcher .startLog () := by
  rintro rfl
  exact h rfl

/-- What happens to a stop scan while a statement of the watcher is awaited. -/
theorem interference_stopScan
    (h : (machine settings).Interference (guarantee stopScanGuarantee) .watcher w w') :
    ∃ label s, w' = w.record label s ∧ label ≠ .statement .watcher .startLog () ∧
      w.state.steadyClock ≤ s.steadyClock ∧
      (s.appState = w.state.appState ∨ Requested w.state.appState s.appState ∧
        (s.appState = .startingStopScan →
          Scan .startingStopScan (fun _ => True) (w.record label s))) := by
  have hClock := interference_steadyClock h
  cases h with
  | @move action s hMove =>
      refine ⟨_, _, rfl, not_startLog id, hClock, ?_⟩
      rcases move_appState hMove with hSame | ⟨request, rfl, hRequested⟩
      · exact .inl hSame
      · refine .inr ⟨hRequested, fun hOpened => ?_⟩
        obtain rfl : (w.state.trigger settings request).2 = s := Option.some.inj hMove
        have hOther : w.state.appState ≠ .startingStopScan := fun hSame =>
          InStopScan.not_requested (.inl hSame) hRequested
        obtain ⟨rfl, hIdle⟩ := trigger_startingStopScan hOther hOpened
        exact ⟨hOpened, w.state.steadyClock, hClock, .requested rfl hIdle, trivial⟩
  | statement hOther hGuarantee hPerform =>
      exact ⟨_, _, rfl, not_startLog hOther, hClock, .inl (perform_appState hOther hPerform)⟩

/-- Nobody else interrupts a stop scan. -/
theorem stable_scan (hState : InStopScan state) :
    WatcherStable settings stopScanGuarantee (Scan state A) := by
  intro w w' h hw
  obtain ⟨label, s, rfl, hLabel, hClock, hSame | ⟨hRequested, -⟩⟩ := interference_stopScan h
  · exact hw.stays hLabel hSame hClock
  · rw [hw.reached] at hRequested
    exact absurd hRequested hState.not_requested

/-- Where no scan is going on, a request may open one. -/
theorem Followed.interference {C : States → Int → Prop}
    (hC : ∀ t₀, C .startingStopScan t₀) (hw : Followed C w)
    (h : (machine settings).Interference (guarantee stopScanGuarantee) .watcher w w') :
    Followed C w' := by
  intro hState
  obtain ⟨label, s, rfl, hLabel, hClock, hSame | ⟨hRequested, hOpened⟩⟩ := interference_stopScan h
  · change s.appState = w.state.appState at hSame
    change InStopScan s.appState at hState
    change Scan s.appState (C s.appState) _
    rw [hSame] at hState ⊢
    exact (hw hState).stays hLabel hSame hClock
  · change InStopScan s.appState at hState
    change Scan s.appState (C s.appState) _
    have hStarting := hRequested.inStopScan hState
    rw [hStarting]
    exact (hOpened hStarting).mono fun t₀ _ => hC t₀

theorem stable_onSchedule (locals : Locals) :
    WatcherStable settings stopScanGuarantee (OnSchedule locals) :=
  fun _ _ h hw => hw.interference (fun _ => trivial) h

/-- The statements which leave a stop scan where it is, or leave it behind. -/
def Bystanding (request : WatcherRequest) : Prop :=
  request ≠ .startLog ∧ ∀ state, request = .storeAppState state → ¬InStopScan state

/-- Quiet statements stand by while a scan goes on. -/
theorem Quiet.bystanding (request : WatcherRequest) (h : Quiet request) : Bystanding request := by
  constructor
  · rintro rfl
    exact h
  · rintro state rfl
    exact h.elim

theorem Calm.bystanding (request : WatcherRequest) (h : Calm request) : Bystanding request :=
  h.quiet.bystanding

/-- A statement which stands by is allowed at any time. -/
theorem Bystanding.allowed {request : WatcherRequest} (h : Bystanding request) (w : History) :
    stopScanGuarantee request w := by
  cases request with
  | startLog => exact absurd rfl h.1
  | storeAppState state =>
      have hOther := h.2 state rfl
      cases state with
      | startingStopScan => exact absurd (.inl rfl) hOther
      | stopScanInInitialProgress => exact absurd (.inr (.inl rfl)) hOther
      | stopScanInProgress => exact absurd (.inr (.inr (.inl rfl))) hOther
      | stopingStopScan => exact absurd (.inr (.inr (.inr rfl))) hOther
      | _ => trivial
  | _ => trivial

/-- So is a store which does not belong to a stop scan. -/
theorem bystanding_store {state : States} (h : ¬InStopScan state) :
    Bystanding (.storeAppState state) :=
  ⟨by simp, fun state' hStore => by cases hStore; exact h⟩

theorem label_ne_startLog {request : WatcherRequest} {response : request.Response}
    (h : request ≠ .startLog) :
    (.statement .watcher request response : Label Response Move) ≠
      .statement .watcher .startLog () := by
  intro hSame
  cases hSame
  exact h rfl

theorem preserves_onSchedule (locals : Locals) (request : WatcherRequest) (h : Bystanding request) :
    (machine settings).Preserves (guarantee stopScanGuarantee) .watcher (OnSchedule locals)
      request := by
  refine fun w hw => ⟨h.allowed w, fun response s hPerform hState => ?_⟩
  change InStopScan s.appState at hState
  change Scan s.appState (Scheduled locals s.appState) _
  rcases performWatcher_appState hPerform with hSame | hStore
  · rw [hSame] at hState ⊢
    exact (hw hState).stays (label_ne_startLog h.1) hSame (performWatcher_steadyClock hPerform).ge
  · exact absurd hState (h.2 _ hStore)

/-- Statements other than stores and the start of the log leave a scan as it is. -/
theorem preserves_scan (request : WatcherRequest) (hStartLog : request ≠ .startLog)
    (hStore : ∀ state, request ≠ .storeAppState state) :
    (machine settings).Preserves (guarantee stopScanGuarantee) .watcher (Scan state A)
      request := by
  have hAside : Bystanding request := ⟨hStartLog, fun state h => absurd h (hStore state)⟩
  refine fun w hw => ⟨hAside.allowed w, fun response s hPerform => ?_⟩
  have hSame := (performWatcher_appState hPerform).resolve_right (hStore _)
  exact hw.stays (label_ne_startLog hStartLog) hSame (performWatcher_steadyClock hPerform).ge

/-- A scan is neither disturbed by quiet code nor by other threads. -/
theorem robust_scan (hState : InStopScan state) :
    Robust settings stopScanGuarantee (Scan state A) where
  stable := stable_scan hState
  quiet request h := preserves_scan request (h.bystanding request).1 h.not_store

theorem robust_past (time : Int) : Robust settings stopScanGuarantee (Past time) where
  stable := stable_past time
  quiet request h w hw := ⟨(h.bystanding request).allowed w, fun _ _ hPerform =>
    hw.trans (performWatcher_steadyClock hPerform).ge⟩

/-- The same for the two deadlines of the watcher. -/
theorem robust_onSchedule (locals : Locals) :
    Robust settings stopScanGuarantee (OnSchedule locals) where
  stable := stable_onSchedule locals
  quiet request h := preserves_onSchedule locals request (h.bystanding request)

end Assertions

section Branches

variable (settings : Settings) (locals : Locals)

/-- In the branch of this state. -/
def ScanBranch (state : States) (w : History) : Prop :=
  OnSchedule locals w ∧ (InStopScan state → w.state.appState = state) ∧
    (state = .startingScan → w.state.appState = state) ∧ w.state.appState ∈ reach state

/-- The branch which is entered knows how far the scan is. -/
theorem observes_onSchedule :
    Observes settings stopScanGuarantee (OnSchedule locals) (ScanBranch locals) where
  robust := robust_onSchedule locals
  entered state := by
    intro w w' h hw
    have hTimed := stable_onSchedule locals w w' h hw.1
    obtain ⟨-, hScan, hStarting, hReach⟩ := hw
    obtain ⟨label, s, rfl, -, -, hSame | ⟨hRequested, -⟩⟩ := interference_stopScan h
    · exact ⟨hTimed, fun hState => hSame.trans (hScan hState),
        fun hState => hSame.trans (hStarting hState), (hSame ▸ hReach : s.appState ∈ reach state)⟩
    · refine ⟨hTimed, fun hState => ?_, fun hState => ?_, reach_requested hReach hRequested⟩
      · rw [hScan hState] at hRequested
        exact absurd hRequested hState.not_requested
      · rw [hStarting hState, hState] at hRequested
        exact absurd hRequested.source (by decide)
  allowed state w _ := by
    have hAside : Bystanding (.testAppState state) := ⟨by simp, fun _ h => by cases h⟩
    exact hAside.allowed w
  found w hw := by
    refine ⟨fun hState => ?_, fun _ => rfl, fun _ => rfl, mem_reach _⟩
    exact (hw hState).stays (label_ne_startLog (by simp)) rfl le_rfl
  notFound state w hw _ := fun hState =>
    (hw hState).stays (label_ne_startLog (by simp)) rfl le_rfl

/-- A branch which leaves the deadlines alone. -/
theorem onSchedule_of_issues {state : States} {code : Code Locals} (hCode : code.Issues Bystanding)
    (hYields : code.Yields fun result =>
      result.stopScanInitialDeadline = locals.stopScanInitialDeadline ∧
        result.stopScanDeadline = locals.stopScanDeadline) :
    WatcherTriple settings stopScanGuarantee (ScanBranch locals state) code
      fun result => OnSchedule result := by
  have hKeeps : WatcherTriple settings stopScanGuarantee (OnSchedule locals) code
      fun _ => OnSchedule locals :=
    Machine.Keeps.of_issues (stable_onSchedule locals) (hCode.mono (preserves_onSchedule locals))
  refine (hKeeps.yields hYields).mono (fun w hw => hw.1) ?_
  rintro result w ⟨⟨hInitial, hDeadline⟩, hw⟩ hState
  refine (hw hState).mono fun t₀ hScheduled => ?_
  cases hReached : w.state.appState with
  | stopScanInInitialProgress =>
      rw [hReached] at hScheduled
      rw [Scheduled, hInitial, hDeadline]
      exact hScheduled
  | stopScanInProgress =>
      rw [hReached] at hScheduled
      rw [Scheduled, hDeadline]
      exact hScheduled
  | _ => trivial

/-- The states of a continuous scan and the one of its failure. -/
def continousStates : List States :=
  [.startingScan, .scanning, .stoppingStage1, .stoppingStage2, .stopping, .usbIoError]

/-- A continuous scan is going on, or about to. -/
def Continous (w : History) : Prop := w.state.appState ∈ continousStates

/-- The two kinds of scans exclude each other. -/
theorem Continous.not_inStopScan {w : History} (h : Continous w) :
    ¬InStopScan w.state.appState := by
  intro hState
  rw [Continous] at h
  rcases hState with hState | hState | hState | hState
  all_goals
    rw [hState] at h
    simp [continousStates] at h

/-- No request leads from a continuous scan to a stop scan. -/
theorem continous_requested {state state' : States} (hMem : state ∈ continousStates)
    (h : Requested state state') : state' ∈ continousStates := by
  cases h with
  | startingScan h => simp [continousStates]
  | startingStopScan h => rcases h with rfl | rfl <;> simp [continousStates] at hMem
  | _ => simp [continousStates]

/-- A request does not turn a continuous scan into a stop scan. -/
theorem stable_continous : WatcherStable settings stopScanGuarantee Continous := by
  intro w w' h hw
  obtain ⟨label, s, rfl, -, hSame | hRequested⟩ := interference_record h
  · change s.appState ∈ continousStates
    rwa [hSame]
  · exact continous_requested hw hRequested

/-- A branch of the continuous scan. -/
theorem onSchedule_of_continous {state : States} {code : Code Locals}
    (hState : ∀ w, ScanBranch locals state w → Continous w)
    (hCode : code.Issues fun request => ∀ state', request = .storeAppState state' →
      state' = .scanning ∨ state' = .usbIoError) :
    WatcherTriple settings stopScanGuarantee (ScanBranch locals state) code
      fun result => OnSchedule result := by
  have hKeeps : WatcherTriple settings stopScanGuarantee Continous code fun _ => Continous := by
    refine Machine.Keeps.of_issues (stable_continous settings) (hCode.mono ?_)
    refine fun request hStore w hw => ⟨?_, fun response s hPerform => ?_⟩
    · cases request with
      | startLog => exact fun hState => absurd hState hw.not_inStopScan
      | storeAppState state' =>
          rcases hStore state' rfl with rfl | rfl
          · trivial
          · trivial
      | _ => trivial
    · change s.appState ∈ continousStates
      rcases performWatcher_appState hPerform with hSame | hStored
      · rwa [hSame]
      · rcases hStore _ hStored with hScanning | hUsb
        · simp [hScanning, continousStates]
        · simp [hUsb, continousStates]
  exact hKeeps.mono hState fun _ _ hw hInStopScan => absurd hInStopScan hw.not_inStopScan

theorem ScanBranch.continous {state : States} {w : History} (h : ScanBranch locals state w)
    (hState : reach state ⊆ continousStates) : Continous w :=
  hState h.2.2.2

end Branches

section Phases

variable (settings : Settings) (locals : Locals)

theorem Scan.onSchedule {state : States} {w : History} (h : Scan state (Scheduled locals state) w) :
    OnSchedule locals w := by
  intro _
  rw [h.reached]
  exact h

theorem ScanBranch.scan {state : States} {w : History} (h : ScanBranch locals state w)
    (hState : InStopScan state) : Scan state (Scheduled locals state) w := by
  have hReached := h.2.1 hState
  have hScan := h.1 (hReached ▸ hState)
  rwa [hReached] at hScan

/-- The clock is read after the request. -/
theorem triple_scan_now {state : States} {A : Int → Prop} (hState : InStopScan state) :
    WatcherTriple settings stopScanGuarantee (Scan state A) (call .steadyClockNow)
      fun now w => Scan state (fun t₀ => t₀ ≤ now ∧ A t₀) w ∧ Past now w := by
  refine .perform (stable_scan hState) (fun now => (stable_scan hState).and (stable_past now))
    (fun w _ => trivial) ?_
  intro w now s hw hPerform
  cases hPerform
  have hStays : Scan state A (w.record (.statement .watcher .steadyClockNow w.state.steadyClock)
      w.state) := hw.stays (label_ne_startLog (by simp)) rfl le_rfl
  obtain ⟨hReached, t₀, hClock, hScan, hHolds⟩ := hStays
  exact ⟨⟨hReached, t₀, hClock, hScan, hClock, hHolds⟩, le_rfl⟩

/-- A store of the stop scan, with what it leaves of the request. -/
theorem triple_scan_store {next : States} {P : History → Prop} {A : Int → Prop}
    (hStable : WatcherStable settings stopScanGuarantee P) (hNext : InStopScan next)
    (hAllowed : ∀ w, P w → stopScanGuarantee (.storeAppState next) w)
    (hScan : ∀ w, P w → ∃ t₀ ≤ w.state.steadyClock, A t₀ ∧ StopScan t₀ next
      ((w.state, .statement .watcher (.storeAppState next) ()) :: w.trace)) :
    WatcherTriple settings stopScanGuarantee P (call (.storeAppState next))
      fun _ => Scan next A := by
  refine .perform hStable (fun _ => stable_scan hNext) hAllowed ?_
  intro w response s hw hPerform
  cases hPerform
  obtain ⟨t₀, hClock, hHolds, hStopScan⟩ := hScan w hw
  exact ⟨rfl, t₀, hClock, hStopScan, hHolds⟩

/-- Both deadlines count from a clock which is read after the request. -/
theorem onSchedule_startingStopScan :
    WatcherTriple settings stopScanGuarantee (ScanBranch locals .startingStopScan)
      (startingStopScan locals) fun result => OnSchedule result := by
  have hState : InStopScan .startingStopScan := .inl rfl
  have hRobust : Robust settings stopScanGuarantee (Scan .startingStopScan fun _ => True) :=
    robust_scan hState
  refine Machine.Triple.mono ?_ (fun w hw => hw.scan locals hState) fun _ _ h => h
  refine hRobust.statement (.isSet .gpioClientPtr) trivial fun gpioClient => ?_
  refine hRobust.before (.when (issues_setLeds _ _ _)) fun _ => ?_
  refine (triple_scan_now settings hState).bind fun now => ?_
  have hStore : WatcherTriple settings stopScanGuarantee
      (fun w => Scan .startingStopScan (fun t₀ => t₀ ≤ now ∧ True) w ∧ Past now w)
      (call (.storeAppState .stopScanInInitialProgress))
      fun _ => Scan .stopScanInInitialProgress fun t₀ => t₀ ≤ now := by
    refine triple_scan_store settings ((stable_scan hState).and (stable_past now)) (.inr (.inl rfl))
      (fun w hw => hw.1.mono fun _ _ => trivial) ?_
    rintro w ⟨⟨-, t₀, hClock, hScan, hNow, -⟩, -⟩
    exact ⟨t₀, hClock, hNow, .waits hScan⟩
  refine hStore.bind fun _ => triple_return _ (stable_scan (.inr (.inl rfl))) fun w hw => ?_
  refine (hw.mono fun t₀ hNow => ?_).onSchedule
  change t₀ + milliseconds 5000 ≤ now + milliseconds 5000 ∧
    t₀ + milliseconds 35000 ≤ now + milliseconds 5000 + milliseconds 30000
  simp only [milliseconds]
  omega

/-- The initial phase is over. -/
def Opens (deadline now : Int) (w : History) : Prop :=
  Scan .stopScanInInitialProgress
    (fun t₀ => t₀ + milliseconds 5000 ≤ now ∧ t₀ + milliseconds 35000 ≤ deadline) w ∧ Past now w

theorem Opens.scan {deadline now : Int} {w : History} (h : Opens deadline now w) :
    Scan .stopScanInInitialProgress (fun t₀ => t₀ + milliseconds 5000 ≤ w.state.steadyClock) w :=
  h.1.mono fun _ hHolds => hHolds.1.trans h.2

theorem robust_opens (deadline now : Int) :
    Robust settings stopScanGuarantee (Opens deadline now) :=
  (robust_scan (.inr (.inl rfl))).and (robust_past now)

/-- The log is started when the first deadline has passed. -/
theorem triple_opens_startLog (deadline now : Int) :
    WatcherTriple settings stopScanGuarantee (Opens deadline now) (call .startLog)
      fun _ => Opens deadline now := by
  refine .perform (robust_opens settings deadline now).stable
    (fun _ => (robust_opens settings deadline now).stable) (fun w hw _ => hw.scan) ?_
  intro w response s hw hPerform
  have hReturns : performWatcher settings .startLog w.state = .returns response s := hPerform
  have hClock := performWatcher_steadyClock hReturns
  have hState : s.appState = w.state.appState := (performWatcher_changes hReturns).appState
  obtain ⟨⟨hReached, t₀, hBefore, hScan, hHolds⟩, hPast⟩ := hw
  refine ⟨⟨hState.trans hReached, t₀, hBefore.trans hClock.ge, ?_, hHolds⟩, hPast.trans hClock.ge⟩
  exact .stays hReached (fun _ => hHolds.1.trans hPast) hScan

/-- Then the scan is in progress. -/
theorem triple_opens_startStopScan (deadline now : Int) :
    WatcherTriple settings stopScanGuarantee (Opens deadline now) startStopScan
      fun _ => Scan .stopScanInProgress fun t₀ => t₀ + milliseconds 35000 ≤ deadline := by
  have hRobust := robust_opens settings deadline now
  refine hRobust.statement (.isSet .livoxCLientPtr) trivial fun livoxCLient => ?_
  have hStart : WatcherTriple settings stopScanGuarantee (Opens deadline now)
      (.when livoxCLient do
        call (.setLed .stopScan true)
        call .startLog)
      fun _ => Opens deadline now := by
    refine .when (fun _ => ?_) fun _ => triple_return () hRobust.stable fun _ hw => hw
    exact hRobust.statement (.setLed .stopScan true) trivial fun _ =>
      triple_opens_startLog settings deadline now
  refine hStart.bind fun _ => hRobust.statement (.isSet .gnssClientPtr) trivial fun gnssClient => ?_
  have hGnss : WatcherTriple settings stopScanGuarantee (Opens deadline now)
      (.when gnssClient (call .gnssStartLog)) fun _ => Opens deadline now := by
    refine Machine.Keeps.of_issues hRobust.stable (.when (.perform ?_))
    intro w hw
    refine ⟨trivial, fun response s hPerform => ?_⟩
    have hReturns : performWatcher settings .gnssStartLog w.state = .returns response s := hPerform
    have hScan : Scan .stopScanInInitialProgress _ _ :=
      (preserves_scan .gnssStartLog (by simp) (by simp) w hw.1).2 response s hPerform
    exact ⟨hScan, hw.2.trans (performWatcher_steadyClock hReturns).ge⟩
  refine hGnss.bind fun _ => ?_
  refine triple_scan_store settings hRobust.stable (.inr (.inr (.inl rfl)))
    (fun w hw => hw.scan) ?_
  rintro w ⟨⟨-, t₀, hClock, hScan, hNow, hDeadline⟩, hPast⟩
  exact ⟨t₀, hClock, hDeadline, .runs (hNow.trans hPast) hScan⟩

/-- Until its first deadline the scan only blinks. -/
theorem onSchedule_stopScanInInitialProgress :
    WatcherTriple settings stopScanGuarantee (ScanBranch locals .stopScanInInitialProgress)
      (stopScanInInitialProgress locals) fun result => OnSchedule result := by
  have hState : InStopScan .stopScanInInitialProgress := .inr (.inl rfl)
  refine Machine.Triple.mono ?_ (fun w hw => hw.scan locals hState) fun _ _ h => h
  refine (triple_scan_now settings hState).bind fun now => ?_
  split_ifs with hEarly
  · refine Machine.Triple.mono (Machine.Triple.bind ((robust_scan hState).keeps
      (issues_blink .stopScan false 100)) fun _ => ?_) (fun w hw => hw.1.mono fun _ h => h.2)
      fun _ _ h => h
    exact triple_return locals (stable_scan hState) fun w hw => hw.onSchedule
  · have hOpens := triple_opens_startStopScan settings locals.stopScanDeadline now
    refine (hOpens.mono (fun w hw => ⟨hw.1.mono fun t₀ hHolds => ?_, hw.2⟩) fun _ _ h => h).bind
      fun _ => triple_return locals (stable_scan (.inr (.inr (.inl rfl)))) fun w hw => hw.onSchedule
    exact ⟨hHolds.2.1.trans (not_lt.mp hEarly), hHolds.2.2⟩

/-- The second deadline ends it. -/
theorem onSchedule_stopScanInProgress :
    WatcherTriple settings stopScanGuarantee (ScanBranch locals .stopScanInProgress)
      (stopScanInProgress locals) fun result => OnSchedule result := by
  have hState : InStopScan .stopScanInProgress := .inr (.inr (.inl rfl))
  refine Machine.Triple.mono ?_ (fun w hw => hw.scan locals hState) fun _ _ h => h
  refine (triple_scan_now settings hState).bind fun now => ?_
  have hStable : WatcherStable settings stopScanGuarantee fun w =>
      Scan .stopScanInProgress
        (fun t₀ => t₀ ≤ now ∧ Scheduled locals .stopScanInProgress t₀) w ∧ Past now w :=
    (stable_scan hState).and (stable_past now)
  have hEnd : WatcherTriple settings stopScanGuarantee
      (fun w => Scan .stopScanInProgress
        (fun t₀ => t₀ ≤ now ∧ Scheduled locals .stopScanInProgress t₀) w ∧ Past now w)
      (.when (locals.stopScanDeadline < now) (call (.storeAppState .stopingStopScan)))
      fun _ => OnSchedule locals := by
    refine .when (fun hLate => ?_) fun _ => triple_return () hStable fun w hw =>
      (hw.1.mono fun _ h => h.2).onSchedule
    have hPassed := of_decide_eq_true hLate
    have hStore : WatcherTriple settings stopScanGuarantee
        (fun w => Scan .stopScanInProgress
          (fun t₀ => t₀ ≤ now ∧ Scheduled locals .stopScanInProgress t₀) w ∧ Past now w)
        (call (.storeAppState .stopingStopScan))
        fun _ => Scan .stopingStopScan (Scheduled locals .stopingStopScan) := by
      refine triple_scan_store settings hStable (.inr (.inr (.inr rfl))) ?_ ?_
      · rintro w ⟨hScan, hPast⟩
        exact hScan.mono fun t₀ hHolds => hHolds.2.trans_lt (hPassed.trans_le hPast)
      · rintro w ⟨⟨-, t₀, hClock, hScan, hHolds⟩, hPast⟩
        exact ⟨t₀, hClock, trivial, .ends (hHolds.2.trans_lt (hPassed.trans_le hPast)) hScan⟩
    exact hStore.mono (fun _ h => h) fun _ _ hw => hw.onSchedule
  exact hEnd.bind fun _ => triple_return locals (stable_onSchedule locals) fun _ hw => hw

theorem Fits.bystanding {source : States} (hPhase : ¬reach source ⊆ [.startingScan,
    .stopScanInInitialProgress]) (request : WatcherRequest) (h : Fits source request) :
    Bystanding request := by
  refine ⟨?_, fun state hStore => absurd hStore (h.1 state)⟩
  rintro rfl
  exact hPhase (h.2 _ rfl)

/-- The end of a continuous scan is no stop scan. -/
theorem onSchedule_stopping :
    WatcherTriple settings stopScanGuarantee (ScanBranch locals .stopping) (stopping locals)
      fun result => OnSchedule result := by
  have hFits : ∀ request, Fits .stopping request → Bystanding request := Fits.bystanding (by decide)
  refine onSchedule_of_issues settings locals ?_ ?_
  · refine .bind (calm_showCopying.mono Calm.bystanding) fun _ => ?_
    refine .bind ((fits_closeLogs (by decide) (by decide)).mono hFits) fun ⟨buffers, gnssData⟩ => ?_
    refine .bind ((calm_blinkTimes _ _ _ _).mono Calm.bystanding) fun _ => ?_
    refine .bind (calm_showCopying.mono Calm.bystanding) fun _ => ?_
    split_ifs
    · exact .bind (.perform (bystanding_store (by simp [InStopScan]))) fun _ => .done
    · refine .bind ((fits_saveLastChunk (by decide) _ _ _ _).mono hFits) fun _ => ?_
      refine .bind (.perform (Calm.bystanding _ trivial)) fun _ => ?_
      exact .bind (.perform (bystanding_store (by simp [InStopScan]))) fun _ => .done
  · refine .after fun _ => .after fun closed => .after fun _ => .after fun _ => ?_
    split_ifs
    · exact .after fun _ => ⟨rfl, rfl⟩
    · exact .after fun _ => .after fun _ => .after fun _ => ⟨rfl, rfl⟩

/-- When the data have been saved the scan is over. -/
theorem onSchedule_stopingStopScan :
    WatcherTriple settings stopScanGuarantee (ScanBranch locals .stopingStopScan)
      (stopingStopScan locals) fun result => OnSchedule result := by
  have hFits : ∀ request, Fits .stopingStopScan request → Bystanding request :=
    Fits.bystanding (by decide)
  refine onSchedule_of_issues settings locals ?_ ?_
  · refine .bind (calm_showStopScanClosing.mono Calm.bystanding) fun _ => ?_
    refine .bind ((fits_closeLogs (by decide) (by decide)).mono hFits) fun ⟨buffers, gnssData⟩ => ?_
    dsimp only
    split_ifs
    · exact .bind (.perform (bystanding_store (by simp [InStopScan]))) fun _ => .done
    · refine .bind ((fits_saveLastChunk (by decide) _ _ _ _).mono hFits) fun _ => ?_
      refine .bind (calm_showStopScanEnd.mono Calm.bystanding) fun _ => ?_
      exact .bind (.perform (bystanding_store (by simp [InStopScan]))) fun _ => .done
  · refine .after fun _ => .after fun closed => ?_
    split_ifs
    · exact .after fun _ => ⟨rfl, rfl⟩
    · exact .after fun _ => .after fun _ => .after fun _ => ⟨rfl, rfl⟩

/-- All branches keep the schedule. -/
theorem onSchedule_branches :
    BranchTriples settings stopScanGuarantee (ScanBranch locals) locals
      fun result => OnSchedule result := by
  have hOther : ∀ {state : States}, ¬InStopScan state → Bystanding (.storeAppState state) :=
    bystanding_store
  constructor
  case usbIoError =>
    refine onSchedule_of_issues settings locals
      (issues_usbIoError Calm.bystanding settings locals) ?_
    exact .after fun _ => ⟨rfl, rfl⟩
  case waitForResources =>
    refine onSchedule_of_issues settings locals
      (issues_waitForResources Quiet.bystanding settings locals (hOther (by simp [InStopScan]))) ?_
    repeat refine .after fun _ => ?_
    exact ⟨rfl, rfl⟩
  case idle =>
    refine onSchedule_of_issues settings locals (issues_idle Calm.bystanding settings locals
      (hOther (by simp [InStopScan])) (hOther (by simp [InStopScan]))) ?_
    repeat refine .after fun _ => ?_
    exact ⟨rfl, rfl⟩
  case startingScan =>
    refine onSchedule_of_continous settings locals (fun w hw => hw.continous locals (by decide)) ?_
    have hOther : ∀ request : WatcherRequest, Calm request → ∀ state,
        request = .storeAppState state → state = .scanning ∨ state = .usbIoError :=
      fun request h state hStore => absurd hStore (h.quiet.not_store state)
    exact issues_startingScan hOther locals (by simp) (by simp) (by simp)
  case scanning =>
    intro state hState
    refine onSchedule_of_continous settings locals (fun w hw => hw.continous locals ?_) ?_
    · rcases hState with rfl | rfl | rfl <;> decide
    · have hOther : ∀ request : WatcherRequest, Working request → ∀ state,
          request = .storeAppState state → state = .scanning ∨ state = .usbIoError := by
        rintro request hWorking state rfl
        exact hWorking.elim
      exact issues_scanning locals hOther (by simp) (by simp) (by simp) (by simp) (by simp)
  case stopping => exact onSchedule_stopping settings locals
  case startingStopScan => exact onSchedule_startingStopScan settings locals
  case stopScanInInitialProgress => exact onSchedule_stopScanInInitialProgress settings locals
  case stopScanInProgress => exact onSchedule_stopScanInProgress settings locals
  case stopingStopScan => exact onSchedule_stopingStopScan settings locals

end Phases

section Runs

/-- What is known of the deadlines at the end of a round. -/
def OnScheduleOf : Option Locals → History → Prop
  | some locals => OnSchedule locals
  | none => fun _ => True

/-- The watcher keeps the schedule, however late its rounds run. -/
theorem stopScan_contract (settings : Settings) :
    (system settings).Contract (guarantee stopScanGuarantee) Controller.Initial
      (posts OnScheduleOf) := by
  apply contract_of_watcher
  · intro s hInitial
    have hKeeps : WatcherTriple settings stopScanGuarantee (fun w => ∀ locals, OnSchedule locals w)
        startUp fun _ w => ∀ locals, OnSchedule locals w := by
      refine Machine.Keeps.of_issues
        (fun w w' h hw locals => stable_onSchedule locals w w' h (hw locals)) ?_
      have hAside : startUp.Issues Bystanding := issues_startUp (Calm.bystanding _ trivial)
        (Calm.bystanding _ trivial) (fun _ => ⟨by simp, by simp⟩) (fun _ => ⟨by simp, by simp⟩)
        (bystanding_store (by simp [InStopScan]))
      exact hAside.mono fun request h w hw => ⟨h.allowed w, fun response s hPerform locals =>
        (preserves_onSchedule locals request h w (hw locals)).2 response s hPerform⟩
    refine hKeeps.mono ?_ ?_
    · rintro w rfl locals hState
      rw [hInitial.appState] at hState
      simp [InStopScan] at hState
    · rintro (_ | locals) w hw
      · trivial
      · exact hw locals
  · intro locals
    have hError : WatcherTriple settings stopScanGuarantee (ScanBranch locals .lidarError)
        (lidarError settings) fun _ => OnSchedule locals :=
      ((robust_onSchedule locals).keeps (issues_showError _ _ _ _ _)).mono (fun _ hw => hw.1)
        fun _ _ hw => hw
    exact (observes_onSchedule settings locals).round hError (onSchedule_branches settings locals)
      (fun _ hw => hw) fun _ _ => trivial

/-- The request of a stop scan stays known, whatever the watcher does. -/
theorem scan_statement {settings : Settings} {request : WatcherRequest}
    {response : request.Response} {w : History} {s : Controller}
    (hw : Followed (fun _ _ => True) w)
    (hGuarantee : stopScanGuarantee request w)
    (hPerform : performWatcher settings request w.state = .returns response s) :
    Followed (fun _ _ => True) (w.record (.statement .watcher request response) s) := by
  intro hState
  change InStopScan s.appState at hState
  change Scan s.appState _ _
  have hClock := performWatcher_steadyClock hPerform
  by_cases hStartLog : request = .startLog
  · subst hStartLog
    have hSame : s.appState = w.state.appState := (performWatcher_changes hPerform).appState
    rw [hSame] at hState
    obtain ⟨hReached, t₀, hBefore, hScan, hOpens⟩ := hGuarantee hState
    rw [hSame, hReached]
    exact ⟨hSame.trans hReached, t₀, hBefore.trans hClock.ge,
      .stays hReached (fun _ => hOpens) hScan, trivial⟩
  · rcases performWatcher_appState hPerform with hSame | hStore
    · rw [hSame] at hState ⊢
      exact (hw hState).stays (label_ne_startLog hStartLog) hSame hClock.ge
    · generalize s.appState = state at hStore hState
      subst hStore
      cases hPerform
      rcases hState with rfl | rfl | rfl | rfl
      · exact hGuarantee.elim
      · obtain ⟨-, t₀, hBefore, hScan, -⟩ := hGuarantee
        exact ⟨rfl, t₀, hBefore, .waits hScan, trivial⟩
      · obtain ⟨-, t₀, hBefore, hScan, hOpens⟩ := hGuarantee
        exact ⟨rfl, t₀, hBefore, .runs hOpens hScan, trivial⟩
      · obtain ⟨-, t₀, hBefore, hScan, hEnds⟩ := hGuarantee
        exact ⟨rfl, t₀, hBefore, .ends hEnds hScan, trivial⟩

/-- With requests as indivisible steps: while the controller is in a state of a
stop scan, its history since the request consists of the scan alone. The states
follow each other in their order and nobody interrupts them, the lidar log is not
started before five seconds have passed since the request, and the log is not
closed before thirty-five seconds have. -/
theorem stopScans_timed {settings : Settings} {s : Controller} (hInitial : s.Initial)
    {c : Configuration Response Local Controller Move} (h : (system settings).Reachable s c)
    (hState : InStopScan c.world.state.appState) :
    ∃ t₀ ≤ c.world.state.steadyClock, StopScan t₀ c.world.state.appState c.world.trace := by
  have hFollowed : Followed (fun _ _ => True) c.world := by
    refine (stopScan_contract settings).invariant hInitial (I := Followed fun _ _ => True)
      ?_ ?_ ?_ h
    · intro hStart
      change InStopScan s.appState at hStart
      rw [hInitial.appState] at hStart
      simp [InStopScan] at hStart
    · exact fun w action s' hw hMove => hw.interference (fun _ => trivial) (.move hMove)
    · intro w t request response s' hw hGuarantee hPerform
      by_cases hWatcher : t = .watcher
      · subst hWatcher
        exact scan_statement hw hGuarantee hPerform
      · exact hw.interference (fun _ => trivial) (.statement hWatcher hGuarantee hPerform)
  obtain ⟨-, t₀, hClock, hStopScan, -⟩ := hFollowed hState
  exact ⟨t₀, hClock, hStopScan⟩

theorem stopScans_timed_whole :
    ∃ c, (system plainSettings).run ((system plainSettings).initial (switchedOn true))
      (steps .livox 3 ++ wholeStopScan 22) = some c ∧
    ∃ t₀ ≤ c.world.state.steadyClock, StopScan t₀ .stopingStopScan c.world.trace := by
  have hRun : (system plainSettings).run ((system plainSettings).initial (switchedOn true))
      (steps .livox 3 ++ wholeStopScan 22) = some _ := rfl
  have hReachable := System.Reachable.initial.run _ hRun
  exact ⟨_, hRun, stopScans_timed (switchedOn_initial true) hReachable (.inr (.inr (.inr rfl)))⟩

end Runs

end Mandeye.Controller
