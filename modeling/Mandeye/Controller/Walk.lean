import Mandeye.Controller.Directories

/-! How `app_state` moves in a run. The watcher tests the state in one statement
and stores to it in a later one, so a store can meet a state which a request has
made of the tested one; `Transition` lists what is met. A request itself is one
step here. In the source it tests and stores in two statements too, and a store
of the watcher between the two would be overwritten. -/
namespace Mandeye.Controller

open Interleaving
open StateWatcher

/-- What requests can make of a state. -/
def reach : States → List States
  | .idle => [.idle, .startingScan, .startingStopScan]
  | .stopped => [.stopped, .startingScan, .startingStopScan]
  | .scanning => [.scanning, .stoppingStage1, .stoppingStage2, .stopping]
  | .stoppingStage1 => [.stoppingStage1, .stoppingStage2, .stopping]
  | .stoppingStage2 => [.stoppingStage2, .stopping]
  | state => [state]

/-- The changes of `app_state`. A request is overwritten by `lidarFails` and
`autostarts` when it comes while the branch of `IDLE` is executed, and by
`resumes` when it comes after a confirmation stage has been tested. -/
inductive Transition (settings : Settings) : States → States → Prop where
  | requested {state state' : States} (h : Requested state state') :
      Transition settings state state'
  | usbFails : Transition settings .waitForResources .usbIoError
  | isReady : Transition settings .waitForResources .idle
  | lidarFails {state : States} (h : state ∈ reach .idle) : Transition settings state .lidarError
  | autostarts {state : States} (hAutostart : settings.autostart = true)
      (h : state ∈ reach .idle) : Transition settings state .startingScan
  | scans : Transition settings .startingScan .scanning
  | resumes {state : States} (h : state ∈ reach .stoppingStage1) :
      Transition settings state .scanning
  | closes : Transition settings .stopping .idle
  | stopScanWaits : Transition settings .startingStopScan .stopScanInInitialProgress
  | stopScanRuns : Transition settings .stopScanInInitialProgress .stopScanInProgress
  | stopScanEnds : Transition settings .stopScanInProgress .stopingStopScan
  | stopScanCloses : Transition settings .stopingStopScan .idle

/-- The states in which a statement about the recorded data is executed. -/
def WatcherRequest.phase : WatcherRequest → Option (List States)
  | .startLog | .gnssStartLog => some [.startingScan, .stopScanInInitialProgress]
  | .stopLog | .gnssStopLog => some [.stopping, .stopingStopScan]
  | .retrieveData | .gnssRetrieveData | .gnssRetrieveRawData
  | .getSerialNumberToLidarIdMapping
  | .savePointcloudData _ _ _ | .saveImuData _ _ _ | .saveStatusData _ _
  | .saveLidarList _ _ _ | .saveGnssData _ _ _ | .saveGnssRawData _ _ _ =>
      some [.scanning, .stoppingStage1, .stoppingStage2, .stopping, .stopingStopScan]
  | _ => none

/-- Every store is one of the transitions. Those to `USB_IO_ERROR` are known
from the start of `stateWatcher`. -/
def walkGuarantee (settings : Settings) (request : WatcherRequest) (w : History) : Prop :=
  (∀ states, request.phase = some states → w.state.appState ∈ states) ∧
    ∀ state, request = .storeAppState state → state ≠ .usbIoError →
      Transition settings w.state.appState state

section Assertions

/-- No request need come. -/
theorem mem_reach (state : States) : state ∈ reach state := by
  cases state <;> simp [reach]

/-- A further request stays within what requests can make of the state. -/
theorem reach_requested {source state state' : States} (hMem : state ∈ reach source)
    (h : Requested state state') : state' ∈ reach source := by
  have hSource := h.source
  cases h with
  | startingScan h =>
      rcases h with rfl | rfl
      all_goals cases source <;> simp_all [reach]
  | startingStopScan h =>
      rcases h with rfl | rfl
      all_goals cases source <;> simp_all [reach]
  | _ => cases source <;> simp_all [reach]

/-- What requests have made of a state. -/
def LedFrom (source : States) (w : History) : Prop := w.state.appState ∈ reach source

/-- The statements which keep `app_state` and are allowed wherever requests may
have led from a state. -/
def Fits (source : States) (request : WatcherRequest) : Prop :=
  (∀ state, request ≠ .storeAppState state) ∧
    ∀ states, request.phase = some states → reach source ⊆ states

/-- The statements which are allowed in every state. -/
def Free (request : WatcherRequest) : Prop :=
  request.phase = none ∧ ∀ state, request = .storeAppState state → state = .usbIoError

/-- Quiet statements have nothing to do with the recorded data. -/
theorem Quiet.phase {request : WatcherRequest} (h : Quiet request) : request.phase = none := by
  cases request with
  | startLog => exact h.elim
  | gnssStartLog => exact h.elim
  | stopLog => exact h.elim
  | gnssStopLog => exact h.elim
  | retrieveData => exact h.elim
  | gnssRetrieveData => exact h.elim
  | gnssRetrieveRawData => exact h.elim
  | getSerialNumberToLidarIdMapping => exact h.elim
  | savePointcloudData buffer directory chunk => exact h.elim
  | saveImuData buffer directory chunk => exact h.elim
  | saveStatusData directory chunk => exact h.elim
  | saveLidarList lidars directory chunk => exact h.elim
  | saveGnssData buffer directory chunk => exact h.elim
  | saveGnssRawData buffer directory chunk => exact h.elim
  | _ => rfl

/-- Nor do they store a state. -/
theorem Quiet.not_store {request : WatcherRequest} (h : Quiet request) (state : States) :
    request ≠ .storeAppState state := by
  rintro rfl
  exact h

theorem Quiet.fits {source : States} (request : WatcherRequest) (h : Quiet request) :
    Fits source request :=
  ⟨h.not_store, fun states hPhase => by rw [h.phase] at hPhase; cases hPhase⟩

/-- A statement about the data fits a branch if all states are allowed which requests
can make of that of the branch. -/
theorem fits_of_phase {source : States} {request : WatcherRequest} {states : List States}
    (hPhase : request.phase = some states) (hStates : reach source ⊆ states) :
    Fits source request := by
  constructor
  · rintro state rfl
    cases hPhase
  · intro states' hPhase'
    rw [hPhase] at hPhase'
    cases hPhase'
    exact hStates

theorem Quiet.free (request : WatcherRequest) (h : Quiet request) : Free request :=
  ⟨h.phase, fun state hStore => absurd hStore (h.not_store state)⟩

theorem Calm.free (request : WatcherRequest) (h : Calm request) : Free request :=
  h.quiet.free

theorem Calm.fits {source : States} (request : WatcherRequest) (h : Calm request) :
    Fits source request :=
  h.quiet.fits

/-- A test is free of all conditions. -/
theorem free_test (state : States) : Free (.testAppState state) := ⟨rfl, fun _ h => by cases h⟩

variable {settings : Settings} {source : States} {w : History}

/-- Where the branch was entered from does not depend on what else has changed. -/
theorem LedFrom.of_same {w' : History} (h : LedFrom source w)
    (hSame : w'.state.appState = w.state.appState) : LedFrom source w' := by
  rw [LedFrom, hSame]
  exact h

/-- A free statement may be executed anywhere. -/
theorem Free.allowed {request : WatcherRequest} (h : Free request) (w : History) :
    walkGuarantee settings request w := by
  refine ⟨fun states hPhase => ?_, fun state hStore hUsb => absurd (h.2 state hStore) hUsb⟩
  rw [h.1] at hPhase
  cases hPhase

/-- A statement which fits may be executed in its branch. -/
theorem Fits.allowed {request : WatcherRequest} (h : Fits source request) (hw : LedFrom source w) :
    walkGuarantee settings request w :=
  ⟨fun states hPhase => h.2 states hPhase hw, fun state hStore => absurd hStore (h.1 state)⟩

/-- In the middle of a branch requests may change the state, within their reach. -/
theorem stable_ledFrom : WatcherStable settings (walkGuarantee settings) (LedFrom source) := by
  intro w w' h hw
  obtain ⟨label, s, rfl, -, hSame | hRequested⟩ := interference_record h
  · exact hw.of_same hSame
  · exact reach_requested hw hRequested

theorem preserves_ledFrom (request : WatcherRequest) (h : Fits source request) :
    (machine settings).Preserves (guarantee (walkGuarantee settings)) .watcher (LedFrom source)
      request := by
  refine fun w hw => ⟨h.allowed hw, fun response s hPerform => ?_⟩
  rcases performWatcher_appState hPerform with hSame | hStore
  · exact hw.of_same hSame
  · exact absurd hStore (h.1 _)

/-- Code which fits the state in which it is entered. -/
theorem keeps_ledFrom {Result : Type} {code : Code Result} (hCode : code.Issues (Fits source)) :
    WatcherTriple settings (walkGuarantee settings) (LedFrom source) code fun _ => LedFrom source :=
  Machine.Keeps.of_issues stable_ledFrom (hCode.mono preserves_ledFrom)

/-- Quiet code stays within its branch. -/
theorem keeps_ledFrom_quiet {Result : Type} {code : Code Result} (hCode : code.Issues Quiet) :
    WatcherTriple settings (walkGuarantee settings) (LedFrom source) code fun _ => LedFrom source :=
  keeps_ledFrom (hCode.mono Quiet.fits)

/-- A statement which fits may come first. -/
theorem before_ledFrom {Result : Type} {request : WatcherRequest}
    {next : request.Response → Code Result} {Q : Result → History → Prop}
    (h : Fits source request)
    (hNext : ∀ response,
      WatcherTriple settings (walkGuarantee settings) (LedFrom source) (next response) Q) :
    WatcherTriple settings (walkGuarantee settings) (LedFrom source) (call request >>= next) Q :=
  (keeps_ledFrom (.perform h)).bind hNext

/-- Code which may be executed in any state. -/
theorem anywhere {Result : Type} {P : History → Prop} {code : Code Result}
    (hCode : code.Issues Free) :
    WatcherTriple settings (walkGuarantee settings) P code fun _ _ => True := by
  have hKeeps : WatcherTriple settings (walkGuarantee settings) (fun _ => True) code
      fun _ _ => True :=
    Machine.Keeps.of_issues (stable_true settings _ .watcher) <| hCode.mono fun request h w _ =>
      ⟨h.allowed w, fun _ _ _ => trivial⟩
  exact hKeeps.mono (fun _ _ => trivial) fun _ _ h => h

/-- A store which is a transition from wherever requests have led. -/
theorem triple_transition {state : States}
    (h : ∀ state' ∈ reach source, Transition settings state' state) :
    WatcherTriple settings (walkGuarantee settings) (LedFrom source) (call (.storeAppState state))
      fun _ _ => True := by
  refine .perform stable_ledFrom (fun _ => stable_true settings _ .watcher) ?_
    fun _ _ _ _ _ => trivial
  intro w hw
  constructor
  · intro states hPhase
    cases hPhase
  · intro state' hStore _
    cases hStore
    exact h _ hw

/-- A test which succeeds says from where the branch is entered. -/
theorem tests_ledFrom :
    Tests settings (walkGuarantee settings) (fun _ => True) LedFrom where
  stable := stable_true settings _ .watcher
  entered _ := stable_ledFrom
  allowed state w _ := (free_test state).allowed w
  found w _ := mem_reach w.state.appState
  notFound _ _ _ _ := trivial

end Assertions

section LidarError

variable {settings : Settings} {s s' : Controller}

/-- A request has nothing to do with the lidar's error. -/
theorem trigger_isLidarError (request : Trigger) :
    (s.trigger settings request).2.isLidarError = s.isLidarError := by
  cases request with
  | startScan => simp only [trigger, startScan]; split_ifs <;> rfl
  | stopScan => simp only [trigger, stopScan]; split_ifs <;> rfl
  | triggerStopScan => simp only [trigger, triggerStopScan]; split_ifs <;> rfl
  | triggerContinousScanning =>
      simp only [trigger, triggerContinousScanning]
      split_ifs <;> rfl

/-- Nor has anything else from outside. -/
theorem move_isLidarError {action : Move} (h : move settings action s = some s') :
    s'.isLidarError = s.isLidarError := by
  cases action with
  | trigger request =>
      cases h
      exact trigger_isLidarError request
  | livox event =>
      simp only [move] at h
      split at h
      · cases h
      · cases h
        rfl
  | serialLine line =>
      simp only [move] at h
      split_ifs at h
      cases h
      rfl
  | _ =>
      cases h
      rfl

/-- An error of the lidar is never taken back by the watcher. -/
theorem performWatcher_isLidarError {request : WatcherRequest} {response : request.Response}
    (h : performWatcher settings request s = .returns response s')
    (hError : s.isLidarError = true) : s'.isLidarError = true := by
  have hLivox : ∀ {Response : Type} {response : Response}
      {f : LivoxClient → Response × LivoxClient},
      s.withLivox f = .returns response s' → s'.isLidarError = true := by
    intro Response response f h
    obtain ⟨client, -, -, rfl⟩ := withLivox_returns h
    exact hError
  have hGnss : ∀ {Response : Type} {response : Response} {f : GNSSClient → Response × GNSSClient},
      s.withGnss f = .returns response s' → s'.isLidarError = true := by
    intro Response response f h
    obtain ⟨client, -, -, rfl⟩ := withGnss_returns h
    exact hError
  cases request with
  | storeIsLidarError =>
      cases h
      rfl
  | lock mutex => exact lock_returns h ▸ hError
  | setLed led state => exact withGpio_returns h ▸ hError
  | beep durations => exact withGpio_returns h ▸ hError
  | setMode mode =>
      obtain ⟨publisher, rfl⟩ := withPublisher_returns h
      exact hError
  | setWorkingDirectory stopScanDirectory continousScanDirectory =>
      obtain ⟨publisher, rfl⟩ := withPublisher_returns h
      exact hError
  | reportState state =>
      rcases reportState_returns h with rfl | rfl
      · exact hError
      · exact hError
  | createDirectoryForStopScans idManifest =>
      obtain ⟨client, fileSystemClient, repository, -, -, rfl⟩ := withFileSystem_returns h
      exact hError
  | createDirectoryForContinousScanning idManifest =>
      obtain ⟨client, fileSystemClient, repository, -, -, rfl⟩ := withFileSystem_returns h
      exact hError
  | isSynced => exact isSynced_returns h ▸ hError
  | startLog => exact hLivox h
  | stopLog => exact hLivox h
  | retrieveData => exact hLivox h
  | getSerialNumberToLidarIdMapping => exact hLivox h
  | gnssStartLog => exact hGnss h
  | gnssStopLog => exact hGnss h
  | gnssRetrieveData => exact hGnss h
  | gnssRetrieveRawData => exact hGnss h
  | savePointcloudData buffer directory chunk => exact (withBuffer_returns h).1 ▸ hError
  | saveImuData buffer directory chunk => exact (withBuffer_returns h).1 ▸ hError
  | _ =>
      cases h
      exact hError

/-- The flag is never taken back. -/
theorem perform_isLidarError {t : Thread} {request : Request t} {response : Response t request}
    (h : (machine settings).perform t request s = .returns response s')
    (hError : s.isLidarError = true) : s'.isLidarError = true := by
  cases t with
  | watcher => exact performWatcher_isLidarError h hError
  | livox =>
      cases request with
      | storeIsLidarError =>
          cases h
          rfl
      | lock mutex => exact lock_returns h ▸ hError
      | startListener =>
          obtain ⟨client, -, -, rfl⟩ := withLivox_returns h
          exact hError
      | gnssStartListener =>
          obtain ⟨client, -, -, rfl⟩ := withGnss_returns h
          exact hError
      | gnssSetDataCallback =>
          obtain ⟨client, -, -, rfl⟩ := withGnss_returns h
          exact hError
      | _ =>
          cases h
          exact hError
  | gpio =>
      cases request with
      | lock mutex => exact lock_returns h ▸ hError
      | setLed led state => exact withGpio_returns h ▸ hError
      | _ =>
          cases h
          exact hError
  | gnss =>
      cases request with
      | readLine =>
          simp only [machine, performGnss] at h
          split at h
          · cases h
          · split_ifs at h
            cases h
            exact hError
      | lock mutex => exact lock_returns h ▸ hError
      | setLed led state => exact withGpio_returns h ▸ hError
      | appendRaw line =>
          obtain ⟨client, -, -, rfl⟩ := withGnss_returns h
          exact hError
      | hasDataCallback =>
          obtain ⟨client, -, -, rfl⟩ := withGnss_returns h
          exact hError
      | appendGga csvline =>
          obtain ⟨client, -, -, rfl⟩ := withGnss_returns h
          exact hError
      | _ =>
          cases h
          exact hError

/-- The lidar is in error. -/
def Flagged (w : History) : Prop := w.state.isLidarError = true

/-- Nor is it taken back by anybody else. -/
theorem stable_flagged : WatcherStable settings (walkGuarantee settings) Flagged := by
  rintro w w' (hMove | ⟨-, -, hPerform⟩) hw
  · exact (move_isLidarError hMove).trans hw
  · exact perform_isLidarError hPerform hw

end LidarError

section Branches

variable (settings : Settings) (locals : Locals)

/-- A branch as the loop enters it. -/
abbrev WalkBranch (source : States) (code : Code Locals) : Prop :=
  WatcherTriple settings (walkGuarantee settings) (LedFrom source) code fun _ _ => True

/-- The branches, one by one. The resources are ready when `IDLE` is stored. -/
theorem walk_waitForResources :
    WalkBranch settings .waitForResources (waitForResources settings locals) := by
  have hBeep : ∀ condition durations,
      (Program.when condition (call (.beep durations)) : Code Unit).Issues Quiet :=
    fun _ _ => .when (.perform trivial)
  refine (keeps_ledFrom_quiet (hBeep _ _)).bind fun _ => ?_
  refine before_ledFrom (Quiet.fits _ trivial) fun _ => ?_
  refine before_ledFrom (Quiet.fits _ trivial) fun _ => ?_
  refine before_ledFrom (Quiet.fits _ trivial) fun _ => ?_
  have hSync : (Program.when settings.waitForLidarSync waitForLidarSync).Issues Quiet :=
    .when (issues_waitForLidarSync.mono Preparing.quiet)
  refine (keeps_ledFrom_quiet hSync).bind fun _ => ?_
  refine before_ledFrom (Quiet.fits _ trivial) fun gpioClient => ?_
  have hSet : (andAlso gpioClient (call (.isSet .fileSystemClientPtr))).Issues Quiet :=
    issues_andAlso (.perform trivial)
  refine (keeps_ledFrom_quiet hSet).bind fun fileSystemClient => ?_
  have hStore : WatcherTriple settings (walkGuarantee settings) (LedFrom .waitForResources)
      (call (.storeAppState .idle)) fun _ _ => True :=
    triple_transition fun state' hState => by
      obtain rfl : state' = .waitForResources := List.mem_singleton.mp hState
      exact .isReady
  have hReady : WatcherTriple settings (walkGuarantee settings) (LedFrom .waitForResources)
      (.when fileSystemClient do
        call (.storeAppState .idle)
        .when (!settings.disableBuzzer)
          (call (.beep [100, 50, 100, 50, 100, 50, 100, 50, 100, 50, 100, 50])))
      fun _ _ => True := by
    refine .when (fun _ => ?_) fun _ => triple_return () stable_ledFrom fun _ _ => trivial
    exact hStore.bind fun _ => anywhere ((hBeep _ _).mono Quiet.free)
  refine hReady.bind fun _ => anywhere ?_
  refine .bind (.perform (Quiet.free _ trivial)) fun _ => ?_
  refine .bind (.when (.perform (Quiet.free _ trivial))) fun _ => ?_
  exact .bind (.perform (Quiet.free _ trivial)) fun _ =>
    .bind (.perform (Quiet.free _ trivial)) fun _ => .done

/-- After the first look at the flag. -/
def Seen (isLidarError : Bool) (w : History) : Prop :=
  LedFrom .idle w ∧ (isLidarError = true → Flagged w)

/-- What the branch of `IDLE` knows after its first store. -/
def Checked (isLidarError : Bool) (w : History) : Prop :=
  if isLidarError then Flagged w else LedFrom .idle w

/-- What the watcher has read of it remains true as far as it was an error. -/
theorem stable_seen (isLidarError : Bool) :
    WatcherStable settings (walkGuarantee settings) (Seen isLidarError) :=
  stable_ledFrom.and fun w w' hStep h hTrue => stable_flagged w w' hStep (h hTrue)

theorem stable_checked (isLidarError : Bool) :
    WatcherStable settings (walkGuarantee settings) (Checked isLidarError) := by
  cases isLidarError with
  | false => exact stable_ledFrom
  | true => exact stable_flagged

theorem free_isLidarError : Free .isLidarError := Quiet.free .isLidarError trivial

/-- In `IDLE` the error is looked at first. -/
theorem triple_isLidarError :
    WatcherTriple settings (walkGuarantee settings) (LedFrom .idle) (call .isLidarError) Seen := by
  refine .perform stable_ledFrom (stable_seen settings) (fun w _ => free_isLidarError.allowed w) ?_
  intro w isLidarError s hw hPerform
  cases hPerform
  exact ⟨hw, id⟩

/-- With an error the state is left for good. -/
theorem triple_lidarFails (isLidarError : Bool) :
    WatcherTriple settings (walkGuarantee settings) (Seen isLidarError)
      (.when isLidarError (call (.storeAppState .lidarError))) fun _ => Checked isLidarError := by
  cases isLidarError with
  | false => exact triple_return () (stable_seen settings false) fun _ hw => hw.1
  | true =>
      refine .perform (stable_seen settings true) (fun _ => stable_checked settings true) ?_ ?_
      · intro w hw
        constructor
        · intro states hPhase
          cases hPhase
        · intro state hStore _
          cases hStore
          exact .lidarFails hw.1
      · intro w response s hw hPerform
        cases hPerform
        exact hw.2 rfl

theorem keeps_checked (isLidarError : Bool) {Result : Type} {code : Code Result}
    (hCode : code.Issues Quiet) :
    WatcherTriple settings (walkGuarantee settings) (Checked isLidarError) code
      fun _ => Checked isLidarError := by
  cases isLidarError with
  | false => exact keeps_ledFrom_quiet hCode
  | true =>
      refine Machine.Keeps.of_issues stable_flagged (hCode.mono fun request hQuiet w hw => ?_)
      exact ⟨(Quiet.free request hQuiet).allowed w, fun response s hPerform =>
        performWatcher_isLidarError hPerform hw⟩

/-- The second look cannot miss what the first one has seen. -/
theorem triple_isLidarError_again (isLidarError : Bool) :
    WatcherTriple settings (walkGuarantee settings) (Checked isLidarError) (call .isLidarError)
      fun again w => again = false → LedFrom .idle w := by
  have hStable : ∀ again : Bool, WatcherStable settings (walkGuarantee settings)
      fun w => again = false → LedFrom .idle w :=
    fun again w w' hStep h hAgain => stable_ledFrom w w' hStep (h hAgain)
  refine .perform (stable_checked settings isLidarError) hStable
    (fun w _ => free_isLidarError.allowed w) ?_
  intro w again s hw hPerform hAgain
  cases hPerform
  cases isLidarError with
  | false => exact hw
  | true =>
      rw [Checked, if_pos rfl, Flagged, hAgain] at hw
      cases hw

/-- Between the two looks at the error only quiet statements are executed. The
automatic start is not reached after an error. -/
theorem walk_idle : WalkBranch settings .idle (idle settings locals) := by
  refine (triple_isLidarError settings).bind fun isLidarError => ?_
  refine (triple_lidarFails settings isLidarError).bind fun _ => ?_
  have hQuiet : ∀ request, Quiet request → (call request).Issues Quiet := fun _ h => .perform h
  refine (keeps_checked settings _ (hQuiet (.isSet .gpioClientPtr) trivial)).bind fun _ => ?_
  refine (keeps_checked settings _ (.when (issues_setLeds _ _ _))).bind fun _ => ?_
  refine (keeps_checked settings _ (hQuiet (.sleepFor 100) trivial)).bind fun _ => ?_
  have hAutostart : WatcherTriple settings (walkGuarantee settings) (Checked isLidarError)
      (.when settings.autostart do
        let again ← call .isLidarError
        .when (!again) (call (.storeAppState .startingScan)))
      fun _ _ => True := by
    refine .when (fun hAutostart => ?_) fun _ =>
      triple_return () (stable_checked settings _) fun _ _ => trivial
    refine (triple_isLidarError_again settings isLidarError).bind fun again => ?_
    cases again with
    | true => exact anywhere .done
    | false =>
        refine (triple_transition fun state' hState => ?_).mono (fun w hw => hw rfl)
          fun _ _ h => h
        exact .autostarts hAutostart hState
  exact hAutostart.bind fun _ => anywhere .done

/-- A store which no request can spoil. -/
theorem triple_step {source state : States} (hSource : reach source = [source])
    (h : Transition settings source state) :
    WatcherTriple settings (walkGuarantee settings) (LedFrom source) (call (.storeAppState state))
      fun _ _ => True := by
  refine triple_transition fun state' hState => ?_
  rw [hSource] at hState
  rwa [List.mem_singleton.mp hState]

/-- The logs are started in the state of the branch, from which no request leads away. -/
theorem walk_startingScan : WalkBranch settings .startingScan (startingScan locals) := by
  refine (keeps_ledFrom_quiet issues_showStart).bind fun _ => ?_
  refine before_ledFrom (Quiet.fits _ trivial) fun livoxCLient => ?_
  have hStart : WatcherTriple settings (walkGuarantee settings) (LedFrom .startingScan)
      (.when livoxCLient startContinousScan) fun _ _ => True := by
    refine .when (fun _ => ?_) fun _ => triple_return () stable_ledFrom fun _ _ => trivial
    refine before_ledFrom (fits_of_phase rfl (by decide)) fun _ => ?_
    refine before_ledFrom (Quiet.fits _ trivial) fun gnssClient => ?_
    refine (keeps_ledFrom (.when (.perform (fits_of_phase rfl (by decide))))).bind fun _ => ?_
    exact triple_step settings rfl .scans
  exact hStart.bind fun _ => anywhere (.bind (.perform (Quiet.free _ trivial)) fun _ => .done)

section Saves

variable {source : States}
  (hSource : reach source ⊆
    [.scanning, .stoppingStage1, .stoppingStage2, .stopping, .stopingStopScan])

include hSource

/-- Saving fits the branches which end a chunk. -/
theorem fits_saveLidarData (lidarBuffer imuBuffer : Option Nat) (directory : String)
    (chunk : Int32) :
    (saveLidarData lidarBuffer imuBuffer directory chunk).Issues (Fits source) := by
  refine .bind (.perform (fits_of_phase rfl hSource)) fun _ => ?_
  refine .bind (.perform (fits_of_phase rfl hSource)) fun _ => ?_
  refine .bind (.perform (fits_of_phase rfl hSource)) fun _ => ?_
  refine .bind (.perform (fits_of_phase rfl hSource)) fun _ => ?_
  exact .perform (fits_of_phase rfl hSource)

/-- So does the saving of the last one. -/
theorem fits_saveLastChunk (buffers : Option Nat × Option Nat) (gnssData : List GgaCsvLine)
    (directory : String) (chunk : Int32) :
    (saveLastChunk buffers gnssData directory chunk).Issues (Fits source) := by
  refine .bind (fits_saveLidarData hSource _ _ _ _) fun _ => ?_
  refine .bind (.perform (Quiet.fits _ trivial)) fun _ => ?_
  exact .when (.perform (fits_of_phase rfl hSource))

/-- The logs are closed at the end of a scan only. -/
theorem fits_closeLogs (hClosing : reach source ⊆ [.stopping, .stopingStopScan]) :
    closeLogs.Issues (Fits source) := by
  refine .bind (.perform (fits_of_phase rfl hSource)) fun _ => ?_
  refine .bind (.perform (fits_of_phase rfl hClosing)) fun _ => ?_
  refine .bind (.perform (Quiet.fits _ trivial)) fun gnssClient => ?_
  cases gnssClient with
  | false => exact .done
  | true =>
      refine .bind (.perform (fits_of_phase rfl hSource)) fun _ => ?_
      exact .bind (.perform (fits_of_phase rfl hClosing)) fun _ => .done

/-- The data of the GNSS receiver go with those of the lidar. -/
theorem fits_retrieveGnss (gnssClient : Bool) : (retrieveGnss gnssClient).Issues (Fits source) := by
  cases gnssClient with
  | false => exact .done
  | true =>
      refine .bind (.perform (fits_of_phase rfl hSource)) fun _ => ?_
      exact .bind (.perform (fits_of_phase rfl hSource)) fun _ => .done

end Saves

theorem free_usbIoError : Free (.storeAppState .usbIoError) := ⟨rfl, fun state h => by cases h; rfl⟩

/-- A chunk is ended during a scan, or while its end is being confirmed. -/
theorem walk_rotateChunk : WalkBranch settings .scanning (rotateChunk locals) := by
  refine before_ledFrom (Quiet.fits _ trivial) fun _ => ?_
  refine before_ledFrom (Quiet.fits _ trivial) fun _ => ?_
  refine before_ledFrom (fits_of_phase rfl (by decide)) fun ⟨lidarBuffer, imuBuffer⟩ => ?_
  refine before_ledFrom (Quiet.fits _ trivial) fun gnssClient => ?_
  refine (keeps_ledFrom (fits_retrieveGnss (by decide) gnssClient)).bind ?_
  intro ⟨gnssBuffer, gnssRawBuffer⟩
  dsimp only
  split_ifs
  · exact anywhere (.bind (.perform free_usbIoError) fun _ => .done)
  · refine (keeps_ledFrom (fits_saveLidarData (by decide) _ _ _ _)).bind fun _ => ?_
    refine before_ledFrom (Quiet.fits _ trivial) fun gnssClient => ?_
    refine (keeps_ledFrom (.when ?_)).bind fun _ => ?_
    · refine .bind (.perform (fits_of_phase rfl (by decide))) fun _ => ?_
      exact .perform (fits_of_phase rfl (by decide))
    · exact anywhere (.bind (.perform (Quiet.free _ trivial)) fun _ => .done)

/-- A stage which has been tested can only have been clicked on. -/
theorem walk_confirmationStage {stage : States} (hStage : reach stage ⊆ reach .stoppingStage1)
    (deadline changeLed : Deadline) (period : Int) (led : Bool) :
    WatcherTriple settings (walkGuarantee settings) (fun _ => True)
      (confirmationStage stage deadline changeLed period led) fun _ _ => True := by
  refine (tests_ledFrom.test stage).bind fun entered => ?_
  cases entered with
  | false => exact anywhere .done
  | true =>
      refine before_ledFrom (Quiet.fits _ trivial) fun now => ?_
      refine before_ledFrom (Quiet.fits _ trivial) fun changeLedTime => ?_
      refine (keeps_ledFrom_quiet (.when ?_)).bind fun _ => ?_
      · exact .bind (.perform trivial) fun _ => .bind (.perform trivial) fun _ => .perform trivial
      · refine before_ledFrom (Quiet.fits _ trivial) fun deadlineTime => ?_
        have hStore : WatcherTriple settings (walkGuarantee settings) (LedFrom stage)
            (.when (deadlineTime < now) (call (.storeAppState .scanning))) fun _ _ => True :=
          .when (fun _ => triple_transition fun state' hState => .resumes (hStage hState))
            fun _ => triple_return () stable_ledFrom fun _ _ => trivial
        exact hStore.bind fun _ => anywhere .done

theorem calm_steadyClockNow : (call .steadyClockNow).Issues Calm := .perform trivial

/-- Both confirmation stages can go back to the scan, which a request may have ended
meanwhile. -/
theorem walk_scanning {state : States} : WalkBranch settings state (scanning locals) := by
  have hFree : ∀ {Result : Type} {code : Code Result}, code.Issues Calm → code.Issues Free :=
    fun hCode => hCode.mono Calm.free
  refine (anywhere (issues_showScanning Calm.free free_test)).bind fun _ => ?_
  refine (anywhere (hFree (calm_steadyClockNow))).bind fun now => ?_
  refine (anywhere (hFree (.when (calm_blink _ _ _)))).bind fun _ => ?_
  refine (anywhere (hFree (.when (calm_blink _ _ _)))).bind fun _ => ?_
  have hChunk : WatcherTriple settings (walkGuarantee settings) (fun _ => True)
      (checkChunk now locals) fun _ _ => True := by
    have hEnds : WatcherTriple settings (walkGuarantee settings) (fun _ => True)
        (andAlso (seconds 10 < now - locals.chunkStart) (call (.testAppState .scanning)))
        fun chunkEnds w => if chunkEnds then LedFrom .scanning w else True := by
      apply triple_andAlso
      · exact fun _ => triple_return false (stable_true settings _ .watcher) fun _ _ => trivial
      · exact fun _ => tests_ledFrom.test .scanning
    refine hEnds.bind fun chunkEnds => ?_
    cases chunkEnds with
    | false => exact anywhere .done
    | true => exact walk_rotateChunk settings locals
  refine hChunk.bind fun rotated => ?_
  refine (walk_confirmationStage settings (by decide) _ _ _ _).bind fun led1 => ?_
  refine (walk_confirmationStage settings (by decide) _ _ _ _).bind fun led2 => ?_
  exact anywhere (.bind (.perform (Quiet.free _ trivial)) fun _ => .done)

/-- At the end of a scan the state goes back to `IDLE`. -/
theorem walk_stopping : WalkBranch settings .stopping (stopping locals) := by
  refine (keeps_ledFrom_quiet issues_showCopying).bind fun _ => ?_
  refine (keeps_ledFrom (fits_closeLogs (by decide) (by decide))).bind ?_
  intro ⟨buffers, gnssData⟩
  refine (keeps_ledFrom_quiet (issues_blinkTimes _ _ _ _)).bind fun _ => ?_
  refine (keeps_ledFrom_quiet issues_showCopying).bind fun _ => ?_
  split_ifs
  · exact anywhere (.bind (.perform free_usbIoError) fun _ => .done)
  · refine (keeps_ledFrom (fits_saveLastChunk (by decide) _ _ _ _)).bind fun _ => ?_
    refine before_ledFrom (Quiet.fits _ trivial) fun _ => ?_
    exact (triple_step settings rfl .closes).bind fun _ => anywhere .done

/-- A stop scan waits first. -/
theorem walk_startingStopScan :
    WalkBranch settings .startingStopScan (startingStopScan locals) := by
  refine before_ledFrom (Quiet.fits _ trivial) fun gpioClient => ?_
  refine (keeps_ledFrom_quiet (.when (issues_setLeds _ _ _))).bind fun _ => ?_
  refine before_ledFrom (Quiet.fits _ trivial) fun now => ?_
  exact (triple_step settings rfl .stopScanWaits).bind fun _ => anywhere .done

/-- Then its logs are started. -/
theorem walk_startStopScan :
    WatcherTriple settings (walkGuarantee settings) (LedFrom .stopScanInInitialProgress)
      startStopScan fun _ _ => True := by
  refine before_ledFrom (Quiet.fits _ trivial) fun livoxCLient => ?_
  refine (keeps_ledFrom (.when ?_)).bind fun _ => ?_
  · refine .bind (.perform (Quiet.fits _ trivial)) fun _ => ?_
    exact .perform (fits_of_phase rfl (by decide))
  · refine before_ledFrom (Quiet.fits _ trivial) fun gnssClient => ?_
    refine (keeps_ledFrom (.when (.perform (fits_of_phase rfl (by decide))))).bind fun _ => ?_
    exact triple_step settings rfl .stopScanRuns

theorem walk_stopScanInInitialProgress :
    WalkBranch settings .stopScanInInitialProgress (stopScanInInitialProgress locals) := by
  refine before_ledFrom (Quiet.fits _ trivial) fun now => ?_
  split_ifs
  · exact anywhere (.bind ((calm_blink _ _ _).mono Calm.free) fun _ => .done)
  · exact (walk_startStopScan settings).bind fun _ => anywhere .done

theorem walk_stopScanInProgress :
    WalkBranch settings .stopScanInProgress (stopScanInProgress locals) := by
  refine before_ledFrom (Quiet.fits _ trivial) fun now => ?_
  have hStore : WatcherTriple settings (walkGuarantee settings) (LedFrom .stopScanInProgress)
      (.when (locals.stopScanDeadline < now) (call (.storeAppState .stopingStopScan)))
      fun _ _ => True :=
    .when (fun _ => triple_step settings rfl .stopScanEnds) fun _ =>
      triple_return () stable_ledFrom fun _ _ => trivial
  exact hStore.bind fun _ => anywhere .done

theorem walk_stopingStopScan :
    WalkBranch settings .stopingStopScan (stopingStopScan locals) := by
  refine (keeps_ledFrom_quiet issues_showStopScanClosing).bind fun _ => ?_
  refine (keeps_ledFrom (fits_closeLogs (by decide) (by decide))).bind ?_
  intro ⟨buffers, gnssData⟩
  dsimp only
  split_ifs
  · exact anywhere (.bind (.perform free_usbIoError) fun _ => .done)
  · refine (keeps_ledFrom (fits_saveLastChunk (by decide) _ _ _ _)).bind fun _ => ?_
    refine (keeps_ledFrom_quiet issues_showStopScanEnd).bind fun _ => ?_
    exact (triple_step settings rfl .stopScanCloses).bind fun _ => anywhere .done

/-- All branches keep to the table. -/
theorem walk_branches :
    BranchTriples settings (walkGuarantee settings) LedFrom locals fun _ _ => True where
  usbIoError := anywhere (issues_usbIoError Calm.free settings locals)
  waitForResources := walk_waitForResources settings locals
  idle := walk_idle settings locals
  startingScan := walk_startingScan settings locals
  scanning _ _ := walk_scanning settings locals
  stopping := walk_stopping settings locals
  startingStopScan := walk_startingStopScan settings locals
  stopScanInInitialProgress := walk_stopScanInInitialProgress settings locals
  stopScanInProgress := walk_stopScanInProgress settings locals
  stopingStopScan := walk_stopingStopScan settings locals

end Branches

section Runs

/-- So does the watcher, whatever the others do. -/
theorem walk_contract (settings : Settings) :
    (system settings).Contract (guarantee (walkGuarantee settings)) Controller.Initial
      (posts fun _ _ => True) := by
  apply contract_of_watcher
  · intro s _
    refine anywhere (issues_startUp (Quiet.free _ trivial) (Quiet.free _ trivial) ?_ ?_ ?_)
    · exact fun idManifest => ⟨rfl, fun _ h => by cases h⟩
    · exact fun idManifest => ⟨rfl, fun _ h => by cases h⟩
    · exact free_usbIoError
  · intro locals
    have hError : WatcherTriple settings (walkGuarantee settings) (LedFrom .lidarError)
        (lidarError settings) fun _ _ => True :=
      anywhere ((calm_showError _ _ _ _ _).mono Calm.free)
    refine tests_ledFrom.round ?_ (anywhere (calm_publishState.mono Calm.free)) hError
      (walk_branches settings locals) (fun _ _ => trivial) fun _ _ => trivial
    have hRunning : Free .isRunning := Quiet.free .isRunning trivial
    exact fun w _ => ⟨hRunning.allowed w, fun _ _ _ => trivial⟩

/-- The values of `app_state` in a run, the latest one first. -/
def appStates (w : History) : List States := w.state.appState :: w.trace.map (·.1.appState)

/-- From one statement to the next. -/
def Moves (settings : Settings) (later earlier : States) : Prop :=
  later = earlier ∨ Transition settings earlier later

/-- The chain of the states goes on with a transition or stays where it is. -/
theorem moves_record {settings : Settings} {w : History} {label : Label Response Move}
    {s : Controller} (hChain : (appStates w).IsChain (Moves settings))
    (h : s.appState = w.state.appState ∨ Transition settings w.state.appState s.appState) :
    (appStates (w.record label s)).IsChain (Moves settings) :=
  List.isChain_cons_cons.mpr ⟨h, hChain⟩

/-- A store to `USB_IO_ERROR` is made at the start only. -/
theorem transition_of_store {settings : Settings} {w : History} {state : States}
    (hWalk : walkGuarantee settings (.storeAppState state) w)
    (hStartUp : startUpGuarantee (.storeAppState state) w) :
    state = w.state.appState ∨ Transition settings w.state.appState state := by
  by_cases hUsb : state = .usbIoError
  · subst hUsb
    obtain ⟨-, -, hWait | hDown⟩ := hStartUp
    · rw [hWait]
      exact .inr .usbFails
    · exact .inl hDown.symm
  · exact .inr (hWalk.2 state rfl hUsb)

/-- In a run the states form a chain of transitions. -/
theorem moves_run {settings : Settings} {s : Controller} (hInitial : s.Initial)
    {c : Configuration Response Local Controller Move} (h : (system settings).Reachable s c) :
    (appStates c.world).IsChain (Moves settings) := by
  have hContract := (walk_contract settings).and (startUp_contract settings)
  refine hContract.invariant hInitial (I := fun w => (appStates w).IsChain (Moves settings))
    (List.isChain_singleton _) ?_ ?_ h
  · intro w action s hw hMove
    apply moves_record hw
    rcases move_appState hMove with hSame | ⟨request, -, hRequested⟩
    · exact .inl hSame
    · exact .inr (.requested hRequested)
  · intro w t request response s hw hGuarantee hPerform
    apply moves_record hw
    by_cases hWatcher : t = .watcher
    · subst hWatcher
      rcases performWatcher_appState hPerform with hSame | hStore
      · exact .inl hSame
      · obtain ⟨hWalk, hStartUp⟩ := hGuarantee
        rw [hStore] at hWalk hStartUp
        exact transition_of_store hWalk hStartUp
    · exact .inl (perform_appState hWatcher hPerform)

/-- The chain begins where the run does. -/
theorem first_state {settings : Settings} {s : Controller}
    {c : Configuration Response Local Controller Move} (h : (system settings).Reachable s c) :
    (appStates c.world).getLast? = some s.appState := by
  have hRecord : ∀ (w : History) label s',
      (appStates (w.record label s')).getLast? = (appStates w).getLast? :=
    fun w label s' => List.getLast?_cons_cons
  induction h with
  | initial => rfl
  | @next c d choice prior last ih =>
      rcases System.next_cases last with ⟨action, s', -, rfl⟩ | ⟨u, locals, -, rfl⟩ |
        ⟨u, request, rest, response, s', -, -, rfl⟩ | ⟨u, request, rest, -, -, rfl⟩
      · exact (hRecord _ _ _).trans ih
      · exact ih
      · exact (hRecord _ _ _).trans ih
      · exact ih

/-- A statement about the data was executed in one of its states. -/
theorem phase_run {settings : Settings} {s : Controller} (hInitial : s.Initial)
    {c : Configuration Response Local Controller Move} (h : (system settings).Reachable s c)
    {before : Controller} {request : WatcherRequest} {response : request.Response}
    (hEntry : (before, .statement .watcher request response) ∈ c.world.trace)
    {states : List States} (hPhase : request.phase = some states) : before.appState ∈ states := by
  obtain ⟨later, earlier, hTrace⟩ := List.append_of_mem hEntry
  exact ((walk_contract settings).recorded hInitial h hTrace).1 states hPhase

/-- Whatever requests come between the statements of the threads, each of them
taken as one indivisible step, `app_state` starts as `WAIT_FOR_RESOURCES` and
moves by these transitions only, and the recorded data are only touched in the
states which are there for it. -/
theorem appState_walks {settings : Settings} {s : Controller} (hInitial : s.Initial)
    {c : Configuration Response Local Controller Move} (h : (system settings).Reachable s c) :
    (appStates c.world).getLast? = some .waitForResources ∧
    (appStates c.world).IsChain (Moves settings) ∧
    ∀ before request response states,
      (before, .statement .watcher request response) ∈ c.world.trace →
        request.phase = some states → before.appState ∈ states := by
  refine ⟨(first_state h).trans (congrArg some hInitial.appState), moves_run hInitial h, ?_⟩
  exact fun before request response states hEntry hPhase => phase_run hInitial h hEntry hPhase

theorem appState_walks_startScan :
    ∃ c, (system plainSettings).run ((system plainSettings).initial (switchedOn true))
      (scanStartedBy .startScan) = some c ∧ c.world.state.appState = .scanning ∧
    (appStates c.world).IsChain (Moves plainSettings) := by
  have hRun : (system plainSettings).run ((system plainSettings).initial (switchedOn true))
      (scanStartedBy .startScan) = some _ := rfl
  have hReachable := System.Reachable.initial.run _ hRun
  exact ⟨_, hRun, rfl, (appState_walks (switchedOn_initial true) hReachable).2.1⟩

/-- The states in which the controller asks for help. -/
def IsError (state : States) : Prop := state = .lidarError ∨ state = .usbIoError

/-- No transition leads out of an error. -/
theorem IsError.stays {settings : Settings} {state state' : States} (h : IsError state)
    (hMoves : Moves settings state' state) : state' = state := by
  rcases hMoves with hSame | hTransition
  · exact hSame
  · rcases h with rfl | rfl
    all_goals
      cases hTransition with
      | requested hRequested => exact absurd hRequested.source (by decide)
      | lidarFails hMem => exact absurd hMem (by decide)
      | autostarts _ hMem => exact absurd hMem (by decide)
      | resumes hMem => exact absurd hMem (by decide)

/-- What never moves on from a value stays at it. -/
theorem stays_of_isChain {Value : Type} {R : Value → Value → Prop} {value : Value}
    (hStay : ∀ next, R next value → next = value) {values : List Value}
    (hChain : (values ++ [value]).IsChain R) : ∀ other ∈ values, other = value := by
  induction values with
  | nil => simp
  | cons first rest ih =>
      have hRest := ih (List.isChain_of_isChain_cons hChain)
      have hFirst : first = value := by
        cases rest with
        | nil => exact hStay first (List.isChain_cons_cons.mp hChain).1
        | cons second rest =>
            apply hStay first
            rw [← hRest second List.mem_cons_self]
            exact (List.isChain_cons_cons.mp hChain).1
      exact List.forall_mem_cons.mpr ⟨hFirst, hRest⟩

/-- The data are not touched in an error. -/
theorem WatcherRequest.phase_running {request : WatcherRequest} {states : List States}
    (h : request.phase = some states) {state : States} (hError : IsError state) :
    state ∉ states := by
  unfold WatcherRequest.phase at h
  split at h <;> cases h
  all_goals rcases hError with rfl | rfl <;> decide

/-- An error is final. Once the controller is in `LIDAR_ERROR` or
`USB_IO_ERROR`, no request and no thread changes its state, no log is started
or stopped, and nothing is retrieved or saved. Requests are indivisible steps: one
that was caught between its test and its store could still undo the error. -/
theorem errors_are_final {settings : Settings} {s : Controller} (hInitial : s.Initial)
    {c : Configuration Response Local Controller Move} (h : (system settings).Reachable s c)
    {later earlier : Trace} {before : Controller} {label : Label Response Move}
    (hTrace : c.world.trace = later ++ (before, label) :: earlier)
    (hError : IsError before.appState) :
    c.world.state.appState = before.appState ∧
    ∀ entry ∈ later, entry.1.appState = before.appState ∧
      ∀ request response, entry.2 = .statement .watcher request response →
        request.phase = none := by
  have hStates : appStates c.world = (c.world.state.appState :: later.map (·.1.appState)) ++
      [before.appState] ++ earlier.map (·.1.appState) := by
    simp [appStates, hTrace]
  have hChain := moves_run hInitial h
  rw [hStates] at hChain
  have hSame := stays_of_isChain (fun _ => hError.stays) hChain.left_of_append
  obtain ⟨hState, hLater⟩ := List.forall_mem_cons.mp hSame
  refine ⟨hState, fun entry hEntry => ⟨hLater _ (List.mem_map_of_mem hEntry), ?_⟩⟩
  obtain ⟨after, label'⟩ := entry
  rintro request response rfl
  have hMem : (after, .statement .watcher request response) ∈ c.world.trace := by
    rw [hTrace]
    exact List.mem_append_left _ hEntry
  cases hPhase : request.phase with
  | none => rfl
  | some states =>
      have hAfter : after.appState = before.appState := hLater _ (List.mem_map_of_mem hEntry)
      have hAllowed := phase_run hInitial h hMem hPhase
      rw [hAfter] at hAllowed
      exact absurd hAllowed (WatcherRequest.phase_running hPhase hError)

/-- The listener of the lidars cannot be started, and two requests come too
late. -/
def listenerFails : List (Choice Thread Move) :=
  steps .livox 5 ++ untilIdle ++ steps .watcher 11 ++
    [.move (.trigger .startScan), .move (.trigger .triggerStopScan)]

theorem errors_are_final_listenerFails :
    ∃ c, (system plainSettings).run
      ((system plainSettings).initial { switchedOn true with listenerStarts := false })
      listenerFails = some c ∧ c.world.state.appState = .lidarError := by
  have hRun : (system plainSettings).run
      ((system plainSettings).initial { switchedOn true with listenerStarts := false })
      listenerFails = some _ := rfl
  have hInitial : Controller.Initial { switchedOn true with listenerStarts := false } :=
    { switchedOn_initial true with }
  have hReachable := System.Reachable.initial.run _ hRun
  exact ⟨_, hRun, (errors_are_final hInitial hReachable
    (show _ = [_] ++ (_, _) :: _ from rfl) (.inl rfl)).1⟩

end Runs

end Mandeye.Controller
