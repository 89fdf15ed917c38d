import Mandeye.Controller.Rules

/-! A contract of the controller is put together from the branches of the
watcher: its quiet code, the tests which select a branch and the other threads
are dealt with here once. -/
namespace Mandeye.Controller

open Interleaving
open StateWatcher

section Calm

/-- Lights and sounds show the state; none of their code reads or moves anything which
is recorded. -/
theorem calm_setLeds (stopScan copyData continousScanning : Bool) :
    (setLeds stopScan copyData continousScanning).Issues Calm :=
  .bind (.perform trivial) fun _ => .bind (.perform trivial) fun _ => .perform trivial

/-- A light goes on and off with pauses in between. -/
theorem calm_blink (led : Led) (first : Bool) (milliseconds : Nat) :
    (blink led first milliseconds).Issues Calm :=
  .bind (.perform trivial) fun _ => .bind (.perform trivial) fun _ =>
    .bind (.perform trivial) fun _ => .perform trivial

/-- Blinking `n` times is as calm as blinking once. -/
theorem calm_blinkTimes (led : Led) (first : Bool) (milliseconds n : Nat) :
    (blinkTimes led first milliseconds n).Issues Calm := by
  induction n with
  | zero => exact .done
  | succ n ih => exact .bind (calm_blink led first milliseconds) fun _ => ih

/-- In an error all lights blink and, every now and then, the buzzer sounds. -/
theorem calm_showError (settings : Settings) (stopScan copyData continousScanning : Bool)
    (lastBeep : Nat) :
    (showError settings stopScan copyData continousScanning lastBeep).Issues Calm := by
  refine .bind (.perform trivial) fun _ => .when ?_
  refine .bind (calm_setLeds _ _ _) fun _ => .bind (.perform trivial) fun _ => ?_
  refine .bind (calm_setLeds _ _ _) fun _ => .bind (.perform trivial) fun _ => ?_
  exact .when (.perform trivial)

/-- The mode is published on every round, and is all that the publisher is told there. -/
theorem calm_publishState : publishState.Issues Calm := by
  refine .bind (.perform trivial) fun _ => .bind (.when ?_) fun _ => ?_
  · exact .bind (.perform trivial) fun _ => .perform trivial
  · exact .bind (.perform trivial) fun _ => .perform trivial

/-- What is shown when a scan starts. -/
theorem calm_showStart : showStart.Issues Calm := by
  refine .bind (.perform trivial) fun _ => .when (.bind (.perform trivial) fun _ => ?_)
  exact .bind (.perform trivial) fun _ => calm_blinkTimes _ _ _ _

/-- What is shown while data are copied. -/
theorem calm_showCopying : showCopying.Issues Calm :=
  .bind (.perform trivial) fun _ => .perform trivial

/-- What is shown before the logs of a stop scan are closed. -/
theorem calm_showStopScanClosing : showStopScanClosing.Issues Calm :=
  .bind (.perform trivial) fun _ => .when (.perform trivial)

/-- What is shown after a stop scan has been saved. -/
theorem calm_showStopScanEnd : showStopScanEnd.Issues Calm :=
  .bind (.perform trivial) fun _ => .when (.bind (.perform trivial) fun _ => .perform trivial)

end Calm

section Quiet

/-- The same code as above, under the weaker demand that it is quiet. -/
theorem issues_setLeds (stopScan copyData continousScanning : Bool) :
    (setLeds stopScan copyData continousScanning).Issues Quiet :=
  (calm_setLeds _ _ _).mono Calm.quiet

theorem issues_blink (led : Led) (first : Bool) (milliseconds : Nat) :
    (blink led first milliseconds).Issues Quiet :=
  (calm_blink _ _ _).mono Calm.quiet

theorem issues_blinkTimes (led : Led) (first : Bool) (milliseconds n : Nat) :
    (blinkTimes led first milliseconds n).Issues Quiet :=
  (calm_blinkTimes _ _ _ _).mono Calm.quiet

theorem issues_showError (settings : Settings) (stopScan copyData continousScanning : Bool)
    (lastBeep : Nat) :
    (showError settings stopScan copyData continousScanning lastBeep).Issues Quiet :=
  (calm_showError _ _ _ _ _).mono Calm.quiet

/-- The mode is published in between two tests of the state, which it does not
disturb. -/
theorem issues_publishState : publishState.Issues Quiet := calm_publishState.mono Calm.quiet

theorem issues_showStart : showStart.Issues Quiet := calm_showStart.mono Calm.quiet

theorem issues_showCopying : showCopying.Issues Quiet := calm_showCopying.mono Calm.quiet

theorem issues_showStopScanClosing : showStopScanClosing.Issues Quiet :=
  calm_showStopScanClosing.mono Calm.quiet

theorem issues_showStopScanEnd : showStopScanEnd.Issues Quiet :=
  calm_showStopScanEnd.mono Calm.quiet

end Quiet

section Working

/-- The calm statements and those which move the recorded data, but do not end
the lidar log. -/
def Working : WatcherRequest → Prop
  | .testAppState _ => False
  | .storeAppState _ => False
  | .stopLog => False
  | .storeIsLidarError => False
  | .lock _ => False
  | .unlock _ => False
  | .storeDeadline _ _ => False
  | .setWorkingDirectory _ _ => False
  | .createDirectoryForStopScans _ => False
  | .createDirectoryForContinousScanning _ => False
  | .isSynced => False
  | _ => True

/-- A calm statement is working, since it is none of those which are excluded. -/
theorem Calm.working (request : WatcherRequest) (h : Calm request) : Working request := by
  cases request with
  | testAppState state => exact h.elim
  | storeAppState state => exact h.elim
  | stopLog => exact h.elim
  | storeIsLidarError => exact h.elim
  | lock mutex => exact h.elim
  | unlock mutex => exact h.elim
  | storeDeadline deadline time => exact h.elim
  | setWorkingDirectory stopScanDirectory continousScanDirectory => exact h.elim
  | createDirectoryForStopScans idManifest => exact h.elim
  | createDirectoryForContinousScanning idManifest => exact h.elim
  | isSynced => exact h.elim
  | _ => trivial

/-- A chunk consists of its points, its IMU samples, its status and the list of lidars. -/
theorem working_saveLidarData (lidarBuffer imuBuffer : Option Nat) (directory : String)
    (chunk : Int32) : (saveLidarData lidarBuffer imuBuffer directory chunk).Issues Working :=
  .bind (.perform trivial) fun _ => .bind (.perform trivial) fun _ =>
    .bind (.perform trivial) fun _ => .bind (.perform trivial) fun _ => .perform trivial

/-- The last chunk is saved with what the GNSS client has left. -/
theorem working_saveLastChunk (buffers : Option Nat × Option Nat) (gnssData : List GgaCsvLine)
    (directory : String) (chunk : Int32) :
    (saveLastChunk buffers gnssData directory chunk).Issues Working :=
  .bind (working_saveLidarData _ _ _ _) fun _ => .bind (.perform trivial) fun _ =>
    .when (.perform trivial)

/-- Without a GNSS client there is nothing to retrieve. -/
theorem working_retrieveGnss (gnssClient : Bool) : (retrieveGnss gnssClient).Issues Working := by
  cases gnssClient with
  | false => exact .done
  | true => exact .bind (.perform trivial) fun _ => .bind (.perform trivial) fun _ => .done

end Working

section Plain

/-- The statements which neither look at the state nor change it. -/
def Plain : WatcherRequest → Prop
  | .testAppState _ => False
  | .storeAppState _ => False
  | .createDirectoryForStopScans _ => False
  | .createDirectoryForContinousScanning _ => False
  | _ => True

/-- A quiet statement neither tests nor stores the state, nor does it create a
directory. -/
theorem Quiet.plain (request : WatcherRequest) (h : Quiet request) : Plain request := by
  cases request with
  | testAppState state => exact h.elim
  | storeAppState state => exact h.elim
  | createDirectoryForStopScans idManifest => exact h.elim
  | createDirectoryForContinousScanning idManifest => exact h.elim
  | _ => trivial

/-- A working statement is plain. -/
theorem Working.plain (request : WatcherRequest) (h : Working request) : Plain request := by
  cases request with
  | testAppState state => exact h.elim
  | storeAppState state => exact h.elim
  | createDirectoryForStopScans idManifest => exact h.elim
  | createDirectoryForContinousScanning idManifest => exact h.elim
  | _ => trivial

/-- The saving of chunks where a contract only rules out tests, stores and
directories. -/
theorem issues_saveLidarData (lidarBuffer imuBuffer : Option Nat) (directory : String)
    (chunk : Int32) : (saveLidarData lidarBuffer imuBuffer directory chunk).Issues Plain :=
  (working_saveLidarData _ _ _ _).mono Working.plain

theorem issues_saveLastChunk (buffers : Option Nat × Option Nat) (gnssData : List GgaCsvLine)
    (directory : String) (chunk : Int32) :
    (saveLastChunk buffers gnssData directory chunk).Issues Plain :=
  (working_saveLastChunk _ _ _ _).mono Working.plain

theorem issues_retrieveGnss (gnssClient : Bool) : (retrieveGnss gnssClient).Issues Plain :=
  (working_retrieveGnss gnssClient).mono Working.plain

end Plain

section Issues

variable {allowed : WatcherRequest → Prop}

/-- The right operand is only executed if the left one holds. -/
theorem issues_andAlso {left : Bool} {right : Code Bool} (h : right.Issues allowed) :
    (andAlso left right).Issues allowed := by
  cases left with
  | false => exact .done
  | true => exact h

/-- The wait for the synchronisation asks the client once a second until it is in
sync. -/
theorem issues_isLidarSynced (hSleep : allowed (.sleepFor 1000))
    (hSet : allowed (.isSet .livoxCLientPtr)) (hSynced : allowed .isSynced) (n : Nat) :
    (isLidarSynced n).Issues allowed := by
  induction n with
  | zero => exact .done
  | succ n ih =>
      refine .bind (.perform hSleep) fun _ => .bind (.perform hSet) fun livoxCLient => ?_
      refine .bind (issues_andAlso (.perform hSynced)) fun synced => ?_
      cases synced with
      | false => exact ih
      | true => exact .done

/-- The quiet statements of `WAIT_FOR_RESOURCES`. -/
def Preparing : WatcherRequest → Prop
  | .lock _ => True
  | .unlock _ => True
  | .isSynced => True
  | .storeIsLidarError => True
  | .setWorkingDirectory _ _ => True
  | request => Calm request

/-- Everything which prepares the resources is quiet. -/
theorem Preparing.quiet (request : WatcherRequest) (h : Preparing request) : Quiet request := by
  cases request with
  | lock mutex => trivial
  | unlock mutex => trivial
  | isSynced => trivial
  | storeIsLidarError => trivial
  | setWorkingDirectory stopScanDirectory continousScanDirectory => trivial
  | _ => exact Calm.quiet _ h

/-- A lidar which is not in sync after sixty seconds is in error. -/
theorem issues_waitForLidarSync : waitForLidarSync.Issues Preparing :=
  .bind (issues_isLidarSynced trivial trivial trivial 60) fun _ => .when (.perform trivial)

/-- The branch of `WAIT_FOR_RESOURCES` prepares and then makes the state `IDLE`. -/
theorem issues_preparing (hPreparing : ∀ request, Preparing request → allowed request)
    (settings : Settings) (locals : Locals) (hStore : allowed (.storeAppState .idle)) :
    (waitForResources settings locals).Issues allowed := by
  have hBeep : ∀ durations, (call (.beep durations)).Issues allowed := fun durations =>
    .perform (hPreparing (.beep durations) trivial)
  refine .bind (.when (hBeep _)) fun _ => .bind (.perform (hPreparing _ trivial)) fun _ => ?_
  refine .bind (.perform (hPreparing _ trivial)) fun _ => ?_
  refine .bind (.perform (hPreparing _ trivial)) fun _ => ?_
  refine .bind (.when (issues_waitForLidarSync.mono hPreparing)) fun _ => ?_
  refine .bind (.perform (hPreparing _ trivial)) fun _ => ?_
  refine .bind (issues_andAlso (.perform (hPreparing _ trivial))) fun _ => ?_
  refine .bind (.when (.bind (.perform hStore) fun _ => .when (hBeep _))) fun _ => ?_
  refine .bind (.perform (hPreparing _ trivial)) fun _ => ?_
  refine .bind (.when (.perform (hPreparing _ trivial))) fun _ => ?_
  exact .bind (.perform (hPreparing _ trivial)) fun _ =>
    .bind (.perform (hPreparing _ trivial)) fun _ => .done

/-- The same for a contract which allows everything that is quiet. -/
theorem issues_waitForResources
    (hQuiet : ∀ request, Quiet request → allowed request) (settings : Settings) (locals : Locals)
    (hStore : allowed (.storeAppState .idle)) :
    (waitForResources settings locals).Issues allowed :=
  issues_preparing (fun request h => hQuiet request h.quiet) settings locals hStore

/-- Before its first round the watcher creates the directories. Where that fails, the state
becomes that of a USB error. -/
theorem issues_startUp (hClock : allowed .steadyClockNow)
    (hSet : allowed (.isSet .fileSystemClientPtr))
    (hStopScan : ∀ idManifest, allowed (.createDirectoryForStopScans idManifest))
    (hContinous : ∀ idManifest, allowed (.createDirectoryForContinousScanning idManifest))
    (hStore : allowed (.storeAppState .usbIoError)) : startUp.Issues allowed := by
  refine .bind (.perform hClock) fun _ => .bind (.perform hClock) fun _ => ?_
  refine .bind (.perform hClock) fun _ => ?_
  have hStopScanDirectory : createStopScanDirectory.Issues allowed := by
    refine .bind (.perform hSet) fun isSet => ?_
    cases isSet with
    | false => exact .done
    | true =>
        exact .bind (.perform (hStopScan 0)) fun _ => .bind (.when (.perform hStore)) fun _ => .done
  refine .bind ?_ fun _ => .done
  refine .bind hStopScanDirectory fun _ => .bind (.when (.perform hStore)) fun _ => ?_
  exact .bind (.perform (hContinous _)) fun _ => .bind (.when (.perform hStore)) fun _ => .done

variable (hCalm : ∀ request, Calm request → allowed request) (settings : Settings)
  (locals : Locals)

include hCalm

/-- The branches, one by one: what each of them needs to be allowed besides calm
statements. That of a USB error needs nothing. -/
theorem issues_usbIoError : (usbIoError settings locals).Issues allowed :=
  .bind ((calm_showError _ _ _ _ _).mono hCalm) fun _ => .done

/-- `IDLE` reacts to an error of the lidar, and starts by itself if it is told to. -/
theorem issues_idle (hLidarError : allowed (.storeAppState .lidarError))
    (hStartingScan : allowed (.storeAppState .startingScan)) :
    (idle settings locals).Issues allowed := by
  refine .bind (.perform (hCalm _ trivial)) fun _ => ?_
  refine .bind (.when (.perform hLidarError)) fun _ => ?_
  refine .bind (.perform (hCalm _ trivial)) fun _ => ?_
  refine .bind (.when ((calm_setLeds _ _ _).mono hCalm)) fun _ => ?_
  refine .bind (.perform (hCalm _ trivial)) fun _ => .bind (.when ?_) fun _ => .done
  exact .bind (.perform (hCalm _ trivial)) fun _ => .when (.perform hStartingScan)

/-- The logs are started before `SCANNING` is stored. -/
theorem issues_startingScan (hStartLog : allowed .startLog) (hGnss : allowed .gnssStartLog)
    (hStore : allowed (.storeAppState .scanning)) : (startingScan locals).Issues allowed := by
  refine .bind (calm_showStart.mono hCalm) fun _ => ?_
  refine .bind (.perform (hCalm _ trivial)) fun _ => .bind (.when ?_) fun _ => ?_
  · refine .bind (.perform hStartLog) fun _ => .bind (.perform (hCalm _ trivial)) fun _ => ?_
    exact .bind (.when (.perform hGnss)) fun _ => .perform hStore
  · exact .bind (.perform (hCalm _ trivial)) fun _ => .done

/-- After its five seconds a stop scan starts the logs in the same way. -/
theorem issues_stopScanInInitialProgress (hStartLog : allowed .startLog)
    (hGnss : allowed .gnssStartLog) (hStore : allowed (.storeAppState .stopScanInProgress)) :
    (stopScanInInitialProgress locals).Issues allowed := by
  refine .bind (.perform (hCalm _ trivial)) fun now => ?_
  split_ifs
  · exact .bind ((calm_blink _ _ _).mono hCalm) fun _ => .done
  · refine .bind (.bind (.perform (hCalm _ trivial)) fun _ => ?_) fun _ => .done
    refine .bind (.when ?_) fun _ => .bind (.perform (hCalm _ trivial)) fun _ => ?_
    · exact .bind (.perform (hCalm _ trivial)) fun _ => .perform hStartLog
    · exact .bind (.when (.perform hGnss)) fun _ => .perform hStore

/-- The light of a scan depends on the state, which is tested again for it. -/
theorem issues_showScanning (hTest : ∀ state, allowed (.testAppState state)) :
    showScanning.Issues allowed := by
  refine .bind (.perform (hCalm _ trivial)) fun _ => .when ?_
  exact .bind (.perform (hTest _)) fun _ => .when (.perform (hCalm _ trivial))

/-- A confirmation stage blinks until it has been confirmed or its time is up, when
the scan goes on. -/
theorem issues_confirmationStage (hTest : ∀ state, allowed (.testAppState state))
    (hStore : allowed (.storeAppState .scanning)) (stage : States) (deadline changeLed : Deadline)
    (hDeadline : ∀ time, allowed (.storeDeadline changeLed time)) (period : Int) (led : Bool) :
    (confirmationStage stage deadline changeLed period led).Issues allowed := by
  refine .bind (.perform (hTest stage)) fun entered => ?_
  cases entered with
  | false => exact .done
  | true =>
      refine .bind (.perform (hCalm _ trivial)) fun _ => ?_
      refine .bind (.perform (hCalm _ trivial)) fun _ => ?_
      refine .bind (.when ?_) fun _ => .bind (.perform (hCalm _ trivial)) fun _ => ?_
      · exact .bind (.perform (hCalm _ trivial)) fun _ =>
          .bind (.perform (hCalm _ trivial)) fun _ => .perform (hDeadline _)
      · exact .bind (.when (.perform hStore)) fun _ => .done

/-- A stop scan sets its two deadlines in the watcher's own variables. -/
theorem issues_startingStopScan (hStore : allowed (.storeAppState .stopScanInInitialProgress)) :
    (startingStopScan locals).Issues allowed := by
  refine .bind (.perform (hCalm _ trivial)) fun _ => ?_
  refine .bind (.when ((calm_setLeds _ _ _).mono hCalm)) fun _ => ?_
  exact .bind (.perform (hCalm _ trivial)) fun _ => .bind (.perform hStore) fun _ => .done

/-- A stop scan goes on until its second deadline. -/
theorem issues_stopScanInProgress (hStore : allowed (.storeAppState .stopingStopScan)) :
    (stopScanInProgress locals).Issues allowed :=
  .bind (.perform (hCalm _ trivial)) fun _ => .bind (.when (.perform hStore)) fun _ => .done

omit hCalm

variable (hWorking : ∀ request, Working request → allowed request)

include hWorking

/-- Without a directory the retrieved data are thrown away. -/
theorem issues_rotateChunk
    (hError : locals.continousScanDirectory = "" → allowed (.storeAppState .usbIoError)) :
    (rotateChunk locals).Issues allowed := by
  refine .bind (.perform (hWorking _ trivial)) fun _ => ?_
  refine .bind (.perform (hWorking _ trivial)) fun _ => ?_
  refine .bind (.perform (hWorking _ trivial)) fun buffers => ?_
  refine .bind (.perform (hWorking _ trivial)) fun gnssClient => ?_
  refine .bind ((working_retrieveGnss gnssClient).mono hWorking) ?_
  intro ⟨gnssBuffer, gnssRawBuffer⟩
  dsimp only
  split_ifs with hDirectory
  · exact .bind (.perform (hError hDirectory)) fun _ => .done
  · refine .bind ((working_saveLidarData _ _ _ _).mono hWorking) fun _ => ?_
    refine .bind (.perform (hWorking _ trivial)) fun _ => .bind (.when ?_) fun _ => ?_
    · exact .bind (.perform (hWorking _ trivial)) fun _ => .perform (hWorking _ trivial)
    · exact .bind (.perform (hWorking _ trivial)) fun _ => .done

/-- A chunk is ended in `SCANNING` only, which is tested once more. -/
theorem issues_checkChunk (now : Int) (hTest : ∀ state, allowed (.testAppState state))
    (hError : locals.continousScanDirectory = "" → allowed (.storeAppState .usbIoError)) :
    (checkChunk now locals).Issues allowed := by
  refine .bind (issues_andAlso (.perform (hTest _))) fun chunkEnds => ?_
  cases chunkEnds with
  | false => exact .done
  | true => exact issues_rotateChunk locals hWorking hError

/-- The branch of `SCANNING` and of the two confirmation stages. -/
theorem issues_scanning (hTest : ∀ state, allowed (.testAppState state))
    (hStore : allowed (.storeAppState .scanning))
    (hStage1 : ∀ time, allowed (.storeDeadline .stoppingStage1StartDeadlineChangeLed time))
    (hStage2 : ∀ time, allowed (.storeDeadline .stoppingStage2StartDeadlineChangeLed time))
    (hError : locals.continousScanDirectory = "" → allowed (.storeAppState .usbIoError)) :
    (scanning locals).Issues allowed := by
  have hCalm : ∀ request, Calm request → allowed request :=
    fun request h => hWorking request h.working
  refine .bind (issues_showScanning hCalm hTest) fun _ => ?_
  refine .bind (.perform (hWorking _ trivial)) fun now => ?_
  refine .bind (.when ((calm_blink _ _ _).mono hCalm)) fun _ => ?_
  refine .bind (.when ((calm_blink _ _ _).mono hCalm)) fun _ => ?_
  refine .bind (issues_checkChunk locals hWorking now hTest hError) fun _ => ?_
  have hStage := issues_confirmationStage hCalm hTest hStore
  exact .bind (hStage _ _ _ hStage1 _ _) fun _ => .bind (hStage _ _ _ hStage2 _ _) fun _ =>
    .bind (.perform (hWorking _ trivial)) fun _ => .done

/-- The last data are retrieved before the log is stopped, which also drops the
buffers. -/
theorem issues_closeLogs (hStopLog : allowed .stopLog) : closeLogs.Issues allowed := by
  refine .bind (.perform (hWorking _ trivial)) fun _ => .bind (.perform hStopLog) fun _ => ?_
  refine .bind (.perform (hWorking _ trivial)) fun gnssClient => ?_
  cases gnssClient with
  | false => exact .done
  | true =>
      exact .bind (.perform (hWorking _ trivial)) fun _ =>
        .bind (.perform (hWorking _ trivial)) fun _ => .done

/-- `STOPPING` closes the logs, saves the last chunk and goes back to `IDLE`. -/
theorem issues_stopping (hStore : allowed (.storeAppState .idle)) (hStopLog : allowed .stopLog)
    (hError : locals.continousScanDirectory = "" → allowed (.storeAppState .usbIoError)) :
    (stopping locals).Issues allowed := by
  have hCalm : ∀ request, Calm request → allowed request :=
    fun request h => hWorking request h.working
  refine .bind (calm_showCopying.mono hCalm) fun _ => ?_
  refine .bind (issues_closeLogs hWorking hStopLog) fun ⟨buffers, gnssData⟩ => ?_
  refine .bind ((calm_blinkTimes _ _ _ _).mono hCalm) fun _ => ?_
  refine .bind (calm_showCopying.mono hCalm) fun _ => ?_
  split_ifs with hDirectory
  · exact .bind (.perform (hError hDirectory)) fun _ => .done
  · refine .bind ((working_saveLastChunk _ _ _ _).mono hWorking) fun _ => ?_
    refine .bind (.perform (hWorking _ trivial)) fun _ => ?_
    exact .bind (.perform hStore) fun _ => .done

/-- The end of a stop scan does the same in its own directory. -/
theorem issues_stopingStopScan (hStore : allowed (.storeAppState .idle))
    (hStopLog : allowed .stopLog)
    (hError : locals.stopScanDirectory = "" → allowed (.storeAppState .usbIoError)) :
    (stopingStopScan locals).Issues allowed := by
  have hCalm : ∀ request, Calm request → allowed request :=
    fun request h => hWorking request h.working
  refine .bind (calm_showStopScanClosing.mono hCalm) fun _ => ?_
  refine .bind (issues_closeLogs hWorking hStopLog) fun ⟨buffers, gnssData⟩ => ?_
  dsimp only
  split_ifs with hDirectory
  · exact .bind (.perform (hError hDirectory)) fun _ => .done
  · refine .bind ((working_saveLastChunk _ _ _ _).mono hWorking) fun _ => ?_
    refine .bind (calm_showStopScanEnd.mono hCalm) fun _ => ?_
    exact .bind (.perform hStore) fun _ => .done

end Issues

section Rounds

variable {settings : Settings} {g : WatcherRequest → History → Prop} {P : History → Prop}
  {E : States → History → Prop}

/-- One triple for each branch of the `else if` chain. -/
structure BranchTriples (settings : Settings) (g : WatcherRequest → History → Prop)
    (E : States → History → Prop) (locals : Locals) (Q : Locals → History → Prop) : Prop where
  usbIoError : WatcherTriple settings g (E .usbIoError) (usbIoError settings locals) Q
  waitForResources :
    WatcherTriple settings g (E .waitForResources) (waitForResources settings locals) Q
  idle : WatcherTriple settings g (E .idle) (idle settings locals) Q
  startingScan : WatcherTriple settings g (E .startingScan) (startingScan locals) Q
  scanning : ∀ state, state = .scanning ∨ state = .stoppingStage1 ∨ state = .stoppingStage2 →
    WatcherTriple settings g (E state) (scanning locals) Q
  stopping : WatcherTriple settings g (E .stopping) (stopping locals) Q
  startingStopScan : WatcherTriple settings g (E .startingStopScan) (startingStopScan locals) Q
  stopScanInInitialProgress :
    WatcherTriple settings g (E .stopScanInInitialProgress) (stopScanInInitialProgress locals) Q
  stopScanInProgress :
    WatcherTriple settings g (E .stopScanInProgress) (stopScanInProgress locals) Q
  stopingStopScan : WatcherTriple settings g (E .stopingStopScan) (stopingStopScan locals) Q

/-- The triples in the form in which the `else if` chain takes its branches. -/
theorem BranchTriples.branches {locals : Locals} {Q : Locals → History → Prop}
    (h : BranchTriples settings g E locals Q) :
    ∀ entry ∈ branches settings locals, ∀ state ∈ entry.1,
      WatcherTriple settings g (E state) entry.2 Q := by
  have hSingle : ∀ {state : States} {code : Code Locals},
      WatcherTriple settings g (E state) code Q →
        ∀ other ∈ [state], WatcherTriple settings g (E other) code Q := by
    intro state code hCode other hOther
    cases List.mem_singleton.mp hOther
    exact hCode
  have hScanning : ∀ state ∈ [States.scanning, .stoppingStage1, .stoppingStage2],
      WatcherTriple settings g (E state) (StateWatcher.scanning locals) Q := by
    simpa using h.scanning
  refine List.forall_mem_cons.mpr ⟨hSingle h.usbIoError, ?_⟩
  refine List.forall_mem_cons.mpr ⟨hSingle h.waitForResources, ?_⟩
  refine List.forall_mem_cons.mpr ⟨hSingle h.idle, ?_⟩
  refine List.forall_mem_cons.mpr ⟨hSingle h.startingScan, ?_⟩
  refine List.forall_mem_cons.mpr ⟨hScanning, ?_⟩
  refine List.forall_mem_cons.mpr ⟨hSingle h.stopping, ?_⟩
  refine List.forall_mem_cons.mpr ⟨hSingle h.startingStopScan, ?_⟩
  refine List.forall_mem_cons.mpr ⟨hSingle h.stopScanInInitialProgress, ?_⟩
  refine List.forall_mem_cons.mpr ⟨hSingle h.stopScanInProgress, ?_⟩
  exact List.forall_mem_singleton.mpr (hSingle h.stopingStopScan)

/-- One round of the watcher is made up of the test of `isRunning`, the publishing,
the test for an error of the lidar, and the branch of the state. -/
theorem Tests.round (h : Tests settings g P E) {locals : Locals}
    {post : Option Locals → History → Prop}
    (hRunning : (machine settings).Preserves (guarantee g) .watcher P .isRunning)
    (hShow : WatcherTriple settings g P publishState fun _ => P)
    (hError : WatcherTriple settings g (E .lidarError) (lidarError settings) fun _ => P)
    (hBranches : BranchTriples settings g E locals fun locals => post (some locals))
    (hGoOn : ∀ w, P w → post (some locals) w) (hEnd : ∀ w, P w → post none w) :
    WatcherTriple settings g P (round settings locals) post := by
  have hTested : WatcherTriple settings g P (call .isRunning) fun _ => P :=
    Machine.Keeps.of_issues h.stable (.perform hRunning)
  refine hTested.bind fun running => ?_
  cases running with
  | false => exact triple_return none h.stable hEnd
  | true =>
      refine hShow.bind fun _ => (h.test .lidarError).bind fun error => ?_
      have hShown : WatcherTriple settings g
          (fun w => if error = true then E .lidarError w else P w)
          (.when error (lidarError settings)) fun _ => P := by
        cases error with
        | false => exact triple_return () h.stable fun w hw => hw
        | true => exact hError
      refine hShown.bind fun _ => .map some ?_
      exact h.elseIf (triple_return locals h.stable hGoOn) _ hBranches.branches

/-- For a contract which observes the state the quiet parts are dealt with. -/
theorem Observes.round (h : Observes settings g P E) {locals : Locals}
    {post : Option Locals → History → Prop}
    (hError : WatcherTriple settings g (E .lidarError) (lidarError settings) fun _ => P)
    (hBranches : BranchTriples settings g E locals fun locals => post (some locals))
    (hGoOn : ∀ w, P w → post (some locals) w) (hEnd : ∀ w, P w → post none w) :
    WatcherTriple settings g P (round settings locals) post :=
  h.tests.round (h.robust.quiet .isRunning trivial) (h.robust.keeps issues_publishState) hError
    hBranches hGoOn hEnd

end Rounds

section Threads

variable (settings : Settings) (g : WatcherRequest → History → Prop)

/-- Nothing at all is a stable assertion. -/
theorem stable_true (t : Thread) :
    (machine settings).Stable (guarantee g) t fun _ => True := fun _ _ _ _ => trivial

variable {settings g}

/-- Any code may be run where only the guarantee is asked for and it asks for nothing. -/
theorem keeps_true {t : Thread} {Result : Type} (code : Program (Request t) (Response t) Result)
    (hGuarantee : ∀ request w, guarantee g t request w) :
    (machine settings).Triple (guarantee g) t (fun _ => True) code fun _ _ => True :=
  Machine.Keeps.of_issues (stable_true settings g t) <| .of_forall code fun request w _ =>
    ⟨hGuarantee request w, fun _ _ _ => trivial⟩

variable (settings g)

/-- Only the Livox thread creates clients, so what it knows of them is stable. -/
theorem stable_clients (assertion : Bool × Bool → Prop) :
    (machine settings).Stable (guarantee g) .livox fun w => assertion w.state.clients := by
  rintro w w' (hMove | ⟨hOther, -, hPerform⟩) hw
  · exact (congrArg assertion (move_clients hMove)).mpr hw
  · exact (congrArg assertion (perform_clients hOther hPerform)).mpr hw

/-- A statement of the Livox thread which creates no client. -/
theorem triple_livox_call (assertion : Bool × Bool → Prop) (request : LivoxRequest)
    (hRequest : ¬Creates request) :
    (machine settings).Triple (guarantee g) .livox (fun w => assertion w.state.clients)
      (LivoxThread.call request) fun _ w => assertion w.state.clients := by
  have hStable := stable_clients settings g assertion
  refine .perform hStable (fun _ => hStable) ?_ ?_
  · intro w _
    cases request with
    | createLivoxClient => exact absurd trivial hRequest
    | createGnssClient => exact absurd trivial hRequest
    | _ => trivial
  · intro w response s hw hPerform
    exact (congrArg assertion (performLivox_changes hRequest hPerform).clients).mpr hw

/-- The Livox thread creates its clients once. -/
theorem triple_livox :
    (machine settings).Triple (guarantee g) .livox (fun w => w.state.clients = (false, false))
      (LivoxThread.start settings) fun _ _ => True := by
  have hNoGnssStable := stable_clients settings g (·.2 = false)
  have hLivox : (machine settings).Triple (guarantee g) .livox
      (fun w => w.state.clients = (false, false)) (LivoxThread.call .createLivoxClient)
      fun _ w => w.state.clients.2 = false := by
    refine .perform (stable_clients settings g (· = (false, false)))
      (fun _ => hNoGnssStable) ?_ ?_
    · intro w hw
      simpa [guarantee, clients] using congrArg Prod.fst hw
    · intro w response s hw hPerform
      cases hPerform
      exact congrArg Prod.snd hw
  have hGnss : (machine settings).Triple (guarantee g) .livox
      (fun w => w.state.clients.2 = false) (LivoxThread.call .createGnssClient)
      fun _ _ => True := by
    refine .perform hNoGnssStable (fun _ => stable_true settings g .livox) ?_ ?_
    · intro w hw
      simpa [guarantee, clients] using hw
    · exact fun _ _ _ _ _ => trivial
  have hFree := triple_livox_call settings g (· = (false, false))
  have hNoGnss := triple_livox_call settings g (·.2 = false)
  have hAny := triple_livox_call settings g fun _ => True
  have hError : ∀ started, (machine settings).Triple (guarantee g) .livox
      (fun w => w.state.clients.2 = false)
      (.when (!started) (LivoxThread.call .storeIsLidarError))
      fun _ w => w.state.clients.2 = false := fun _ =>
    .when (fun _ => hNoGnss .storeIsLidarError id) fun _ => .done hNoGnssStable fun _ h => h
  have hPort : (machine settings).Triple (guarantee g) .livox
      (fun w => w.state.clients.2 = false)
      (.when (settings.gnssPort ≠ "") do
        LivoxThread.call .createGnssClient
        LivoxThread.call .gnssStartListener
        LivoxThread.call .gnssSetDataCallback)
      fun _ _ => True := by
    refine .when (fun _ => ?_) fun _ => .done hNoGnssStable fun _ _ => trivial
    exact hGnss.bind fun _ => (hAny .gnssStartListener id).bind fun _ =>
      hAny .gnssSetDataCallback id
  refine (hFree (.lock .livoxClientPtrLock) id).bind fun _ => hLivox.bind fun _ => ?_
  refine (hNoGnss (.unlock .livoxClientPtrLock) id).bind fun _ => ?_
  refine (hNoGnss .startListener id).bind fun started => (hError started).bind fun _ => ?_
  refine hPort.bind fun _ => (hAny .createPublisher id).bind fun _ => ?_
  exact .done (stable_true settings g .livox) fun _ h => h

variable {settings g}

/-- Nothing is expected of the threads other than the watcher. -/
def posts (post : Option Locals → History → Prop) :
    (t : Thread) → Option (Local t) → History → Prop
  | .watcher => post
  | .livox => fun _ _ => True
  | .gpio => fun _ _ => True
  | .gnss => fun _ _ => True

/-- The other threads keep their side of any contract of the watcher. -/
theorem contract_of_watcher {post : Option Locals → History → Prop}
    (hStart : ∀ s : Controller, s.Initial →
      WatcherTriple settings g (fun w => w = ⟨s, []⟩) startUp post)
    (hRound : ∀ locals,
      WatcherTriple settings g (post (some locals)) (round settings locals) post) :
    (system settings).Contract (guarantee g) Controller.Initial (posts post) := by
  have hGpio : ∀ (request : GpioRequest) w, guarantee g .gpio request w := fun _ _ => trivial
  have hGnss : ∀ (request : GnssRequest) w, guarantee g .gnss request w := fun _ _ => trivial
  constructor
  · intro t s hInitial
    cases t with
    | watcher => exact hStart s hInitial
    | livox =>
        refine (triple_livox settings g).mono ?_ fun _ _ h => h
        rintro w rfl
        simp [clients, hInitial.livoxCLientPtr, hInitial.gnssClientPtr]
    | gpio => exact (keeps_true _ hGpio).mono (fun _ _ => trivial) fun _ _ h => h
    | gnss => exact (keeps_true _ hGnss).mono (fun _ _ => trivial) fun _ _ h => h
  · intro t locals
    cases t with
    | watcher => exact hRound locals
    | livox => exact .done (stable_true settings g .livox) fun _ h => h
    | gpio => exact keeps_true _ hGpio
    | gnss => exact keeps_true _ hGnss

/-- Whatever the watcher does, each client is created once. -/
theorem clients_contract (settings : Settings) :
    (system settings).Contract (guarantee fun _ _ => True) Controller.Initial
      (posts fun _ _ => True) := by
  have hWatcher : ∀ {Result : Type} (code : Code Result),
      WatcherTriple settings (fun _ _ => True) (fun _ => True) code fun _ _ => True :=
    fun code => keeps_true (t := .watcher) code fun _ _ => trivial
  apply contract_of_watcher
  · exact fun s _ => (hWatcher startUp).mono (fun _ _ => trivial) fun _ _ h => h
  · exact fun locals => hWatcher (round settings locals)

end Threads

end Mandeye.Controller
