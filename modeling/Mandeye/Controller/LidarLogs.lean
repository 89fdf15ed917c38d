import Mandeye.Controller.Rounds

/-! Whether the lidar logs run when the watcher takes their data. A continuous
scan waits in `STARTING_SCAN` for the lidar client, a stop scan goes on without
it: its logs are then never started. -/
namespace Mandeye.Controller

open Interleaving
open StateWatcher

/-- A stop scan begins without a lidar client. -/
def missesClient : Controller × Label Response Move → Bool
  | (s, .statement .watcher (.isSet .livoxCLientPtr) false) =>
      s.appState = .stopScanInInitialProgress
  | _ => false

def Clean (w : History) : Prop := ∀ entry ∈ w.trace, missesClient entry = false

/-- Both lidar logs are running. -/
def Logging (s : Controller) : Prop :=
  ∃ client, s.livoxCLientPtr = some client ∧
    client.bufferLivox.pointer ≠ none ∧ client.bufferIMU.pointer ≠ none

/-- The states in which data are taken out of the logs or will be. -/
def Recording : States → Prop
  | .scanning => True
  | .stoppingStage1 => True
  | .stoppingStage2 => True
  | .stopping => True
  | .stopScanInProgress => True
  | .stopingStopScan => True
  | _ => False

/-- No null pointer is followed on the way from the logs to the files. -/
def logGuarantee : WatcherRequest → History → Prop
  | .retrieveData, w => Clean w → Logging w.state
  | .stopLog, w => Clean w → Logging w.state
  | .getSerialNumberToLidarIdMapping, w => Clean w → w.state.livoxCLientPtr ≠ none
  | .savePointcloudData buffer _ _, w => Clean w → buffer ≠ none
  | .saveImuData buffer _ _, w => Clean w → buffer ≠ none
  | _, _ => True

/-- The logs are running. -/
def Logs (w : History) : Prop := Clean w → Logging w.state

/-- The logs are running if the state says so. -/
def Safe (w : History) : Prop := Recording w.state.appState → Logs w

/-- The logs may be closed, but the client is there. -/
def HasClient (w : History) : Prop := Clean w → w.state.livoxCLientPtr ≠ none

def HasBuffers (buffers : Option Nat × Option Nat) (w : History) : Prop :=
  Clean w → buffers.1 ≠ none ∧ buffers.2 ≠ none

/-- In the branch of this state. -/
def InBranch (state : States) (w : History) : Prop :=
  Safe w ∧ (Recording state → Logs w) ∧
    (state = .stopScanInInitialProgress → w.state.appState = .stopScanInInitialProgress)

section Histories

variable {w : History} {label : Label Response Move} {s : Controller}

theorem clean_record :
    Clean (w.record label s) ↔ missesClient (w.state, label) = false ∧ Clean w := by
  simp [Clean, World.record]

theorem Logging.client (h : Logging s) : s.livoxCLientPtr ≠ none := by
  obtain ⟨client, hClient, -⟩ := h
  simp [hClient]

theorem Logging.of_same {s' : Controller} (h : Logging s)
    (hSame : s'.livoxCLientPtr = s.livoxCLientPtr) : Logging s' := by
  obtain ⟨client, hClient, hPointers⟩ := h
  exact ⟨client, hSame.trans hClient, hPointers⟩

theorem Logs.safe (h : Logs w) : Safe w := fun _ => h

theorem Requested.recording {state state' : States} (h : Requested state state')
    (hRecording : Recording state') : Recording state := by
  cases h with
  | startingScan h => exact hRecording.elim
  | startingStopScan h => exact hRecording.elim
  | _ => trivial

/-- A callback appends to the buffers, if anything. -/
theorem logging_move {settings : Settings} {action : Move} {s' : Controller}
    (h : move settings action s = some s') (hLogging : Logging s) : Logging s' := by
  obtain ⟨client, hClient, hPoints, hSamples⟩ := hLogging
  rcases move_cases h with ⟨request, -, rfl⟩ | ⟨event, client', -, hClient', rfl⟩ | ⟨-, hSame⟩
  · rcases trigger_livoxCLientPtr settings request s with hSame | hMap
    · exact ⟨client, hSame.trans hClient, hPoints, hSamples⟩
    · obtain ⟨hLivox, hIMU⟩ := initializeDuration_buffers client
      refine ⟨client.initializeDuration, ?_, hLivox ▸ hPoints, hIMU ▸ hSamples⟩
      rw [hMap, hClient, Option.map_some]
  · obtain rfl : client = client' := Option.some.inj (hClient.symm.trans hClient')
    refine ⟨_, rfl, ?_, ?_⟩
    · simpa [callback_bufferLivox] using hPoints
    · simpa [callback_bufferIMU] using hSamples
  · exact ⟨client, hSame.livoxCLientPtr.trans hClient, hPoints, hSamples⟩

end Histories

/-- The still statements which need no guarantee. -/
def Gentle : WatcherRequest → Prop
  | .getSerialNumberToLidarIdMapping => False
  | .savePointcloudData _ _ _ => False
  | .saveImuData _ _ _ => False
  | request => Still request

theorem Gentle.still {request : WatcherRequest} (h : Gentle request) : Still request := by
  cases request with
  | getSerialNumberToLidarIdMapping => exact h.elim
  | savePointcloudData buffer directory chunk => exact h.elim
  | saveImuData buffer directory chunk => exact h.elim
  | _ => exact h

theorem Gentle.allowed {request : WatcherRequest} (h : Gentle request) (w : History) :
    logGuarantee request w := by
  cases request with
  | getSerialNumberToLidarIdMapping => exact h.elim
  | savePointcloudData buffer directory chunk => exact h.elim
  | saveImuData buffer directory chunk => exact h.elim
  | retrieveData => exact h.elim
  | stopLog => exact h.elim
  | _ => trivial

theorem Quiet.gentle (request : WatcherRequest) (h : Quiet request) : Gentle request := by
  cases request with
  | storeAppState state => exact h.elim
  | startLog => exact h.elim
  | stopLog => exact h.elim
  | retrieveData => exact h.elim
  | getSerialNumberToLidarIdMapping => exact h.elim
  | savePointcloudData buffer directory chunk => exact h.elim
  | saveImuData buffer directory chunk => exact h.elim
  | _ => trivial

/-- An assertion about the state and the lidar logs only. -/
structure AboutLogs (settings : Settings) (A : History → Prop) : Prop where
  stable : WatcherStable settings logGuarantee A
  record : ∀ w label s, A w → s.appState = w.state.appState →
    s.livoxCLientPtr = w.state.livoxCLientPtr → A (w.record label s)

section Assertions

variable {settings : Settings} {A B : History → Prop}

theorem AboutLogs.preserves (h : AboutLogs settings A) {request : WatcherRequest}
    (hStill : Still request) (hAllowed : ∀ w, A w → logGuarantee request w) :
    (machine settings).Preserves (guarantee logGuarantee) .watcher A request := by
  refine fun w hw => ⟨hAllowed w hw, fun response s hPerform => ?_⟩
  obtain ⟨hState, hClient⟩ := hStill.same hPerform
  exact h.record w _ s hw hState hClient

theorem AboutLogs.preserves_gentle (h : AboutLogs settings A) (request : WatcherRequest)
    (hGentle : Gentle request) :
    (machine settings).Preserves (guarantee logGuarantee) .watcher A request :=
  h.preserves hGentle.still fun w _ => hGentle.allowed w

theorem AboutLogs.robust (h : AboutLogs settings A) : Robust settings logGuarantee A :=
  ⟨h.stable, fun request hQuiet => h.preserves_gentle request (hQuiet.gentle request)⟩

theorem AboutLogs.keeps (h : AboutLogs settings A) {Result : Type} {code : Code Result}
    (hCode : code.Issues Gentle) : WatcherTriple settings logGuarantee A code fun _ => A :=
  Machine.Keeps.of_issues h.stable (hCode.mono h.preserves_gentle)

theorem AboutLogs.and (hA : AboutLogs settings A) (hB : AboutLogs settings B) :
    AboutLogs settings fun w => A w ∧ B w :=
  ⟨hA.stable.and hB.stable, fun w label s hw hState hClient =>
    ⟨hA.record w label s hw.1 hState hClient, hB.record w label s hw.2 hState hClient⟩⟩

theorem AboutLogs.imp (p : Prop) (hA : AboutLogs settings A) :
    AboutLogs settings fun w => p → A w :=
  ⟨fun w w' h hw hp => hA.stable w w' h (hw hp), fun w label s hw hState hClient hp =>
    hA.record w label s (hw hp) hState hClient⟩

variable (settings)

theorem logging_interference {w w' : History}
    (h : (machine settings).Interference (guarantee logGuarantee) .watcher w w')
    (hLogging : Logging w.state) : Logging w'.state := by
  obtain ⟨hMove⟩ | ⟨hOther, hGuarantee, hPerform⟩ := h
  · exact logging_move hMove hLogging
  · rcases perform_livoxCLientPtr hOther hGuarantee hPerform with hSame | ⟨hNone, -⟩
    · exact hLogging.of_same hSame
    · exact absurd hNone hLogging.client

theorem aboutLogs_logs : AboutLogs settings Logs where
  stable := by
    intro w w' h hw
    obtain ⟨label, s, rfl, -⟩ := interference_record h
    exact fun hClean => logging_interference settings h (hw (clean_record.mp hClean).2)
  record w label s hw _ hClient hClean := (hw (clean_record.mp hClean).2).of_same hClient

theorem aboutLogs_safe : AboutLogs settings Safe where
  stable := by
    intro w w' h hw hRecording
    refine (aboutLogs_logs settings).stable w w' h (hw ?_)
    obtain ⟨label, s, rfl, -, hSame | hRequested⟩ := interference_record h
    · rwa [← hSame]
    · exact hRequested.recording hRecording
  record w label s hw hState hClient hRecording := by
    refine (aboutLogs_logs settings).record w label s (hw ?_) hState hClient
    rwa [← hState]

theorem aboutLogs_hasClient : AboutLogs settings HasClient where
  stable := by
    intro w w' h hw
    obtain ⟨hMove⟩ | ⟨hOther, hGuarantee, hPerform⟩ := h
    · intro hClean
      have hBefore := hw (clean_record.mp hClean).2
      have hClients := congrArg Prod.fst (move_clients hMove)
      simp only [clients] at hClients
      simpa [← Option.isSome_iff_ne_none, World.record, hClients] using hBefore
    · intro hClean
      have hBefore := hw (clean_record.mp hClean).2
      rcases perform_livoxCLientPtr hOther hGuarantee hPerform with hSame | ⟨hNone, -⟩
      · simpa [World.record, hSame] using hBefore
      · exact absurd hNone hBefore
  record w label s hw _ hClient hClean := by
    simpa [World.record, hClient] using hw (clean_record.mp hClean).2

theorem aboutLogs_hasBuffers (buffers : Option Nat × Option Nat) :
    AboutLogs settings (HasBuffers buffers) where
  stable := by
    intro w w' h hw
    obtain ⟨label, s, rfl, -⟩ := interference_record h
    exact fun hClean => hw (clean_record.mp hClean).2
  record w label s hw _ _ hClean := hw (clean_record.mp hClean).2

/-- No request leaves the first phase of a stop scan. -/
theorem aboutLogs_stopScan :
    AboutLogs settings fun w => w.state.appState = .stopScanInInitialProgress where
  stable := by
    intro w w' h hw
    obtain ⟨label, s, rfl, -, hSame | hRequested⟩ := interference_record h
    · exact hSame.trans hw
    · exact absurd hRequested.source (by rw [hw]; decide)
  record _ _ _ hw hState _ := hState.trans hw

theorem aboutLogs_inBranch (state : States) : AboutLogs settings (InBranch state) :=
  (aboutLogs_safe settings).and
    ((aboutLogs_logs settings |>.imp _).and (aboutLogs_stopScan settings |>.imp _))

theorem observes_safe : Observes settings logGuarantee Safe InBranch where
  robust := (aboutLogs_safe settings).robust
  entered state := (aboutLogs_inBranch settings state).stable
  allowed _ _ _ := trivial
  found w hw := ⟨(aboutLogs_safe settings).record w _ _ hw rfl rfl,
    fun hRecording => (aboutLogs_logs settings).record w _ _ (hw hRecording) rfl rfl, id⟩
  notFound _ w hw _ := (aboutLogs_safe settings).record w _ _ hw rfl rfl

end Assertions

section Statements

variable (settings : Settings) {A : History → Prop}

theorem triple_startLog (hStable : WatcherStable settings logGuarantee A) :
    WatcherTriple settings logGuarantee A (call .startLog) fun _ => Logs := by
  refine .perform hStable (fun _ => (aboutLogs_logs settings).stable) (fun _ _ => trivial) ?_
  intro w response s _ hPerform
  obtain ⟨client, -, -, rfl⟩ := withLivox_returns hPerform
  exact fun _ => ⟨_, rfl, by simp, by simp⟩

/-- Afterwards there are fresh buffers, and those handed out were not null. -/
theorem triple_retrieveData :
    WatcherTriple settings logGuarantee Logs (call .retrieveData)
      fun buffers w => Logs w ∧ HasBuffers buffers w := by
  refine .perform (aboutLogs_logs settings).stable
    (fun buffers => ((aboutLogs_logs settings).and (aboutLogs_hasBuffers settings buffers)).stable)
    (fun _ hw => hw) ?_
  intro w buffers s hw hPerform
  obtain ⟨client, hClient, rfl, rfl⟩ := withLivox_returns hPerform
  refine ⟨fun _ => ⟨_, rfl, by simp, by simp⟩, fun hClean => ?_⟩
  obtain ⟨other, hOther, hPoints, hSamples⟩ := hw (clean_record.mp hClean).2
  cases hClient.symm.trans hOther
  exact ⟨hPoints, hSamples⟩

theorem triple_stopLog (buffers : Option Nat × Option Nat) :
    WatcherTriple settings logGuarantee (fun w => Logs w ∧ HasBuffers buffers w) (call .stopLog)
      fun _ w => HasClient w ∧ HasBuffers buffers w := by
  refine .perform ((aboutLogs_logs settings).and (aboutLogs_hasBuffers settings buffers)).stable
    (fun _ => ((aboutLogs_hasClient settings).and (aboutLogs_hasBuffers settings buffers)).stable)
    (fun _ hw => hw.1) ?_
  intro w response s hw hPerform
  obtain ⟨client, -, -, rfl⟩ := withLivox_returns hPerform
  exact ⟨fun _ => by simp [World.record], fun hClean => hw.2 (clean_record.mp hClean).2⟩

theorem triple_store {state : States} (hStable : WatcherStable settings logGuarantee A)
    (h : ∀ w, A w → Recording state → Logs w) :
    WatcherTriple settings logGuarantee A (call (.storeAppState state)) fun _ => Safe := by
  refine .perform hStable (fun _ => (aboutLogs_safe settings).stable) (fun _ _ => trivial) ?_
  intro w response s hw hPerform
  cases hPerform
  intro hRecording hClean
  exact (h w hw hRecording (clean_record.mp hClean).2).of_same rfl

/-- Storing to `app_state` does not concern the logs. -/
theorem preserves_logs_store (state : States) :
    (machine settings).Preserves (guarantee logGuarantee) .watcher Logs
      (.storeAppState state) := by
  refine fun w hw => ⟨trivial, fun response s hPerform => ?_⟩
  cases hPerform
  exact fun hClean => (hw (clean_record.mp hClean).2).of_same rfl

theorem preserves_safe_store {state : States} (hState : ¬Recording state) :
    (machine settings).Preserves (guarantee logGuarantee) .watcher Safe
      (.storeAppState state) := by
  refine fun w hw => ⟨trivial, fun response s hPerform => ?_⟩
  cases hPerform
  exact fun hRecording => absurd hRecording hState

theorem triple_saveLidarData (hA : AboutLogs settings A) (hClient : ∀ w, A w → HasClient w)
    {buffers : Option Nat × Option Nat} (hBuffers : ∀ w, A w → HasBuffers buffers w)
    (directory : String) (chunk : Int32) :
    WatcherTriple settings logGuarantee A (saveLidarData buffers.1 buffers.2 directory chunk)
      fun _ => A := by
  refine Machine.Keeps.of_issues hA.stable ?_
  refine .bind (.perform (hA.preserves trivial fun w hw hClean => (hBuffers w hw hClean).1))
    fun _ => ?_
  refine .bind (.perform (hA.preserves trivial fun w hw hClean => (hBuffers w hw hClean).2))
    fun _ => ?_
  refine .bind (.perform (hA.preserves_gentle _ trivial)) fun _ => ?_
  refine .bind (.perform (hA.preserves trivial hClient)) fun _ => ?_
  exact .perform (hA.preserves_gentle _ trivial)

theorem triple_saveLastChunk (hA : AboutLogs settings A) (hClient : ∀ w, A w → HasClient w)
    {buffers : Option Nat × Option Nat} (hBuffers : ∀ w, A w → HasBuffers buffers w)
    (gnssData : List GgaCsvLine) (directory : String) (chunk : Int32) :
    WatcherTriple settings logGuarantee A (saveLastChunk buffers gnssData directory chunk)
      fun _ => A :=
  (triple_saveLidarData settings hA hClient hBuffers directory chunk).bind fun _ =>
    hA.keeps (.bind (.perform trivial) fun _ => .when (.perform trivial))

theorem triple_closeLogs :
    WatcherTriple settings logGuarantee Logs closeLogs
      fun closed w => HasClient w ∧ HasBuffers closed.1 w := by
  refine (triple_retrieveData settings).bind fun buffers =>
    (triple_stopLog settings buffers).bind fun _ => ?_
  have hClosed := (aboutLogs_hasClient settings).and (aboutLogs_hasBuffers settings buffers)
  refine hClosed.robust.statement (.isSet .gnssClientPtr) trivial fun gnssClient => ?_
  cases gnssClient with
  | false => exact triple_return (buffers, []) hClosed.stable fun w hw => hw
  | true =>
      have hRetrieved : WatcherTriple settings logGuarantee
          (fun w => HasClient w ∧ HasBuffers buffers w) (call .gnssRetrieveData)
          fun _ w => HasClient w ∧ HasBuffers buffers w := hClosed.keeps (.perform trivial)
      have hStopped : WatcherTriple settings logGuarantee
          (fun w => HasClient w ∧ HasBuffers buffers w) (call .gnssStopLog)
          fun _ w => HasClient w ∧ HasBuffers buffers w := hClosed.keeps (.perform trivial)
      exact hRetrieved.bind fun gnssData => hStopped.bind fun _ =>
        triple_return (buffers, gnssData) hClosed.stable fun w hw => hw

end Statements

section Branches

variable (settings : Settings) (locals : Locals)

/-- The assertion between the branches. -/
abbrev BranchTriple (state : States) (code : Code Locals) : Prop :=
  WatcherTriple settings logGuarantee (InBranch state) code fun _ => Safe

/-- A branch in which nothing but uncritical stores happens. -/
theorem branch_of_issues {state : States} {code : Code Locals}
    (h : code.Issues ((machine settings).Preserves (guarantee logGuarantee) .watcher Safe)) :
    BranchTriple settings state code :=
  (Machine.Keeps.of_issues (aboutLogs_safe settings).stable h).mono (fun _ hw => hw.1)
    fun _ _ hw => hw

/-- A branch which is entered while the logs are running. -/
theorem branch_of_logs {state : States} {code : Code Locals} (hRecording : Recording state)
    (h : WatcherTriple settings logGuarantee Logs code fun _ => Safe) :
    BranchTriple settings state code :=
  h.mono (fun _ hw => hw.2.1 hRecording) fun _ _ hw => hw

/-- The GNSS log and the new state leave the logs running. -/
theorem triple_storeRunning (state : States) :
    WatcherTriple settings logGuarantee Logs (do
      let gnssClient ← call (.isSet .gnssClientPtr)
      .when gnssClient (call .gnssStartLog)
      call (.storeAppState state)) fun _ => Safe := by
  have hLogs := aboutLogs_logs settings
  refine hLogs.robust.statement (.isSet .gnssClientPtr) trivial fun gnssClient => ?_
  have hGnss : WatcherTriple settings logGuarantee Logs (.when gnssClient (call .gnssStartLog))
      fun _ => Logs := hLogs.keeps (.when (.perform trivial))
  exact hGnss.bind fun _ => triple_store settings hLogs.stable fun w hw _ => hw

theorem branch_startingScan : BranchTriple settings .startingScan (startingScan locals) := by
  have hSafe := aboutLogs_safe settings
  have hStart : WatcherTriple settings logGuarantee Safe startContinousScan fun _ => Safe :=
    (triple_startLog settings hSafe.stable).bind fun _ => triple_storeRunning settings .scanning
  have hWhen : ∀ livoxCLient, WatcherTriple settings logGuarantee Safe
      (.when livoxCLient startContinousScan) fun _ => Safe := fun _ =>
    .when (fun _ => hStart) fun _ => triple_return () hSafe.stable fun _ hw => hw
  refine Machine.Triple.mono ?_ (fun _ hw => hw.1) fun _ _ hw => hw
  refine hSafe.robust.before issues_showStart fun _ => ?_
  refine hSafe.robust.statement (.isSet .livoxCLientPtr) trivial fun livoxCLient => ?_
  refine (hWhen livoxCLient).bind fun _ => ?_
  exact hSafe.robust.statement .steadyClockNow trivial fun chunkStart =>
    triple_return _ hSafe.stable fun _ hw => hw

theorem triple_rotateChunk :
    WatcherTriple settings logGuarantee Logs (rotateChunk locals) fun _ => Logs := by
  have hLogs := aboutLogs_logs settings
  refine hLogs.robust.statement (.setLed .copyData true) trivial fun _ => ?_
  refine hLogs.robust.statement .steadyClockNow trivial fun chunkStart => ?_
  refine (triple_retrieveData settings).bind fun buffers => ?_
  have hBoth := hLogs.and (aboutLogs_hasBuffers settings buffers)
  refine hBoth.robust.statement (.isSet .gnssClientPtr) trivial fun gnssClient => ?_
  have hGnss : WatcherTriple settings logGuarantee (fun w => Logs w ∧ HasBuffers buffers w)
      (retrieveGnss gnssClient) fun _ w => Logs w ∧ HasBuffers buffers w := by
    refine hBoth.keeps ?_
    cases gnssClient with
    | false => exact .done
    | true => exact .bind (.perform trivial) fun _ => .bind (.perform trivial) fun _ => .done
  refine hGnss.bind fun ⟨gnssBuffer, gnssRawBuffer⟩ => ?_
  dsimp only
  split_ifs
  · have hStore : WatcherTriple settings logGuarantee (fun w => Logs w ∧ HasBuffers buffers w)
        (call (.storeAppState .usbIoError)) fun _ => Logs :=
      (Machine.Keeps.of_issues hLogs.stable (.perform (preserves_logs_store settings _))).mono
        (fun _ hw => hw.1) fun _ _ hw => hw
    exact hStore.bind fun _ => triple_return _ hLogs.stable fun _ hw => hw
  · refine (triple_saveLidarData settings hBoth (fun w hw hClean => (hw.1 hClean).client)
      (fun w hw => hw.2) _ _).bind fun _ => ?_
    refine (hBoth.keeps ?_).mono (fun _ hw => hw) fun _ _ hw => hw.1
    refine .bind (.perform trivial) fun _ => .bind (.when ?_) fun _ => ?_
    · exact .bind (.perform trivial) fun _ => .perform trivial
    · exact .bind (.perform trivial) fun _ => .done

theorem triple_scanning :
    WatcherTriple settings logGuarantee Logs (scanning locals) fun _ => Safe := by
  have hLogs := aboutLogs_logs settings
  have hTest : ∀ state, (machine settings).Preserves (guarantee logGuarantee) .watcher Logs
      (.testAppState state) := fun _ => hLogs.preserves_gentle _ trivial
  have hChunk : ∀ now, WatcherTriple settings logGuarantee Logs (checkChunk now locals)
      fun _ => Logs := by
    intro now
    have hTested : WatcherTriple settings logGuarantee Logs
        (andAlso (seconds 10 < now - locals.chunkStart) (call (.testAppState .scanning)))
        fun _ => Logs := hLogs.keeps (issues_andAlso (.perform trivial))
    refine hTested.bind fun chunkEnds => ?_
    cases chunkEnds with
    | false => exact triple_return locals hLogs.stable fun _ hw => hw
    | true => exact triple_rotateChunk settings locals
  have hStage : ∀ stage deadline changeLed period led, WatcherTriple settings logGuarantee Logs
      (confirmationStage stage deadline changeLed period led) fun _ => Logs :=
    fun stage deadline changeLed period led => Machine.Keeps.of_issues hLogs.stable <|
      issues_confirmationStage hLogs.robust.calm hTest (preserves_logs_store settings _) stage
        deadline changeLed (fun _ => hLogs.robust.quiet _ trivial) period led
  have hShow : WatcherTriple settings logGuarantee Logs showScanning fun _ => Logs :=
    Machine.Keeps.of_issues hLogs.stable (issues_showScanning hLogs.robust.calm hTest)
  refine hShow.bind fun _ => ?_
  refine hLogs.robust.statement .steadyClockNow trivial fun now => ?_
  refine hLogs.robust.before (.when (issues_blink _ _ _)) fun _ => ?_
  refine hLogs.robust.before (.when (issues_blink _ _ _)) fun _ => ?_
  refine (hChunk now).bind fun rotated => ?_
  refine (hStage _ _ _ _ _).bind fun led1 => (hStage _ _ _ _ _).bind fun led2 => ?_
  exact hLogs.robust.statement (.sleepFor 20) trivial fun _ =>
    triple_return _ hLogs.stable fun _ hw => hw.safe

/-- The last store of a closing branch makes up for the closed logs. -/
theorem triple_close {A : History → Prop} (hA : AboutLogs settings A) {state : States}
    (hState : ¬Recording state) (result : Locals) :
    WatcherTriple settings logGuarantee A
      (do
        call (.storeAppState state)
        return result) fun _ => Safe :=
  (triple_store settings hA.stable fun _ _ h => absurd h hState).bind fun _ =>
    triple_return result (aboutLogs_safe settings).stable fun _ hw => hw

theorem branch_stopping : BranchTriple settings .stopping (stopping locals) := by
  refine branch_of_logs settings trivial ?_
  refine (aboutLogs_logs settings).robust.before issues_showCopying fun _ => ?_
  refine (triple_closeLogs settings).bind fun ⟨buffers, gnssData⟩ => ?_
  have hClosed := (aboutLogs_hasClient settings).and (aboutLogs_hasBuffers settings buffers)
  refine hClosed.robust.before (issues_blinkTimes _ _ _ _) fun _ => ?_
  refine hClosed.robust.before issues_showCopying fun _ => ?_
  split_ifs
  · exact triple_close settings hClosed id locals
  · refine (triple_saveLastChunk settings hClosed (fun _ hw => hw.1) (fun _ hw => hw.2) gnssData
      _ _).bind fun _ => ?_
    exact hClosed.robust.statement (.setLed .copyData false) trivial fun _ =>
      triple_close settings hClosed id _

theorem branch_stopingStopScan :
    BranchTriple settings .stopingStopScan (stopingStopScan locals) := by
  refine branch_of_logs settings trivial ?_
  refine (aboutLogs_logs settings).robust.before issues_showStopScanClosing fun _ => ?_
  refine (triple_closeLogs settings).bind fun ⟨buffers, gnssData⟩ => ?_
  have hClosed := (aboutLogs_hasClient settings).and (aboutLogs_hasBuffers settings buffers)
  dsimp only
  split_ifs
  · exact triple_close settings hClosed id locals
  · refine (triple_saveLastChunk settings hClosed (fun _ hw => hw.1) (fun _ hw => hw.2) gnssData
      _ _).bind fun _ => ?_
    exact hClosed.robust.before issues_showStopScanEnd fun _ => triple_close settings hClosed id _

/-- Without a lidar client the history is no longer clean. -/
theorem triple_startStopScan :
    WatcherTriple settings logGuarantee
      (fun w => w.state.appState = .stopScanInInitialProgress) startStopScan fun _ => Safe := by
  have hLogs := aboutLogs_logs settings
  have hBranch := aboutLogs_stopScan settings
  have hTest : WatcherTriple settings logGuarantee
      (fun w => w.state.appState = .stopScanInInitialProgress) (call (.isSet .livoxCLientPtr))
      fun isSet w => if isSet then w.state.appState = .stopScanInInitialProgress else Logs w := by
    refine .perform hBranch.stable ?_ (fun _ _ => trivial) ?_
    · rintro (_ | _)
      · exact hLogs.stable
      · exact hBranch.stable
    · intro w isSet s hw hPerform
      cases hPerform
      cases hSet : w.state.isSet .livoxCLientPtr with
      | true => exact hw
      | false =>
          intro hClean
          have hMissed := (clean_record.mp hClean).1
          simp [missesClient, hw] at hMissed
  have hStart : ∀ livoxCLient, WatcherTriple settings logGuarantee
      (fun w => if livoxCLient = true then w.state.appState = .stopScanInInitialProgress
        else Logs w)
      (.when livoxCLient do
        call (.setLed .stopScan true)
        call .startLog) fun _ => Logs := by
    rintro (_ | _)
    · exact triple_return () hLogs.stable fun _ hw => hw
    · exact hBranch.robust.statement (.setLed .stopScan true) trivial fun _ =>
        triple_startLog settings hBranch.stable
  exact hTest.bind fun livoxCLient => (hStart livoxCLient).bind fun _ =>
    triple_storeRunning settings .stopScanInProgress

theorem branch_stopScanInInitialProgress :
    BranchTriple settings .stopScanInInitialProgress (stopScanInInitialProgress locals) := by
  have hSafe := aboutLogs_safe settings
  have hBoth := hSafe.and (aboutLogs_stopScan settings)
  have hBody : WatcherTriple settings logGuarantee
      (fun w => Safe w ∧ w.state.appState = .stopScanInInitialProgress)
      (stopScanInInitialProgress locals) fun _ => Safe := by
    refine hBoth.robust.statement .steadyClockNow trivial fun now => ?_
    split_ifs
    · exact hBoth.robust.before (issues_blink _ _ _) fun _ =>
        triple_return locals hBoth.stable fun _ hw => hw.1
    · have hStart := (triple_startStopScan settings).mono
        (fun w (hw : Safe w ∧ w.state.appState = .stopScanInInitialProgress) => hw.2)
        fun _ _ hw => hw
      exact hStart.bind fun _ => triple_return locals hSafe.stable fun _ hw => hw
  exact hBody.mono (fun _ hw => ⟨hw.1, hw.2.2 rfl⟩) fun _ _ hw => hw

theorem branch_stopScanInProgress :
    BranchTriple settings .stopScanInProgress (stopScanInProgress locals) := by
  have hLogs := aboutLogs_logs settings
  have hStore := preserves_logs_store settings .stopingStopScan
  refine branch_of_logs settings trivial ?_
  exact (Machine.Keeps.of_issues hLogs.stable
    (issues_stopScanInProgress hLogs.robust.calm locals hStore)).mono (fun _ hw => hw)
      fun _ _ hw => hw.safe

theorem branches_safe : BranchTriples settings logGuarantee InBranch locals fun _ => Safe := by
  have hStore : ∀ {state : States}, ¬Recording state →
      (machine settings).Preserves (guarantee logGuarantee) .watcher Safe (.storeAppState state) :=
    preserves_safe_store settings
  have hQuiet := (aboutLogs_safe settings).robust.quiet
  have hCalm := (aboutLogs_safe settings).robust.calm
  constructor
  case usbIoError => exact branch_of_issues settings (issues_usbIoError hCalm settings locals)
  case waitForResources =>
    exact branch_of_issues settings (issues_waitForResources hQuiet settings locals (hStore id))
  case idle =>
    exact branch_of_issues settings
      (issues_idle hCalm settings locals (hStore id) (hStore id))
  case startingScan => exact branch_startingScan settings locals
  case scanning =>
    rintro state (rfl | rfl | rfl)
    all_goals exact branch_of_logs settings trivial (triple_scanning settings locals)
  case stopping => exact branch_stopping settings locals
  case startingStopScan =>
    exact branch_of_issues settings (issues_startingStopScan hCalm locals (hStore id))
  case stopScanInInitialProgress => exact branch_stopScanInInitialProgress settings locals
  case stopScanInProgress => exact branch_stopScanInProgress settings locals
  case stopingStopScan => exact branch_stopingStopScan settings locals

end Branches

theorem logs_contract (settings : Settings) :
    (system settings).Contract (guarantee logGuarantee) Controller.Initial
      (posts fun _ => Safe) := by
  have hSafe := aboutLogs_safe settings
  refine contract_of_watcher (fun s hInitial => ?_) fun locals => ?_
  · have hStartUp : WatcherTriple settings logGuarantee Safe startUp fun _ => Safe :=
      Machine.Keeps.of_issues hSafe.stable <| issues_startUp (hSafe.robust.calm _ trivial)
        (hSafe.robust.calm _ trivial)
        (fun _ => hSafe.preserves_gentle _ trivial) (fun _ => hSafe.preserves_gentle _ trivial)
        (preserves_safe_store settings id)
    refine hStartUp.mono ?_ fun _ _ hw => hw
    rintro w rfl hRecording
    rw [hInitial.appState] at hRecording
    exact hRecording.elim
  · have hError : WatcherTriple settings logGuarantee (InBranch .lidarError)
        (lidarError settings) fun _ => Safe :=
      (hSafe.robust.keeps (issues_showError _ _ _ _ _)).mono (fun _ hw => hw.1) fun _ _ hw => hw
    exact (observes_safe settings).round hError (branches_safe settings locals)
      (fun _ hw => hw) fun _ hw => hw

/-- In a run in which no stop scan begins without a lidar client, the watcher
never follows a null pointer between the logs and the files. -/
theorem no_null_buffers {settings : Settings} {s : Controller} (hInitial : s.Initial)
    {c : Configuration Response Local Controller Move} (h : (system settings).Reachable s c)
    (hClean : ∀ entry ∈ c.world.trace, missesClient entry = false) :
    (∀ rest, c.code .watcher = .call .retrieveData rest →
      ∃ client, c.world.state.livoxCLientPtr = some client ∧
        client.retrieveData.1.1 ≠ none ∧ client.retrieveData.1.2 ≠ none) ∧
    (∀ rest, c.code .watcher = .call .stopLog rest → c.world.state.livoxCLientPtr ≠ none) ∧
    (∀ rest, c.code .watcher = .call .getSerialNumberToLidarIdMapping rest →
      c.world.state.livoxCLientPtr ≠ none) ∧
    (∀ buffer directory chunk rest,
      c.code .watcher = .call (.savePointcloudData buffer directory chunk) rest →
        buffer ≠ none) ∧
    (∀ buffer directory chunk rest,
      c.code .watcher = .call (.saveImuData buffer directory chunk) rest → buffer ≠ none) := by
  have hContract := logs_contract settings
  refine ⟨fun rest hCode => ?_, fun rest hCode => ?_, fun rest hCode => ?_,
    fun buffer directory chunk rest hCode => ?_, fun buffer directory chunk rest hCode => ?_⟩
  · exact hContract.at_statement hInitial h hCode hClean
  · exact (hContract.at_statement hInitial h hCode hClean).client
  · exact hContract.at_statement hInitial h hCode hClean
  · exact hContract.at_statement hInitial h hCode hClean
  · exact hContract.at_statement hInitial h hCode hClean

/-- A stop scan from its start to the end of its log, whose initial phase ends
with the given number of statements. -/
def wholeStopScan (statements : Nat) : List (Choice Thread Move) :=
  untilIdle ++ [.move (.trigger .triggerStopScan)] ++ steps .watcher 21 ++
    [.move (.elapse 5000000000)] ++ steps .watcher statements ++
    [.move (.elapse 30000000001)] ++ steps .watcher 39

theorem no_null_buffers_stopScan :
    ∃ c, (system plainSettings).run ((system plainSettings).initial (switchedOn true))
      (steps .livox 3 ++ wholeStopScan 22) = some c ∧
    ∃ client, c.world.state.livoxCLientPtr = some client ∧
      client.retrieveData.1.1 ≠ none ∧ client.retrieveData.1.2 ≠ none := by
  have hRun : (system plainSettings).run ((system plainSettings).initial (switchedOn true))
      (steps .livox 3 ++ wholeStopScan 22) = some _ := rfl
  have hReachable := System.Reachable.initial.run _ hRun
  refine ⟨_, hRun, ?_⟩
  exact (no_null_buffers (switchedOn_initial true) hReachable (by decide +kernel)).1 _ rfl

/-- A stop scan which is asked for before there is a lidar client. -/
theorem null_client_retrieved :
    ∃ c, (system plainSettings).Reachable (switchedOn true) c ∧
      (∃ rest, c.code .watcher = .call .retrieveData rest) ∧
      c.world.state.livoxCLientPtr = none := by
  have hRun : (system plainSettings).run ((system plainSettings).initial (switchedOn true))
      (wholeStopScan 20) = some _ := rfl
  exact ⟨_, System.Reachable.initial.run _ hRun, ⟨_, rfl⟩, rfl⟩

end Mandeye.Controller
