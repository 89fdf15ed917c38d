import Mandeye.Controller.System

/-! What one step can do. A statement or a move changes the state and the
clients in one way; it is said here once, and every invariant is derived from
it. -/
namespace Mandeye.Controller

open Interleaving

/-- The points which a callback delivers. -/
def Callback.points : Callback → List LivoxPoint
  | .pointCloud laserId data => LivoxClient.acceptedPoints laserId data
  | _ => []

/-- The IMU samples which it delivers, with the time of their arrival. -/
def Callback.samples (millis : UInt64) : Callback → List LivoxIMU
  | .imuData laserId data => LivoxClient.acceptedIMU laserId data millis
  | _ => []

/-- An answer of a lidar leaves the two buffers alone. -/
theorem receiveParam_buffers (client : LivoxClient) (handle : UInt32)
    (kv : LivoxClient.LivoxLidarKeyValueParam) :
    (client.receiveParam handle kv).bufferLivox = client.bufferLivox ∧
      (client.receiveParam handle kv).bufferIMU = client.bufferIMU := by
  unfold LivoxClient.receiveParam
  split_ifs <;> exact ⟨rfl, rfl⟩

/-- A callback appends its points to the buffer, if there is one. -/
theorem callback_bufferLivox (millis : UInt64) (event : Callback) (client : LivoxClient) :
    (callback millis event client).bufferLivox = client.bufferLivox.append event.points := by
  cases event with
  | pointCloud laserId data => exact client.pointCloudCallback_bufferLivox laserId data
  | imuData laserId data => simp [callback, Callback.points]
  | lidarInfoChange handle info => exact (SwapBuffer.append_nil _).symm
  | param handle kv => simp [callback, Callback.points, receiveParam_buffers]

/-- A callback appends its samples likewise. -/
theorem callback_bufferIMU (millis : UInt64) (event : Callback) (client : LivoxClient) :
    (callback millis event client).bufferIMU =
      client.bufferIMU.append (event.samples millis) := by
  cases event with
  | pointCloud laserId data => simp [callback, Callback.samples]
  | imuData laserId data => exact client.imuDataCallback_bufferIMU laserId data millis
  | lidarInfoChange handle info => exact (SwapBuffer.append_nil _).symm
  | param handle kv => simp [callback, Callback.samples, receiveParam_buffers]

/-- A new session does not empty the buffers. -/
theorem initializeDuration_buffers (client : LivoxClient) :
    client.initializeDuration.bufferLivox = client.bufferLivox ∧
      client.initializeDuration.bufferIMU = client.bufferIMU := by
  unfold LivoxClient.initializeDuration
  split <;> exact ⟨rfl, rfl⟩

/-- The ways in which a request of a user changes the state. -/
inductive Requested : States → States → Prop where
  | startingScan {state : States} (h : state = .idle ∨ state = .stopped) :
      Requested state .startingScan
  | startingStopScan {state : States} (h : state = .idle ∨ state = .stopped) :
      Requested state .startingStopScan
  | stopping : Requested .scanning .stopping
  | stage1 : Requested .scanning .stoppingStage1
  | stage2 : Requested .stoppingStage1 .stoppingStage2
  | confirmed : Requested .stoppingStage2 .stopping

/-- A request either changes the state in one of these ways or not at all. -/
theorem trigger_appState (settings : Settings) (request : Trigger) (s : Controller) :
    (s.trigger settings request).2.appState = s.appState ∨
      Requested s.appState (s.trigger settings request).2.appState := by
  cases request with
  | startScan =>
      simp only [trigger, startScan]
      split_ifs with h
      · exact .inr (.startingScan h)
      · exact .inl rfl
  | stopScan =>
      simp only [trigger, stopScan]
      split_ifs with h
      · exact .inr (h ▸ .stopping)
      · exact .inl rfl
  | triggerStopScan =>
      simp only [trigger, triggerStopScan]
      split_ifs with h
      · exact .inr (.startingStopScan h)
      · exact .inl rfl
  | triggerContinousScanning =>
      simp only [trigger, triggerContinousScanning]
      split_ifs with hIdle hScanning _ hStage1 _ hStage2 _
      · exact .inr (.startingScan hIdle)
      · exact .inr (hScanning ▸ .stopping)
      · exact .inr (hScanning ▸ .stage1)
      · exact .inr (hStage1 ▸ .stage2)
      · exact .inl rfl
      · exact .inr (hStage2 ▸ .confirmed)
      · exact .inl rfl
      · exact .inl rfl

/-- A request does no more to the lidar client than start a new session. -/
theorem trigger_livoxCLientPtr (settings : Settings) (request : Trigger) (s : Controller) :
    (s.trigger settings request).2.livoxCLientPtr = s.livoxCLientPtr ∨
      (s.trigger settings request).2.livoxCLientPtr =
        s.livoxCLientPtr.map LivoxClient.initializeDuration := by
  cases request with
  | startScan => simp only [trigger, startScan]; split_ifs <;> exact .inl rfl
  | stopScan => simp only [trigger, stopScan]; split_ifs <;> exact .inl rfl
  | triggerStopScan => simp only [trigger, triggerStopScan]; split_ifs <;> exact .inl rfl
  | triggerContinousScanning =>
      simp only [trigger, triggerContinousScanning]
      split_ifs
      · exact .inr rfl
      all_goals exact .inl rfl

/-- A request replaces neither of these clients. -/
theorem trigger_clients (settings : Settings) (request : Trigger) (s : Controller) :
    (s.trigger settings request).2.gnssClientPtr = s.gnssClientPtr ∧
      (s.trigger settings request).2.gpioClientPtr = s.gpioClientPtr := by
  cases request with
  | startScan => simp only [trigger, startScan]; split_ifs <;> exact ⟨rfl, rfl⟩
  | stopScan => simp only [trigger, stopScan]; split_ifs <;> exact ⟨rfl, rfl⟩
  | triggerStopScan => simp only [trigger, triggerStopScan]; split_ifs <;> exact ⟨rfl, rfl⟩
  | triggerContinousScanning =>
      simp only [trigger, triggerContinousScanning]
      split_ifs <;> exact ⟨rfl, rfl⟩

/-- A request leaves the GNSS client alone. -/
theorem trigger_gnssClientPtr (settings : Settings) (request : Trigger) (s : Controller) :
    (s.trigger settings request).2.gnssClientPtr = s.gnssClientPtr :=
  (trigger_clients settings request s).1

section Access

variable {Response : Type} {s s' : Controller} {response : Response}

/-- A call which returns had a client, and replaces it by what the call has made of
it. -/
theorem withLivox_returns {f : LivoxClient → Response × LivoxClient}
    (h : s.withLivox f = .returns response s') :
    ∃ client, s.livoxCLientPtr = some client ∧ response = (f client).1 ∧
      s' = { s with livoxCLientPtr := some (f client).2 } := by
  unfold withLivox at h
  split at h
  · cases h
  · rename_i client hClient
    cases h
    exact ⟨client, hClient, rfl, rfl⟩

/-- The same for the GNSS client. -/
theorem withGnss_returns {f : GNSSClient → Response × GNSSClient}
    (h : s.withGnss f = .returns response s') :
    ∃ client, s.gnssClientPtr = some client ∧ response = (f client).1 ∧
      s' = { s with gnssClientPtr := some (f client).2 } := by
  unfold withGnss at h
  split at h
  · cases h
  · rename_i client hClient
    cases h
    exact ⟨client, hClient, rfl, rfl⟩

/-- A call on the file system client runs to its end on the repository. -/
theorem withFileSystem_returns
    {f : FileSystemClient → FileSystemClient.Code (Response × FileSystemClient)}
    (h : s.withFileSystem f = .returns response s') :
    ∃ client fileSystemClient repository, s.fileSystemClientPtr = some client ∧
      response = ((f client).execute Repository.handle s.repository).1.1 ∧
      s' = { s with fileSystemClientPtr := some fileSystemClient, repository := repository } := by
  unfold withFileSystem at h
  split at h
  · cases h
  · rename_i client hClient
    cases h
    exact ⟨client, _, _, hClient, rfl, rfl⟩

/-- The publisher is changed and nothing else. -/
theorem withPublisher_returns {f : Publisher → Publisher} {response : Unit}
    (h : s.withPublisher f = .returns response s') :
    ∃ publisher, s' = { s with publisherPtr := some publisher } := by
  unfold withPublisher at h
  split at h
  · cases h
  · cases h
    exact ⟨_, rfl⟩

/-- The lights are not part of the state. -/
theorem withGpio_returns {response : Unit} (h : s.withGpio = .returns response s') : s' = s := by
  unfold withGpio at h
  split_ifs at h
  cases h
  rfl

/-- Saving returns only if there is a buffer to save. -/
theorem withBuffer_returns {buffer : Option Nat} {response : Unit}
    (h : s.withBuffer buffer = .returns response s') : s' = s ∧ buffer ≠ none := by
  unfold withBuffer at h
  split at h
  · cases h
  · cases h
    exact ⟨rfl, by simp⟩

/-- A mutex which could be taken has its owner. -/
theorem lock_returns {t : Thread} {mutex : Mutex} {response : Unit}
    (h : s.lock t mutex = .returns response s') :
    s' = { s with owner := Function.update s.owner mutex (some t) } := by
  unfold lock at h
  split at h
  · cases h
  · cases h
    rfl

/-- A report may count as one of a USB error. -/
theorem reportState_returns {settings : Settings} {state : States} {response : Unit}
    (h : s.reportState settings state = .returns response s') :
    s' = s ∨ s' = { s with usbErrorReports := s.usbErrorReports + 1 } := by
  unfold reportState at h
  split_ifs at h
  · cases h
    exact .inr rfl
  · cases h
    exact .inl rfl

/-- Whether the lidars are in sync is only asked. -/
theorem isSynced_returns {settings : Settings} {synced : Bool}
    (h : performWatcher settings .isSynced s = .returns synced s') : s' = s := by
  simp only [performWatcher] at h
  split at h
  · cases h
  · cases h
    rfl

end Access

/-- The state and the recorded data are the same. -/
structure SameData (s s' : Controller) : Prop where
  appState : s'.appState = s.appState
  livoxCLientPtr : s'.livoxCLientPtr = s.livoxCLientPtr
  gnssClientPtr : s'.gnssClientPtr = s.gnssClientPtr

/-- What a step makes of the state and of the clients there are. -/
structure Changes (state : States → States) (livox : LivoxClient → LivoxClient)
    (gnss : GNSSClient → GNSSClient) (s s' : Controller) : Prop where
  appState : s'.appState = state s.appState
  livoxCLientPtr : s'.livoxCLientPtr = s.livoxCLientPtr.map livox
  gnssClientPtr : s'.gnssClientPtr = s.gnssClientPtr.map gnss

/-- Which clients exist. -/
def clients (s : Controller) : Bool × Bool := (s.livoxCLientPtr.isSome, s.gnssClientPtr.isSome)

section Changes

variable {s s' : Controller}

/-- Nothing has happened. -/
theorem SameData.refl (s : Controller) : SameData s s := ⟨rfl, rfl, rfl⟩

/-- Without a change of the data the same clients exist. -/
theorem SameData.clients (h : SameData s s') : s'.clients = s.clients := by
  rw [Controller.clients, h.livoxCLientPtr, h.gnssClientPtr, Controller.clients]

/-- To keep the data is to change them by identities. -/
theorem SameData.changes (h : SameData s s') : Changes id id id s s' where
  appState := h.appState
  livoxCLientPtr := by rw [h.livoxCLientPtr, Option.map_id, id]
  gnssClientPtr := by rw [h.gnssClientPtr, Option.map_id, id]

/-- Identities keep the data. -/
theorem Changes.sameData (h : Changes id id id s s') : SameData s s' where
  appState := h.appState
  livoxCLientPtr := by rw [h.livoxCLientPtr, Option.map_id, id]
  gnssClientPtr := by rw [h.gnssClientPtr, Option.map_id, id]

/-- A step which creates no client takes none away either. -/
theorem Changes.clients {state : States → States} {livox : LivoxClient → LivoxClient}
    {gnss : GNSSClient → GNSSClient} (h : Changes state livox gnss s s') :
    s'.clients = s.clients := by
  rw [Controller.clients, h.livoxCLientPtr, h.gnssClientPtr, Option.isSome_map, Option.isSome_map,
    Controller.clients]

variable {Response : Type} {response : Response}

/-- A call on the lidar client changes this client alone. -/
theorem withLivox_changes {f : LivoxClient → Response × LivoxClient}
    (h : s.withLivox f = .returns response s') :
    Changes id (fun client => (f client).2) id s s' := by
  obtain ⟨client, hClient, -, rfl⟩ := withLivox_returns h
  exact ⟨rfl, by rw [hClient, Option.map_some], by rw [Option.map_id, id]⟩

/-- A call on the GNSS client changes this client alone. -/
theorem withGnss_changes {f : GNSSClient → Response × GNSSClient}
    (h : s.withGnss f = .returns response s') :
    Changes id id (fun client => (f client).2) s s' := by
  obtain ⟨client, hClient, -, rfl⟩ := withGnss_returns h
  exact ⟨rfl, by rw [Option.map_id, id], by rw [hClient, Option.map_some]⟩

/-- Directories are no recorded data. -/
theorem withFileSystem_sameData
    {f : FileSystemClient → FileSystemClient.Code (Response × FileSystemClient)}
    (h : s.withFileSystem f = .returns response s') : SameData s s' := by
  obtain ⟨-, fileSystemClient, repository, -, -, rfl⟩ := withFileSystem_returns h
  exact ⟨rfl, rfl, rfl⟩

/-- Nor is what is published. -/
theorem withPublisher_sameData {f : Publisher → Publisher} {response : Unit}
    (h : s.withPublisher f = .returns response s') : SameData s s' := by
  obtain ⟨publisher, rfl⟩ := withPublisher_returns h
  exact ⟨rfl, rfl, rfl⟩

/-- Taking a mutex keeps the data. -/
theorem lock_sameData {t : Thread} {mutex : Mutex} {response : Unit}
    (h : s.lock t mutex = .returns response s') : SameData s s' := by
  rw [lock_returns h]
  exact ⟨rfl, rfl, rfl⟩

/-- Reporting keeps the data. -/
theorem reportState_sameData {settings : Settings} {state : States} {response : Unit}
    (h : s.reportState settings state = .returns response s') : SameData s s' := by
  rcases reportState_returns h with rfl | rfl
  · exact .refl s'
  · exact ⟨rfl, rfl, rfl⟩

end Changes

/-- What a statement of the watcher makes of the state. -/
def WatcherRequest.onState : WatcherRequest → States → States
  | .storeAppState state => fun _ => state
  | _ => id

/-- What it makes of the lidar client: the three calls which move its buffers. -/
def WatcherRequest.onLivox : WatcherRequest → LivoxClient → LivoxClient
  | .startLog => LivoxClient.startLog
  | .stopLog => LivoxClient.stopLog
  | .retrieveData => fun client => client.retrieveData.2
  | _ => id

/-- What it makes of the GNSS client. -/
def WatcherRequest.onGnss : WatcherRequest → GNSSClient → GNSSClient
  | .gnssStartLog => GNSSClient.startLog
  | .gnssStopLog => GNSSClient.stopLog
  | .gnssRetrieveData => fun client => client.retrieveData.2
  | .gnssRetrieveRawData => fun client => client.retrieveRawData.2
  | _ => id

/-- The statements which create a client. -/
def Creates : LivoxRequest → Prop
  | .createLivoxClient => True
  | .createGnssClient => True
  | _ => False

/-- What the listener's start makes of the GNSS client. -/
def LivoxRequest.onGnss (opens : Bool) : LivoxRequest → GNSSClient → GNSSClient
  | .gnssStartListener => fun client => { client with initSucces := opens }
  | .gnssSetDataCallback => fun client => { client with dataCallback := true }
  | _ => id

/-- What a statement of the worker does to its client. -/
def workerStep : GnssRequest → GNSSClient → GNSSClient
  | .appendRaw line, client => client.appendRaw line
  | .appendGga csvline, client => client.appendGga csvline
  | _, client => client

section Statements

variable {settings : Settings} {s s' : Controller}

/-- All that a statement of the watcher does is given by its three effects. -/
theorem performWatcher_changes {request : WatcherRequest} {response : request.Response}
    (h : performWatcher settings request s = .returns response s') :
    Changes request.onState request.onLivox request.onGnss s s' := by
  cases request with
  | storeAppState state =>
      cases h
      exact ⟨rfl, (SameData.refl s).changes.livoxCLientPtr, (SameData.refl s).changes.gnssClientPtr⟩
  | lock mutex => exact (lock_sameData h).changes
  | setLed led state => exact withGpio_returns h ▸ (SameData.refl s).changes
  | beep durations => exact withGpio_returns h ▸ (SameData.refl s).changes
  | setMode mode => exact (withPublisher_sameData h).changes
  | setWorkingDirectory stopScanDirectory continousScanDirectory =>
      exact (withPublisher_sameData h).changes
  | reportState state => exact (reportState_sameData h).changes
  | createDirectoryForStopScans idManifest => exact (withFileSystem_sameData h).changes
  | createDirectoryForContinousScanning idManifest => exact (withFileSystem_sameData h).changes
  | isSynced => exact isSynced_returns h ▸ (SameData.refl s).changes
  | startLog => exact withLivox_changes h
  | stopLog => exact withLivox_changes h
  | retrieveData => exact withLivox_changes h
  | getSerialNumberToLidarIdMapping => exact withLivox_changes h
  | gnssStartLog => exact withGnss_changes h
  | gnssStopLog => exact withGnss_changes h
  | gnssRetrieveData => exact withGnss_changes h
  | gnssRetrieveRawData => exact withGnss_changes h
  | savePointcloudData buffer directory chunk =>
      exact (withBuffer_returns h).1 ▸ (SameData.refl s).changes
  | saveImuData buffer directory chunk =>
      exact (withBuffer_returns h).1 ▸ (SameData.refl s).changes
  | _ =>
      cases h
      exact SameData.changes ⟨rfl, rfl, rfl⟩

/-- Without creating a client the Livox thread only sets the listener of the GNSS
client up. -/
theorem performLivox_changes {request : LivoxRequest} {response : request.Response}
    (hCreates : ¬Creates request) (h : performLivox request s = .returns response s') :
    Changes id id (request.onGnss s.serialPortOpens) s s' := by
  cases request with
  | createLivoxClient => exact absurd trivial hCreates
  | createGnssClient => exact absurd trivial hCreates
  | lock mutex => exact (lock_sameData h).changes
  | startListener => exact withLivox_changes h
  | gnssStartListener => exact withGnss_changes h
  | gnssSetDataCallback => exact withGnss_changes h
  | _ =>
      cases h
      exact SameData.changes ⟨rfl, rfl, rfl⟩

/-- The creations are the two exceptions. -/
theorem performLivox_cases {request : LivoxRequest} {response : request.Response}
    (h : performLivox request s = .returns response s') :
    (request = .createLivoxClient ∧ s' = { s with livoxCLientPtr := some .new }) ∨
      (request = .createGnssClient ∧ s' = { s with gnssClientPtr := some .new }) ∨
      Changes id id (request.onGnss s.serialPortOpens) s s' := by
  by_cases hCreates : Creates request
  · cases request with
    | createLivoxClient => cases h; exact .inl ⟨rfl, rfl⟩
    | createGnssClient => cases h; exact .inr (.inl ⟨rfl, rfl⟩)
    | _ => exact hCreates.elim
  · exact .inr (.inr (performLivox_changes hCreates h))

/-- The GPIO thread keeps the data. -/
theorem performGpio_sameData {request : GpioRequest} {response : Unit}
    (h : performGpio request s = .returns response s') : SameData s s' := by
  cases request with
  | lock mutex => exact lock_sameData h
  | setLed led state => exact withGpio_returns h ▸ .refl s
  | _ =>
      cases h
      exact ⟨rfl, rfl, rfl⟩

/-- The worker appends to the buffers of its own client. -/
theorem performGnss_changes {request : GnssRequest} {response : request.Response}
    (h : performGnss request s = .returns response s') :
    Changes id id (workerStep request) s s' := by
  cases request with
  | readLine =>
      simp only [performGnss] at h
      split at h
      · cases h
      · split_ifs at h
        cases h
        exact SameData.changes ⟨rfl, rfl, rfl⟩
  | lock mutex => exact (lock_sameData h).changes
  | setLed led state => exact withGpio_returns h ▸ (SameData.refl s).changes
  | appendRaw line => exact withGnss_changes h
  | hasDataCallback => exact withGnss_changes h
  | appendGga csvline => exact withGnss_changes h
  | _ =>
      cases h
      exact SameData.changes ⟨rfl, rfl, rfl⟩

/-- Only a store of the watcher changes the state. -/
theorem performWatcher_appState {request : WatcherRequest} {response : request.Response}
    (h : performWatcher settings request s = .returns response s') :
    s'.appState = s.appState ∨ request = .storeAppState s'.appState := by
  have hState := (performWatcher_changes h).appState
  cases request with
  | storeAppState state => exact .inr (congrArg _ hState.symm)
  | _ => exact .inl hState

/-- No other thread changes the state. -/
theorem perform_appState {t : Thread} {request : Request t} {response : Response t request}
    (ht : t ≠ .watcher) (h : (machine settings).perform t request s = .returns response s') :
    s'.appState = s.appState := by
  cases t with
  | watcher => exact absurd rfl ht
  | livox =>
      rcases performLivox_cases h with ⟨-, rfl⟩ | ⟨-, rfl⟩ | hChanges
      · rfl
      · rfl
      · exact hChanges.appState
  | gpio => exact (performGpio_sameData h).appState
  | gnss => exact (performGnss_changes h).appState

/-- Only the Livox thread creates these clients. -/
theorem perform_clients {t : Thread} {request : Request t} {response : Response t request}
    (ht : t ≠ .livox) (h : (machine settings).perform t request s = .returns response s') :
    s'.clients = s.clients := by
  cases t with
  | livox => exact absurd rfl ht
  | watcher => exact (performWatcher_changes h).clients
  | gpio => exact (performGpio_sameData h).clients
  | gnss => exact (performGnss_changes h).clients

end Statements

section Moves

variable {settings : Settings} {action : Move} {s s' : Controller}

/-- A move is a request of a user, a delivery, or about neither the state nor
the recorded data. -/
theorem move_cases (h : move settings action s = some s') :
    (∃ request, action = .trigger request ∧ s' = (s.trigger settings request).2) ∨
      (∃ event client, action = .livox event ∧ s.livoxCLientPtr = some client ∧
        s' = { s with livoxCLientPtr := some (callback s.systemClock event client) }) ∨
      (∀ event, action ≠ .livox event) ∧ SameData s s' := by
  cases action with
  | trigger request =>
      cases h
      exact .inl ⟨request, rfl, rfl⟩
  | livox event =>
      simp only [move] at h
      split at h
      · cases h
      · rename_i client hClient
        cases h
        exact .inr (.inl ⟨event, client, rfl, hClient, rfl⟩)
  | serialLine line =>
      simp only [move] at h
      split_ifs at h
      cases h
      exact .inr (.inr ⟨by simp, rfl, rfl, rfl⟩)
  | _ =>
      cases h
      exact .inr (.inr ⟨by simp, rfl, rfl, rfl⟩)

/-- Nothing from outside creates a client or takes one away. -/
theorem move_clients (h : move settings action s = some s') : s'.clients = s.clients := by
  rcases move_cases h with ⟨request, -, rfl⟩ | ⟨event, client, -, hClient, rfl⟩ | ⟨-, hSame⟩
  · rcases trigger_livoxCLientPtr settings request s with hLivox | hLivox <;>
      simp [clients, hLivox, trigger_gnssClientPtr]
  · simp [clients, hClient]
  · exact hSame.clients

/-- From outside the state is changed by requests only. -/
theorem move_appState (h : move settings action s = some s') :
    s'.appState = s.appState ∨
      ∃ request, action = .trigger request ∧ Requested s.appState s'.appState := by
  rcases move_cases h with ⟨request, rfl, rfl⟩ | ⟨event, client, -, -, rfl⟩ | ⟨-, hSame⟩
  · rcases trigger_appState settings request s with hSame | hRequested
    · exact .inl hSame
    · exact .inr ⟨request, rfl, hRequested⟩
  · exact .inl rfl
  · exact .inl hSame.appState

/-- From outside nobody reaches the GNSS client. -/
theorem move_gnssClientPtr (h : move settings action s = some s') :
    s'.gnssClientPtr = s.gnssClientPtr := by
  rcases move_cases h with ⟨request, -, rfl⟩ | ⟨event, client, -, -, rfl⟩ | ⟨-, hSame⟩
  · exact trigger_gnssClientPtr settings request s
  · rfl
  · exact hSame.gnssClientPtr

end Moves

/-- What belongs to the hardware, the clock and the confirmation stages is the
same. -/
structure SamePanel (s s' : Controller) : Prop where
  gpioClientPtr : s'.gpioClientPtr = s.gpioClientPtr
  steadyClock : s'.steadyClock = s.steadyClock
  deadlines : s'.deadlines = s.deadlines

section Panel

variable {settings : Settings} {s s' : Controller}

/-- The panel is the same when nothing has happened. -/
theorem SamePanel.refl (s : Controller) : SamePanel s s := ⟨rfl, rfl, rfl⟩

/-- A call on the lidar client has nothing to do with the panel. -/
theorem withLivox_samePanel {Response : Type} {response : Response}
    {f : LivoxClient → Response × LivoxClient} (h : s.withLivox f = .returns response s') :
    SamePanel s s' := by
  obtain ⟨client, -, -, rfl⟩ := withLivox_returns h
  exact ⟨rfl, rfl, rfl⟩

/-- Nor has one on the GNSS client. -/
theorem withGnss_samePanel {Response : Type} {response : Response}
    {f : GNSSClient → Response × GNSSClient} (h : s.withGnss f = .returns response s') :
    SamePanel s s' := by
  obtain ⟨client, -, -, rfl⟩ := withGnss_returns h
  exact ⟨rfl, rfl, rfl⟩

/-- Nor has the creation of a directory. -/
theorem withFileSystem_samePanel {Response : Type} {response : Response}
    {f : FileSystemClient → FileSystemClient.Code (Response × FileSystemClient)}
    (h : s.withFileSystem f = .returns response s') : SamePanel s s' := by
  obtain ⟨client, fileSystemClient, repository, -, -, rfl⟩ := withFileSystem_returns h
  exact ⟨rfl, rfl, rfl⟩

/-- Nor has what is published. -/
theorem withPublisher_samePanel {f : Publisher → Publisher} {response : Unit}
    (h : s.withPublisher f = .returns response s') : SamePanel s s' := by
  obtain ⟨publisher, rfl⟩ := withPublisher_returns h
  exact ⟨rfl, rfl, rfl⟩

/-- To set a light keeps the client which sets it. -/
theorem withGpio_samePanel {response : Unit} (h : s.withGpio = .returns response s') :
    SamePanel s s' :=
  withGpio_returns h ▸ .refl s

/-- Mutexes are not on the panel. -/
theorem lock_samePanel {t : Thread} {mutex : Mutex} {response : Unit}
    (h : s.lock t mutex = .returns response s') : SamePanel s s' := by
  rw [lock_returns h]
  exact ⟨rfl, rfl, rfl⟩

/-- The watcher moves the deadlines of the blinking. -/
theorem performWatcher_samePanel {request : WatcherRequest} {response : request.Response}
    (hRequest : ∀ deadline time, request ≠ .storeDeadline deadline time)
    (h : performWatcher settings request s = .returns response s') : SamePanel s s' := by
  cases request with
  | storeDeadline deadline time => exact absurd rfl (hRequest deadline time)
  | lock mutex => exact lock_samePanel h
  | setLed led state => exact withGpio_samePanel h
  | beep durations => exact withGpio_samePanel h
  | setMode mode => exact withPublisher_samePanel h
  | setWorkingDirectory stopScanDirectory continousScanDirectory =>
      exact withPublisher_samePanel h
  | reportState state =>
      rcases reportState_returns h with rfl | rfl
      · exact .refl s'
      · exact ⟨rfl, rfl, rfl⟩
  | createDirectoryForStopScans idManifest => exact withFileSystem_samePanel h
  | createDirectoryForContinousScanning idManifest => exact withFileSystem_samePanel h
  | isSynced => exact isSynced_returns h ▸ .refl s
  | startLog => exact withLivox_samePanel h
  | stopLog => exact withLivox_samePanel h
  | retrieveData => exact withLivox_samePanel h
  | getSerialNumberToLidarIdMapping => exact withLivox_samePanel h
  | gnssStartLog => exact withGnss_samePanel h
  | gnssStopLog => exact withGnss_samePanel h
  | gnssRetrieveData => exact withGnss_samePanel h
  | gnssRetrieveRawData => exact withGnss_samePanel h
  | savePointcloudData buffer directory chunk => exact (withBuffer_returns h).1 ▸ .refl s
  | saveImuData buffer directory chunk => exact (withBuffer_returns h).1 ▸ .refl s
  | _ =>
      cases h
      exact ⟨rfl, rfl, rfl⟩

/-- The Livox thread creates its clients without touching the panel. -/
theorem performLivox_samePanel {request : LivoxRequest} {response : request.Response}
    (h : performLivox request s = .returns response s') : SamePanel s s' := by
  cases request with
  | lock mutex => exact lock_samePanel h
  | startListener => exact withLivox_samePanel h
  | gnssStartListener => exact withGnss_samePanel h
  | gnssSetDataCallback => exact withGnss_samePanel h
  | _ =>
      cases h
      exact ⟨rfl, rfl, rfl⟩

/-- The GPIO thread changes the panel by creating its client. -/
theorem performGpio_samePanel {request : GpioRequest} {response : Unit}
    (hRequest : request ≠ .createGpioClient) (h : performGpio request s = .returns response s') :
    SamePanel s s' := by
  cases request with
  | createGpioClient => exact absurd rfl hRequest
  | lock mutex => exact lock_samePanel h
  | setLed led state => exact withGpio_samePanel h
  | _ =>
      cases h
      exact ⟨rfl, rfl, rfl⟩

/-- The worker of the GNSS leaves the panel alone. -/
theorem performGnss_samePanel {request : GnssRequest} {response : request.Response}
    (h : performGnss request s = .returns response s') : SamePanel s s' := by
  cases request with
  | readLine =>
      simp only [performGnss] at h
      split at h
      · cases h
      · split_ifs at h
        cases h
        exact ⟨rfl, rfl, rfl⟩
  | lock mutex => exact lock_samePanel h
  | setLed led state => exact withGpio_samePanel h
  | appendRaw line => exact withGnss_samePanel h
  | hasDataCallback => exact withGnss_samePanel h
  | appendGga csvline => exact withGnss_samePanel h
  | _ =>
      cases h
      exact ⟨rfl, rfl, rfl⟩

/-- A request needs no lights. -/
theorem trigger_gpioClientPtr (request : Trigger) :
    (s.trigger settings request).2.gpioClientPtr = s.gpioClientPtr :=
  (trigger_clients settings request s).2

/-- Only time and requests, which set the deadlines, matter to it. -/
theorem move_samePanel {action : Move} (hTrigger : ∀ request, action ≠ .trigger request)
    (hElapse : ∀ nanoseconds, action ≠ .elapse nanoseconds)
    (h : move settings action s = some s') : SamePanel s s' := by
  cases action with
  | trigger request => exact absurd rfl (hTrigger request)
  | elapse nanoseconds => exact absurd rfl (hElapse nanoseconds)
  | livox event =>
      simp only [move] at h
      split at h
      · cases h
      · cases h
        exact ⟨rfl, rfl, rfl⟩
  | serialLine line =>
      simp only [move] at h
      split_ifs at h
      cases h
      exact ⟨rfl, rfl, rfl⟩
  | _ =>
      cases h
      exact ⟨rfl, rfl, rfl⟩

end Panel

end Mandeye.Controller
