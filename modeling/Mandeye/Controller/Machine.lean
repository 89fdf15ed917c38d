import Mandeye.Controller.State
import Mandeye.Interleaving.Contract

/-! The statements of the four threads. Each thread has requests of its own, so
what a thread never does cannot even be written down: only the watcher stores
to `app_state`, and only it starts, retrieves and stops the logs. -/
namespace Mandeye.Controller

open Interleaving

/-- The statements of `stateWatcher` and of the functions which it calls. A test of
`app_state` and a store to it are statements of their own. -/
inductive WatcherRequest where
  | isRunning
  | testAppState (state : States)
  | readAppState
  | storeAppState (state : States)
  | isLidarError
  | storeIsLidarError
  | isSet (pointer : Pointer)
  | lock (mutex : Mutex)
  | unlock (mutex : Mutex)
  | steadyClockNow
  | sleepFor (milliseconds : Nat)
  | readDeadline (deadline : Deadline)
  | storeDeadline (deadline : Deadline) (time : Int)
  | setLed (led : Led) (state : Bool)
  | beep (durations : List Nat)
  | setMode (mode : String)
  | setWorkingDirectory (stopScanDirectory continousScanDirectory : String)
  | reportState (state : States)
  | createDirectoryForStopScans (idManifest : Int32)
  | createDirectoryForContinousScanning (idManifest : Int32)
  | isSynced
  | startLog
  | stopLog
  | retrieveData
  | getSerialNumberToLidarIdMapping
  | gnssStartLog
  | gnssStopLog
  | gnssRetrieveData
  | gnssRetrieveRawData
  | savePointcloudData (buffer : Option Nat) (directory : String) (chunk : Int32)
  | saveImuData (buffer : Option Nat) (directory : String) (chunk : Int32)
  | saveStatusData (directory : String) (chunk : Int32)
  | saveLidarList (lidars : AList fun _ : UInt32 => String) (directory : String) (chunk : Int32)
  | saveGnssData (buffer : List GgaCsvLine) (directory : String) (chunk : Int32)
  | saveGnssRawData (buffer : List String) (directory : String) (chunk : Int32)

/-- What the watcher goes on with. -/
abbrev WatcherRequest.Response : WatcherRequest → Type
  | .isRunning => Bool
  | .testAppState _ => Bool
  | .readAppState => States
  | .isLidarError => Bool
  | .isSet _ => Bool
  | .steadyClockNow => Int
  | .readDeadline _ => Int
  | .createDirectoryForStopScans _ => Option String × Int32
  | .createDirectoryForContinousScanning _ => Option String
  | .isSynced => Bool
  | .retrieveData => Option Nat × Option Nat
  | .getSerialNumberToLidarIdMapping => AList fun _ : UInt32 => String
  | .gnssRetrieveData => List GgaCsvLine
  | .gnssRetrieveRawData => List String
  | _ => Unit

/-- The statements of the thread which starts the clients of the lidars and of the GNSS. -/
inductive LivoxRequest where
  | lock (mutex : Mutex)
  | unlock (mutex : Mutex)
  | createLivoxClient
  | startListener
  | storeIsLidarError
  | createGnssClient
  | gnssStartListener
  | gnssSetDataCallback
  | createPublisher

/-- Only whether the listener starts is answered. -/
abbrev LivoxRequest.Response : LivoxRequest → Type
  | .startListener => Bool
  | _ => Unit

/-- The statements of the thread which starts the client of the buttons and lights. -/
inductive GpioRequest where
  | lock (mutex : Mutex)
  | unlock (mutex : Mutex)
  | createGpioClient
  | setLed (led : Led) (state : Bool)
  | sleepFor (milliseconds : Nat)

/-- Nothing is read by this thread. -/
abbrev GpioRequest.Response : GpioRequest → Type := fun _ => Unit

/-- The statements of the worker which reads the serial port. -/
inductive GnssRequest where
  | readLine
  | getTimeStamp
  | systemClockNow
  | appendRaw (line : String)
  | hasDataCallback
  | isSet (pointer : Pointer)
  | lock (mutex : Mutex)
  | unlock (mutex : Mutex)
  | setLed (led : Led) (state : Bool)
  | sleepFor (milliseconds : Nat)
  | appendGga (csvline : GgaCsvLine)

/-- The line, the clocks, and whether anybody wants to be told. -/
abbrev GnssRequest.Response : GnssRequest → Type
  | .readLine => String
  | .getTimeStamp => UInt64
  | .systemClockNow => UInt64
  | .hasDataCallback => Bool
  | .isSet _ => Bool
  | _ => Unit

/-- The requests of a thread are of a type of their own. -/
abbrev Request : Thread → Type
  | .watcher => WatcherRequest
  | .livox => LivoxRequest
  | .gpio => GpioRequest
  | .gnss => GnssRequest

/-- The answer to a request of a thread. -/
abbrev Response : (t : Thread) → Request t → Type
  | .watcher => WatcherRequest.Response
  | .livox => LivoxRequest.Response
  | .gpio => GpioRequest.Response
  | .gnss => GnssRequest.Response

/-- What a statement of the watcher does to the state. A call on a client which is
not there faults, and so does `isSynced` when its lookup throws. Files are taken to
be written: only whether the buffer is there matters. -/
def performWatcher (settings : Settings) :
    (request : WatcherRequest) → Controller → Outcome Controller request.Response
  | .isRunning, s => .returns s.isRunning s
  | .testAppState state, s => .returns (s.appState = state) s
  | .readAppState, s => .returns s.appState s
  | .storeAppState state, s => .returns () { s with appState := state }
  | .isLidarError, s => .returns s.isLidarError s
  | .storeIsLidarError, s => .returns () { s with isLidarError := true }
  | .isSet pointer, s => .returns (s.isSet pointer) s
  | .lock mutex, s => s.lock .watcher mutex
  | .unlock mutex, s => s.unlock mutex
  | .steadyClockNow, s => .returns s.steadyClock s
  | .sleepFor _, s => .returns () s
  | .readDeadline deadline, s => .returns (s.deadlines deadline) s
  | .storeDeadline deadline time, s =>
      .returns () { s with deadlines := Function.update s.deadlines deadline time }
  | .setLed _ _, s => s.withGpio
  | .beep _, s => s.withGpio
  | .setMode mode, s => s.withPublisher fun publisher => { publisher with mode := mode }
  | .setWorkingDirectory stopScanDirectory continousScanDirectory, s =>
      s.withPublisher fun publisher =>
        { publisher with
          stopScanDirectory := stopScanDirectory
          continousScanDirectory := continousScanDirectory }
  | .reportState state, s => s.reportState settings state
  | .createDirectoryForStopScans idManifest, s =>
      s.withFileSystem fun client => client.createDirectoryForStopScans idManifest
  | .createDirectoryForContinousScanning idManifest, s =>
      s.withFileSystem fun client => client.createDirectoryForContinousScanning idManifest
  | .isSynced, s =>
      match s.livoxCLientPtr.bind LivoxClient.isSynced with
      | none => .faults
      | some synced => .returns synced s
  | .startLog, s => s.withLivox fun client => ((), client.startLog)
  | .stopLog, s => s.withLivox fun client => ((), client.stopLog)
  | .retrieveData, s => s.withLivox LivoxClient.retrieveData
  | .getSerialNumberToLidarIdMapping, s =>
      s.withLivox fun client => (client.getSerialNumberToLidarIdMapping, client)
  | .gnssStartLog, s => s.withGnss fun client => ((), client.startLog)
  | .gnssStopLog, s => s.withGnss fun client => ((), client.stopLog)
  | .gnssRetrieveData, s => s.withGnss GNSSClient.retrieveData
  | .gnssRetrieveRawData, s => s.withGnss GNSSClient.retrieveRawData
  | .savePointcloudData buffer _ _, s => s.withBuffer buffer
  | .saveImuData buffer _ _, s => s.withBuffer buffer
  | .saveStatusData _ _, s => .returns () s
  | .saveLidarList _ _ _, s => .returns () s
  | .saveGnssData _ _ _, s => .returns () s
  | .saveGnssRawData _ _ _, s => .returns () s

/-- The clients are created by this thread alone, each under the lock of its pointer. -/
def performLivox : (request : LivoxRequest) → Controller → Outcome Controller request.Response
  | .lock mutex, s => s.lock .livox mutex
  | .unlock mutex, s => s.unlock mutex
  | .createLivoxClient, s => .returns () { s with livoxCLientPtr := some .new }
  | .startListener, s => s.withLivox fun client => (s.listenerStarts, client)
  | .storeIsLidarError, s => .returns () { s with isLidarError := true }
  | .createGnssClient, s => .returns () { s with gnssClientPtr := some .new }
  | .gnssStartListener, s =>
      s.withGnss fun client => ((), { client with initSucces := s.serialPortOpens })
  | .gnssSetDataCallback, s => s.withGnss fun client => ((), { client with dataCallback := true })
  | .createPublisher, s => .returns () { s with publisherPtr := some ⟨"", "", ""⟩ }

/-- The lights can only be set after the client has been created. -/
def performGpio : (request : GpioRequest) → Controller → Outcome Controller request.Response
  | .lock mutex, s => s.lock .gpio mutex
  | .unlock mutex, s => s.unlock mutex
  | .createGpioClient, s => .returns () { s with gpioClientPtr := true }
  | .setLed _ _, s => s.withGpio
  | .sleepFor _, s => .returns () s

/-- The worker is started by a listener which has opened its port. Its time
stamps are those of the lidar client. -/
def performGnss : (request : GnssRequest) → Controller → Outcome Controller request.Response
  | .readLine, s =>
      match s.serialLine with
      | none => .blocks
      | some line =>
          if s.gnssClientPtr.any GNSSClient.initSucces then
            .returns line { s with serialLine := none }
          else .blocks
  | .getTimeStamp, s => .returns ((s.livoxCLientPtr.map LivoxClient.timestamp).getD 0) s
  | .systemClockNow, s => .returns s.systemClock s
  | .appendRaw line, s => s.withGnss fun client => ((), client.appendRaw line)
  | .hasDataCallback, s => s.withGnss fun client => (client.dataCallback, client)
  | .isSet pointer, s => .returns (s.isSet pointer) s
  | .lock mutex, s => s.lock .gnss mutex
  | .unlock mutex, s => s.unlock mutex
  | .setLed _ _, s => s.withGpio
  | .sleepFor _, s => .returns () s
  | .appendGga csvline, s => s.withGnss fun client => ((), client.appendGga csvline)

/-- The machine on which the four threads run. -/
def machine (settings : Settings) : Machine Response Controller Move where
  perform
    | .watcher => performWatcher settings
    | .livox => performLivox
    | .gpio => performGpio
    | .gnss => performGnss
  move := move settings

end Mandeye.Controller
