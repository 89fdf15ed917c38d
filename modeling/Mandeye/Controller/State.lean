import Mandeye.FileSystem.Client
import Mandeye.GNSSClient
import Mandeye.Interleaving.Interruption
import Mandeye.Livox.InternalInfo
import Mandeye.States

/-! What the threads of the controller share, the requests of its users, and
everything which the surroundings deliver to it. -/
namespace Mandeye

open Interleaving (Outcome)

/-- The constants of the build and of the environment. -/
structure Settings where
  autostart : Bool
  waitForLidarSync : Bool
  stopOneClick : Bool
  restartsOnUsbError : Bool
  disableBuzzer : Bool
  gnssPort : String
  minmea : Minmea

/-- The threads of the controller. The web server and the buttons only make requests. -/
inductive Thread where
  | watcher
  | livox
  | gpio
  | gnss
  deriving DecidableEq

/-- The mutexes which protect the creation of the clients. -/
inductive Mutex where
  | livoxClientPtrLock
  | gpioClientPtrLock
  deriving DecidableEq

/-- The pointers to clients which the code tests. -/
inductive Pointer where
  | livoxCLientPtr
  | gnssClientPtr
  | fileSystemClientPtr
  | publisherPtr
  | gpioClientPtr

/-- The lights, and the buzzer. -/
inductive Led where
  | stopScan
  | copyData
  | continousScanning
  | buzzer

/-- The deadlines which are shared by the requests and the watcher. -/
inductive Deadline where
  | stoppingStage1StartDeadline
  | stoppingStage1StartDeadlineChangeLed
  | stoppingStage2StartDeadline
  | stoppingStage2StartDeadlineChangeLed
  deriving DecidableEq

/-- What is published of the controller. -/
structure Publisher where
  mode : String
  stopScanDirectory : String
  continousScanDirectory : String

/-- Times of the steady clock are in nanoseconds. `usbErrorReports` is the
counter inside of `ReportState`. -/
structure Controller where
  isRunning : Bool
  isLidarError : Bool
  appState : States
  deadlines : Deadline → Int
  owner : Mutex → Option Thread
  livoxCLientPtr : Option LivoxClient
  gnssClientPtr : Option GNSSClient
  fileSystemClientPtr : Option FileSystemClient
  publisherPtr : Option Publisher
  gpioClientPtr : Bool
  usbErrorReports : Nat
  repository : Repository
  steadyClock : Int
  systemClock : UInt64
  serialLine : Option String
  listenerStarts : Bool
  serialPortOpens : Bool

def milliseconds (n : Int) : Int := n * 1000000

def seconds (n : Int) : Int := n * 1000000000

namespace Controller

/-- The process before its threads are started. -/
structure Initial (s : Controller) : Prop where
  appState : s.appState = .waitForResources
  owner : ∀ mutex, s.owner mutex = none
  livoxCLientPtr : s.livoxCLientPtr = none
  gnssClientPtr : s.gnssClientPtr = none
  fileSystemClientPtr : s.fileSystemClientPtr ≠ none
  publisherPtr : s.publisherPtr = none
  gpioClientPtr : s.gpioClientPtr = false

/-- A pointer is set once its client has been created. -/
def isSet (s : Controller) : Pointer → Bool
  | .livoxCLientPtr => s.livoxCLientPtr.isSome
  | .gnssClientPtr => s.gnssClientPtr.isSome
  | .fileSystemClientPtr => s.fileSystemClientPtr.isSome
  | .publisherPtr => s.publisherPtr.isSome
  | .gpioClientPtr => s.gpioClientPtr

section Triggers

variable (settings : Settings) (s : Controller)

/-- Start a continuous scan, unless something else is going on. -/
def startScan : Bool × Controller :=
  if s.appState = .idle ∨ s.appState = .stopped then
    (true, { s with appState := .startingScan })
  else (false, s)

/-- End a continuous scan without asking back. -/
def stopScan : Bool × Controller :=
  if s.appState = .scanning then (true, { s with appState := .stopping })
  else (false, s)

/-- Start a stop scan. -/
def triggerStopScan : Bool × Controller :=
  if s.appState = .idle ∨ s.appState = .stopped then
    (true, { s with appState := .startingStopScan })
  else (false, s)

/-- Set the deadline of a confirmation stage and the one of its blinking. -/
def enterStage (deadline changeLed : Deadline) (blink : Int) (state : States) : Controller :=
  { s with
    appState := state
    deadlines := Function.update
      (Function.update s.deadlines deadline (s.steadyClock + milliseconds 2000))
      changeLed (s.steadyClock + milliseconds blink) }

/-- The button for continuous scans: it starts one and, pressed three times in a row,
ends it. In one of the builds it ends it at once. A stage which has timed out is left
to the watcher. -/
def triggerContinousScanning : Bool × Controller :=
  if s.appState = .idle ∨ s.appState = .stopped then
    (true, { s with
      livoxCLientPtr := s.livoxCLientPtr.map LivoxClient.initializeDuration
      appState := .startingScan })
  else if s.appState = .scanning then
    if settings.stopOneClick then (true, { s with appState := .stopping })
    else
      (true, s.enterStage .stoppingStage1StartDeadline .stoppingStage1StartDeadlineChangeLed 100
        .stoppingStage1)
  else if s.appState = .stoppingStage1 then
    if s.steadyClock < s.deadlines .stoppingStage1StartDeadline then
      (true, s.enterStage .stoppingStage2StartDeadline .stoppingStage2StartDeadlineChangeLed 25
        .stoppingStage2)
    else (true, s)
  else if s.appState = .stoppingStage2 then
    if s.steadyClock < s.deadlines .stoppingStage2StartDeadline then
      (true, { s with appState := .stopping })
    else (true, s)
  else (false, s)

end Triggers

/-- The four functions through which the buttons, the web page and the console
ask for something. -/
inductive Trigger where
  | startScan
  | stopScan
  | triggerStopScan
  | triggerContinousScanning

/-- A request as a whole. The source tests `app_state` and stores to it in
separate statements, which nothing synchronises with the threads. -/
def trigger (settings : Settings) : Trigger → Controller → Bool × Controller
  | .startScan, s => s.startScan
  | .stopScan, s => s.stopScan
  | .triggerStopScan, s => s.triggerStopScan
  | .triggerContinousScanning, s => s.triggerContinousScanning settings

/-- A section which a callback of the lidar SDK executes under the mutexes of
the client. -/
inductive Callback where
  | pointCloud (laserId : UInt16) (data : LivoxLidarEthernetPacket)
  | imuData (laserId : UInt16) (data : LivoxLidarEthernetPacket)
  | lidarInfoChange (handle : UInt32) (info : LivoxLidarInfo)
  | param (handle : UInt32) (kv : LivoxClient.LivoxLidarKeyValueParam)

/-- What a callback does to the client. -/
def callback (millis : UInt64) : Callback → LivoxClient → LivoxClient
  | .pointCloud laserId data, client => client.pointCloudCallback laserId data
  | .imuData laserId data, client => client.imuDataCallback laserId data millis
  | .lidarInfoChange handle info, client => client.lidarInfoChangeCallback handle info
  | .param handle kv, client => client.receiveParam handle kv

/-- What happens without a thread of the model: requests, time, deliveries,
and what the system lets the process do with the repository. Each is one step of
a run: no statement of a thread falls between the test of a request and its
store. -/
inductive Move where
  | trigger (request : Trigger)
  | quit
  | elapse (nanoseconds : Nat)
  | systemClock (millis : UInt64)
  | livox (event : Callback)
  | serialLine (line : String)
  | repository (writable opens creates : Bool)

/-- A callback comes only after the client has been created. The serial port holds a
single line, and what is set of the repository is what the next calls find. -/
def move (settings : Settings) : Move → Controller → Option Controller
  | .trigger request, s => some (s.trigger settings request).2
  | .quit, s => some { s with isRunning := false }
  | .elapse nanoseconds, s => some { s with steadyClock := s.steadyClock + nanoseconds }
  | .systemClock millis, s => some { s with systemClock := millis }
  | .livox event, s =>
      match s.livoxCLientPtr with
      | none => none
      | some client =>
          some { s with livoxCLientPtr := some (callback s.systemClock event client) }
  | .serialLine line, s =>
      if s.serialLine.isNone then some { s with serialLine := some line } else none
  | .repository writable opens creates, s =>
      some { s with repository :=
        { s.repository with writable := writable, opens := opens, creates := creates } }

section Access

variable {Response : Type} (s : Controller)

/-- Follow a pointer to a client. A null pointer takes the process down. -/
def withLivox (f : LivoxClient → Response × LivoxClient) : Outcome Controller Response :=
  match s.livoxCLientPtr with
  | none => .faults
  | some client => .returns (f client).1 { s with livoxCLientPtr := some (f client).2 }

/-- The same for the GNSS client. -/
def withGnss (f : GNSSClient → Response × GNSSClient) : Outcome Controller Response :=
  match s.gnssClientPtr with
  | none => .faults
  | some client => .returns (f client).1 { s with gnssClientPtr := some (f client).2 }

/-- The same for the publisher. -/
def withPublisher (f : Publisher → Publisher) : Outcome Controller Unit :=
  match s.publisherPtr with
  | none => .faults
  | some publisher => .returns () { s with publisherPtr := some (f publisher) }

/-- A call on the file system client runs on the repository without being
interrupted: no other thread of the controller uses the repository. -/
def withFileSystem (f : FileSystemClient → FileSystemClient.Code (Response × FileSystemClient)) :
    Outcome Controller Response :=
  match s.fileSystemClientPtr with
  | none => .faults
  | some client =>
      let ((response, client), repository) := (f client).execute Repository.handle s.repository
      .returns response { s with fileSystemClientPtr := some client, repository := repository }

/-- The same for the GPIO client, of which nothing is modelled but that it is there. -/
def withGpio : Outcome Controller Unit := if s.gpioClientPtr then .returns () s else .faults

/-- A save function uses its buffer without a test. -/
def withBuffer (buffer : Option Nat) : Outcome Controller Unit :=
  match buffer with
  | none => .faults
  | some _ => .returns () s

/-- A mutex which is taken makes everybody wait. -/
def lock (t : Thread) (mutex : Mutex) : Outcome Controller Unit :=
  match s.owner mutex with
  | some _ => .blocks
  | none => .returns () { s with owner := Function.update s.owner mutex (some t) }

/-- The owner gives the mutex up. -/
def unlock (mutex : Mutex) : Outcome Controller Unit :=
  .returns () { s with owner := Function.update s.owner mutex none }

/-- One of the builds gives up on the third report of a USB error. -/
def reportState (settings : Settings) (state : States) : Outcome Controller Unit :=
  if settings.restartsOnUsbError ∧ state = .usbIoError then
    if 2 ≤ s.usbErrorReports then .faults
    else .returns () { s with usbErrorReports := s.usbErrorReports + 1 }
  else .returns () s

end Access

end Controller

end Mandeye
