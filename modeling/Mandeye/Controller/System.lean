import Mandeye.Controller.StateWatcher

/-! The other threads of the controller, and the controller as a whole. -/
namespace Mandeye.Controller

open Interleaving

namespace LivoxThread

abbrev Code := Program LivoxRequest LivoxRequest.Response

abbrev call (request : LivoxRequest) : Code request.Response := Program.perform request

/-- The body of the thread, which creates all clients but the GPIO one. -/
def start (settings : Settings) : Code (Option Unit) := do
  call (.lock .livoxClientPtrLock)
  call .createLivoxClient
  call (.unlock .livoxClientPtrLock)
  let started ← call .startListener
  .when (!started) (call .storeIsLidarError)
  .when (settings.gnssPort ≠ "") do
    call .createGnssClient
    call .gnssStartListener
    call .gnssSetDataCallback
  call .createPublisher
  return none

end LivoxThread

namespace GpioThread

abbrev Code := Program GpioRequest GpioRequest.Response

abbrev call (request : GpioRequest) : Code request.Response := Program.perform request

/-- A light goes on and off once. -/
def blink (led : Led) : Code Unit := do
  call (.setLed led true)
  call (.sleepFor 100)
  call (.setLed led false)
  call (.sleepFor 100)

/-- All lights blink, one after the other. -/
def blinkAll : Nat → Code Unit
  | 0 => return ()
  | n + 1 => do
      blink .stopScan
      blink .continousScanning
      blink .copyData
      blinkAll n

/-- The client is created under its lock, which is held until the lights have been
shown. -/
def start : Code (Option Unit) := do
  call (.lock .gpioClientPtrLock)
  call .createGpioClient
  blinkAll 3
  call (.unlock .gpioClientPtrLock)
  return none

end GpioThread

namespace GnssThread

abbrev Code := Program GnssRequest GnssRequest.Response

abbrev call (request : GnssRequest) : Code request.Response := Program.perform request

/-- The function which is installed as callback: a beep for a good position. -/
def dataCallback (settings : Settings) (gga : MinmeaSentenceGga) : Code Unit := do
  let gpioClient ← call (.isSet .gpioClientPtr)
  .when (gpioClient && 0 < gga.fixQuality && 5 < gga.satellitesTracked &&
      !settings.disableBuzzer) do
    call (.lock .gpioClientPtrLock)
    call (.setLed .buzzer true)
    call (.sleepFor 10)
    call (.setLed .buzzer false)
    call (.unlock .gpioClientPtrLock)

/-- A position is handed to the callback first, and then appended with the time of the
clock. -/
def receiveGga (settings : Settings) (gga : MinmeaSentenceGga) (laserTimestamp : UInt64) :
    Code Unit := do
  let installed ← call .hasDataCallback
  .when installed (dataCallback settings gga)
  let millis ← call .systemClockNow
  call (.appendGga (GNSSClient.ggaToCsvLine gga laserTimestamp millis))

/-- One line of the serial port. -/
def worker (settings : Settings) : Code (Option Unit) := do
  let line ← call .readLine
  .when (settings.minmea.check line) do
    let laserTimestamp ← call .getTimeStamp
    let timestamp ← call .getTimeStamp
    let millis ← call .systemClockNow
    call (.appendRaw (GNSSClient.rawEntryToLine line timestamp millis))
    match settings.minmea.parseGga line with
    | none => return ()
    | some gga => receiveGga settings gga laserTimestamp
  return some ()

end GnssThread

/-- Only the watcher has variables which live from one round to the next. -/
abbrev Local : Thread → Type
  | .watcher => Locals
  | _ => Unit

/-- The four threads of the controller. Two of them end after they have started. -/
def system (settings : Settings) : System Response Local Controller Move where
  toMachine := machine settings
  start
    | .watcher => StateWatcher.startUp
    | .livox => LivoxThread.start settings
    | .gpio => GpioThread.start
    | .gnss => return some ()
  loop
    | .watcher => StateWatcher.round settings
    | .livox => fun _ => return none
    | .gpio => fun _ => return none
    | .gnss => fun _ => GnssThread.worker settings

/-- A build without automatic start and without a GNSS receiver. -/
def plainSettings : Settings where
  autostart := false
  waitForLidarSync := false
  stopOneClick := false
  restartsOnUsbError := false
  disableBuzzer := true
  gnssPort := ""
  minmea := ⟨fun _ => false, fun _ => none⟩

/-- The process is started on an empty stick, which may be write-protected. -/
def switchedOn (writable : Bool) : Controller where
  isRunning := true
  isLidarError := false
  appState := .waitForResources
  deadlines _ := 0
  owner _ := none
  livoxCLientPtr := none
  gnssClientPtr := none
  fileSystemClientPtr := some ⟨"/media/usb/", 0, "", ""⟩
  publisherPtr := none
  gpioClientPtr := false
  usbErrorReports := 0
  repository := ⟨∅, ∅, writable, true, true⟩
  steadyClock := 0
  systemClock := 0
  serialLine := none
  listenerStarts := true
  serialPortOpens := true

theorem switchedOn_initial (writable : Bool) : (switchedOn writable).Initial where
  appState := rfl
  owner _ := rfl
  livoxCLientPtr := rfl
  gnssClientPtr := rfl
  fileSystemClientPtr := by simp [switchedOn]
  publisherPtr := rfl
  gpioClientPtr := rfl

/-- A thread takes a number of steps in a row. -/
def steps (t : Thread) (n : Nat) : List (Choice Thread Move) := .replicate n (.run t)

/-- The GPIO client is created and the watcher ends its first round in `IDLE`. -/
def untilIdle : List (Choice Thread Move) :=
  steps .watcher 6 ++ steps .gpio 39 ++ steps .watcher 17

/-- A continuous scan which is started by the given request. -/
def scanStartedBy (request : Trigger) : List (Choice Thread Move) :=
  steps .livox 3 ++ untilIdle ++ [.move (.trigger request)] ++ steps .watcher 29

end Mandeye.Controller
