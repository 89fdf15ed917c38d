import Mandeye.Controller.Machine

/-! `stateWatcher`, the thread which takes the controller through its states.
A round of its loop looks at `app_state` again and again, so the state may
change between the test which selects a branch and the end of this branch. -/
namespace Mandeye.Controller

open Interleaving (Program)

/-- What `stateWatcher` remembers from one round to the next. The last two are
static variables of the blinking. -/
structure Locals where
  chunkStart : Int
  stopScanDeadline : Int
  stopScanInitialDeadline : Int
  continousScanDirectory : String
  stopScanDirectory : String
  chunksInExperimentCS : Int32
  chunksInExperimentSS : Int32
  led1 : Bool
  led2 : Bool

/-- The number of the next chunk. -/
def Locals.chunk (locals : Locals) : Int32 :=
  locals.chunksInExperimentCS + locals.chunksInExperimentSS

namespace StateWatcher

abbrev Code := Program WatcherRequest WatcherRequest.Response

abbrev call (request : WatcherRequest) : Code request.Response := Program.perform request

/-- `&&` with a statement on its right side. -/
def andAlso (left : Bool) (right : Code Bool) : Code Bool :=
  if left then right else return false

def setLeds (stopScan copyData continousScanning : Bool) : Code Unit := do
  call (.setLed .stopScan stopScan)
  call (.setLed .copyData copyData)
  call (.setLed .continousScanning continousScanning)

/-- Set an LED to one state and to the other, each for a while. -/
def blink (led : Led) (first : Bool) (milliseconds : Nat) : Code Unit := do
  call (.setLed led first)
  call (.sleepFor milliseconds)
  call (.setLed led !first)
  call (.sleepFor milliseconds)

def blinkTimes (led : Led) (first : Bool) (milliseconds : Nat) : Nat → Code Unit
  | 0 => return ()
  | n + 1 => do
      blink led first milliseconds
      blinkTimes led first milliseconds n

/-- The directory stays empty if it cannot be created. -/
def createStopScanDirectory : Code (String × Int32) := do
  let fileSystemClient ← call (.isSet .fileSystemClientPtr)
  if fileSystemClient then
    let (writableDir, idManifest) ← call (.createDirectoryForStopScans 0)
    .when writableDir.isNone (call (.storeAppState .usbIoError))
    return (writableDir.getD "", idManifest)
  else return ("", 0)

/-- The directories of the session. -/
def createDirectories : Code (String × String) := do
  let (stopScanDirectory, idManifest) ← createStopScanDirectory
  .when (stopScanDirectory = "") (call (.storeAppState .usbIoError))
  let writableDir ← call (.createDirectoryForContinousScanning idManifest)
  .when writableDir.isNone (call (.storeAppState .usbIoError))
  return (stopScanDirectory, writableDir.getD "")

/-- What is done before the loop: the clocks are read, the directories created. -/
def startUp : Code (Option Locals) := do
  let chunkStart ← call .steadyClockNow
  let stopScanDeadline ← call .steadyClockNow
  let stopScanInitialDeadline ← call .steadyClockNow
  let (stopScanDirectory, continousScanDirectory) ← createDirectories
  return some
    { chunkStart := chunkStart
      stopScanDeadline := stopScanDeadline
      stopScanInitialDeadline := stopScanInitialDeadline
      continousScanDirectory := continousScanDirectory
      stopScanDirectory := stopScanDirectory
      chunksInExperimentCS := 0
      chunksInExperimentSS := 0
      led1 := true
      led2 := true }

/-- Show the state to the subscribers and to the hardware. -/
def publishState : Code Unit := do
  let publisher ← call (.isSet .publisherPtr)
  .when publisher do
    let state ← call .readAppState
    call (.setMode (statesToString state))
  let state ← call .readAppState
  call (.reportState state)

/-- The files of a chunk which every kind of scan has. -/
def saveLidarData (lidarBuffer imuBuffer : Option Nat) (directory : String) (chunk : Int32) :
    Code Unit := do
  call (.savePointcloudData lidarBuffer directory chunk)
  call (.saveImuData imuBuffer directory chunk)
  call (.saveStatusData directory chunk)
  let lidarList ← call .getSerialNumberToLidarIdMapping
  call (.saveLidarList lidarList directory chunk)

/-- Take the last data of a scan and end the logs. -/
def closeLogs : Code ((Option Nat × Option Nat) × List GgaCsvLine) := do
  let buffers ← call .retrieveData
  call .stopLog
  let gnssClient ← call (.isSet .gnssClientPtr)
  if gnssClient then
    let gnssData ← call .gnssRetrieveData
    call .gnssStopLog
    return (buffers, gnssData)
  else return (buffers, [])

/-- Save the last chunk of a scan. -/
def saveLastChunk (buffers : Option Nat × Option Nat) (gnssData : List GgaCsvLine)
    (directory : String) (chunk : Int32) : Code Unit := do
  saveLidarData buffers.1 buffers.2 directory chunk
  let gnssClient ← call (.isSet .gnssClientPtr)
  .when gnssClient (call (.saveGnssData gnssData directory chunk))

section Branches

variable (settings : Settings)

/-- An error is shown for as long as it lasts, two seconds in each round and the time
of the beeps. -/
def showError (stopScan copyData continousScanning : Bool) (lastBeep : Nat) : Code Unit := do
  let gpioClient ← call (.isSet .gpioClientPtr)
  .when gpioClient do
    setLeds false false false
    call (.sleepFor 1000)
    setLeds stopScan copyData continousScanning
    call (.sleepFor 1000)
    .when (!settings.disableBuzzer) (call (.beep [2000, 100, 2000, 100, 2000, 100, lastBeep]))

/-- What is shown of an error of the lidar, in a test of its own before the branches. -/
def lidarError : Code Unit := showError settings true false true 10000

/-- What is shown of a USB error. -/
def usbIoError (locals : Locals) : Code Locals := do
  showError settings false true false 5000
  return locals

/-- Ask once a second whether the lidars are synchronised, `n` times at most. -/
def isLidarSynced : Nat → Code Bool
  | 0 => return false
  | n + 1 => do
      call (.sleepFor 1000)
      let livoxCLient ← call (.isSet .livoxCLientPtr)
      let synced ← andAlso livoxCLient (call .isSynced)
      if synced then return true else isLidarSynced n

/-- A minute is waited for the lidars. If that is not enough one of them is taken to
be broken. -/
def waitForLidarSync : Code Unit := do
  let synced ← isLidarSynced 60
  .when (!synced) (call .storeIsLidarError)

/-- Both client mutexes are held to the end of the branch. -/
def waitForResources (locals : Locals) : Code Locals := do
  .when (!settings.disableBuzzer) (call (.beep [10]))
  call (.sleepFor 100)
  call (.lock .livoxClientPtrLock)
  call (.lock .gpioClientPtrLock)
  .when settings.waitForLidarSync waitForLidarSync
  let gpioClient ← call (.isSet .gpioClientPtr)
  let fileSystemClient ← andAlso gpioClient (call (.isSet .fileSystemClientPtr))
  .when fileSystemClient do
    call (.storeAppState .idle)
    .when (!settings.disableBuzzer)
      (call (.beep [100, 50, 100, 50, 100, 50, 100, 50, 100, 50, 100, 50]))
  let publisher ← call (.isSet .publisherPtr)
  .when publisher
    (call (.setWorkingDirectory locals.stopScanDirectory locals.continousScanDirectory))
  call (.unlock .gpioClientPtrLock)
  call (.unlock .livoxClientPtrLock)
  return locals

/-- An error of the lidar is noticed here only, and the automatic start happens here.
Both test in one statement and store in a later one. -/
def idle (locals : Locals) : Code Locals := do
  let isLidarError ← call .isLidarError
  .when isLidarError (call (.storeAppState .lidarError))
  let gpioClient ← call (.isSet .gpioClientPtr)
  .when gpioClient (setLeds false false false)
  call (.sleepFor 100)
  .when settings.autostart do
    let isLidarError ← call .isLidarError
    .when (!isLidarError) (call (.storeAppState .startingScan))
  return locals

/-- The light of the scan blinks twice. -/
def showStart : Code Unit := do
  let gpioClient ← call (.isSet .gpioClientPtr)
  .when gpioClient do
    call (.setLed .stopScan false)
    call (.setLed .copyData false)
    blinkTimes .continousScanning true 100 2

/-- The logs are started, and with them the scan. -/
def startContinousScan : Code Unit := do
  call .startLog
  let gnssClient ← call (.isSet .gnssClientPtr)
  .when gnssClient (call .gnssStartLog)
  call (.storeAppState .scanning)

/-- The scan starts as soon as there is a lidar client. -/
def startingScan (locals : Locals) : Code Locals := do
  showStart
  let livoxCLient ← call (.isSet .livoxCLientPtr)
  .when livoxCLient startContinousScan
  let chunkStart ← call .steadyClockNow
  return { locals with chunkStart := chunkStart }

/-- Take the data of the GNSS receiver, if there is one. -/
def retrieveGnss (gnssClient : Bool) : Code (List GgaCsvLine × List String) := do
  if gnssClient then
    let gnssBuffer ← call .gnssRetrieveData
    let gnssRawBuffer ← call .gnssRetrieveRawData
    return (gnssBuffer, gnssRawBuffer)
  else return ([], [])

/-- Take the data out of the logs, which go on with the next chunk. -/
def rotateChunk (locals : Locals) : Code Locals := do
  call (.setLed .copyData true)
  let chunkStart ← call .steadyClockNow
  let (lidarBuffer, imuBuffer) ← call .retrieveData
  let gnssClient ← call (.isSet .gnssClientPtr)
  let (gnssBuffer, gnssRawBuffer) ← retrieveGnss gnssClient
  if locals.continousScanDirectory = "" then
    call (.storeAppState .usbIoError)
    return { locals with chunkStart := chunkStart }
  else
    saveLidarData lidarBuffer imuBuffer locals.continousScanDirectory locals.chunk
    let gnssClient ← call (.isSet .gnssClientPtr)
    .when gnssClient do
      call (.saveGnssData gnssBuffer locals.continousScanDirectory locals.chunk)
      call (.saveGnssRawData gnssRawBuffer locals.continousScanDirectory locals.chunk)
    call (.setLed .copyData false)
    return { locals with
      chunkStart := chunkStart
      chunksInExperimentCS := locals.chunksInExperimentCS + 1 }

/-- A chunk ends after ten seconds, but not while a stop is being confirmed. -/
def checkChunk (now : Int) (locals : Locals) : Code Locals := do
  let chunkEnds ←
    andAlso (seconds 10 < now - locals.chunkStart) (call (.testAppState .scanning))
  if chunkEnds then rotateChunk locals else return locals

/-- A confirmation stage which is not confirmed in time falls back to scanning.
`led` is the static variable of its blinking. -/
def confirmationStage (stage : States) (deadline changeLed : Deadline) (period : Int)
    (led : Bool) : Code Bool := do
  let entered ← call (.testAppState stage)
  if entered then
    let now ← call .steadyClockNow
    let changeLedTime ← call (.readDeadline changeLed)
    .when (changeLedTime < now) do
      call (.setLed .continousScanning led)
      let again ← call .steadyClockNow
      call (.storeDeadline changeLed (again + milliseconds period))
    let deadlineTime ← call (.readDeadline deadline)
    .when (deadlineTime < now) (call (.storeAppState .scanning))
    return if changeLedTime < now then !led else led
  else return led

/-- The light is left alone while a stop is being confirmed, when it blinks. -/
def showScanning : Code Unit := do
  let gpioClient ← call (.isSet .gpioClientPtr)
  .when gpioClient do
    let stillScanning ← call (.testAppState .scanning)
    .when stillScanning (call (.setLed .continousScanning true))

/-- One branch for a scan and for both stages of the confirmation that it is to end. -/
def scanning (locals : Locals) : Code Locals := do
  showScanning
  let now ← call .steadyClockNow
  .when (seconds 60 < now - locals.chunkStart) (blink .continousScanning false 1000)
  .when (seconds 600 < now - locals.chunkStart) (blink .continousScanning false 100)
  let locals ← checkChunk now locals
  let led1 ← confirmationStage .stoppingStage1 .stoppingStage1StartDeadline
    .stoppingStage1StartDeadlineChangeLed 500 locals.led1
  let led2 ← confirmationStage .stoppingStage2 .stoppingStage2StartDeadline
    .stoppingStage2StartDeadlineChangeLed 250 locals.led2
  call (.sleepFor 20)
  return { locals with led1 := led1, led2 := led2 }

/-- Both lights are on while data are copied. -/
def showCopying : Code Unit := do
  call (.setLed .continousScanning true)
  call (.setLed .copyData true)

/-- The logs are closed before anything is saved. -/
def stopping (locals : Locals) : Code Locals := do
  showCopying
  let (buffers, gnssData) ← closeLogs
  blinkTimes .continousScanning true 50 20
  showCopying
  if locals.continousScanDirectory = "" then
    call (.storeAppState .usbIoError)
    return locals
  else
    saveLastChunk buffers gnssData locals.continousScanDirectory locals.chunk
    call (.setLed .copyData false)
    call (.storeAppState .idle)
    return { locals with chunksInExperimentCS := locals.chunksInExperimentCS + 1 }

/-- The scanner is given five seconds to come to rest, and then thirty to scan. -/
def startingStopScan (locals : Locals) : Code Locals := do
  let gpioClient ← call (.isSet .gpioClientPtr)
  .when gpioClient (setLeds false false false)
  let now ← call .steadyClockNow
  let stopScanInitialDeadline := now + milliseconds 5000
  call (.storeAppState .stopScanInInitialProgress)
  return { locals with
    stopScanInitialDeadline := stopScanInitialDeadline
    stopScanDeadline := stopScanInitialDeadline + milliseconds 30000 }

/-- The logs are started. The state changes with or without a lidar client. -/
def startStopScan : Code Unit := do
  let livoxCLient ← call (.isSet .livoxCLientPtr)
  .when livoxCLient do
    call (.setLed .stopScan true)
    call .startLog
  let gnssClient ← call (.isSet .gnssClientPtr)
  .when gnssClient (call .gnssStartLog)
  call (.storeAppState .stopScanInProgress)

/-- The scan goes on without a lidar client as if its log had been started. -/
def stopScanInInitialProgress (locals : Locals) : Code Locals := do
  let now ← call .steadyClockNow
  if now < locals.stopScanInitialDeadline then
    blink .stopScan false 100
    return locals
  else
    startStopScan
    return locals

/-- The scan ends when its time is up. -/
def stopScanInProgress (locals : Locals) : Code Locals := do
  let now ← call .steadyClockNow
  .when (locals.stopScanDeadline < now) (call (.storeAppState .stopingStopScan))
  return locals

/-- The lights before the logs are closed. -/
def showStopScanClosing : Code Unit := do
  let gpioClient ← call (.isSet .gpioClientPtr)
  .when gpioClient (call (.setLed .copyData true))

/-- The lights after the scan has been saved. -/
def showStopScanEnd : Code Unit := do
  let gpioClient ← call (.isSet .gpioClientPtr)
  .when gpioClient do
    call (.setLed .copyData false)
    call (.setLed .stopScan false)

/-- The end of a stop scan, which has a directory and a counter of its own. -/
def stopingStopScan (locals : Locals) : Code Locals := do
  showStopScanClosing
  let (buffers, gnssData) ← closeLogs
  if locals.stopScanDirectory = "" then
    call (.storeAppState .usbIoError)
    return locals
  else
    saveLastChunk buffers gnssData locals.stopScanDirectory locals.chunk
    showStopScanEnd
    call (.storeAppState .idle)
    return { locals with chunksInExperimentSS := locals.chunksInExperimentSS + 1 }

/-- The branches of the `else if` chain, each with the states it asks for. -/
def branches (locals : Locals) : List (List States × Code Locals) :=
  [([.usbIoError], usbIoError settings locals),
   ([.waitForResources], waitForResources settings locals),
   ([.idle], idle settings locals),
   ([.startingScan], startingScan locals),
   ([.scanning, .stoppingStage1, .stoppingStage2], scanning locals),
   ([.stopping], stopping locals),
   ([.startingStopScan], startingStopScan locals),
   ([.stopScanInInitialProgress], stopScanInInitialProgress locals),
   ([.stopScanInProgress], stopScanInProgress locals),
   ([.stopingStopScan], stopingStopScan locals)]

end Branches

/-- `app_state == a || app_state == b || …`. -/
def isAnyOf : List States → Code Bool
  | [] => return false
  | state :: rest => do
      let found ← call (.testAppState state)
      if found then return true else isAnyOf rest

/-- The chain executes the first branch whose test succeeds. Each test reads the state
anew. -/
def elseIf {Result : Type} (otherwise : Code Result) :
    List (List States × Code Result) → Code Result
  | [] => otherwise
  | (states, body) :: rest => do
      let entered ← isAnyOf states
      if entered then body else elseIf otherwise rest

/-- One round of the loop. -/
def round (settings : Settings) (locals : Locals) : Code (Option Locals) := do
  let running ← call .isRunning
  if running then
    publishState
    let error ← call (.testAppState .lidarError)
    .when error (lidarError settings)
    some <$> elseIf (return locals) (branches settings locals)
  else return none

end StateWatcher

end Mandeye.Controller
