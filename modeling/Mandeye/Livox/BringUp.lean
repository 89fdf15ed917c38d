import Mandeye.Livox.Commands
import Mandeye.Livox.InternalInfo

/-! How a lidar is brought up. Its first detection message makes the SDK ask for the type of
its firmware; once that is known to be the normal one, each further message has the lidar
configured, until the configuration is acknowledged and the program is told of the lidar.

The callbacks are taken to run one at a time. The SDK calls those for detections and those for
answers on different threads, which share the devices and the counter without a lock. -/
namespace Mandeye.BringUp

open GeneralCommandHandler LivoxClient

/-- The key of the record with the type of the firmware. -/
def kKeyFwType : UInt16 := 0x8010

/-- A lidar introduces itself. -/
structure DetectionData where
  retCode : UInt8
  devType : UInt8
  sn : String
  lidarIp : UInt8 × UInt8 × UInt8 × UInt8
  cmdPort : UInt16

/-- What the program is told of a lidar: its address as a text. -/
def DetectionData.lidarInfo (data : DetectionData) : LivoxLidarInfo where
  devType := data.devType
  sn := data.sn
  lidarIp := toString data.lidarIp.1.toNat ++ "." ++ toString data.lidarIp.2.1.toNat ++ "." ++
    toString data.lidarIp.2.2.1.toNat ++ "." ++ toString data.lidarIp.2.2.2.toNat

/-- What the SDK keeps of a lidar, and how far it has been brought up. -/
structure DeviceInfo where
  info : LivoxLidarInfo
  isUpdateCfg : Bool
  isGetLoaderMode : Bool
  isLoaderMode : Bool
  isCallback : Bool

/-- What the map makes of a handle it has not seen. -/
def DeviceInfo.empty : DeviceInfo := ⟨⟨0, "", ""⟩, false, false, false, false⟩

/-- The answer to a configuration. -/
structure LivoxLidarAsyncControlResponse where
  retCode : UInt8
  errorKey : UInt16

/-- What becomes of an attempt to send a query. When `sendto` fails the callback is called
before the attempt returns. -/
inductive SendOutcome where
  | refused
  | failed
  | sent

/-- The last fields keep what was sent, and what the program was told. -/
structure State where
  infoChangeCallback : Bool
  devices : UInt32 → Option DeviceInfo
  lidarsDevType : UInt32 → Option UInt8
  configured : CommandHandler → UInt32 → Bool
  count : Nat
  queries : List UInt32
  updates : List (UInt32 × UInt16)
  callbacks : List (UInt32 × LivoxLidarInfo)

/-- No lidar is known. -/
def State.initial : State where
  infoChangeCallback := false
  devices := fun _ => none
  lidarsDevType := fun _ => none
  configured := fun _ _ => false
  count := 0
  queries := []
  updates := []
  callbacks := []

namespace State

/-- The entry of one lidar is replaced. -/
def setDevice (s : State) (handle : UInt32) (device : DeviceInfo) : State :=
  { s with devices := Function.update s.devices handle (some device) }

/-- The type of the firmware is known from now on. Only a lidar which is known has
one. -/
def updateFwType (s : State) (handle : UInt32) (fwType : UInt8) : State :=
  match s.devices handle with
  | none => s
  | some device =>
      s.setDevice handle { device with isGetLoaderMode := true, isLoaderMode := fwType = 0 }

/-- The firmware is taken for the normal one. -/
def giveUp (s : State) (handle : UInt32) : State :=
  { s.updateFwType handle 1 with count := 0 }

/-- The outcomes are those of the attempts one after the other; a failed one is counted by
the callback, which tries again. -/
def queryFwType (handle : UInt32) : List SendOutcome → State → State
  | [], s => { s with queries := s.queries ++ [handle] }
  | .sent :: _, s => { s with queries := s.queries ++ [handle] }
  | .refused :: _, s => s
  | .failed :: rest, s =>
      if 10 < s.count then s.giveUp handle
      else queryFwType handle rest { s with count := s.count + 1 }

/-- The type of the firmware, if the answer tells it. -/
def fwType (status : Int32) (response : Option LivoxLidarDiagInternalInfoResponse) :
    Option UInt8 :=
  if status ≠ kLivoxLidarStatusSuccess then none
  else
    match response with
    | none => none
    | some response =>
        let kv := response.param 0
        if response.retCode ≠ 0 then none
        else if kv.key ≠ kKeyFwType then none
        else if kv.length ≠ 1 then none
        else some (kv.value 0)

/-- The failures of all lidars are counted together, up to a success. -/
def queryFwTypeCallback (s : State) (status : Int32) (handle : UInt32)
    (response : Option LivoxLidarDiagInternalInfoResponse) (outcomes : List SendOutcome) : State :=
  if 10 < s.count then s.giveUp handle
  else
    match fwType status response with
    | none => queryFwType handle outcomes { s with count := s.count + 1 }
    | some fwType => { s.updateFwType handle fwType with count := 0 }

/-- The program is told of each lidar once. -/
def livoxLidarInfoChange (s : State) (handle : UInt32) : State :=
  let device := (s.devices handle).getD .empty
  let s' := s.setDevice handle { device with isUpdateCfg := true, isCallback := true }
  if !device.isCallback && s.infoChangeCallback then
    { s' with callbacks := s.callbacks ++ [(handle, device.info)] }
  else s'

/-- The configuration is sent unless the lidar has acknowledged it. -/
def updateLidarCfg (s : State) (cmdHandler : Option CommandHandler) (handle : UInt32)
    (lidarCmdPort : UInt16) : State :=
  match cmdHandler with
  | none => s
  | some .pa => s
  | some kind =>
      if s.configured kind handle then s
      else { s with updates := s.updates ++ [(handle, lidarCmdPort)] }

/-- The device manager tells of a lidar whose firmware is the loader. -/
def deviceManagerHandleDetectionData (s : State) (handle : UInt32) (data : DetectionData)
    (isGetLoaderMode isLoaderMode : Bool) : State :=
  if handle = 0 then s
  else
    match s.lidarsDevType handle with
    | some devType =>
        if devType ≠ data.devType then s
        else if isGetLoaderMode && isLoaderMode then s.livoxLidarInfoChange handle
        else s
    | none =>
        let s := { s with
          lidarsDevType := Function.update s.lidarsDevType handle (some data.devType) }
        if isGetLoaderMode && isLoaderMode then s.livoxLidarInfoChange handle else s

/-- The messages of one lidar. `outcomes` are those of the first query. -/
def handleDetectionData (handlers : UInt8 → Option CommandHandler) (s : State)
    (handle : UInt32) (data : DetectionData) (outcomes : List SendOutcome) : State :=
  if data.retCode ≠ 0 then s
  else
    match s.devices handle with
    | some device =>
        let s :=
          if !device.isUpdateCfg && device.isGetLoaderMode && !device.isLoaderMode then
            s.updateLidarCfg (handlers data.devType) handle data.cmdPort
          else s
        s.deviceManagerHandleDetectionData handle data device.isGetLoaderMode
          device.isLoaderMode
    | none =>
        let s := queryFwType handle outcomes
          (s.setDevice handle { DeviceInfo.empty with info := data.lidarInfo })
        let device := (s.devices handle).getD .empty
        let s := s.deviceManagerHandleDetectionData handle data device.isGetLoaderMode
          device.isLoaderMode
        let device := (s.devices handle).getD .empty
        if device.isGetLoaderMode && !device.isLoaderMode then
          s.updateLidarCfg (handlers data.devType) handle data.cmdPort
        else s

/-- The two handlers differ in what they do when a lidar refuses its configuration. -/
def updateLidarCallback (s : State) (kind : CommandHandler) (status : Int32) (handle : UInt32)
    (response : Option LivoxLidarAsyncControlResponse) : State :=
  if status ≠ kLivoxLidarStatusSuccess then s
  else
    match response, kind with
    | none, _ => s
    | _, .pa => s
    | some response, kind =>
        if response.retCode = 0 ∧ response.errorKey = 0 then
          let s := { s with
            configured := Function.update s.configured kind
              (Function.update (s.configured kind) handle true) }
          s.livoxLidarInfoChange handle
        else if kind = .hap then s.livoxLidarInfoChange handle
        else s

end State

/-- What the threads of the SDK are called with, and the registration of the program's
callback. An event is a whole callback: none begins before the last one has returned. -/
inductive Event where
  | setLivoxLidarInfoChangeCallback
  | handleDetectionData (handle : UInt32) (data : DetectionData) (outcomes : List SendOutcome)
  | queryFwTypeCallback (status : Int32) (handle : UInt32)
      (response : Option LivoxLidarDiagInternalInfoResponse) (outcomes : List SendOutcome)
  | updateLidarCallback (kind : CommandHandler) (status : Int32) (handle : UInt32)
      (response : Option LivoxLidarAsyncControlResponse)

/-- A callback runs from its beginning to its end. -/
def State.step (handlers : UInt8 → Option CommandHandler) (s : State) : Event → State
  | .setLivoxLidarInfoChangeCallback => { s with infoChangeCallback := true }
  | .handleDetectionData handle data outcomes => s.handleDetectionData handlers handle data outcomes
  | .queryFwTypeCallback status handle response outcomes =>
      s.queryFwTypeCallback status handle response outcomes
  | .updateLidarCallback kind status handle response =>
      s.updateLidarCallback kind status handle response

/-- The state after any sequence of events. The configuration tells for which types of lidars
there is a handler. -/
def run (handlers : UInt8 → Option CommandHandler) (events : List Event) : State :=
  events.foldl (State.step handlers) .initial

theorem run_append (handlers : UInt8 → Option CommandHandler) (events more : List Event) :
    run handlers (events ++ more) = more.foldl (State.step handlers) (run handlers events) :=
  List.foldl_append

end Mandeye.BringUp
