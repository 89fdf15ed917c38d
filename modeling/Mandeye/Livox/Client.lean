import Mathlib.Data.Finset.Card
import Mathlib.Data.List.AList
import Mathlib.Data.String.Basic
import Mandeye.Binary64
import Mandeye.SwapBuffer

/-! The lidar client: the buffers which a recording collects, the clock readings
taken from the packets, and what is known of each lidar. Every definition below
is one section which the source executes under its mutexes. -/
namespace Mandeye

/-- A point as the lidar sends it, in millimetres. -/
structure LivoxLidarCartesianHighRawPoint where
  x : Int32
  y : Int32
  z : Int32
  reflectivity : UInt8
  tag : UInt8
  deriving DecidableEq

/-- The single-precision readings are only copied, so their bit patterns stand
for them. -/
structure LivoxLidarImuRawPoint where
  gyroX : UInt32
  gyroY : UInt32
  gyroZ : UInt32
  accX : UInt32
  accY : UInt32
  accZ : UInt32
  deriving DecidableEq

/-- A point as it is recorded. -/
structure LivoxPoint where
  point : LivoxLidarCartesianHighRawPoint
  timestamp : UInt64
  laserId : UInt16
  deriving DecidableEq

/-- An IMU sample as it is recorded. The epoch is the time of the host. -/
structure LivoxIMU where
  point : LivoxLidarImuRawPoint
  timestamp : UInt64
  laserId : UInt16
  epochTime : UInt64
  deriving DecidableEq

/-- What the SDK says of a lidar. -/
structure LivoxLidarInfo where
  devType : UInt8
  sn : String
  lidarIp : String
  deriving DecidableEq

def kLivoxLidarImuData : UInt8 := 0
def kLivoxLidarCartesianCoordinateHighData : UInt8 := 1

/-- A data packet. The payload is read as high resolution points or as one
IMU sample, whatever its type says. -/
structure LivoxLidarEthernetPacket where
  timeInterval : UInt16
  dotNum : UInt16
  dataType : UInt8
  timestamp : UInt64
  pointData : Nat → LivoxLidarCartesianHighRawPoint
  imuData : LivoxLidarImuRawPoint

/-- The two buffers, and what is known of the lidars by their handles. The maps of
the source are unordered; a list of entries stands for each, and where the source
iterates over a map the order is that of the list. -/
structure LivoxClient where
  bufferLivox : SwapBuffer LivoxPoint
  bufferIMU : SwapBuffer LivoxIMU
  timestamp : UInt64
  elapsed : UInt64
  sessionStart : Option UInt64
  livoxLidarInfo : AList fun _ : UInt32 => LivoxLidarInfo
  livoxLidarWorkMode : AList fun _ : UInt32 => Int32
  livoxLidarTimeSync : AList fun _ : UInt32 => Int32
  handleToSerialNumber : AList fun _ : UInt32 => String
  serialNumbers : Finset String

namespace LivoxClient

/-- A client as `make_shared` leaves it. -/
def new : LivoxClient where
  bufferLivox := .initial
  bufferIMU := .initial
  timestamp := 0
  elapsed := 0
  sessionStart := none
  livoxLidarInfo := ∅
  livoxLidarWorkMode := ∅
  livoxLidarTimeSync := ∅
  handleToSerialNumber := ∅
  serialNumbers := ∅

/-- Both buffers are made anew. -/
def startLog (client : LivoxClient) : LivoxClient :=
  { client with bufferLivox := client.bufferLivox.start, bufferIMU := client.bufferIMU.start }

/-- Both buffers are dropped, with what is in them. -/
def stopLog (client : LivoxClient) : LivoxClient :=
  { client with bufferLivox := client.bufferLivox.stop, bufferIMU := client.bufferIMU.stop }

/-- Both buffers are handed over and replaced, under both mutexes. -/
def retrieveData (client : LivoxClient) : (Option Nat × Option Nat) × LivoxClient :=
  let (returnPointerImu, bufferIMU) := client.bufferIMU.retrieve
  let (returnPointerLidar, bufferLivox) := client.bufferLivox.retrieve
  ((returnPointerLidar, returnPointerImu),
    { client with bufferLivox := bufferLivox, bufferIMU := bufferIMU })

/-- Any packet with data sets the time, and the duration of a session which has begun. -/
def saveTimeStamp (client : LivoxClient) (timestamp : UInt64) : LivoxClient :=
  { client with
    timestamp := timestamp
    elapsed := match client.sessionStart with
      | some start => timestamp - start
      | none => client.elapsed }

/-- The time of the `i`-th point of a packet. The interval is in units of
100 ns; the sum is evaluated in double precision and truncated. -/
def pointTimestamp (data : LivoxLidarEthernetPacket) (i : Nat) : UInt64 :=
  let step := Binary64.round ((data.timeInterval.toNat * 100 : ℚ) / data.dotNum.toNat)
  let offset := Binary64.round (i * step)
  UInt64.ofNat ⌊Binary64.round (Binary64.round data.timestamp.toNat + offset)⌋₊

/-- The points which a packet contributes to a running log. -/
def acceptedPoints (laserId : UInt16) (data : LivoxLidarEthernetPacket) : List LivoxPoint :=
  if data.dataType = kLivoxLidarCartesianCoordinateHighData then
    ((List.range data.dotNum.toNat).map fun i =>
      { point := data.pointData i, timestamp := pointTimestamp data i, laserId := laserId }).filter
      fun point => 0 < point.timestamp
  else []

/-- The section of `PointCloudCallback` under the buffer mutex. The laser id was
looked up before the mutex was taken. -/
def pointCloudCallback (client : LivoxClient) (laserId : UInt16)
    (data : LivoxLidarEthernetPacket) : LivoxClient :=
  if data.dataType = kLivoxLidarCartesianCoordinateHighData then
    { client.saveTimeStamp data.timestamp with
      bufferLivox := client.bufferLivox.append (acceptedPoints laserId data) }
  else client

/-- The sample which a packet contributes to a running log. -/
def acceptedIMU (laserId : UInt16) (data : LivoxLidarEthernetPacket) (millis : UInt64) :
    List LivoxIMU :=
  if data.dataType = kLivoxLidarImuData ∧ 0 < data.timestamp then
    [{ point := data.imuData, timestamp := data.timestamp, laserId := laserId,
       epochTime := millis }]
  else []

/-- The section of `ImuDataCallback` under the buffer mutex. -/
def imuDataCallback (client : LivoxClient) (laserId : UInt16) (data : LivoxLidarEthernetPacket)
    (millis : UInt64) : LivoxClient :=
  if data.dataType = kLivoxLidarImuData then
    { client.saveTimeStamp data.timestamp with
      bufferIMU := client.bufferIMU.append (acceptedIMU laserId data millis) }
  else client

/-- The first lidar found out of sync is looked up for the log. There is no
result if its handle has no serial number yet: the lookup throws. Which lidar is
the first depends on the order of the map, for which that of the list stands; the
result depends on it only if a lidar out of sync has no serial number. -/
def isSynced (client : LivoxClient) : Option Bool :=
  if client.livoxLidarTimeSync.entries.isEmpty then some false
  else match client.livoxLidarTimeSync.entries.find? fun entry => entry.2 ≤ 0 with
    | none => some true
    | some entry => (client.handleToSerialNumber.lookup entry.1).map fun _ => false

/-- The section of `LidarInfoChangeCallback` under the info mutex. -/
def lidarInfoChangeCallback (client : LivoxClient) (handle : UInt32) (info : LivoxLidarInfo) :
    LivoxClient :=
  { client with
    livoxLidarInfo := client.livoxLidarInfo.insert handle info
    handleToSerialNumber := client.handleToSerialNumber.insert handle info.sn
    serialNumbers := insert info.sn client.serialNumbers }

/-- The session begins with the first call. -/
def initializeDuration (client : LivoxClient) : LivoxClient :=
  match client.sessionStart with
  | none => { client with sessionStart := some client.timestamp }
  | some _ => client

/-- `std::distance` from the beginning of the set to the found element, or to
the end when the element is missing. -/
def serialNumberIndex (client : LivoxClient) (sn : String) : Nat :=
  if sn ∈ client.serialNumbers then (client.serialNumbers.filter (· < sn)).card
  else client.serialNumbers.card

/-- The id of a lidar is the place of its serial number among all which have been
seen. A handle without one has the id 255. -/
def handleToLidarId (client : LivoxClient) (handle : UInt32) : UInt16 :=
  match client.handleToSerialNumber.lookup handle with
  | some sn => UInt16.ofNat (client.serialNumberIndex sn)
  | none => 255

/-- The returned map has 32-bit keys holding 16-bit ids. -/
def getSerialNumberToLidarIdMapping (client : LivoxClient) : AList fun _ : UInt32 => String :=
  client.livoxLidarInfo.entries.foldl
    (fun ret entry => ret.insert (client.handleToLidarId entry.1).toUInt32 entry.2.sn) ∅

@[simp] theorem startLog_bufferLivox (client : LivoxClient) :
    client.startLog.bufferLivox = client.bufferLivox.start := rfl

@[simp] theorem startLog_bufferIMU (client : LivoxClient) :
    client.startLog.bufferIMU = client.bufferIMU.start := rfl

@[simp] theorem stopLog_bufferLivox (client : LivoxClient) :
    client.stopLog.bufferLivox = client.bufferLivox.stop := rfl

@[simp] theorem stopLog_bufferIMU (client : LivoxClient) :
    client.stopLog.bufferIMU = client.bufferIMU.stop := rfl

@[simp] theorem retrieveData_pointers (client : LivoxClient) :
    client.retrieveData.1 = (client.bufferLivox.pointer, client.bufferIMU.pointer) := rfl

@[simp] theorem retrieveData_client (client : LivoxClient) :
    client.retrieveData.2 = client.startLog := rfl

@[simp] theorem pointCloudCallback_bufferLivox (client : LivoxClient) (laserId : UInt16)
    (data : LivoxLidarEthernetPacket) :
    (client.pointCloudCallback laserId data).bufferLivox =
      client.bufferLivox.append (acceptedPoints laserId data) := by
  by_cases h : data.dataType = kLivoxLidarCartesianCoordinateHighData
  · simp [pointCloudCallback, h]
  · simp [pointCloudCallback, acceptedPoints, h]

@[simp] theorem pointCloudCallback_bufferIMU (client : LivoxClient) (laserId : UInt16)
    (data : LivoxLidarEthernetPacket) :
    (client.pointCloudCallback laserId data).bufferIMU = client.bufferIMU := by
  unfold pointCloudCallback
  split <;> rfl

@[simp] theorem imuDataCallback_bufferIMU (client : LivoxClient) (laserId : UInt16)
    (data : LivoxLidarEthernetPacket) (millis : UInt64) :
    (client.imuDataCallback laserId data millis).bufferIMU =
      client.bufferIMU.append (acceptedIMU laserId data millis) := by
  by_cases h : data.dataType = kLivoxLidarImuData
  · simp [imuDataCallback, h]
  · simp [imuDataCallback, acceptedIMU, h]

@[simp] theorem imuDataCallback_bufferLivox (client : LivoxClient) (laserId : UInt16)
    (data : LivoxLidarEthernetPacket) (millis : UInt64) :
    (client.imuDataCallback laserId data millis).bufferLivox = client.bufferLivox := by
  unfold imuDataCallback
  split <;> rfl

end LivoxClient

end Mandeye
