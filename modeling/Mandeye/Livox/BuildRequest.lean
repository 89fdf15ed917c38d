import Mandeye.Livox.BringUp
import Mandeye.Livox.HostAddresses
import Mathlib.Data.List.GetD

/-! The configuration of a lidar. It tells the lidar where to send its data, as records of the
kind in which a lidar answers the query for its internal info. -/
namespace Mandeye.BuildRequest

open GeneralCommandHandler (kLivoxLidarTypeIndustrialHAP kLivoxLidarTypeMid360 kLivoxLidarTypePA)
open LivoxClient
open KeyLengthValue (Entry word wordBytes Holds)

/-- The key of the address for the state, and the ports from which the kinds of lidars
send. -/
def kKeyStateInfoHostIPCfg : UInt16 := 0x0005
def kHAPPointDataPort : UInt16 := 57000
def kHAPIMUPort : UInt16 := 58000
def kMid360LidarPushMsgPort : UInt16 := 56200
def kMid360LidarPointCloudPort : UInt16 := 56300
def kMid360LidarImuDataPort : UInt16 := 56400
def kPaLidarPointCloudPort : UInt16 := 10000

/-- Where the host listens for each kind of data. -/
structure HostNetInfo where
  pushMsgIp : String
  pushMsgPort : UInt16
  pointDataIp : String
  pointDataPort : UInt16
  imuDataIp : String
  imuDataPort : UInt16

/-- What the configuration file says of a lidar. -/
structure LivoxLidarCfg where
  deviceType : UInt8
  hostNetInfo : HostNetInfo

/-- Some bytes of the memory are overwritten. -/
def write (memory : Nat → UInt8) (offset : Nat) (bytes : List UInt8) : Nat → UInt8 :=
  fun i => if offset ≤ i ∧ i < offset + bytes.length then bytes.getD (i - offset) 0 else memory i

/-- The buffer of a sender, which starts with zeros, and how much of it is used. -/
structure Request where
  reqBuf : Nat → UInt8
  reqLen : UInt16

namespace Request

/-- The number of records, and two bytes which are left alone. -/
def start (keyNum : UInt16) : Request := ⟨write (fun _ => 0) 0 (wordBytes keyNum), 4⟩

/-- The head of a record and its address. The record does not count yet. -/
def initHostIpAddr (req : Request) (key : UInt16) (hostIp : String) : Except Failure Request := do
  let reqBuf := write req.reqBuf req.reqLen.toNat (wordBytes key)
  let reqBuf := write reqBuf (req.reqLen.toNat + 2) (wordBytes 8)
  let vecHostIp ← ipToU8 hostIp
  .ok { req with reqBuf := write reqBuf (req.reqLen.toNat + 4) vecHostIp }

/-- The two ports complete a record, and only then it counts. -/
def setPorts (req : Request) (hostPort lidarPort : UInt16) : Request :=
  let reqBuf := write req.reqBuf (req.reqLen.toNat + 8) (wordBytes hostPort)
  ⟨write reqBuf (req.reqLen.toNat + 10) (wordBytes lidarPort), req.reqLen + 12⟩

end Request

/-- The Mid360 is told of three addresses. -/
def buildUpdateMid360LidarCfgRequest (lidarCfg : LivoxLidarCfg) : Except Failure Request := do
  let host := lidarCfg.hostNetInfo
  let req := Request.start 3
  let req ← req.initHostIpAddr kKeyStateInfoHostIPCfg host.pushMsgIp
  let req := req.setPorts host.pushMsgPort kMid360LidarPushMsgPort
  let req ← req.initHostIpAddr kKeyLidarPointDataHostIPCfg host.pointDataIp
  let req := req.setPorts host.pointDataPort kMid360LidarPointCloudPort
  let req ← req.initHostIpAddr kKeyLidarImuHostIPCfg host.imuDataIp
  .ok (req.setPorts host.imuDataPort kMid360LidarImuDataPort)

/-- The port from which a lidar of this type sends points. -/
def lidarPointPort (deviceType : UInt8) : Except Failure UInt16 :=
  if deviceType = kLivoxLidarTypeIndustrialHAP then .ok kHAPPointDataPort
  else if deviceType = kLivoxLidarTypeMid360 then .ok kMid360LidarPointCloudPort
  else if deviceType = kLivoxLidarTypePA then .ok kPaLidarPointCloudPort
  else .error .returnsFalse

/-- The port from which it sends IMU samples. A PA has none. -/
def lidarImuPort (deviceType : UInt8) : Except Failure UInt16 :=
  if deviceType = kLivoxLidarTypeIndustrialHAP then .ok kHAPIMUPort
  else if deviceType = kLivoxLidarTypeMid360 then .ok kMid360LidarImuDataPort
  else .error .returnsFalse

/-- The others are told of the points and, unless it is a PA, of the IMU samples. -/
def buildUpdateLidarCfgRequest (lidarCfg : LivoxLidarCfg) : Except Failure Request := do
  let host := lidarCfg.hostNetInfo
  let req := Request.start (if lidarCfg.deviceType = kLivoxLidarTypePA then 1 else 2)
  let req ← req.initHostIpAddr kKeyLidarPointDataHostIPCfg host.pointDataIp
  let port ← lidarPointPort lidarCfg.deviceType
  let req := req.setPorts host.pointDataPort port
  if lidarCfg.deviceType = kLivoxLidarTypePA then .ok req
  else do
    let req ← req.initHostIpAddr kKeyLidarImuHostIPCfg host.imuDataIp
    let port ← lidarImuPort lidarCfg.deviceType
    .ok (req.setPorts host.imuDataPort port)

/-- Where the lidar is to send one kind of data. -/
structure HostIpInfoValue where
  hostIp : List UInt8
  hostPort : UInt16
  lidarPort : UInt16
  four : hostIp.length = 4

namespace HostIpInfoValue

/-- The value as it is sent. -/
def bytes (value : HostIpInfoValue) : List UInt8 :=
  value.hostIp ++ wordBytes value.hostPort ++ wordBytes value.lidarPort

theorem length_bytes (value : HostIpInfoValue) : value.bytes.length = 8 := by
  rw [bytes, List.length_append, List.length_append, value.four]
  rfl

theorem fits (value : HostIpInfoValue) : value.bytes.length < 2 ^ 16 := by
  rw [length_bytes]
  decide

/-- The value with its key, as a record. -/
def entry (key : UInt16) (value : HostIpInfoValue) : Entry := ⟨key, value.bytes, value.fits⟩

theorem length_encode (key : UInt16) (value : HostIpInfoValue) :
    (value.entry key).encode.length = 12 := by
  rw [KeyLengthValue.Entry.encode_length, entry, length_bytes]

/-- What the client makes of it when a lidar hands it back. -/
def read (value : HostIpInfoValue) : HostIPCfg :=
  ⟨value.hostIp, value.hostPort, value.lidarPort⟩

end HostIpInfoValue

section Writing

variable {memory : Nat → UInt8} {offset : Nat} {first second : List UInt8}

/-- Two pieces which are written one behind the other are one piece. -/
theorem write_append :
    write (write memory offset first) (offset + first.length) second =
      write memory offset (first ++ second) := by
  funext i
  unfold write
  rw [List.length_append]
  by_cases hSecond : offset + first.length ≤ i ∧ i < offset + first.length + second.length
  · rw [if_pos hSecond, if_pos (by omega), List.getD_append_right _ _ _ _ (by omega)]
    congr 1
    omega
  · rw [if_neg hSecond]
    by_cases hFirst : offset ≤ i ∧ i < offset + first.length
    · rw [if_pos hFirst, if_pos (by omega), List.getD_append _ _ _ _ (by omega)]
    · rw [if_neg hFirst, if_neg (by omega)]

/-- What has been written can be read. -/
theorem holds_write (memory : Nat → UInt8) (offset : Nat) (bytes : List UInt8) :
    Holds (write memory offset bytes) offset bytes := by
  intro i hBound
  rw [write, if_pos (by omega), Nat.add_sub_cancel_left, List.getD_eq_getElem _ _ hBound]

end Writing

/-- One more record comes behind the others. -/
theorem encode_concat (entries : List Entry) (entry : Entry) :
    KeyLengthValue.encode (entries ++ [entry]) = KeyLengthValue.encode entries ++ entry.encode := by
  rw [KeyLengthValue.encode_append]
  exact congrArg _ (List.flatMap_singleton Entry.encode entry)

/-- The request has so far this number in its head and these records behind it. -/
structure Carries (req : Request) (keyNum : UInt16) (entries : List Entry) : Prop where
  reqBuf : req.reqBuf = write (fun _ => 0) 0
    (wordBytes keyNum ++ wordBytes 0 ++ KeyLengthValue.encode entries)
  reqLen : req.reqLen.toNat = 4 + (KeyLengthValue.encode entries).length

/-- The head is written first; its last two bytes keep their zeros. -/
theorem carries_start (keyNum : UInt16) : Carries (.start keyNum) keyNum [] where
  reqBuf := by
    rw [KeyLengthValue.encode_nil, List.append_nil]
    funext i
    unfold Request.start write
    rw [List.length_append]
    change (if 0 ≤ i ∧ i < 0 + 2 then _ else _) = if 0 ≤ i ∧ i < 0 + 4 then _ else _
    by_cases hHead : i < 2
    · rw [if_pos (by omega), if_pos (by omega), List.getD_append _ _ _ _ hHead]
    · rw [if_neg (by omega)]
      split
      · rw [List.getD_append_right _ _ _ _ (Nat.le_of_not_lt hHead)]
        rcases Nat.lt_or_ge i 3 with hThird | hFourth
        · obtain rfl : i = 2 := by omega
          rfl
        · obtain rfl : i = 3 := by omega
          rfl
      · rfl
  reqLen := rfl

/-- What is in the buffer once an address could be read. -/
def Request.withIp (req : Request) (key : UInt16) (vecHostIp : List UInt8) : Request :=
  { req with reqBuf := write (write (write req.reqBuf req.reqLen.toNat (wordBytes key))
      (req.reqLen.toNat + 2) (wordBytes 8)) (req.reqLen.toNat + 4) vecHostIp }

/-- Only the address can fail. -/
theorem initHostIpAddr_eq (req : Request) (key : UInt16) (hostIp : String) :
    req.initHostIpAddr key hostIp = ipToU8 hostIp >>= fun vecHostIp =>
      .ok (req.withIp key vecHostIp) :=
  rfl

/-- A value and the key of its record. -/
abbrev Keyed := UInt16 × HostIpInfoValue

/-- The record of such a pair. -/
def Keyed.entry (keyed : Keyed) : Entry := keyed.2.entry keyed.1

/-- A whole record is added. -/
def Request.add (req : Request) (keyed : Keyed) : Request :=
  (req.withIp keyed.1 keyed.2.hostIp).setPorts keyed.2.hostPort keyed.2.lidarPort

/-- The five pieces of a record are what the encoder makes of it. -/
theorem reqBuf_add (req : Request) (keyed : Keyed) :
    (req.add keyed).reqBuf = write req.reqBuf req.reqLen.toNat keyed.entry.encode := by
  have hEncode : keyed.entry.encode = wordBytes keyed.1 ++ wordBytes 8 ++ keyed.2.hostIp ++
      wordBytes keyed.2.hostPort ++ wordBytes keyed.2.lidarPort := by
    rw [Entry.encode, Keyed.entry, HostIpInfoValue.entry]
    dsimp only
    rw [keyed.2.length_bytes, HostIpInfoValue.bytes]
    simp only [List.append_assoc]
    rfl
  have hFour := keyed.2.four
  rw [hEncode, ← write_append, ← write_append, ← write_append, ← write_append]
  simp only [List.length_append, hFour]
  rfl

theorem Carries.add {req : Request} {keyNum : UInt16} {entries : List Entry}
    (h : Carries req keyNum entries) (hRoom : (KeyLengthValue.encode entries).length ≤ 1000)
    (keyed : Keyed) : Carries (req.add keyed) keyNum (entries ++ [keyed.entry]) where
  reqBuf := by
    have hLength : (wordBytes keyNum ++ wordBytes 0 ++ KeyLengthValue.encode entries).length =
        4 + (KeyLengthValue.encode entries).length := by
      rw [List.length_append]
      rfl
    rw [reqBuf_add, h.reqBuf, h.reqLen, encode_concat, ← List.append_assoc, ← hLength,
      ← Nat.zero_add (List.length _), write_append]
  reqLen := by
    have hTwelve : keyed.entry.encode.length = 12 := keyed.2.length_encode keyed.1
    change (req.reqLen + 12).toNat = _
    rw [UInt16.toNat_add, h.reqLen, encode_concat, List.length_append, hTwelve]
    change (_ + 12) % 65536 = _
    omega

theorem length_encode_map (values : List Keyed) :
    (KeyLengthValue.encode (values.map Keyed.entry)).length = 12 * values.length := by
  induction values using List.reverseRecOn with
  | nil => rfl
  | append_singleton values keyed ih =>
    have hTwelve : keyed.entry.encode.length = 12 := keyed.2.length_encode keyed.1
    rw [List.map_append, List.map_singleton, encode_concat, List.length_append, ih, hTwelve,
      List.length_append, List.length_singleton, Nat.mul_succ]

/-- Adding one value after the other makes a request of them all. -/
theorem carries_foldl (keyNum : UInt16) (values : List Keyed) (hFew : values.length ≤ 80) :
    Carries (values.foldl Request.add (.start keyNum)) keyNum (values.map Keyed.entry) := by
  induction values using List.reverseRecOn with
  | nil => exact carries_start keyNum
  | append_singleton values keyed ih =>
    rw [List.length_append, List.length_singleton] at hFew
    rw [List.foldl_append, List.map_append]
    apply (ih (by omega)).add
    rw [length_encode_map]
    omega

/-- What the configuration says of one kind of data. -/
structure Setting where
  key : UInt16
  hostIp : String
  hostPort : UInt16
  lidarPort : UInt16

def Request.set (req : Request) (setting : Setting) : Except Failure Request := do
  let req ← req.initHostIpAddr setting.key setting.hostIp
  .ok (req.setPorts setting.hostPort setting.lidarPort)

/-- The value is the setting, with the bytes of its address. -/
structure Setting.Gives (setting : Setting) (keyed : Keyed) : Prop where
  key : keyed.1 = setting.key
  hostIp : ipToU8 setting.hostIp = .ok keyed.2.hostIp
  hostPort : keyed.2.hostPort = setting.hostPort
  lidarPort : keyed.2.lidarPort = setting.lidarPort

theorem length_of_ipToU8 {src : String} {bytes : List UInt8} (h : ipToU8 src = .ok bytes) :
    bytes.length = 4 := by
  obtain ⟨numbers, hAddress⟩ := ipToU8_ok.mp h
  exact hAddress.read.length_eq.symm.trans hAddress.four

theorem set_ok {req req' : Request} {setting : Setting} :
    req.set setting = .ok req' ↔ ∃ keyed, setting.Gives keyed ∧ req' = req.add keyed := by
  rw [Request.set, initHostIpAddr_eq, bind_assoc, bind_ok]
  constructor
  · rintro ⟨vecHostIp, hIp, hReq⟩
    cases hReq
    refine ⟨(setting.key, ⟨vecHostIp, setting.hostPort, setting.lidarPort,
      length_of_ipToU8 hIp⟩), ?_, rfl⟩
    exact ⟨rfl, hIp, rfl, rfl⟩
  · rintro ⟨keyed, ⟨hKey, hIp, hHostPort, hLidarPort⟩, rfl⟩
    refine ⟨keyed.2.hostIp, hIp, ?_⟩
    rw [← hKey, ← hHostPort, ← hLidarPort]
    rfl

theorem foldlM_set_ok {settings : List Setting} {req req' : Request} :
    settings.foldlM Request.set req = .ok req' ↔
      ∃ values, List.Forall₂ Setting.Gives settings values ∧
        req' = values.foldl Request.add req := by
  induction settings generalizing req with
  | nil =>
    constructor
    · rintro ⟨⟩
      exact ⟨[], .nil, rfl⟩
    · rintro ⟨values, hGives, rfl⟩
      cases hGives
      rfl
  | cons setting rest ih =>
    rw [List.foldlM_cons, bind_ok]
    constructor
    · rintro ⟨next, hNext, hRest⟩
      obtain ⟨keyed, hKeyed, rfl⟩ := set_ok.mp hNext
      obtain ⟨values, hGives, rfl⟩ := ih.mp hRest
      exact ⟨keyed :: values, .cons hKeyed hGives, rfl⟩
    · rintro ⟨values, hGives, rfl⟩
      cases hGives with
      | @cons _ keyed _ values hKeyed hRest =>
        exact ⟨req.add keyed, set_ok.mpr ⟨keyed, hKeyed, rfl⟩, ih.mpr ⟨values, hRest, rfl⟩⟩

end Mandeye.BuildRequest
