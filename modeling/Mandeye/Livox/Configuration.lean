import Mandeye.Livox.BuildRequest

/-! What a configuration brings about. A lidar which hands its records back tells the client the
addresses and ports that the configuration has. -/
namespace Mandeye.BuildRequest

open GeneralCommandHandler (kLivoxLidarTypePA)
open LivoxClient
open KeyLengthValue (word wordBytes Holds)

/-- The answer of a lidar which hands the records back. -/
def Request.response (req : Request) : LivoxLidarDiagInternalInfoResponse where
  retCode := 0
  paramNum := word req.reqBuf 0
  data i := req.reqBuf (4 + i)

/-- What the last value with the key says. -/
def reported (key : UInt16) (values : List Keyed) : HostIPCfg :=
  values.foldl (fun host keyed => if keyed.1 = key then keyed.2.read else host) .zero

theorem reported_concat (key : UInt16) (values : List Keyed) (keyed : Keyed) :
    reported key (values ++ [keyed]) =
      if keyed.1 = key then keyed.2.read else reported key values :=
  List.foldl_concat _ _ _ _

/-- A value whose key occurs once is the one reported. -/
theorem reported_of_mem {values : List Keyed} (hDistinct : (values.map Prod.fst).Nodup)
    {keyed : Keyed} (hMember : keyed ∈ values) : reported keyed.1 values = keyed.2.read := by
  induction values using List.reverseRecOn with
  | nil => cases hMember
  | append_singleton values last ih =>
    rw [reported_concat]
    rw [List.map_append, List.map_singleton] at hDistinct
    rcases List.mem_append.mp hMember with hEarlier | hLast
    · have hOther : last.1 ≠ keyed.1 := by
        intro hSame
        apply (List.nodup_append.mp hDistinct).2.2 keyed.1 (List.mem_map_of_mem hEarlier) last.1
        · exact List.mem_singleton_self _
        · exact hSame.symm
      rw [if_neg hOther]
      exact ih hDistinct.of_append_left hEarlier
    · cases List.mem_singleton.mp hLast
      exact if_pos rfl

theorem reported_of_not_mem {values : List Keyed} {key : UInt16}
    (hNobody : key ∉ values.map Prod.fst) : reported key values = .zero := by
  induction values using List.reverseRecOn with
  | nil => rfl
  | append_singleton values last ih =>
    rw [List.map_append, List.mem_append, not_or, List.map_singleton, List.mem_singleton]
      at hNobody
    rw [reported_concat, if_neg (Ne.symm hNobody.2)]
    exact ih hNobody.1

theorem Carries.encodes {req : Request} {values : List Keyed} (hFew : values.length ≤ 80)
    (h : Carries req (UInt16.ofNat values.length) (values.map Keyed.entry)) :
    Encodes req.response (values.map Keyed.entry) := by
  have hBytes := holds_write (fun _ => 0) 0 (wordBytes (UInt16.ofNat values.length) ++
    wordBytes 0 ++ KeyLengthValue.encode (values.map Keyed.entry))
  rw [← h.reqBuf] at hBytes
  obtain ⟨hHead, hRecords⟩ := hBytes.append
  constructor
  · change (word req.reqBuf 0).toNat = _
    rw [KeyLengthValue.word_of_holds hHead.append.1, UInt16.toNat_ofNat', List.length_map]
    exact Nat.mod_eq_of_lt (by omega)
  · rw [length_encode_map]
    omega
  · intro i hBound
    have hByte := hRecords i hBound
    rw [Nat.zero_add] at hByte
    rw [Nat.zero_add]
    exact hByte
  · intro entry hEntry _ hEmpty
    obtain ⟨keyed, -, rfl⟩ := List.mem_map.mp hEntry
    have hLength := keyed.2.length_bytes
    rw [show keyed.2.bytes = [] from hEmpty] at hLength
    cases hLength

/-- The four bytes and the two numbers of a value are read where they were written. -/
theorem read_of_represents {kv : LivoxLidarKeyValueParam} {keyed : Keyed}
    (h : Represents kv keyed.entry) : HostIPCfg.read kv = keyed.2.read := by
  have hBytes : Holds kv.value 0 keyed.2.bytes := h.value
  obtain ⟨hFront, hLidarPort⟩ := hBytes.append
  obtain ⟨hIp, hHostPort⟩ := hFront.append
  have hFour := keyed.2.four
  rw [List.length_append, hFour] at hLidarPort
  rw [hFour] at hHostPort
  have hAddress : (List.range 4).map kv.value = keyed.2.hostIp := by
    apply List.ext_getElem
    · rw [List.length_map, List.length_range, hFour]
    · intro i hLeft hRight
      rw [List.getElem_map, List.getElem_range, ← hIp i hRight, Nat.zero_add]
  have hSixth : word kv.value 6 = keyed.2.lidarPort := KeyLengthValue.word_of_holds hLidarPort
  rw [HostIPCfg.read, HostIpInfoValue.read, hAddress, KeyLengthValue.word_of_holds hHostPort,
    hSixth]

section Reading

variable {response : LivoxLidarDiagInternalInfoResponse} {values : List Keyed}

/-- What the loop has found in the records it has read. -/
structure Found (values : List Keyed) (loop : QueryLoop) : Prop where
  hostPoint : loop.hostPoint = reported kKeyLidarPointDataHostIPCfg values
  hostImu : loop.hostImu = reported kKeyLidarImuHostIPCfg values

theorem Found.advance {loop : QueryLoop} (h : Found values loop) {kv : LivoxLidarKeyValueParam}
    {keyed : Keyed} (hParam : Represents kv keyed.entry) :
    Found (values ++ [keyed]) (loop.advance kv) := by
  have hKey : kv.key = keyed.1 := hParam.key
  constructor
  · rw [QueryLoop.advance, reported_concat, hKey, read_of_represents hParam, h.hostPoint]
  · rw [QueryLoop.advance, reported_concat, hKey, read_of_represents hParam, h.hostImu]

theorem found_after (h : Encodes response (values.map Keyed.entry)) (handle : UInt32)
    (client : LivoxClient) {k : Nat} (hk : k ≤ values.length) :
    ∃ loop now, QueryLoop.after handle response client k = some (loop, now) ∧
      Progress handle client (values.map Keyed.entry) k loop now ∧ Found (values.take k) loop := by
  induction k with
  | zero => exact ⟨.enter, client, rfl, .enter, rfl, rfl⟩
  | succ k ih =>
    obtain ⟨loop, now, hAfter, hLoop, hFound⟩ := ih (Nat.le_of_lt hk)
    have hValue : values[k]? = some values[k] := List.getElem?_eq_getElem hk
    have hEntry : (values.map Keyed.entry)[k]? = some values[k].entry := by
      rw [List.getElem?_map, hValue]
      rfl
    have hStep := hLoop.step h (by rw [List.length_map]; exact hk)
    refine ⟨_, _, ?_, hLoop.advance h hEntry, ?_⟩
    · rw [QueryLoop.after, hAfter, Option.bind_some, hStep]
    · rw [List.take_add_one, hValue]
      exact hFound.advance (h.represents hLoop.off hEntry)

end Reading

/-- The request is built exactly if these addresses are accepted, and has one record for each of
them. When a lidar hands its records back, the client reads all of them, and then knows where
both kinds of data go. -/
structure Configures (result : Except Failure Request) (hostIps : List String)
    (point imu : HostIPCfg → Prop) : Prop where
  built : (∃ req, result = .ok req) ↔ ∀ hostIp ∈ hostIps, ∃ bytes, ipToU8 hostIp = .ok bytes
  reqLen : ∀ req, result = .ok req → req.reqLen.toNat = 4 + 12 * hostIps.length
  handedBack : ∀ req, result = .ok req → ∀ handle client, ∃ loop final,
    QueryLoop.after handle req.response client req.response.paramNum.toNat = some (loop, final) ∧
      QueryLoop.step handle req.response (loop, final) = none ∧
      point loop.hostPoint ∧ imu loop.hostImu

/-- The data goes to this address and this port. -/
structure Tells (hostIp : String) (hostPort lidarPort : UInt16) (host : HostIPCfg) : Prop where
  hostIp : ipToU8 hostIp = .ok host.ipaddr
  hostPort : host.hostPort = hostPort
  lidarPort : host.lidarPort = lidarPort

section Settings

variable {settings : List Setting} {values : List Keyed}

theorem keys_of_gives (h : List.Forall₂ Setting.Gives settings values) :
    values.map Prod.fst = settings.map Setting.key := by
  induction h with
  | nil => rfl
  | cons hFirst _ ih => rw [List.map_cons, List.map_cons, hFirst.key, ih]

theorem exists_of_gives (h : List.Forall₂ Setting.Gives settings values) {setting : Setting}
    (hMember : setting ∈ settings) : ∃ keyed ∈ values, setting.Gives keyed := by
  induction h with
  | nil => cases hMember
  | cons hFirst _ ih =>
    rcases List.mem_cons.mp hMember with rfl | hMember
    · exact ⟨_, List.mem_cons_self, hFirst⟩
    · obtain ⟨keyed, hKeyed, hGives⟩ := ih hMember
      exact ⟨keyed, List.mem_cons_of_mem _ hKeyed, hGives⟩

theorem tells_reported (h : List.Forall₂ Setting.Gives settings values)
    (hDistinct : (settings.map Setting.key).Nodup) : ∀ setting ∈ settings,
      Tells setting.hostIp setting.hostPort setting.lidarPort (reported setting.key values) := by
  intro setting hMember
  obtain ⟨keyed, hKeyed, hGives⟩ := exists_of_gives h hMember
  rw [← keys_of_gives h] at hDistinct
  rw [← hGives.key, reported_of_mem hDistinct hKeyed]
  exact ⟨hGives.hostIp, hGives.hostPort, hGives.lidarPort⟩

theorem Setting.exists_gives (setting : Setting) :
    (∃ keyed, setting.Gives keyed) ↔ ∃ bytes, ipToU8 setting.hostIp = .ok bytes := by
  constructor
  · rintro ⟨keyed, hGives⟩
    exact ⟨keyed.2.hostIp, hGives.hostIp⟩
  · rintro ⟨bytes, hBytes⟩
    exact ⟨(setting.key, ⟨bytes, setting.hostPort, setting.lidarPort, length_of_ipToU8 hBytes⟩),
      rfl, hBytes, rfl, rfl⟩

theorem exists_forall₂_gives :
    (∃ values, List.Forall₂ Setting.Gives settings values) ↔
      ∀ setting ∈ settings, ∃ bytes, ipToU8 setting.hostIp = .ok bytes := by
  induction settings with
  | nil =>
    constructor
    · intro _ setting hMember
      cases hMember
    · intro _
      exact ⟨[], .nil⟩
  | cons setting rest ih =>
    rw [List.forall_mem_cons, ← ih, ← setting.exists_gives]
    constructor
    · rintro ⟨values, hGives⟩
      cases hGives with
      | cons hFirst hRest => exact ⟨⟨_, hFirst⟩, _, hRest⟩
    · rintro ⟨⟨keyed, hFirst⟩, values, hRest⟩
      exact ⟨keyed :: values, .cons hFirst hRest⟩

/-- A builder which makes one setting after the other configures the lidar. -/
theorem configures_of_settings {result : Except Failure Request} (settings : List Setting)
    {point imu : HostIPCfg → Prop} (hFew : settings.length ≤ 80)
    (hResult : result = settings.foldlM Request.set
      (.start (UInt16.ofNat settings.length)))
    (hFound : ∀ values, List.Forall₂ Setting.Gives settings values →
      point (reported kKeyLidarPointDataHostIPCfg values) ∧
        imu (reported kKeyLidarImuHostIPCfg values)) :
    Configures result (settings.map Setting.hostIp) point imu := by
  subst hResult
  constructor
  · rw [List.forall_mem_map, ← exists_forall₂_gives]
    constructor
    · rintro ⟨req, hReq⟩
      obtain ⟨values, hGives, -⟩ := foldlM_set_ok.mp hReq
      exact ⟨values, hGives⟩
    · rintro ⟨values, hGives⟩
      exact ⟨_, foldlM_set_ok.mpr ⟨values, hGives, rfl⟩⟩
  · intro req hReq
    obtain ⟨values, hGives, rfl⟩ := foldlM_set_ok.mp hReq
    have hLength := hGives.length_eq
    rw [hLength] at hFew ⊢
    rw [(carries_foldl _ values hFew).reqLen, length_encode_map, List.length_map, hLength]
  · intro req hReq handle client
    obtain ⟨values, hGives, rfl⟩ := foldlM_set_ok.mp hReq
    have hLength := hGives.length_eq
    rw [hLength] at hFew ⊢
    have hEncodes := (carries_foldl (UInt16.ofNat values.length) values hFew).encodes hFew
    have hNum := hEncodes.paramNum
    rw [List.length_map] at hNum
    obtain ⟨loop, final, hAfter, hLoop, hAll⟩ := found_after hEncodes handle client le_rfl
    rw [List.take_length] at hAll
    obtain ⟨hPoint, hImu⟩ := hFound values hGives
    refine ⟨loop, final, ?_, ?_, ?_, ?_⟩
    · rw [hNum]
      exact hAfter
    · rw [QueryLoop.step, if_neg]
      rw [hNum, hLoop.i, Nat.mod_eq_of_lt (by omega)]
      exact Nat.lt_irrefl _
    · rw [hAll.hostPoint]
      exact hPoint
    · rw [hAll.hostImu]
      exact hImu

end Settings

section Builders

variable (deviceType : UInt8) (host : HostNetInfo)

def stateSetting : Setting :=
  ⟨kKeyStateInfoHostIPCfg, host.pushMsgIp, host.pushMsgPort, kMid360LidarPushMsgPort⟩

def pointSetting (lidarPort : UInt16) : Setting :=
  ⟨kKeyLidarPointDataHostIPCfg, host.pointDataIp, host.pointDataPort, lidarPort⟩

def imuSetting (lidarPort : UInt16) : Setting :=
  ⟨kKeyLidarImuHostIPCfg, host.imuDataIp, host.imuDataPort, lidarPort⟩

theorem buildUpdateMid360LidarCfgRequest_eq :
    buildUpdateMid360LidarCfgRequest ⟨deviceType, host⟩ =
      [stateSetting host, pointSetting host kMid360LidarPointCloudPort,
        imuSetting host kMid360LidarImuDataPort].foldlM Request.set (.start 3) := by
  simp only [List.foldlM_cons, List.foldlM_nil, Request.set, bind_assoc]
  rfl

theorem buildUpdateLidarCfgRequest_eq {pointPort imuPort : UInt16}
    (hPoint : lidarPointPort deviceType = .ok pointPort)
    (hImu : lidarImuPort deviceType = .ok imuPort) :
    buildUpdateLidarCfgRequest ⟨deviceType, host⟩ =
      [pointSetting host pointPort, imuSetting host imuPort].foldlM Request.set (.start 2) := by
  have hNot : deviceType ≠ kLivoxLidarTypePA := by
    rintro rfl
    cases hImu
  simp only [List.foldlM_cons, List.foldlM_nil, Request.set, bind_assoc,
    buildUpdateLidarCfgRequest, hPoint, hImu, if_neg hNot]
  rfl

theorem buildUpdateLidarCfgRequest_pa :
    buildUpdateLidarCfgRequest ⟨kLivoxLidarTypePA, host⟩ =
      [pointSetting host kPaLidarPointCloudPort].foldlM Request.set (.start 1) := by
  simp only [List.foldlM_cons, List.foldlM_nil, Request.set, bind_assoc]
  rfl

theorem buildUpdateLidarCfgRequest_unknown {failure : Failure}
    (hPoint : lidarPointPort deviceType = .error failure) (req : Request) :
    buildUpdateLidarCfgRequest ⟨deviceType, host⟩ ≠ .ok req := by
  simp only [buildUpdateLidarCfgRequest, initHostIpAddr_eq, hPoint]
  cases ipToU8 host.pointDataIp <;> rintro ⟨⟩

/-- What the SDK configures is what the client is told. A request is built exactly if every
address in it is accepted and, where the builder looks at it, the type of the lidar is known; and
a lidar which hands the records back tells the address and the ports of the point data and,
unless it is a PA, of the IMU data. -/
theorem configuration_reported :
    Configures (buildUpdateMid360LidarCfgRequest ⟨deviceType, host⟩)
      [host.pushMsgIp, host.pointDataIp, host.imuDataIp]
      (Tells host.pointDataIp host.pointDataPort kMid360LidarPointCloudPort)
      (Tells host.imuDataIp host.imuDataPort kMid360LidarImuDataPort) ∧
    (∀ pointPort imuPort, lidarPointPort deviceType = .ok pointPort →
      lidarImuPort deviceType = .ok imuPort →
      Configures (buildUpdateLidarCfgRequest ⟨deviceType, host⟩)
        [host.pointDataIp, host.imuDataIp]
        (Tells host.pointDataIp host.pointDataPort pointPort)
        (Tells host.imuDataIp host.imuDataPort imuPort)) ∧
    Configures (buildUpdateLidarCfgRequest ⟨kLivoxLidarTypePA, host⟩) [host.pointDataIp]
      (Tells host.pointDataIp host.pointDataPort kPaLidarPointCloudPort) (· = .zero) ∧
    ((∀ port, lidarPointPort deviceType ≠ .ok port) →
      ∀ req, buildUpdateLidarCfgRequest ⟨deviceType, host⟩ ≠ .ok req) := by
  refine ⟨?_, ?_, ?_, ?_⟩
  · apply configures_of_settings [stateSetting host,
      pointSetting host kMid360LidarPointCloudPort, imuSetting host kMid360LidarImuDataPort]
      (by simp) (buildUpdateMid360LidarCfgRequest_eq deviceType host)
    intro values hGives
    have hKeys : [kKeyStateInfoHostIPCfg, kKeyLidarPointDataHostIPCfg,
        kKeyLidarImuHostIPCfg].Nodup := by decide
    have hTells := tells_reported hGives hKeys
    rw [List.forall_mem_cons, List.forall_mem_cons, List.forall_mem_singleton] at hTells
    exact hTells.2
  · intro pointPort imuPort hPoint hImu
    apply configures_of_settings [pointSetting host pointPort, imuSetting host imuPort]
      (by simp) (buildUpdateLidarCfgRequest_eq deviceType host hPoint hImu)
    intro values hGives
    have hKeys : [kKeyLidarPointDataHostIPCfg, kKeyLidarImuHostIPCfg].Nodup := by decide
    have hTells := tells_reported hGives hKeys
    rw [List.forall_mem_cons, List.forall_mem_singleton] at hTells
    exact hTells
  · apply configures_of_settings [pointSetting host kPaLidarPointCloudPort] (by simp)
      (buildUpdateLidarCfgRequest_pa host)
    intro values hGives
    have hOnly : kKeyLidarImuHostIPCfg ∉ [kKeyLidarPointDataHostIPCfg] := by decide
    refine ⟨tells_reported hGives (List.nodup_singleton _) _ List.mem_cons_self,
      reported_of_not_mem ?_⟩
    rw [keys_of_gives hGives]
    exact hOnly
  · intro hUnknown req
    cases hPoint : lidarPointPort deviceType with
    | ok port => exact absurd hPoint (hUnknown port)
    | error failure => exact buildUpdateLidarCfgRequest_unknown deviceType host hPoint req

end Builders

end Mandeye.BuildRequest
