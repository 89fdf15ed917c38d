import Mandeye.Livox.BringUp

/-! Whom the program is told of. A step adds to what is known of the lidars and takes nothing
back, so that a lidar which has been told of is neither told of again nor configured again.
A step is a whole callback; where two of them overlapped, a detection which has already found
its lidar unconfigured could still send the configuration after the program was told. -/
namespace Mandeye.BringUp

open GeneralCommandHandler LivoxClient

/-- The lidar has acknowledged its configuration, or its kind is told of all the same. -/
def reports (kind : CommandHandler) (status : Int32)
    (response : Option LivoxLidarAsyncControlResponse) : Bool :=
  status = kLivoxLidarStatusSuccess &&
    match response with
    | none => false
    | some response =>
        kind = .hap || kind = .mid360 && response.retCode = 0 && response.errorKey = 0

def nobody : UInt32 → Option LivoxLidarInfo := fun _ => none

def somebody (handle : UInt32) (info : LivoxLidarInfo) : UInt32 → Option LivoxLidarInfo :=
  Function.update nobody handle (some info)

/-- What an event has the SDK note about a lidar it does not know. -/
def introduces : Event → UInt32 → Option LivoxLidarInfo
  | .handleDetectionData handle data _ =>
      if data.retCode = 0 then somebody handle data.lidarInfo else nobody
  | .updateLidarCallback kind status handle response =>
      if reports kind status response then somebody handle DeviceInfo.empty.info else nobody
  | _ => nobody

/-- What is known of the lidars grows: no identity changes, and no flag but that of the loader
is taken back. -/
structure Evolves (introduced : UInt32 → Option LivoxLidarInfo)
    (devices devices' : UInt32 → Option DeviceInfo) : Prop where
  info : ∀ handle, (devices' handle).map DeviceInfo.info =
    ((devices handle).map DeviceInfo.info).or (introduced handle)
  flags : ∀ handle device device', devices handle = some device →
    devices' handle = some device' →
      (device.isUpdateCfg = true → device'.isUpdateCfg = true) ∧
      (device.isGetLoaderMode = true → device'.isGetLoaderMode = true) ∧
      (device.isCallback = true → device'.isCallback = true)

namespace Evolves

variable {introduced introduced' : UInt32 → Option LivoxLidarInfo}
variable {devices devices' devices'' : UInt32 → Option DeviceInfo}

theorem refl : Evolves nobody devices devices := by
  constructor
  · intro handle
    exact Option.or_none.symm
  · intro handle device device' h h'
    rw [h] at h'
    cases h'
    exact ⟨id, id, id⟩

theorem of_eq (h : devices' = devices) : Evolves nobody devices devices' :=
  h ▸ .refl

theorem exists_some (h : Evolves introduced devices devices') {handle : UInt32}
    {device : DeviceInfo} (hDevice : devices handle = some device) :
    ∃ device', devices' handle = some device' ∧ device'.info = device.info := by
  have hInfo := h.info handle
  rw [hDevice, Option.map_some, Option.some_or] at hInfo
  exact Option.map_eq_some_iff.mp hInfo

theorem trans (h : Evolves introduced devices devices')
    (h' : Evolves introduced' devices' devices'') :
    Evolves (fun handle => (introduced handle).or (introduced' handle)) devices devices'' := by
  constructor
  · intro handle
    rw [h'.info, h.info, Option.or_assoc]
  · intro handle device device'' hFirst hLast
    obtain ⟨device', hMiddle, -⟩ := h.exists_some hFirst
    obtain ⟨hUpdate, hFirmware, hCallback⟩ := h.flags handle device device' hFirst hMiddle
    obtain ⟨hUpdate', hFirmware', hCallback'⟩ := h'.flags handle device' device'' hMiddle hLast
    exact ⟨hUpdate' ∘ hUpdate, hFirmware' ∘ hFirmware, hCallback' ∘ hCallback⟩

/-- Who is known already cannot be introduced. -/
theorem known_iff {handle : UInt32} {info : LivoxLidarInfo} {device : DeviceInfo}
    (hDevice : devices handle = some device) :
    Evolves (somebody handle info) devices devices' ↔ Evolves nobody devices devices' := by
  have hInfo : ∀ other, ((devices other).map DeviceInfo.info).or (somebody handle info other) =
      ((devices other).map DeviceInfo.info).or (nobody other) := by
    intro other
    by_cases hOther : other = handle
    · subst hOther
      rw [hDevice, Option.map_some, Option.some_or, Option.some_or]
    · rw [somebody, Function.update_of_ne hOther]
  constructor
  · intro h
    exact ⟨fun other => (h.info other).trans (hInfo other), h.flags⟩
  · intro h
    exact ⟨fun other => (h.info other).trans (hInfo other).symm, h.flags⟩

/-- A lidar is introduced. -/
theorem insert {handle : UInt32} (hDevice : devices handle = none) (device : DeviceInfo) :
    Evolves (somebody handle device.info) devices
      (Function.update devices handle (some device)) := by
  constructor
  · intro other
    by_cases hOther : other = handle
    · subst hOther
      rw [Function.update_self, hDevice, somebody, Function.update_self]
      rfl
    · rw [Function.update_of_ne hOther, somebody, Function.update_of_ne hOther]
      exact Option.or_none.symm
  · intro other known known' h h'
    by_cases hOther : other = handle
    · rw [hOther, hDevice] at h
      cases h
    · rw [Function.update_of_ne hOther, h] at h'
      cases h'
      exact ⟨id, id, id⟩

/-- More becomes known of one lidar. -/
theorem update {handle : UInt32} {device device' : DeviceInfo}
    (hDevice : devices handle = some device) (hInfo : device'.info = device.info)
    (hUpdate : device.isUpdateCfg = true → device'.isUpdateCfg = true)
    (hFirmware : device.isGetLoaderMode = true → device'.isGetLoaderMode = true)
    (hCallback : device.isCallback = true → device'.isCallback = true) :
    Evolves nobody devices (Function.update devices handle (some device')) := by
  constructor
  · intro other
    rw [nobody, Option.or_none]
    by_cases hOther : other = handle
    · subst hOther
      rw [Function.update_self, hDevice, Option.map_some, Option.map_some, hInfo]
    · rw [Function.update_of_ne hOther]
  · intro other known known' h h'
    by_cases hOther : other = handle
    · subst hOther
      rw [hDevice] at h
      rw [Function.update_self] at h'
      cases h
      cases h'
      exact ⟨hUpdate, hFirmware, hCallback⟩
    · rw [Function.update_of_ne hOther, h] at h'
      cases h'
      exact ⟨id, id, id⟩

end Evolves

namespace State

variable {s s' s'' : State} {handle : UInt32}
variable {introduced introduced' : UInt32 → Option LivoxLidarInfo}

/-- What the program has been told is what is known, and it is told once. A configuration goes
to lidars of known firmware. -/
structure Sound (s : State) : Prop where
  told : ∀ handle info, (handle, info) ∈ s.callbacks →
    ∃ device, s.devices handle = some device ∧ device.info = info ∧
      device.isUpdateCfg = true ∧ device.isCallback = true
  once : (s.callbacks.map Prod.fst).Nodup
  firmware : ∀ update ∈ s.updates,
    ∃ device, s.devices update.1 = some device ∧ device.isGetLoaderMode = true

/-- Nobody who has been brought up is kept from the program. -/
structure Complete (s : State) : Prop where
  registered : s.infoChangeCallback = true
  told : ∀ handle device, s.devices handle = some device →
    device.isUpdateCfg = true ∨ device.isCallback = true → handle ∈ s.callbacks.map Prod.fst

def updatesOf (s : State) (handle : UInt32) : List (UInt32 × UInt16) :=
  s.updates.filter fun update => update.1 = handle

/-- What all steps have in common. Who is brought up is not configured again. -/
structure Follows (introduced : UInt32 → Option LivoxLidarInfo) (s s' : State) : Prop where
  evolves : Evolves introduced s.devices s'.devices
  sound : s.Sound → s'.Sound
  complete : s.Complete → s'.Complete
  settled : ∀ handle device, s.devices handle = some device → device.isUpdateCfg = true →
    s'.updatesOf handle = s.updatesOf handle

theorem Follows.refl : Follows nobody s s :=
  ⟨.refl, id, id, fun _ _ _ _ => rfl⟩

theorem Follows.trans (h : Follows introduced s s') (h' : Follows introduced' s' s'') :
    Follows (fun handle => (introduced handle).or (introduced' handle)) s s'' where
  evolves := h.evolves.trans h'.evolves
  sound := h'.sound ∘ h.sound
  complete := h'.complete ∘ h.complete
  settled := by
    intro handle device hDevice hUpdate
    obtain ⟨device', hDevice', -⟩ := h.evolves.exists_some hDevice
    have hUpdate' := (h.evolves.flags handle device device' hDevice hDevice').1 hUpdate
    exact (h'.settled handle device' hDevice' hUpdate').trans
      (h.settled handle device hDevice hUpdate)

/-- What was told and sent stays true while the lidars become better known. -/
theorem Sound.mono (h : s.Sound) (hEvolves : Evolves introduced s.devices s'.devices)
    (hCallbacks : s'.callbacks = s.callbacks) (hUpdates : s'.updates = s.updates) : s'.Sound where
  told := by
    intro handle info hTold
    rw [hCallbacks] at hTold
    obtain ⟨device, hDevice, hInfo, hUpdate, hCallback⟩ := h.told handle info hTold
    obtain ⟨device', hDevice', hInfo'⟩ := hEvolves.exists_some hDevice
    obtain ⟨hUpdate', -, hCallback'⟩ := hEvolves.flags handle device device' hDevice hDevice'
    exact ⟨device', hDevice', hInfo'.trans hInfo, hUpdate' hUpdate, hCallback' hCallback⟩
  once := hCallbacks ▸ h.once
  firmware := by
    intro update hUpdate
    rw [hUpdates] at hUpdate
    obtain ⟨device, hDevice, hFirmware⟩ := h.firmware update hUpdate
    obtain ⟨device', hDevice', -⟩ := hEvolves.exists_some hDevice
    exact ⟨device', hDevice',
      (hEvolves.flags update.1 device device' hDevice hDevice').2.1 hFirmware⟩

/-- What happens between two steps without any of them. -/
theorem Follows.before (h : Follows nobody s s') (h' : Follows introduced s' s'') :
    Follows introduced s s'' := by
  have hIntroduced : (fun handle => (nobody handle).or (introduced handle)) = introduced := by
    funext handle
    exact Option.none_or
  exact hIntroduced ▸ h.trans h'

theorem Follows.after (h : Follows introduced s s') (h' : Follows nobody s' s'') :
    Follows introduced s s'' := by
  have hIntroduced : (fun handle => (introduced handle).or (nobody handle)) = introduced := by
    funext handle
    exact Option.or_none
  exact hIntroduced ▸ h.trans h'

theorem Follows.of_unchanged (hDevices : s'.devices = s.devices)
    (hCallbacks : s'.callbacks = s.callbacks) (hUpdates : s'.updates = s.updates)
    (hRegistered : s.infoChangeCallback = true → s'.infoChangeCallback = true) :
    Follows nobody s s' where
  evolves := .of_eq hDevices
  sound := fun h => h.mono (.of_eq hDevices) hCallbacks hUpdates
  complete := by
    intro h
    constructor
    · exact hRegistered h.registered
    · rw [hDevices, hCallbacks]
      exact h.told
  settled := by
    intro handle device _ _
    rw [updatesOf, hUpdates, updatesOf]

/-- What is asked about the firmware leaves everything else alone. -/
structure Queried (s s' : State) : Prop where
  evolves : Evolves nobody s.devices s'.devices
  marked : ∀ handle device', s'.devices handle = some device' →
    ∃ device, s.devices handle = some device ∧
      device'.isUpdateCfg = device.isUpdateCfg ∧ device'.isCallback = device.isCallback
  infoChangeCallback : s'.infoChangeCallback = s.infoChangeCallback
  callbacks : s'.callbacks = s.callbacks
  updates : s'.updates = s.updates

theorem Queried.of_unchanged (hDevices : s'.devices = s.devices)
    (hRegistered : s'.infoChangeCallback = s.infoChangeCallback)
    (hCallbacks : s'.callbacks = s.callbacks) (hUpdates : s'.updates = s.updates) :
    Queried s s' where
  evolves := .of_eq hDevices
  marked := by
    intro handle device' hDevice'
    rw [hDevices] at hDevice'
    exact ⟨device', hDevice', rfl, rfl⟩
  infoChangeCallback := hRegistered
  callbacks := hCallbacks
  updates := hUpdates

theorem Queried.follows (h : Queried s s') : Follows nobody s s' where
  evolves := h.evolves
  sound := fun hSound => hSound.mono h.evolves h.callbacks h.updates
  complete := by
    intro hComplete
    constructor
    · exact h.infoChangeCallback.trans hComplete.registered
    · intro handle device' hDevice' hMarked
      obtain ⟨device, hDevice, hUpdate, hCallback⟩ := h.marked handle device' hDevice'
      rw [hUpdate, hCallback] at hMarked
      rw [h.callbacks]
      exact hComplete.told handle device hDevice hMarked
  settled := by
    intro handle device _ _
    rw [updatesOf, h.updates, updatesOf]

theorem queried_updateFwType (s : State) (handle : UInt32) (fwType : UInt8) :
    Queried s { s.updateFwType handle fwType with count := 0 } := by
  unfold updateFwType
  split
  · exact .of_unchanged rfl rfl rfl rfl
  · rename_i device hDevice
    constructor
    · exact .update hDevice rfl id (fun _ => rfl) id
    · intro other device' hDevice'
      change Function.update s.devices handle _ other = some device' at hDevice'
      by_cases hOther : other = handle
      · rw [hOther, Function.update_self] at hDevice'
        cases hDevice'
        exact ⟨device, hOther ▸ hDevice, rfl, rfl⟩
      · rw [Function.update_of_ne hOther] at hDevice'
        exact ⟨device', hDevice', rfl, rfl⟩
    · rfl
    · rfl
    · rfl

theorem queried_queryFwType (handle : UInt32) (outcomes : List SendOutcome) (s : State) :
    Queried s (queryFwType handle outcomes s) := by
  induction outcomes generalizing s with
  | nil => exact .of_unchanged rfl rfl rfl rfl
  | cons outcome rest ih =>
    cases outcome with
    | sent => exact .of_unchanged rfl rfl rfl rfl
    | refused => exact .of_unchanged rfl rfl rfl rfl
    | failed =>
      rw [queryFwType]
      split
      · exact queried_updateFwType s handle 1
      · have hRest := ih { s with count := s.count + 1 }
        exact ⟨hRest.evolves, hRest.marked, hRest.infoChangeCallback, hRest.callbacks,
          hRest.updates⟩

theorem queried_queryFwTypeCallback (s : State) (status : Int32)
    (response : Option LivoxLidarDiagInternalInfoResponse) (outcomes : List SendOutcome) :
    Queried s (s.queryFwTypeCallback status handle response outcomes) := by
  unfold queryFwTypeCallback
  split
  · exact queried_updateFwType s handle 1
  · split
    · have hRest := queried_queryFwType handle outcomes { s with count := s.count + 1 }
      exact ⟨hRest.evolves, hRest.marked, hRest.infoChangeCallback, hRest.callbacks,
        hRest.updates⟩
    · exact queried_updateFwType s handle _

theorem devices_livoxLidarInfoChange (s : State) (handle : UInt32) :
    (s.livoxLidarInfoChange handle).devices = Function.update s.devices handle
      (some { (s.devices handle).getD .empty with isUpdateCfg := true, isCallback := true }) := by
  unfold livoxLidarInfoChange
  dsimp only
  split <;> rfl

theorem evolves_livoxLidarInfoChange (s : State) (handle : UInt32) :
    Evolves (somebody handle DeviceInfo.empty.info) s.devices
      (s.livoxLidarInfoChange handle).devices := by
  rw [devices_livoxLidarInfoChange]
  cases hDevice : s.devices handle with
  | none =>
    exact .insert hDevice { DeviceInfo.empty with isUpdateCfg := true, isCallback := true }
  | some device =>
    rw [Evolves.known_iff hDevice]
    exact .update hDevice rfl (fun _ => rfl) id (fun _ => rfl)

/-- The program is told, unless it has been told of this lidar. -/
theorem Sound.livoxLidarInfoChange (h : s.Sound) (handle : UInt32) :
    (s.livoxLidarInfoChange handle).Sound := by
  have hEvolves := evolves_livoxLidarInfoChange s handle
  unfold State.livoxLidarInfoChange at hEvolves ⊢
  dsimp only at hEvolves ⊢
  split
  · rename_i hNew
    rw [if_pos hNew] at hEvolves
    have hOld : (s.setDevice handle
        { (s.devices handle).getD .empty with isUpdateCfg := true, isCallback := true }).Sound :=
      h.mono hEvolves rfl rfl
    have hUntold : handle ∉ s.callbacks.map Prod.fst := by
      intro hTold
      obtain ⟨⟨other, info⟩, hMember, rfl⟩ := List.mem_map.mp hTold
      obtain ⟨device, hDevice, -, -, hCallback⟩ := h.told other info hMember
      rw [hDevice, Option.getD_some, hCallback] at hNew
      cases hNew
    constructor
    · intro other info hTold
      rcases List.mem_append.mp hTold with hTold | hTold
      · exact hOld.told other info hTold
      · cases List.mem_singleton.mp hTold
        exact ⟨_, Function.update_self .., rfl, rfl, rfl⟩
    · rw [List.map_append, List.nodup_append']
      exact ⟨h.once, List.nodup_singleton _, List.disjoint_singleton.mpr hUntold⟩
    · exact hOld.firmware
  · rename_i hOld
    rw [if_neg hOld] at hEvolves
    exact h.mono hEvolves rfl rfl

theorem callbacks_livoxLidarInfoChange (s : State) (handle : UInt32) :
    s.callbacks ⊆ (s.livoxLidarInfoChange handle).callbacks := by
  unfold livoxLidarInfoChange
  dsimp only
  split
  · exact List.subset_append_left _ _
  · exact List.Subset.refl _

/-- Whoever is new is told of, and of the others the program knows. -/
theorem Complete.livoxLidarInfoChange (h : s.Complete) (handle : UInt32) :
    (s.livoxLidarInfoChange handle).Complete where
  registered := by
    unfold State.livoxLidarInfoChange
    dsimp only
    split <;> exact h.registered
  told := by
    intro other device hDevice hMarked
    rw [devices_livoxLidarInfoChange] at hDevice
    by_cases hOther : other = handle
    · subst hOther
      unfold State.livoxLidarInfoChange
      dsimp only
      split
      · rw [List.map_append, List.mem_append]
        exact .inr (List.mem_singleton.mpr rfl)
      · rename_i hKnown
        rw [h.registered, Bool.and_true, Bool.not_eq_true', Bool.not_eq_false] at hKnown
        cases hFormer : s.devices other with
        | none =>
          rw [hFormer] at hKnown
          cases hKnown
        | some former =>
          rw [hFormer] at hKnown
          exact h.told other former hFormer (.inr hKnown)
    · rw [Function.update_of_ne hOther] at hDevice
      exact List.map_subset _ (callbacks_livoxLidarInfoChange s handle)
        (h.told other device hDevice hMarked)

theorem follows_livoxLidarInfoChange (s : State) (handle : UInt32) :
    Follows (somebody handle DeviceInfo.empty.info) s (s.livoxLidarInfoChange handle) where
  evolves := evolves_livoxLidarInfoChange s handle
  sound := fun h => h.livoxLidarInfoChange handle
  complete := fun h => h.livoxLidarInfoChange handle
  settled := by
    intro other device _ _
    have hUpdates : (s.livoxLidarInfoChange handle).updates = s.updates := by
      unfold livoxLidarInfoChange
      dsimp only
      split <;> rfl
    rw [updatesOf, hUpdates, updatesOf]

/-- A lidar that is known is not introduced by being told of. -/
theorem follows_known {device : DeviceInfo} (hDevice : s.devices handle = some device) :
    Follows nobody s (s.livoxLidarInfoChange handle) :=
  { follows_livoxLidarInfoChange s handle with
    evolves := (Evolves.known_iff hDevice).mp (evolves_livoxLidarInfoChange s handle) }

theorem follows_deviceManagerHandleDetectionData {device : DeviceInfo}
    (hDevice : s.devices handle = some device) (data : DetectionData)
    (isGetLoaderMode isLoaderMode : Bool) :
    Follows nobody s
      (s.deviceManagerHandleDetectionData handle data isGetLoaderMode isLoaderMode) := by
  unfold deviceManagerHandleDetectionData
  split
  · exact .refl
  · split
    · split
      · exact .refl
      · split
        · exact follows_known hDevice
        · exact .refl
    · have hNoted : Follows nobody s { s with
          lidarsDevType := Function.update s.lidarsDevType handle (some data.devType) } :=
        .of_unchanged rfl rfl rfl id
      dsimp only
      split
      · exact hNoted.before (follows_known hDevice)
      · exact hNoted

/-- A configuration is sent to a lidar of known firmware which has not been brought up. -/
theorem follows_updateLidarCfg {device : DeviceInfo} (hDevice : s.devices handle = some device)
    (hUpdate : device.isUpdateCfg = false) (hFirmware : device.isGetLoaderMode = true)
    (cmdHandler : Option CommandHandler) (lidarCmdPort : UInt16) :
    Follows nobody s (s.updateLidarCfg cmdHandler handle lidarCmdPort) := by
  have hSent : Follows nobody s
      { s with updates := s.updates ++ [(handle, lidarCmdPort)] } := by
    constructor
    · exact .refl
    · intro h
      refine ⟨h.told, h.once, ?_⟩
      intro update hMember
      rcases List.mem_append.mp hMember with hMember | hMember
      · exact h.firmware update hMember
      · cases List.mem_singleton.mp hMember
        exact ⟨device, hDevice, hFirmware⟩
    · exact fun h => ⟨h.registered, h.told⟩
    · intro other known hKnown hSettled
      have hOther : handle ≠ other := by
        intro hSame
        rw [← hSame, hDevice] at hKnown
        cases hKnown
        rw [hUpdate] at hSettled
        cases hSettled
      rw [updatesOf, List.filter_append, List.filter_singleton, decide_eq_false hOther]
      exact List.append_nil _
  unfold updateLidarCfg
  split
  · exact .refl
  · exact .refl
  · split
    · exact .refl
    · exact hSent

theorem follows_setDevice (hUnknown : s.devices handle = none) (device : DeviceInfo)
    (hUpdate : device.isUpdateCfg = false) (hCallback : device.isCallback = false) :
    Follows (somebody handle device.info) s (s.setDevice handle device) where
  evolves := .insert hUnknown device
  sound := fun h => h.mono (Evolves.insert hUnknown device) rfl rfl
  complete := by
    intro h
    constructor
    · exact h.registered
    · intro other known hKnown hMarked
      change Function.update s.devices handle (some device) other = some known at hKnown
      by_cases hOther : other = handle
      · rw [hOther, Function.update_self] at hKnown
        cases hKnown
        rw [hUpdate, hCallback] at hMarked
        rcases hMarked with hMarked | hMarked <;> cases hMarked
      · rw [Function.update_of_ne hOther] at hKnown
        exact h.told other known hKnown hMarked
  settled := fun _ _ _ _ => rfl

/-- The device manager leaves alone what is known of the firmware, and has the program told only
of loaders. -/
theorem exists_deviceManager {device : DeviceInfo} (hDevice : s.devices handle = some device)
    (data : DetectionData) (isGetLoaderMode isLoaderMode : Bool) :
    ∃ device', (s.deviceManagerHandleDetectionData handle data isGetLoaderMode
        isLoaderMode).devices handle = some device' ∧
      device'.isGetLoaderMode = device.isGetLoaderMode ∧
      device'.isLoaderMode = device.isLoaderMode ∧
      ((isGetLoaderMode && isLoaderMode) = false → device'.isUpdateCfg = device.isUpdateCfg) := by
  have hSame : ∃ device', s.devices handle = some device' ∧
      device'.isGetLoaderMode = device.isGetLoaderMode ∧
      device'.isLoaderMode = device.isLoaderMode ∧
      ((isGetLoaderMode && isLoaderMode) = false → device'.isUpdateCfg = device.isUpdateCfg) :=
    ⟨device, hDevice, rfl, rfl, fun _ => rfl⟩
  have hTold : ∀ s' : State, s'.devices = s.devices → (isGetLoaderMode && isLoaderMode) = true →
      ∃ device', (s'.livoxLidarInfoChange handle).devices handle = some device' ∧
        device'.isGetLoaderMode = device.isGetLoaderMode ∧
        device'.isLoaderMode = device.isLoaderMode ∧
        ((isGetLoaderMode && isLoaderMode) = false →
          device'.isUpdateCfg = device.isUpdateCfg) := by
    intro s' hDevices hLoader
    refine ⟨{ device with isUpdateCfg := true, isCallback := true }, ?_, rfl, rfl, ?_⟩
    · rw [devices_livoxLidarInfoChange, Function.update_self, hDevices, hDevice, Option.getD_some]
    · intro hNormal
      rw [hLoader] at hNormal
      cases hNormal
  unfold deviceManagerHandleDetectionData
  split
  · exact hSame
  · split
    · split
      · exact hSame
      · split
        · rename_i hLoader
          exact hTold s rfl hLoader
        · exact hSame
    · dsimp only
      split
      · rename_i hLoader
        exact hTold _ rfl hLoader
      · exact hSame

/-- A lidar introduces itself, or is configured if the time has come. -/
theorem follows_handleDetectionData (handlers : UInt8 → Option CommandHandler) (s : State)
    (handle : UInt32) (data : DetectionData) (outcomes : List SendOutcome)
    (hAccepted : data.retCode = 0) :
    Follows (somebody handle data.lidarInfo) s
      (s.handleDetectionData handlers handle data outcomes) := by
  unfold handleDetectionData
  rw [if_neg (not_not_intro hAccepted)]
  split
  · rename_i device hDevice
    have hConfigured : Follows nobody s
        (if !device.isUpdateCfg && device.isGetLoaderMode && !device.isLoaderMode then
          s.updateLidarCfg (handlers data.devType) handle data.cmdPort
        else s) := by
      split
      · rename_i hReady
        rw [Bool.and_eq_true, Bool.and_eq_true, Bool.not_eq_true'] at hReady
        exact follows_updateLidarCfg hDevice hReady.1.1 hReady.1.2 _ _
      · exact .refl
    obtain ⟨device', hDevice', -⟩ := hConfigured.evolves.exists_some hDevice
    have hFollows := hConfigured.before
      (follows_deviceManagerHandleDetectionData hDevice' data device.isGetLoaderMode
        device.isLoaderMode)
    exact { hFollows with evolves := (Evolves.known_iff hDevice).mpr hFollows.evolves }
  · rename_i hUnknown
    let device : DeviceInfo := { DeviceInfo.empty with info := data.lidarInfo }
    have hNew : Follows (somebody handle data.lidarInfo) s (s.setDevice handle device) :=
      follows_setDevice hUnknown device rfl rfl
    have hQueried : Queried (s.setDevice handle device)
        (queryFwType handle outcomes (s.setDevice handle device)) :=
      queried_queryFwType handle outcomes _
    have hAsked := hNew.after hQueried.follows
    dsimp only
    generalize queryFwType handle outcomes (s.setDevice handle device) = s₁ at hQueried hAsked ⊢
    have hDevice : (s.setDevice handle device).devices handle = some device :=
      Function.update_self ..
    obtain ⟨device₁, hDevice₁, -⟩ := hQueried.evolves.exists_some hDevice
    have hUpdate₁ : device₁.isUpdateCfg = false := by
      obtain ⟨former, hFormer, hUpdate, -⟩ := hQueried.marked handle device₁ hDevice₁
      rw [hDevice] at hFormer
      cases hFormer
      exact hUpdate
    rw [hDevice₁, Option.getD_some]
    obtain ⟨device₂, hDevice₂, hGet, hLoader, hNormal⟩ := exists_deviceManager hDevice₁ data
      device₁.isGetLoaderMode device₁.isLoaderMode
    have hManaged := hAsked.after (follows_deviceManagerHandleDetectionData hDevice₁ data
      device₁.isGetLoaderMode device₁.isLoaderMode)
    rw [hDevice₂, Option.getD_some]
    split
    · rename_i hReady
      rw [Bool.and_eq_true, Bool.not_eq_true', hGet, hLoader] at hReady
      have hUpdate₂ : device₂.isUpdateCfg = false := by
        rw [hNormal (by rw [hReady.2, Bool.and_false]), hUpdate₁]
      exact hManaged.after
        (follows_updateLidarCfg hDevice₂ hUpdate₂ (hGet.trans hReady.1) _ _)
    · exact hManaged

/-- The program is told when the answer reports, whatever becomes of the configured lidars. -/
theorem exists_updateLidarCallback (s : State) (kind : CommandHandler) (status : Int32)
    (handle : UInt32) (response : Option LivoxLidarAsyncControlResponse) :
    ∃ configured, s.updateLidarCallback kind status handle response =
      if reports kind status response then
        { s with configured := configured }.livoxLidarInfoChange handle
      else s := by
  unfold reports updateLidarCallback
  by_cases hStatus : status = kLivoxLidarStatusSuccess
  · rw [if_neg (not_not_intro hStatus), decide_eq_true hStatus, Bool.true_and]
    cases response with
    | none => exact ⟨s.configured, rfl⟩
    | some response =>
      by_cases hAccepted : response.retCode = 0 ∧ response.errorKey = 0
      · cases kind with
        | pa => exact ⟨s.configured, rfl⟩
        | hap => exact ⟨_, if_pos hAccepted⟩
        | mid360 =>
          refine ⟨_, (if_pos hAccepted).trans (if_pos ?_).symm⟩
          simp [hAccepted]
      · cases kind with
        | pa => exact ⟨s.configured, rfl⟩
        | hap => exact ⟨s.configured, if_neg hAccepted⟩
        | mid360 =>
          refine ⟨s.configured, (if_neg hAccepted).trans (if_neg ?_).symm⟩
          simpa using hAccepted
  · rw [if_pos hStatus, decide_eq_false hStatus, Bool.false_and]
    exact ⟨s.configured, rfl⟩

theorem follows_updateLidarCallback (s : State) (kind : CommandHandler) (status : Int32)
    (handle : UInt32) (response : Option LivoxLidarAsyncControlResponse) :
    Follows (introduces (.updateLidarCallback kind status handle response)) s
      (s.updateLidarCallback kind status handle response) := by
  obtain ⟨configured, hResult⟩ := exists_updateLidarCallback s kind status handle response
  rw [hResult]
  change Follows (if reports kind status response then _ else nobody) s _
  split
  · have hConfigured : Follows nobody s { s with configured := configured } :=
      .of_unchanged rfl rfl rfl id
    exact hConfigured.before (follows_livoxLidarInfoChange _ handle)
  · exact .refl

/-- What every step does. -/
theorem follows_step (handlers : UInt8 → Option CommandHandler) (s : State) (event : Event) :
    Follows (introduces event) s (s.step handlers event) := by
  cases event with
  | setLivoxLidarInfoChangeCallback => exact .of_unchanged rfl rfl rfl fun _ => rfl
  | handleDetectionData handle data outcomes =>
    by_cases hAccepted : data.retCode = 0
    · rw [introduces, if_pos hAccepted]
      exact follows_handleDetectionData handlers s handle data outcomes hAccepted
    · rw [introduces, if_neg hAccepted, step, handleDetectionData, if_pos hAccepted]
      exact .refl
  | queryFwTypeCallback status handle response outcomes =>
    exact (queried_queryFwTypeCallback s status response outcomes).follows
  | updateLidarCallback kind status handle response =>
    exact follows_updateLidarCallback s kind status handle response

/-- What a whole run does. -/
theorem follows_foldl (handlers : UInt8 → Option CommandHandler) (s : State)
    (events : List Event) :
    Follows (fun handle => events.findSome? fun event => introduces event handle) s
      (events.foldl (step handlers) s) := by
  induction events generalizing s with
  | nil => exact .refl
  | cons event rest ih =>
    have hSome : (fun handle => (event :: rest).findSome? fun event => introduces event handle) =
        fun handle => (introduces event handle).or
          (rest.findSome? fun event => introduces event handle) := by
      funext handle
      rw [List.findSome?_cons]
      cases introduces event handle <;> rfl
    rw [hSome]
    exact (follows_step handlers s event).trans (ih _)

theorem sound_initial : initial.Sound where
  told := fun _ _ hTold => absurd hTold List.not_mem_nil
  once := List.nodup_nil
  firmware := fun _ hUpdate => absurd hUpdate List.not_mem_nil

end State

theorem sound_run (handlers : UInt8 → Option CommandHandler) (events : List Event) :
    (run handlers events).Sound :=
  (State.follows_foldl handlers .initial events).sound State.sound_initial

/-- The SDK keeps what a lidar said of itself first. -/
theorem info_run (handlers : UInt8 → Option CommandHandler) (events : List Event)
    (handle : UInt32) :
    ((run handlers events).devices handle).map DeviceInfo.info =
      events.findSome? fun event => introduces event handle :=
  ((State.follows_foldl handlers .initial events).evolves.info handle).trans Option.none_or

theorem complete_of_head {handlers : UInt8 → Option CommandHandler} {events : List Event}
    (hFirst : events.head? = some .setLivoxLidarInfoChangeCallback) :
    (run handlers events).Complete := by
  obtain ⟨rest, rfl⟩ := List.head?_eq_some_iff.mp hFirst
  have hRegistered : ({ State.initial with infoChangeCallback := true } : State).Complete :=
    ⟨rfl, fun _ _ hDevice => nomatch hDevice⟩
  exact (State.follows_foldl handlers _ rest).complete hRegistered

/-- An answer that reports marks the lidar for good. -/
theorem exists_updated {handlers : UInt8 → Option CommandHandler} {events : List Event}
    {kind : CommandHandler} {status : Int32} {handle : UInt32}
    {response : Option LivoxLidarAsyncControlResponse}
    (hMember : .updateLidarCallback kind status handle response ∈ events)
    (hReports : reports kind status response = true) :
    ∃ device, (run handlers events).devices handle = some device ∧ device.isUpdateCfg = true := by
  obtain ⟨before, after, rfl⟩ := List.append_of_mem hMember
  rw [run_append, List.foldl_cons]
  obtain ⟨configured, hResult⟩ :=
    State.exists_updateLidarCallback (run handlers before) kind status handle response
  rw [if_pos hReports] at hResult
  have hDevice := congrFun (State.devices_livoxLidarInfoChange
    { run handlers before with configured := configured } handle) handle
  rw [← hResult, Function.update_self] at hDevice
  have hAfter := (State.follows_foldl handlers
    ((run handlers before).updateLidarCallback kind status handle response) after).evolves
  obtain ⟨device, hLast, -⟩ := hAfter.exists_some hDevice
  exact ⟨device, hLast, (hAfter.flags handle _ device hDevice hLast).1 rfl⟩

/-- In whatever order the lidars' messages and answers come, their callbacks running one at a
time, the program is told of a lidar at most once, with what that lidar said of itself first,
and from then on its configuration is left alone. No configuration is sent to a lidar of unknown firmware. If the program has
registered its callback first, it is told of every lidar whose answer reports. -/
theorem lidars_told (handlers : UInt8 → Option CommandHandler) (events : List Event) :
    ((run handlers events).callbacks.map Prod.fst).Nodup ∧
    (∀ handle info, (handle, info) ∈ (run handlers events).callbacks →
      (events.findSome? fun event => introduces event handle) = some info) ∧
    (∀ handle more, handle ∈ (run handlers events).callbacks.map Prod.fst →
      (run handlers (events ++ more)).updatesOf handle = (run handlers events).updatesOf handle) ∧
    (∀ update ∈ (run handlers events).updates,
      ∃ device, (run handlers events).devices update.1 = some device ∧
        device.isGetLoaderMode = true) ∧
    (events.head? = some .setLivoxLidarInfoChangeCallback →
      ∀ kind status handle response,
        Event.updateLidarCallback kind status handle response ∈ events →
        reports kind status response = true →
        handle ∈ (run handlers events).callbacks.map Prod.fst) := by
  have hSound := sound_run handlers events
  refine ⟨hSound.once, ?_, ?_, hSound.firmware, ?_⟩
  · intro handle info hTold
    obtain ⟨device, hDevice, hInfo, -⟩ := hSound.told handle info hTold
    rw [← info_run, hDevice, Option.map_some, hInfo]
  · intro handle more hTold
    obtain ⟨⟨_, info⟩, hMember, rfl⟩ := List.mem_map.mp hTold
    obtain ⟨device, hDevice, -, hUpdate, -⟩ := hSound.told _ info hMember
    rw [run_append]
    exact (State.follows_foldl handlers _ more).settled _ device hDevice hUpdate
  · intro hFirst kind status handle response hMember hReports
    obtain ⟨device, hDevice, hUpdate⟩ := exists_updated hMember hReports
    exact (complete_of_head hFirst).told handle device hDevice (.inl hUpdate)

end Mandeye.BringUp
