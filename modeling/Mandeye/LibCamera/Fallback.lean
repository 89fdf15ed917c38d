import Mandeye.LibCamera.Restarts

/-! Starts which ask for a trigger and cannot have it. The camera then runs as if
there were none, but the sensor may already have been put into slave mode. -/
namespace Mandeye.LibCamera.Fallback

open Exceptions LibCameraWrapper Overlay Restarts SetConfig

/-- Nothing is held of the GPIO library, and no thread waits for edges. -/
structure Fresh (w : LibCameraWrapper) : Prop where
  ppsChip : w.ppsChip = none
  ppsLine : w.ppsLine = none
  ppsThread : w.ppsThread = false

/-- What a start has set up. -/
structure Effects where
  started : Option ControlList
  ppsChip : Option String
  ppsLine : Option Int32
  ppsThread : Bool

def effects (w : LibCameraWrapper) : Effects :=
  ⟨w.camera.bind Camera.started, w.ppsChip, w.ppsLine, w.ppsThread⟩

/-- The same call without the section for the trigger. -/
def withoutTrigger (call : Start) : Start := { call with config := call.config.without "trigger" }

/-- A trigger was asked for, and the camera runs without it. -/
structure FellBack (call : Start) (w : LibCameraWrapper) : Prop where
  requested : requestedMode call.config ≠ .internal
  internal : w.triggerMode = .internal

/-- The sensor is in slave mode without the section for the trigger too, if that puts
it there. -/
def SlaveAnyway (call : Start) (w : LibCameraWrapper) : Prop :=
  requestedMode call.config = .xvsHard →
    overlay (controlsOf call.surroundings call.config) w.controlList frameSyncId =
      some (.integer32 1)

variable {call : Start} {w w' : LibCameraWrapper}

theorem fresh_new : Fresh new := ⟨rfl, rfl, rfl⟩

theorem fresh_of_stop (h : (LibCameraWrapper.stop w).state? = some w') : Fresh w' := by
  obtain ⟨camera, allocator, requests, rfl, -⟩ := eq_of_stop h
  exact ⟨rfl, rfl, rfl⟩

/-- A configuration of the right types is accepted if there is a camera. -/
theorem accepted_iff :
    (∃ w', call.accepted w = some w') ↔
      wellTyped call.config = true ∧ call.surroundings.cameras[call.camNo]? ≠ none := by
  unfold Start.accepted
  cases start_outcome call.surroundings call.camNo call.config with
  | refused what t hTyped hStart => simp [hStart, wellTyped, hTyped]
  | unavailable t hNone hStart => simp [hStart, hNone]
  | rateRefused id t what hTyped hRate hCamera hStart => simp [hStart, wellTyped, hRate]
  | accepted id t hTyped hCamera hMode hStart => simp [hStart, hTyped, hCamera]

section WithoutTrigger

theorem requestedMode_withoutTrigger : requestedMode (withoutTrigger call).config = .internal := by
  rw [requestedMode, withoutTrigger, Json.member_without, if_pos rfl]

theorem controlsOf_withoutTrigger (surroundings : Surroundings) :
    controlsOf surroundings (withoutTrigger call).config = controlsOf surroundings call.config := by
  rw [controlsOf, controlsOf, setControls, setControls, withoutTrigger, Json.member_without,
    if_neg (by decide)]

theorem wellTyped_withoutTrigger (h : wellTyped call.config = true) :
    wellTyped (withoutTrigger call).config = true := by
  have hRate : rateTyped (withoutTrigger call).config = rateTyped call.config := by
    rw [rateTyped, rateTyped, withoutTrigger, Json.member_without, if_neg (by decide)]
  have hTrigger : triggerTyped (withoutTrigger call).config = true := by
    rw [triggerTyped, withoutTrigger, Json.member_without, if_pos rfl]
    rfl
  rw [wellTyped, hTrigger, hRate]
  exact (Bool.and_eq_true_iff.mp h).2

/-- The call is accepted without the section for the trigger too. -/
theorem withoutTrigger_accepted (h : call.accepted w = some w') :
    ∃ v, (withoutTrigger call).accepted w = some v := by
  obtain ⟨hTyped, hCamera⟩ := accepted_iff.mp ⟨w', h⟩
  exact accepted_iff.mpr ⟨wellTyped_withoutTrigger hTyped, hCamera⟩

end WithoutTrigger

/-- A start which ends without a trigger leaves a fresh wrapper without handles and
threads, and starts the camera with these controls. -/
theorem effects_of_internal (hFresh : Fresh w) (h : call.accepted w = some w')
    (hInternal : w'.triggerMode = .internal) :
    effects w' = ⟨some (overlay call.controls w.controlList), none, none, false⟩ := by
  obtain ⟨t, hMode, hConfigured⟩ := accepted_configured h
  have hSet := hConfigured w w' h
  have hWatched : (watched call.surroundings t).mode = .internal := by
    rw [← hSet.trigger]
    exact hInternal
  obtain ⟨hChip, hLine⟩ := hSet.handles hWatched hFresh.ppsChip hFresh.ppsLine
  have hThread : w'.ppsThread = false := by
    rw [hSet.thread, hFresh.ppsThread, hWatched]
    rfl
  rw [effects, hSet.started, (accepted_overlay h).1, hChip, hLine, hThread]

/-- Setting the control for the slave mode changes nothing if it is set already. -/
theorem frameSync_overlay_iff (mode : TriggerMode) (controls : ControlList) :
    overlay (frameSyncFor mode) controls = controls ↔
      (mode = .xvsHard → controls frameSyncId = some (.integer32 1)) := by
  unfold frameSyncFor
  split
  · next hMode =>
    rw [ControlList.set, ← update_eq_overlay, Function.update_eq_self_iff]
    simp [hMode, eq_comm]
  · next hMode => simp [hMode]

/-- The effects of the call without the section for the trigger. -/
theorem effects_withoutTrigger {v : LibCameraWrapper} (hFresh : Fresh w)
    (h : (withoutTrigger call).accepted w = some v) :
    effects v =
      ⟨some (overlay (controlsOf call.surroundings call.config) w.controlList), none, none,
        false⟩ := by
  obtain ⟨t, hMode, hConfigured⟩ := accepted_configured h
  rw [requestedMode_withoutTrigger] at hMode
  have hInternal : v.triggerMode = .internal := by
    change (trigger v).mode = _
    rw [(hConfigured w v h).trigger, watched]
    split
    · exact hMode
    · rfl
  rw [effects_of_internal hFresh h hInternal, Start.controls, requestedMode_withoutTrigger,
    controlsOf_withoutTrigger]
  rfl

/-- The fallback leaves what the start without the section for the trigger leaves
exactly if the sensor is in slave mode anyway or was not put into it. -/
theorem effects_eq_iff (hFresh : Fresh w) (h : call.accepted w = some w')
    (hFellBack : FellBack call w') :
    (∃ v, (withoutTrigger call).accepted w = some v ∧ effects w' = effects v) ↔
      SlaveAnyway call w := by
  have hEffects : ∀ v, (withoutTrigger call).accepted w = some v →
      (effects w' = effects v ↔ SlaveAnyway call w) := by
    intro v hv
    rw [effects_of_internal hFresh h hFellBack.internal, effects_withoutTrigger hFresh hv,
      Start.controls, overlay_assoc]
    simp only [Effects.mk.injEq, Option.some.injEq, and_true]
    exact frameSync_overlay_iff _ _
  constructor
  · rintro ⟨v, hv, hSame⟩
    exact (hEffects v hv).mp hSame
  · intro hSlave
    obtain ⟨v, hv⟩ := withoutTrigger_accepted h
    exact ⟨v, hv, (hEffects v hv).mpr hSlave⟩

/-- A call which asks for this trigger but names no pin. -/
def pinlessStart (mode : String) : Start :=
  ⟨connected, 0, .object [("trigger", .object [("mode", .string mode)])]⟩

theorem effects_eq_nearestFrame :
    ∃ w' v, (pinlessStart "NEAREST_FRAME").accepted new = some w' ∧
      (withoutTrigger (pinlessStart "NEAREST_FRAME")).accepted new = some v ∧
      effects w' = effects v := by
  have hStart : ∃ w', (pinlessStart "NEAREST_FRAME").accepted new = some w' ∧
      w'.triggerMode = .internal := ⟨_, rfl, rfl⟩
  obtain ⟨w', h, hInternal⟩ := hStart
  have hMode : requestedMode (pinlessStart "NEAREST_FRAME").config = .nearestFrame := rfl
  have hFellBack : FellBack (pinlessStart "NEAREST_FRAME") w' := by
    refine ⟨?_, hInternal⟩
    rw [hMode]
    nofun
  have hSlave : SlaveAnyway (pinlessStart "NEAREST_FRAME") new := by
    intro hXvs
    rw [hMode] at hXvs
    cases hXvs
  obtain ⟨v, hv, hSame⟩ := (effects_eq_iff fresh_new h hFellBack).mpr hSlave
  exact ⟨w', v, h, hv, hSame⟩

/-- The value of the control for the slave mode with which the camera is started. -/
def slaveMode (w : LibCameraWrapper) : Option ControlValue :=
  (effects w).started.bind fun controls => controls frameSyncId

/-- Without a pin the trigger is internal, but the sensor waits for pulses. -/
theorem slaveMode_without_trigger :
    ∃ w' v, (pinlessStart "XVS_HARD").accepted new = some w' ∧
      FellBack (pinlessStart "XVS_HARD") w' ∧
      (withoutTrigger (pinlessStart "XVS_HARD")).accepted new = some v ∧
      effects w' ≠ effects v ∧ slaveMode w' = some (.integer32 1) ∧ slaveMode v = none := by
  have hStart : ∃ w', (pinlessStart "XVS_HARD").accepted new = some w' ∧
      w'.triggerMode = .internal ∧ slaveMode w' = some (.integer32 1) := ⟨_, rfl, rfl, rfl⟩
  have hPlain : ∃ v, (withoutTrigger (pinlessStart "XVS_HARD")).accepted new = some v ∧
      slaveMode v = none := ⟨_, rfl, rfl⟩
  obtain ⟨w', h, hInternal, hSync⟩ := hStart
  obtain ⟨v, hv, hNone⟩ := hPlain
  have hMode : requestedMode (pinlessStart "XVS_HARD").config = .xvsHard := rfl
  have hFellBack : FellBack (pinlessStart "XVS_HARD") w' := by
    refine ⟨?_, hInternal⟩
    rw [hMode]
    nofun
  refine ⟨w', v, h, hFellBack, hv, fun hSame => ?_, hSync, hNone⟩
  have hSlave : slaveMode w' = slaveMode v := by rw [slaveMode, hSame, slaveMode]
  rw [hSync, hNone] at hSlave
  cases hSlave

end Mandeye.LibCamera.Fallback
