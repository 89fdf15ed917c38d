import Mathlib.Data.List.Induction
import Mandeye.LibCamera.Starts

/-! Cameras which are stopped and started again with other configurations. What an
earlier configuration has set stays, unless the new one sets it too. -/
namespace Mandeye.LibCamera.Restarts

open Exceptions LibCameraWrapper Overlay SetConfig

/-- A call of `start`, with what the libraries answer in it. -/
structure Start where
  surroundings : Surroundings
  camNo : Nat
  config : Json

namespace Start

/-- The wrapper if the configuration is accepted. -/
def accepted (call : Start) (w : LibCameraWrapper) : Option LibCameraWrapper :=
  match LibCameraWrapper.start call.surroundings call.camNo call.config w with
  | .returns true w' => some w'
  | _ => none

/-- The controls which the call sets. -/
def controls (call : Start) : ControlList :=
  overlay (frameSyncFor (requestedMode call.config)) (controlsOf call.surroundings call.config)

/-- The rate which the call sets. -/
def rate (call : Start) : Option UInt32 := rateOf call.config

end Start

/-- Start the camera and stop it again. -/
def session (w : LibCameraWrapper) (call : Start) : Option LibCameraWrapper :=
  (call.accepted w).bind fun w => (LibCameraWrapper.stop w).state?

/-- The wrapper after some sessions, all of them with configurations which are accepted. -/
def sessions (history : List Start) : Option LibCameraWrapper := history.foldlM session new

/-- What is in effect when the camera has been started. -/
structure Settings where
  started : Option ControlList
  rateMs : UInt32
  trigger : Trigger

def settings (w : LibCameraWrapper) : Settings :=
  ⟨w.camera.bind Camera.started, w.rateMs, trigger w⟩

/-- The value to which a control was set last. -/
def latestControls (history : List Start) : ControlList := latest (history.map Start.controls)

/-- The rate which was set last. -/
def latestRate (history : List Start) : UInt32 :=
  history.foldl (fun rate call => call.rate.getD rate) 500

/-- The new configuration sets whatever the two histories have left different. -/
structure Overridden (first second : List Start) (call : Start) : Prop where
  controls : ∀ id, call.controls id = none → latestControls first id = latestControls second id
  rate : call.rate = none → latestRate first = latestRate second

variable {first second history : List Start} {call : Start} {w w' : LibCameraWrapper}

/-- What an accepted call sets is the same in every state. -/
theorem accepted_configured (h : call.accepted w = some w') :
    ∃ t : Trigger, t.mode = requestedMode call.config ∧
      ∀ v v', call.accepted v = some v' → Configured call.surroundings t call.config v v' := by
  unfold Start.accepted at h ⊢
  cases start_outcome call.surroundings call.camNo call.config with
  | refused what t hTyped hStart =>
      rw [hStart] at h
      cases h
  | unavailable t hNone hStart =>
      rw [hStart] at h
      cases h
  | rateRefused id t what hTyped hRate hCamera hStart =>
      rw [hStart] at h
      cases h
  | accepted id t hTyped hCamera hMode hStart =>
      refine ⟨t, hMode, fun v v' hv => ?_⟩
      rw [hStart] at hv
      cases hv
      exact configured_configured call.surroundings id t call.config v

/-- An accepted call lays its settings over those which are there. -/
theorem accepted_overlay (h : call.accepted w = some w') :
    w'.controlList = overlay call.controls w.controlList ∧ w'.rateMs = call.rate.getD w.rateMs := by
  obtain ⟨t, hMode, hConfigured⟩ := accepted_configured h
  have hControls := (hConfigured w w' h).controls
  rw [hMode, ← overlay_assoc] at hControls
  exact ⟨hControls, (hConfigured w w' h).rate⟩

theorem stop_keeps (h : (LibCameraWrapper.stop w).state? = some w') :
    w'.controlList = w.controlList ∧ w'.rateMs = w.rateMs := by
  obtain ⟨camera, allocator, requests, rfl, -⟩ := eq_of_stop h
  exact ⟨rfl, rfl⟩

theorem sessions_concat :
    sessions (history ++ [call]) = (sessions history).bind fun w => session w call := by
  simp [sessions, List.foldlM_append]

/-- The wrapper keeps what was set last. -/
theorem sessions_latest (h : sessions history = some w) :
    w.controlList = latestControls history ∧ w.rateMs = latestRate history := by
  induction history using List.reverseRecOn generalizing w with
  | nil =>
      cases h
      exact ⟨rfl, rfl⟩
  | append_singleton earlier call ih =>
      rw [sessions_concat, Option.bind_eq_some_iff] at h
      obtain ⟨before, hBefore, hSession⟩ := h
      obtain ⟨started, hStarted, hStop⟩ := Option.bind_eq_some_iff.mp hSession
      obtain ⟨hControls, hRate⟩ := ih hBefore
      obtain ⟨hControls', hRate'⟩ := accepted_overlay hStarted
      obtain ⟨hKept, hKept'⟩ := stop_keeps hStop
      constructor
      · rw [hKept, hControls', hControls, latestControls, latestControls, List.map_append,
          List.map_singleton, latest_concat]
      · rw [hKept', hRate', hRate, latestRate, latestRate, List.foldl_append]
        rfl

/-- What is in effect does not depend on the history exactly if the new configuration
sets whatever the histories have left different. -/
theorem settings_eq_iff {w₁ w₂ w₁' w₂' : LibCameraWrapper} (hFirst : sessions first = some w₁)
    (hSecond : sessions second = some w₂) (h₁ : call.accepted w₁ = some w₁')
    (h₂ : call.accepted w₂ = some w₂') :
    settings w₁' = settings w₂' ↔ Overridden first second call := by
  obtain ⟨t, -, hConfigured⟩ := accepted_configured h₁
  have hSettings : settings w₁' = settings w₂' ↔
      w₁'.controlList = w₂'.controlList ∧ w₁'.rateMs = w₂'.rateMs := by
    simp only [settings, Settings.mk.injEq, (hConfigured w₁ w₁' h₁).started,
      (hConfigured w₂ w₂' h₂).started, (hConfigured w₁ w₁' h₁).trigger,
      (hConfigured w₂ w₂' h₂).trigger, Option.some.injEq, and_true]
  have hRates : call.rate.getD (latestRate first) = call.rate.getD (latestRate second) ↔
      (call.rate = none → latestRate first = latestRate second) := by
    cases call.rate with
    | none => simp
    | some rate => simp
  obtain ⟨hControls₁, hRate₁⟩ := accepted_overlay h₁
  obtain ⟨hControls₂, hRate₂⟩ := accepted_overlay h₂
  rw [hSettings, hControls₁, hControls₂, hRate₁, hRate₂, (sessions_latest hFirst).1,
    (sessions_latest hFirst).2, (sessions_latest hSecond).1, (sessions_latest hSecond).2,
    overlay_eq_overlay_iff, hRates]
  exact ⟨fun h => ⟨h.1, h.2⟩, fun h => ⟨h.controls, h.rate⟩⟩

/-- The sensor is put into slave mode. -/
def slaveStart : Start where
  surroundings := connected
  camNo := 0
  config := .object [
    ("trigger", .object [("mode", .string "XVS_HARD"), ("gpioPin", .numberUnsigned 17)]),
    ("rateMs", .numberUnsigned 100)]

def plainStart : Start := ⟨connected, 0, .object []⟩

theorem settings_eq_slaveStart :
    ∃ w₁ w₂ w₁' w₂', sessions [slaveStart] = some w₁ ∧ sessions [] = some w₂ ∧
      slaveStart.accepted w₁ = some w₁' ∧ slaveStart.accepted w₂ = some w₂' ∧
      settings w₁' = settings w₂' := by
  have hSessions : ∃ w₁ w₁', sessions [slaveStart] = some w₁ ∧
      slaveStart.accepted w₁ = some w₁' := ⟨_, _, rfl, rfl⟩
  have hNew : ∃ w₂', slaveStart.accepted new = some w₂' := ⟨_, rfl⟩
  obtain ⟨w₁, w₁', hFirst, h₁⟩ := hSessions
  obtain ⟨w₂', h₂⟩ := hNew
  have hSecond : sessions [] = some new := rfl
  refine ⟨w₁, new, w₁', w₂', hFirst, hSecond, h₁, h₂, ?_⟩
  refine (settings_eq_iff hFirst hSecond h₁ h₂).mpr ⟨fun id hNone => ?_, nofun⟩
  have hLatest : latestControls [slaveStart] = slaveStart.controls := overlay_none _
  rw [hLatest, hNone]
  rfl

/-- The sensor stays in slave mode, and the rate stays too, when the camera is started
with a configuration which says nothing of them. -/
theorem slaveMode_kept :
    ∃ w₁ w₂ w₁' w₂', sessions [slaveStart] = some w₁ ∧ sessions [] = some w₂ ∧
      plainStart.accepted w₁ = some w₁' ∧ plainStart.accepted w₂ = some w₂' ∧
      settings w₁' ≠ settings w₂' ∧
      w₁'.triggerMode = .internal ∧ w₁'.controlList frameSyncId = some (.integer32 1) ∧
      w₂'.controlList frameSyncId = none ∧ w₁'.rateMs = 100 ∧ w₂'.rateMs = 500 := by
  have hSessions : ∃ w₁ w₁', sessions [slaveStart] = some w₁ ∧
      plainStart.accepted w₁ = some w₁' ∧ w₁'.triggerMode = .internal ∧
      w₁'.controlList frameSyncId = some (.integer32 1) ∧ w₁'.rateMs = 100 :=
    ⟨_, _, rfl, rfl, rfl, rfl, rfl⟩
  have hNew : ∃ w₂', plainStart.accepted new = some w₂' ∧
      w₂'.controlList frameSyncId = none ∧ w₂'.rateMs = 500 := ⟨_, rfl, rfl, rfl⟩
  obtain ⟨w₁, w₁', hFirst, h₁, hMode, hSync₁, hRate₁⟩ := hSessions
  obtain ⟨w₂', h₂, hSync₂, hRate₂⟩ := hNew
  refine ⟨w₁, new, w₁', w₂', hFirst, rfl, h₁, h₂, fun hSame => ?_, hMode, hSync₁, hSync₂,
    hRate₁, hRate₂⟩
  have hRates : w₁'.rateMs = w₂'.rateMs := congrArg Settings.rateMs hSame
  rw [hRate₁, hRate₂] at hRates
  cases hRates

end Mandeye.LibCamera.Restarts
