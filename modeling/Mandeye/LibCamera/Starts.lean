import Mandeye.LibCamera.SetConfig
import Mandeye.Overlay

/-! What a start of the camera does. How it ends depends on the configuration and on
the libraries only, and so does what it sets; the rest it takes overlay. -/
namespace Mandeye.LibCamera

open Exceptions LibCameraWrapper Overlay SetConfig

/-- The settings which are read from the section for the trigger. -/
structure Trigger where
  mode : TriggerMode
  gpioPin : Int32
  gpioChip : String
  maxFrameAgeNs : UInt64

def trigger (w : LibCameraWrapper) : Trigger :=
  ⟨w.triggerMode, w.triggerGpioPin, w.gpioChipPath, w.maxFrameAgeNs⟩

def withTrigger (t : Trigger) (w : LibCameraWrapper) : LibCameraWrapper :=
  { w with
    triggerMode := t.mode
    triggerGpioPin := t.gpioPin
    gpioChipPath := t.gpioChip
    maxFrameAgeNs := t.maxFrameAgeNs }

/-- The settings before the section is read, with a mode in it. -/
def defaultTrigger (mode : TriggerMode) : Trigger := ⟨mode, -1, "/dev/gpiochip0", 500000000⟩

def modeNamed (mode : String) : TriggerMode :=
  if mode = "NEAREST_FRAME" then .nearestFrame else if mode = "XVS_HARD" then .xvsHard
  else .internal

/-- The mode for which a configuration asks. -/
def requestedMode (config : Json) : TriggerMode :=
  match config.member "trigger" with
  | none => .internal
  | some tc =>
      match tc.value "mode" "INTERNAL" with
      | .ok mode => modeNamed mode
      | .error _ => .internal

/-- The rate which a configuration sets. -/
def rateOf (config : Json) : Option UInt32 :=
  (config.member "rateMs").bind fun json => json.getUInt32.toOption

section Controls

/-- The controls which a configuration sets. -/
def controlsOf (surroundings : Surroundings) (config : Json) : ControlList :=
  (setControls config { new with controlsInfo := surroundings.controls }).controlList

/-- The control which puts the sensor into slave mode. -/
def frameSyncFor (mode : TriggerMode) : ControlList :=
  if mode = .xvsHard then ControlList.set frameSyncId (.integer32 1) fun _ => none
  else fun _ => none

/-- The controls of a configuration are laid over those which are set already. -/
theorem setControls_overlay (surroundings : Surroundings) (config : Json) (w : LibCameraWrapper)
    (hInfo : w.controlsInfo = surroundings.controls) :
    setControls config w =
      { w with controlList := overlay (controlsOf surroundings config) w.controlList } := by
  obtain ⟨added, hAdded⟩ := @SetsControls.setControls surroundings.controls config
  have hControls : controlsOf surroundings config = added := by
    rw [controlsOf, hAdded _ rfl]
    exact overlay_none added
  rw [hControls, hAdded w hInfo]

theorem setFrameSync_eq (w : LibCameraWrapper) :
    setFrameSync w =
      { w with controlList := overlay (frameSyncFor w.triggerMode) w.controlList } := by
  unfold setFrameSync frameSyncFor
  split
  · rw [ControlList.set, update_eq_overlay]
    rfl
  · rfl

end Controls

section Pps

/-- The GPIO library lets the edges on the pin be watched. -/
def watchable (surroundings : Surroundings) (t : Trigger) : Bool :=
  !(t.gpioPin < 0) && surroundings.chipOpen t.gpioChip &&
    (surroundings.getLine t.gpioChip t.gpioPin &&
      surroundings.requestRisingEdgeEvents t.gpioChip t.gpioPin)

/-- The settings of the trigger with which the camera is started. -/
def watched (surroundings : Surroundings) (t : Trigger) : Trigger :=
  if watchable surroundings t then t else { t with mode := .internal }

/-- Without edges to watch, nothing is held of the GPIO library. -/
theorem watchPps_eq (surroundings : Surroundings) (w : LibCameraWrapper) :
    ∃ chip line,
      watchPps surroundings w =
        { withTrigger (watched surroundings (trigger w)) w with ppsChip := chip, ppsLine := line } ∧
      ((watched surroundings (trigger w)).mode = .internal → w.ppsChip = none → w.ppsLine = none →
        chip = none ∧ line = none) := by
  have hFails : watchable surroundings (trigger w) = false →
      watched surroundings (trigger w) = { trigger w with mode := .internal } := by
    intro h
    rw [watched, h]
    rfl
  unfold watchPps
  by_cases hInternal : w.triggerMode = .internal
  · have hSame : watched surroundings (trigger w) = trigger w := by
      rw [watched, trigger, hInternal, ite_self]
    rw [if_pos hInternal, hSame]
    exact ⟨w.ppsChip, w.ppsLine, rfl, fun _ hChip hLine => ⟨hChip, hLine⟩⟩
  rw [if_neg hInternal]
  by_cases hPin : w.triggerGpioPin < 0
  · rw [if_pos hPin, hFails (by simp [watchable, trigger, hPin])]
    exact ⟨w.ppsChip, w.ppsLine, rfl, fun _ hChip hLine => ⟨hChip, hLine⟩⟩
  rw [if_neg hPin]
  cases hChip : surroundings.chipOpen w.gpioChipPath with
  | false =>
      rw [hFails (by simp [watchable, trigger, hChip])]
      exact ⟨none, w.ppsLine, rfl, fun _ _ hLine => ⟨rfl, hLine⟩⟩
  | true =>
      cases hEvents : surroundings.getLine w.gpioChipPath w.triggerGpioPin &&
          surroundings.requestRisingEdgeEvents w.gpioChipPath w.triggerGpioPin with
      | false =>
          rw [hFails (by simp [watchable, trigger, hEvents]), ← Bool.not_and, hEvents]
          exact ⟨none, none, rfl, fun _ _ _ => ⟨rfl, rfl⟩⟩
      | true =>
          have hSame : watched surroundings (trigger w) = trigger w := by
            simp [watched, watchable, trigger, hPin, hChip, hEvents]
          rw [hSame, ← Bool.not_and, hEvents]
          exact ⟨_, _, rfl, fun hMode => absurd hMode hInternal⟩

end Pps

/-- A function which changes the settings of the trigger but not the mode. -/
def KeepsMode (f : LibCameraWrapper → LibCameraWrapper) : Prop :=
  ∃ g : Trigger → Trigger, (∀ t, (g t).mode = t.mode) ∧ ∀ w, f w = withTrigger (g (trigger w)) w

theorem KeepsMode.id : KeepsMode id := ⟨fun t => t, fun _ => rfl, fun _ => rfl⟩

theorem KeepsMode.comp {f g : LibCameraWrapper → LibCameraWrapper} (hf : KeepsMode f)
    (hg : KeepsMode g) : KeepsMode (g ∘ f) := by
  obtain ⟨f', hMode, hf'⟩ := hf
  obtain ⟨g', hMode', hg'⟩ := hg
  refine ⟨g' ∘ f', fun t => (hMode' _).trans (hMode t), fun w => ?_⟩
  rw [Function.comp_apply, hf', hg']
  rfl

theorem keepsMode_readMember {Value : Type} {key : String} {json : Json}
    {get : Json → Except String Value} {store : Value → LibCameraWrapper → LibCameraWrapper}
    (hStore : ∀ value, KeepsMode (store value)) :
    Code.Applies KeepsMode (readMember key json get store) := by
  unfold readMember
  cases json.member key with
  | none => exact .pure .id
  | some json => exact .ofExcept .id fun value _ => .modify (hStore value)

/-- The members which are read after the mode leave it alone. -/
theorem keepsMode_triggerMembers (tc : Json) :
    Code.Applies KeepsMode (do
      readMember "gpioPin" tc Json.getInt32 fun pin w => { w with triggerGpioPin := pin }
      readMember "gpioChip" tc Json.getString fun path w => { w with gpioChipPath := path }
      readMember "maxFrameAgeMs" tc Json.getUInt32 fun age w =>
        { w with maxFrameAgeNs := age.toUInt64 * 1000000 }) := by
  have hPin : ∀ pin, KeepsMode fun w => { w with triggerGpioPin := pin } := fun pin =>
    ⟨fun t => { t with gpioPin := pin }, fun _ => rfl, fun _ => rfl⟩
  have hChip : ∀ path, KeepsMode fun w => { w with gpioChipPath := path } := fun path =>
    ⟨fun t => { t with gpioChip := path }, fun _ => rfl, fun _ => rfl⟩
  have hAge : ∀ age : UInt32,
      KeepsMode fun w => { w with maxFrameAgeNs := age.toUInt64 * 1000000 } := fun age =>
    ⟨fun t => { t with maxFrameAgeNs := age.toUInt64 * 1000000 }, fun _ => rfl, fun _ => rfl⟩
  apply Code.Applies.bind (keepsMode_readMember hPin) _ fun _ _ => KeepsMode.comp
  exact .bind (keepsMode_readMember hChip) (keepsMode_readMember hAge) fun _ _ => KeepsMode.comp

theorem setTriggerMode_reset (mode : String) (w : LibCameraWrapper) :
    setTriggerMode mode (resetTrigger w) = withTrigger (defaultTrigger (modeNamed mode)) w := by
  unfold setTriggerMode modeNamed
  split
  · rfl
  · split <;> rfl

/-- The section for the trigger is read in the same way whatever was set before. -/
theorem readTrigger_uniform (config : Json) :
    (∃ t : Trigger, t.mode = requestedMode config ∧
      ∀ w, readTrigger config w = .returns () (withTrigger t w)) ∨
    ∃ what t, ∀ w, readTrigger config w = .throws what (withTrigger t w) := by
  unfold readTrigger requestedMode
  cases config.member "trigger" with
  | none => exact Or.inl ⟨defaultTrigger .internal, rfl, fun _ => rfl⟩
  | some tc =>
      cases hMode : tc.value "mode" "INTERNAL" with
      | error what =>
          refine Or.inr ⟨what, defaultTrigger .internal, fun w => ?_⟩
          simp only [hMode]
          rfl
      | ok mode =>
          cases keepsMode_triggerMembers tc with
          | returns f hf h =>
              obtain ⟨g, hKept, hf⟩ := hf
              refine Or.inl ⟨g (defaultTrigger (modeNamed mode)), ?_, fun w => ?_⟩
              · simp only [hMode]
                exact hKept _
              simp only [hMode]
              refine (h (setTriggerMode mode (resetTrigger w))).trans ?_
              rw [hf, setTriggerMode_reset]
              rfl
          | throws what f hf h =>
              obtain ⟨g, hKept, hf⟩ := hf
              refine Or.inr ⟨what, g (defaultTrigger (modeNamed mode)), fun w => ?_⟩
              simp only [hMode]
              refine (h (setTriggerMode mode (resetTrigger w))).trans ?_
              rw [hf, setTriggerMode_reset]
              rfl

/-- How reading the section for the trigger ends. -/
theorem readTrigger_cases (config : Json) :
    (triggerTyped config = true ∧ ∃ t : Trigger, t.mode = requestedMode config ∧
      ∀ w, readTrigger config w = .returns () (withTrigger t w)) ∨
    (triggerTyped config = false ∧ ∃ what t,
      ∀ w, readTrigger config w = .throws what (withTrigger t w)) := by
  have hTyped := checks_readTrigger config new ⟨rfl, rfl⟩
  rcases readTrigger_uniform config with ⟨t, hMode, hReturns⟩ | ⟨what, t, hThrows⟩
  · rw [hReturns] at hTyped
    exact Or.inl ⟨hTyped.1, t, hMode, hReturns⟩
  · rw [hThrows] at hTyped
    exact Or.inr ⟨hTyped.1, what, t, hThrows⟩

/-- How reading the rate ends. -/
theorem readRate_cases (config : Json) :
    (rateTyped config = true ∧
      ∀ w, readRate config w = .returns () { w with rateMs := (rateOf config).getD w.rateMs }) ∨
    (rateTyped config = false ∧ ∃ what, ∀ w, readRate config w = .throws what w) := by
  unfold readRate readMember rateOf rateTyped
  cases config.member "rateMs" with
  | none => exact Or.inl ⟨rfl, fun _ => rfl⟩
  | some json =>
      rw [Option.all_some, ← Json.getUInt32_isOk]
      cases hRate : json.getUInt32 with
      | ok rate =>
          refine Or.inl ⟨rfl, fun w => ?_⟩
          simp only [Option.bind_some, hRate]
          rfl
      | error what =>
          refine Or.inr ⟨rfl, what, fun w => ?_⟩
          simp only [hRate]
          rfl

/-- The wrapper when the camera has been taken, and its buffers and controls are set up. -/
def prepared (surroundings : Surroundings) (id : String) (t : Trigger) (config : Json)
    (w : LibCameraWrapper) : LibCameraWrapper :=
  setControls config <| allocate surroundings
    { withTrigger t w with cm := some ⟨true⟩, camera := some ⟨id, none, []⟩ }

/-- The wrapper when the camera has been started. -/
def configured (surroundings : Surroundings) (id : String) (t : Trigger) (config : Json)
    (w : LibCameraWrapper) : LibCameraWrapper :=
  startCamera <| watchPps surroundings <| setFrameSync
    { prepared surroundings id t config w with rateMs := (rateOf config).getD w.rateMs }

theorem prepared_eq (surroundings : Surroundings) (id : String) (t : Trigger) (config : Json)
    (w : LibCameraWrapper) :
    prepared surroundings id t config w =
      { allocate surroundings
          { withTrigger t w with cm := some ⟨true⟩, camera := some ⟨id, none, []⟩ } with
        controlList := overlay (controlsOf surroundings config) w.controlList } :=
  setControls_overlay surroundings config _ rfl

/-- What is set when the camera has been started, by the configuration and from before. -/
structure Configured (surroundings : Surroundings) (t : Trigger) (config : Json)
    (w w' : LibCameraWrapper) : Prop where
  started : w'.camera.bind Camera.started = some w'.controlList
  controls : w'.controlList =
    overlay (frameSyncFor t.mode) (overlay (controlsOf surroundings config) w.controlList)
  rate : w'.rateMs = (rateOf config).getD w.rateMs
  trigger : trigger w' = watched surroundings t
  thread : w'.ppsThread = (w.ppsThread || (watched surroundings t).mode ≠ .internal)
  handles : (watched surroundings t).mode = .internal → w.ppsChip = none → w.ppsLine = none →
    w'.ppsChip = none ∧ w'.ppsLine = none

theorem configured_configured (surroundings : Surroundings) (id : String) (t : Trigger)
    (config : Json) (w : LibCameraWrapper) :
    Configured surroundings t config w (configured surroundings id t config w) := by
  obtain ⟨chip, line, hWatch, hHandles⟩ := watchPps_eq surroundings
    (setFrameSync
      { prepared surroundings id t config w with rateMs := (rateOf config).getD w.rateMs })
  rw [configured, hWatch]
  rw [setFrameSync_eq, prepared_eq] at hHandles ⊢
  exact ⟨rfl, rfl, rfl, rfl, rfl, hHandles⟩

/-- How a start ends, and the wrapper which it leaves. -/
inductive Outcome (surroundings : Surroundings) (camNo : Nat) (config : Json) : Prop where
  | refused (what : String) (t : Trigger) (hTyped : triggerTyped config = false)
      (h : ∀ w, start surroundings camNo config w = .throws what (withTrigger t w))
  | unavailable (t : Trigger) (hNone : surroundings.cameras[camNo]? = none)
      (h : ∀ w, start surroundings camNo config w =
        .returns false { withTrigger t w with cm := some ⟨false⟩ })
  | rateRefused (id : String) (t : Trigger) (what : String) (hTyped : triggerTyped config = true)
      (hRate : rateTyped config = false) (hCamera : surroundings.cameras[camNo]? = some id)
      (h : ∀ w, start surroundings camNo config w =
        .throws what (prepared surroundings id t config w))
  | accepted (id : String) (t : Trigger) (hTyped : wellTyped config = true)
      (hCamera : surroundings.cameras[camNo]? = some id) (hMode : t.mode = requestedMode config)
      (h : ∀ w, start surroundings camNo config w =
        .returns true (configured surroundings id t config w))

theorem start_outcome (surroundings : Surroundings) (camNo : Nat) (config : Json) :
    Outcome surroundings camNo config := by
  rcases readTrigger_cases config with
    ⟨hTyped, t, hMode, hTrigger⟩ | ⟨hTyped, what, t, hTrigger⟩
  · cases hCamera : surroundings.cameras[camNo]? with
    | none =>
        have hAcquire : ∀ w, acquire surroundings camNo w =
            .returns false { w with cm := some ⟨false⟩ } := by
          intro w
          simp only [acquire, hCamera]
          rfl
        refine .unavailable t hCamera fun w => ?_
        rw [start, Code.bind_of_returns (hTrigger w), Code.bind_of_returns (hAcquire _)]
        rfl
    | some id =>
        have hAcquire : ∀ w, acquire surroundings camNo w =
            .returns true { w with cm := some ⟨true⟩, camera := some ⟨id, none, []⟩ } := by
          intro w
          simp only [acquire, hCamera]
          rfl
        have hPrepared : ∀ w, start surroundings camNo config w = (do
            readRate config
            .modify setFrameSync
            .modify (watchPps surroundings)
            .modify startCamera
            return true : Code Bool) (prepared surroundings id t config w) := by
          intro w
          rw [start, Code.bind_of_returns (hTrigger w), Code.bind_of_returns (hAcquire _)]
          rfl
        rcases readRate_cases config with ⟨hRateTyped, hRate⟩ | ⟨hRateTyped, what, hRate⟩
        · have hWellTyped : wellTyped config = true := by rw [wellTyped, hTyped, hRateTyped]; rfl
          refine .accepted id t hWellTyped hCamera hMode fun w => ?_
          rw [hPrepared, Code.bind_of_returns (hRate _), prepared_eq, configured, prepared_eq]
          rfl
        · refine .rateRefused id t what hTyped hRateTyped hCamera fun w => ?_
          rw [hPrepared, Code.bind_of_throws (hRate _)]
  · refine .refused what t hTyped fun w => ?_
    rw [start, Code.bind_of_throws (hTrigger w)]

/-- The wrapper when the camera has been stopped. -/
def stopped (w : LibCameraWrapper) : LibCameraWrapper :=
  { stopCamera { w with
      running := false, ppsThread := false, ppsChip := none, ppsLine := none } with cm := none }

theorem stop_eq (w : LibCameraWrapper) :
    stop w = if w.cm = none then .faults "m_cm" else .returns () (stopped w) := by
  have hCm : (stopCamera { w with
      running := false, ppsThread := false, ppsChip := none, ppsLine := none }).cm = w.cm := by
    unfold stopCamera
    split <;> rfl
  rw [stop, Code.bind_modify, Code.bind_modify, Code.bind_read, stopped]
  generalize stopCamera { w with
    running := false, ppsThread := false, ppsChip := none, ppsLine := none } = later at hCm ⊢
  rw [hCm]
  cases w.cm with
  | none => rfl
  | some cm => rfl

/-- What is left when the camera has been stopped. -/
theorem eq_of_stop {w w' : LibCameraWrapper} (h : (stop w).state? = some w') :
    ∃ camera allocator requests,
      w' = { w with
        cm := none, camera := camera, allocator := allocator, requests := requests,
        running := false, ppsThread := false, ppsChip := none, ppsLine := none } ∧
      ∀ buffers ∈ allocator, buffers ∈ w.allocator := by
  rw [stop_eq] at h
  split at h
  · cases h
  · cases h
    unfold stopped stopCamera
    split
    · exact ⟨_, _, _, rfl, fun _ hBuffers => hBuffers⟩
    · exact ⟨_, _, _, rfl, fun _ hBuffers => by cases hBuffers⟩

end Mandeye.LibCamera
