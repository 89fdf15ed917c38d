import Mathlib.Logic.Function.Basic
import Mandeye.Exceptions
import Mandeye.LibCamera.Json
import Mandeye.Overlay

/-! The wrapper around the camera library: how the camera is configured, started
and stopped. What the libraries answer is part of the surroundings of a call. -/
namespace Mandeye.LibCamera

open Exceptions Overlay

/-- What decides about the frames which are kept. -/
inductive TriggerMode where
  | internal
  | nearestFrame
  | xvsHard
  deriving DecidableEq

/-- The value of a control, with its type in the library. -/
inductive ControlValue where
  | bool (value : Bool)
  | byte (value : UInt8)
  | unsigned16 (value : UInt16)
  | integer32 (value : Int32)
  | integer64 (value : Int64)
  | float (value : Float32)
  | string (value : String)

/-- The type of a control, with its range where it is checked. -/
inductive ControlType where
  | none
  | bool
  | byte (min max : UInt8)
  | unsigned16 (min max : UInt16)
  | unsigned32
  | integer32 (min max : Int32)
  | integer64 (min max : Int64)
  | float (min max : Float32)
  | string
  | rectangle
  | size

/-- What the library says of a control. -/
structure ControlInfo where
  name : String
  id : UInt32
  isArray : Bool
  type : ControlType

/-- The controls which have been set, by their ids. -/
abbrev ControlList := UInt32 → Option ControlValue

def ControlList.set (id : UInt32) (value : ControlValue) (controls : ControlList) : ControlList :=
  Function.update controls id (some value)

/-- The types with which `setControlNumeric` is called. -/
inductive Numeric where
  | bool (value : Bool)
  | float (value : Float32)
  | int32 (value : Int32)

namespace Numeric

/-- The conversions of C++ between the types. -/
def toBool : Numeric → Bool
  | .bool value => value
  | .float value => value != 0
  | .int32 value => value != 0

def toUInt8 : Numeric → UInt8
  | .bool value => if value then 1 else 0
  | .float value => value.toUInt8
  | .int32 value => value.toUInt32.toUInt8

def toUInt16 : Numeric → UInt16
  | .bool value => if value then 1 else 0
  | .float value => value.toUInt16
  | .int32 value => value.toUInt32.toUInt16

def toInt32 : Numeric → Int32
  | .bool value => if value then 1 else 0
  | .float value => value.toInt32
  | .int32 value => value

def toInt64 : Numeric → Int64
  | .bool value => if value then 1 else 0
  | .float value => value.toInt64
  | .int32 value => value.toInt64

def toFloat32 : Numeric → Float32
  | .bool value => if value then 1 else 0
  | .float value => value
  | .int32 value => .ofInt value.toInt

def toString : Numeric → String
  | .bool value => if value then "1" else "0"
  | .float value => value.toString
  | .int32 value => ToString.toString value

end Numeric

/-- A plane of a buffer, and the memory to which a mapping is made if it ends
with this plane. -/
structure Plane where
  fd : Int32
  length : Nat
  mem : UInt64

/-- A buffer for one frame. -/
structure FrameBuffer where
  address : UInt64
  planes : List Plane

/-- A piece of mapped memory. -/
structure Span where
  mem : UInt64
  length : Nat
  deriving DecidableEq

/-- Planes with one file descriptor are mapped together. -/
def mapPlanes (total : Nat) : List Plane → List Span
  | [] => []
  | [plane] => [⟨plane.mem, total + plane.length⟩]
  | plane :: following :: rest =>
      if plane.fd = following.fd then mapPlanes (total + plane.length) (following :: rest)
      else ⟨plane.mem, total + plane.length⟩ :: mapPlanes 0 (following :: rest)

/-- The camera of the library. It has been started with some controls or not. -/
structure Camera where
  id : String
  started : Option ControlList
  queued : List UInt64

/-- The manager of the library, which has been started or not. -/
structure CameraManager where
  started : Bool

/-- What the camera library and the GPIO library answer in a call. -/
structure Surroundings where
  cameras : List String
  buffers : List FrameBuffer
  controls : List ControlInfo
  chipOpen : String → Bool
  getLine : String → Int32 → Bool
  requestRisingEdgeEvents : String → Int32 → Bool

/-- The members of the class. A pointer which may be null is an option; a request
stands for its buffer's address. -/
structure LibCameraWrapper where
  cm : Option CameraManager
  camera : Option Camera
  allocator : Option (List FrameBuffer)
  mappedBuffers : UInt64 → List Span
  requests : List UInt64
  controlsInfo : List ControlInfo
  controlList : ControlList
  oneFrame : Bool
  running : Bool
  rateMs : UInt32
  triggerMode : TriggerMode
  triggerGpioPin : Int32
  gpioChipPath : String
  ppsPending : Bool
  maxFrameAgeNs : UInt64
  ppsChip : Option String
  ppsLine : Option Int32
  ppsThread : Bool

namespace LibCameraWrapper

/-- A wrapper as its constructor leaves it. -/
def new : LibCameraWrapper where
  cm := none
  camera := none
  allocator := none
  mappedBuffers _ := []
  requests := []
  controlsInfo := []
  controlList _ := none
  oneFrame := false
  running := false
  rateMs := 500
  triggerMode := .internal
  triggerGpioPin := -1
  gpioChipPath := "/dev/gpiochip0"
  ppsPending := false
  maxFrameAgeNs := 500000000
  ppsChip := none
  ppsLine := none
  ppsThread := false

abbrev Code := Exceptions.Code LibCameraWrapper

/-- Set the control if its value is in range. -/
def setInRange (w : LibCameraWrapper) (id : UInt32) (value : ControlValue) (inRange : Bool) :
    LibCameraWrapper :=
  if inRange then { w with controlList := w.controlList.set id value } else w

/-- A value is converted to the type of the control and set if it is in range. A
control of another type is reported as set, without being so. -/
def setControl (info : ControlInfo) (valueInput : Numeric) (w : LibCameraWrapper) :
    Bool × LibCameraWrapper :=
  if info.isArray then (false, w)
  else match info.type with
    | .none => (false, w)
    | .bool => (true, w.setInRange info.id (.bool valueInput.toBool) true)
    | .byte min max =>
        let v := valueInput.toUInt8
        (true, w.setInRange info.id (.byte v) (min ≤ v && v ≤ max))
    | .unsigned16 min max =>
        let v := valueInput.toUInt16
        (true, w.setInRange info.id (.unsigned16 v) (min ≤ v && v ≤ max))
    | .integer32 min max =>
        let v := valueInput.toInt32
        (true, w.setInRange info.id (.integer32 v) (min ≤ v && v ≤ max))
    | .integer64 min max =>
        let v := valueInput.toInt64
        (true, w.setInRange info.id (.integer64 v) (min ≤ v && v ≤ max))
    | .float min max =>
        let v := valueInput.toFloat32
        (true, w.setInRange info.id (.float v) !(v < min || max < v))
    | .string => (true, w.setInRange info.id (.string valueInput.toString) true)
    | _ => (true, w)

/-- A control which the camera does not have is refused. -/
def setControlNumeric (name : String) (valueInput : Numeric) (w : LibCameraWrapper) :
    Bool × LibCameraWrapper :=
  match w.controlsInfo.find? fun info => info.name = name with
  | none => (false, w)
  | some info => setControl info valueInput w

/-- One entry of the section for the controls. -/
def applyControl (key : String) (value : Json) (w : LibCameraWrapper) : LibCameraWrapper :=
  if key.front = '_' then w
  else match value with
    | .boolean value => (setControlNumeric key (.bool value) w).2
    | .numberFloat value => (setControlNumeric key (.float value.toFloat32) w).2
    | .numberInteger value => (setControlNumeric key (.int32 value.toInt32) w).2
    | .numberUnsigned value => (setControlNumeric key (.int32 value.toUInt32.toInt32) w).2
    | _ => w

/-- The defaults of the section for the trigger, which every start begins with. -/
def resetTrigger (w : LibCameraWrapper) : LibCameraWrapper :=
  { w with
    triggerMode := .internal
    triggerGpioPin := -1
    gpioChipPath := "/dev/gpiochip0"
    maxFrameAgeNs := 500000000 }

/-- Any other text than these two means the internal trigger. -/
def setTriggerMode (mode : String) (w : LibCameraWrapper) : LibCameraWrapper :=
  if mode = "NEAREST_FRAME" then { w with triggerMode := .nearestFrame }
  else if mode = "XVS_HARD" then { w with triggerMode := .xvsHard }
  else w

/-- Read a member of the configuration if there is one. -/
def readMember {Value : Type} (key : String) (json : Json) (get : Json → Except String Value)
    (store : Value → LibCameraWrapper → LibCameraWrapper) : Code Unit :=
  match json.member key with
  | none => pure ()
  | some json => do
      let value ← .ofExcept (get json)
      .modify (store value)

/-- The members are read one by one, and each is stored before the next one is read. A
member of the wrong type throws. -/
def readTrigger (config : Json) : Code Unit := do
  .modify resetTrigger
  match config.member "trigger" with
  | none => pure ()
  | some tc =>
      let mode ← .ofExcept (tc.value "mode" "INTERNAL")
      .modify (setTriggerMode mode)
      readMember "gpioPin" tc Json.getInt32 fun pin w => { w with triggerGpioPin := pin }
      readMember "gpioChip" tc Json.getString fun path w => { w with gpioChipPath := path }
      readMember "maxFrameAgeMs" tc Json.getUInt32 fun age w =>
        { w with maxFrameAgeNs := age.toUInt64 * 1000000 }

/-- Start the camera manager and take the camera with this number from it. -/
def acquire (surroundings : Surroundings) (camNo : Nat) : Code Bool :=
  match surroundings.cameras[camNo]? with
  | none => do
      .modify fun w => { w with cm := some ⟨false⟩ }
      return false
  | some id => do
      .modify fun w => { w with cm := some ⟨true⟩, camera := some ⟨id, none, []⟩ }
      return true

/-- Allocate and map the buffers, and make a request of each. -/
def allocate (surroundings : Surroundings) (w : LibCameraWrapper) : LibCameraWrapper :=
  { w with
    allocator := some surroundings.buffers
    mappedBuffers := surroundings.buffers.foldl (fun mapped buffer =>
      Function.update mapped buffer.address
        (mapped buffer.address ++ mapPlanes 0 buffer.planes)) w.mappedBuffers
    requests := surroundings.buffers.map FrameBuffer.address
    controlsInfo := surroundings.controls }

/-- The section for the controls, in the order of the file. -/
def setControls (config : Json) (w : LibCameraWrapper) : LibCameraWrapper :=
  match config.member "picamera" with
  | none => w
  | some controls => controls.items.foldl (fun w (key, value) => applyControl key value w) w

/-- The time between two frames. Without it the old one stays. -/
def readRate (config : Json) : Code Unit :=
  readMember "rateMs" config Json.getUInt32 fun rateMs w => { w with rateMs := rateMs }

/-- The id of the control for the synchronisation of the sensor. -/
def frameSyncId : UInt32 := 0x009e0021

/-- Put the sensor into slave mode. -/
def setFrameSync (w : LibCameraWrapper) : LibCameraWrapper :=
  if w.triggerMode = .xvsHard then
    { w with controlList := w.controlList.set frameSyncId (.integer32 1) }
  else w

/-- Ask for the edges of the PPS signal; without them the trigger is internal. -/
def watchPps (surroundings : Surroundings) (w : LibCameraWrapper) : LibCameraWrapper :=
  if w.triggerMode = .internal then w
  else if w.triggerGpioPin < 0 then { w with triggerMode := .internal }
  else if !surroundings.chipOpen w.gpioChipPath then
    { w with triggerMode := .internal, ppsChip := none }
  else if !surroundings.getLine w.gpioChipPath w.triggerGpioPin ||
      !surroundings.requestRisingEdgeEvents w.gpioChipPath w.triggerGpioPin then
    { w with triggerMode := .internal, ppsChip := none, ppsLine := none }
  else { w with ppsChip := some w.gpioChipPath, ppsLine := some w.triggerGpioPin }

def startCamera (w : LibCameraWrapper) : LibCameraWrapper :=
  { w with
    running := true
    camera := w.camera.map fun camera => { camera with started := some w.controlList }
    ppsPending := if w.triggerMode = .internal then w.ppsPending else false
    ppsThread := w.ppsThread || w.triggerMode ≠ .internal }

def start (surroundings : Surroundings) (camNo : Nat) (config : Json) : Code Bool := do
  readTrigger config
  let available ← acquire surroundings camNo
  if available then do
    .modify (allocate surroundings)
    .modify (setControls config)
    readRate config
    .modify setFrameSync
    .modify (watchPps surroundings)
    .modify startCamera
    return true
  else return false

def stopCamera (w : LibCameraWrapper) : LibCameraWrapper :=
  match w.camera with
  | none => w
  | some _ => { w with requests := [], camera := none, allocator := none }

/-- The camera manager is stopped without a test. -/
def stop : Code Unit := do
  .modify fun w =>
    { w with running := false, ppsThread := false, ppsChip := none, ppsLine := none }
  .modify stopCamera
  let cm ← .read LibCameraWrapper.cm
  match cm with
  | none => .fault "m_cm"
  | some _ => .modify fun w => { w with cm := none }

def capture (oneFrame : Bool) : Code Unit := do
  .modify fun w => { w with oneFrame := oneFrame, ppsPending := false }
  let w ← .read id
  match w.camera with
  | none => if w.requests.isEmpty then pure () else .fault "m_camera"
  | some camera =>
      .modify fun w =>
        { w with camera := some { camera with queued := camera.queued ++ w.requests } }

section Controls

/-- A function which sets some controls of a camera, whatever is set already. -/
def SetsControls (infos : List ControlInfo) (f : LibCameraWrapper → LibCameraWrapper) : Prop :=
  ∃ added : ControlList, ∀ w, w.controlsInfo = infos →
    f w = { w with controlList := overlay added w.controlList }

variable {infos : List ControlInfo} {f g : LibCameraWrapper → LibCameraWrapper}

theorem SetsControls.id : SetsControls infos id := ⟨fun _ => none, fun _ _ => rfl⟩

theorem SetsControls.comp (hf : SetsControls infos f) (hg : SetsControls infos g) :
    SetsControls infos (g ∘ f) := by
  obtain ⟨first, hf⟩ := hf
  obtain ⟨second, hg⟩ := hg
  refine ⟨overlay second first, fun w hw => ?_⟩
  have hLater : ({ w with controlList := overlay first w.controlList } :
      LibCameraWrapper).controlsInfo = infos := hw
  rw [Function.comp_apply, hf w hw, hg _ hLater, overlay_assoc]

theorem SetsControls.setInRange (id : UInt32) (value : ControlValue) (inRange : Bool) :
    SetsControls infos fun w => w.setInRange id value inRange := by
  cases inRange with
  | false => exact .id
  | true =>
      refine ⟨ControlList.set id value fun _ => none, fun w _ => ?_⟩
      simp only [LibCameraWrapper.setInRange, if_true, ControlList.set]
      rw [update_eq_overlay]

theorem SetsControls.setControl (info : ControlInfo) (valueInput : Numeric) :
    SetsControls infos fun w => (setControl info valueInput w).2 := by
  unfold LibCameraWrapper.setControl
  split
  · exact .id
  · split
    case h_1 | h_9 => exact .id
    all_goals
      dsimp only
      exact .setInRange _ _ _

theorem SetsControls.applyControl (key : String) (value : Json) :
    SetsControls infos (applyControl key value) := by
  have hNumeric : ∀ valueInput, SetsControls infos fun w =>
      (setControlNumeric key valueInput w).2 := by
    intro valueInput
    cases hInfo : infos.find? fun info => info.name = key with
    | none =>
        refine ⟨fun _ => none, fun w hw => ?_⟩
        rw [← hw] at hInfo
        simp only [setControlNumeric, hInfo]
        rfl
    | some info =>
        obtain ⟨added, hAdded⟩ := @SetsControls.setControl infos info valueInput
        refine ⟨added, fun w hw => ?_⟩
        rw [← hAdded w hw]
        rw [← hw] at hInfo
        simp only [setControlNumeric, hInfo]
  unfold LibCameraWrapper.applyControl
  split
  · exact .id
  · cases value with
    | boolean value => exact hNumeric _
    | numberFloat value => exact hNumeric _
    | numberInteger value => exact hNumeric _
    | numberUnsigned value => exact hNumeric _
    | _ => exact .id

theorem SetsControls.setControls (config : Json) : SetsControls infos (setControls config) := by
  unfold LibCameraWrapper.setControls
  cases config.member "picamera" with
  | none => exact .id
  | some controls =>
      simp only
      induction controls.items with
      | nil => exact .id
      | cons entry rest ih => exact (SetsControls.applyControl entry.1 entry.2).comp ih

/-- The section for the controls reaches the list of controls only. -/
theorem setControls_eq (config : Json) (w : LibCameraWrapper) :
    ∃ controls, setControls config w = { w with controlList := controls } := by
  obtain ⟨added, hAdded⟩ := @SetsControls.setControls w.controlsInfo config
  exact ⟨_, hAdded w rfl⟩

end Controls

end LibCameraWrapper

end Mandeye.LibCamera
