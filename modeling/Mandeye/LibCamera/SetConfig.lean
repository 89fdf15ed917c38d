import Mandeye.LibCamera.LibCameraWrapper

/-! Requests which set the configuration of the running camera. The camera is
stopped before the new configuration has been read. -/
namespace Mandeye.LibCamera.SetConfig

open Exceptions LibCameraWrapper

/-- The two codes with which the handler answers. -/
inductive HttpCode where
  | ok
  | badRequest
  deriving DecidableEq

/-- What is answered to a request. -/
structure Response where
  code : HttpCode
  text : String

/-- A request, with what the libraries answer while it is handled. -/
structure Request where
  body : String
  surroundings : Surroundings

/-- The configuration which a camera is streaming with. -/
structure Configuration where
  id : String
  controls : ControlList
  rateMs : UInt32
  triggerMode : TriggerMode
  triggerGpioPin : Int32
  gpioChipPath : String
  maxFrameAgeNs : UInt64
  oneFrame : Bool

/-- What the camera is streaming with, if it is. -/
def streaming (w : LibCameraWrapper) : Option Configuration :=
  w.camera.bind fun camera => camera.started.map fun controls =>
    ⟨camera.id, controls, w.rateMs, w.triggerMode, w.triggerGpioPin, w.gpioChipPath,
      w.maxFrameAgeNs, w.oneFrame⟩

theorem streaming_isSome (w : LibCameraWrapper) :
    (streaming w).isSome = w.camera.any fun camera => camera.started.isSome := by
  unfold streaming
  cases w.camera with
  | none => rfl
  | some camera => exact Option.isSome_map

section Types

/-- The section for the trigger is an object whose members can be read. -/
def sectionTyped (tc : Json) : Bool :=
  (tc.isObject && (tc.member "mode").all Json.isString) &&
    ((tc.member "gpioPin").all Json.isNumeric &&
      ((tc.member "gpioChip").all Json.isString &&
        (tc.member "maxFrameAgeMs").all Json.isNumeric))

/-- The section may be missing. -/
def triggerTyped (config : Json) : Bool := (config.member "trigger").all sectionTyped

/-- So may the rate. -/
def rateTyped (config : Json) : Bool := (config.member "rateMs").all Json.isNumeric

/-- The configuration can be read to its end. -/
def wellTyped (config : Json) : Bool := triggerTyped config && rateTyped config

end Types

section Handler

variable (parse : String → Except String Json) (cameraNo : Nat)

/-- The camera is stopped before anything of the configuration is read but its syntax. -/
def setConfig (surroundings : Surroundings) (body : String) : Code Response := do
  let config ← .ofExcept (parse body)
  stop
  let _ ← start surroundings cameraNo config
  capture false
  return ⟨.ok, "OK"⟩

/-- A body posted to `/setConfig`. -/
def onRequest (request : Request) : Code Response :=
  if request.body.isEmpty then return ⟨.badRequest, "Empty body"⟩
  else .handle (setConfig parse cameraNo request.surroundings request.body)
    fun _ => return ⟨.badRequest, "Invalid JSON"⟩

/-- The camera manager is there when it is stopped, and a request which is
refused changes nothing about the camera. -/
structure Kept (request : Request) (w : LibCameraWrapper) : Prop where
  stop : onRequest parse cameraNo request w ≠ .faults "m_cm"
  refused : ∀ response w', onRequest parse cameraNo request w = .returns response w' →
    response.code = .badRequest → streaming w' = streaming w

/-- The same for request after request. -/
def KeptThroughout : List Request → LibCameraWrapper → Prop
  | [], _ => True
  | request :: rest, w => Kept parse cameraNo request w ∧
      ∀ response w', onRequest parse cameraNo request w = .returns response w' →
        KeptThroughout rest w'

/-- A body which is empty, or no JSON, or a configuration of the right types. -/
def Acceptable (body : String) : Prop :=
  body.isEmpty = true ∨ ∀ config, parse body = .ok config → wellTyped config = true

end Handler

section Start

theorem checks_readMember {Value : Type} {key : String} {json : Json}
    {get : Json → Except String Value} {store : Value → LibCameraWrapper → LibCameraWrapper}
    {typed : Json → Bool} {P : LibCameraWrapper → Prop}
    (hGet : ∀ json, (get json).isOk = typed json) (hStore : ∀ value w, P w → P (store value w)) :
    Code.Checks P ((json.member key).all typed) (readMember key json get store) := by
  unfold readMember
  cases json.member key with
  | none => exact .pure
  | some json =>
      have hRead : Code.Checks P ((get json).isOk && true)
          (do
            let value ← .ofExcept (get json)
            .modify (store value)) :=
        .bind (.ofExcept (get json)) fun value => .modify (hStore value)
      rw [Bool.and_true, hGet json] at hRead
      exact hRead

/-- There is no camera, and there are no requests to it. -/
structure Idle (w : LibCameraWrapper) : Prop where
  camera : w.camera = none
  requests : w.requests = []

theorem checks_readTrigger (config : Json) :
    Code.Checks Idle (triggerTyped config) (readTrigger config) := by
  unfold readTrigger triggerTyped
  have hReset : Code.Checks Idle true (.modify resetTrigger) := .modify fun w hw => ⟨hw.1, hw.2⟩
  cases config.member "trigger" with
  | none => exact hReset.bind fun _ => .pure
  | some tc =>
      have hMode : ∀ mode, Code.Checks Idle true (.modify (setTriggerMode mode)) := by
        refine fun mode => .modify fun w hw => ?_
        unfold setTriggerMode
        split
        · exact ⟨hw.camera, hw.requests⟩
        · split
          · exact ⟨hw.camera, hw.requests⟩
          · exact hw
      have hValue : Code.Checks Idle (tc.isObject && (tc.member "mode").all Json.isString)
          (.ofExcept (tc.value "mode" "INTERNAL")) := by
        rw [← Json.value_isOk "mode" "INTERNAL"]
        exact .ofExcept _
      refine hReset.bind fun _ => hValue.bind fun mode => (hMode mode).bind fun _ => ?_
      refine (checks_readMember Json.getInt32_isOk ?_).bind fun _ =>
        (checks_readMember Json.getString_isOk ?_).bind fun _ =>
          checks_readMember Json.getUInt32_isOk ?_
      all_goals exact fun _ _ hw => ⟨hw.camera, hw.requests⟩

/-- The camera has been taken and has not been started. -/
structure Acquired (w : LibCameraWrapper) : Prop where
  cm : w.cm.isSome = true
  camera : ∃ id queued, w.camera = some ⟨id, none, queued⟩

theorem Acquired.not_streaming {w : LibCameraWrapper} (h : Acquired w) : streaming w = none := by
  obtain ⟨id, queued, hCamera⟩ := h.camera
  rw [streaming, hCamera]
  rfl

theorem Acquired.of_eq {w w' : LibCameraWrapper} (h : Acquired w) (hCm : w'.cm = w.cm)
    (hCamera : w'.camera = w.camera) : Acquired w' := by
  refine ⟨?_, ?_⟩
  · rw [hCm]
    exact h.cm
  · rw [hCamera]
    exact h.camera

theorem acquired_watchPps (surroundings : Surroundings) (w : LibCameraWrapper) (h : Acquired w) :
    Acquired (watchPps surroundings w) := by
  unfold watchPps
  repeat' split
  all_goals exact h.of_eq rfl rfl

theorem acquired_setFrameSync (w : LibCameraWrapper) (h : Acquired w) :
    Acquired (setFrameSync w) := by
  unfold setFrameSync
  split
  · exact h.of_eq rfl rfl
  · exact h

theorem acquired_setControls (config : Json) (w : LibCameraWrapper) (h : Acquired w) :
    Acquired (setControls config w) := by
  obtain ⟨controls, hControls⟩ := setControls_eq config w
  rw [hControls]
  exact h.of_eq rfl rfl

theorem Acquired.startCamera {w : LibCameraWrapper} (h : Acquired w) :
    (w.startCamera.cm.isSome = true) ∧ (streaming w.startCamera).isSome = true := by
  obtain ⟨id, queued, hCamera⟩ := h.camera
  refine ⟨h.cm, ?_⟩
  simp only [streaming, LibCameraWrapper.startCamera, hCamera]
  rfl

variable (surroundings : Surroundings) (cameraNo : Nat)

/-- The camera is streaming, or there is none. -/
structure Started (available : Bool) (w : LibCameraWrapper) : Prop where
  cm : w.cm.isSome = true
  camera : if available then (streaming w).isSome = true
    else surroundings.cameras[cameraNo]? = none ∧ Idle w

theorem triple_acquire :
    Code.Triple Idle (acquire surroundings cameraNo)
      (fun available w =>
        if available then Acquired w else Started surroundings cameraNo false w)
      fun _ => False := by
  unfold acquire
  cases hCamera : surroundings.cameras[cameraNo]? with
  | none => exact fun w hw => ⟨rfl, hCamera, hw.camera, hw.requests⟩
  | some id => exact fun w hw => ⟨rfl, id, [], rfl⟩

theorem checks_readRate (config : Json) :
    Code.Checks Acquired (rateTyped config) (readRate config) :=
  checks_readMember Json.getUInt32_isOk fun _ _ hw => hw.of_eq rfl rfl

theorem triple_start (config : Json) :
    Code.Triple Idle (start surroundings cameraNo config)
      (fun available w => Started surroundings cameraNo available w ∧
        (available = true → wellTyped config = true))
      fun w => wellTyped config = false ∧ streaming w = none := by
  have hTrigger : Code.Triple Idle (readTrigger config)
      (fun _ w => triggerTyped config = true ∧ Idle w)
      fun w => wellTyped config = false ∧ streaming w = none := by
    apply (checks_readTrigger config).throws
    intro w hw
    rw [wellTyped, hw.1, streaming, hw.2.camera]
    exact ⟨rfl, rfl⟩
  have hRate : Code.Triple Acquired (readRate config)
      (fun _ w => rateTyped config = true ∧ Acquired w)
      fun w => wellTyped config = false ∧ streaming w = none := by
    apply (checks_readRate config).throws
    intro w hw
    rw [wellTyped, hw.1, Bool.and_false]
    exact ⟨rfl, hw.2.not_streaming⟩
  refine hTrigger.bind fun _ => .of_fact fun hTriggerTyped => ?_
  refine Code.Triple.bind (triple_acquire surroundings cameraNo).total fun available => ?_
  cases available with
  | false => exact .pure fun w hw => ⟨hw, nofun⟩
  | true =>
      have hAllocate : Code.Triple Acquired (.modify (allocate surroundings)) (fun _ => Acquired)
          fun w => wellTyped config = false ∧ streaming w = none :=
        .modify fun _ hw => hw.of_eq rfl rfl
      refine hAllocate.bind fun _ => ?_
      refine Code.Triple.bind (.update (acquired_setControls config)) fun _ => ?_
      refine hRate.bind fun _ => .of_fact fun hRateTyped => ?_
      have hTyped : wellTyped config = true := by rw [wellTyped, hTriggerTyped, hRateTyped]; rfl
      refine Code.Triple.bind (.update acquired_setFrameSync) fun _ => ?_
      refine Code.Triple.bind (.update (acquired_watchPps surroundings)) fun _ => ?_
      refine Code.Triple.bind (Q := fun _ => Started surroundings cameraNo true) (.modify ?_)
        fun _ => .pure fun w hw => ⟨hw, fun _ => hTyped⟩
      exact fun w hw => ⟨hw.startCamera.1, hw.startCamera.2⟩

/-- The camera manager is there, and requests only go to a camera. -/
structure Sound (w : LibCameraWrapper) : Prop where
  cm : w.cm.isSome = true
  requests : w.camera = none → w.requests = []

theorem triple_stop : Code.Triple Sound stop (fun _ => Idle) fun _ => False := by
  refine Code.Triple.bind (.update fun w hw => ⟨hw.cm, hw.requests⟩) fun _ => ?_
  refine Code.Triple.bind (Q := fun _ w => w.cm.isSome = true ∧ Idle w) (.modify ?_) fun _ => ?_
  · intro w hw
    unfold stopCamera
    cases hCamera : w.camera with
    | none => exact ⟨hw.cm, hCamera, hw.requests hCamera⟩
    | some camera => exact ⟨hw.cm, rfl, rfl⟩
  · refine Code.Triple.bind (Q := fun cm w => cm.isSome = true ∧ Idle w)
      (.read fun w hw => hw) fun cm => .of_fact fun hCm => ?_
    cases cm with
    | none => cases hCm
    | some cm => exact .modify fun w hw => ⟨hw.camera, hw.requests⟩

theorem Started.of_eq {available : Bool} {w w' : LibCameraWrapper}
    (h : Started surroundings cameraNo available w) (hCm : w'.cm = w.cm)
    (hCamera : w'.camera = w.camera) (hRequests : w'.requests = w.requests) :
    Started surroundings cameraNo available w' := by
  refine ⟨by rw [hCm]; exact h.cm, ?_⟩
  have hBefore := h.camera
  cases available with
  | true =>
      change (streaming w').isSome = true
      rw [streaming_isSome, hCamera, ← streaming_isSome]
      exact hBefore
  | false => exact ⟨hBefore.1, hCamera.trans hBefore.2.camera, hRequests.trans hBefore.2.requests⟩

/-- The requests are queued to a camera, and nothing happens without one. -/
theorem triple_capture (available oneFrame : Bool) :
    Code.Triple (Started surroundings cameraNo available) (capture oneFrame)
      (fun _ w => Sound w ∧ Started surroundings cameraNo available w) fun _ => False := by
  refine Code.Triple.bind (.update fun w hw => hw.of_eq _ _ rfl rfl rfl) fun _ => ?_
  refine Code.Triple.bind
    (Q := fun before w => w = before ∧ Started surroundings cameraNo available before)
    (.read fun w hw => ⟨rfl, hw⟩) fun before => ?_
  cases hCamera : before.camera with
  | none =>
      rintro w ⟨rfl, hStarted⟩
      cases available with
      | true =>
          have hStreaming := hStarted.camera
          simp [streaming_isSome, hCamera] at hStreaming
      | false =>
          have hRequests := hStarted.camera.2.requests
          change Exit.Meets _ _
            ((if w.requests.isEmpty then pure () else Code.fault "m_camera") w)
          rw [hRequests]
          exact ⟨⟨hStarted.cm, fun _ => hRequests⟩, hStarted⟩
  | some camera =>
      rintro w ⟨rfl, hStarted⟩
      refine ⟨⟨hStarted.cm, nofun⟩, hStarted.cm, ?_⟩
      cases available with
      | true =>
          have hStreaming : (streaming w).isSome = true := hStarted.camera
          change (streaming _).isSome = true
          rw [streaming_isSome] at hStreaming ⊢
          rw [hCamera] at hStreaming
          exact hStreaming
      | false =>
          have hNone := hStarted.camera.2.camera
          rw [hCamera] at hNone
          cases hNone

end Start

section Requests

variable (parse : String → Except String Json) (cameraNo : Nat)

/-- The answer to a request, and what has become of the camera. -/
inductive Answered (request : Request) (before : LibCameraWrapper) :
    Response → LibCameraWrapper → Prop where
  | refused (text : String) (hAcceptable : Acceptable parse request.body) :
      Answered request before ⟨.badRequest, text⟩ before
  | configured {w : LibCameraWrapper} (text : String) (hSound : Sound w)
      (hCamera : request.surroundings.cameras[cameraNo]? ≠ none →
        Acceptable parse request.body ∧ (streaming w).isSome = true) :
      Answered request before ⟨.ok, text⟩ w
  | broken {w : LibCameraWrapper} (text : String) (hTypes : ¬Acceptable parse request.body)
      (hStreaming : streaming w = none) : Answered request before ⟨.badRequest, text⟩ w

variable {parse}

/-- The old configuration is lost exactly if the new one has the wrong types. -/
theorem triple_setConfig {request : Request} {config : Json}
    (hParse : parse request.body = .ok config) :
    Code.Triple Sound (setConfig parse cameraNo request.surroundings request.body)
      (fun response w => response.code = .ok ∧ Sound w ∧
        (request.surroundings.cameras[cameraNo]? ≠ none →
          wellTyped config = true ∧ (streaming w).isSome = true))
      fun w => wellTyped config = false ∧ streaming w = none := by
  unfold setConfig
  rw [hParse]
  refine Code.Triple.bind (Q := fun parsed w => parsed = config ∧ Sound w)
    (fun w hw => ⟨rfl, hw⟩) fun parsed => .of_fact fun hParsed => ?_
  subst hParsed
  refine Code.Triple.bind triple_stop.total fun _ => ?_
  refine (triple_start request.surroundings cameraNo parsed).bind fun available => ?_
  have hCapture := triple_capture request.surroundings cameraNo available false
  refine Code.Triple.mono (Code.Triple.of_fact fun hTyped => hCapture.total.bind fun _ => .pure ?_)
    (fun _ hw => ⟨hw.2, hw.1⟩) (fun _ _ hw => hw) fun _ hw => hw
  intro w hw
  refine ⟨rfl, hw.1, fun hThere => ?_⟩
  cases available with
  | true => exact ⟨hTyped rfl, hw.2.camera⟩
  | false => exact absurd hw.2.camera.1 hThere

/-- A request is always answered. -/
theorem triple_onRequest (request : Request) {before : LibCameraWrapper} (hBefore : Sound before) :
    Code.Triple (· = before) (onRequest parse cameraNo request)
      (Answered parse cameraNo request before) fun _ => False := by
  unfold onRequest
  cases hEmpty : request.body.isEmpty with
  | true =>
      rintro _ rfl
      exact .refused _ (.inl hEmpty)
  | false =>
      cases hParse : parse request.body with
      | error what =>
          refine Code.Triple.handle (E := (· = before)) ?_ fun what => .pure ?_
          · unfold setConfig
            rw [hParse]
            exact fun w hw => hw
          · rintro _ rfl
            exact .refused _ (.inr (by simp [hParse]))
      | ok config =>
          have hTypes : Acceptable parse request.body ↔ wellTyped config = true := by
            simp [Acceptable, hEmpty, hParse]
          refine Code.Triple.handle (E := fun w => wellTyped config = false ∧ streaming w = none)
            ?_ fun what => .pure fun w hw => ?_
          · refine (triple_setConfig cameraNo hParse).mono ?_ ?_ fun _ hw => hw
            · rintro _ rfl
              exact hBefore
            · rintro ⟨_, text⟩ w ⟨rfl, hSound, hCamera⟩
              refine .configured text hSound fun hThere => ?_
              exact ⟨hTypes.mpr (hCamera hThere).1, (hCamera hThere).2⟩
          · refine .broken _ (fun hAcceptable => ?_) hw.2
            rw [hTypes.mp hAcceptable] at hw
            cases hw.1

variable {cameraNo}

section Steps

variable {request : Request} {before : LibCameraWrapper}

theorem onRequest_answered (hBefore : Sound before) : ∃ response w,
    onRequest parse cameraNo request before = .returns response w ∧
      Answered parse cameraNo request before response w := by
  have hMeets := @triple_onRequest parse cameraNo request before hBefore before rfl
  cases hExit : onRequest parse cameraNo request before with
  | returns response w =>
      rw [hExit] at hMeets
      exact ⟨response, w, rfl, hMeets⟩
  | throws what w =>
      rw [hExit] at hMeets
      cases hMeets
  | faults pointer =>
      rw [hExit] at hMeets
      cases hMeets

theorem kept_of_acceptable (hBefore : Sound before)
    (hAcceptable : Acceptable parse request.body) :
    Kept parse cameraNo request before ∧
      ∀ response w, onRequest parse cameraNo request before = .returns response w → Sound w := by
  obtain ⟨response, w, hExit, hAnswered⟩ := @onRequest_answered parse cameraNo request _ hBefore
  have hStop : onRequest parse cameraNo request before ≠ .faults "m_cm" := by
    rw [hExit]
    nofun
  cases hAnswered with
  | refused text _ =>
      refine ⟨⟨hStop, fun response w h _ => ?_⟩, fun response w h => ?_⟩
      · rw [hExit] at h
        cases h
        rfl
      · rw [hExit] at h
        cases h
        exact hBefore
  | configured text hSound _ =>
      refine ⟨⟨hStop, fun response w h hCode => ?_⟩, fun response w h => ?_⟩
      · rw [hExit] at h
        cases h
        cases hCode
      · rw [hExit] at h
        cases h
        exact hSound
  | broken text hTypes _ => exact absurd hAcceptable hTypes

/-- A configuration of the wrong types does not leave a streaming camera alone. -/
theorem acceptable_of_kept (hBefore : Sound before)
    (hStreaming : (streaming before).isSome = true)
    (hCamera : request.surroundings.cameras[cameraNo]? ≠ none)
    (hKept : Kept parse cameraNo request before) :
    Acceptable parse request.body ∧ ∃ response w,
      onRequest parse cameraNo request before = .returns response w ∧ Sound w ∧
        (streaming w).isSome = true := by
  obtain ⟨response, w, hExit, hAnswered⟩ := @onRequest_answered parse cameraNo request _ hBefore
  cases hAnswered with
  | refused text hAcceptable => exact ⟨hAcceptable, _, _, hExit, hBefore, hStreaming⟩
  | configured text hSound hConfigured =>
      exact ⟨(hConfigured hCamera).1, _, _, hExit, hSound, (hConfigured hCamera).2⟩
  | broken text _ hNone =>
      have hSame := hKept.refused _ _ hExit rfl
      rw [hNone] at hSame
      rw [← hSame] at hStreaming
      cases hStreaming

end Steps

theorem keptThroughout_of_acceptable {w : LibCameraWrapper} (hSound : Sound w)
    {requests : List Request} (h : ∀ request ∈ requests, Acceptable parse request.body) :
    KeptThroughout parse cameraNo requests w := by
  induction requests generalizing w with
  | nil => trivial
  | cons request rest ih =>
      obtain ⟨hKept, hNext⟩ := @kept_of_acceptable parse cameraNo request w hSound
        (h request List.mem_cons_self)
      refine ⟨hKept, fun response w' hExit => ih (hNext response w' hExit) fun other hOther => ?_⟩
      exact h other (List.mem_cons_of_mem _ hOther)

theorem acceptable_of_keptThroughout {w : LibCameraWrapper} (hSound : Sound w)
    (hStreaming : (streaming w).isSome = true) {requests : List Request}
    (hCamera : ∀ request ∈ requests, request.surroundings.cameras[cameraNo]? ≠ none)
    (h : KeptThroughout parse cameraNo requests w) :
    ∀ request ∈ requests, Acceptable parse request.body := by
  induction requests generalizing w with
  | nil => exact nofun
  | cons request rest ih =>
      obtain ⟨hKept, hNext⟩ := h
      obtain ⟨hAcceptable, response, w', hExit, hSound', hStreaming'⟩ :=
        acceptable_of_kept hSound hStreaming (hCamera request List.mem_cons_self) hKept
      have hRest := ih hSound' hStreaming'
        (fun other hOther => hCamera other (List.mem_cons_of_mem _ hOther))
        (hNext response w' hExit)
      exact List.forall_mem_cons.mpr ⟨hAcceptable, hRest⟩

/-- A camera keeps streaming with the configuration which it was given last if
no request has the wrong types. As long as the camera is connected, it does not
otherwise. -/
theorem requests_keep_camera {w : LibCameraWrapper} (hSound : Sound w)
    (hStreaming : (streaming w).isSome = true) (requests : List Request) :
    ((∀ request ∈ requests, Acceptable parse request.body) →
      KeptThroughout parse cameraNo requests w) ∧
    ((∀ request ∈ requests, request.surroundings.cameras[cameraNo]? ≠ none) →
      KeptThroughout parse cameraNo requests w →
        ∀ request ∈ requests, Acceptable parse request.body) :=
  ⟨keptThroughout_of_acceptable hSound, acceptable_of_keptThroughout hSound hStreaming⟩

end Requests

theorem acceptable_of_ok {parse : String → Except String Json} {body : String} {config : Json}
    (hParse : parse body = .ok config) (hTypes : wellTyped config = true) :
    Acceptable parse body := by
  refine .inr fun config' hConfig => ?_
  cases hParse.symm.trans hConfig
  exact hTypes

theorem acceptable_of_error {parse : String → Except String Json} {body what : String}
    (hParse : parse body = .error what) : Acceptable parse body :=
  .inr fun _ hConfig => nomatch hParse.symm.trans hConfig

/-- A camera which has been started with its own settings. -/
def streamingCamera : LibCameraWrapper :=
  { new with cm := some ⟨true⟩, camera := some ⟨"imx477", some fun _ => none, []⟩, running := true }

/-- The libraries answer for one camera, and no pin fails. -/
def connected : Surroundings :=
  ⟨["imx477"], [], [], fun _ => true, fun _ _ => true, fun _ _ => true⟩

/-- The pin is a string in this body. -/
def pinBody : String := "\x7b\"trigger\": \x7b\"gpioPin\": \"17\"\x7d\x7d"

/-- All members are missing in this one. -/
def emptyBody : String := "\x7b\x7d"

/-- All members are of the right types in this one. -/
def internalBody : String :=
  "\x7b\"trigger\": \x7b\"mode\": \"INTERNAL\", \"gpioPin\": 17\x7d, \"rateMs\": 500\x7d"

/-- What the parser answers to these bodies. -/
def parseBody (body : String) : Except String Json :=
  if body = pinBody then
    .ok (.object [("trigger", .object [("gpioPin", .string "17")])])
  else if body = internalBody then
    .ok (.object [("trigger", .object [("mode", .string "INTERNAL"),
      ("gpioPin", .numberUnsigned 17)]), ("rateMs", .numberUnsigned 500)])
  else if body = emptyBody then .ok (.object [])
  else .error "[json.exception.parse_error.101] parse error"

theorem requests_keep_camera_refusal :
    KeptThroughout parseBody 0 [⟨internalBody, connected⟩, ⟨"rateMs = 500", connected⟩,
      ⟨emptyBody, connected⟩] streamingCamera := by
  have hInternal : Acceptable parseBody internalBody := acceptable_of_ok rfl rfl
  have hRefused : Acceptable parseBody "rateMs = 500" := acceptable_of_error rfl
  have hDefaults : Acceptable parseBody emptyBody := acceptable_of_ok rfl rfl
  have hSound : Sound streamingCamera := ⟨rfl, fun _ => rfl⟩
  refine (requests_keep_camera hSound rfl _).1 ?_
  simp only [List.forall_mem_cons, List.not_mem_nil, false_implies, implies_true, and_true]
  exact ⟨hInternal, hRefused, hDefaults⟩

/-- The camera is gone after the request is refused, and so is its manager. -/
theorem camera_lost :
    ¬KeptThroughout parseBody 0 [⟨pinBody, connected⟩, ⟨emptyBody, connected⟩] streamingCamera ∧
      ∃ w, onRequest parseBody 0 ⟨pinBody, connected⟩ streamingCamera =
          .returns ⟨.badRequest, "Invalid JSON"⟩ w ∧
        streaming w = none ∧ onRequest parseBody 0 ⟨emptyBody, connected⟩ w = .faults "m_cm" := by
  have hRefused : onRequest parseBody 0 ⟨pinBody, connected⟩ streamingCamera =
      .returns ⟨.badRequest, "Invalid JSON"⟩ _ := rfl
  refine ⟨fun hKept => ?_, _, hRefused, rfl, rfl⟩
  have hSame := hKept.1.refused _ _ hRefused rfl
  cases hSame

end Mandeye.LibCamera.SetConfig
