import Mathlib.Data.Int.Order.Basic
import Mandeye.LibCamera.Mappings
import Mandeye.LibCamera.NearestFrame
import Mandeye.LibCamera.Restarts
import Mandeye.Throttle

/-! The frames of a camera which has been started. The camera completes the requests
which are queued one by one, and the handler decides which frames the callback gets. -/
namespace Mandeye.LibCamera.Frames

open Exceptions LibCameraWrapper Restarts Throttle

/-- The formats which are told apart. Another one than the two that can be decoded
is possible, since the start ignores what the validation of the format says. -/
inductive PixelFormat where
  | mjpeg
  | rgb888
  | other
  deriving DecidableEq

/-- A request which the camera completes, and the clocks at that time. -/
structure Completion where
  request : UInt64
  cancelled : Bool
  timestamp : UInt64
  realNs : UInt64
  monoNs : UInt64
  now : Int
  deriving DecidableEq

/-- What the callback gets: the memory of an image, and some of its metadata. -/
structure Photo where
  mem : Span
  reportTimestampNs : UInt64
  triggerMode : TriggerMode
  frameUtcNs : UInt64
  ppsUtcNs : Option UInt64
  deriving DecidableEq

/-- The wrapper while the camera is streaming, and the photos so far. -/
structure Stream where
  wrapper : LibCameraWrapper
  pixelFormat : PixelFormat
  frameStart : Int
  monoOffset : UInt64
  lastPpsNs : UInt64
  photos : List Photo

/-- Code over the stream. -/
abbrev Code := Exceptions.Code Stream

/-- Code of the wrapper, which leaves the rest of the stream alone. -/
def onWrapper {Result : Type} (code : LibCameraWrapper.Code Result) : Code Result := fun s =>
  match code s.wrapper with
  | .returns result w => .returns result { s with wrapper := w }
  | .throws what w => .throws what { s with wrapper := w }
  | .faults pointer => .faults pointer

/-- The time of the start counts as that of a frame. -/
def capture (oneFrame : Bool) (now : Int) : Code Unit := do
  .modify fun s => { s with frameStart := now }
  onWrapper (LibCameraWrapper.capture oneFrame)

/-- An assertion fails if the clock has been set to a time before the system was started. -/
def adjustSystemClock (c : Completion) : Code Unit :=
  if c.monoNs < c.realNs then .modify fun s => { s with monoOffset := c.realNs - c.monoNs }
  else .fault "real_ns > mono_ns"

/-- More than `rateMs` whole milliseconds have passed. -/
def isLate (rateMs : UInt32) (frameStart now : Int) : Bool :=
  (rateMs.toNat : Int) < (now - frameStart).tdiv 1000000

/-- The timestamp to report if the frame is kept. -/
def keepFrame (now : Int) (frameUtcNs : UInt64) : Code (Option UInt64) := do
  let s ← .read id
  match s.wrapper.triggerMode with
  | .internal =>
      if isLate s.wrapper.rateMs s.frameStart now then do
        .modify fun s => { s with frameStart := now }
        return some frameUtcNs
      else return none
  | .nearestFrame =>
      if s.wrapper.ppsPending &&
          NearestFrame.isNear s.wrapper.maxFrameAgeNs frameUtcNs s.lastPpsNs then do
        .modify fun s => { s with wrapper := { s.wrapper with ppsPending := false } }
        return some s.lastPpsNs
      else return none
  | .xvsHard => return some s.lastPpsNs

/-- Without a mapping of the buffer there is no memory to read from. -/
def forward (request frameUtcNs reportTimestampNs : UInt64) : Code Unit := do
  let s ← .read id
  if s.pixelFormat = .other then return ()
  else match s.wrapper.mappedBuffers request with
    | [] => .fault "mem[0]"
    | mem :: _ => .modify fun s =>
        { s with photos := s.photos ++ [{
            mem := mem
            reportTimestampNs := reportTimestampNs
            triggerMode := s.wrapper.triggerMode
            frameUtcNs := frameUtcNs
            ppsUtcNs := if s.wrapper.triggerMode = .internal then none else some s.lastPpsNs }] }

/-- The queue of the camera, in another order or with other requests. -/
def withQueue (f : List UInt64 → List UInt64) (w : LibCameraWrapper) : LibCameraWrapper :=
  { w with camera := w.camera.map fun camera => { camera with queued := f camera.queued } }

/-- A request goes back to the camera, unless a single frame was asked for. -/
def queueRequest (request : UInt64) : Code Unit := do
  let s ← .read id
  if s.wrapper.oneFrame then return ()
  else match s.wrapper.camera with
    | none => .fault "m_camera"
    | some _ => .modify fun s => { s with wrapper := withQueue (· ++ [request]) s.wrapper }

/-- The part of `requestComplete` which deals with a frame. -/
def handleFrame (c : Completion) : Code Unit := do
  let s ← .read id
  let frameUtcNs := c.timestamp + s.monoOffset
  let kept ← keepFrame c.now frameUtcNs
  match kept with
  | none => queueRequest c.request
  | some reportTimestampNs => do
      forward c.request frameUtcNs reportTimestampNs
      queueRequest c.request

/-- The clock is read first, also for a request which was cancelled. -/
def requestComplete (c : Completion) : Code Unit := do
  adjustSystemClock c
  if c.cancelled then queueRequest c.request else handleFrame c

/-- The requests which the camera holds. -/
def queued (w : LibCameraWrapper) : List UInt64 := (w.camera.map Camera.queued).getD []

/-- The stream when the camera has taken a request from its queue. -/
def Stream.take (request : UInt64) (s : Stream) : Stream :=
  { s with wrapper := withQueue (·.erase request) s.wrapper }

/-- The stream after a completion. Only requests which are queued are completed. -/
def complete (s : Stream) (c : Completion) : Option Stream :=
  if c.request ∈ queued s.wrapper then
    match requestComplete c (s.take c.request) with
    | .returns _ s' => some s'
    | _ => none
  else none

/-- The stream after these completions, if all of them are possible and none fails. -/
def run (s : Stream) (completions : List Completion) : Option Stream :=
  completions.foldlM complete s

section Specification

/-- The frames which are not discarded by the camera itself. -/
def frames (completions : List Completion) : List Completion :=
  completions.filter fun c => !c.cancelled

/-- After the start, and after each frame, the next one is more than so many whole
milliseconds later. -/
def Spread (rateMs : UInt32) (start : Int) (selected : List Completion) : Prop :=
  (start :: selected.map Completion.now).IsChain fun before now : Int =>
    before + ((rateMs.toNat : Int) + 1) * 1000000 ≤ now

/-- The photo of a frame, with the time at which the sensor took it. -/
structure Shows (w : LibCameraWrapper) (c : Completion) (photo : Photo) : Prop where
  mem : (w.mappedBuffers c.request).head? = some photo.mem
  reportTimestampNs : photo.reportTimestampNs = c.timestamp + (c.realNs - c.monoNs)
  triggerMode : photo.triggerMode = .internal
  frameUtcNs : photo.frameUtcNs = c.timestamp + (c.realNs - c.monoNs)
  ppsUtcNs : photo.ppsUtcNs = none

/-- The photos of frames which are kept. In a format that is not supported there are none. -/
def Brings (s : Stream) (kept : List Completion) (added : List Photo) : Prop :=
  if s.pixelFormat = .other then added = [] else List.Forall₂ (Shows s.wrapper) kept added

/-- The photos are those of as many frames as the rate permits, no request is lost or
queued twice, and whichever request is completed next, the stream goes on. -/
structure Throttled (s s' : Stream) (now : Int) (completions kept : List Completion) : Prop where
  photos : ∃ added, s'.photos = s.photos ++ added ∧ Brings s kept added
  sublist : kept.Sublist (frames completions)
  spread : Spread s.wrapper.rateMs now kept
  longest : ∀ other, other.Sublist (frames completions) →
    Spread s.wrapper.rateMs now other → other.length ≤ kept.length
  pool : (queued s'.wrapper).Perm s.wrapper.requests
  goesOn : ∀ c, c.request ∈ queued s'.wrapper → c.monoNs < c.realNs → (complete s' c).isSome

end Specification

section Rate

theorem isLate_iff {rateMs : UInt32} {frameStart now : Int} :
    isLate rateMs frameStart now = true ↔
      frameStart + ((rateMs.toNat : Int) + 1) * 1000000 ≤ now := by
  rw [isLate, decide_eq_true_eq]
  rcases Int.lt_or_le (now - frameStart) 0 with hEarly | hAge
  · have hBack : 0 ≤ (frameStart - now).tdiv 1000000 := Int.tdiv_nonneg (by omega) (by omega)
    rw [← Int.neg_sub, Int.neg_tdiv]
    omega
  · rw [Int.tdiv_eq_ediv_of_nonneg hAge]
    omega

theorem spread_iff {rateMs : UInt32} {start : Int} {selected : List Completion} :
    Spread rateMs start selected ↔ Spaced (isLate rateMs) Completion.now start selected := by
  simp only [Spread, Spaced, isLate_iff]

end Rate

section Start

variable {call : Start} {before w : LibCameraWrapper}

/-- The camera is there, with a request for each buffer and an empty queue. -/
structure Opened (call : Start) (w : LibCameraWrapper) : Prop where
  camera : ∃ camera, w.camera = some camera ∧ camera.queued = []
  requests : w.requests = call.surroundings.buffers.map FrameBuffer.address
  mapped : ∀ buffer ∈ call.surroundings.buffers, buffer.planes ≠ [] →
    w.mappedBuffers buffer.address ≠ []

theorem opened_of_accepted (h : call.accepted before = some w) : Opened call w := by
  unfold Start.accepted at h
  cases start_outcome call.surroundings call.camNo call.config with
  | refused what t hTyped hStart =>
      rw [hStart] at h
      cases h
  | unavailable t hNone hStart =>
      rw [hStart] at h
      cases h
  | rateRefused id t what hTyped hRate hCamera hStart =>
      rw [hStart] at h
      cases h
  | accepted id t hTyped hCamera hMode hStart =>
      rw [hStart] at h
      cases h
      have hMapped := (Mappings.configured_mappings call.surroundings id t call.config before).1
      obtain ⟨chip, line, hWatch, -⟩ := watchPps_eq call.surroundings
        (setFrameSync
          { prepared call.surroundings id t call.config before with
            rateMs := (rateOf call.config).getD before.rateMs })
      refine ⟨?_, ?_, fun buffer hBuffer hPlanes => ?_⟩
      · rw [configured, hWatch, setFrameSync_eq, prepared_eq]
        exact ⟨_, rfl, rfl⟩
      · rw [configured, hWatch, setFrameSync_eq, prepared_eq]
        rfl
      · rw [hMapped, Mappings.addMappings_apply]
        intro hNone
        have hSpans := (List.append_eq_nil_iff.mp hNone).2
        exact Mappings.spansAt_eq_nil_iff.mp hSpans buffer hBuffer hPlanes rfl

end Start

section Completions

variable {s s' : Stream} {c : Completion}

/-- A stream at a fixed rate which can go on. -/
structure Streaming (s : Stream) : Prop where
  triggerMode : s.wrapper.triggerMode = .internal
  oneFrame : s.wrapper.oneFrame = false
  camera : s.wrapper.camera ≠ none

/-- There is an image to read unless the format is not supported. -/
def Readable (s : Stream) (request : UInt64) : Prop :=
  s.pixelFormat ≠ .other → s.wrapper.mappedBuffers request ≠ []

def passes (s : Stream) (c : Completion) : Bool :=
  !c.cancelled && isLate s.wrapper.rateMs s.frameStart c.now

def requeued (request : UInt64) (s : Stream) : Stream :=
  { s with wrapper := withQueue (· ++ [request]) s.wrapper }

/-- The photos which the callback gets of a frame that is kept. -/
def shots (s : Stream) (request frameUtcNs : UInt64) : List Photo :=
  if s.pixelFormat = .other then []
  else (s.wrapper.mappedBuffers request).head?.toList.map fun mem =>
    ⟨mem, frameUtcNs, .internal, frameUtcNs, none⟩

/-- The stream when a frame has been dealt with. -/
def handled (c : Completion) (s : Stream) : Stream :=
  if isLate s.wrapper.rateMs s.frameStart c.now then
    requeued c.request { s with
      frameStart := c.now
      photos := s.photos ++ shots s c.request (c.timestamp + s.monoOffset) }
  else requeued c.request s

theorem queueRequest_eq (request : UInt64) (h : Streaming s) :
    queueRequest request s = .returns () (requeued request s) := by
  rw [queueRequest, Code.bind_read, id_eq, h.oneFrame]
  cases hCamera : s.wrapper.camera with
  | none => exact absurd hCamera h.camera
  | some camera => rfl

theorem forward_eq (request frameUtcNs : UInt64) (h : Streaming s) (hReadable : Readable s request) :
    forward request frameUtcNs frameUtcNs s =
      .returns () { s with photos := s.photos ++ shots s request frameUtcNs } := by
  rw [forward, Code.bind_read, id_eq, shots]
  by_cases hFormat : s.pixelFormat = .other
  · rw [if_pos hFormat, if_pos hFormat, List.append_nil]
    rfl
  · obtain ⟨mem, rest, hMem⟩ := List.exists_cons_of_ne_nil (hReadable hFormat)
    rw [if_neg hFormat, if_neg hFormat, hMem]
    simp only [Code.modify, h.triggerMode, if_true]
    rfl

theorem handleFrame_eq (h : Streaming s) (hReadable : Readable s c.request) :
    handleFrame c s = .returns () (handled c s) := by
  rw [handleFrame, Code.bind_read, id_eq, handled]
  cases hLate : isLate s.wrapper.rateMs s.frameStart c.now with
  | false =>
      have hKept : keepFrame c.now (c.timestamp + s.monoOffset) s = .returns none s := by
        rw [keepFrame, Code.bind_read, id_eq, h.triggerMode]
        simp only [hLate]
        rfl
      exact (Code.bind_of_returns hKept).trans (queueRequest_eq c.request h)
  | true =>
      have hKept : keepFrame c.now (c.timestamp + s.monoOffset) s =
          .returns (some (c.timestamp + s.monoOffset)) { s with frameStart := c.now } := by
        rw [keepFrame, Code.bind_read, id_eq, h.triggerMode]
        simp only [hLate]
        rfl
      have hLater : Streaming { s with frameStart := c.now } :=
        ⟨h.triggerMode, h.oneFrame, h.camera⟩
      rw [Code.bind_of_returns hKept, if_pos rfl]
      refine (Code.bind_of_returns (forward_eq c.request _ hLater hReadable)).trans ?_
      exact queueRequest_eq c.request ⟨h.triggerMode, h.oneFrame, h.camera⟩

/-- The stream after a completion, with its photo if the frame passes. -/
def completed (c : Completion) (s : Stream) : Stream where
  wrapper := withQueue (fun requests => requests.erase c.request ++ [c.request]) s.wrapper
  pixelFormat := s.pixelFormat
  frameStart := if passes s c then c.now else s.frameStart
  monoOffset := c.realNs - c.monoNs
  lastPpsNs := s.lastPpsNs
  photos :=
    if passes s c then s.photos ++ shots s c.request (c.timestamp + (c.realNs - c.monoNs))
    else s.photos

/-- What a frame brings depends on the format and on the memory of the buffers only. -/
theorem Brings.of_same {kept : List Completion} {added : List Photo} (h : Brings s' kept added)
    (hFormat : s'.pixelFormat = s.pixelFormat)
    (hMapped : s'.wrapper.mappedBuffers = s.wrapper.mappedBuffers) : Brings s kept added := by
  unfold Brings at h ⊢
  rw [hFormat] at h
  split
  · rename_i hOther
    exact (if_pos hOther).mp h
  · rename_i hOther
    have hShown := (if_neg hOther).mp h
    exact hShown.imp fun c photo hShows => ⟨hMapped ▸ hShows.mem, hShows.reportTimestampNs,
      hShows.triggerMode, hShows.frameUtcNs, hShows.ppsUtcNs⟩

/-- One more frame brings its photo. -/
theorem brings_cons {kept : List Completion} {added : List Photo} (h : Brings s kept added)
    (hReadable : Readable s c.request) :
    Brings s (c :: kept) (shots s c.request (c.timestamp + (c.realNs - c.monoNs)) ++ added) := by
  unfold Brings shots at *
  by_cases hFormat : s.pixelFormat = .other
  · rw [if_pos hFormat] at h
    rw [if_pos hFormat, if_pos hFormat, h]
    rfl
  · rw [if_neg hFormat] at h
    rw [if_neg hFormat, if_neg hFormat]
    obtain ⟨mem, rest, hMem⟩ := List.exists_cons_of_ne_nil (hReadable hFormat)
    rw [hMem]
    refine .cons ⟨?_, rfl, rfl, rfl, rfl⟩ h
    rw [hMem]
    rfl

theorem withQueue_withQueue (f g : List UInt64 → List UInt64) (w : LibCameraWrapper) :
    withQueue g (withQueue f w) = withQueue (fun requests => g (f requests)) w := by
  unfold withQueue
  rw [Option.map_map]
  rfl

theorem requeued_take (request : UInt64) :
    (requeued request (s.take request)).wrapper =
      withQueue (fun requests => requests.erase request ++ [request]) s.wrapper :=
  withQueue_withQueue (·.erase request) (· ++ [request]) s.wrapper

theorem complete_eq (h : Streaming s) (hQueued : c.request ∈ queued s.wrapper)
    (hReadable : Readable s c.request) (hClock : c.monoNs < c.realNs) :
    complete s c = some (completed c s) := by
  have hAdjust : adjustSystemClock c (s.take c.request) =
      .returns () { s.take c.request with monoOffset := c.realNs - c.monoNs } := by
    rw [adjustSystemClock, if_pos hClock]
    rfl
  have hTaken : Streaming { s.take c.request with monoOffset := c.realNs - c.monoNs } :=
    ⟨h.triggerMode, h.oneFrame, fun hNone => h.camera (Option.map_eq_none_iff.mp hNone)⟩
  rw [complete, if_pos hQueued, requestComplete, Code.bind_of_returns hAdjust, completed,
    ← requeued_take]
  cases hCancelled : c.cancelled with
  | true =>
      have hPasses : passes s c = false := by simp [passes, hCancelled]
      simp only [if_true, queueRequest_eq c.request hTaken, hPasses]
      rfl
  | false =>
      have hPasses : passes s c = isLate s.wrapper.rateMs s.frameStart c.now := by
        simp [passes, hCancelled]
      simp only [Bool.false_eq_true, if_false, handleFrame_eq hTaken hReadable, hPasses]
      cases hLate : isLate s.wrapper.rateMs s.frameStart c.now with
      | true => exact congrArg some (if_pos hLate)
      | false => exact congrArg some (if_neg (Bool.eq_false_iff.mp hLate))

/-- The clock was right if the completion could be handled. -/
theorem clock_of_complete (h : complete s c = some s') :
    c.request ∈ queued s.wrapper ∧ c.monoNs < c.realNs := by
  unfold complete at h
  split at h
  case isFalse => cases h
  case isTrue hQueued =>
      refine ⟨hQueued, ?_⟩
      by_contra hClock
      have hAdjust : adjustSystemClock c (s.take c.request) = .faults "real_ns > mono_ns" := by
        rw [adjustSystemClock, if_neg hClock]
        rfl
      have hFaults : requestComplete c (s.take c.request) = .faults "real_ns > mono_ns" := by
        change Code.bind _ _ _ = _
        rw [Code.bind, hAdjust]
      rw [hFaults] at h
      cases h

end Completions

section Runs

variable {s s' : Stream} {requests : List UInt64} {completions : List Completion}

/-- All requests are queued, and their images can be read. -/
structure Pooled (requests : List UInt64) (s : Stream) : Prop where
  streaming : Streaming s
  queued : (queued s.wrapper).Perm requests
  readable : ∀ request ∈ requests, Readable s request

theorem queued_withQueue (f : List UInt64 → List UInt64) {w : LibCameraWrapper}
    (h : w.camera ≠ none) : queued (withQueue f w) = f (queued w) := by
  obtain ⟨camera, hCamera⟩ := Option.ne_none_iff_exists'.mp h
  simp [queued, withQueue, hCamera]

theorem pooled_completed {c : Completion} (h : Pooled requests s)
    (hQueued : c.request ∈ queued s.wrapper) : Pooled requests (completed c s) := by
  refine ⟨⟨h.streaming.triggerMode, h.streaming.oneFrame,
    fun hNone => h.streaming.camera (Option.map_eq_none_iff.mp hNone)⟩, ?_, h.readable⟩
  rw [completed, queued_withQueue _ h.streaming.camera]
  have hBack : (queued s.wrapper).Perm (c.request :: (queued s.wrapper).erase c.request) :=
    List.perm_cons_erase hQueued
  exact (List.perm_append_singleton _ _).trans (hBack.symm.trans h.queued)

theorem pooled_complete {c : Completion} (h : Pooled requests s)
    (hQueued : c.request ∈ queued s.wrapper) (hClock : c.monoNs < c.realNs) :
    complete s c = some (completed c s) :=
  complete_eq h.streaming hQueued (h.readable _ (h.queued.subset hQueued)) hClock

/-- The photos of a run are those of the frames which pass the throttle. -/
theorem pooled_run (h : Pooled requests s) (hRun : run s completions = some s') :
    Pooled requests s' ∧ ∃ added, s'.photos = s.photos ++ added ∧
      Brings s (passed (isLate s.wrapper.rateMs) Completion.now s.frameStart (frames completions))
        added := by
  induction completions generalizing s with
  | nil =>
      cases hRun
      refine ⟨h, [], (List.append_nil _).symm, ?_⟩
      unfold Brings
      split
      · rfl
      · exact .nil
  | cons c rest ih =>
      rw [run, List.foldlM_cons] at hRun
      obtain ⟨next, hNext, hRest⟩ := Option.bind_eq_some_iff.mp hRun
      obtain ⟨hQueued, hClock⟩ := clock_of_complete hNext
      obtain rfl := Option.some.inj ((pooled_complete h hQueued hClock).symm.trans hNext)
      obtain ⟨hPooled, added, hPhotos, hAdded⟩ := ih (pooled_completed h hQueued) hRest
      refine ⟨hPooled, ?_⟩
      have hLater : Brings s (passed (isLate s.wrapper.rateMs)
          Completion.now (if passes s c then c.now else s.frameStart) (frames rest)) added :=
        hAdded.of_same rfl rfl
      rw [hPhotos]
      cases hCancelled : c.cancelled with
      | true =>
          have hPasses : passes s c = false := by simp [passes, hCancelled]
          rw [hPasses] at hLater
          refine ⟨added, by simp [completed, hPasses], ?_⟩
          simpa [frames, hCancelled] using hLater
      | false =>
          have hFrames : frames (c :: rest) = c :: frames rest := by simp [frames, hCancelled]
          rw [hFrames, passed]
          cases hLate : isLate s.wrapper.rateMs s.frameStart c.now with
          | true =>
              have hPasses : passes s c = true := by simp [passes, hCancelled, hLate]
              rw [hPasses, if_pos rfl] at hLater
              refine ⟨_, ?_, brings_cons hLater (h.readable _ (h.queued.subset hQueued))⟩
              simp [completed, hPasses]
          | false =>
              have hPasses : passes s c = false := by simp [passes, hLate]
              rw [hPasses, if_neg Bool.false_ne_true] at hLater
              exact ⟨added, by simp [completed, hPasses], hLater⟩

end Runs

section Sessions

variable {call : Start} {before : LibCameraWrapper} {s : Stream} {now : Int}

/-- The stream when all requests have been queued. -/
def captured (now : Int) (camera : Camera) (s : Stream) : Stream :=
  { s with
    frameStart := now
    wrapper := { s.wrapper with
      oneFrame := false
      ppsPending := false
      camera := some { camera with queued := camera.queued ++ s.wrapper.requests } } }

theorem capture_eq {camera : Camera} (h : s.wrapper.camera = some camera) :
    capture false now s = .returns () (captured now camera s) := by
  rw [capture, Code.bind_modify, onWrapper, LibCameraWrapper.capture, Code.bind_modify,
    Code.bind_read, id_eq]
  simp only [h]
  rfl

/-- In a session which is not triggered by the PPS signal, each photo is due more than
`rateMs` milliseconds after the one before it, and no other choice of frames with such
gaps has more of them. In a format which is not supported the frames are chosen all the
same, but there are no photos. -/
theorem photos_throttled (hStart : call.accepted before = some s.wrapper)
    (hMode : s.wrapper.triggerMode = .internal)
    (hPlanes : ∀ buffer ∈ call.surroundings.buffers, buffer.planes ≠ []) :
    ∃ opened, capture false now s = .returns () opened ∧
      ∀ completions s', run opened completions = some s' →
        (completions.map Completion.now).Pairwise (· ≤ ·) →
          ∃ kept, Throttled s s' now completions kept := by
  obtain ⟨⟨camera, hCamera, hEmpty⟩, hRequests, hMapped⟩ := opened_of_accepted hStart
  refine ⟨captured now camera s, capture_eq hCamera, fun completions s' hRun hClock => ?_⟩
  have hPooled : Pooled s.wrapper.requests (captured now camera s) := by
    refine ⟨⟨hMode, rfl, nofun⟩, ?_, fun request hRequest _ => ?_⟩
    · simp [captured, queued, hEmpty]
    · rw [hRequests] at hRequest
      obtain ⟨buffer, hBuffer, rfl⟩ := List.mem_map.mp hRequest
      exact hMapped buffer hBuffer (hPlanes buffer hBuffer)
  obtain ⟨hLater, added, hPhotos, hShown⟩ := pooled_run hPooled hRun
  have hOrder : ((frames completions).map Completion.now).Pairwise (· ≤ ·) :=
    hClock.sublist (List.filter_sublist.map Completion.now)
  have hEarlier : ∀ earlier later time, earlier ≤ later →
      isLate s.wrapper.rateMs later time = true → isLate s.wrapper.rateMs earlier time = true := by
    intro earlier later time hle hLate
    rw [isLate_iff] at hLate ⊢
    omega
  refine ⟨_, ⟨added, hPhotos, hShown.of_same rfl rfl⟩, passed_sublist now _,
    spread_iff.mpr (spaced_passed now _), fun other hOther hSpread => ?_, hLater.queued,
    fun c hQueued hc => ?_⟩
  · exact length_le_passed hEarlier hOrder le_rfl hOther (spread_iff.mp hSpread)
  · rw [pooled_complete hLater hQueued hc]
    rfl

def mappedStart : Start where
  surroundings := { SetConfig.connected with buffers := [⟨4096, [⟨3, 921600, 65536⟩]⟩] }
  camNo := 0
  config := .object [("rateMs", .numberUnsigned 200)]

/-- Frames every 120 ms, the second of which is cancelled. -/
def fourFrames : List Completion :=
  [⟨4096, false, 120000000, 1000000000, 100, 120000000⟩,
    ⟨4096, true, 240000000, 1000000000, 100, 240000000⟩,
    ⟨4096, false, 360000000, 1000000000, 100, 360000000⟩,
    ⟨4096, false, 480000000, 1000000000, 100, 480000000⟩]

def mapped (w : LibCameraWrapper) : Stream := ⟨w, .rgb888, 0, 0, 0, []⟩

theorem photos_throttled_fourFrames :
    ∃ w opened s' kept, mappedStart.accepted new = some w ∧
      capture false 0 (mapped w) = .returns () opened ∧ run opened fourFrames = some s' ∧
      s'.photos.length = 1 ∧ Throttled (mapped w) s' 0 fourFrames kept := by
  have hStart : ∃ w, mappedStart.accepted new = some w ∧ w.triggerMode = .internal ∧
      ∃ opened s', capture false 0 (mapped w) = .returns () opened ∧
        run opened fourFrames = some s' ∧ s'.photos.length = 1 :=
    ⟨_, rfl, rfl, _, _, rfl, rfl, rfl⟩
  obtain ⟨w, hAccepted, hMode, opened, s', hCapture, hRun, hOne⟩ := hStart
  obtain ⟨other, hOther, hThrottled⟩ :=
    @photos_throttled _ _ (mapped w) 0 hAccepted hMode (by decide)
  cases hCapture.symm.trans hOther
  obtain ⟨kept, hKept⟩ := hThrottled fourFrames s' hRun (by decide)
  exact ⟨w, opened, s', kept, hAccepted, hCapture, hRun, hOne, hKept⟩

end Sessions

end Mandeye.LibCamera.Frames
