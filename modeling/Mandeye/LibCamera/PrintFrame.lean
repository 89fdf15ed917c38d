import Mandeye.Interleaving.Contract

/-! The callback which the camera program is given each frame with, and the task
which saves a frame while a continuous scan is running. The task is started with
the timestamp of the frame; the image and the metadata it takes from where each
callback leaves them. -/
namespace Mandeye.PrintFrame

open Interleaving

/-- What the callback is given. -/
structure Frame (Image Metadata : Type) where
  image : Image
  timestamp : UInt64
  metadata : Metadata

/-- What the lambda of the task has captured. -/
structure Task where
  directory : String
  timestamp : UInt64

/-- The command line of the program. -/
structure Options where
  cameraNo : Int
  photoPrefix : String

/-- The directory for the photos, inside of that of the scan. -/
def Options.directory (options : Options) (continousScanTarget : String) : String :=
  (if continousScanTarget = "" ∨ continousScanTarget.endsWith "/" then continousScanTarget
    else continousScanTarget ++ "/") ++ "CAMERA_" ++ toString options.cameraNo

/-- The name of a photo without its extension. -/
def Options.filename (options : Options) (task : Task) : String :=
  task.directory ++ "/" ++ options.photoPrefix ++ toString task.timestamp

/-- The thread of the camera, and the one which a task runs on. -/
inductive Thread where
  | camera
  | jpgSave
  deriving DecidableEq

/-- The statements of the callback. The photo and its metadata are stored under the
mutex, in one step. -/
inductive CameraRequest (Image Metadata : Type) where
  | awaitFrame
  | storePhoto (image : Image) (metadata : Metadata)
  | isContinousScanRunning
  | isPreviousFrameSaved
  | getContinousScanTarget
  | async (task : Task)

/-- What the callback reads. -/
abbrev CameraRequest.Response {Image Metadata : Type} : CameraRequest Image Metadata → Type
  | .awaitFrame => Frame Image Metadata
  | .storePhoto _ _ => Unit
  | .isContinousScanRunning => Bool
  | .isPreviousFrameSaved => Bool
  | .getContinousScanTarget => String
  | .async _ => Unit

/-- The statements of the task. It copies the image under the mutex, and reads the
metadata without. -/
inductive SaveRequest (Image Metadata : Type) where
  | awaitTask
  | copyPhoto
  | writeJpg (filename : String) (image : Image)
  | readMetadata
  | writeMeta (filename : String) (metadata : Option Metadata)
  | finish

/-- What the task reads. -/
abbrev SaveRequest.Response {Image Metadata : Type} : SaveRequest Image Metadata → Type
  | .awaitTask => Task
  | .copyPhoto => Option Image
  | .writeJpg _ _ => Unit
  | .readMetadata => Option Metadata
  | .writeMeta _ _ => Unit
  | .finish => Unit

/-- The global variables. A photo has not been taken at first; `jpgSaveThread` is
the task whose future is not ready. The next frame waits for the callback. -/
structure Globals (Image Metadata : Type) where
  lastPhoto : Option Image
  photoMetadata : Option Metadata
  state : String
  continousScanTarget : String
  jpgSaveThread : Option Task
  incoming : Option (Frame Image Metadata)

/-- No frame has been received. -/
def started {Image Metadata : Type} : Globals Image Metadata := ⟨none, none, "", "", none, none⟩

/-- A frame is ready; the other thread of the program hears from the controller. -/
inductive Move (Image Metadata : Type) where
  | frame (frame : Frame Image Metadata)
  | report (state continousScanTarget : String)

section Machine

variable {Image Metadata : Type}

/-- The statements of each thread. -/
abbrev Request (Image Metadata : Type) : Thread → Type
  | .camera => CameraRequest Image Metadata
  | .jpgSave => SaveRequest Image Metadata

/-- And their answers. -/
abbrev Response (Image Metadata : Type) :
    (t : Thread) → Request Image Metadata t → Type
  | .camera => CameraRequest.Response
  | .jpgSave => SaveRequest.Response

/-- A task is started by storing its future. -/
def performCamera : (request : CameraRequest Image Metadata) → Globals Image Metadata →
    Outcome (Globals Image Metadata) request.Response
  | .awaitFrame, s =>
      match s.incoming with
      | none => .blocks
      | some frame => .returns frame { s with incoming := none }
  | .storePhoto image metadata, s =>
      .returns () { s with lastPhoto := some image, photoMetadata := some metadata }
  | .isContinousScanRunning, s => .returns (s.state = "SCANNING") s
  | .isPreviousFrameSaved, s => .returns s.jpgSaveThread.isNone s
  | .getContinousScanTarget, s => .returns s.continousScanTarget s
  | .async task, s => .returns () { s with jpgSaveThread := some task }

/-- A task which has finished makes its future ready. -/
def performSave : (request : SaveRequest Image Metadata) → Globals Image Metadata →
    Outcome (Globals Image Metadata) request.Response
  | .awaitTask, s =>
      match s.jpgSaveThread with
      | none => .blocks
      | some task => .returns task s
  | .copyPhoto, s => .returns s.lastPhoto s
  | .writeJpg _ _, s => .returns () s
  | .readMetadata, s => .returns s.photoMetadata s
  | .writeMeta _ _, s => .returns () s
  | .finish, s => .returns () { s with jpgSaveThread := none }

/-- A frame is ready only after the callback for the one before it has returned. -/
def move : Move Image Metadata → Globals Image Metadata → Option (Globals Image Metadata)
  | .frame frame, s => if s.incoming.isNone then some { s with incoming := some frame } else none
  | .report state continousScanTarget, s =>
      some { s with state := state, continousScanTarget := continousScanTarget }

abbrev CameraCode (Image Metadata : Type) : Type → Type :=
  Program (CameraRequest Image Metadata) CameraRequest.Response

abbrev camera (request : CameraRequest Image Metadata) :
    CameraCode Image Metadata request.Response := Program.perform request

abbrev SaveCode (Image Metadata : Type) : Type → Type :=
  Program (SaveRequest Image Metadata) SaveRequest.Response

abbrev save (request : SaveRequest Image Metadata) : SaveCode Image Metadata request.Response :=
  Program.perform request

variable (options : Options)

/-- Start to save the frame unless the one before it is still being saved. -/
def startSaving (timestamp : UInt64) : CameraCode Image Metadata Unit := do
  let isPreviousFrameSaved ← camera .isPreviousFrameSaved
  .when isPreviousFrameSaved do
    let continousScanTarget ← camera .getContinousScanTarget
    camera (.async ⟨options.directory continousScanTarget, timestamp⟩)

/-- The callback for a frame. -/
def printFrame : CameraCode Image Metadata (Option Unit) := do
  let frame ← camera .awaitFrame
  camera (.storePhoto frame.image frame.metadata)
  let running ← camera .isContinousScanRunning
  .when running (startSaving options frame.timestamp)
  return some ()

/-- The encoder throws if there is no image. -/
def saveFrame (task : Task) : SaveCode Image Metadata Unit := do
  let imgToSave ← save .copyPhoto
  match imgToSave with
  | none => return ()
  | some image =>
      save (.writeJpg (options.filename task ++ ".jpg") image)
      let photoMetadata ← save .readMetadata
      save (.writeMeta (options.filename task ++ ".meta.json") photoMetadata)

/-- One task after another. -/
def jpgSave : SaveCode Image Metadata (Option Unit) := do
  let task ← save .awaitTask
  saveFrame options task
  save .finish
  return some ()

/-- The two threads of the camera program. -/
def system (Image Metadata : Type) (options : Options) :
    System (Response Image Metadata) (fun _ => Unit) (Globals Image Metadata)
      (Move Image Metadata) where
  perform
    | .camera => performCamera
    | .jpgSave => performSave
  move := move
  start _ := return some ()
  loop
    | .camera => fun _ => printFrame options
    | .jpgSave => fun _ => jpgSave options

end Machine

/-- The globals, with all that has happened. -/
abbrev History (Image Metadata : Type) :=
  World (Response Image Metadata) (Globals Image Metadata) (Move Image Metadata)

/-- What has happened, the latest first. -/
abbrev Trace (Image Metadata : Type) :=
  List (Globals Image Metadata × Label (Response Image Metadata) (Move Image Metadata))

section Traces

variable {Image Metadata : Type}

/-- The frame of the latest call. -/
def called : Trace Image Metadata → Option (Frame Image Metadata)
  | [] => none
  | (_, .statement .camera .awaitFrame frame) :: _ => some frame
  | _ :: earlier => called earlier

/-- The frame of the call which has started the latest task. -/
def saving : Trace Image Metadata → Option (Frame Image Metadata)
  | [] => none
  | (_, .statement .camera (.async _) _) :: earlier => called earlier
  | _ :: earlier => saving earlier

/-- The latest task has not read the metadata yet, let alone written them. -/
def unread : Trace Image Metadata → Bool
  | [] => false
  | (_, .statement .camera (.async _) _) :: _ => true
  | (_, .statement .jpgSave .readMetadata _) :: _ => false
  | _ :: earlier => unread earlier

/-- The callback leaves its frame where the task takes it from. -/
def stores : Globals Image Metadata × Label (Response Image Metadata) (Move Image Metadata) → Bool
  | (_, .statement .camera (.storePhoto _ _) _) => true
  | _ => false

/-- No callback leaves a frame while a task has yet to read its own. -/
def undisturbed : Trace Image Metadata → Bool
  | [] => true
  | entry :: earlier => !(stores entry && unread earlier) && undisturbed earlier

/-- The condition on a run. -/
abbrev Undisturbed (trace : Trace Image Metadata) : Prop := undisturbed trace = true

variable (options : Options)

/-- A file has the image or the metadata of the frame for which it is named. -/
def photoGuarantee : Guarantee (Response Image Metadata) (Globals Image Metadata)
    (Move Image Metadata)
  | .camera, .async task, w => w.state.jpgSaveThread = none ∧ ∃ frame,
      called w.trace = some frame ∧ task.timestamp = frame.timestamp ∧
      w.state.lastPhoto = some frame.image ∧ w.state.photoMetadata = some frame.metadata
  | .jpgSave, .writeJpg filename image, w => Undisturbed w.trace → ∃ frame directory,
      saving w.trace = some frame ∧ image = frame.image ∧
      filename = options.filename ⟨directory, frame.timestamp⟩ ++ ".jpg"
  | .jpgSave, .writeMeta filename metadata, w => Undisturbed w.trace → ∃ frame directory,
      saving w.trace = some frame ∧ metadata = some frame.metadata ∧
      filename = options.filename ⟨directory, frame.timestamp⟩ ++ ".meta.json"
  | _, _, _ => True

/-- The photo of the task is still there while it has to be read. -/
structure Kept (w : History Image Metadata) : Prop where
  photo : Undisturbed w.trace → unread w.trace = true → ∃ frame, saving w.trace = some frame ∧
    w.state.lastPhoto = some frame.image ∧ w.state.photoMetadata = some frame.metadata
  task : ∀ task, w.state.jpgSaveThread = some task →
    ∃ frame, saving w.trace = some frame ∧ task.timestamp = frame.timestamp

/-- Nothing that matters to the task has happened. -/
structure Untouched (w w' : History Image Metadata) : Prop where
  saving : saving w'.trace = saving w.trace
  unread : unread w'.trace = unread w.trace
  jpgSaveThread : w'.state.jpgSaveThread = w.state.jpgSaveThread
  undisturbed : Undisturbed w'.trace → Undisturbed w.trace
  photo : Undisturbed w'.trace → PrintFrame.unread w.trace = true →
    w'.state.lastPhoto = w.state.lastPhoto ∧ w'.state.photoMetadata = w.state.photoMetadata

variable {options} {w w' : History Image Metadata}
  {label : Label (Response Image Metadata) (Move Image Metadata)} {s : Globals Image Metadata}

theorem Undisturbed.before {entry : Globals Image Metadata × Label (Response Image Metadata)
      (Move Image Metadata)} {earlier : Trace Image Metadata}
    (h : Undisturbed (entry :: earlier)) : Undisturbed earlier :=
  (Bool.and_eq_true_iff.mp h).2

theorem Kept.untouched (h : Kept w) (hSame : Untouched w w') : Kept w' where
  photo hUndisturbed hUnread := by
    rw [hSame.unread] at hUnread
    obtain ⟨frame, hSaving, hPhoto, hMetadata⟩ := h.photo (hSame.undisturbed hUndisturbed) hUnread
    obtain ⟨hSamePhoto, hSameMetadata⟩ := hSame.photo hUndisturbed hUnread
    exact ⟨frame, hSame.saving.trans hSaving, hSamePhoto.trans hPhoto,
      hSameMetadata.trans hMetadata⟩
  task task hTask := by
    rw [hSame.jpgSaveThread] at hTask
    rw [hSame.saving]
    exact h.task task hTask

/-- A step which leaves the photo and the task alone. -/
theorem untouched_record (hSaving : saving (w.record label s).trace = saving w.trace)
    (hUnread : unread (w.record label s).trace = unread w.trace)
    (hTask : s.jpgSaveThread = w.state.jpgSaveThread) (hPhoto : s.lastPhoto = w.state.lastPhoto)
    (hMetadata : s.photoMetadata = w.state.photoMetadata) : Untouched w (w.record label s) :=
  ⟨hSaving, hUnread, hTask, Undisturbed.before, fun _ _ => ⟨hPhoto, hMetadata⟩⟩

theorem untouched_move {action : Move Image Metadata}
    (h : (system Image Metadata options).move action w.state = some s) :
    Untouched w (w.record (.move action) s) := by
  cases action with
  | frame frame =>
      simp only [system, move] at h
      split at h
      · cases h
        exact untouched_record rfl rfl rfl rfl rfl
      · cases h
  | report state continousScanTarget =>
      cases h
      exact untouched_record rfl rfl rfl rfl rfl

/-- A statement of the callback leaves the task alone or starts the next one. -/
theorem camera_cases {request : CameraRequest Image Metadata} {response : request.Response}
    (hGuarantee : photoGuarantee options .camera request w)
    (h : performCamera request w.state = .returns response s) :
    Untouched w (w.record (.statement .camera request response) s) ∨
      w.state.jpgSaveThread = none ∧
      Kept (w.record (.statement .camera request response) s) ∧
      unread (w.record (.statement .camera request response) s).trace = true := by
  cases request with
  | awaitFrame =>
      simp only [performCamera] at h
      split at h
      · cases h
      · cases h
        exact .inl (untouched_record rfl rfl rfl rfl rfl)
  | storePhoto image metadata =>
      cases h
      refine .inl ⟨rfl, rfl, rfl, Undisturbed.before, fun hUndisturbed hUnread => ?_⟩
      have hRead : (!unread w.trace) = true := (Bool.and_eq_true_iff.mp hUndisturbed).1
      rw [hUnread] at hRead
      cases hRead
  | async task =>
      cases h
      obtain ⟨hNone, frame, hCalled, hTimestamp, hPhoto, hMetadata⟩ := hGuarantee
      refine .inr ⟨hNone, ⟨fun _ _ => ⟨frame, hCalled, hPhoto, hMetadata⟩, ?_⟩, rfl⟩
      intro other hOther
      cases hOther
      exact ⟨frame, hCalled, hTimestamp⟩
  | _ =>
      cases h
      exact .inl (untouched_record rfl rfl rfl rfl rfl)

end Traces

section Threads

variable {Image Metadata : Type} (options : Options)

abbrev CameraTriple {Result : Type} (P : History Image Metadata → Prop)
    (code : CameraCode Image Metadata Result) (Q : Result → History Image Metadata → Prop) : Prop :=
  (system Image Metadata options).Triple (photoGuarantee options) .camera P code Q

abbrev SaveTriple {Result : Type} (P : History Image Metadata → Prop)
    (code : SaveCode Image Metadata Result) (Q : Result → History Image Metadata → Prop) : Prop :=
  (system Image Metadata options).Triple (photoGuarantee options) .jpgSave P code Q

/-- In the call for a frame. -/
def Called (frame : Frame Image Metadata) (w : History Image Metadata) : Prop :=
  called w.trace = some frame

/-- In the call for a frame, which has been stored. -/
structure Stored (frame : Frame Image Metadata) (w : History Image Metadata) : Prop where
  called : Called frame w
  photo : w.state.lastPhoto = some frame.image
  metadata : w.state.photoMetadata = some frame.metadata

/-- Between two tasks: a task which has been started has read nothing yet. -/
structure Ready (w : History Image Metadata) : Prop where
  kept : Kept w
  unread : ∀ task, w.state.jpgSaveThread = some task → unread w.trace = true

structure Begun (task : Task) (w : History Image Metadata) : Prop where
  kept : Kept w
  unread : unread w.trace = true
  task : w.state.jpgSaveThread = some task

/-- The frame of the task, as far as it has been read. -/
def Has (task : Task) (part : Frame Image Metadata → Prop) (w : History Image Metadata) : Prop :=
  Undisturbed w.trace → ∃ frame, saving w.trace = some frame ∧
    task.timestamp = frame.timestamp ∧ part frame

/-- The metadata have been read. -/
structure Done (task : Task) (w : History Image Metadata) : Prop where
  kept : Kept w
  task : w.state.jpgSaveThread = some task
  unread : PrintFrame.unread w.trace = false

/-- The task leaves the callback alone, and the next one can be started when it
has ended. -/
theorem camera_interference {w w' : History Image Metadata}
    (h : (system Image Metadata options).Interference (photoGuarantee options) .camera w w') :
    called w'.trace = called w.trace ∧ w'.state.lastPhoto = w.state.lastPhoto ∧
      w'.state.photoMetadata = w.state.photoMetadata ∧
      (w.state.jpgSaveThread = none → w'.state.jpgSaveThread = none) := by
  obtain hMove | ⟨hOther, -, hPerform⟩ := h
  · rename_i action s
    cases action with
    | frame frame =>
        simp only [system, move] at hMove
        split at hMove
        · cases hMove
          exact ⟨rfl, rfl, rfl, id⟩
        · cases hMove
    | report state continousScanTarget =>
        cases hMove
        exact ⟨rfl, rfl, rfl, id⟩
  · rename_i u request response s
    cases u with
    | camera => exact absurd rfl hOther
    | jpgSave =>
        cases request with
        | awaitTask =>
            simp only [system, performSave] at hPerform
            split at hPerform
            · cases hPerform
            · cases hPerform
              exact ⟨rfl, rfl, rfl, id⟩
        | finish =>
            cases hPerform
            exact ⟨rfl, rfl, rfl, fun _ => rfl⟩
        | _ =>
            cases hPerform
            exact ⟨rfl, rfl, rfl, id⟩

theorem save_interference {w w' : History Image Metadata}
    (h : (system Image Metadata options).Interference (photoGuarantee options) .jpgSave w w') :
    Untouched w w' ∨ w.state.jpgSaveThread = none ∧ Kept w' ∧ unread w'.trace = true := by
  obtain hMove | ⟨hOther, hGuarantee, hPerform⟩ := h
  · exact .inl (untouched_move hMove)
  · rename_i u request response s
    cases u with
    | camera => exact camera_cases hGuarantee hPerform
    | jpgSave => exact absurd rfl hOther

theorem stable_called (frame : Frame Image Metadata) :
    (system Image Metadata options).Stable (photoGuarantee options) .camera (Called frame) :=
  fun _ _ h hw => (camera_interference options h).1.trans hw

theorem stable_stored (frame : Frame Image Metadata) :
    (system Image Metadata options).Stable (photoGuarantee options) .camera (Stored frame) := by
  intro w w' h hw
  obtain ⟨hCalled, hPhoto, hMetadata, -⟩ := camera_interference options h
  exact ⟨hCalled.trans hw.called, hPhoto.trans hw.photo, hMetadata.trans hw.metadata⟩

theorem stable_free :
    (system Image Metadata options).Stable (photoGuarantee options) .camera
      fun w => w.state.jpgSaveThread = none :=
  fun _ _ h hw => (camera_interference options h).2.2.2 hw

theorem stable_true (t : Thread) :
    (system Image Metadata options).Stable (photoGuarantee options) t fun _ => True :=
  fun _ _ _ _ => trivial

theorem triple_startSaving (frame : Frame Image Metadata) :
    CameraTriple options (Stored frame) (startSaving options frame.timestamp)
      fun _ _ => True := by
  have hStored := stable_stored options frame
  have hFree := hStored.and (stable_free options)
  have hTrue := @stable_true Image Metadata options .camera
  have hSaved : ∀ saved : Bool, (system Image Metadata options).Stable (photoGuarantee options)
      .camera fun w => Stored frame w ∧ (saved = true → w.state.jpgSaveThread = none) :=
    fun _ w w' h hw => ⟨hStored w w' h hw.1, fun hIs => stable_free options w w' h (hw.2 hIs)⟩
  have hAsked : CameraTriple options (Stored frame) (camera .isPreviousFrameSaved)
      fun saved w => Stored frame w ∧ (saved = true → w.state.jpgSaveThread = none) := by
    apply Machine.Triple.perform hStored hSaved
    · exact fun _ _ => trivial
    · intro w saved s hw hPerform
      cases hPerform
      exact ⟨⟨hw.called, hw.photo, hw.metadata⟩, Option.isNone_iff_eq_none.mp⟩
  refine hAsked.bind fun saved => .when (fun hIs => ?_) fun _ =>
    .done (hSaved saved) fun _ _ => trivial
  have hTarget : CameraTriple options
      (fun w => Stored frame w ∧ (saved = true → w.state.jpgSaveThread = none))
      (camera .getContinousScanTarget)
      fun _ w => Stored frame w ∧ w.state.jpgSaveThread = none := by
    apply Machine.Triple.perform (hSaved saved) fun _ => hFree
    · exact fun _ _ => trivial
    · intro w target s hw hPerform
      cases hPerform
      exact ⟨⟨hw.1.called, hw.1.photo, hw.1.metadata⟩, hw.2 hIs⟩
  refine hTarget.bind fun target => .perform hFree (fun _ => hTrue) ?_ fun _ _ _ _ _ => trivial
  exact fun w hw => ⟨hw.2, frame, hw.1.called, rfl, hw.1.photo, hw.1.metadata⟩

theorem triple_printFrame :
    CameraTriple options (fun _ : History Image Metadata => True) (printFrame options)
      fun _ _ => True := by
  have hTrue := @stable_true Image Metadata options .camera
  have hFrame : CameraTriple options (fun _ : History Image Metadata => True) (camera .awaitFrame)
      fun frame w => Called frame w := by
    apply Machine.Triple.perform hTrue (stable_called options)
    · exact fun _ _ => trivial
    · exact fun _ _ _ _ _ => rfl
  have hStore : ∀ frame : Frame Image Metadata, CameraTriple options (Called frame)
      (camera (.storePhoto frame.image frame.metadata)) fun _ => Stored frame := by
    intro frame
    apply Machine.Triple.perform (stable_called options frame) fun _ => stable_stored options frame
    · exact fun _ _ => trivial
    · intro w response s hw hPerform
      cases hPerform
      exact ⟨hw, rfl, rfl⟩
  have hRunning : ∀ frame : Frame Image Metadata, CameraTriple options (Stored frame)
      (camera .isContinousScanRunning) fun _ => Stored frame := by
    intro frame
    have hStored := stable_stored options frame
    apply Machine.Triple.perform hStored fun _ => hStored
    · exact fun _ _ => trivial
    · intro w running s hw hPerform
      cases hPerform
      exact ⟨hw.called, hw.photo, hw.metadata⟩
  refine hFrame.bind fun frame => (hStore frame).bind fun _ => ?_
  refine (hRunning frame).bind fun running => ?_
  have hSaving : CameraTriple options (Stored frame)
      (.when running (startSaving options frame.timestamp)) fun _ _ => True :=
    .when (fun _ => triple_startSaving options frame) fun _ =>
      .done (stable_stored options frame) fun _ _ => trivial
  exact hSaving.bind fun _ => .done hTrue fun _ _ => trivial

section Task

variable {task : Task} {part : Frame Image Metadata → Prop}

/-- An assertion made while the task has not ended. -/
theorem stable_of_untouched {A : History Image Metadata → Prop}
    (hTask : ∀ w, A w → w.state.jpgSaveThread ≠ none)
    (hSame : ∀ w w', A w → Untouched w w' → A w') :
    (system Image Metadata options).Stable (photoGuarantee options) .jpgSave A := by
  intro w w' h hw
  rcases save_interference options h with hUntouched | ⟨hNone, -⟩
  · exact hSame w w' hw hUntouched
  · exact absurd hNone (hTask w hw)

theorem Begun.untouched {w w' : History Image Metadata} (h : Begun task w)
    (hSame : Untouched w w') : Begun task w' :=
  ⟨h.kept.untouched hSame, hSame.unread.trans h.unread, hSame.jpgSaveThread.trans h.task⟩

theorem Done.untouched {w w' : History Image Metadata} (h : Done task w)
    (hSame : Untouched w w') : Done task w' :=
  ⟨h.kept.untouched hSame, hSame.jpgSaveThread.trans h.task, hSame.unread.trans h.unread⟩

theorem Has.untouched {w w' : History Image Metadata} (h : Has task part w)
    (hSame : Untouched w w') : Has task part w' := by
  intro hUndisturbed
  rw [hSame.saving]
  exact h (hSame.undisturbed hUndisturbed)

theorem stable_kept :
    (system Image Metadata options).Stable (photoGuarantee options) .jpgSave Kept := by
  intro w w' h hw
  rcases save_interference options h with hUntouched | ⟨-, hKept, -⟩
  · exact hw.untouched hUntouched
  · exact hKept

theorem stable_ready :
    (system Image Metadata options).Stable (photoGuarantee options) .jpgSave Ready := by
  intro w w' h hw
  refine ⟨stable_kept options w w' h hw.kept, fun task hTask => ?_⟩
  rcases save_interference options h with hUntouched | ⟨-, -, hUnread⟩
  · rw [hUntouched.unread]
    exact hw.unread task (hUntouched.jpgSaveThread.symm.trans hTask)
  · exact hUnread

variable (task part)

theorem stable_begun :
    (system Image Metadata options).Stable (photoGuarantee options) .jpgSave (Begun task) :=
  stable_of_untouched options (fun w hw => by simp [hw.task]) fun _ _ hw => hw.untouched

theorem stable_begun_has :
    (system Image Metadata options).Stable (photoGuarantee options) .jpgSave
      fun w => Begun task w ∧ Has task part w :=
  stable_of_untouched options (fun w hw => by simp [hw.1.task]) fun _ _ hw hSame =>
    ⟨hw.1.untouched hSame, hw.2.untouched hSame⟩

theorem stable_done_has :
    (system Image Metadata options).Stable (photoGuarantee options) .jpgSave
      fun w => Done task w ∧ Has task part w :=
  stable_of_untouched options (fun w hw => by simp [hw.1.task]) fun _ _ hw hSame =>
    ⟨hw.1.untouched hSame, hw.2.untouched hSame⟩

variable {task part}

/-- Both parts of the photo are those of the frame for which the task was started. -/
theorem Begun.photo {w : History Image Metadata} (h : Begun task w)
    (hUndisturbed : Undisturbed w.trace) : ∃ frame, saving w.trace = some frame ∧
      task.timestamp = frame.timestamp ∧ w.state.lastPhoto = some frame.image ∧
      w.state.photoMetadata = some frame.metadata := by
  obtain ⟨frame, hSaving, hPhoto, hMetadata⟩ := h.kept.photo hUndisturbed h.unread
  obtain ⟨other, hOther, hTimestamp⟩ := h.kept.task task h.task
  cases hSaving.symm.trans hOther
  exact ⟨frame, hSaving, hTimestamp, hPhoto, hMetadata⟩

variable (task)

theorem triple_awaitTask :
    SaveTriple options (@Ready Image Metadata) (save .awaitTask)
      fun task w => Begun task w := by
  apply Machine.Triple.perform (stable_ready options) (stable_begun options)
  · exact fun _ _ => trivial
  · intro w task s hw hPerform
    simp only [system, performSave] at hPerform
    split at hPerform
    · cases hPerform
    · rename_i task hTask
      cases hPerform
      exact Begun.untouched ⟨hw.kept, hw.unread task hTask, hTask⟩
        (untouched_record rfl rfl rfl rfl rfl)

theorem triple_copyPhoto :
    SaveTriple options (@Begun Image Metadata task) (save .copyPhoto)
      fun imgToSave w => Begun task w ∧ Has task (fun frame => imgToSave = some frame.image) w := by
  apply Machine.Triple.perform (stable_begun options task) fun _ => stable_begun_has options task _
  · exact fun _ _ => trivial
  · intro w imgToSave s hw hPerform
    cases hPerform
    refine ⟨hw.untouched (untouched_record rfl rfl rfl rfl rfl), fun hUndisturbed => ?_⟩
    obtain ⟨frame, hSaving, hTimestamp, hPhoto, -⟩ := hw.photo hUndisturbed.before
    exact ⟨frame, hSaving, hTimestamp, hPhoto⟩

theorem triple_writeJpg (image : Image) :
    SaveTriple options
      (fun w : History Image Metadata =>
        Begun task w ∧ Has task (fun frame => some image = some frame.image) w)
      (save (.writeJpg (options.filename task ++ ".jpg") image)) fun _ => Begun task := by
  apply Machine.Triple.perform (stable_begun_has options task _)
    fun _ => stable_begun options task
  · intro w hw hUndisturbed
    obtain ⟨frame, hSaving, hTimestamp, hImage⟩ := hw.2 hUndisturbed
    exact ⟨frame, task.directory, hSaving, Option.some.inj hImage, by rw [← hTimestamp]⟩
  · intro w response s hw hPerform
    cases hPerform
    exact hw.1.untouched (untouched_record rfl rfl rfl rfl rfl)

theorem triple_readMetadata :
    SaveTriple options (@Begun Image Metadata task) (save .readMetadata)
      fun photoMetadata w =>
        Done task w ∧ Has task (fun frame => photoMetadata = some frame.metadata) w := by
  apply Machine.Triple.perform (stable_begun options task) fun _ => stable_done_has options task _
  · exact fun _ _ => trivial
  · intro w photoMetadata s hw hPerform
    cases hPerform
    refine ⟨⟨⟨fun _ hUnread => (by cases hUnread), hw.kept.task⟩, hw.task, rfl⟩,
      fun hUndisturbed => ?_⟩
    obtain ⟨frame, hSaving, hTimestamp, -, hMetadata⟩ := hw.photo hUndisturbed.before
    exact ⟨frame, hSaving, hTimestamp, hMetadata⟩

theorem triple_writeMeta (photoMetadata : Option Metadata) :
    SaveTriple options
      (fun w : History Image Metadata =>
        Done task w ∧ Has task (fun frame => photoMetadata = some frame.metadata) w)
      (save (.writeMeta (options.filename task ++ ".meta.json") photoMetadata))
      fun _ => Kept := by
  apply Machine.Triple.perform (stable_done_has options task _) fun _ => stable_kept options
  · intro w hw hUndisturbed
    obtain ⟨frame, hSaving, hTimestamp, hMetadata⟩ := hw.2 hUndisturbed
    exact ⟨frame, task.directory, hSaving, hMetadata, by rw [← hTimestamp]⟩
  · intro w response s hw hPerform
    cases hPerform
    exact hw.1.kept.untouched (untouched_record rfl rfl rfl rfl rfl)

theorem triple_finish :
    SaveTriple options (@Kept Image Metadata) (save .finish)
      fun _ => Ready := by
  apply Machine.Triple.perform (stable_kept options) fun _ => stable_ready options
  · exact fun _ _ => trivial
  · intro w response s hw hPerform
    cases hPerform
    refine ⟨⟨fun hUndisturbed => hw.photo hUndisturbed.before, ?_⟩, ?_⟩
    · exact fun task hTask => nomatch hTask
    · exact fun task hTask => nomatch hTask

theorem triple_saveFrame :
    SaveTriple options (@Begun Image Metadata task)
      (saveFrame options task) fun _ => Kept := by
  refine (triple_copyPhoto options task).bind fun imgToSave => ?_
  cases imgToSave with
  | none => exact .done (stable_begun_has options task _) fun _ hw => hw.1.kept
  | some image =>
      refine (triple_writeJpg options task image).bind fun _ => ?_
      exact (triple_readMetadata options task).bind fun photoMetadata =>
        triple_writeMeta options task photoMetadata

theorem triple_jpgSave :
    SaveTriple options (@Ready Image Metadata) (jpgSave options)
      fun _ => Ready := by
  refine (triple_awaitTask options).bind fun task => ?_
  refine (triple_saveFrame options task).bind fun _ => (triple_finish options).bind fun _ => ?_
  exact .done (stable_ready options) fun _ hw => hw

end Task

def post : (t : Thread) → Option Unit → History Image Metadata → Prop
  | .camera => fun _ _ => True
  | .jpgSave => fun _ => Ready

theorem photo_contract :
    (system Image Metadata options).Contract (photoGuarantee options) (· = started) post := by
  constructor
  · rintro t s rfl
    cases t with
    | camera =>
        have hTrue := @stable_true Image Metadata options .camera
        exact Machine.Triple.mono (.done hTrue fun _ hw => hw) (fun _ _ => trivial) fun _ _ hw => hw
    | jpgSave =>
        refine Machine.Triple.mono (.done (stable_ready options) fun _ hw => hw) ?_ fun _ _ hw => hw
        rintro w rfl
        exact ⟨⟨fun _ hUnread => (nomatch hUnread), fun task hTask => (nomatch hTask)⟩,
          fun task hTask => (nomatch hTask)⟩
  · intro t locals
    cases t with
    | camera => exact triple_printFrame options
    | jpgSave => exact triple_jpgSave options

/-- In each pair of files the image and the metadata are those of the call in
which the timestamp came. -/
structure InSync (trace : Trace Image Metadata) : Prop where
  photo : ∀ later before filename image response earlier,
    trace = later ++ (before, .statement .jpgSave (.writeJpg filename image) response) :: earlier →
      ∃ frame directory, saving earlier = some frame ∧ image = frame.image ∧
        filename = options.filename ⟨directory, frame.timestamp⟩ ++ ".jpg"
  metadata : ∀ later before filename metadata response earlier,
    trace = later ++
        (before, .statement .jpgSave (.writeMeta filename metadata) response) :: earlier →
      ∃ frame directory, saving earlier = some frame ∧ metadata = some frame.metadata ∧
        filename = options.filename ⟨directory, frame.timestamp⟩ ++ ".meta.json"

end Threads

theorem Undisturbed.earlier {Image Metadata : Type} {trace later earlier : Trace Image Metadata}
    {entry : Globals Image Metadata × Label (Response Image Metadata) (Move Image Metadata)}
    (h : Undisturbed trace) (hTrace : trace = later ++ entry :: earlier) : Undisturbed earlier := by
  subst hTrace
  induction later with
  | nil => exact h.before
  | cons first rest ih => exact ih h.before

/-- In a run in which no callback leaves its frame while a task has yet to read
the photo, all files are in sync. -/
theorem photos_in_sync {Image Metadata : Type} {options : Options}
    {c : Configuration (Response Image Metadata) (fun _ => Unit) (Globals Image Metadata)
      (Move Image Metadata)}
    (h : (system Image Metadata options).Reachable started c)
    (hUndisturbed : Undisturbed c.world.trace) : InSync options c.world.trace where
  photo _ _ _ _ _ _ hTrace :=
    (photo_contract options).recorded rfl h hTrace (hUndisturbed.earlier hTrace)
  metadata _ _ _ _ _ _ hTrace :=
    (photo_contract options).recorded rfl h hTrace (hUndisturbed.earlier hTrace)

/-- A frame is received in a scan, and the task for it has written the image. -/
def untilWritten : List (Choice Thread (Move String String)) :=
  [.move (.report "SCANNING" "/media/usb/scan"), .move (.frame ⟨"first image", 1, "first"⟩)] ++
    steps .camera 7 ++ steps .jpgSave 4

/-- Two frames are received in a scan, the second one when the task for the first
has read its metadata, and the files of both are written. -/
def bothWritten : List (Choice Thread (Move String String)) :=
  untilWritten ++ steps .jpgSave 1 ++ [.move (.frame ⟨"second image", 2, "second"⟩)] ++
    steps .camera 3 ++ steps .jpgSave 2 ++ steps .camera 4 ++ steps .jpgSave 6

theorem photos_in_sync_both :
    ∃ c, (system String String ⟨0, "cam0_"⟩).run
        ((system String String ⟨0, "cam0_"⟩).initial started) bothWritten = some c ∧
      saving c.world.trace = some ⟨"second image", 2, "second"⟩ ∧
      InSync ⟨0, "cam0_"⟩ c.world.trace := by
  have hRun : (system String String ⟨0, "cam0_"⟩).run
      ((system String String ⟨0, "cam0_"⟩).initial started) bothWritten = some _ := rfl
  exact ⟨_, hRun, rfl, photos_in_sync (System.Reachable.initial.run _ hRun) rfl⟩

/-- The next frame is received before the task reads the metadata. -/
theorem next_metadata_written :
    ∃ c, (system String String ⟨0, "cam0_"⟩).Reachable started c ∧
      ¬InSync ⟨0, "cam0_"⟩ c.world.trace := by
  have hRun : (system String String ⟨0, "cam0_"⟩).run
      ((system String String ⟨0, "cam0_"⟩).initial started)
      (untilWritten ++ [.move (.frame ⟨"second image", 2, "second"⟩)] ++ steps .camera 3 ++
        steps .jpgSave 2) = some _ := rfl
  refine ⟨_, System.Reachable.initial.run _ hRun, fun hSync => ?_⟩
  obtain ⟨frame, directory, hSaving, hMetadata, -⟩ := hSync.metadata [] _ _ _ _ _ rfl
  cases hSaving
  revert hMetadata
  decide

end Mandeye.PrintFrame
