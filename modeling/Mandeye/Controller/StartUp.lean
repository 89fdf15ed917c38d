import Mandeye.Controller.Rounds

/-! The two directories of a session. Without them the controller ends up in
`USB_IO_ERROR` before its loop begins and never leaves that state. -/
namespace Mandeye.Controller

open Interleaving
open StateWatcher

/-- A directory which could not be created at the start. -/
def creationFails : Label Response Move → Bool
  | .statement .watcher (.createDirectoryForStopScans _) (none, _) => true
  | .statement .watcher (.createDirectoryForContinousScanning _) none => true
  | _ => false

/-- The directory which a creation hands to `stateWatcher`. -/
def createdDirectory : Label Response Move → Option String
  | .statement .watcher (.createDirectoryForStopScans _) (writableDir, _) => writableDir
  | .statement .watcher (.createDirectoryForContinousScanning _) writableDir => writableDir
  | _ => none

/-- The statement takes recorded data out of the client. -/
def retrieves : Label Response Move → Bool
  | .statement .watcher .retrieveData _ => true
  | _ => false

/-- One of the two directories could not be created. -/
def CreationFailed (w : History) : Prop := ∃ entry ∈ w.trace, creationFails entry.2 = true

/-- No data have been taken yet, so none can have been lost. -/
def NothingRetrieved (w : History) : Prop := ∀ entry ∈ w.trace, retrieves entry.2 = false

/-- The controller has never been in `USB_IO_ERROR`. -/
def NeverDown (w : History) : Prop :=
  w.state.appState ≠ .usbIoError ∧ ∀ entry ∈ w.trace, entry.1.appState ≠ .usbIoError

/-- Once in `USB_IO_ERROR`, always in `USB_IO_ERROR`. -/
def DownForever (w : History) : Prop :=
  ∀ entry ∈ w.trace, entry.1.appState = .usbIoError → w.state.appState = .usbIoError

/-- `USB_IO_ERROR` is entered before anything was retrieved, and at once after a
directory could not be created. -/
def startUpGuarantee : WatcherRequest → History → Prop
  | .storeAppState .usbIoError, w => DownForever w ∧ NothingRetrieved w ∧
      (w.state.appState = .waitForResources ∨ w.state.appState = .usbIoError)
  | _, w => DownForever w ∧ (CreationFailed w → w.state.appState = .usbIoError)

/-- At the start, with no failure so far. -/
def Fresh (w : History) : Prop :=
  w.state.appState = .waitForResources ∧ NeverDown w ∧ ¬CreationFailed w ∧ NothingRetrieved w

/-- A directory is missing and the state does not show it yet. -/
def Failing (w : History) : Prop :=
  w.state.appState = .waitForResources ∧ NeverDown w ∧ NothingRetrieved w

/-- The controller shows a USB error, and has nothing to lose. -/
def Down (w : History) : Prop := w.state.appState = .usbIoError ∧ NothingRetrieved w

/-- Both directories are there. -/
def Up (w : History) : Prop := NeverDown w ∧ ¬CreationFailed w

/-- Between the rounds. -/
def startUpPost : Option Locals → History → Prop
  | none, w => Down w ∨ Up w
  | some locals, w =>
      Down w ∨ (locals.stopScanDirectory ≠ "" ∧ locals.continousScanDirectory ≠ "") ∧ Up w

section Histories

variable {w : History} {label : Label Response Move} {s : Controller}

/-- Neither a failing creation nor a retrieval. -/
def Neutral (label : Label Response Move) : Prop :=
  creationFails label = false ∧ retrieves label = false

/-- Only the watcher creates directories and retrieves data. -/
theorem neutral_of_not_byWatcher (h : ¬ByWatcher label) : Neutral label := by
  cases label, h using not_byWatcher_cases with
  | move action => exact ⟨rfl, rfl⟩
  | livox request response => exact ⟨rfl, rfl⟩
  | gpio request response => exact ⟨rfl, rfl⟩
  | gnss request response => exact ⟨rfl, rfl⟩

/-- A quiet statement does neither. -/
theorem Quiet.neutral {request : WatcherRequest} (hQuiet : Quiet request)
    (response : request.Response) : Neutral (.statement .watcher request response) := by
  cases request with
  | createDirectoryForStopScans idManifest => exact hQuiet.elim
  | createDirectoryForContinousScanning idManifest => exact hQuiet.elim
  | retrieveData => exact hQuiet.elim
  | _ => exact ⟨rfl, rfl⟩

/-- A failure is the one of the last action or an older one. -/
theorem creationFailed_record :
    CreationFailed (w.record label s) ↔ creationFails label = true ∨ CreationFailed w := by
  simp [CreationFailed, World.record]

/-- The same for a retrieval. -/
theorem nothingRetrieved_record :
    NothingRetrieved (w.record label s) ↔ retrieves label = false ∧ NothingRetrieved w := by
  simp [NothingRetrieved, World.record]

theorem NeverDown.record (h : NeverDown w) (hState : s.appState ≠ .usbIoError) :
    NeverDown (w.record label s) :=
  ⟨hState, List.forall_mem_cons.mpr h⟩

/-- What has never begun has not ended. -/
theorem NeverDown.downForever (h : NeverDown w) : DownForever w :=
  fun entry hEntry hDown => absurd hDown (h.2 entry hEntry)

/-- The error is there now. -/
theorem Down.downForever (h : Down w) : DownForever w := fun _ _ _ => h.1

end Histories

section Histories

variable {w : History} {label : Label Response Move} {s : Controller}

/-- At the start a neutral action changes nothing of this. -/
theorem Fresh.record (h : Fresh w) (hLabel : Neutral label)
    (hState : s.appState = w.state.appState) : Fresh (w.record label s) := by
  obtain ⟨hWait, hNever, hCreated, hNothing⟩ := h
  refine ⟨hState.trans hWait, hNever.record (by rw [hState]; exact hNever.1), ?_, ?_⟩
  · simpa [creationFailed_record, hLabel.1] using hCreated
  · exact nothingRetrieved_record.mpr ⟨hLabel.2, hNothing⟩

/-- Nor does it when a directory is missing. -/
theorem Failing.record (h : Failing w) (hLabel : Neutral label)
    (hState : s.appState = w.state.appState) : Failing (w.record label s) := by
  obtain ⟨hWait, hNever, hNothing⟩ := h
  exact ⟨hState.trans hWait, hNever.record (by rw [hState]; exact hNever.1),
    nothingRetrieved_record.mpr ⟨hLabel.2, hNothing⟩⟩

/-- An error stays as long as no request changes the state, which none does. -/
theorem Down.record (h : Down w) (hLabel : Neutral label)
    (hState : s.appState = w.state.appState) : Down (w.record label s) :=
  ⟨hState.trans h.1, nothingRetrieved_record.mpr ⟨hLabel.2, h.2⟩⟩

/-- After the start a retrieval is allowed, too. -/
theorem Up.record (h : Up w) (hLabel : creationFails label = false)
    (hState : s.appState ≠ .usbIoError) : Up (w.record label s) :=
  ⟨h.1.record hState, by simpa [creationFailed_record, hLabel] using h.2⟩

/-- For any statement but the one which gives up, the guarantee is the same. -/
theorem startUpGuarantee_of_ne {request : WatcherRequest}
    (hRequest : request ≠ .storeAppState .usbIoError)
    (h : DownForever w ∧ (CreationFailed w → w.state.appState = .usbIoError)) :
    startUpGuarantee request w := by
  unfold startUpGuarantee
  split
  · exact absurd rfl hRequest
  · exact h

/-- Anything may be done in an error. -/
theorem Down.allows (h : Down w) (request : WatcherRequest) : startUpGuarantee request w := by
  by_cases hRequest : request = .storeAppState .usbIoError
  · subst hRequest
    exact ⟨h.downForever, h.2, .inr h.1⟩
  · exact startUpGuarantee_of_ne hRequest ⟨h.downForever, fun _ => h.1⟩

/-- Anything may be done at the start, and giving up as well. -/
theorem Fresh.allows (h : Fresh w) (request : WatcherRequest) : startUpGuarantee request w := by
  by_cases hRequest : request = .storeAppState .usbIoError
  · subst hRequest
    exact ⟨h.2.1.downForever, h.2.2.2, .inl h.1⟩
  · exact startUpGuarantee_of_ne hRequest
      ⟨h.2.1.downForever, fun hFailed => absurd hFailed h.2.2.1⟩

theorem Up.allows (h : Up w) {request : WatcherRequest}
    (hRequest : request ≠ .storeAppState .usbIoError) : startUpGuarantee request w :=
  startUpGuarantee_of_ne hRequest ⟨h.1.downForever, fun hFailed => absurd hFailed h.2⟩

end Histories

section Triples

variable (settings : Settings)

/-- An assertion about a state which no request changes. -/
theorem robust_of_record {A : History → Prop}
    (hState : ∀ w, A w → w.state.appState = .waitForResources ∨ w.state.appState = .usbIoError)
    (hRecord : ∀ w label s, A w → Neutral label → s.appState = w.state.appState →
      A (w.record label s))
    (hAllows : ∀ w request, A w → Quiet request → startUpGuarantee request w) :
    Robust settings startUpGuarantee A where
  stable := by
    intro w w' h hw
    obtain ⟨label, s, rfl, hOther, hSame | hRequested⟩ := interference_record h
    · exact hRecord w label s hw (neutral_of_not_byWatcher hOther) hSame
    · obtain ⟨hWait, hUsb, -⟩ := hRequested.permanent
      exact ((hState w hw).elim hWait hUsb).elim
  quiet request hQuiet w hw :=
    ⟨hAllows w request hw hQuiet, fun response s hPerform =>
      hRecord w _ s hw (hQuiet.neutral response) (hQuiet.sameData hPerform).appState⟩

/-- Neither the other threads nor quiet code end the start. -/
theorem robust_fresh : Robust settings startUpGuarantee Fresh :=
  robust_of_record settings (fun _ h => .inl h.1) (fun _ _ _ h => h.record)
    fun _ request h _ => h.allows request

/-- Neither ends an error. -/
theorem robust_down : Robust settings startUpGuarantee Down :=
  robust_of_record settings (fun _ h => .inr h.1) (fun _ _ _ h => h.record)
    fun _ request h _ => h.allows request

/-- Until the store the other threads leave it at that. -/
theorem stable_failing : WatcherStable settings startUpGuarantee Failing := by
  intro w w' h hw
  obtain ⟨label, s, rfl, hOther, hSame | hRequested⟩ := interference_record h
  · exact hw.record (neutral_of_not_byWatcher hOther) hSame
  · exact absurd hw.1 hRequested.permanent.1

/-- A request never makes an error of the USB stick. -/
theorem stable_up : WatcherStable settings startUpGuarantee Up := by
  intro w w' h hw
  obtain ⟨label, s, rfl, hOther, hSame | hRequested⟩ := interference_record h
  · exact hw.record (neutral_of_not_byWatcher hOther).1 (hSame ▸ hw.1.1)
  · exact hw.record (neutral_of_not_byWatcher hOther).1 hRequested.permanent.2.2

/-- To give up is to store the error, where it is allowed. -/
theorem triple_down {A : History → Prop} (hStable : WatcherStable settings startUpGuarantee A)
    (hAllows : ∀ w, A w → startUpGuarantee (.storeAppState .usbIoError) w) :
    WatcherTriple settings startUpGuarantee A (call (.storeAppState .usbIoError))
      fun _ => Down := by
  refine .perform hStable (fun _ => (robust_down settings).stable) hAllows ?_
  intro w response s hw hPerform
  cases hPerform
  exact ⟨rfl, nothingRetrieved_record.mpr ⟨rfl, (hAllows w hw).2.1⟩⟩

/-- A missing directory is a reason to give up. -/
theorem Failing.allows {w : History} (h : Failing w) :
    startUpGuarantee (.storeAppState .usbIoError) w :=
  ⟨h.2.1.downForever, h.2.2, .inl h.1⟩

/-- A creation, seen from the state before it. -/
def Created (writableDir : Option String) (w : History) : Prop :=
  match writableDir with
  | none => Failing w
  | some path => path ≠ "" ∧ Fresh w

/-- The other threads do not change what a creation has led to. -/
theorem stable_created (writableDir : Option String) :
    WatcherStable settings startUpGuarantee (Created writableDir) := by
  cases writableDir with
  | none => exact stable_failing settings
  | some path => exact (Machine.Stable.const _).and (robust_fresh settings).stable

theorem Fresh.created {w : History} {request : WatcherRequest} {response : request.Response}
    {s : Controller} (h : Fresh w) (writableDir : Option String)
    (hState : s.appState = w.state.appState)
    (hRetrieves : retrieves (.statement .watcher request response) = false)
    (hFails : creationFails (.statement .watcher request response) = writableDir.isNone)
    (hPath : ∀ path, writableDir = some path → path ≠ "") :
    Created writableDir (w.record (.statement .watcher request response) s) := by
  cases writableDir with
  | none =>
      exact ⟨hState.trans h.1, h.2.1.record (by rw [hState]; exact h.2.1.1),
        nothingRetrieved_record.mpr ⟨hRetrieves, h.2.2.2⟩⟩
  | some path => exact ⟨hPath path rfl, h.record ⟨hFails, hRetrieves⟩ hState⟩

/-- A path which is returned is not empty. -/
theorem yields_createDirectory (path : String) :
    (FileSystemClient.createDirectory path).Yields fun writableDir =>
      ∀ created, writableDir = some created → created ≠ "" := by
  intro response created hCreated
  split_ifs at hCreated with h
  cases hCreated
  exact h.2

/-- The same for the directory for stop scans. -/
theorem yields_createDirectoryForStopScans (client : FileSystemClient) (idManifest : Int32) :
    (client.createDirectoryForStopScans idManifest).Yields fun result =>
      ∀ created, result.1.1 = some created → created ≠ "" := by
  refine .bind (.of_forall _ fun _ => trivial) fun writable _ => ?_
  cases writable with
  | false => exact fun created hCreated => by cases hCreated
  | true =>
      refine .bind (.of_forall _ fun _ => trivial) fun next _ => ?_
      exact .bind (yields_createDirectory _) fun writableDir h => h

theorem yields_createDirectoryForContinousScanning (client : FileSystemClient)
    (idManifest : Int32) :
    (client.createDirectoryForContinousScanning idManifest).Yields fun result =>
      ∀ created, result.1 = some created → created ≠ "" := by
  refine .bind (.of_forall _ fun _ => trivial) fun writable _ => ?_
  cases writable with
  | false => exact fun created hCreated => by cases hCreated
  | true => exact .bind (yields_createDirectory _) fun writableDir h => h

theorem triple_createDirectoryForStopScans (idManifest : Int32) :
    WatcherTriple settings startUpGuarantee Fresh (call (.createDirectoryForStopScans idManifest))
      fun result => Created result.1 := by
  refine .perform (robust_fresh settings).stable (fun result => stable_created settings result.1)
    (fun w hw => hw.allows (.createDirectoryForStopScans idManifest)) ?_
  intro w result s hw hPerform
  obtain ⟨client, _, _, -, hResult, rfl⟩ := withFileSystem_returns hPerform
  have hFails : creationFails (.statement .watcher (.createDirectoryForStopScans idManifest)
      result) = result.1.isNone := by
    obtain ⟨_ | _, _⟩ := result <;> rfl
  refine hw.created result.1 rfl rfl hFails ?_
  rw [hResult]
  exact (yields_createDirectoryForStopScans client idManifest).execute _ _

theorem triple_createDirectoryForContinousScanning (idManifest : Int32) :
    WatcherTriple settings startUpGuarantee Fresh
      (call (.createDirectoryForContinousScanning idManifest)) Created := by
  refine .perform (robust_fresh settings).stable (stable_created settings)
    (fun w hw => hw.allows (.createDirectoryForContinousScanning idManifest)) ?_
  intro w writableDir s hw hPerform
  obtain ⟨client, _, _, -, hResult, rfl⟩ := withFileSystem_returns hPerform
  have hFails : creationFails (.statement .watcher
      (.createDirectoryForContinousScanning idManifest) writableDir) = writableDir.isNone := by
    cases writableDir <;> rfl
  refine hw.created writableDir rfl rfl hFails ?_
  rw [hResult]
  exact (yields_createDirectoryForContinousScanning client idManifest).execute _ _

/-- Already in `USB_IO_ERROR`, a creation changes nothing. -/
theorem triple_down_createDirectoryForContinousScanning (idManifest : Int32) :
    WatcherTriple settings startUpGuarantee Down
      (call (.createDirectoryForContinousScanning idManifest)) fun _ => Down := by
  refine .perform (robust_down settings).stable (fun _ => (robust_down settings).stable)
    (fun w hw => hw.allows (.createDirectoryForContinousScanning idManifest)) ?_
  intro w writableDir s hw hPerform
  obtain ⟨client, _, _, -, -, rfl⟩ := withFileSystem_returns hPerform
  exact ⟨hw.1, nothingRetrieved_record.mpr ⟨rfl, hw.2⟩⟩

/-- After a failed creation the state shows it. -/
theorem triple_checkCreated (writableDir : Option String) :
    WatcherTriple settings startUpGuarantee (Created writableDir)
      (.when writableDir.isNone (call (.storeAppState .usbIoError)))
      fun _ w => Down w ∨ writableDir.getD "" ≠ "" ∧ Fresh w := by
  cases writableDir with
  | none =>
      have hDown := triple_down settings (stable_failing settings) fun w hw => hw.allows
      exact hDown.mono (fun _ h => h) fun _ _ h => .inl h
  | some path => exact triple_return () (stable_created settings (some path)) fun w hw => .inr hw

theorem stable_downOrFresh : WatcherStable settings startUpGuarantee fun w => Down w ∨ Fresh w :=
  (robust_down settings).stable.or (robust_fresh settings).stable

theorem triple_createStopScanDirectory :
    WatcherTriple settings startUpGuarantee Fresh createStopScanDirectory
      fun _ w => Down w ∨ Fresh w := by
  refine (robust_fresh settings).statement (.isSet .fileSystemClientPtr) trivial fun isSet => ?_
  cases isSet with
  | false => exact triple_return ("", 0) (robust_fresh settings).stable fun w hw => .inr hw
  | true =>
      refine (triple_createDirectoryForStopScans settings 0).bind fun result => ?_
      refine (triple_checkCreated settings result.1).bind fun _ => ?_
      refine triple_return _ ?_ fun w hw => hw.imp_right And.right
      exact (robust_down settings).stable.or
        ((Machine.Stable.const _).and (robust_fresh settings).stable)

/-- The state is set once more if the first directory is missing. -/
theorem triple_checkStopScanDirectory (stopScanDirectory : String) :
    WatcherTriple settings startUpGuarantee (fun w => Down w ∨ Fresh w)
      (.when (stopScanDirectory = "") (call (.storeAppState .usbIoError)))
      fun _ w => Down w ∨ stopScanDirectory ≠ "" ∧ Fresh w := by
  refine .when (fun _ => ?_) fun hNonempty => ?_
  · refine (triple_down settings (stable_downOrFresh settings) ?_).mono (fun _ h => h)
      fun _ _ h => .inl h
    rintro w (hw | hw)
    · exact hw.allows (.storeAppState .usbIoError)
    · exact hw.allows (.storeAppState .usbIoError)
  · exact triple_return () (stable_downOrFresh settings) fun w hw =>
      hw.imp_right fun h => ⟨of_decide_eq_false hNonempty, h⟩

theorem triple_createDirectories :
    WatcherTriple settings startUpGuarantee Fresh createDirectories
      fun result w => Down w ∨ (result.1 ≠ "" ∧ result.2 ≠ "") ∧ Fresh w := by
  have hReturn : ∀ result : String × String, WatcherTriple settings startUpGuarantee
      (fun w => Down w ∨ (result.1 ≠ "" ∧ result.2 ≠ "") ∧ Fresh w) (return result)
      fun result w => Down w ∨ (result.1 ≠ "" ∧ result.2 ≠ "") ∧ Fresh w := fun result =>
    triple_return result ((robust_down settings).stable.or
      ((Machine.Stable.const _).and (robust_fresh settings).stable)) fun w hw => hw
  refine (triple_createStopScanDirectory settings).bind fun ⟨stopScanDirectory, idManifest⟩ => ?_
  refine (triple_checkStopScanDirectory settings stopScanDirectory).bind fun _ => .or ?_ ?_
  · refine (triple_down_createDirectoryForContinousScanning settings idManifest).bind
      fun writableDir => ?_
    have hDown : WatcherTriple settings startUpGuarantee Down
        (.when writableDir.isNone (call (.storeAppState .usbIoError))) fun _ => Down :=
      .when (fun _ => triple_down settings (robust_down settings).stable fun w hw => hw.allows _)
        fun _ => triple_return () (robust_down settings).stable fun w hw => hw
    exact hDown.bind fun _ => (hReturn _).mono (fun w hw => .inl hw) fun _ _ h => h
  · refine .of_fact fun hStopScan => ?_
    refine (triple_createDirectoryForContinousScanning settings idManifest).bind
      fun writableDir => (triple_checkCreated settings writableDir).bind fun _ => ?_
    refine (hReturn (stopScanDirectory, writableDir.getD "")).mono ?_ fun _ _ h => h
    exact fun w hw => hw.imp_right fun h => ⟨⟨hStopScan, h.1⟩, h.2⟩

theorem Fresh.initial {s : Controller} (h : s.Initial) : Fresh ⟨s, []⟩ := by
  refine ⟨h.appState, ⟨?_, by simp⟩, by simp [CreationFailed], by simp [NothingRetrieved]⟩
  rw [h.appState]
  decide

theorem triple_startUp :
    WatcherTriple settings startUpGuarantee Fresh startUp startUpPost := by
  refine (robust_fresh settings).statement .steadyClockNow trivial fun chunkStart => ?_
  refine (robust_fresh settings).statement .steadyClockNow trivial fun stopScanDeadline => ?_
  refine (robust_fresh settings).statement .steadyClockNow trivial fun initialDeadline => ?_
  refine (triple_createDirectories settings).bind fun directories => ?_
  refine triple_return _ ?_ fun w hw => ?_
  · exact (robust_down settings).stable.or
      ((Machine.Stable.const _).and (robust_fresh settings).stable)
  · exact hw.imp_right fun h => ⟨h.1, h.2.2.1, h.2.2.2.1⟩

end Triples

end Mandeye.Controller
