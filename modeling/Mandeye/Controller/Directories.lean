import Mandeye.Controller.StartUp

/-! What is known of the two directories in every round, and so of the branches
which would throw retrieved data away for want of a directory. -/
namespace Mandeye.Controller

open Interleaving
open StateWatcher

section Issues

/-- The statements which neither create a directory nor give up. -/
def Harmless : WatcherRequest → Prop
  | .createDirectoryForStopScans _ => False
  | .createDirectoryForContinousScanning _ => False
  | .storeAppState state => state ≠ .usbIoError
  | _ => True

/-- A plain statement stores no state at all, so it cannot give up. -/
theorem Plain.harmless (request : WatcherRequest) (h : Plain request) : Harmless request := by
  cases request with
  | createDirectoryForStopScans idManifest => exact h.elim
  | createDirectoryForContinousScanning idManifest => exact h.elim
  | storeAppState state => exact h.elim
  | _ => trivial

theorem Quiet.harmless (request : WatcherRequest) (h : Quiet request) : Harmless request :=
  h.plain.harmless

theorem Calm.harmless (request : WatcherRequest) (h : Calm request) : Harmless request :=
  h.quiet.harmless

/-- Quiet code is harmless as a whole. -/
theorem harmless_of_quiet {Result : Type} {code : Code Result} (h : code.Issues Quiet) :
    code.Issues Harmless :=
  h.mono Quiet.harmless

/-- A store is harmless unless it is that of a USB error. -/
theorem harmless_store {state : States} (h : state ≠ .usbIoError) :
    Harmless (.storeAppState state) := h

variable (settings : Settings) {locals : Locals}

/-- The tests which select a branch are harmless. -/
theorem issues_isAnyOf (states : List States) : (isAnyOf states).Issues Harmless := by
  induction states with
  | nil => exact .done
  | cons state rest ih =>
      refine .bind (.perform trivial) fun found => ?_
      cases found with
      | false => exact ih
      | true => exact .done

/-- So is the chain if its branches are. -/
theorem issues_elseIf {Result : Type} {otherwise : Code Result}
    {entries : List (List States × Code Result)} (hOtherwise : otherwise.Issues Harmless)
    (hEntries : ∀ entry ∈ entries, entry.2.Issues Harmless) :
    (elseIf otherwise entries).Issues Harmless := by
  induction entries with
  | nil => exact hOtherwise
  | cons entry rest ih =>
      refine .bind (issues_isAnyOf entry.1) fun entered => ?_
      cases entered with
      | false => exact ih fun other hOther => hEntries other (List.mem_cons_of_mem _ hOther)
      | true => exact hEntries entry List.mem_cons_self

/-- With both directories no branch gives up. -/
theorem issues_round (hStopScan : locals.stopScanDirectory ≠ "")
    (hContinous : locals.continousScanDirectory ≠ "") :
    (round settings locals).Issues Harmless := by
  refine .bind (.perform trivial) fun running => ?_
  cases running with
  | false => exact .done
  | true =>
      refine .bind (harmless_of_quiet issues_publishState) fun _ => ?_
      refine .bind (.perform trivial) fun _ => ?_
      refine .bind (.when (harmless_of_quiet (issues_showError _ _ _ _ _))) fun _ => ?_
      refine .bind (issues_elseIf .done ?_) fun _ => .done
      have hWorking : ∀ request, Working request → Harmless request :=
        fun request h => (h.plain request).harmless
      intro entry hEntry
      simp only [branches, List.mem_cons, List.not_mem_nil, or_false] at hEntry
      rcases hEntry with rfl | rfl | rfl | rfl | rfl | rfl | rfl | rfl | rfl | rfl
      · exact issues_usbIoError Calm.harmless settings locals
      · exact issues_waitForResources Quiet.harmless settings locals (harmless_store (by decide))
      · exact issues_idle Calm.harmless settings locals (harmless_store (by decide))
          (harmless_store (by decide))
      · exact issues_startingScan Calm.harmless locals trivial trivial (harmless_store (by decide))
      · exact issues_scanning locals hWorking (fun _ => trivial) (harmless_store (by decide))
          (fun _ => trivial) (fun _ => trivial) fun h => absurd h hContinous
      · exact issues_stopping locals hWorking (harmless_store (by decide)) trivial fun h =>
          absurd h hContinous
      · exact issues_startingStopScan Calm.harmless locals (harmless_store (by decide))
      · exact issues_stopScanInInitialProgress Calm.harmless locals trivial trivial
          (harmless_store (by decide))
      · exact issues_stopScanInProgress Calm.harmless locals (harmless_store (by decide))
      · exact issues_stopingStopScan locals hWorking (harmless_store (by decide)) trivial fun h =>
          absurd h hStopScan

end Issues

section Directories

variable (settings : Settings) (locals : Locals)

/-- The directories are never assigned again. -/
def SameDirectories (result : Locals) : Prop :=
  result.stopScanDirectory = locals.stopScanDirectory ∧
    result.continousScanDirectory = locals.continousScanDirectory

/-- Ending a chunk only counts the chunks and starts the time of the next one. -/
theorem yields_rotateChunk : (rotateChunk locals).Yields (SameDirectories locals) := by
  repeat refine .after fun _ => ?_
  split_ifs
  · exact .after fun _ => ⟨rfl, rfl⟩
  · repeat refine .after fun _ => ?_
    exact ⟨rfl, rfl⟩

/-- The directories are the same whether or not the chunk is ended. -/
theorem yields_checkChunk (now : Int) :
    (checkChunk now locals).Yields (SameDirectories locals) := by
  refine .after fun chunkEnds => ?_
  split_ifs
  · exact yields_rotateChunk locals
  · exact ⟨rfl, rfl⟩

/-- The stages of the confirmation give back what the chunk has left. -/
theorem yields_scanning : (scanning locals).Yields (SameDirectories locals) := by
  refine .after fun _ => .after fun now => .after fun _ => .after fun _ => ?_
  refine .bind (yields_checkChunk locals now) fun rotated hRotated => ?_
  exact .after fun _ => .after fun _ => .after fun _ => hRotated

/-- `STOPPING` counts one more experiment, with or without a directory. -/
theorem yields_stopping : (stopping locals).Yields (SameDirectories locals) := by
  repeat refine .after fun _ => ?_
  split_ifs
  · exact .after fun _ => ⟨rfl, rfl⟩
  · repeat refine .after fun _ => ?_
    exact ⟨rfl, rfl⟩

/-- The end of a stop scan counts in the same way. -/
theorem yields_stopingStopScan : (stopingStopScan locals).Yields (SameDirectories locals) := by
  repeat refine .after fun _ => ?_
  split_ifs
  · exact .after fun _ => ⟨rfl, rfl⟩
  · repeat refine .after fun _ => ?_
    exact ⟨rfl, rfl⟩

/-- The chain gives back what one of its branches does. -/
theorem yields_elseIf {Result : Type} {P : Result → Prop} {otherwise : Code Result}
    {entries : List (List States × Code Result)} (hOtherwise : otherwise.Yields P)
    (hEntries : ∀ entry ∈ entries, entry.2.Yields P) : (elseIf otherwise entries).Yields P := by
  induction entries with
  | nil => exact hOtherwise
  | cons entry rest ih =>
      refine .after fun entered => ?_
      split_ifs
      · exact hEntries entry List.mem_cons_self
      · exact ih fun other hOther => hEntries other (List.mem_cons_of_mem _ hOther)

/-- No branch assigns a directory. -/
theorem yields_branches :
    ∀ entry ∈ branches settings locals, entry.2.Yields (SameDirectories locals) := by
  intro entry hEntry
  simp only [branches, List.mem_cons, List.not_mem_nil, or_false] at hEntry
  rcases hEntry with rfl | rfl | rfl | rfl | rfl | rfl | rfl | rfl | rfl | rfl
  · exact .after fun _ => ⟨rfl, rfl⟩
  · repeat refine .after fun _ => ?_
    exact ⟨rfl, rfl⟩
  · repeat refine .after fun _ => ?_
    exact ⟨rfl, rfl⟩
  · repeat refine .after fun _ => ?_
    exact ⟨rfl, rfl⟩
  · exact yields_scanning locals
  · exact yields_stopping locals
  · repeat refine .after fun _ => ?_
    exact ⟨rfl, rfl⟩
  · refine .after fun now => ?_
    split_ifs
    · exact .after fun _ => ⟨rfl, rfl⟩
    · exact .after fun _ => ⟨rfl, rfl⟩
  · exact .after fun _ => .after fun _ => ⟨rfl, rfl⟩
  · exact yields_stopingStopScan locals

/-- What a round passes on to the next one has the directories it was given. -/
theorem yields_round : (round settings locals).Yields fun result =>
    ∀ next, result = some next → SameDirectories locals next := by
  refine .after fun running => ?_
  split_ifs
  · refine .after fun _ => .after fun _ => .after fun _ => ?_
    have hOtherwise : (return locals : Code Locals).Yields (SameDirectories locals) := ⟨rfl, rfl⟩
    refine .bind (yields_elseIf hOtherwise (yields_branches settings locals))
      fun result hResult => ?_
    intro next hNext
    cases hNext
    exact hResult
  · exact fun next hNext => by cases hNext

end Directories

section Rounds

variable (settings : Settings)

/-- Only a store can lead to a USB error, and a harmless one does not. -/
theorem performWatcher_harmless {request : WatcherRequest} {response : request.Response}
    {s s' : Controller} (hHarmless : Harmless request) (hState : s.appState ≠ .usbIoError)
    (h : performWatcher settings request s = .returns response s') :
    s'.appState ≠ .usbIoError := by
  rcases performWatcher_appState h with hSame | hStore
  · rwa [hSame]
  · subst hStore
    exact hHarmless

/-- A harmless statement creates no directory, so it cannot fail to. -/
theorem Harmless.not_creationFails {request : WatcherRequest} (h : Harmless request)
    (response : request.Response) :
    creationFails (.statement .watcher request response) = false := by
  cases request with
  | createDirectoryForStopScans idManifest => exact h.elim
  | createDirectoryForContinousScanning idManifest => exact h.elim
  | _ => rfl

/-- A harmless statement is not the one with which the watcher gives up. -/
theorem Harmless.ne_down {request : WatcherRequest} (h : Harmless request) :
    request ≠ .storeAppState .usbIoError := by
  rintro rfl
  exact h rfl

/-- As long as all goes well a harmless statement keeps it so. -/
theorem preserves_up {request : WatcherRequest} (hHarmless : Harmless request) :
    (machine settings).Preserves (guarantee startUpGuarantee) .watcher Up request :=
  fun _ hw => ⟨hw.allows hHarmless.ne_down, fun response _ hPerform =>
    hw.record (hHarmless.not_creationFails response)
      (performWatcher_harmless settings hHarmless hw.1.1 hPerform)⟩

/-- With both directories a whole round is harmless, and passes both of them on. -/
theorem triple_round_up {locals : Locals} (hStopScan : locals.stopScanDirectory ≠ "")
    (hContinous : locals.continousScanDirectory ≠ "") :
    WatcherTriple settings startUpGuarantee Up (round settings locals) startUpPost := by
  have hIssues : (round settings locals).Issues
      ((machine settings).Preserves (guarantee startUpGuarantee) .watcher Up) :=
    (issues_round settings hStopScan hContinous).mono fun _ h => preserves_up settings h
  have hKeeps : WatcherTriple settings startUpGuarantee Up (round settings locals) fun _ => Up :=
    Machine.Keeps.of_issues (stable_up settings) hIssues
  refine (hKeeps.yields (yields_round settings locals)).mono (fun _ h => h) ?_
  rintro (_ | next) w ⟨hNext, hw⟩
  · exact .inr hw
  · obtain ⟨hSame, hSame'⟩ := hNext next rfl
    exact .inr ⟨⟨hSame ▸ hStopScan, hSame' ▸ hContinous⟩, hw⟩

/-- In `USB_IO_ERROR` only the branch of this state is entered. -/
theorem observes_down : Observes settings startUpGuarantee Down
    fun state w => state = .usbIoError ∧ Down w where
  robust := robust_down settings
  entered _ := (Machine.Stable.const _).and (robust_down settings).stable
  allowed state _ hw := hw.allows (.testAppState state)
  found _ hw := ⟨hw.1, hw.record ⟨rfl, rfl⟩ rfl⟩
  notFound _ _ hw _ := hw.record ⟨rfl, rfl⟩ rfl

/-- After a failure every round shows the error and does nothing else. -/
theorem triple_round_down (locals : Locals) :
    WatcherTriple settings startUpGuarantee Down (round settings locals) startUpPost := by
  have hOther : ∀ {Result : Type} {state : States} {code : Code Result}
      {Q : Result → History → Prop}, state ≠ .usbIoError →
        WatcherTriple settings startUpGuarantee (fun w => state = .usbIoError ∧ Down w) code Q :=
    fun hState => .of_fact fun h => absurd h hState
  refine (observes_down settings).round (hOther (by decide)) ?_ (fun _ => .inl) fun _ => .inl
  constructor
  case usbIoError =>
    refine .of_fact fun _ => (robust_down settings).before (issues_showError _ _ _ _ _) fun _ => ?_
    exact triple_return locals (robust_down settings).stable fun _ => .inl
  case scanning =>
    rintro state (rfl | rfl | rfl)
    all_goals exact hOther (by decide)
  all_goals exact hOther (by decide)

/-- The rounds go on in whichever of the two ways the creation has decided. -/
theorem startUp_contract : (system settings).Contract (guarantee startUpGuarantee)
    Controller.Initial (posts startUpPost) := by
  refine contract_of_watcher (fun s hInitial => ?_) fun locals =>
    .or (triple_round_down settings locals) ?_
  · refine (triple_startUp settings).mono ?_ fun _ _ h => h
    rintro w rfl
    exact .initial hInitial
  · exact .of_fact fun hDirectories => triple_round_up settings hDirectories.1 hDirectories.2

/-- After a failed creation the state is that of a USB error, or the very next
statement stores it. -/
theorem startUpGuarantee.failed {request : WatcherRequest} {w : History}
    (h : startUpGuarantee request w) (hFailed : CreationFailed w) :
    w.state.appState = .usbIoError ∨
      w.state.appState = .waitForResources ∧ request = .storeAppState .usbIoError := by
  unfold startUpGuarantee at h
  split at h
  · exact h.2.2.symm.imp_right fun hWait => ⟨hWait, rfl⟩
  · exact .inl (h.2 hFailed)

/-- Every statement finds that an error which has been stored is still there. -/
theorem startUpGuarantee.downForever {request : WatcherRequest} {w : History}
    (h : startUpGuarantee request w) : DownForever w := by
  unfold startUpGuarantee at h
  split at h
  · exact h.1
  · exact h.1

/-- After a round either a creation had failed or none had. -/
theorem startUpPost.downOrUp {result : Option Locals} {w : History} (h : startUpPost result w) :
    Down w ∨ Up w := by
  cases result with
  | none => exact h
  | some locals => exact h.imp_right And.right

/-- The file system client answers with a path which it has put together, or with
none. -/
theorem createdDirectory_ne_empty {s : Controller}
    {c : Configuration Response Local Controller Move} (h : (system settings).Reachable s c)
    {entry : Controller × Label Response Move} (hEntry : entry ∈ c.world.trace) {path : String}
    (hPath : createdDirectory entry.2 = some path) : path ≠ "" := by
  obtain ⟨before, label⟩ := entry
  dsimp only at hPath
  unfold createdDirectory at hPath
  split at hPath
  · rename_i idManifest writableDir chosen
    subst hPath
    obtain ⟨after, hPerform⟩ := h.performed hEntry
    obtain ⟨client, _, _, -, hResult, -⟩ := withFileSystem_returns hPerform
    exact (yields_createDirectoryForStopScans client idManifest).execute _ _ path
      (congrArg Prod.fst hResult).symm
  · subst hPath
    obtain ⟨after, hPerform⟩ := h.performed hEntry
    obtain ⟨client, _, _, -, hResult, -⟩ := withFileSystem_returns hPerform
    exact (yields_createDirectoryForContinousScanning client _).execute _ _ path hResult.symm
  · cases hPath

/-- If a directory cannot be created, `USB_IO_ERROR` is the next state and the
last one. If both are created, their names are never empty, and nothing that
was retrieved is ever thrown away for want of a directory. -/
theorem creation_decides {settings : Settings} {s : Controller} (hInitial : s.Initial)
    {c : Configuration Response Local Controller Move} (h : (system settings).Reachable s c) :
    (CreationFailed c.world → c.world.state.appState = .usbIoError ∨
      c.world.state.appState = .waitForResources ∧
        ∃ rest, c.code .watcher = .call (.storeAppState .usbIoError) rest) ∧
    (∀ entry ∈ c.world.trace, entry.1.appState = .usbIoError →
      c.world.state.appState = .usbIoError) ∧
    (∀ entry ∈ c.world.trace, ∀ path, createdDirectory entry.2 = some path → path ≠ "") ∧
    (∀ locals, c.code .watcher = .done (some locals) → c.world.state.appState ≠ .usbIoError →
      locals.stopScanDirectory ≠ "" ∧ locals.continousScanDirectory ≠ "") ∧
    (∀ later earlier before, c.world.trace =
      later ++ (before, .statement .watcher (.storeAppState .usbIoError) ()) :: earlier →
        ∀ entry ∈ earlier, retrieves entry.2 = false) := by
  have hContract := startUp_contract settings
  refine ⟨fun hFailed => ?_, ?_, fun entry hEntry path hPath => ?_, fun locals hCode hUp => ?_,
    fun later earlier before hTrace => ?_⟩
  · cases hCode : c.code .watcher with
    | done result =>
        rcases (hContract.at_end hInitial h hCode).downOrUp with hDown | hUp
        · exact .inl hDown.1
        · exact absurd hFailed hUp.2
    | call request rest =>
        rcases (hContract.at_statement hInitial h hCode).failed hFailed with
          hDown | ⟨hWait, rfl⟩
        · exact .inl hDown
        · exact .inr ⟨hWait, rest, rfl⟩
  · cases hCode : c.code .watcher with
    | done result =>
        rcases (hContract.at_end hInitial h hCode).downOrUp with hDown | hUp
        · exact hDown.downForever
        · exact hUp.1.downForever
    | call request rest => exact (hContract.at_statement hInitial h hCode).downForever
  · exact createdDirectory_ne_empty settings h hEntry hPath
  · rcases hContract.at_end hInitial h hCode with hDown | ⟨hDirectories, -⟩
    · exact absurd hDown.1 hUp
    · exact hDirectories
  · exact (hContract.recorded hInitial h hTrace).2.1

end Rounds

/-- On a write-protected stick the first creation fails. -/
theorem creation_decides_protected :
    ∃ c, (system plainSettings).run ((system plainSettings).initial (switchedOn false))
      (steps .watcher 5) = some c ∧
    (c.world.state.appState = .usbIoError ∨ c.world.state.appState = .waitForResources ∧
      ∃ rest, c.code .watcher = .call (.storeAppState .usbIoError) rest) := by
  have hRun : (system plainSettings).run ((system plainSettings).initial (switchedOn false))
      (steps .watcher 5) = some _ := rfl
  have hReachable := System.Reachable.initial.run _ hRun
  exact ⟨_, hRun, (creation_decides (switchedOn_initial false) hReachable).1
    ⟨_, List.mem_cons_self, rfl⟩⟩

end Mandeye.Controller
