import Mandeye.Controller.Rounds
import Mandeye.Decimal

/-! The names of the recorded files. Two counters of the watcher are bumped in
three branches, and their sum numbers the files of six save functions in two
directories. -/
namespace Mandeye.Controller

open Interleaving
open StateWatcher

inductive FileKind where
  | lidar
  | imu
  | status
  | lidarList
  | gnss
  | gnssRaw
  deriving DecidableEq

/-- The format of a name is `%04d` between two texts. -/
def FileKind.texts : FileKind → String × String
  | .lidar => ("lidar", ".laz")
  | .imu => ("imu", ".csv")
  | .status => ("status", ".json")
  | .lidarList => ("lidar", ".sn")
  | .gnss => ("gnss", ".gnss")
  | .gnssRaw => ("gnss", ".nmea")

structure SavedFile where
  kind : FileKind
  directory : String
  chunk : Int32

/-- The name of a file inside of its directory. -/
def SavedFile.name (file : SavedFile) : String :=
  file.kind.texts.1 ++ Decimal.format04 file.chunk.toInt ++ file.kind.texts.2

/-- The file which a save function writes. -/
def WatcherRequest.file : WatcherRequest → Option SavedFile
  | .savePointcloudData _ directory chunk => some ⟨.lidar, directory, chunk⟩
  | .saveImuData _ directory chunk => some ⟨.imu, directory, chunk⟩
  | .saveStatusData directory chunk => some ⟨.status, directory, chunk⟩
  | .saveLidarList _ directory chunk => some ⟨.lidarList, directory, chunk⟩
  | .saveGnssData _ directory chunk => some ⟨.gnss, directory, chunk⟩
  | .saveGnssRawData _ directory chunk => some ⟨.gnssRaw, directory, chunk⟩
  | _ => none

def SavesNothing (request : WatcherRequest) : Prop := request.file = none

def savedFile : Controller × Label Response Move → Option SavedFile
  | (_, .statement .watcher request _) => request.file
  | _ => none

/-- All files of a run, the latest one first. -/
def savedFiles (trace : Trace) : List SavedFile := trace.filterMap savedFile

/-- How many chunks have been begun. Each begins with its points. -/
def chunks (files : List SavedFile) : Nat := files.countP (·.kind = .lidar)

section Names

/-- The first and the last character of a name. -/
theorem SavedFile.name_ends (file : SavedFile) :
    file.name.toList.head? = file.kind.texts.1.toList.head? ∧
      file.name.toList.getLast? = file.kind.texts.2.toList.getLast? := by
  rw [SavedFile.name, String.toList_append, List.getLast?_append]
  cases file.kind <;> simp [FileKind.texts]

theorem FileKind.eq_of_texts {kind kind' : FileKind}
    (hFirst : kind.texts.1.toList.head? = kind'.texts.1.toList.head?)
    (hLast : kind.texts.2.toList.getLast? = kind'.texts.2.toList.getLast?) : kind = kind' := by
  cases kind <;> cases kind' <;> simp_all [FileKind.texts]

/-- A name tells the kind of the file and its number. -/
theorem SavedFile.name_injective {file file' : SavedFile} (h : file.name = file'.name) :
    file.kind = file'.kind ∧ file.chunk = file'.chunk := by
  have hKind : file.kind = file'.kind := by
    apply FileKind.eq_of_texts
    · rw [← file.name_ends.1, h, file'.name_ends.1]
    · rw [← file.name_ends.2, h, file'.name_ends.2]
  have hDigits : Decimal.format04 file.chunk.toInt = Decimal.format04 file'.chunk.toInt := by
    simpa only [SavedFile.name, hKind, String.append_left_inj, String.append_right_inj] using h
  exact ⟨hKind, Int32.toInt.inj (Decimal.format04_injective hDigits)⟩

end Names

section Numbering

/-- A file may come after the earlier ones: the points of a new chunk get its
number, and any other file belongs to the chunk which was begun last and has
none of its kind yet. -/
inductive Follows (file : SavedFile) : List SavedFile → Prop where
  | begins {files : List SavedFile} (hKind : file.kind = .lidar)
      (hChunk : file.chunk = Int32.ofNat (chunks files)) : Follows file files
  | joins {others rest : List SavedFile} {first : SavedFile} (hKind : file.kind ≠ .lidar)
      (hFirst : first.kind = .lidar)
      (hOthers : ∀ other ∈ others, other.kind ≠ .lidar ∧ other.kind ≠ file.kind)
      (hDirectory : file.directory = first.directory) (hChunk : file.chunk = first.chunk) :
      Follows file (others ++ first :: rest)

def Regular : List SavedFile → Prop
  | [] => True
  | file :: rest => Follows file rest ∧ Regular rest

theorem chunks_cons (file : SavedFile) (files : List SavedFile) :
    chunks (file :: files) = chunks files + if file.kind = .lidar then 1 else 0 := by
  simp [chunks, List.countP_cons]

theorem chunks_append (later earlier : List SavedFile) :
    chunks (later ++ earlier) = chunks later + chunks earlier :=
  List.countP_append

theorem Regular.earlier {later earlier : List SavedFile} (h : Regular (later ++ earlier)) :
    Regular earlier := by
  induction later with
  | nil => exact h
  | cons file later ih => exact ih h.2

/-- The points of a chunk carry the number of chunks before it. -/
theorem Regular.chunk {first : SavedFile} {rest : List SavedFile} (h : Regular (first :: rest))
    (hFirst : first.kind = .lidar) : first.chunk = Int32.ofNat (chunks rest) := by
  cases h.1 with
  | begins _ hChunk => exact hChunk
  | joins hKind => exact absurd hFirst hKind

theorem Regular.number {files : List SavedFile} (h : Regular files) :
    ∀ file ∈ files, ∃ n < chunks files, file.chunk = Int32.ofNat n := by
  induction files with
  | nil => simp
  | cons last files ih =>
      have hEarlier := ih h.2
      have hGrows : chunks files ≤ chunks (last :: files) := by
        rw [chunks_cons]
        omega
      intro file hFile
      rcases List.mem_cons.mp hFile with rfl | hFile
      · cases h.1 with
        | begins hKind hChunk =>
            refine ⟨chunks files, ?_, hChunk⟩
            rw [chunks_cons, if_pos hKind]
            omega
        | @joins others rest first hKind hFirst hOthers hDirectory hChunk =>
            obtain ⟨n, hn, hNumber⟩ := hEarlier first (by simp)
            exact ⟨n, by omega, hChunk.trans hNumber⟩
      · obtain ⟨n, hn, hNumber⟩ := hEarlier file hFile
        exact ⟨n, by omega, hNumber⟩

/-- Numbers are told apart as long as they fit. -/
theorem ofNat_ne {m n : Nat} (hmn : m < n) (hn : n < 2 ^ 31) : Int32.ofNat m ≠ Int32.ofNat n := by
  intro h
  have hInt := congrArg Int32.toInt h
  rw [Int32.toInt_ofNat_of_lt (by omega), Int32.toInt_ofNat_of_lt hn] at hInt
  omega

/-- An earlier file has another number or is of another kind. -/
theorem Follows.fresh {file : SavedFile} {files : List SavedFile} (h : Follows file files)
    (hFiles : Regular files) (hFew : chunks files < 2 ^ 31) :
    ∀ earlier ∈ files, earlier.name ≠ file.name := by
  intro earlier hEarlier hName
  obtain ⟨hSameKind, hSameChunk⟩ := SavedFile.name_injective hName
  cases h with
  | begins hKind hChunk =>
      obtain ⟨n, hn, hNumber⟩ := hFiles.number earlier hEarlier
      apply ofNat_ne hn hFew
      rw [← hNumber, hSameChunk, hChunk]
  | @joins others rest first hKind hFirst hOthers hDirectory hChunk =>
      have hRest := hFiles.earlier
      rcases List.mem_append.mp hEarlier with hOther | hEarlier
      · exact (hOthers earlier hOther).2 hSameKind
      · rcases List.mem_cons.mp hEarlier with rfl | hEarlier
        · exact hKind (hSameKind ▸ hFirst)
        · obtain ⟨n, hn, hNumber⟩ := hRest.2.number earlier hEarlier
          rw [chunks_append, chunks_cons] at hFew
          apply ofNat_ne hn (by omega)
          rw [← hNumber, hSameChunk, hChunk, hRest.chunk hFirst]

/-- The number of a file is the number of chunks before its own. -/
theorem Regular.place {file : SavedFile} {files : List SavedFile} (h : Regular (file :: files))
    (hFew : chunks files < 2 ^ 31) :
    if file.kind = .lidar then file.chunk.toInt = chunks files
    else ∃ others first rest, files = others ++ first :: rest ∧ first.kind = .lidar ∧
      (∀ other ∈ others, other.kind ≠ .lidar) ∧ file.directory = first.directory ∧
      file.chunk = first.chunk ∧ file.chunk.toInt = chunks rest := by
  cases h.1 with
  | begins hKind hChunk =>
      rw [if_pos hKind, hChunk]
      exact Int32.toInt_ofNat_of_lt hFew
  | @joins others rest first hKind hFirst hOthers hDirectory hChunk =>
      rw [if_neg hKind]
      rw [chunks_append, chunks_cons] at hFew
      refine ⟨others, first, rest, rfl, hFirst, fun other hOther => (hOthers other hOther).1,
        hDirectory, hChunk, ?_⟩
      rw [hChunk, h.2.earlier.chunk hFirst]
      exact Int32.toInt_ofNat_of_lt (by omega)

/-- No two files have the same name, not even in different directories. -/
theorem Regular.names {files : List SavedFile} (h : Regular files) (hFew : chunks files < 2 ^ 31) :
    (files.map SavedFile.name).Nodup := by
  induction files with
  | nil => exact List.nodup_nil
  | cons file files ih =>
      rw [chunks_cons] at hFew
      have hFewer : chunks files < 2 ^ 31 := by omega
      rw [List.map_cons, List.nodup_cons]
      refine ⟨fun hName => ?_, ih h.2 hFewer⟩
      obtain ⟨earlier, hEarlier, hName⟩ := List.mem_map.mp hName
      exact h.1.fresh h.2 hFewer earlier hEarlier hName

end Numbering

/-- Every file is saved where it may follow. -/
def chunkGuarantee (request : WatcherRequest) (w : History) : Prop :=
  ∀ file, request.file = some file → Follows file (savedFiles w.trace)

section Histories

/-- An assertion about the saved files only. -/
abbrev OnFiles (A : List SavedFile → Prop) : History → Prop := fun w => A (savedFiles w.trace)

theorem savedFiles_record {request : WatcherRequest} {response : request.Response} {w : History}
    {s : Controller} :
    savedFiles (w.record (.statement .watcher request response) s).trace =
      request.file.toList ++ savedFiles w.trace := by
  cases hFile : request.file with
  | none => simp [savedFiles, World.record, savedFile, hFile]
  | some file => simp [savedFiles, World.record, savedFile, hFile]

theorem savedFiles_other {label : Label Response Move} {w : History} {s : Controller}
    (h : ¬ByWatcher label) : savedFiles (w.record label s).trace = savedFiles w.trace := by
  cases label, h using not_byWatcher_cases with
  | move action => rfl
  | livox request response => rfl
  | gpio request response => rfl
  | gnss request response => rfl

theorem Quiet.savesNothing (request : WatcherRequest) (h : Quiet request) :
    SavesNothing request := by
  cases request with
  | savePointcloudData buffer directory chunk => exact h.elim
  | saveImuData buffer directory chunk => exact h.elim
  | saveStatusData directory chunk => exact h.elim
  | saveLidarList lidars directory chunk => exact h.elim
  | saveGnssData buffer directory chunk => exact h.elim
  | saveGnssRawData buffer directory chunk => exact h.elim
  | _ => rfl

theorem Calm.savesNothing (request : WatcherRequest) (h : Calm request) : SavesNothing request :=
  h.quiet.savesNothing

variable {settings : Settings} {A B : List SavedFile → Prop}

theorem stable_onFiles : WatcherStable settings chunkGuarantee (OnFiles A) := by
  intro w w' h hw
  obtain ⟨label, s, rfl, hLabel, -⟩ := interference_record h
  rwa [OnFiles, savedFiles_other hLabel]

theorem SavesNothing.allowed {request : WatcherRequest} (h : SavesNothing request) (w : History) :
    chunkGuarantee request w := by
  intro file hFile
  rw [h] at hFile
  cases hFile

theorem preserves_onFiles (request : WatcherRequest) (h : SavesNothing request) :
    (machine settings).Preserves (guarantee chunkGuarantee) .watcher (OnFiles A) request := by
  refine fun w hw => ⟨h.allowed w, fun response s hPerform => ?_⟩
  rwa [OnFiles, savedFiles_record, h, Option.toList_none, List.nil_append]

theorem robust_onFiles : Robust settings chunkGuarantee (OnFiles A) where
  stable := stable_onFiles
  quiet request hQuiet := preserves_onFiles request (hQuiet.savesNothing request)

/-- Code which saves nothing. -/
theorem keeps_onFiles {Result : Type} {code : Code Result}
    (hCode : code.Issues SavesNothing) :
    WatcherTriple settings chunkGuarantee (OnFiles A) code fun _ => OnFiles A :=
  Machine.Keeps.of_issues stable_onFiles (hCode.mono preserves_onFiles)

/-- A statement which saves nothing, in front of other code. -/
theorem before_onFiles {Result : Type} {request : WatcherRequest}
    {next : request.Response → Code Result} {Q : Result → History → Prop}
    (h : SavesNothing request)
    (hNext : ∀ response, WatcherTriple settings chunkGuarantee (OnFiles A) (next response) Q) :
    WatcherTriple settings chunkGuarantee (OnFiles A) (call request >>= next) Q :=
  (keeps_onFiles (.perform h)).bind hNext

theorem triple_save {request : WatcherRequest} {file : SavedFile} (hFile : request.file = some file)
    (hFollows : ∀ files, A files → Follows file files)
    (hAfter : ∀ files, A files → B (file :: files)) :
    WatcherTriple settings chunkGuarantee (OnFiles A) (call request) fun _ => OnFiles B := by
  apply Machine.Triple.perform stable_onFiles fun _ => stable_onFiles
  · intro w hw file' hFile'
    obtain rfl : file = file' := Option.some.inj (hFile.symm.trans hFile')
    exact hFollows _ hw
  · intro w response s hw hPerform
    rw [OnFiles, savedFiles_record, hFile]
    exact hAfter _ hw

end Histories

section Chunk

/-- The next chunk has this number. -/
def Next (chunk : Int32) (files : List SavedFile) : Prop := chunk = Int32.ofNat (chunks files)

/-- Files of these kinds have been added to the points of the last chunk. -/
def Open (directory : String) (chunk : Int32) (kinds : List FileKind)
    (files : List SavedFile) : Prop :=
  ∃ others rest, files = others ++ ⟨.lidar, directory, chunk⟩ :: rest ∧ Next chunk rest ∧
    others.map SavedFile.kind = kinds ∧ .lidar ∉ kinds

variable {directory : String} {chunk : Int32} {kinds : List FileKind} {files : List SavedFile}

theorem Next.follows (h : Next chunk files) : Follows ⟨.lidar, directory, chunk⟩ files :=
  .begins rfl h

theorem Next.opens (h : Next chunk files) :
    Open directory chunk [] (⟨.lidar, directory, chunk⟩ :: files) :=
  ⟨[], files, rfl, h, rfl, List.not_mem_nil⟩

theorem Open.follows {kind : FileKind} (h : Open directory chunk kinds files)
    (hKind : kind ≠ .lidar) (hNew : kind ∉ kinds) : Follows ⟨kind, directory, chunk⟩ files := by
  obtain ⟨others, rest, rfl, hNext, rfl, hLidar⟩ := h
  have hFirst : (⟨.lidar, directory, chunk⟩ : SavedFile).kind = .lidar := rfl
  have hOthers : ∀ other ∈ others, other.kind ≠ .lidar ∧ other.kind ≠ kind := by
    intro other hOther
    have hMem : other.kind ∈ others.map SavedFile.kind := List.mem_map_of_mem hOther
    constructor
    · intro hSame
      exact hLidar (hSame ▸ hMem)
    · intro hSame
      exact hNew (hSame ▸ hMem)
  exact .joins hKind hFirst hOthers rfl rfl

theorem Open.cons {kind : FileKind} (h : Open directory chunk kinds files)
    (hKind : kind ≠ .lidar) :
    Open directory chunk (kind :: kinds) (⟨kind, directory, chunk⟩ :: files) := by
  obtain ⟨others, rest, rfl, hNext, rfl, hLidar⟩ := h
  exact ⟨⟨kind, directory, chunk⟩ :: others, rest, rfl, hNext, rfl,
    List.not_mem_cons_of_ne_of_not_mem hKind.symm hLidar⟩

/-- The number of the chunk after the last one. -/
theorem Open.next (h : Open directory chunk kinds files) : Next (chunk + 1) files := by
  obtain ⟨others, rest, rfl, rfl, rfl, hLidar⟩ := h
  have hNone : chunks others = 0 := by
    apply List.countP_eq_zero.mpr
    intro other hOther hSame
    apply hLidar
    rw [← of_decide_eq_true hSame]
    exact List.mem_map_of_mem hOther
  simp [Next, chunks_append, chunks_cons, hNone]

end Chunk

section Branches

variable (settings : Settings) (locals : Locals)

/-- What is known of the saved files from one round to the next. -/
abbrev Counted (locals : Locals) : History → Prop := OnFiles (Next locals.chunk)

theorem saves_lidarData (lidarBuffer imuBuffer : Option Nat) (directory : String)
    (chunk : Int32) :
    WatcherTriple settings chunkGuarantee (OnFiles (Next chunk))
      (saveLidarData lidarBuffer imuBuffer directory chunk)
      fun _ => OnFiles (Open directory chunk [.lidarList, .status, .imu]) := by
  apply (triple_save rfl (fun _ h => h.follows) fun _ h => h.opens).bind
  intro _
  apply (triple_save rfl (fun _ h => h.follows (by decide) (by decide))
    fun _ h => h.cons (by decide)).bind
  intro _
  apply (triple_save rfl (fun _ h => h.follows (by decide) (by decide))
    fun _ h => h.cons (by decide)).bind
  intro _
  refine before_onFiles rfl fun lidarList => ?_
  exact triple_save rfl (fun _ h => h.follows (by decide) (by decide))
    fun _ h => h.cons (by decide)

theorem saves_lastChunk (buffers : Option Nat × Option Nat) (gnssData : List GgaCsvLine)
    (directory : String) (chunk : Int32) :
    WatcherTriple settings chunkGuarantee (OnFiles (Next chunk))
      (saveLastChunk buffers gnssData directory chunk) fun _ => OnFiles (Next (chunk + 1)) := by
  apply (saves_lidarData settings buffers.1 buffers.2 directory chunk).bind
  intro _
  refine before_onFiles rfl fun gnssClient => ?_
  cases gnssClient with
  | false => exact triple_return () stable_onFiles fun _ h => h.next
  | true =>
      exact triple_save rfl (fun _ h => h.follows (by decide) (by decide))
        fun _ h => (h.cons (by decide)).next

/-- The last files of a chunk which is not the last one. -/
theorem saves_gnss (gnssClient : Bool) (gnssBuffer : List GgaCsvLine)
    (gnssRawBuffer : List String) (directory : String) (chunk : Int32) :
    WatcherTriple settings chunkGuarantee
      (OnFiles (Open directory chunk [.lidarList, .status, .imu]))
      (.when gnssClient do
        call (.saveGnssData gnssBuffer directory chunk)
        call (.saveGnssRawData gnssRawBuffer directory chunk))
      fun _ => OnFiles (Next (chunk + 1)) := by
  cases gnssClient with
  | false => exact triple_return () stable_onFiles fun _ h => h.next
  | true =>
      apply (triple_save rfl (fun _ h => h.follows (by decide) (by decide))
        fun _ h => h.cons (by decide)).bind
      intro _
      exact triple_save rfl (fun _ h => h.follows (by decide) (by decide))
        fun _ h => (h.cons (by decide)).next

/-- Bumping either counter gives the number of the next chunk. -/
theorem chunk_continous :
    ({ locals with chunksInExperimentCS := locals.chunksInExperimentCS + 1 } : Locals).chunk =
      locals.chunk + 1 := by
  simp only [Locals.chunk]
  ac_rfl

theorem chunk_stopScan :
    ({ locals with chunksInExperimentSS := locals.chunksInExperimentSS + 1 } : Locals).chunk =
      locals.chunk + 1 := by
  simp only [Locals.chunk]
  ac_rfl

theorem counted_rotateChunk :
    WatcherTriple settings chunkGuarantee (Counted locals) (rotateChunk locals)
      fun result => Counted result := by
  refine before_onFiles rfl fun _ => ?_
  refine before_onFiles rfl fun chunkStart => ?_
  refine before_onFiles rfl fun ⟨lidarBuffer, imuBuffer⟩ => ?_
  refine before_onFiles rfl fun gnssClient => ?_
  have hGnss : (retrieveGnss gnssClient).Issues SavesNothing := by
    cases gnssClient with
    | false => exact .done
    | true => exact .bind (.perform rfl) fun _ => .bind (.perform rfl) fun _ => .done
  apply (keeps_onFiles hGnss).bind
  intro ⟨gnssBuffer, gnssRawBuffer⟩
  dsimp only
  split_ifs
  · refine before_onFiles rfl fun _ => ?_
    exact triple_return _ stable_onFiles fun _ h => h
  · apply (saves_lidarData settings lidarBuffer imuBuffer _ _).bind
    intro _
    refine before_onFiles rfl fun gnssClient => ?_
    apply (saves_gnss settings gnssClient gnssBuffer gnssRawBuffer _ _).bind
    intro _
    refine before_onFiles rfl fun _ => ?_
    exact triple_return _ stable_onFiles fun _ h => (chunk_continous locals).trans h

theorem counted_scanning :
    WatcherTriple settings chunkGuarantee (Counted locals) (scanning locals)
      fun result => Counted result := by
  have hStage : ∀ stage deadline changeLed period led,
      (confirmationStage stage deadline changeLed period led).Issues SavesNothing :=
    fun stage deadline changeLed period led => issues_confirmationStage Calm.savesNothing
      (fun _ => rfl) rfl stage deadline changeLed (fun _ => rfl) period led
  apply (keeps_onFiles (issues_showScanning Calm.savesNothing fun _ => rfl)).bind
  intro _
  refine before_onFiles rfl fun now => ?_
  apply (keeps_onFiles (.when ((issues_blink _ _ _).mono Quiet.savesNothing))).bind
  intro _
  apply (keeps_onFiles (.when ((issues_blink _ _ _).mono Quiet.savesNothing))).bind
  intro _
  have hChunk : WatcherTriple settings chunkGuarantee (Counted locals) (checkChunk now locals)
      fun result => Counted result := by
    have hTest : (andAlso (seconds 10 < now - locals.chunkStart)
        (call (.testAppState .scanning))).Issues SavesNothing := issues_andAlso (.perform rfl)
    apply (keeps_onFiles hTest).bind
    intro chunkEnds
    cases chunkEnds with
    | false => exact triple_return locals stable_onFiles fun _ h => h
    | true => exact counted_rotateChunk settings locals
  apply hChunk.bind
  intro rotated
  apply (keeps_onFiles (hStage _ _ _ _ _)).bind
  intro led1
  apply (keeps_onFiles (hStage _ _ _ _ _)).bind
  intro led2
  refine before_onFiles rfl fun _ => ?_
  exact triple_return _ stable_onFiles fun _ h => h

theorem issues_closeLogs_file : closeLogs.Issues SavesNothing := by
  refine .bind (.perform rfl) fun buffers => .bind (.perform rfl) fun _ => ?_
  refine .bind (.perform rfl) fun gnssClient => ?_
  cases gnssClient with
  | false => exact .done
  | true => exact .bind (.perform rfl) fun _ => .bind (.perform rfl) fun _ => .done

theorem counted_stopping :
    WatcherTriple settings chunkGuarantee (Counted locals) (stopping locals)
      fun result => Counted result := by
  apply (keeps_onFiles (issues_showCopying.mono Quiet.savesNothing)).bind
  intro _
  apply (keeps_onFiles issues_closeLogs_file).bind
  intro ⟨buffers, gnssData⟩
  apply (keeps_onFiles ((issues_blinkTimes _ _ _ _).mono Quiet.savesNothing)).bind
  intro _
  apply (keeps_onFiles (issues_showCopying.mono Quiet.savesNothing)).bind
  intro _
  split_ifs
  · refine before_onFiles rfl fun _ => ?_
    exact triple_return _ stable_onFiles fun _ h => h
  · apply (saves_lastChunk settings buffers gnssData _ _).bind
    intro _
    refine before_onFiles rfl fun _ => ?_
    refine before_onFiles rfl fun _ => ?_
    exact triple_return _ stable_onFiles fun _ h => (chunk_continous locals).trans h

theorem counted_stopingStopScan :
    WatcherTriple settings chunkGuarantee (Counted locals) (stopingStopScan locals)
      fun result => Counted result := by
  apply (keeps_onFiles (issues_showStopScanClosing.mono Quiet.savesNothing)).bind
  intro _
  apply (keeps_onFiles issues_closeLogs_file).bind
  intro ⟨buffers, gnssData⟩
  dsimp only
  split_ifs
  · refine before_onFiles rfl fun _ => ?_
    exact triple_return _ stable_onFiles fun _ h => h
  · apply (saves_lastChunk settings buffers gnssData _ _).bind
    intro _
    apply (keeps_onFiles (issues_showStopScanEnd.mono Quiet.savesNothing)).bind
    intro _
    refine before_onFiles rfl fun _ => ?_
    exact triple_return _ stable_onFiles fun _ h => (chunk_stopScan locals).trans h

/-- A branch which saves nothing and leaves the counters alone. -/
theorem counted_of_issues {code : Code Locals}
    (hCode : code.Issues SavesNothing)
    (hYields : code.Yields fun result => result.chunk = locals.chunk) :
    WatcherTriple settings chunkGuarantee (Counted locals) code fun result => Counted result := by
  apply ((keeps_onFiles hCode).yields hYields).mono fun _ h => h
  intro result w ⟨hChunk, hw⟩
  rwa [Counted, hChunk]

theorem counted_branches :
    BranchTriples settings chunkGuarantee (fun _ => Counted locals) locals
      fun result => Counted result := by
  constructor
  case usbIoError =>
    apply counted_of_issues settings locals (issues_usbIoError Calm.savesNothing settings locals)
    exact .after fun _ => rfl
  case waitForResources =>
    apply counted_of_issues settings locals
      (issues_waitForResources Quiet.savesNothing settings locals rfl)
    repeat refine .after fun _ => ?_
    rfl
  case idle =>
    apply counted_of_issues settings locals (issues_idle Calm.savesNothing settings locals rfl rfl)
    repeat refine .after fun _ => ?_
    rfl
  case startingScan =>
    apply counted_of_issues settings locals
      (issues_startingScan Calm.savesNothing locals rfl rfl rfl)
    repeat refine .after fun _ => ?_
    rfl
  case scanning => exact fun _ _ => counted_scanning settings locals
  case stopping => exact counted_stopping settings locals
  case startingStopScan =>
    apply counted_of_issues settings locals (issues_startingStopScan Calm.savesNothing locals rfl)
    repeat refine .after fun _ => ?_
    rfl
  case stopScanInInitialProgress =>
    apply counted_of_issues settings locals
      (issues_stopScanInInitialProgress Calm.savesNothing locals rfl rfl rfl)
    refine .after fun now => ?_
    split_ifs
    · exact .after fun _ => rfl
    · exact .after fun _ => rfl
  case stopScanInProgress =>
    apply counted_of_issues settings locals (issues_stopScanInProgress Calm.savesNothing locals rfl)
    repeat refine .after fun _ => ?_
    rfl
  case stopingStopScan => exact counted_stopingStopScan settings locals

end Branches

/-- What is known of the saved files at the end of a round. -/
def CountedOf : Option Locals → History → Prop
  | some locals => Counted locals
  | none => fun _ => True

theorem observes_counted (settings : Settings) (locals : Locals) :
    Observes settings chunkGuarantee (Counted locals) fun _ => Counted locals where
  robust := robust_onFiles
  entered _ := stable_onFiles
  allowed state w _ := SavesNothing.allowed (show SavesNothing (.testAppState state) from rfl) w
  found _ hw := hw
  notFound _ _ hw _ := hw

theorem startUp_counted (settings : Settings) (s : Controller) :
    WatcherTriple settings chunkGuarantee (fun w => w = ⟨s, []⟩) startUp CountedOf := by
  have hCode : startUp.Issues SavesNothing :=
    issues_startUp rfl rfl (fun _ => rfl) (fun _ => rfl) rfl
  have hYields : startUp.Yields fun result =>
      ∃ locals, result = some locals ∧ locals.chunk = 0 := by
    repeat refine .after fun _ => ?_
    exact ⟨_, rfl, rfl⟩
  have hStart : WatcherTriple settings chunkGuarantee (OnFiles fun files => files = []) startUp
      fun _ => OnFiles fun files => files = [] := keeps_onFiles hCode
  apply (hStart.yields hYields).mono
  · rintro w rfl
    rfl
  · rintro result w ⟨⟨locals, rfl, hChunk⟩, hw⟩
    rw [CountedOf, Counted, OnFiles, hw]
    exact hChunk

theorem chunks_contract (settings : Settings) :
    (system settings).Contract (guarantee chunkGuarantee) Controller.Initial
      (posts CountedOf) := by
  apply contract_of_watcher
  · exact fun s _ => startUp_counted settings s
  · intro locals
    have hError : WatcherTriple settings chunkGuarantee (Counted locals) (lidarError settings)
        fun _ => Counted locals := robust_onFiles.keeps (issues_showError _ _ _ _ _)
    exact (observes_counted settings locals).round hError (counted_branches settings locals)
      (fun _ hw => hw) fun _ _ => trivial

theorem regular_files {settings : Settings} {s : Controller} (hInitial : s.Initial)
    {c : Configuration Response Local Controller Move} (h : (system settings).Reachable s c) :
    Regular (savedFiles c.world.trace) := by
  have hFirst : Regular (savedFiles ([] : Trace)) := trivial
  refine (chunks_contract settings).invariant hInitial (I := fun w => Regular (savedFiles w.trace))
    hFirst ?_ ?_ h
  · intro w action s' hw _
    rwa [savedFiles_other id]
  · intro w t request response s' hw hGuarantee _
    cases t with
    | watcher =>
        rw [savedFiles_record]
        cases hFile : WatcherRequest.file request with
        | none => exact hw
        | some file => exact ⟨hGuarantee file hFile, hw⟩
    | livox => rwa [savedFiles_other (by simp [ByWatcher])]
    | gpio => rwa [savedFiles_other (by simp [ByWatcher])]
    | gnss => rwa [savedFiles_other (by simp [ByWatcher])]

/-- The points of a chunk are saved under the number of the chunks before it,
the other files of the chunk go to the same directory with the same number, and
no two files of a run have the same name. -/
theorem files_numbered {settings : Settings} {s : Controller} (hInitial : s.Initial)
    {c : Configuration Response Local Controller Move} (h : (system settings).Reachable s c)
    (hFew : chunks (savedFiles c.world.trace) < 2 ^ 31) :
    (∀ later entry earlier file, c.world.trace = later ++ entry :: earlier →
      savedFile entry = some file →
        if file.kind = .lidar then file.chunk.toInt = chunks (savedFiles earlier)
        else ∃ others first rest, savedFiles earlier = others ++ first :: rest ∧
          first.kind = .lidar ∧ (∀ other ∈ others, other.kind ≠ .lidar) ∧
          file.directory = first.directory ∧ file.chunk = first.chunk ∧
          file.chunk.toInt = chunks rest) ∧
    ((savedFiles c.world.trace).map SavedFile.name).Nodup := by
  have hRegular := regular_files hInitial h
  refine ⟨fun later entry earlier file hTrace hFile => ?_, hRegular.names hFew⟩
  have hFiles : savedFiles c.world.trace = savedFiles later ++ file :: savedFiles earlier := by
    rw [hTrace, savedFiles, List.filterMap_append, List.filterMap_cons_some hFile]
    rfl
  rw [hFiles] at hRegular hFew
  rw [chunks_append, chunks_cons] at hFew
  exact hRegular.earlier.place (by omega)

/-- A stop scan and after it a short continuous scan. -/
def twoScans : List (Choice Thread Move) :=
  steps .livox 3 ++ untilIdle ++ [.move (.trigger .triggerStopScan)] ++ steps .watcher 21 ++
    [.move (.elapse 5000000000)] ++ steps .watcher 22 ++ [.move (.elapse 30000000001)] ++
    steps .watcher 56 ++ [.move (.trigger .startScan)] ++ steps .watcher 40 ++
    [.move (.trigger .stopScan)] ++ steps .watcher 110

set_option maxRecDepth 2000 in
theorem files_numbered_twoScans :
    ∃ c, (system plainSettings).run ((system plainSettings).initial (switchedOn true)) twoScans =
      some c ∧ chunks (savedFiles c.world.trace) = 2 ∧
    ((savedFiles c.world.trace).map SavedFile.name).Nodup := by
  have hRun : (system plainSettings).run ((system plainSettings).initial (switchedOn true))
      twoScans = some _ := rfl
  have hReachable := System.Reachable.initial.run _ hRun
  refine ⟨_, hRun, by decide +kernel, ?_⟩
  exact (files_numbered (switchedOn_initial true) hReachable (by decide +kernel)).2

end Mandeye.Controller
