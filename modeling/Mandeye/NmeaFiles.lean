import Mandeye.Calls
import Mandeye.Subscribers

/-! The files of the extra GNSS recorder. Lines are collected in a buffer, which is
written when the file is long enough or the scan is being stopped. -/
namespace Mandeye.RtkNmea

open Calls

/-- One call of `NMEACallback`, with the state it finds and its clock readings. -/
structure NmeaCall where
  nmea : String
  mode : String
  continousScanTarget : String
  readings : Readings

/-- What is written to a file. -/
def content (file : NmeaFile) : String := String.join file.lines

namespace NmeaCall

variable (fileLengthMs : Int)

def apply (r : RtkNmea) (call : NmeaCall) : RtkNmea :=
  { r with
    modeName := call.mode
    continuousScanTarget := call.continousScanTarget }.nmeaCallback
      fileLengthMs call.nmea call.readings

/-- The recorder after some calls. -/
def run (calls : List NmeaCall) : RtkNmea := calls.foldl (apply fileLengthMs) .started

def scanning (call : NmeaCall) : Bool := call.mode = "SCANNING"

/-- The calls which append their line. -/
def scanned (calls : List NmeaCall) : List NmeaCall := calls.filter scanning

/-- The buffer as a call finds it when it decides on writing. -/
def collected (r : RtkNmea) (call : NmeaCall) : List String :=
  r.buffer ++ if call.scanning then [call.nmea] else []

/-- The milliseconds since the reference time which the call finds. -/
def elapsed (r : RtkNmea) (call : NmeaCall) : Int :=
  (call.readings.now - r.lastTime.getD call.readings.lastTime).tdiv (milliseconds 1)

/-- The call writes a file. -/
def Writes (r : RtkNmea) (call : NmeaCall) : Prop :=
  (fileLengthMs < call.elapsed r ∨ call.mode = "STOPPING") ∧
    String.join (call.collected r) ≠ ""

instance (r : RtkNmea) (call : NmeaCall) : Decidable (call.Writes fileLengthMs r) :=
  inferInstanceAs (Decidable (_ ∧ _))

variable {fileLengthMs} {r : RtkNmea} {call : NmeaCall} {calls : List NmeaCall}

@[simp] theorem run_nil : run fileLengthMs [] = .started := rfl

@[simp] theorem run_concat :
    run fileLengthMs (calls ++ [call]) = call.apply fileLengthMs (run fileLengthMs calls) := by
  simp [run]

@[simp] theorem scanned_concat :
    scanned (calls ++ [call]) = scanned calls ++ if call.scanning then [call] else [] := by
  cases h : call.scanning <;> simp [scanned, h]

theorem collected_eq (r : RtkNmea) (call : NmeaCall) :
    call.collected r = if call.mode = "SCANNING" then r.buffer ++ [call.nmea] else r.buffer := by
  by_cases h : call.mode = "SCANNING" <;> simp [collected, scanning, h]

/-- A call which writes. -/
theorem apply_writes (h : call.Writes fileLengthMs r) :
    call.apply fileLengthMs r =
      { modeName := call.mode
        continuousScanTarget := call.continousScanTarget
        lastTime := some call.readings.saved
        buffer := []
        lastMode := call.mode
        files := r.files ++
          [⟨call.continousScanTarget, call.readings.start, call.collected r⟩] } := by
  rw [Writes, collected_eq] at h
  rw [collected_eq]
  simp only [apply, nmeaCallback]
  exact if_pos h

/-- A call which does not write. -/
theorem apply_keeps (h : ¬call.Writes fileLengthMs r) :
    call.apply fileLengthMs r =
      { modeName := call.mode
        continuousScanTarget := call.continousScanTarget
        lastTime := some
          (if r.lastMode ≠ call.mode ∧ call.mode = "SCANNING" then call.readings.entered
          else r.lastTime.getD call.readings.lastTime)
        buffer := call.collected r
        lastMode := call.mode
        files := r.files } := by
  rw [Writes, collected_eq] at h
  rw [collected_eq]
  simp only [apply, nmeaCallback]
  exact if_neg h

/-- The lines in the files and in the buffer are those received while scanning. -/
theorem run_recorded (calls : List NmeaCall) :
    (run fileLengthMs calls).recorded = (scanned calls).map nmea := by
  induction calls using List.reverseRecOn with
  | nil => rfl
  | append_singleton calls call ih =>
      rw [run_concat, apply, nmeaCallback_recorded, scanned_concat, List.map_append, ← ih]
      by_cases h : call.mode = "SCANNING" <;> simp [recorded, scanning, h]

theorem run_content_ne (calls : List NmeaCall) :
    ∀ file ∈ (run fileLengthMs calls).files, content file ≠ "" := by
  induction calls using List.reverseRecOn with
  | nil => simp [started]
  | append_singleton calls call ih =>
      intro file hFile
      by_cases h : call.Writes fileLengthMs (run fileLengthMs calls)
      · rw [run_concat, apply_writes h, List.mem_append, List.mem_singleton] at hFile
        rcases hFile with hOld | rfl
        · exact ih file hOld
        · exact h.2
      · rw [run_concat, apply_keeps h] at hFile
        exact ih file hFile

theorem join_contents (files : List NmeaFile) :
    String.join (files.map content) = String.join (files.flatMap NmeaFile.lines) := by
  induction files with
  | nil => rfl
  | cons file files ih =>
      rw [List.map_cons, String.join_cons, ih, List.flatMap_cons, String.join_append, content]

/-- The files one after the other, followed by the buffer, are the lines received
while scanning. No line is lost or written twice, and no file is empty. -/
theorem files_hold_scanned (fileLengthMs : Int) (calls : List NmeaCall) :
    (run fileLengthMs calls).files.flatMap NmeaFile.lines ++ (run fileLengthMs calls).buffer =
        (scanned calls).map nmea ∧
      String.join ((run fileLengthMs calls).files.map content) ++
          String.join (run fileLengthMs calls).buffer =
        String.join ((scanned calls).map nmea) ∧
      ∀ file ∈ (run fileLengthMs calls).files, content file ≠ "" := by
  have hRecorded := @run_recorded fileLengthMs calls
  refine ⟨hRecorded, ?_, run_content_ne calls⟩
  rw [← hRecorded, recorded, String.join_append, join_contents]

section Punctual

/-! When files are written. The reference time is moved by a file and by a change of
the mode to SCANNING, but a change does not move it for its own call. -/

/-- The call is the first one to find the mode SCANNING. -/
def Enters (earlier : List NmeaCall) (call : NmeaCall) : Prop :=
  call.mode = "SCANNING" ∧ (earlier.getLast?.map mode).getD "" ≠ "SCANNING"

instance (earlier : List NmeaCall) (call : NmeaCall) : Decidable (Enters earlier call) :=
  inferInstanceAs (Decidable (_ ∧ _))

/-- When a file was written last. -/
def lastWritten (fileLengthMs : Int) (calls : List NmeaCall) : Option Int :=
  ((annotate (run fileLengthMs) calls).filter
    fun call => call.1.Writes fileLengthMs call.2).getLast?.map fun call => call.1.readings.saved

/-- When the mode was last seen to change to SCANNING. -/
def lastEntered (calls : List NmeaCall) : Option Int :=
  ((annotate id calls).filter fun call => Enters call.2 call.1).getLast?.map
    fun call => call.1.readings.entered

/-- The readings of the steady clock during a call. Where the source takes none, any
value between its neighbours will do. -/
def clock (call : NmeaCall) : List Int :=
  [call.readings.lastTime, call.readings.now, call.readings.entered, call.readings.saved]

/-- The clock never goes back. -/
def Steady (calls : List NmeaCall) : Prop := (calls.flatMap clock).Pairwise (· ≤ ·)

instance (calls : List NmeaCall) : Decidable (Steady calls) :=
  inferInstanceAs (Decidable (List.Pairwise _ _))

/-- A file which is not written because the scan is being stopped is written late
enough after the file before and after the change to SCANNING. -/
def Punctual (fileLengthMs : Int) (earlier : List NmeaCall) (call : NmeaCall) : Prop :=
  call.Writes fileLengthMs (run fileLengthMs earlier) → call.mode ≠ "STOPPING" →
    (∀ time ∈ lastWritten fileLengthMs earlier,
      fileLengthMs * milliseconds 1 < call.readings.saved - time) ∧
    ∀ time ∈ lastEntered (earlier ++ [call]),
      fileLengthMs * milliseconds 1 < call.readings.saved - time

/-- A call which changes the mode to SCANNING finds nothing to write, or the reference
time is recent, or the writing itself takes long enough. -/
def Rested (fileLengthMs : Int) (earlier : List NmeaCall) (call : NmeaCall) : Prop :=
  Enters earlier call → call.Writes fileLengthMs (run fileLengthMs earlier) →
    fileLengthMs * milliseconds 1 < call.readings.saved - call.readings.entered

theorem lastWritten_concat :
    lastWritten fileLengthMs (calls ++ [call]) =
      if call.Writes fileLengthMs (run fileLengthMs calls) then some call.readings.saved
      else lastWritten fileLengthMs calls := by
  by_cases h : call.Writes fileLengthMs (run fileLengthMs calls) <;> simp [lastWritten, h]

theorem lastEntered_concat :
    lastEntered (calls ++ [call]) =
      if Enters calls call then some call.readings.entered else lastEntered calls := by
  by_cases h : Enters calls call <;> simp [lastEntered, h]

theorem Steady.prefix {earlier later : List NmeaCall} (h : Steady (earlier ++ later)) :
    Steady earlier := by
  rw [Steady, List.flatMap_append, List.pairwise_append] at h
  exact h.1

/-- What the clock of a call shows, compared with itself and with the calls before. -/
theorem Steady.last (h : Steady (calls ++ [call])) :
    (∀ time ∈ calls.flatMap clock, time ≤ call.readings.now) ∧
      call.readings.lastTime ≤ call.readings.now ∧
      call.readings.now ≤ call.readings.entered ∧
      call.readings.entered ≤ call.readings.saved := by
  rw [Steady, List.flatMap_append, List.pairwise_append] at h
  obtain ⟨-, hCall, hBefore⟩ := h
  have hSorted : call.clock.Pairwise (· ≤ ·) := by simpa using hCall
  simp only [clock, List.pairwise_cons, List.mem_cons] at hSorted
  refine ⟨fun time hTime => hBefore time hTime _ (by simp [clock]), ?_, ?_, ?_⟩
  · exact hSorted.1 _ (Or.inl rfl)
  · exact hSorted.2.1 _ (Or.inl rfl)
  · exact hSorted.2.2.1 _ (Or.inl rfl)

/-- The reference time is a reading taken after the last file and after the last
change to SCANNING. -/
structure Referenced (fileLengthMs : Int) (calls : List NmeaCall) : Prop where
  lastMode : (run fileLengthMs calls).lastMode = (calls.getLast?.map mode).getD ""
  read : ∀ time ∈ (run fileLengthMs calls).lastTime, time ∈ calls.flatMap clock
  written : ∀ time ∈ lastWritten fileLengthMs calls,
    ∃ reference ∈ (run fileLengthMs calls).lastTime, time ≤ reference
  entered : ∀ time ∈ lastEntered calls,
    ∃ reference ∈ (run fileLengthMs calls).lastTime, time ≤ reference

theorem Referenced.initial : Referenced fileLengthMs [] :=
  ⟨rfl, nofun, nofun, nofun⟩

/-- The reference time is between the latest file and change, and the present. -/
theorem Referenced.reference (h : Referenced fileLengthMs calls)
    (hSteady : Steady (calls ++ [call])) :
    (∀ time ∈ lastWritten fileLengthMs calls,
      time ≤ (run fileLengthMs calls).lastTime.getD call.readings.lastTime) ∧
    (∀ time ∈ lastEntered calls,
      time ≤ (run fileLengthMs calls).lastTime.getD call.readings.lastTime) ∧
    (run fileLengthMs calls).lastTime.getD call.readings.lastTime ≤ call.readings.now := by
  obtain ⟨hBefore, hFirst, -, -⟩ := hSteady.last
  refine ⟨fun time hTime => ?_, fun time hTime => ?_, ?_⟩
  · obtain ⟨reference, hReference, hLe⟩ := h.written time hTime
    rwa [Option.mem_def.mp hReference]
  · obtain ⟨reference, hReference, hLe⟩ := h.entered time hTime
    rwa [Option.mem_def.mp hReference]
  · cases hTime : (run fileLengthMs calls).lastTime with
    | none => exact hFirst
    | some time => exact hBefore time (h.read time hTime)

theorem enters_iff (h : Referenced fileLengthMs calls) :
    Enters calls call ↔
      (run fileLengthMs calls).lastMode ≠ call.mode ∧ call.mode = "SCANNING" := by
  rw [Enters, h.lastMode]
  constructor
  · rintro ⟨hMode, hLast⟩
    exact ⟨hMode ▸ hLast, hMode⟩
  · rintro ⟨hLast, hMode⟩
    exact ⟨hMode, hMode ▸ hLast⟩

theorem Referenced.step (h : Referenced fileLengthMs calls)
    (hSteady : Steady (calls ++ [call])) :
    Referenced fileLengthMs (calls ++ [call]) := by
  obtain ⟨hWritten, hEntered, hReference⟩ := h.reference hSteady
  obtain ⟨hBefore, hFirst, hNow, hSaved⟩ := hSteady.last
  have hClock : ∀ time ∈ call.clock, time ∈ (calls ++ [call]).flatMap clock := by
    intro time hTime
    simp [hTime]
  by_cases hWrites : call.Writes fileLengthMs (run fileLengthMs calls)
  · refine ⟨?_, ?_, ?_, ?_⟩
    · rw [run_concat, apply_writes hWrites]
      simp
    · rw [run_concat, apply_writes hWrites]
      rintro time ⟨⟩
      exact hClock _ (by simp [clock])
    · rw [run_concat, apply_writes hWrites, lastWritten_concat, if_pos hWrites]
      rintro time ⟨⟩
      exact ⟨_, rfl, le_rfl⟩
    · rw [run_concat, apply_writes hWrites, lastEntered_concat]
      intro time hTime
      refine ⟨_, rfl, ?_⟩
      split at hTime
      · cases hTime
        exact hSaved
      · have hLe := hEntered time hTime
        omega
  · refine ⟨?_, ?_, ?_, ?_⟩
    · rw [run_concat, apply_keeps hWrites]
      simp
    · rw [run_concat, apply_keeps hWrites]
      rintro time ⟨⟩
      split
      · exact hClock _ (by simp [clock])
      · cases hTime : (run fileLengthMs calls).lastTime with
        | none => exact hClock _ (by simp [clock])
        | some time =>
            rw [List.flatMap_append]
            exact List.mem_append_left _ (h.read time hTime)
    · rw [run_concat, apply_keeps hWrites, lastWritten_concat, if_neg hWrites]
      intro time hTime
      refine ⟨_, rfl, ?_⟩
      have hLe := hWritten time hTime
      split <;> omega
    · rw [run_concat, apply_keeps hWrites, lastEntered_concat]
      intro time hTime
      refine ⟨_, rfl, ?_⟩
      by_cases hEnters : Enters calls call
      · rw [if_pos hEnters] at hTime
        cases hTime
        rw [if_pos ((enters_iff h).mp hEnters)]
      · rw [if_neg hEnters] at hTime
        rw [if_neg (mt (enters_iff h).mpr hEnters)]
        exact hEntered time hTime

theorem referenced (hSteady : Steady calls) : Referenced fileLengthMs calls := by
  induction calls using List.reverseRecOn with
  | nil => exact Referenced.initial
  | append_singleton calls call ih => exact (ih hSteady.prefix).step hSteady

/-- A duration is truncated to milliseconds. -/
theorem lt_of_lt_milliseconds {time limit : Int} (hTime : 0 ≤ time)
    (h : limit < time.tdiv (milliseconds 1)) : limit * milliseconds 1 < time := by
  rw [Int.tdiv_eq_ediv_of_nonneg hTime] at h
  simp only [milliseconds] at h ⊢
  omega

theorem punctual_iff_rested (hSteady : Steady (calls ++ [call])) :
    Punctual fileLengthMs calls call ↔ Rested fileLengthMs calls call := by
  have h : Referenced fileLengthMs calls := referenced hSteady.prefix
  obtain ⟨hWritten, hEntered, hReference⟩ := h.reference hSteady
  obtain ⟨-, -, hNow, hSaved⟩ := hSteady.last
  constructor
  · intro hPunctual hEnters hWrites
    have hMode : call.mode ≠ "STOPPING" := by
      rw [hEnters.1]
      decide
    refine (hPunctual hWrites hMode).2 _ ?_
    rw [lastEntered_concat, if_pos hEnters]
    rfl
  · intro hRested hWrites hMode
    have hElapsed := lt_of_lt_milliseconds (by omega) (hWrites.1.resolve_right hMode)
    constructor
    · intro time hTime
      have hLe := hWritten time hTime
      omega
    · intro time hTime
      rw [lastEntered_concat] at hTime
      split at hTime
      · cases hTime
        exact hRested ‹_› hWrites
      · have hLe := hEntered time hTime
        omega

/-- Files are written late enough exactly if no call which changes the mode to
SCANNING finds an old reference time. -/
theorem files_punctual_iff (fileLengthMs : Int) (calls : List NmeaCall) (hSteady : Steady calls) :
    Each (Punctual fileLengthMs) calls ↔ Each (Rested fileLengthMs) calls := by
  apply each_congr
  rintro earlier call later rfl
  rw [List.append_cons] at hSteady
  exact punctual_iff_rested hSteady.prefix

/-- Two lines of a scan, and a third one after the length of a file. -/
def steadyScan : List NmeaCall :=
  [⟨"$GNGGA,1", "SCANNING", "/media/usb/scan", ⟨0, 0, 0, 0, 0⟩⟩,
    ⟨"$GNGGA,2", "SCANNING", "/media/usb/scan",
      ⟨seconds 1, seconds 1, seconds 1, 0, seconds 1⟩⟩,
    ⟨"$GNGGA,3", "SCANNING", "/media/usb/scan",
      ⟨seconds 21, seconds 21, seconds 21, 0, seconds 21⟩⟩]

theorem steadyScan_punctual :
    (run 20000 steadyScan).files.length = 1 ∧ Each (Punctual 20000) steadyScan := by
  have hRested : Each (Rested 20000) steadyScan := by
    have hFirst : ¬(steadyScan[0]).Writes 20000 (run 20000 []) := by decide
    have hSecond : ¬Enters (steadyScan.take 1) steadyScan[1] := by decide
    have hThird : ¬Enters (steadyScan.take 2) steadyScan[2] := by decide
    have hEach : Each (Rested 20000)
        ([] ++ [steadyScan[0]] ++ [steadyScan[1]] ++ [steadyScan[2]]) := by
      simp only [each_concat, each_nil, true_and]
      exact ⟨⟨fun _ h => absurd h hFirst, fun h => absurd h hSecond⟩, fun h => absurd h hThird⟩
    exact hEach
  exact ⟨by decide, (files_punctual_iff 20000 steadyScan (by decide)).mpr hRested⟩

/-- The recorder has been idle for a minute when a scan is started. -/
def pausedScan : List NmeaCall :=
  [⟨"$GNGGA,1", "IDLE", "/media/usb/scan", ⟨0, 0, 0, 0, 0⟩⟩,
    ⟨"$GNGGA,2", "SCANNING", "/media/usb/scan",
      ⟨seconds 60, seconds 60, seconds 60, 0, seconds 60 + milliseconds 1⟩⟩]

/-- The first line of the scan is a file of its own. -/
theorem pausedScan_splits :
    Steady pausedScan ∧ (run 20000 pausedScan).files.map content = ["$GNGGA,2"] ∧
      ¬Each (Punctual 20000) pausedScan := by
  refine ⟨by decide, by decide, fun h => ?_⟩
  have hPunctual : Punctual 20000 (pausedScan.take 1) pausedScan[1] := h _ _ [] rfl
  have hLate := (hPunctual (by decide) (by decide)).2 (seconds 60) (by decide)
  exact absurd hLate (by decide)

end Punctual

section Folders

/-! Where the lines go. A line is collected under the target of its own call and
written under that of the call which writes the file. -/

/-- `fs::path(target) / directoryName`. -/
def folder (directoryName target : String) : String :=
  if directoryName.toList.head? = some '/' then directoryName
  else if target = "" ∨ target.toList.getLast? = some '/' then target ++ directoryName
  else target ++ "/" ++ directoryName

variable {Directory : Type} (resolve : String → Directory) (directoryName : String)

/-- The written lines, each with the directory in which its file is. -/
def placed (r : RtkNmea) : List (Directory × String) :=
  r.files.flatMap fun file =>
    file.lines.map fun line => (resolve (folder directoryName file.continousScanTarget), line)

/-- A line, and the extra GNSS folder of the target under which it was received. -/
def place (call : NmeaCall) : Directory × String :=
  (resolve (folder directoryName call.continousScanTarget), call.nmea)

/-- Every line is written into the folder of its own target, in order; the latest
ones may still be in the buffer. -/
def Placed (fileLengthMs : Int) (calls : List NmeaCall) : Prop :=
  placed resolve directoryName (run fileLengthMs calls) <+:
    (scanned calls).map (place resolve directoryName)

/-- The calls whose lines are in the buffer: those which appended one since a file
was written last. -/
def pending (fileLengthMs : Int) (calls : List NmeaCall) : List NmeaCall :=
  scanned <| ((annotate (run fileLengthMs) calls).rtakeWhile
    fun call => !call.1.Writes fileLengthMs call.2).map Prod.fst

/-- When a file is written, the target has the folder under which all lines in the
buffer were received. -/
def Unmoved (fileLengthMs : Int) (earlier : List NmeaCall) (call : NmeaCall) : Prop :=
  call.Writes fileLengthMs (run fileLengthMs earlier) →
    ∀ line ∈ pending fileLengthMs earlier,
      resolve (folder directoryName call.continousScanTarget) =
        resolve (folder directoryName line.continousScanTarget)

variable {resolve directoryName}

theorem pending_concat :
    pending fileLengthMs (calls ++ [call]) =
      if call.Writes fileLengthMs (run fileLengthMs calls) then []
      else pending fileLengthMs calls ++ if call.scanning then [call] else [] := by
  by_cases h : call.Writes fileLengthMs (run fileLengthMs calls)
  · simp [pending, h, scanned]
  · simp only [pending, annotate_concat, List.rtakeWhile_concat, h, decide_false, Bool.not_false,
      if_true, List.map_append, List.map_cons, List.map_nil, scanned_concat, if_false]

theorem placed_lines (r : RtkNmea) :
    (placed resolve directoryName r).map Prod.snd = r.files.flatMap NmeaFile.lines := by
  simp [placed, List.map_flatMap, Function.comp_def]

theorem collected_eq_map {waiting : List NmeaCall} (h : r.buffer = waiting.map nmea) :
    call.collected r = (waiting ++ if call.scanning then [call] else []).map nmea := by
  rw [collected, h, List.map_append]
  cases call.scanning <;> rfl

/-- The lines received while scanning are those in the files, and then those which
are pending. -/
theorem scanned_settled (calls : List NmeaCall) :
    ∃ settled, scanned calls = settled ++ pending fileLengthMs calls ∧
      (run fileLengthMs calls).files.flatMap NmeaFile.lines = settled.map nmea ∧
      (run fileLengthMs calls).buffer = (pending fileLengthMs calls).map nmea := by
  induction calls using List.reverseRecOn with
  | nil => exact ⟨[], rfl, rfl, rfl⟩
  | append_singleton calls call ih =>
      obtain ⟨settled, hScanned, hFiles, hBuffer⟩ := ih
      have hCollected : call.collected (run fileLengthMs calls) = _ := collected_eq_map hBuffer
      by_cases h : call.Writes fileLengthMs (run fileLengthMs calls)
      · refine ⟨scanned (calls ++ [call]), ?_, ?_, ?_⟩
        · rw [pending_concat, if_pos h, List.append_nil]
        · rw [run_concat, apply_writes h, List.flatMap_append, hFiles, scanned_concat, hScanned,
            List.append_assoc, List.map_append, ← hCollected]
          simp
        · rw [run_concat, apply_writes h, pending_concat, if_pos h]
          rfl
      · refine ⟨settled, ?_, ?_, ?_⟩
        · rw [scanned_concat, hScanned, pending_concat, if_neg h, List.append_assoc]
        · rw [run_concat, apply_keeps h, hFiles]
        · rw [run_concat, apply_keeps h, pending_concat, if_neg h, ← hCollected]

theorem map_prefix_map_iff {α β : Type} {f g : α → β} {items : List α} :
    items.map f <+: items.map g ↔ ∀ item ∈ items, f item = g item := by
  constructor
  · intro h
    exact List.map_inj_left.mp (h.eq_of_length (by simp))
  · intro h
    rw [List.map_congr_left h]

/-- The lines already written are the settled ones. -/
theorem Placed.settled {settled waiting : List NmeaCall}
    (h : Placed resolve directoryName fileLengthMs calls)
    (hScanned : scanned calls = settled ++ waiting)
    (hFiles : (run fileLengthMs calls).files.flatMap NmeaFile.lines = settled.map nmea) :
    placed resolve directoryName (run fileLengthMs calls) =
      settled.map (place resolve directoryName) := by
  rw [Placed, hScanned, List.map_append] at h
  have hLength : (placed resolve directoryName (run fileLengthMs calls)).length =
      (settled.map (place resolve directoryName)).length := by
    rw [← List.length_map Prod.snd, placed_lines, hFiles, List.length_map, List.length_map]
  have hPrefix := List.prefix_of_prefix_length_le h (List.prefix_append _ _) hLength.le
  exact hPrefix.eq_of_length hLength

/-- A call keeps the lines in their folders exactly if the target has not moved away
from those which it writes. -/
theorem placed_concat_iff (h : Placed resolve directoryName fileLengthMs calls) :
    Placed resolve directoryName fileLengthMs (calls ++ [call]) ↔
      Unmoved resolve directoryName fileLengthMs calls call := by
  obtain ⟨settled, hScanned, hFiles, hBuffer⟩ :=
    @scanned_settled fileLengthMs calls
  by_cases hWrites : call.Writes fileLengthMs (run fileLengthMs calls)
  · have hPlaced : placed resolve directoryName (run fileLengthMs (calls ++ [call])) =
        settled.map (place resolve directoryName) ++
          (pending fileLengthMs calls ++ if call.scanning then [call] else []).map
            fun line => (resolve (folder directoryName call.continousScanTarget), line.nmea) := by
      rw [← h.settled hScanned hFiles, run_concat, apply_writes hWrites,
        collected_eq_map hBuffer]
      simp [placed, Function.comp_def]
    have hExpected : (scanned (calls ++ [call])).map (place resolve directoryName) =
        settled.map (place resolve directoryName) ++
          (pending fileLengthMs calls ++ if call.scanning then [call] else []).map
            (place resolve directoryName) := by
      rw [scanned_concat, hScanned, List.append_assoc, List.map_append]
    rw [Placed, hPlaced, hExpected, List.prefix_append_right_inj, map_prefix_map_iff]
    constructor
    · intro hPlaces _ line hLine
      exact congrArg Prod.fst (hPlaces line (List.mem_append_left _ hLine))
    · intro hUnmoved line hLine
      rcases List.mem_append.mp hLine with hPending | hCall
      · rw [place, hUnmoved hWrites line hPending]
      · split at hCall
        · rw [List.mem_singleton.mp hCall, place]
        · cases hCall
  · have hKept : placed resolve directoryName (run fileLengthMs (calls ++ [call])) =
        placed resolve directoryName (run fileLengthMs calls) := by
      rw [run_concat, apply_keeps hWrites]
      rfl
    rw [Placed, hKept, scanned_concat, List.map_append]
    exact ⟨fun _ hContra => absurd hContra hWrites, fun _ => h.trans (List.prefix_append _ _)⟩

/-- All lines are in their folders at every point exactly if the target has the folder
of the lines in the buffer again whenever a file is written. -/
theorem lines_placed_iff (resolve : String → Directory) (directoryName : String)
    (fileLengthMs : Int) (calls : List NmeaCall) :
    Throughout (Placed resolve directoryName fileLengthMs) calls ↔
      Each (Unmoved resolve directoryName fileLengthMs) calls := by
  have hNil : Placed resolve directoryName fileLengthMs [] := List.nil_prefix
  exact throughout_iff_each hNil fun earlier call _ h => placed_concat_iff h.last

/-- A scan ends without a line in STOPPING, and the controller starts anew. -/
def abandonedScan : List NmeaCall :=
  [⟨"$GNGGA,1", "SCANNING", "/media/usb/continousScanning_0001", ⟨0, 0, 0, 0, 0⟩⟩,
    ⟨"$GNGGA,2", "IDLE", "/media/usb/continousScanning_0002",
      ⟨seconds 60, seconds 60, seconds 60, 0, seconds 60⟩⟩]

/-- The line of the old session is written into the folder of the new one. -/
theorem abandonedScan_misplaced :
    placed id "EXTRA_GNSS" (run 20000 abandonedScan) =
        [("/media/usb/continousScanning_0002/EXTRA_GNSS", "$GNGGA,1")] ∧
      ¬Throughout (Placed id "EXTRA_GNSS" 20000) abandonedScan := by
  have hPlaced : placed id "EXTRA_GNSS" (run 20000 abandonedScan) =
      [("/media/usb/continousScanning_0002/EXTRA_GNSS", "$GNGGA,1")] := by decide
  refine ⟨hPlaced, fun h => ?_⟩
  have hLast := h.last
  rw [Placed, hPlaced] at hLast
  exact absurd hLast (by decide)

end Folders

end NmeaCall

end Mandeye.RtkNmea
