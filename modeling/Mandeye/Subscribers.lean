import Mandeye.Controller.System

/-! The programs which record along with the controller: the extra GNSS recorder
and the camera. Each of them knows the controller by the last message it has
received. -/
namespace Mandeye

open Interleaving

/-- The readings of the clocks during one call, in the order of the source. The
first one is used by the first call only. -/
structure Readings where
  lastTime : Int
  now : Int
  entered : Int
  start : Int
  saved : Int

/-- A file in the directory of the recorder below the target, with the lines
which were appended to its buffer. -/
structure NmeaFile where
  continousScanTarget : String
  start : Int
  lines : List String

/-- The extra GNSS recorder: the state it was told and the static variables of
its callback. -/
structure RtkNmea where
  modeName : String
  continuousScanTarget : String
  lastTime : Option Int
  buffer : List String
  lastMode : String
  files : List NmeaFile

namespace RtkNmea

def started : RtkNmea := ⟨"", "", none, [], "", []⟩

/-- The callback for a line. The duration is taken before the time is set again, and
the buffer is written when the file is long enough or the scan ends. -/
def nmeaCallback (fileLengthMs : Int) (nmea : String) (readings : Readings) (r : RtkNmea) :
    RtkNmea :=
  let lastTime := r.lastTime.getD readings.lastTime
  let duration := (readings.now - lastTime).tdiv (milliseconds 1)
  let mode := r.modeName
  let lastTime :=
    if r.lastMode ≠ mode ∧ mode = "SCANNING" then readings.entered else lastTime
  let buffer := if mode = "SCANNING" then r.buffer ++ [nmea] else r.buffer
  if (fileLengthMs < duration ∨ mode = "STOPPING") ∧ String.join buffer ≠ "" then
    { r with
      lastMode := mode
      lastTime := some readings.saved
      buffer := []
      files := r.files ++ [⟨r.continuousScanTarget, readings.start, buffer⟩] }
  else
    { r with
      lastMode := mode
      lastTime := some lastTime
      buffer := buffer }

/-- The lines in the files and in the buffer. -/
def recorded (r : RtkNmea) : List String := r.files.flatMap NmeaFile.lines ++ r.buffer

/-- Starting a new file neither loses nor repeats a line. -/
theorem nmeaCallback_recorded (fileLengthMs : Int) (nmea : String) (readings : Readings)
    (r : RtkNmea) :
    (r.nmeaCallback fileLengthMs nmea readings).recorded =
      r.recorded ++ if r.modeName = "SCANNING" then [nmea] else [] := by
  simp only [nmeaCallback]
  split_ifs <;> simp [recorded]

end RtkNmea

/-- The camera program. -/
structure Camera where
  state : String
  continousScanTarget : String

namespace Camera

def started : Camera := ⟨"", ""⟩

/-- What the camera asks before each photo. -/
def isContinousScanRunning (camera : Camera) : Bool := camera.state = "SCANNING"

end Camera

/-- The controller with both programs, and what they had to decide on: the lines
and the frames which they received, each with the state of the controller. -/
structure Devices where
  controller : Configuration Controller.Response Controller.Local Controller Controller.Move
  rtkNmea : RtkNmea
  camera : Camera
  lines : List (States × String)
  frames : List (States × Bool)

/-- A step of the controller, a message which arrives at one of the programs, or a
line or frame for it. -/
inductive DeviceEvent where
  | controller (choice : Choice Thread Controller.Move)
  | deliverRtkNmea
  | deliverCamera
  | line (nmea : String) (readings : Readings)
  | frame

namespace Devices

open Controller (system)

variable (settings : Settings) (fileLengthMs : Int)

/-- The state of the controller. -/
def appState (d : Devices) : States := d.controller.world.state.appState

/-- A line or a frame counts only if the last message is faithful: the mode in
it names the state in which the controller is. -/
def next (d : Devices) : DeviceEvent → Option Devices
  | .controller choice =>
      ((system settings).next d.controller choice).map fun c => { d with controller := c }
  | .deliverRtkNmea =>
      d.controller.world.state.publisherPtr.map fun publisher =>
        { d with rtkNmea := { d.rtkNmea with
          modeName := publisher.mode
          continuousScanTarget := publisher.continousScanDirectory } }
  | .deliverCamera =>
      d.controller.world.state.publisherPtr.map fun publisher =>
        { d with camera := ⟨publisher.mode, publisher.continousScanDirectory⟩ }
  | .line nmea readings =>
      if d.rtkNmea.modeName = statesToString d.appState then
        some { d with
          rtkNmea := d.rtkNmea.nmeaCallback fileLengthMs nmea readings
          lines := d.lines ++ [(d.appState, nmea)] }
      else none
  | .frame =>
      if d.camera.state = statesToString d.appState then
        some { d with frames := d.frames ++ [(d.appState, d.camera.isContinousScanRunning)] }
      else none

/-- The programs after these events, if all of them are possible. -/
def run (d : Devices) : List DeviceEvent → Option Devices
  | [] => some d
  | event :: rest => (d.next settings fileLengthMs event).bind fun e => e.run rest

/-- All three programs are started. -/
def switchedOn (s : Controller) : Devices :=
  ⟨(system settings).initial s, .started, .started, [], []⟩

/-- The controller records a continuous scan. -/
def isContinousScan : States → Bool
  | .scanning => true
  | .stoppingStage1 => true
  | .stoppingStage2 => true
  | _ => false

/-- A click has asked for the end of the scan and has not been confirmed. -/
def isConfirming : States → Bool
  | .stoppingStage1 => true
  | .stoppingStage2 => true
  | _ => false

/-- The recorder has the lines received while a continuous scan was recorded,
and no others; the camera takes the scan to be running in the same states. -/
def Agree (d : Devices) : Prop :=
  d.rtkNmea.recorded = (d.lines.filter fun line => isContinousScan line.1).map Prod.snd ∧
    ∀ frame ∈ d.frames, frame.2 = isContinousScan frame.1

theorem statesToString_scanning (state : States) :
    statesToString state = "SCANNING" ↔ state = .scanning := by
  cases state <;> decide

/-- The one state is the only one unless a stop is being confirmed. -/
theorem decide_scanning_iff (state : States) :
    decide (state = .scanning) = isContinousScan state ↔ isConfirming state = false := by
  cases state <;> decide

theorem isContinousScan_of_scanning {state : States} (h : decide (state = .scanning) = true) :
    isContinousScan state = true := by
  cases of_decide_eq_true h
  rfl

/-- Both programs go by the one state. -/
structure GoByScanning (d : Devices) : Prop where
  recorded : d.rtkNmea.recorded =
    (d.lines.filter fun line => decide (line.1 = .scanning)).map Prod.snd
  frames : ∀ frame ∈ d.frames, frame.2 = decide (frame.1 = .scanning)

variable {settings fileLengthMs}

theorem GoByScanning.next {d e : Devices} {event : DeviceEvent} (h : GoByScanning d)
    (hNext : d.next settings fileLengthMs event = some e) : GoByScanning e := by
  cases event with
  | controller choice =>
      obtain ⟨c, -, rfl⟩ := Option.map_eq_some_iff.mp hNext
      exact ⟨h.recorded, h.frames⟩
  | deliverRtkNmea =>
      obtain ⟨publisher, -, rfl⟩ := Option.map_eq_some_iff.mp hNext
      exact ⟨h.recorded, h.frames⟩
  | deliverCamera =>
      obtain ⟨publisher, -, rfl⟩ := Option.map_eq_some_iff.mp hNext
      exact ⟨h.recorded, h.frames⟩
  | line nmea readings =>
      simp only [Devices.next] at hNext
      split_ifs at hNext with hMode
      cases hNext
      refine ⟨?_, h.frames⟩
      rw [RtkNmea.nmeaCallback_recorded, h.recorded, hMode, List.filter_append, List.map_append]
      by_cases hScanning : d.appState = .scanning
      · simp [hScanning, statesToString]
      · simp [hScanning, statesToString_scanning]
  | frame =>
      simp only [Devices.next] at hNext
      split_ifs at hNext with hMode
      cases hNext
      refine ⟨h.recorded, ?_⟩
      intro frame hFrame
      rcases List.mem_append.mp hFrame with hOld | hNew
      · exact h.frames frame hOld
      · cases List.mem_singleton.mp hNew
        simp [Camera.isContinousScanRunning, hMode, statesToString_scanning]

theorem GoByScanning.run {d e : Devices} (events : List DeviceEvent) (h : GoByScanning d)
    (hRun : d.run settings fileLengthMs events = some e) : GoByScanning e := by
  induction events generalizing d with
  | nil =>
      cases hRun
      exact h
  | cons event rest ih =>
      obtain ⟨middle, hNext, hRest⟩ := Option.bind_eq_some_iff.mp hRun
      exact ih (h.next hNext) hRest

theorem GoByScanning.switchedOn (s : Controller) : GoByScanning (switchedOn settings s) :=
  ⟨rfl, by simp [Devices.switchedOn]⟩

/-- A list and the part of it without the confirmation states are the same only
if these states do not occur. -/
theorem filter_scanning_iff (lines : List (States × String)) :
    (lines.filter fun line => decide (line.1 = .scanning)).map Prod.snd =
        (lines.filter fun line => isContinousScan line.1).map Prod.snd ↔
      ∀ line ∈ lines, isConfirming line.1 = false := by
  constructor
  · intro hSame line hLine
    have hSublist : (lines.filter fun line => decide (line.1 = .scanning)).Sublist
        (lines.filter fun line => isContinousScan line.1) :=
      List.monotone_filter_right lines fun _ => isContinousScan_of_scanning
    have hLength := congrArg List.length hSame
    rw [List.length_map, List.length_map] at hLength
    have hFilter := hSublist.eq_of_length hLength
    refine (decide_scanning_iff line.1).mp ?_
    rw [Bool.eq_iff_iff]
    have hMem := congrArg (line ∈ ·) hFilter
    simpa [List.mem_filter, hLine] using hMem
  · intro hNone
    rw [List.filter_congr fun line hLine => (decide_scanning_iff line.1).mpr (hNone line hLine)]

/-- In any run of the three programs in which the delivered mode is the one of
the controller, the recorders follow the controller if and only if nothing is
received while a stop is being confirmed. -/
theorem agree_iff {s : Controller} {events : List DeviceEvent} {d : Devices}
    (hRun : (Devices.switchedOn settings s).run settings fileLengthMs events = some d) :
    Agree d ↔ (∀ line ∈ d.lines, isConfirming line.1 = false) ∧
      ∀ frame ∈ d.frames, isConfirming frame.1 = false := by
  have h := (GoByScanning.switchedOn s).run events hRun
  rw [Agree, h.recorded, filter_scanning_iff]
  refine and_congr_right fun _ => forall₂_congr fun frame hFrame => ?_
  rw [h.frames frame hFrame, decide_scanning_iff]

def controllerRuns (choices : List (Choice Thread Controller.Move)) : List DeviceEvent :=
  choices.map .controller

/-- The controller publishes that it is scanning, and the recorder hears of it. -/
def untilScanning : List DeviceEvent :=
  controllerRuns (Controller.untilIdle ++ Controller.steps .livox 5 ++
    [.move (.trigger .startScan)] ++ Controller.steps .watcher 33) ++ [.deliverRtkNmea]

/-- A click, and the recorder hears of the first confirmation stage. -/
def untilStage1 : List DeviceEvent :=
  untilScanning ++ controllerRuns ([.move (.trigger .triggerContinousScanning)] ++
    Controller.steps .watcher 23) ++ [.deliverRtkNmea]

theorem agree_iff_scanning :
    ∃ d, (switchedOn Controller.plainSettings (Controller.switchedOn true)).run
      Controller.plainSettings 20000 (untilScanning ++ [.line "$GNGGA" ⟨0, 0, 0, 0, 0⟩]) = some d ∧
    d.lines = [(.scanning, "$GNGGA")] ∧ Agree d := by
  have hRun : (switchedOn Controller.plainSettings (Controller.switchedOn true)).run
      Controller.plainSettings 20000 (untilScanning ++ [.line "$GNGGA" ⟨0, 0, 0, 0, 0⟩]) =
        some _ := rfl
  exact ⟨_, hRun, rfl, (agree_iff hRun).mpr (by decide +kernel)⟩

/-- The line is received after one click, while the controller goes on recording. -/
theorem stage1_not_recorded :
    ∃ d, (switchedOn Controller.plainSettings (Controller.switchedOn true)).run
      Controller.plainSettings 20000 (untilStage1 ++ [.line "$GNGGA" ⟨0, 0, 0, 0, 0⟩]) = some d ∧
    d.lines = [(.stoppingStage1, "$GNGGA")] ∧ d.rtkNmea.recorded = [] ∧ ¬Agree d := by
  have hRun : (switchedOn Controller.plainSettings (Controller.switchedOn true)).run
      Controller.plainSettings 20000 (untilStage1 ++ [.line "$GNGGA" ⟨0, 0, 0, 0, 0⟩]) =
        some _ := rfl
  refine ⟨_, hRun, rfl, rfl, fun hAgree => ?_⟩
  exact absurd (congrArg List.length hAgree.1) (by decide +kernel)

end Devices

end Mandeye
