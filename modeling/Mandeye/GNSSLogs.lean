import Mandeye.Calls
import Mandeye.GNSSClient

/-! The logs of the GNSS client. The raw lines and the positions go through two
buffers with the same life: a log starts them, the recorder takes them away. -/
namespace Mandeye.GNSSClient

open Calls

/-- A line from the serial port with the clock readings taken for it, in the order
of the source. -/
structure Reception where
  line : String
  laserTimestamp : UInt64
  timestamp : UInt64
  rawMillis : UInt64
  csvMillis : UInt64

/-- The calls on the client, and the rounds of its worker. -/
inductive LogCall where
  | startLog
  | stopLog
  | retrieveData
  | retrieveRawData
  | received (reception : Reception)

variable (minmea : Minmea)

/-- The effect of one round of the worker on the buffers. -/
def receive (client : GNSSClient) (reception : Reception) : GNSSClient :=
  if minmea.check reception.line then
    let client := client.appendRaw
      (rawEntryToLine reception.line reception.timestamp reception.rawMillis)
    match minmea.parseGga reception.line with
    | none => client
    | some gga =>
        client.appendGga (ggaToCsvLine gga reception.laserTimestamp reception.csvMillis)
  else client

namespace LogCall

/-- The client after a call. -/
def apply (client : GNSSClient) : LogCall → GNSSClient
  | .startLog => client.startLog
  | .stopLog => client.stopLog
  | .retrieveData => client.retrieveData.2
  | .retrieveRawData => client.retrieveRawData.2
  | .received reception => client.receive minmea reception

/-- The client after these calls, from its construction on. -/
def run (calls : List LogCall) : GNSSClient := calls.foldl (apply minmea) .new

/-- The entry of a valid line. -/
def rawEntry : LogCall → List String
  | .received reception =>
      if minmea.check reception.line then
        [rawEntryToLine reception.line reception.timestamp reception.rawMillis]
      else []
  | _ => []

/-- The entry of a valid GGA line. -/
def csvEntry : LogCall → List GgaCsvLine
  | .received reception =>
      if minmea.check reception.line then
        ((minmea.parseGga reception.line).map fun gga =>
          ggaToCsvLine gga reception.laserTimestamp reception.csvMillis).toList
      else []
  | _ => []

/-- The calls which empty the buffer of the raw lines. -/
def emptiesRaw : LogCall → Bool
  | .startLog => true
  | .retrieveRawData => true
  | _ => false

/-- The calls which empty the buffer of the positions. -/
def emptiesData : LogCall → Bool
  | .startLog => true
  | .retrieveData => true
  | _ => false

/-- The entries of the calls made while a log was running, since a buffer was last
emptied. -/
def logged {Entry : Type} (empties : LogCall → Bool) (entry : LogCall → List Entry)
    (calls : List LogCall) : List Entry :=
  ((annotate (fun earlier => (run minmea earlier).isLogging) calls).rtakeWhile
    fun call => !empties call.1).flatMap fun call => if call.2 then entry call.1 else []

/-- Each buffer holds what was received for it while logging. -/
structure Lawful (calls : List LogCall) : Prop where
  rawbuffer : (run minmea calls).rawbuffer = logged minmea emptiesRaw (rawEntry minmea) calls
  buffer : (run minmea calls).buffer = logged minmea emptiesData (csvEntry minmea) calls

/-- No buffer grows while logging is off. -/
def Quiet (earlier : List LogCall) (call : LogCall) : Prop :=
  (run minmea earlier).isLogging = false →
    (call.apply minmea (run minmea earlier)).rawbuffer.length ≤
        (run minmea earlier).rawbuffer.length ∧
      (call.apply minmea (run minmea earlier)).buffer.length ≤ (run minmea earlier).buffer.length

/-- A valid line comes only while a log is running. -/
def LinesLogged (earlier : List LogCall) (call : LogCall) : Prop :=
  ∀ reception, call = .received reception → minmea.check reception.line →
    (run minmea earlier).isLogging

variable {minmea} {client : GNSSClient} {call : LogCall} {calls : List LogCall}

@[simp] theorem run_nil : run minmea [] = .new := rfl

@[simp] theorem run_concat :
    run minmea (calls ++ [call]) = call.apply minmea (run minmea calls) := by
  simp [run]

@[simp] theorem logged_nil {Entry : Type} {empties : LogCall → Bool}
    {entry : LogCall → List Entry} : logged minmea empties entry [] = [] := rfl

theorem logged_concat {Entry : Type} {empties : LogCall → Bool}
    {entry : LogCall → List Entry} :
    logged minmea empties entry (calls ++ [call]) =
      if empties call then []
      else logged minmea empties entry calls ++
        if (run minmea calls).isLogging then entry call else [] := by
  cases h : empties call <;> simp [logged, h]

/-- Raw lines are appended whether or not a log is running. -/
theorem apply_rawbuffer :
    (call.apply minmea client).rawbuffer =
      if call.emptiesRaw then [] else client.rawbuffer ++ call.rawEntry minmea := by
  cases call with
  | received reception =>
      simp only [apply, receive, rawEntry, emptiesRaw]
      split
      · split <;> simp [appendRaw, appendGga]
      · simp
  | _ => simp [apply, GNSSClient.startLog, GNSSClient.stopLog, GNSSClient.retrieveData,
      GNSSClient.retrieveRawData, emptiesRaw, rawEntry]

theorem apply_buffer :
    (call.apply minmea client).buffer =
      if call.emptiesData then []
      else client.buffer ++ if client.isLogging then call.csvEntry minmea else [] := by
  cases call with
  | received reception =>
      simp only [apply, receive, csvEntry, emptiesData]
      by_cases hCheck : minmea.check reception.line
      · cases hGga : minmea.parseGga reception.line with
        | none => simp [hCheck, appendRaw]
        | some gga =>
            cases hLogging : client.isLogging <;>
              simp [hCheck, hLogging, appendRaw, appendGga, acceptedGga]
      · simp [hCheck]
  | _ => simp [apply, GNSSClient.startLog, GNSSClient.stopLog, GNSSClient.retrieveData,
      GNSSClient.retrieveRawData, emptiesData, csvEntry]

theorem rawEntry_eq_nil_iff :
    call.rawEntry minmea = [] ↔
      ∀ reception, call = .received reception → minmea.check reception.line = false := by
  cases call with
  | received reception => simp [rawEntry]
  | _ => simp [rawEntry]

theorem csvEntry_eq_nil (h : call.rawEntry minmea = []) : call.csvEntry minmea = [] := by
  cases call with
  | received reception =>
      rw [rawEntry_eq_nil_iff] at h
      simp [csvEntry, h reception rfl]
  | _ => rfl

theorem linesLogged_iff :
    LinesLogged minmea calls call ↔
      ((run minmea calls).isLogging = false → call.rawEntry minmea = []) := by
  rw [rawEntry_eq_nil_iff, LinesLogged]
  constructor
  · intro h hOff reception hCall
    by_contra hCheck
    simp [h reception hCall (by simpa using hCheck)] at hOff
  · intro h reception hCall hCheck
    by_contra hOff
    simp [h (by simpa using hOff) reception hCall] at hCheck

theorem lawful_concat_iff (h : Lawful minmea calls) :
    Lawful minmea (calls ++ [call]) ↔ LinesLogged minmea calls call := by
  have hData : (run minmea (calls ++ [call])).buffer =
      logged minmea emptiesData (csvEntry minmea) (calls ++ [call]) := by
    rw [run_concat, apply_buffer, logged_concat, h.buffer]
  have hRaw : (run minmea (calls ++ [call])).rawbuffer =
      logged minmea emptiesRaw (rawEntry minmea) (calls ++ [call]) ↔
        ((run minmea calls).isLogging = false → call.rawEntry minmea = []) := by
    rw [run_concat, apply_rawbuffer, logged_concat, h.rawbuffer]
    cases hEmpties : call.emptiesRaw with
    | true =>
        have hEntry : call.rawEntry minmea = [] := by
          cases call with
          | received reception => cases hEmpties
          | _ => rfl
        simp [hEntry]
    | false =>
        cases hLogging : (run minmea calls).isLogging <;> simp
  rw [linesLogged_iff, ← hRaw]
  exact ⟨fun hLawful => hLawful.rawbuffer, fun hRawLaw => ⟨hRawLaw, hData⟩⟩

theorem LinesLogged.quiet (h : LinesLogged minmea calls call) : Quiet minmea calls call := by
  intro hOff
  have hRaw := linesLogged_iff.mp h hOff
  rw [apply_rawbuffer, apply_buffer, hRaw, csvEntry_eq_nil hRaw]
  constructor
  · split <;> simp
  · split <;> simp

/-- The buffers hold what was received while logging, and stay as they are while it
is off, exactly if valid lines come only while a log is running. -/
theorem buffers_lawful_iff (minmea : Minmea) (calls : List LogCall) :
    (Throughout (Lawful minmea) calls ∧ Each (Quiet minmea) calls) ↔
      Each (LinesLogged minmea) calls := by
  have hThroughout : Throughout (Lawful minmea) calls ↔ Each (LinesLogged minmea) calls :=
    throughout_iff_each ⟨rfl, rfl⟩ fun earlier call _ h => lawful_concat_iff h.last
  rw [hThroughout, and_iff_left_iff_imp]
  intro h
  exact h.imp fun earlier call hCall => hCall.quiet

def antennaStatus : String := "$GPTXT,01,01,02,ANTSTATUS=OK*3B"

def antennaMinmea : Minmea := ⟨fun line => line = antennaStatus, fun _ => none⟩

/-- The receiver talks before any log has been started. -/
def idleLine : List LogCall := [.received ⟨antennaStatus, 0, 0, 0, 0⟩]

/-- The line is kept although no log is running. -/
theorem idleLine_kept :
    (run antennaMinmea idleLine).isLogging = false ∧
      (run antennaMinmea idleLine).rawbuffer.length = 1 ∧
      ¬(Throughout (Lawful antennaMinmea) idleLine ∧ Each (Quiet antennaMinmea) idleLine) := by
  have hRaw : (run antennaMinmea idleLine).rawbuffer.length = 1 := rfl
  refine ⟨rfl, hRaw, fun h => ?_⟩
  have hLaw := h.1.last.rawbuffer
  have hLogged : logged antennaMinmea emptiesRaw (rawEntry antennaMinmea) idleLine = [] := rfl
  rw [hLogged] at hLaw
  rw [hLaw] at hRaw
  cases hRaw

end LogCall

end Mandeye.GNSSClient
