import Mandeye.Decimal
import Mandeye.GNSSLogs
import Mandeye.NmeaFiles
import Mandeye.SelfDelimiting

/-! The raw files of the two GNSS recorders, read again. An entry has two numbers and
the line as it came from the serial port, which ends with its first line feed. -/
namespace Mandeye.NmeaText

open Calls SelfDelimiting

/-- What a serial line is when `ReadLine` has returned it. -/
def IsLine (line : String) : Prop := ∃ body, line.toList = body ++ ['\n'] ∧ '\n' ∉ body

/-- An entry of a raw file. -/
structure RawEntry where
  timestamp : UInt64
  clock : UInt64
  line : String
  deriving DecidableEq

/-- A number with a blank behind it. -/
def readNumber (text : List Char) : Option (UInt64 × List Char) :=
  match text.takeWhile Char.isDigit, text.dropWhile Char.isDigit with
  | [], _ => none
  | digits, ' ' :: rest => some (UInt64.ofNat (Nat.ofDigitChars 10 digits 0), rest)
  | _, _ => none

/-- The text up to the first line feed. -/
def readLine (text : List Char) : Option (String × List Char) :=
  match text.dropWhile (· ≠ '\n') with
  | '\n' :: rest => some (String.ofList (text.takeWhile (· ≠ '\n') ++ ['\n']), rest)
  | _ => none

/-- The text without something which it has to begin with. -/
def expect : List Char → List Char → Option (List Char)
  | [], text => some text
  | c :: expected, d :: text => if c = d then expect expected text else none
  | _ :: _, [] => none

/-- The entry as it is written. -/
def RawEntry.text (entry : RawEntry) (trailer : List Char) : List Char :=
  Nat.toDigits 10 entry.timestamp.toNat ++ ' ' :: (Nat.toDigits 10 entry.clock.toNat ++
    ' ' :: (entry.line.toList ++ trailer))

/-- Entries which end with their line or with something behind it. -/
def entries (trailer : List Char) : Format RawEntry Char where
  encode entry := entry.text trailer
  decode text := do
    let (timestamp, text) ← readNumber text
    let (clock, text) ← readNumber text
    let (line, text) ← readLine text
    let rest ← expect trailer text
    return (⟨timestamp, clock, line⟩, rest)

section Reading

theorem readNumber_toDigits (n : UInt64) (rest : List Char) :
    readNumber (Nat.toDigits 10 n.toNat ++ ' ' :: rest) = some (n, rest) := by
  have hTake := Decimal.takeWhile_toDigits n.toNat (' ' :: rest) (by simp)
  have hDrop : (Nat.toDigits 10 n.toNat ++ ' ' :: rest).dropWhile Char.isDigit = ' ' :: rest := by
    rw [List.dropWhile_append_of_pos fun c hc => Decimal.isDigit_toDigits hc]
    rfl
  rw [readNumber, hTake, hDrop]
  cases hDigits : Nat.toDigits 10 n.toNat with
  | nil => exact absurd hDigits Nat.toDigits_ne_nil
  | cons c digits =>
      have hValue : Nat.ofDigitChars 10 (c :: digits) 0 = n.toNat := by
        rw [← hDigits, Nat.ofDigitChars_ten_toDigits]
      change some (UInt64.ofNat (Nat.ofDigitChars 10 (c :: digits) 0), rest) = _
      rw [hValue, UInt64.ofNat_toNat]

theorem readLine_append {line : String} (h : IsLine line) (rest : List Char) :
    readLine (line.toList ++ rest) = some (line, rest) := by
  obtain ⟨body, hLine, hBody⟩ := h
  have hKeep : ∀ c ∈ body, decide (c ≠ '\n') = true := by
    intro c hc
    exact decide_eq_true fun hEnd => hBody (hEnd ▸ hc)
  have hDrop : (line.toList ++ rest).dropWhile (· ≠ '\n') = '\n' :: rest := by
    rw [hLine, List.append_assoc, List.dropWhile_append_of_pos hKeep]
    rfl
  have hTake : (line.toList ++ rest).takeWhile (· ≠ '\n') = body := by
    rw [hLine, List.append_assoc, List.takeWhile_append_of_pos hKeep]
    simp
  rw [readLine, hDrop, hTake, ← hLine, String.ofList_toList]
  rfl

theorem expect_append (expected rest : List Char) :
    expect expected (expected ++ rest) = some rest := by
  induction expected with
  | nil => rfl
  | cons c expected ih => rw [List.cons_append, expect, if_pos rfl, ih]

theorem reads_entry {entry : RawEntry} (h : IsLine entry.line) (trailer : List Char) :
    (entries trailer).Reads entry := by
  refine ⟨?_, fun rest => ?_⟩
  · simp [entries, RawEntry.text]
  · simp only [entries, RawEntry.text, List.append_assoc, List.cons_append, readNumber_toDigits,
      readLine_append h, expect_append, Option.bind_eq_bind, Option.bind_some]
    rfl

theorem toList_toString (n : UInt64) : (toString n).toList = Nat.toDigits 10 n.toNat :=
  Nat.toList_repr

theorem toList_join (texts : List String) :
    (String.join texts).toList = (texts.map String.toList).flatten := by
  induction texts with
  | nil => rfl
  | cons text texts ih => rw [String.join_cons, String.toList_append, ih]; rfl

end Reading

section Controller

open GNSSClient LogCall

/-- The client, and the lists which were taken out of its raw buffer for the files. -/
structure Recorder where
  client : GNSSClient
  taken : List (List String)

variable (minmea : Minmea)

/-- A new log has new files. -/
def Recorder.apply (r : Recorder) (call : LogCall) : Recorder where
  client := LogCall.apply minmea r.client call
  taken :=
    match call with
    | .startLog => []
    | .retrieveRawData => r.taken ++ [r.client.retrieveRawData.1]
    | .stopLog | .retrieveData | .received _ => r.taken

/-- The recorder after these calls. -/
def recorded (calls : List LogCall) : Recorder := calls.foldl (Recorder.apply minmea) ⟨.new, []⟩

/-- What `saveGnssRawData` writes. -/
def saveGnssRawData (buffer : List String) : List Char := (String.join buffer).toList

/-- The calls with which the files begin anew. -/
def startsLog : LogCall → Bool
  | .startLog => true
  | _ => false

/-- The entry for a valid line, with the number to which its time stamp is rounded. -/
def accepted : LogCall → List RawEntry
  | .received reception =>
      if minmea.check reception.line then
        [⟨laserNanoseconds reception.timestamp, reception.rawMillis, reception.line⟩]
      else []
  | _ => []

/-- The entries for the valid lines since the log was started. -/
def sinceStart (calls : List LogCall) : List RawEntry :=
  (calls.rtakeWhile fun call => !startsLog call).flatMap (accepted minmea)

variable {minmea} {calls : List LogCall}

theorem toList_rawEntryToLine (line : String) (timestamp millis : UInt64) :
    (rawEntryToLine line timestamp millis).toList =
      (RawEntry.mk (laserNanoseconds timestamp) millis line).text [' '] := by
  simp only [rawEntryToLine, String.toList_append, toList_toString, RawEntry.text,
    List.append_assoc]
  rfl

theorem toList_rawEntry (call : LogCall) :
    (rawEntry minmea call).map String.toList =
      (accepted minmea call).map (entries [' ']).encode := by
  cases call with
  | received reception =>
      simp only [rawEntry, accepted]
      split
      · exact congrArg ([·]) (toList_rawEntryToLine _ _ _)
      · rfl
  | _ => rfl

theorem sinceStart_concat (calls : List LogCall) (call : LogCall) :
    sinceStart minmea (calls ++ [call]) =
      if startsLog call then [] else sinceStart minmea calls ++ accepted minmea call := by
  cases h : startsLog call <;> simp [sinceStart, h]

/-- All lines of a recorder, in order. -/
def Recorder.parts (r : Recorder) : List (List String) := r.taken ++ [r.client.rawbuffer]

theorem flatten_apply (r : Recorder) (call : LogCall) :
    (r.apply minmea call).parts.flatten =
      if startsLog call then [] else r.parts.flatten ++ rawEntry minmea call := by
  have hBuffer := @apply_rawbuffer minmea r.client call
  unfold Recorder.parts Recorder.apply
  cases call with
  | startLog => rfl
  | stopLog | received _ =>
      rw [hBuffer]
      simp [emptiesRaw, startsLog, rawEntry]
  | retrieveData =>
      rw [hBuffer]
      simp [emptiesRaw, startsLog, rawEntry]
  | retrieveRawData =>
      rw [hBuffer]
      simp [emptiesRaw, startsLog, rawEntry, GNSSClient.retrieveRawData]

/-- What was taken and what is still in the buffer are the entries since the start. -/
theorem recorded_flatten (calls : List LogCall) :
    (recorded minmea calls).parts.flatten.map String.toList =
      (sinceStart minmea calls).map (entries [' ']).encode := by
  induction calls using List.reverseRecOn with
  | nil => rfl
  | append_singleton calls call ih =>
      have hStep : recorded minmea (calls ++ [call]) =
          (recorded minmea calls).apply minmea call := by simp [recorded]
      rw [hStep, flatten_apply, sinceStart_concat]
      split
      · rfl
      · rw [List.map_append, List.map_append, ih, toList_rawEntry]

theorem isLine_of_sinceStart (hLines : ∀ reception, .received reception ∈ calls →
    IsLine reception.line) : ∀ entry ∈ sinceStart minmea calls, IsLine entry.line := by
  intro entry hEntry
  obtain ⟨call, hCall, hAccepted⟩ := List.mem_flatMap.mp hEntry
  have hMem : call ∈ calls := List.rtakeWhile_suffix _ _ |>.subset hCall
  cases call with
  | received reception =>
      simp only [accepted] at hAccepted
      split at hAccepted
      · rw [List.mem_singleton.mp hAccepted]
        exact hLines reception hMem
      · cases hAccepted
  | _ => cases hAccepted

/-- Each raw file, and the buffer, can be read by itself, and together they have the
valid lines since the log was started, each with its two time stamps. -/
theorem rawFiles_decode (minmea : Minmea) (calls : List LogCall)
    (hLines : ∀ reception, .received reception ∈ calls → IsLine reception.line) :
    ∃ found : List (List RawEntry), found.flatten = sinceStart minmea calls ∧
      (recorded minmea calls).parts.map (fun buffer =>
        (entries [' ']).decodeAll (saveGnssRawData buffer)) = found.map some := by
  have hReads : ∀ entry ∈ sinceStart minmea calls, (entries [' ']).Reads entry :=
    fun entry hEntry => reads_entry (isLine_of_sinceStart hLines entry hEntry) [' ']
  have hParts : ((recorded minmea calls).parts.map (·.map String.toList)).flatten =
      (sinceStart minmea calls).map (entries [' ']).encode := by
    rw [← List.map_flatten]
    exact recorded_flatten calls
  obtain ⟨found, hFound, hDecoded⟩ := Format.decodeAll_parts hReads hParts
  refine ⟨found, hFound, ?_⟩
  rw [← hDecoded, List.map_map]
  refine List.map_congr_left fun buffer _ => ?_
  rw [Function.comp_apply, saveGnssRawData, toList_join]

def textLine : String := "$GPTXT,01,01,02,ANTSTATUS=OK*3B\r\n"

def textMinmea : Minmea := ⟨fun line => line = textLine, fun _ => none⟩

/-- A line is received in each of two files, and one which is not valid. -/
def twoFiles : List LogCall :=
  [.startLog, .received ⟨textLine, 1000000000, 1000000000, 100, 100⟩, .retrieveRawData,
    .received ⟨"$GP\n", 2000000000, 2000000000, 200, 200⟩,
    .received ⟨textLine, 3000000000, 3000000000, 300, 300⟩]

theorem rawFiles_decode_twoFiles :
    ∃ found : List (List RawEntry), found.flatten = sinceStart textMinmea twoFiles ∧
      (recorded textMinmea twoFiles).parts.map (fun buffer =>
        (entries [' ']).decodeAll (saveGnssRawData buffer)) = found.map some := by
  refine rawFiles_decode textMinmea twoFiles fun reception hReception => ?_
  have hLine : reception.line = textLine ∨ reception.line = "$GP\n" := by
    simp only [twoFiles, List.mem_cons, List.not_mem_nil, reduceCtorEq, LogCall.received.injEq,
      or_false, false_or] at hReception
    rcases hReception with rfl | rfl | rfl
    · exact .inl rfl
    · exact .inr rfl
    · exact .inl rfl
  rcases hLine with hLine | hLine
  · rw [hLine]
    exact ⟨"$GPTXT,01,01,02,ANTSTATUS=OK*3B\r".toList, by decide, by decide⟩
  · rw [hLine]
    exact ⟨"$GP".toList, by decide, by decide⟩

end Controller

section Extra

open RtkNmea

/-- A valid line which the extra recorder gets, and its call of `NMEACallback`. -/
structure Callback where
  line : String
  laserTimestamp : UInt64
  nanos : UInt64
  mode : String
  continousScanTarget : String
  readings : Readings

/-- The worker passes the time stamp on in double precision. -/
def Callback.entry (c : Callback) : RawEntry :=
  ⟨UInt64.ofNat ⌊Binary64.round c.laserTimestamp.toNat⌋₊, c.nanos, c.line⟩

def rawEntryToLine (line : String) (laserTimestamp nanos : UInt64) : String :=
  toString laserTimestamp ++ " " ++ toString nanos ++ " " ++ line

def Callback.call (c : Callback) : NmeaCall where
  nmea := rawEntryToLine c.line (UInt64.ofNat ⌊Binary64.round c.laserTimestamp.toNat⌋₊) c.nanos
  mode := c.mode
  continousScanTarget := c.continousScanTarget
  readings := c.readings

variable {fileLengthMs : Int} {callbacks : List Callback}

theorem toList_call (c : Callback) : c.call.nmea.toList = (entries []).encode c.entry := by
  simp only [Callback.call, rawEntryToLine, String.toList_append, toList_toString, entries,
    Callback.entry, RawEntry.text, List.append_assoc, List.append_nil]
  rfl

theorem scanned_callbacks (callbacks : List Callback) :
    (NmeaCall.scanned (callbacks.map Callback.call)).map NmeaCall.nmea =
      (callbacks.filter (·.mode = "SCANNING")).map (·.call.nmea) := by
  rw [NmeaCall.scanned, List.filter_map, List.map_map]
  rfl

/-- Each file of the extra recorder, and its buffer, can be read by itself, and together
they have the lines received while scanning, each with its two time stamps. -/
theorem files_decode (fileLengthMs : Int) (callbacks : List Callback)
    (hLines : ∀ c ∈ callbacks, IsLine c.line) :
    ∃ found : List (List RawEntry),
      found.flatten = (callbacks.filter (·.mode = "SCANNING")).map Callback.entry ∧
      ((NmeaCall.run fileLengthMs (callbacks.map Callback.call)).files.map content ++
        [String.join (NmeaCall.run fileLengthMs (callbacks.map Callback.call)).buffer]).map
          (fun text => (entries []).decodeAll text.toList) = found.map some := by
  have hRecorded := @NmeaCall.run_recorded fileLengthMs (callbacks.map Callback.call)
  rw [scanned_callbacks] at hRecorded
  generalize NmeaCall.run fileLengthMs (callbacks.map Callback.call) = r at hRecorded ⊢
  have hReads : ∀ entry ∈ (callbacks.filter (·.mode = "SCANNING")).map Callback.entry,
      (entries []).Reads entry := by
    intro entry hEntry
    obtain ⟨c, hc, rfl⟩ := List.mem_map.mp hEntry
    exact reads_entry (hLines c (List.mem_filter.mp hc).1) []
  have hParts : ((r.files.map NmeaFile.lines ++ [r.buffer]).map (·.map String.toList)).flatten =
      ((callbacks.filter (·.mode = "SCANNING")).map Callback.entry).map (entries []).encode := by
    have hLists : (r.files.map NmeaFile.lines ++ [r.buffer]).flatten = r.recorded := by
      simp [RtkNmea.recorded, List.flatMap_def]
    rw [← List.map_flatten, hLists, hRecorded, List.map_map, List.map_map]
    exact List.map_congr_left fun c _ => toList_call c
  obtain ⟨found, hFound, hDecoded⟩ := Format.decodeAll_parts hReads hParts
  refine ⟨found, hFound, ?_⟩
  have hTexts : r.files.map content ++ [String.join r.buffer] =
      (r.files.map NmeaFile.lines ++ [r.buffer]).map String.join := by
    rw [List.map_append, List.map_map]
    rfl
  rw [← hDecoded, hTexts, List.map_map, List.map_map]
  refine List.map_congr_left fun lines _ => ?_
  rw [Function.comp_apply, Function.comp_apply, toList_join]

def scanLine (mode : String) (now : Int) : Callback :=
  ⟨textLine, 1000000000, 1000000000, mode, "/media/usb", ⟨0, now, now, now, now⟩⟩

/-- The first line is written to a file when the scan is stopped, the last one is not. -/
def threeLines : List Callback :=
  [scanLine "SCANNING" 1, scanLine "STOPPING" 2, scanLine "SCANNING" 3]

theorem files_decode_threeLines :
    ∃ found : List (List RawEntry),
      found.flatten = (threeLines.filter (·.mode = "SCANNING")).map Callback.entry ∧
      ((NmeaCall.run 20000 (threeLines.map Callback.call)).files.map content ++
        [String.join (NmeaCall.run 20000 (threeLines.map Callback.call)).buffer]).map
          (fun text => (entries []).decodeAll text.toList) = found.map some := by
  refine files_decode 20000 threeLines fun c hc => ?_
  have hLine : c.line = textLine := by
    simp only [threeLines, List.mem_cons, List.not_mem_nil, or_false] at hc
    rcases hc with rfl | rfl | rfl <;> rfl
  rw [hLine]
  exact ⟨"$GPTXT,01,01,02,ANTSTATUS=OK*3B\r".toList, by decide, by decide⟩

end Extra

end Mandeye.NmeaText
