import Mandeye.Calls
import Mandeye.GNSSClient

/-! The GNSS client of the extra recorder. A worker reads sentences from the serial
port, and each second a timer hands one to the client of the caster. Every step
below is one section which the source executes under a mutex. -/
namespace Mandeye.GgaSends

open Calls

/-- The client, with the sentence which its worker has parsed but not yet stored,
the sentences handed to the caster's client and the messages which this sends. -/
structure GNSSClient where
  lastLine : String
  lastGGARaw : String
  lastGGA : Option MinmeaSentenceGga
  errorCounter : Nat
  aborted : Bool
  parsed : Option (String × MinmeaSentenceGga)
  numberOfGGAMessagesToCaster : UInt64
  sentences : List String
  messages : List String

/-- A client as its constructor leaves it. What `lastGGA` has is not defined yet. -/
def GNSSClient.new : GNSSClient := ⟨"", "", none, 0, false, none, 0, [], []⟩

/-- The worker goes on, with the line that it reads if it does; the timer of the
next sentence expires or is cancelled. -/
inductive Event where
  | worker (read : Option String)
  | timer (cancelled isOpen : Bool)

namespace GNSSClient

variable (minmea : Minmea)

/-- The worker reads a line and looks what it is. -/
def readLine (line : String) (c : GNSSClient) : GNSSClient :=
  { c with
    lastLine := line
    errorCounter := if minmea.check line then 0 else c.errorCounter
    parsed := if minmea.check line then (minmea.parseGga line).map (line, ·) else none }

/-- The sentence is stored under the mutex. Its text is not stored with it. -/
def storeGga (gga : MinmeaSentenceGga) (c : GNSSClient) : GNSSClient :=
  { c with lastGGA := some gga, parsed := none }

/-- A sentence which was parsed is stored before the next line is read. After ten
errors the worker aborts the process. -/
def worker (read : Option String) (c : GNSSClient) : GNSSClient :=
  match c.parsed with
  | some (_, gga) => c.storeGga gga
  | none =>
      if c.errorCounter < 10 then
        match read with
        | some line => c.readLine minmea line
        | none => { c with errorCounter := c.errorCounter + 1 }
      else { c with aborted := true }

/-- The caster's client sends the sentence if its socket is open. -/
def sendGga (sentence : String) (isOpen : Bool) (c : GNSSClient) : GNSSClient :=
  { c with
    sentences := c.sentences ++ [sentence]
    messages := if isOpen then c.messages ++ [sentence ++ "\r\n"] else c.messages }

/-- The handler of the timer, which also arms it again. -/
def timer (cancelled isOpen : Bool) (c : GNSSClient) : GNSSClient :=
  if cancelled then c
  else
    let sent := c.sendGga c.lastGGARaw isOpen
    { sent with numberOfGGAMessagesToCaster := sent.numberOfGGAMessagesToCaster + 1 }

/-- Nothing happens after the process was aborted. -/
def next (c : GNSSClient) (event : Event) : GNSSClient :=
  if c.aborted then c
  else
    match event with
    | .worker read => c.worker minmea read
    | .timer cancelled isOpen => c.timer cancelled isOpen

/-- The client after these events. -/
def after (events : List Event) : GNSSClient := events.foldl (next minmea) new

/-- The sentence which an event stores. -/
def stores (c : GNSSClient) : Event → Option (String × MinmeaSentenceGga)
  | .worker _ => if c.aborted then none else c.parsed
  | .timer _ _ => none

/-- The sentence which an event hands to the caster's client. -/
def hands (c : GNSSClient) : Event → Option String
  | .worker _ => none
  | .timer cancelled _ =>
      if c.aborted || cancelled then none else some c.lastGGARaw

/-- The valid GGA sentences received so far, with their parses. -/
def received (events : List Event) : List (String × MinmeaSentenceGga) :=
  (annotate (after minmea) events).filterMap fun (event, before) => before.stores event

/-- Each sentence which is handed over is the latest one received, whose parse is
`lastGGA`. -/
def HandsLatest : List Event → Prop :=
  Each fun earlier event => ∀ sentence, (after minmea earlier).hands event = some sentence →
    ∀ latest ∈ (received minmea earlier).getLast?,
      sentence = latest.1 ∧ (after minmea earlier).lastGGA = some latest.2

/-- No sentence is handed over any more once one has been received. -/
def SilentOnceReceived : List Event → Prop :=
  Each fun earlier event => (after minmea earlier).hands event ≠ none →
    received minmea earlier = []

variable {minmea} {events : List Event} {event : Event} {c : GNSSClient}

@[simp] theorem after_concat :
    after minmea (events ++ [event]) = (after minmea events).next minmea event := by
  simp [after]

theorem received_concat : received minmea (events ++ [event]) =
    received minmea events ++ ((after minmea events).stores event).toList := by
  rw [received, received, annotate_concat, List.filterMap_append]
  congr 1

@[simp] theorem lastGGARaw_next : (c.next minmea event).lastGGARaw = c.lastGGARaw := by
  unfold next
  split
  · rfl
  · cases event with
    | worker read =>
        simp only [worker]
        repeat' split
        all_goals rfl
    | timer cancelled isOpen => cases cancelled <;> rfl

/-- Nothing is ever stored in the raw sentence. -/
theorem lastGGARaw_after (minmea : Minmea) (events : List Event) :
    (after minmea events).lastGGARaw = "" := by
  induction events using List.reverseRecOn with
  | nil => rfl
  | append_singleton events event ih => rw [after_concat, lastGGARaw_next, ih]

/-- What the worker has parsed, and what is stored, are valid GGA sentences. -/
structure Consistent (minmea : Minmea) (history : List (String × MinmeaSentenceGga))
    (c : GNSSClient) : Prop where
  parsed : ∀ pair ∈ c.parsed, minmea.check pair.1 = true ∧ minmea.parseGga pair.1 = some pair.2
  received : ∀ pair ∈ history,
    minmea.check pair.1 = true ∧ minmea.parseGga pair.1 = some pair.2
  lastGGA : ∀ latest ∈ history.getLast?, c.lastGGA = some latest.2

theorem Consistent.worker {history : List (String × MinmeaSentenceGga)} (read : Option String)
    (h : c.Consistent minmea history) :
    (c.worker minmea read).Consistent minmea (history ++ c.parsed.toList) := by
  rw [worker.eq_def]
  cases hParsed : c.parsed with
  | some pair =>
      have hPair := h.parsed pair hParsed
      refine ⟨by simp [storeGga], fun other hOther => ?_, by simp [storeGga]⟩
      rcases List.mem_append.mp hOther with hBefore | hNow
      · exact h.received other hBefore
      · rw [Option.toList_some, List.mem_singleton] at hNow
        exact hNow ▸ hPair
  | none =>
      rw [Option.toList_none, List.append_nil]
      dsimp only
      split
      · cases read with
        | none => exact ⟨nofun, h.received, h.lastGGA⟩
        | some line =>
            refine ⟨?_, h.received, h.lastGGA⟩
            by_cases hCheck : minmea.check line = true
            · simp [readLine, hCheck]
            · simp [readLine, hCheck]
      · exact ⟨nofun, h.received, h.lastGGA⟩

theorem Consistent.next {history : List (String × MinmeaSentenceGga)}
    (h : c.Consistent minmea history) :
    (c.next minmea event).Consistent minmea (history ++ (c.stores event).toList) := by
  unfold GNSSClient.next
  split
  · rename_i hAborted
    have hNothing : c.stores event = none := by cases event <;> simp [stores, hAborted]
    rw [hNothing, Option.toList_none, List.append_nil]
    exact h
  · rename_i hRunning
    cases event with
    | worker read =>
        rw [stores, if_neg hRunning]
        exact h.worker read
    | timer cancelled isOpen =>
        rw [stores, Option.toList_none, List.append_nil]
        cases cancelled <;> exact ⟨h.parsed, h.received, h.lastGGA⟩

/-- The parse of the latest sentence is always at hand. -/
theorem consistent_after (minmea : Minmea) (events : List Event) :
    (after minmea events).Consistent minmea (received minmea events) := by
  induction events using List.reverseRecOn with
  | nil => exact ⟨nofun, nofun, nofun⟩
  | append_singleton events event ih =>
      rw [after_concat, received_concat]
      exact ih.next

/-- The empty string is handed over in place of the latest sentence, so all is
well only as long as none has been received. -/
theorem handsLatest_iff (hEmpty : minmea.check "" = false) (events : List Event) :
    HandsLatest minmea events ↔ SilentOnceReceived minmea events := by
  refine each_congr fun earlier event later hEvents => ?_
  have hConsistent := consistent_after minmea earlier
  constructor
  · intro hLatest hHands
    obtain ⟨sentence, hSentence⟩ := Option.ne_none_iff_exists'.mp hHands
    rw [← List.getLast?_eq_none_iff, Option.eq_none_iff_forall_not_mem]
    intro latest hReceived
    obtain ⟨hSame, -⟩ := hLatest sentence hSentence latest hReceived
    have hRaw : sentence = "" := by
      rw [← lastGGARaw_after minmea earlier]
      cases event with
      | worker read => cases hSentence
      | timer cancelled isOpen =>
          rw [hands] at hSentence
          split at hSentence
          · cases hSentence
          · exact (Option.some.inj hSentence).symm
    obtain ⟨hValid, -⟩ := hConsistent.received latest (List.mem_of_getLast? hReceived)
    rw [← hSame, hRaw, hEmpty] at hValid
    cases hValid
  · intro hSilent sentence hSentence latest hReceived
    rw [hSilent (by rw [hSentence]; exact Option.some_ne_none _)] at hReceived
    cases hReceived

def positionLine : String :=
  "$GPGGA,123519,4807.038,N,01131.000,E,1,08,0.9,545.4,M,46.9,M,,*47\r\n"

def position : MinmeaSentenceGga where
  hours := 12
  minutes := 35
  seconds := 19
  latitude := ⟨4807038, 1000⟩
  longitude := ⟨1131000, 1000⟩
  fixQuality := 1
  satellitesTracked := 8
  hdop := ⟨9, 10⟩
  altitude := ⟨5454, 10⟩
  height := ⟨469, 10⟩
  dgpsAge := ⟨0, 0⟩

def positionMinmea : Minmea where
  check line := line = positionLine
  parseGga line := if line = positionLine then some position else none

/-- The timer expires before the sentence is received. -/
theorem handsLatest_iff_early :
    (after positionMinmea
        [.timer false true, .worker (some positionLine), .worker none]).sentences = [""] ∧
      HandsLatest positionMinmea
        [.timer false true, .worker (some positionLine), .worker none] := by
  refine ⟨by decide, (handsLatest_iff (by decide) _).mpr ?_⟩
  change Each _
    ([] ++ [Event.timer false true] ++ [Event.worker (some positionLine)] ++ [Event.worker none])
  simp only [each_concat, each_nil, true_and]
  decide

theorem empty_sentence_handed :
    received positionMinmea [.worker (some positionLine), .worker none] =
        [(positionLine, position)] ∧
      (after positionMinmea
        [.worker (some positionLine), .worker none, .timer false true]).messages = ["\r\n"] ∧
      ¬HandsLatest positionMinmea
        [.worker (some positionLine), .worker none, .timer false true] := by
  refine ⟨by decide, by decide, fun hLatest => ?_⟩
  have hSame := hLatest [.worker (some positionLine), .worker none] (.timer false true) [] rfl
    "" (by decide) (positionLine, position) (by decide)
  revert hSame
  decide

end GNSSClient

end Mandeye.GgaSends
