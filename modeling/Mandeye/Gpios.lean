import Mathlib.Algebra.Group.Nat.Defs
import Mathlib.Data.List.AList
import Mandeye.Calls
import Mandeye.LibCamera.Json
import Mandeye.Runs

/-! The buttons of the controller. A thread reads them in rounds, and a button
counts as pressed once it has been read so a few times in a row. -/
namespace Mandeye.Gpios

open Calls Runs

/-- The lights of the hardware. The last two have no name, and so no line is opened
for them. -/
inductive Led where
  | ledGpioStopScan
  | ledGpioCopyData
  | ledGpioContinousScanning
  | buzzer
  | lidarSync1
  | lidarSync2
  deriving DecidableEq

/-- The two buttons. -/
inductive Button where
  | buttonStopScan
  | buttonContinousScanning
  deriving DecidableEq

/-- The resistor of a line decides which of its values means pressed. -/
inductive GpioPull where
  | up
  | down
  | off
  deriving DecidableEq

/-- A line of the chip, which is known by its pin. -/
abbrev Line := Int32

/-- What the hardware configuration and the GPIO library answer. -/
structure Hardware where
  getLed : Led → Int32
  getButton : Button → Int32
  getPull : Button → GpioPull
  openChip : Bool
  getLine : Int32 → Option Line

/-- A light, with its line if it could be opened. -/
structure LedData where
  name : String
  state : Bool
  pin : Int32
  line : Option Line

/-- The functions which are called back go by their names. -/
structure ButtonData where
  name : String
  pin : Int32
  line : Option Line
  pressedTime : UInt32
  pullMode : GpioPull
  pressed : Bool
  callbacks : List String

/-- How many times in a row a button must be read as pressed. -/
def debounceTime : Nat := 2

namespace ButtonData

/-- A button as its value initialisation leaves it. -/
def initial : ButtonData := ⟨"", 0, none, 0, .up, false, []⟩

/-- Whether the button is pressed, by the value of its line. -/
def getButtonState (button : ButtonData) (rawButtonState : Int32) : Bool :=
  match button.line with
  | none => false
  | some _ =>
      if button.pullMode = .up then rawButtonState = 0
      else rawButtonState = 1

/-- One reading of the button, and the callbacks if they are called. -/
def read (rawButtonState : Bool) (button : ButtonData) : ButtonData × Option (List String) :=
  if rawButtonState then
    let pressedTime := button.pressedTime + 1
    if pressedTime = .ofNat debounceTime then
      ({ button with pressedTime := pressedTime, pressed := true }, some button.callbacks)
    else ({ button with pressedTime := pressedTime }, none)
  else ({ button with pressedTime := 0 }, none)

theorem read_pressed (button : ButtonData) : (button.read true).1.pressed = true ↔
    button.pressed = true ∨ button.pressedTime + 1 = .ofNat debounceTime := by
  simp only [read, if_true]
  split <;> simp [*]

/-- A callback is added in front, unless it is there already. -/
def addCallback (callbackName : String) (button : ButtonData) : ButtonData :=
  if callbackName ∈ button.callbacks then button
  else { button with callbacks := callbackName :: button.callbacks }

end ButtonData

/-- The lights which are known. -/
abbrev Leds := AList fun _ : Led => LedData
/-- The buttons which are known, in the order in which they are read. -/
abbrev Buttons := AList fun _ : Button => ButtonData

/-- Change the entry of each button, without a change of their order. -/
def Buttons.map (change : Button → ButtonData → ButtonData) (buttons : Buttons) : Buttons :=
  ⟨buttons.entries.map (.map id change), buttons.nodupKeys.map₂ change⟩

/-- The client, and whether its thread is running. -/
structure GpioClient where
  useSimulatedGpio : Bool
  ledGpio : Leds
  buttons : Buttons
  gpioReadBackThread : Bool

/-- The names under which the lights are reported. -/
def ledToName : List (Led × String) :=
  [(.buzzer, "BUZZER"), (.ledGpioContinousScanning, "LED_GPIO_CONTINOUS_SCANNING"),
    (.ledGpioCopyData, "LED_GPIO_COPY_DATA"), (.ledGpioStopScan, "LED_GPIO_STOP_SCAN")]

/-- The names under which the buttons are reported. -/
def buttonToName : List (Button × String) :=
  [(.buttonContinousScanning, "BUTTON_CONTINOUS_SCANNING"),
    (.buttonStopScan, "BUTTON_STOP_SCAN")]

namespace GpioClient

/-- A pin of -1 means that the hardware has no such light. -/
def openLed (hardware : Hardware) (led : Led) (name : String) : LedData :=
  let pin := hardware.getLed led
  ⟨name, false, pin, if pin = -1 then none else hardware.getLine pin⟩

/-- The same for a button, whose name is already there. -/
def openButton (hardware : Hardware) (button : Button) (data : ButtonData) : ButtonData :=
  let pin := hardware.getButton button
  { data with
    pin := pin
    pullMode := hardware.getPull button
    line := if pin = -1 then none else hardware.getLine pin }

/-- The names are given first, in any case. -/
def named (sim : Bool) : GpioClient where
  useSimulatedGpio := sim
  ledGpio := ledToName.foldr (fun (led, name) leds => leds.insert led ⟨name, false, 0, none⟩) ∅
  buttons := buttonToName.foldr
    (fun (button, name) buttons => buttons.insert button { ButtonData.initial with name := name }) ∅
  gpioReadBackThread := false

/-- A button which is not known is passed over. -/
def addButtonCallback (button : Button) (callbackName : String) (c : GpioClient) : GpioClient :=
  { c with
    buttons := c.buttons.map fun other data =>
      if other = button then data.addCallback callbackName else data }

/-- The lines of all lights and buttons which have a name. -/
def openLines (hardware : Hardware) (c : GpioClient) : GpioClient :=
  { c with
    ledGpio := ledToName.foldr
      (fun (led, name) leds => leds.insert led (openLed hardware led name)) c.ledGpio
    buttons := c.buttons.map (openButton hardware) }

/-- Each button gets a callback which prints its name, and the thread is started. -/
def startReadBack (c : GpioClient) : GpioClient :=
  let debug := buttonToName.foldr
    (fun (button, name) c => c.addButtonCallback button ("DBG" ++ name)) c
  { debug with gpioReadBackThread := true }

/-- The constructor gives up if there is no chip. -/
def new (sim : Bool) (hardware : Hardware) : GpioClient :=
  if sim then (named sim).startReadBack
  else if hardware.openChip then ((named sim).openLines hardware).startReadBack
  else named sim

/-- One round of the thread, with the values of the lines. The buttons whose
callbacks are called are listed with these. -/
def readBack (values : Button → Int32) (c : GpioClient) :
    GpioClient × List (Button × List String) :=
  let read (button : Button) (data : ButtonData) :=
    data.read (data.getButtonState (values button))
  ({ c with buttons := c.buttons.map fun button data => (read button data).1 },
    c.buttons.entries.filterMap fun entry =>
      (read entry.1 entry.2).2.map fun callbacks => (entry.1, callbacks))

/-- The state of a light is kept whether or not it has a line. -/
def setLed (led : Led) (state : Bool) (c : GpioClient) : GpioClient :=
  let data := (c.ledGpio.lookup led).getD ⟨"", false, 0, none⟩
  { c with ledGpio := c.ledGpio.insert led { data with state := state } }

/-- The report, in which a light or button that is not known is not available. -/
def produceStatus (c : GpioClient) : Json :=
  .object [
    ("buttons", .object (buttonToName.map fun (button, name) =>
      (name, ((c.buttons.lookup button).map fun data =>
        Json.boolean data.pressed).getD (.string "NA")))),
    ("leds", .object (ledToName.map fun (led, name) =>
      (name, ((c.ledGpio.lookup led).map fun data =>
        Json.boolean data.state).getD (.string "NA"))))]

/-- What happens to the client after its construction. -/
inductive Event where
  | readBack (values : Button → Int32)
  | addButtonCallback (button : Button) (callbackName : String)
  | setLed (led : Led) (state : Bool)

/-- A round needs the thread. -/
def next (c : GpioClient) : Event → GpioClient × List (Button × List String)
  | .readBack values => if c.gpioReadBackThread then c.readBack values else (c, [])
  | .addButtonCallback button callbackName => (c.addButtonCallback button callbackName, [])
  | .setLed led state => (c.setLed led state, [])

/-- The client after these events. -/
def after (c : GpioClient) (events : List Event) : GpioClient :=
  events.foldl (fun c event => (c.next event).1) c

/-- The raw sample of a button, if the event is a round which reads it. -/
def sample (button : Button) (c : GpioClient) : Event → Option Bool
  | .readBack values =>
      if c.gpioReadBackThread then
        (c.buttons.lookup button).map fun data => data.getButtonState (values button)
      else none
  | _ => none

/-- What is read of a button, round by round. -/
def samples (c : GpioClient) (button : Button) (events : List Event) : List Bool :=
  (annotate c.after events).filterMap fun (event, before) => before.sample button event

/-- The calls of the callbacks of a button in one event. -/
def called (button : Button) (c : GpioClient) (event : Event) : List (Button × List String) :=
  (c.next event).2.filter fun call => call.1 = button

/-- The calls of a button's callbacks, in their order. -/
def calls (c : GpioClient) (button : Button) (events : List Event) : List (Button × List String) :=
  (annotate c.after events).flatMap fun (event, before) => before.called button event

/-- What the status says about a button. -/
def status (button : Button) (c : GpioClient) : Option Json := do
  let buttons ← c.produceStatus.member "buttons"
  let name ← buttonToName.lookup button
  buttons.member name

end GpioClient

section Buttons

variable {Call : Type} {button : Button}

@[simp] theorem Buttons.lookup_map (change : Button → ButtonData → ButtonData)
    (buttons : Buttons) :
    (buttons.map change).lookup button = (buttons.lookup button).map (change button) :=
  List.dlookup_map₂ button

/-- In a loop over the buttons each one is met once. -/
theorem filter_filterMap_entries (buttons : Buttons) (call : Button → ButtonData → Option Call) :
    (buttons.entries.filterMap fun entry =>
        (call entry.1 entry.2).map fun made => (entry.1, made)).filter
          (fun made => made.1 = button) =
      (((buttons.lookup button).bind (call button)).map fun made => (button, made)).toList := by
  obtain ⟨entries, hEntries⟩ := buttons
  change _ = (((entries.dlookup button).bind _).map _).toList
  induction entries with
  | nil => rfl
  | cons entry rest ih =>
      obtain ⟨other, data⟩ := entry
      obtain ⟨hOther, hRest⟩ := List.nodupKeys_cons.mp hEntries
      specialize ih hRest
      by_cases hButton : other = button
      · subst hButton
        have hAbsent : rest.dlookup other = none := List.dlookup_eq_none.mpr hOther
        rw [hAbsent] at ih
        rw [List.dlookup_cons_eq, List.filterMap_cons]
        cases hCall : call other data with
        | none => simpa [hCall] using ih
        | some made => simpa [hCall] using ih
      · rw [List.dlookup_cons_ne _ _ (Ne.symm hButton), List.filterMap_cons]
        cases hCall : call other data with
        | none => simpa [hCall] using ih
        | some made => simpa [hCall, hButton] using ih

end Buttons

namespace GpioClient

variable {c : GpioClient} {button : Button} {data : ButtonData} {events : List Event}
  {event : Event}

@[simp] theorem after_concat : c.after (events ++ [event]) = ((c.after events).next event).1 := by
  simp [after]

theorem samples_concat : c.samples button (events ++ [event]) =
    c.samples button events ++ ((c.after events).sample button event).toList := by
  rw [samples, samples, annotate_concat, List.filterMap_append]
  congr 1

theorem calls_concat : c.calls button (events ++ [event]) =
    c.calls button events ++ (c.after events).called button event := by
  simp [calls]

/-- An event which does not read the button. -/
theorem next_unread (hData : c.buttons.lookup button = some data)
    (h : c.sample button event = none) :
    c.called button event = [] ∧ ∃ callbacks,
      (c.next event).1.buttons.lookup button = some { data with callbacks := callbacks } := by
  cases event with
  | readBack values =>
      have hThread : ¬c.gpioReadBackThread := by
        intro hThread
        simp [sample, hThread, hData] at h
      simp only [called, next, if_neg hThread]
      exact ⟨rfl, data.callbacks, hData⟩
  | addButtonCallback other callbackName =>
      refine ⟨rfl, if button = other then (data.addCallback callbackName).callbacks
        else data.callbacks, ?_⟩
      simp only [next, addButtonCallback, Buttons.lookup_map, hData, Option.map_some]
      by_cases hOther : button = other
      · simp only [if_pos hOther, ButtonData.addCallback]
        split <;> rfl
      · simp only [if_neg hOther]
  | setLed led state => exact ⟨rfl, data.callbacks, hData⟩

/-- A round in which the button is read. -/
theorem next_read {sampled : Bool} (hData : c.buttons.lookup button = some data)
    (h : c.sample button event = some sampled) :
    c.called button event =
        ((data.read sampled).2.map fun callbacks => (button, callbacks)).toList ∧
      (c.next event).1.buttons.lookup button = some (data.read sampled).1 := by
  cases event with
  | readBack values =>
      have hThread : c.gpioReadBackThread := by
        by_contra hThread
        simp [sample, hThread] at h
      have hSampled : data.getButtonState (values button) = sampled := by
        simpa [sample, hThread, hData] using h
      constructor
      · rw [called, next, if_pos hThread, readBack]
        rw [filter_filterMap_entries c.buttons fun button data =>
          (data.read (data.getButtonState (values button))).2]
        simp [hData, hSampled]
      · simp only [next, if_pos hThread, readBack, Buttons.lookup_map, hData, Option.map_some,
          hSampled]
  | addButtonCallback other callbackName => simp [sample] at h
  | setLed led state => simp [sample] at h

/-- What the client knows of a button after some samples of it. -/
structure Follows (button : Button) (history : List Bool) (c : GpioClient) (data : ButtonData) :
    Prop where
  lookup : c.buttons.lookup button = some data
  pressedTime : data.pressedTime = .ofNat (trailing history)
  pressed : data.pressed = true ↔ List.replicate debounceTime true <:+: history

/-- The count may start again, but only after it has reached the time. -/
theorem Follows.debounced {history : List Bool} (h : c.Follows button history data) :
    data.pressed = true ∨ UInt32.ofNat (trailing history) + 1 = .ofNat debounceTime ↔
      data.pressed = true ∨ debounceTime ≤ trailing history + 1 := by
  by_cases hBefore : debounceTime ≤ trailing history
  · have hInfix := (replicate_suffix_iff.mpr hBefore).isInfix
    simp [h.pressed.mpr hInfix]
  · have hTime : UInt32.ofNat (trailing history) + 1 = .ofNat debounceTime ↔
        debounceTime ≤ trailing history + 1 := by
      simp only [debounceTime] at hBefore ⊢
      obtain hHistory | hHistory : trailing history = 0 ∨ trailing history = 1 := by omega
      · rw [hHistory]
        decide
      · rw [hHistory]
        decide
    rw [hTime]

theorem Follows.next {history : List Bool} (h : c.Follows button history data) : ∃ data',
    (c.next event).1.Follows button (history ++ (c.sample button event).toList) data' := by
  cases hSample : c.sample button event with
  | none =>
      obtain ⟨-, callbacks, hLookup⟩ := next_unread h.lookup hSample
      rw [Option.toList_none, List.append_nil]
      exact ⟨_, hLookup, h.pressedTime, h.pressed⟩
  | some sampled =>
      obtain ⟨-, hLookup⟩ := next_read h.lookup hSample
      refine ⟨_, hLookup, ?_, ?_⟩
      · cases sampled with
        | false => simp [ButtonData.read]
        | true =>
            simp only [Option.toList_some, trailing_concat_true, UInt32.ofNat_add, ← h.pressedTime]
            simp only [ButtonData.read, if_true]
            split <;> rfl
      · rw [Option.toList_some, replicate_infix_concat, ← h.pressed]
        cases sampled with
        | false => simp [ButtonData.read, debounceTime]
        | true =>
            rw [ButtonData.read_pressed, h.pressedTime, trailing_concat_true]
            exact h.debounced

theorem Follows.after (h : c.Follows button [] data) (events : List Event) :
    ∃ data', (c.after events).Follows button (c.samples button events) data' := by
  induction events using List.reverseRecOn with
  | nil => exact ⟨data, h⟩
  | append_singleton events event ih =>
      obtain ⟨before, hBefore⟩ := ih
      rw [after_concat, samples_concat]
      exact hBefore.next

theorem Follows.openLines {history : List Bool} (hardware : Hardware)
    (h : c.Follows button history data) :
    (c.openLines hardware).Follows button history (openButton hardware button data) := by
  refine ⟨?_, h.pressedTime, h.pressed⟩
  simp [GpioClient.openLines, h.lookup]

theorem Follows.addButtonCallback {history : List Bool} (other : Button) (callbackName : String)
    (h : c.Follows button history data) :
    ∃ data', (c.addButtonCallback other callbackName).Follows button history data' := by
  obtain ⟨data', hNext⟩ := @Follows.next _ _ _ (.addButtonCallback other callbackName) _ h
  exact ⟨data', by simpa [GpioClient.next, sample] using hNext⟩

theorem Follows.startReadBack {history : List Bool} (h : c.Follows button history data) :
    ∃ data', c.startReadBack.Follows button history data' := by
  obtain ⟨first, hFirst⟩ := h.addButtonCallback .buttonStopScan "DBGBUTTON_STOP_SCAN"
  obtain ⟨second, hSecond⟩ :=
    hFirst.addButtonCallback .buttonContinousScanning "DBGBUTTON_CONTINOUS_SCANNING"
  exact ⟨second, hSecond.lookup, hSecond.pressedTime, hSecond.pressed⟩

/-- No button is pressed at first. -/
theorem follows_new (sim : Bool) (hardware : Hardware) (button : Button) :
    ∃ data, (new sim hardware).Follows button [] data := by
  obtain ⟨data, hNamed⟩ : ∃ data, (named sim).Follows button [] data := by
    cases button <;> exact ⟨_, rfl, rfl, by decide⟩
  unfold new
  split
  · exact hNamed.startReadBack
  · split
    · exact (hNamed.openLines hardware).startReadBack
    · exact ⟨data, hNamed⟩

theorem follows_after (sim : Bool) (hardware : Hardware) (button : Button) (events : List Event) :
    ∃ data, ((new sim hardware).after events).Follows button
      ((new sim hardware).samples button events) data := by
  obtain ⟨data, hNew⟩ := follows_new sim hardware button
  exact hNew.after events

section Callbacks

/-- The callbacks of a button. -/
def callbacks (button : Button) (c : GpioClient) : List String :=
  ((c.buttons.lookup button).map ButtonData.callbacks).getD []

/-- The callbacks are called as the run of samples gets as long as the time. -/
theorem Follows.called {history : List Bool} (h : c.Follows button history data)
    (hShort : trailing (history ++ (c.sample button event).toList) < 2 ^ 32) :
    c.called button event =
      if (c.sample button event).isSome ∧
          trailing (history ++ (c.sample button event).toList) = debounceTime then
        [(button, c.callbacks button)]
      else [] := by
  cases hSample : c.sample button event with
  | none => simp [(next_unread h.lookup hSample).1]
  | some sampled =>
      rw [hSample, Option.toList_some] at hShort
      rw [(next_read h.lookup hSample).1, Option.toList_some]
      cases sampled with
      | false => simp [ButtonData.read, debounceTime]
      | true =>
          have hTime : data.pressedTime + 1 = .ofNat debounceTime ↔
              trailing (history ++ [true]) = debounceTime := by
            rw [trailing_concat_true] at hShort
            rw [h.pressedTime, trailing_concat_true, ← UInt32.toNat_inj]
            simp [debounceTime]
            omega
          by_cases hReached : trailing (history ++ [true]) = debounceTime
          · simp [ButtonData.read, hTime.mpr hReached, hReached, callbacks, h.lookup]
          · rw [if_neg fun hCalled => hReached hCalled.2]
            simp [ButtonData.read, mt hTime.mp hReached]

/-- A call of the callbacks is due: the last sample of the button has just been
taken, and its run has got as long as the time. -/
def Due (c : GpioClient) (button : Button) (earlier : List Event) (event : Event) : Prop :=
  ((c.after earlier).sample button event).isSome ∧
    trailing (c.samples button (earlier ++ [event])) = debounceTime

instance (earlier : List Event) : Decidable (c.Due button earlier event) :=
  inferInstanceAs (Decidable (_ ∧ _))

/-- The callbacks of a button are called exactly when it is due, so once for each
run of samples which gets as long as the time. -/
theorem called_iff_due (sim : Bool) (hardware : Hardware) (button : Button) (events : List Event)
    (hShort : ∀ run ∈ lengths ((new sim hardware).samples button events), run < 2 ^ 32) :
    Each (fun earlier event => ((new sim hardware).after earlier).called button event =
        if (new sim hardware).Due button earlier event then
          [(button, ((new sim hardware).after earlier).callbacks button)]
        else []) events ∧
      ((new sim hardware).calls button events).length =
        (lengths ((new sim hardware).samples button events)).countP (debounceTime ≤ ·) := by
  induction events using List.reverseRecOn with
  | nil => exact ⟨each_nil, rfl⟩
  | append_singleton events event ih =>
      have hLast := hShort _ (trailing_mem_lengths _)
      rw [samples_concat] at hShort hLast
      have hEarlier : ∀ run ∈ lengths ((new sim hardware).samples button events),
          run < 2 ^ 32 := by
        cases hSample : ((new sim hardware).after events).sample button event with
        | none => simpa [hSample] using hShort
        | some sampled =>
            rw [hSample] at hShort
            exact lengths_lt_of_concat hShort
      obtain ⟨hEach, hCount⟩ := ih hEarlier
      obtain ⟨data, hFollows⟩ := follows_after sim hardware button events
      have hCalled := hFollows.called hLast
      rw [← samples_concat] at hCalled
      refine ⟨each_concat.mpr ⟨hEach, hCalled⟩, ?_⟩
      rw [calls_concat, List.length_append, hCount, hCalled, samples_concat]
      cases hSample : ((new sim hardware).after events).sample button event with
      | none => simp
      | some sampled =>
          rw [Option.toList_some, countP_lengths_concat (by decide)]
          congr 1
          simp only [Option.isSome_some, true_and]
          split <;> rfl

def standardHardware : Hardware where
  getLed
    | .ledGpioStopScan => 26
    | .ledGpioCopyData => 19
    | .ledGpioContinousScanning => 13
    | .buzzer => 12
    | _ => -1
  getButton
    | .buttonStopScan => 5
    | .buttonContinousScanning => 6
  getPull _ := .up
  openChip := true
  getLine pin := some pin

/-- Rounds in which the other button is held down. -/
def rounds (rawButtonStates : List Int32) : List Event :=
  rawButtonStates.map fun rawButtonState => .readBack fun
    | .buttonStopScan => rawButtonState
    | .buttonContinousScanning => 0

theorem called_iff_due_bounce :
    (new false standardHardware).calls .buttonStopScan (rounds [1, 0, 1, 0, 0, 0, 1, 1]) =
        [(.buttonStopScan, ["DBGBUTTON_STOP_SCAN"])] ∧
      ((new false standardHardware).calls .buttonStopScan
        (rounds [1, 0, 1, 0, 0, 0, 1, 1])).length =
        (lengths ((new false standardHardware).samples .buttonStopScan
          (rounds [1, 0, 1, 0, 0, 0, 1, 1]))).countP (debounceTime ≤ ·) :=
  ⟨by decide, (called_iff_due false standardHardware .buttonStopScan _ (by decide)).2⟩

end Callbacks

section Pressed

/-- The status says that the button is pressed exactly if its run of samples is
as long as the time. -/
def StatusFollows (c : GpioClient) (button : Button) (events : List Event) : Prop :=
  (c.after events).status button =
    some (.boolean (debounceTime ≤ trailing (c.samples button events)))

theorem Follows.status {history : List Bool} (h : c.Follows button history data) :
    c.status button = some (.boolean data.pressed) := by
  have hStatus : c.status button =
      some (((c.buttons.lookup button).map fun data =>
        Json.boolean data.pressed).getD (.string "NA")) := by
    cases button <;> rfl
  rw [hStatus, h.lookup]
  rfl

theorem statusFollows_iff (sim : Bool) (hardware : Hardware) (button : Button)
    (events : List Event) : (new sim hardware).StatusFollows button events ↔
      (List.replicate debounceTime true <:+: (new sim hardware).samples button events ↔
        debounceTime ≤ trailing ((new sim hardware).samples button events)) := by
  obtain ⟨data, hFollows⟩ := follows_after sim hardware button events
  rw [StatusFollows, hFollows.status, ← hFollows.pressed, Option.some_inj, Json.boolean.injEq,
    Bool.eq_iff_iff, decide_eq_true_iff]

/-- Nothing resets the mark: the status is right as long as the button has not
been released after it was once pressed for the time. -/
theorem statusFollows_throughout_iff (sim : Bool) (hardware : Hardware) (button : Button)
    (events : List Event) :
    Throughout ((new sim hardware).StatusFollows button) events ↔
      Each (fun earlier sampled => sampled = false →
        ¬List.replicate debounceTime true <:+: earlier)
        ((new sim hardware).samples button events) := by
  induction events using List.reverseRecOn with
  | nil =>
      rw [throughout_nil, statusFollows_iff]
      simp [samples, debounceTime]
  | append_singleton events event ih =>
      rw [throughout_concat, samples_concat]
      cases hSample : ((new sim hardware).after events).sample button event with
      | none =>
          rw [Option.toList_none, List.append_nil, ← ih, and_iff_left_iff_imp]
          intro hBefore
          have hLaw := (statusFollows_iff ..).mp hBefore.last
          rw [statusFollows_iff, samples_concat, hSample, Option.toList_none, List.append_nil]
          exact hLaw
      | some sampled =>
          rw [Option.toList_some, each_concat, ← ih]
          refine and_congr_right fun hBefore => ?_
          have hLaw := (statusFollows_iff ..).mp hBefore.last
          rw [statusFollows_iff, samples_concat, hSample, Option.toList_some,
            replicate_infix_concat, hLaw]
          cases sampled with
          | true =>
              rw [trailing_concat_true]
              simp only [Bool.true_eq_false, false_implies, iff_true, or_iff_right_iff_imp]
              omega
          | false => simp [debounceTime]

/-- A button which has been let go still counts as pressed. -/
theorem status_pressed_after_release :
    (new false standardHardware).samples .buttonStopScan (rounds [0, 0, 1]) =
        [true, true, false] ∧
      ((new false standardHardware).after (rounds [0, 0, 1])).status .buttonStopScan =
        some (.boolean true) ∧
      ¬Throughout ((new false standardHardware).StatusFollows .buttonStopScan)
        (rounds [0, 0, 1]) := by
  refine ⟨by decide, rfl, fun hThroughout => ?_⟩
  have hStatus : some (Json.boolean true) = some (Json.boolean false) := hThroughout.last
  cases hStatus

end Pressed

end GpioClient

end Mandeye.Gpios
