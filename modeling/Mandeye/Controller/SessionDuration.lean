import Mandeye.Controller.Rounds

/-! The session duration which is published while a scan runs. Its start is
recorded by one of the ways in which a scan is started, and every packet
measures the time which has passed since then. -/
namespace Mandeye.Controller

open Interleaving

/-- The duration is the time since the recorded start. -/
def Measured (s : Controller) : Prop :=
  ∃ client start, s.livoxCLientPtr = some client ∧ client.sessionStart = some start ∧
    client.elapsed = client.timestamp - start

/-- The start of the session is recorded. -/
def initializes : Controller × Label Response Move → Bool
  | (s, .move (.trigger .triggerContinousScanning)) =>
      (s.appState = .idle || s.appState = .stopped) && s.livoxCLientPtr.isSome
  | _ => false

/-- Nothing is measured before there is a start, and from then on the time
since the start. -/
def Timed (client : LivoxClient) : Prop :=
  match client.sessionStart with
  | none => client.elapsed = 0
  | some start => client.elapsed = client.timestamp - start

def hasStart (s : Controller) : Bool := s.livoxCLientPtr.any (·.sessionStart.isSome)

/-- The start is recorded once the history says so. -/
structure Recorded (w : History) : Prop where
  timed : ∀ client, w.state.livoxCLientPtr = some client → Timed client
  started : hasStart w.state = w.trace.any initializes

section Clients

variable {client : LivoxClient}

theorem timed_initializeDuration (h : Timed client) : Timed client.initializeDuration := by
  cases hStart : client.sessionStart with
  | none => simpa [Timed, LivoxClient.initializeDuration, hStart] using h
  | some start => simpa [Timed, LivoxClient.initializeDuration, hStart] using h

theorem initializeDuration_isSome : client.initializeDuration.sessionStart.isSome = true := by
  cases hStart : client.sessionStart with
  | none => simp [LivoxClient.initializeDuration, hStart]
  | some start => simp [LivoxClient.initializeDuration, hStart]

theorem timed_saveTimeStamp (timestamp : UInt64) (h : Timed client) :
    Timed (client.saveTimeStamp timestamp) := by
  cases hStart : client.sessionStart with
  | none => simpa [Timed, LivoxClient.saveTimeStamp, hStart] using h
  | some start => simp [Timed, LivoxClient.saveTimeStamp, hStart]

/-- What is done to a client neither makes nor moves its start. -/
structure KeepsStart (f : LivoxClient → LivoxClient) : Prop where
  sessionStart : ∀ client, (f client).sessionStart = client.sessionStart
  timed : ∀ client, Timed client → Timed (f client)

theorem keepsStart_id : KeepsStart id := ⟨fun _ => rfl, fun _ h => h⟩

theorem keepsStart_onLivox (request : WatcherRequest) : KeepsStart request.onLivox := by
  cases request with
  | startLog => exact ⟨fun _ => rfl, fun _ h => h⟩
  | stopLog => exact ⟨fun _ => rfl, fun _ h => h⟩
  | retrieveData => exact ⟨fun _ => rfl, fun _ h => h⟩
  | _ => exact keepsStart_id

theorem keepsStart_callback (millis : UInt64) (event : Callback) :
    KeepsStart (callback millis event) := by
  constructor
  · intro client
    cases event with
    | pointCloud laserId data =>
        simp only [callback, LivoxClient.pointCloudCallback]
        split_ifs <;> rfl
    | imuData laserId data =>
        simp only [callback, LivoxClient.imuDataCallback]
        split_ifs <;> rfl
    | lidarInfoChange handle info => rfl
    | param handle kv =>
        simp only [callback, LivoxClient.receiveParam]
        split_ifs <;> rfl
  · intro client h
    cases event with
    | pointCloud laserId data =>
        simp only [callback, LivoxClient.pointCloudCallback]
        split_ifs
        · exact timed_saveTimeStamp data.timestamp h
        · exact h
    | imuData laserId data =>
        simp only [callback, LivoxClient.imuDataCallback]
        split_ifs
        · exact timed_saveTimeStamp data.timestamp h
        · exact h
    | lidarInfoChange handle info => exact h
    | param handle kv =>
        simp only [callback, LivoxClient.receiveParam]
        split_ifs
        · exact h
        · exact h
        · exact h

end Clients

section Histories

variable {settings : Settings} {w : History} {label : Label Response Move} {s : Controller}

theorem hasStart_map {f : LivoxClient → LivoxClient} (hf : KeepsStart f)
    (hClient : s.livoxCLientPtr = w.state.livoxCLientPtr.map f) :
    hasStart s = hasStart w.state := by
  unfold hasStart
  cases h : w.state.livoxCLientPtr with
  | none => simp [hClient, h]
  | some client => simp [hClient, h, hf.sessionStart]

/-- An action which keeps the start of the client there is. -/
theorem Recorded.map {f : LivoxClient → LivoxClient} (h : Recorded w) (hf : KeepsStart f)
    (hClient : s.livoxCLientPtr = w.state.livoxCLientPtr.map f)
    (hLabel : initializes (w.state, label) = false) : Recorded (w.record label s) := by
  constructor
  · intro client hSome
    have hMap : w.state.livoxCLientPtr.map f = some client := hClient.symm.trans hSome
    obtain ⟨before, hBefore, rfl⟩ := Option.map_eq_some_iff.mp hMap
    exact hf.timed before (h.timed before hBefore)
  · simpa [World.record, hLabel] using (hasStart_map hf hClient).trans h.started

theorem Recorded.same (h : Recorded w) (hClient : s.livoxCLientPtr = w.state.livoxCLientPtr)
    (hLabel : initializes (w.state, label) = false) : Recorded (w.record label s) := by
  have hMap : s.livoxCLientPtr = w.state.livoxCLientPtr.map id := by rw [hClient, Option.map_id, id]
  exact h.map keepsStart_id hMap hLabel

/-- Without a client nothing has been recorded, and a new one has no start. -/
theorem Recorded.create (h : Recorded w) (hNone : w.state.livoxCLientPtr = none)
    (hNew : s.livoxCLientPtr = some .new) (hLabel : initializes (w.state, label) = false) :
    Recorded (w.record label s) := by
  constructor
  · intro client hSome
    obtain rfl : LivoxClient.new = client := Option.some.inj (hNew.symm.trans hSome)
    rfl
  · have hBefore : w.trace.any initializes = false := by
      rw [← h.started, hasStart, hNone]
      rfl
    have hAfter : hasStart s = false := by
      rw [hasStart, hNew]
      rfl
    simpa only [World.record, List.any_cons, hLabel, hBefore, Bool.or_false] using hAfter

theorem Recorded.initialize (h : Recorded w)
    (hMap : s.livoxCLientPtr = w.state.livoxCLientPtr.map LivoxClient.initializeDuration)
    (hLabel : initializes (w.state, label) = w.state.livoxCLientPtr.isSome) :
    Recorded (w.record label s) := by
  cases hClient : w.state.livoxCLientPtr with
  | none =>
      rw [hClient, Option.map_none] at hMap
      rw [hClient, Option.isSome_none] at hLabel
      exact h.same (hMap.trans hClient.symm) hLabel
  | some client =>
      rw [hClient, Option.map_some] at hMap
      rw [hClient, Option.isSome_some] at hLabel
      constructor
      · intro after hSome
        obtain rfl : client.initializeDuration = after := Option.some.inj (hMap.symm.trans hSome)
        exact timed_initializeDuration (h.timed client hClient)
      · simp [World.record, hLabel, hasStart, hMap, initializeDuration_isSome]

theorem recorded_trigger (request : Trigger) (h : Recorded w) :
    Recorded (w.record (.move (.trigger request)) (w.state.trigger settings request).2) := by
  cases request with
  | startScan =>
      apply h.same _ rfl
      simp only [trigger, startScan]
      split_ifs <;> rfl
  | stopScan =>
      apply h.same _ rfl
      simp only [trigger, stopScan]
      split_ifs <;> rfl
  | triggerStopScan =>
      apply h.same _ rfl
      simp only [trigger, triggerStopScan]
      split_ifs <;> rfl
  | triggerContinousScanning =>
      by_cases hIdle : w.state.appState = .idle ∨ w.state.appState = .stopped
      · apply h.initialize
        · simp [trigger, triggerContinousScanning, hIdle]
        · simp [initializes, hIdle]
      · apply h.same
        · simp only [trigger, triggerContinousScanning, if_neg hIdle]
          split_ifs <;> rfl
        · simp [initializes, hIdle]

theorem recorded_move {action : Move} (h : Recorded w)
    (hMove : move settings action w.state = some s) : Recorded (w.record (.move action) s) := by
  rcases move_cases hMove with ⟨request, rfl, rfl⟩ | ⟨event, client, rfl, hClient, rfl⟩ |
    ⟨-, hSame⟩
  · exact recorded_trigger request h
  · apply h.map (keepsStart_callback w.state.systemClock event) _ rfl
    rw [hClient, Option.map_some]
  · cases action with
    | trigger request =>
        cases hMove
        exact recorded_trigger request h
    | _ => exact h.same hSame.livoxCLientPtr rfl

theorem recorded_statement {t : Thread} {request : Request t} {response : Response t request}
    (h : Recorded w) (hGuarantee : guarantee (fun _ _ => True) t request w)
    (hPerform : (machine settings).perform t request w.state = .returns response s) :
    Recorded (w.record (.statement t request response) s) := by
  cases t with
  | watcher =>
      exact h.map (keepsStart_onLivox request) (performWatcher_changes hPerform).livoxCLientPtr rfl
  | _ =>
      rcases perform_livoxCLientPtr (by simp) hGuarantee hPerform with hSame | ⟨hNone, hNew⟩
      · exact h.same hSame rfl
      · exact h.create hNone hNew rfl

theorem recorded {s : Controller} (hInitial : s.Initial)
    {c : Configuration Response Local Controller Move} (h : (system settings).Reachable s c) :
    Recorded c.world := by
  refine (clients_contract settings).invariant hInitial ?_ ?_ ?_ h
  · constructor
    · intro client hClient
      rw [hInitial.livoxCLientPtr] at hClient
      cases hClient
    · simp [hasStart, hInitial.livoxCLientPtr]
  · exact fun w action s' hw hMove => recorded_move hw hMove
  · exact fun w t request response s' hw hGuarantee hPerform =>
      recorded_statement hw hGuarantee hPerform

end Histories

theorem measured_iff_initialized {settings : Settings} {s : Controller} (hInitial : s.Initial)
    {c : Configuration Response Local Controller Move} (h : (system settings).Reachable s c) :
    Measured c.world.state ↔ ∃ entry ∈ c.world.trace, initializes entry = true := by
  have hRecorded := recorded hInitial h
  rw [← List.any_eq_true, ← hRecorded.started]
  constructor
  · rintro ⟨client, start, hClient, hStart, -⟩
    simp [hasStart, hClient, hStart]
  · intro hSome
    cases hClient : c.world.state.livoxCLientPtr with
    | none => simp [hasStart, hClient] at hSome
    | some client =>
        have hTimed := hRecorded.timed client hClient
        cases hStart : client.sessionStart with
        | none => simp [hasStart, hClient, hStart] at hSome
        | some start =>
            rw [Timed, hStart] at hTimed
            exact ⟨client, start, hClient, hStart, hTimed⟩

/-- While a continuous scan runs, its duration is measured if and only if the
start of a scan was once asked for by `TriggerContinousScanning` with a client
there. -/
theorem scans_measured_iff {settings : Settings} {s : Controller} (hInitial : s.Initial)
    {c : Configuration Response Local Controller Move} (h : (system settings).Reachable s c) :
    (c.world.state.appState ∈ [States.scanning, .stoppingStage1, .stoppingStage2] →
      Measured c.world.state) ↔
    (c.world.state.appState ∈ [States.scanning, .stoppingStage1, .stoppingStage2] →
      ∃ entry ∈ c.world.trace, initializes entry = true) :=
  imp_congr_right fun _ => measured_iff_initialized hInitial h

theorem scans_measured_iff_button :
    ∃ c, (system plainSettings).run ((system plainSettings).initial (switchedOn true))
      (scanStartedBy .triggerContinousScanning) = some c ∧
    c.world.state.appState = .scanning ∧ Measured c.world.state := by
  have hRun : (system plainSettings).run ((system plainSettings).initial (switchedOn true))
      (scanStartedBy .triggerContinousScanning) = some _ := rfl
  have hReachable := System.Reachable.initial.run _ hRun
  refine ⟨_, hRun, rfl, ?_⟩
  apply (scans_measured_iff (switchedOn_initial true) hReachable).mpr
  · intro _
    exact List.any_eq_true.mp (by decide +kernel)
  · decide

/-- The web page starts a scan whose duration is never measured. -/
theorem startScan_not_measured :
    ∃ c client, (system plainSettings).Reachable (switchedOn true) c ∧
      c.world.state.appState = .scanning ∧ c.world.state.livoxCLientPtr = some client ∧
      client.sessionStart = none := by
  have hRun : (system plainSettings).run ((system plainSettings).initial (switchedOn true))
      (scanStartedBy .startScan) = some _ := rfl
  exact ⟨_, _, System.Reachable.initial.run _ hRun, rfl, rfl, rfl⟩

end Mandeye.Controller
