import Mandeye.Controller.Chunks
import Mandeye.Controller.StopScans

/-! How many chunks a run can have. A rotation is paid for by ten seconds of
the clock, and the last chunk of a scan by the request which ends the scan or
asks for the whole of it. -/
namespace Mandeye.Controller

open Interleaving
open StateWatcher

/-- The states in which a chunk is due which a request has paid for. -/
def owed : States → Int
  | .stopping => 1
  | .startingStopScan => 1
  | .stopScanInInitialProgress => 1
  | .stopScanInProgress => 1
  | .stopingStopScan => 1
  | _ => 0

/-- A request which ends a continuous scan or begins a stop scan. -/
def orders (settings : Settings) : Controller × Label Response Move → Bool
  | (before, .move (.trigger request)) =>
      let after := (before.trigger settings request).2.appState
      after ≠ before.appState && (after = .stopping || after = .startingStopScan)
  | _ => false

/-- How often a scan was ended or a stop scan was begun by a request. -/
def ordered (settings : Settings) (trace : Trace) : Int := trace.countP (orders settings)

/-- The clock at the beginning of a history. -/
def began : Controller → Trace → Int
  | s, [] => s.steadyClock
  | _, (before, _) :: earlier => began before earlier

/-- The chunks of the history and those still due, with `n` further ones, are
covered by the orders and by the time until `start`. -/
def Credit (settings : Settings) (n start : Int) (w : History) : Prop :=
  seconds 10 * (chunks (savedFiles w.trace) + owed w.state.appState + n) ≤
    seconds 10 * ordered settings w.trace + (start - began w.state w.trace)

/-- There may be this many further chunks. -/
def Affordable (settings : Settings) (n : Int) (w : History) : Prop :=
  seconds 10 * (chunks (savedFiles w.trace) + n) ≤
    seconds 10 * ordered settings w.trace + (w.state.steadyClock - began w.state w.trace)

/-- The points of a chunk are only saved when it has been paid for. -/
def rateGuarantee (settings : Settings) : WatcherRequest → History → Prop
  | .savePointcloudData _ _ _, w => Affordable settings 1 w
  | _, _ => True

/-- The time up to which chunks are paid for, and another one, have been read
from the clock. -/
structure Funded (settings : Settings) (n start now : Int) (w : History) : Prop where
  credit : Credit settings n start w
  started : Past start w
  read : Past now w

section Assertions

variable {settings : Settings} {n start now : Int} {w w' : History}
  {label : Label Response Move} {s : Controller}

theorem owed_nonneg (state : States) : 0 ≤ owed state := by cases state <;> decide

theorem began_record :
    began (w.record label s).state (w.record label s).trace = began w.state w.trace := rfl

theorem ordered_record : ordered settings (w.record label s).trace =
    ordered settings w.trace + if orders settings (w.state, label) then 1 else 0 := by
  simp only [ordered, World.record, List.countP_cons]
  split_ifs <;> simp

/-- A statement of a thread is no order. -/
theorem ordered_statement {t : Thread} {request : Request t} {response : Response t request} :
    ordered settings (w.record (.statement t request response) s).trace =
      ordered settings w.trace := by
  rw [ordered_record]
  exact add_zero _

/-- A statement saves a chunk exactly when it saves points. -/
theorem chunks_statement {request : WatcherRequest} {response : request.Response} :
    (chunks (savedFiles (w.record (.statement .watcher request response) s).trace) : Int) =
      chunks (savedFiles w.trace) +
        if request.file.any (·.kind = .lidar) then 1 else 0 := by
  rw [savedFiles_record]
  cases request.file with
  | none => simp
  | some file =>
      change ((chunks (file :: savedFiles w.trace) : Nat) : Int) = _
      rw [chunks_cons]
      simp only [Option.any_some, decide_eq_true_eq]
      split_ifs <;> simp

/-- A request which is accepted pays for the chunk which it makes due. -/
theorem owed_requested {state state' : States} (h : Requested state state') :
    owed state' ≤ if state' = .stopping ∨ state' = .startingStopScan then 1 else 0 := by
  cases h <;> decide

theorem Requested.ne {state state' : States} (h : Requested state state') : state' ≠ state := by
  cases h with
  | startingScan h => rcases h with rfl | rfl <;> decide
  | startingStopScan h => rcases h with rfl | rfl <;> decide
  | _ => decide

/-- What the other threads do costs nothing: a request pays for the chunk which it
makes due. -/
theorem credit_interference {g : WatcherRequest → History → Prop}
    (h : (machine settings).Interference (guarantee g) .watcher w w')
    (hw : Credit settings n start w) : Credit settings n start w' := by
  cases h with
  | @move action s hMove =>
      have hFiles : savedFiles (w.record (.move action) s).trace = savedFiles w.trace := rfl
      have hOwed : owed s.appState ≤ owed w.state.appState +
          if orders settings (w.state, .move action) then 1 else 0 := by
        rcases move_appState hMove with hSame | ⟨request, rfl, hRequested⟩
        · rw [hSame]
          split_ifs <;> omega
        · obtain rfl : (w.state.trigger settings request).2 = s := Option.some.inj hMove
          have hLe := owed_requested hRequested
          have hNonneg := owed_nonneg w.state.appState
          have hChanged := hRequested.ne
          simp only [orders, hChanged, ne_eq, not_false_eq_true, decide_true, Bool.true_and,
            Bool.or_eq_true, decide_eq_true_eq]
          omega
      rw [Credit, hFiles, ordered_record, began_record]
      change seconds 10 * (_ + owed s.appState + n) ≤ _
      rw [Credit] at hw
      simp only [seconds] at hw ⊢
      split_ifs at hOwed ⊢ <;> omega
  | @statement u request response s hOther hGuarantee hPerform =>
      have hLabel : ¬ByWatcher (.statement u request response) := hOther
      rw [Credit, savedFiles_other hLabel, ordered_statement, began_record]
      change seconds 10 * (_ + owed s.appState + n) ≤ _
      rwa [perform_appState hOther hPerform]

/-- What is funded stays funded. -/
theorem stable_funded {g : WatcherRequest → History → Prop} :
    WatcherStable settings g (Funded settings n start now) := by
  rintro w w' h ⟨hCredit, hStarted, hRead⟩
  exact ⟨credit_interference h hCredit, stable_past start w w' h hStarted,
    stable_past now w w' h hRead⟩

/-- A statement of the watcher is covered by what it has left over. -/
theorem credit_statement {request : WatcherRequest} {response : request.Response} {n' : Int}
    (hw : Credit settings n start w)
    (hCost : owed s.appState + n' + (if request.file.any (·.kind = .lidar) then 1 else 0) ≤
      owed w.state.appState + n) :
    Credit settings n' start (w.record (.statement .watcher request response) s) := by
  rw [Credit, chunks_statement, ordered_statement, began_record]
  change seconds 10 * (_ + owed s.appState + n') ≤ _
  rw [Credit] at hw
  simp only [seconds] at hw ⊢
  omega

theorem Funded.statement {request : WatcherRequest} {response : request.Response} {n' : Int}
    (hw : Funded settings n start now w)
    (hPerform : performWatcher settings request w.state = .returns response s)
    (hCost : owed s.appState + n' + (if request.file.any (·.kind = .lidar) then 1 else 0) ≤
      owed w.state.appState + n) :
    Funded settings n' start now (w.record (.statement .watcher request response) s) :=
  ⟨credit_statement hw.credit hCost, hw.started.trans (performWatcher_steadyClock hPerform).ge,
    hw.read.trans (performWatcher_steadyClock hPerform).ge⟩

/-- The statements which save no points and make no chunk due. -/
def Costless (request : WatcherRequest) : Prop :=
  request.file.any (·.kind = .lidar) = false ∧
    ∀ state, request = .storeAppState state → owed state = 0

theorem Quiet.costless (request : WatcherRequest) (h : Quiet request) : Costless request := by
  refine ⟨?_, fun state hStore => absurd hStore (h.not_store state)⟩
  rw [h.savesNothing]
  rfl

theorem Calm.costless (request : WatcherRequest) (h : Calm request) : Costless request :=
  h.quiet.costless

theorem SavesNothing.costless {request : WatcherRequest} (h : SavesNothing request)
    (hStore : ∀ state, request ≠ .storeAppState state) : Costless request := by
  refine ⟨?_, fun state hSame => absurd hSame (hStore state)⟩
  rw [h]
  rfl

theorem costless_store {state : States} (h : owed state = 0) : Costless (.storeAppState state) :=
  ⟨rfl, fun state' hStore => by cases hStore; exact h⟩

theorem Costless.allowed {request : WatcherRequest} (h : Costless request) (w : History) :
    rateGuarantee settings request w := by
  cases request with
  | savePointcloudData buffer directory chunk => cases h.1
  | _ => trivial

/-- Statements which cost nothing keep what is funded. -/
theorem preserves_funded (request : WatcherRequest) (h : Costless request) :
    (machine settings).Preserves (guarantee (rateGuarantee settings)) .watcher
      (Funded settings n start now) request := by
  refine fun w hw => ⟨h.allowed w, fun response s hPerform => hw.statement hPerform ?_⟩
  rw [h.1]
  rcases performWatcher_appState hPerform with hSame | hStore
  · rw [hSame]
    simp
  · rw [h.2 _ hStore]
    have hNonneg := owed_nonneg w.state.appState
    simp only [Bool.false_eq_true, if_false]
    omega

theorem robust_funded :
    Robust settings (rateGuarantee settings) (Funded settings n start now) where
  stable := stable_funded
  quiet request h := preserves_funded request (h.costless request)

theorem keeps_funded {Result : Type} {code : Code Result} (hCode : code.Issues Costless) :
    WatcherTriple settings (rateGuarantee settings) (Funded settings n start now) code
      fun _ => Funded settings n start now :=
  Machine.Keeps.of_issues stable_funded (hCode.mono preserves_funded)

theorem before_funded {Result : Type} {request : WatcherRequest}
    {next : request.Response → Code Result} {Q : Result → History → Prop} (h : Costless request)
    (hNext : ∀ response, WatcherTriple settings (rateGuarantee settings)
      (Funded settings n start now) (next response) Q) :
    WatcherTriple settings (rateGuarantee settings) (Funded settings n start now)
      (call request >>= next) Q :=
  (keeps_funded (.perform h)).bind hNext

section Saves

variable {buffer : Option Nat} {directory : String} {chunk : Int32}

/-- With one chunk paid for, its points may be saved. -/
theorem Funded.affordable (hw : Funded settings n start now w)
    (hPaid : 1 ≤ owed w.state.appState + n) : Affordable settings 1 w := by
  obtain ⟨hCredit, hStarted, -⟩ := hw
  rw [Affordable]
  rw [Credit] at hCredit
  rw [Past] at hStarted
  simp only [seconds] at hCredit ⊢
  omega

/-- Saving the points uses up one chunk. -/
theorem Funded.save (hw : Funded settings n start now w)
    (hPerform : performWatcher settings (.savePointcloudData buffer directory chunk) w.state =
      .returns () s) :
    s.appState = w.state.appState ∧ Funded settings (n - 1) start now
      (w.record (.statement .watcher (.savePointcloudData buffer directory chunk) ()) s) := by
  have hSame : s.appState = w.state.appState := (performWatcher_changes hPerform).appState
  refine ⟨hSame, hw.statement hPerform ?_⟩
  rw [hSame]
  change owed w.state.appState + (n - 1) + 1 ≤ _
  omega

/-- The points of a chunk are saved for what has been paid in advance. -/
theorem triple_savePoints :
    WatcherTriple settings (rateGuarantee settings) (Funded settings 1 start now)
      (call (.savePointcloudData buffer directory chunk))
      fun _ => Funded settings 0 start now := by
  refine .perform stable_funded (fun _ => stable_funded) (fun w hw => hw.affordable ?_)
    fun w _ s hw hPerform => (hw.save hPerform).2
  have hNonneg := owed_nonneg w.state.appState
  omega

end Saves

end Assertions

section Closing

variable {settings : Settings} {state : States} {n start now : Int}

/-- A chunk is due and its state is left by the watcher only. -/
def Due (settings : Settings) (state : States) (n start now : Int) (w : History) : Prop :=
  Funded settings n start now w ∧ w.state.appState = state

/-- No request is accepted while a chunk is due. -/
theorem not_requested_of_owed {state' : States} (h : owed state = 1) :
    ¬Requested state state' := by
  intro hRequested
  have hSource := hRequested.source
  cases state with
  | stopping => simp at hSource
  | startingStopScan => simp at hSource
  | stopScanInInitialProgress => simp at hSource
  | stopScanInProgress => simp at hSource
  | stopingStopScan => simp at hSource
  | _ => cases h

theorem stable_due (hState : owed state = 1) :
    WatcherStable settings (rateGuarantee settings) (Due settings state n start now) := by
  intro w w' h hw
  refine ⟨stable_funded w w' h hw.1, ?_⟩
  obtain ⟨label, s, rfl, -, hSame | hRequested⟩ := interference_record h
  · exact hSame.trans hw.2
  · rw [hw.2] at hRequested
    exact absurd hRequested (not_requested_of_owed hState)

/-- The statements which save no points and leave the state. -/
def Handles (request : WatcherRequest) : Prop :=
  Costless request ∧ ∀ state, request ≠ .storeAppState state

theorem Quiet.handles (request : WatcherRequest) (h : Quiet request) : Handles request :=
  ⟨h.costless, h.not_store⟩

theorem SavesNothing.handles {request : WatcherRequest} (h : SavesNothing request)
    (hStore : ∀ state, request ≠ .storeAppState state) : Handles request :=
  ⟨h.costless hStore, hStore⟩

theorem keeps_due (hState : owed state = 1) {Result : Type} {code : Code Result}
    (hCode : code.Issues Handles) :
    WatcherTriple settings (rateGuarantee settings) (Due settings state n start now) code
      fun _ => Due settings state n start now := by
  refine Machine.Keeps.of_issues (stable_due hState) (hCode.mono fun request h w hw => ?_)
  refine ⟨h.1.allowed w, fun response s hPerform => ?_⟩
  have hFunded := (preserves_funded request h.1 w hw.1).2 response s hPerform
  exact ⟨hFunded, ((performWatcher_appState hPerform).resolve_right (h.2 _)).trans hw.2⟩

theorem triple_due_save (hState : owed state = 1) {buffer : Option Nat} {directory : String}
    {chunk : Int32} :
    WatcherTriple settings (rateGuarantee settings) (Due settings state 0 start now)
      (call (.savePointcloudData buffer directory chunk))
      fun _ => Due settings state (-1) start now := by
  refine .perform (stable_due hState) (fun _ => stable_due hState)
    (fun w hw => hw.1.affordable ?_) fun w _ s hw hPerform => ?_
  · rw [hw.2, hState]
    exact le_rfl
  · have hReturns : performWatcher settings (.savePointcloudData buffer directory chunk) w.state =
        .returns () s := hPerform
    obtain ⟨hSame, hFunded⟩ := hw.1.save hReturns
    exact ⟨hFunded, hSame.trans hw.2⟩

/-- The chunk has been saved when the state is left. -/
theorem triple_due_store {next : States} (n' : Int) (hState : owed state = 1)
    (hCost : owed next + n' ≤ 1 + n) :
    WatcherTriple settings (rateGuarantee settings) (Due settings state n start now)
      (call (.storeAppState next)) fun _ => Funded settings n' start now := by
  refine .perform (stable_due hState) (fun _ => stable_funded) (fun _ _ => trivial) ?_
  intro w response s hw hPerform
  refine hw.1.statement hPerform ?_
  cases hPerform
  rw [hw.2, hState]
  change owed next + n' + 0 ≤ 1 + n
  omega

/-- The files of a chunk, the first of which are its points. -/
theorem triple_lidarFiles {P Q : History → Prop} {lidarBuffer imuBuffer : Option Nat}
    {directory : String} {chunk : Int32}
    (hSave : WatcherTriple settings (rateGuarantee settings) P
      (call (.savePointcloudData lidarBuffer directory chunk)) fun _ => Q)
    (hKeeps : ∀ {code : Code Unit}, code.Issues Handles →
      WatcherTriple settings (rateGuarantee settings) Q code fun _ => Q) :
    WatcherTriple settings (rateGuarantee settings) P
      (saveLidarData lidarBuffer imuBuffer directory chunk) fun _ => Q := by
  have hOther : ∀ kind : FileKind, kind ≠ .lidar → ∀ (request : WatcherRequest),
      request.file = some ⟨kind, directory, chunk⟩ → Handles request := by
    intro kind hKind request hFile
    refine ⟨⟨?_, ?_⟩, ?_⟩
    · rw [hFile]
      exact decide_eq_false hKind
    · rintro state rfl
      cases hFile
    · rintro state rfl
      cases hFile
  refine hSave.bind fun _ => hKeeps ?_
  refine .bind (.perform (hOther .imu (by decide) _ rfl)) fun _ => ?_
  refine .bind (.perform (hOther .status (by decide) _ rfl)) fun _ => ?_
  refine .bind (.perform (SavesNothing.handles rfl (by simp))) fun lidarList => ?_
  exact .perform (hOther .lidarList (by decide) _ rfl)

theorem handles_closeLogs : closeLogs.Issues Handles := by
  have hFits : closeLogs.Issues (Fits .stopping) := fits_closeLogs (by decide) (by decide)
  exact (issues_closeLogs_file.and hFits).mono fun _ h => SavesNothing.handles h.1 h.2.1

theorem handles_saveGnss (gnssClient : Bool) (gnssData : List GgaCsvLine) (directory : String)
    (chunk : Int32) :
    (.when gnssClient (call (.saveGnssData gnssData directory chunk)) : Code Unit).Issues
      Handles :=
  .when (.perform ⟨⟨rfl, by simp⟩, by simp⟩)

variable (settings)

/-- A closing branch from the retrieval on. -/
theorem due_saveLastChunk (hState : owed state = 1) (buffers : Option Nat × Option Nat)
    (gnssData : List GgaCsvLine) (directory : String) (chunk : Int32) :
    WatcherTriple settings (rateGuarantee settings) (Due settings state 0 start now)
      (saveLastChunk buffers gnssData directory chunk)
      fun _ => Due settings state (-1) start now := by
  refine (triple_lidarFiles (triple_due_save hState) (keeps_due hState)).bind fun _ => ?_
  refine keeps_due hState (.bind (.perform (Quiet.handles _ trivial)) fun gnssClient => ?_)
  exact handles_saveGnss gnssClient gnssData directory chunk

end Closing

section Branches

variable (settings : Settings) (locals : Locals)

/-- Between two rounds. -/
abbrev Paid (locals : Locals) : History → Prop :=
  Funded settings 0 locals.chunkStart locals.chunkStart

/-- In the branch of this state. -/
def PaidIn (state : States) (w : History) : Prop :=
  Paid settings locals w ∧ (owed state = 1 → w.state.appState = state)

theorem costless_test (state : States) : Costless (.testAppState state) :=
  SavesNothing.costless rfl (by simp)

theorem observes_paid :
    Observes settings (rateGuarantee settings) (Paid settings locals) (PaidIn settings locals) where
  robust := robust_funded
  entered state := by
    intro w w' h hw
    refine ⟨stable_funded w w' h hw.1, fun hState => ?_⟩
    exact (stable_due hState w w' h ⟨hw.1, hw.2 hState⟩).2
  allowed _ _ _ := trivial
  found w hw := by
    refine ⟨(preserves_funded _ (costless_test _) w hw).2 true w.state ?_, fun _ => rfl⟩
    simp [machine, performWatcher]
  notFound state w hw hState := by
    refine (preserves_funded _ (costless_test state) w hw).2 false w.state ?_
    simp [machine, performWatcher, hState]

theorem paid_of_issues {state : States} {code : Code Locals} (hCode : code.Issues Costless)
    (hYields : code.Yields fun result => result.chunkStart = locals.chunkStart) :
    WatcherTriple settings (rateGuarantee settings) (PaidIn settings locals state) code
      fun result => Paid settings result := by
  refine ((keeps_funded hCode).yields hYields).mono (fun w hw => hw.1) ?_
  rintro result w ⟨hStart, hw⟩
  rwa [Paid, hStart]

/-- The clock pays for what happens between two readings. -/
theorem triple_paid_now {n start now : Int} (n' : Int)
    (hPaid : seconds 10 * n' ≤ seconds 10 * n + (now - start)) :
    WatcherTriple settings (rateGuarantee settings) (Funded settings n start now)
      (call .steadyClockNow) fun later => Funded settings n' later later := by
  refine .perform stable_funded (fun _ => stable_funded) (fun _ _ => trivial) ?_
  intro w later s hw hPerform
  have hFunded := (preserves_funded _ (Quiet.costless .steadyClockNow trivial) w hw).2 later s
    hPerform
  cases hPerform
  refine ⟨?_, le_rfl, le_rfl⟩
  have hCredit := hFunded.credit
  have hRead : now ≤ w.state.steadyClock := hw.read
  rw [Credit] at hCredit ⊢
  simp only [seconds] at hPaid hCredit ⊢
  omega

/-- A scan which starts sets the time of its first chunk. -/
theorem paid_startingScan :
    WatcherTriple settings (rateGuarantee settings) (PaidIn settings locals .startingScan)
      (startingScan locals) fun result => Paid settings result := by
  refine Machine.Triple.mono ?_ (fun w hw => hw.1) fun _ _ h => h
  refine (keeps_funded (calm_showStart.mono Calm.costless)).bind fun _ => ?_
  refine before_funded (Quiet.costless _ trivial) fun livoxCLient => ?_
  refine (keeps_funded (.when ?_)).bind fun _ => ?_
  · refine .bind (.perform (SavesNothing.costless rfl (by simp))) fun _ => ?_
    refine .bind (.perform (Quiet.costless _ trivial)) fun gnssClient => ?_
    refine .bind (.when (.perform (SavesNothing.costless rfl (by simp)))) fun _ => ?_
    exact .perform (costless_store rfl)
  · refine (triple_paid_now settings 0 (by omega)).bind fun chunkStart => ?_
    exact triple_return _ stable_funded fun w hw => hw

/-- What has been paid for need not be used. -/
theorem Funded.less {n start now : Int} {w : History} (h : Funded settings n start now w)
    (hn : 0 ≤ n) : Funded settings 0 start now w := by
  refine ⟨?_, h.started, h.read⟩
  have hCredit := h.credit
  rw [Credit] at hCredit ⊢
  simp only [seconds] at hCredit ⊢
  omega

theorem costless_retrieveGnss (gnssClient : Bool) :
    (retrieveGnss gnssClient).Issues Costless := by
  cases gnssClient with
  | false => exact .done
  | true =>
      refine .bind (.perform (SavesNothing.costless rfl (by simp))) fun _ => ?_
      exact .bind (.perform (SavesNothing.costless rfl (by simp))) fun _ => .done

/-- A rotation begins more than ten seconds after the last one. -/
theorem paid_rotateChunk {now : Int} (hEnds : seconds 10 < now - locals.chunkStart) :
    WatcherTriple settings (rateGuarantee settings)
      (Funded settings 0 locals.chunkStart now) (rotateChunk locals)
      fun result => Paid settings result := by
  refine before_funded (Quiet.costless _ trivial) fun _ => ?_
  refine (triple_paid_now settings 1 (by omega)).bind fun chunkStart => ?_
  refine before_funded (SavesNothing.costless rfl (by simp)) fun ⟨lidarBuffer, imuBuffer⟩ => ?_
  refine before_funded (Quiet.costless _ trivial) fun gnssClient => ?_
  refine (keeps_funded (costless_retrieveGnss gnssClient)).bind ?_
  intro ⟨gnssBuffer, gnssRawBuffer⟩
  dsimp only
  split_ifs
  · refine before_funded (costless_store rfl) fun _ => ?_
    exact triple_return _ stable_funded fun w hw => hw.less settings (by omega)
  · have hKeeps : ∀ {code : Code Unit}, code.Issues Handles →
        WatcherTriple settings (rateGuarantee settings) (Funded settings 0 chunkStart chunkStart)
          code fun _ => Funded settings 0 chunkStart chunkStart :=
      fun hCode => keeps_funded (hCode.mono fun _ h => h.1)
    refine (triple_lidarFiles triple_savePoints hKeeps).bind fun _ => ?_
    refine before_funded (Quiet.costless _ trivial) fun gnssClient => ?_
    refine (keeps_funded (.when ?_)).bind fun _ => ?_
    · exact .bind (.perform ⟨rfl, by simp⟩) fun _ => .perform ⟨rfl, by simp⟩
    · refine before_funded (Quiet.costless _ trivial) fun _ => ?_
      exact triple_return _ stable_funded fun w hw => hw

/-- A scan saves a chunk when its ten seconds are over, out of that time. -/
theorem paid_scanning {state : States} :
    WatcherTriple settings (rateGuarantee settings) (PaidIn settings locals state)
      (scanning locals) fun result => Paid settings result := by
  have hStage : ∀ stage deadline changeLed period led,
      (confirmationStage stage deadline changeLed period led).Issues Costless :=
    fun stage deadline changeLed period led => issues_confirmationStage Calm.costless
      costless_test (costless_store rfl) stage deadline changeLed
      (fun _ => Quiet.costless _ trivial) period led
  refine Machine.Triple.mono ?_ (fun w hw => hw.1) fun _ _ h => h
  refine (keeps_funded (issues_showScanning Calm.costless costless_test)).bind fun _ => ?_
  have hNow : WatcherTriple settings (rateGuarantee settings) (Paid settings locals)
      (call .steadyClockNow) fun now => Funded settings 0 locals.chunkStart now := by
    refine .perform stable_funded (fun _ => stable_funded) (fun _ _ => trivial) ?_
    intro w now s hw hPerform
    have hFunded := (preserves_funded _ (Quiet.costless .steadyClockNow trivial) w hw).2 now s
      hPerform
    cases hPerform
    exact ⟨hFunded.credit, hFunded.started, le_rfl⟩
  refine hNow.bind fun now => ?_
  refine (keeps_funded (.when ((calm_blink _ _ _).mono Calm.costless))).bind fun _ => ?_
  refine (keeps_funded (.when ((calm_blink _ _ _).mono Calm.costless))).bind fun _ => ?_
  have hReturn : WatcherTriple settings (rateGuarantee settings)
      (Funded settings 0 locals.chunkStart now) (return locals)
      fun result => Paid settings result :=
    triple_return locals stable_funded fun w hw => ⟨hw.credit, hw.started, hw.started⟩
  have hChunk : WatcherTriple settings (rateGuarantee settings)
      (Funded settings 0 locals.chunkStart now) (checkChunk now locals)
      fun result => Paid settings result := by
    by_cases hEnds : seconds 10 < now - locals.chunkStart
    · have hTest : (andAlso (seconds 10 < now - locals.chunkStart)
          (call (.testAppState .scanning))).Issues Costless :=
        issues_andAlso (.perform (costless_test _))
      refine (keeps_funded hTest).bind fun chunkEnds => ?_
      cases chunkEnds with
      | false => exact hReturn
      | true => exact paid_rotateChunk settings locals hEnds
    · rw [checkChunk, decide_eq_false hEnds]
      exact hReturn
  refine hChunk.bind fun rotated => ?_
  refine (keeps_funded (hStage _ _ _ _ _)).bind fun led1 => ?_
  refine (keeps_funded (hStage _ _ _ _ _)).bind fun led2 => ?_
  refine before_funded (Quiet.costless _ trivial) fun _ => ?_
  exact triple_return _ stable_funded fun w hw => hw

theorem PaidIn.due {state : States} {w : History} (h : PaidIn settings locals state w)
    (hState : owed state = 1) :
    Due settings state 0 locals.chunkStart locals.chunkStart w :=
  ⟨h.1, h.2 hState⟩

/-- The last chunk of a scan has been paid for by the request to stop. -/
theorem paid_stopping :
    WatcherTriple settings (rateGuarantee settings) (PaidIn settings locals .stopping)
      (stopping locals) fun result => Paid settings result := by
  refine Machine.Triple.mono ?_ (fun w hw => hw.due settings locals rfl) fun _ _ h => h
  refine (keeps_due rfl (issues_showCopying.mono Quiet.handles)).bind fun _ => ?_
  refine (keeps_due rfl handles_closeLogs).bind fun ⟨buffers, gnssData⟩ => ?_
  refine (keeps_due rfl ((issues_blinkTimes _ _ _ _).mono Quiet.handles)).bind fun _ => ?_
  refine (keeps_due rfl (issues_showCopying.mono Quiet.handles)).bind fun _ => ?_
  split_ifs
  · refine (triple_due_store 0 rfl (by decide)).bind fun _ => ?_
    exact triple_return locals stable_funded fun w hw => hw
  · refine (due_saveLastChunk settings rfl buffers gnssData _ _).bind fun _ => ?_
    refine (keeps_due rfl (.perform (Quiet.handles (.setLed .copyData false) trivial))).bind
      fun _ => ?_
    refine (triple_due_store 0 rfl (by decide)).bind fun _ => ?_
    exact triple_return _ stable_funded fun w hw => hw

/-- The chunk of a stop scan has been paid for by the request to begin it. -/
theorem paid_stopingStopScan :
    WatcherTriple settings (rateGuarantee settings) (PaidIn settings locals .stopingStopScan)
      (stopingStopScan locals) fun result => Paid settings result := by
  refine Machine.Triple.mono ?_ (fun w hw => hw.due settings locals rfl) fun _ _ h => h
  refine (keeps_due rfl (issues_showStopScanClosing.mono Quiet.handles)).bind fun _ => ?_
  refine (keeps_due rfl handles_closeLogs).bind fun ⟨buffers, gnssData⟩ => ?_
  dsimp only
  split_ifs
  · refine (triple_due_store 0 rfl (by decide)).bind fun _ => ?_
    exact triple_return locals stable_funded fun w hw => hw
  · refine (due_saveLastChunk settings rfl buffers gnssData _ _).bind fun _ => ?_
    refine (keeps_due rfl (issues_showStopScanEnd.mono Quiet.handles)).bind fun _ => ?_
    refine (triple_due_store 0 rfl (by decide)).bind fun _ => ?_
    exact triple_return _ stable_funded fun w hw => hw

theorem paid_startingStopScan :
    WatcherTriple settings (rateGuarantee settings) (PaidIn settings locals .startingStopScan)
      (startingStopScan locals) fun result => Paid settings result := by
  refine Machine.Triple.mono ?_ (fun w hw => hw.due settings locals rfl) fun _ _ h => h
  have hSet : (call (.isSet .gpioClientPtr)).Issues Handles := .perform (Quiet.handles _ trivial)
  have hNow : (call .steadyClockNow).Issues Handles := .perform (Quiet.handles _ trivial)
  refine (keeps_due rfl hSet).bind fun gpioClient => ?_
  refine (keeps_due rfl (.when ((issues_setLeds _ _ _).mono Quiet.handles))).bind fun _ => ?_
  refine (keeps_due rfl hNow).bind fun now => ?_
  refine (triple_due_store 0 rfl (by decide)).bind fun _ => ?_
  exact triple_return _ stable_funded fun w hw => hw

theorem paid_stopScanInInitialProgress :
    WatcherTriple settings (rateGuarantee settings)
      (PaidIn settings locals .stopScanInInitialProgress) (stopScanInInitialProgress locals)
      fun result => Paid settings result := by
  refine Machine.Triple.mono ?_ (fun w hw => hw.due settings locals rfl) fun _ _ h => h
  have hNow : (call .steadyClockNow).Issues Handles := .perform (Quiet.handles _ trivial)
  have hStart : ∀ livoxCLient, (Program.when livoxCLient do
      call (.setLed .stopScan true)
      call .startLog : Code Unit).Issues Handles := fun _ => .when <|
    .bind (.perform (Quiet.handles _ trivial)) fun _ =>
      .perform (SavesNothing.handles rfl (by simp))
  refine (keeps_due rfl hNow).bind fun now => ?_
  split_ifs
  · refine (keeps_due rfl ((issues_blink .stopScan false 100).mono Quiet.handles)).bind fun _ => ?_
    exact triple_return locals (stable_due rfl) fun w hw => hw.1
  · have hOpen : WatcherTriple settings (rateGuarantee settings)
        (Due settings .stopScanInInitialProgress 0 locals.chunkStart locals.chunkStart)
        startStopScan fun _ => Paid settings locals := by
      have hLivox : (call (.isSet .livoxCLientPtr)).Issues Handles :=
        .perform (Quiet.handles _ trivial)
      have hGnss : (call (.isSet .gnssClientPtr)).Issues Handles :=
        .perform (Quiet.handles _ trivial)
      have hGnssLog : (call .gnssStartLog).Issues Handles :=
        .perform (SavesNothing.handles rfl (by simp))
      refine (keeps_due rfl hLivox).bind fun livoxCLient => ?_
      refine (keeps_due rfl (hStart livoxCLient)).bind fun _ => ?_
      refine (keeps_due rfl hGnss).bind fun gnssClient => ?_
      refine (keeps_due rfl (.when hGnssLog)).bind fun _ => ?_
      exact triple_due_store 0 rfl (by decide)
    exact hOpen.bind fun _ => triple_return locals stable_funded fun w hw => hw

theorem paid_stopScanInProgress :
    WatcherTriple settings (rateGuarantee settings) (PaidIn settings locals .stopScanInProgress)
      (stopScanInProgress locals) fun result => Paid settings result := by
  refine Machine.Triple.mono ?_ (fun w hw => hw.due settings locals rfl) fun _ _ h => h
  have hNow : (call .steadyClockNow).Issues Handles := .perform (Quiet.handles _ trivial)
  refine (keeps_due rfl hNow).bind fun now => ?_
  have hEnd : WatcherTriple settings (rateGuarantee settings)
      (Due settings .stopScanInProgress 0 locals.chunkStart locals.chunkStart)
      (.when (locals.stopScanDeadline < now) (call (.storeAppState .stopingStopScan)))
      fun _ => Paid settings locals :=
    .when (fun _ => triple_due_store 0 rfl (by decide)) fun _ =>
      triple_return () (stable_due rfl) fun w hw => hw.1
  exact hEnd.bind fun _ => triple_return locals stable_funded fun w hw => hw

/-- Every branch of the round pays for what it saves. -/
theorem paid_branches :
    BranchTriples settings (rateGuarantee settings) (PaidIn settings locals) locals
      fun result => Paid settings result := by
  constructor
  case usbIoError =>
    refine paid_of_issues settings locals (issues_usbIoError Calm.costless settings locals) ?_
    exact .after fun _ => rfl
  case waitForResources =>
    refine paid_of_issues settings locals
      (issues_waitForResources Quiet.costless settings locals (costless_store rfl)) ?_
    repeat refine .after fun _ => ?_
    rfl
  case idle =>
    refine paid_of_issues settings locals
      (issues_idle Calm.costless settings locals (costless_store rfl) (costless_store rfl)) ?_
    repeat refine .after fun _ => ?_
    rfl
  case startingScan => exact paid_startingScan settings locals
  case scanning => exact fun _ _ => paid_scanning settings locals
  case stopping => exact paid_stopping settings locals
  case startingStopScan => exact paid_startingStopScan settings locals
  case stopScanInInitialProgress => exact paid_stopScanInInitialProgress settings locals
  case stopScanInProgress => exact paid_stopScanInProgress settings locals
  case stopingStopScan => exact paid_stopingStopScan settings locals

end Branches

section Runs

/-- What is paid when the watcher has started, if it has. -/
def PaidOf (settings : Settings) : Option Locals → History → Prop
  | some locals => Paid settings locals
  | none => fun _ => True

theorem paid_startUp (settings : Settings) (s : Controller) (hInitial : s.Initial) :
    WatcherTriple settings (rateGuarantee settings) (fun w => w = ⟨s, []⟩) startUp
      (PaidOf settings) := by
  have hIssues : startUp.Issues Costless := issues_startUp (Quiet.costless _ trivial)
    (Quiet.costless _ trivial) (fun _ => SavesNothing.costless rfl (by simp))
    (fun _ => SavesNothing.costless rfl (by simp)) (costless_store rfl)
  have hBegin : ∀ w : History, w = ⟨s, []⟩ →
      Funded settings 0 s.steadyClock s.steadyClock w := by
    rintro w rfl
    refine ⟨?_, le_rfl, le_rfl⟩
    rw [Credit, hInitial.appState]
    simp [owed, savedFiles, chunks, ordered, began]
  refine Machine.Triple.mono ?_ hBegin fun _ _ h => h
  refine (triple_paid_now settings 0 (by omega)).bind fun chunkStart => ?_
  have hKeeps : ∀ {code : Code (Option Locals)}, code.Issues Costless →
      WatcherTriple settings (rateGuarantee settings) (Funded settings 0 chunkStart chunkStart)
        code fun _ => Funded settings 0 chunkStart chunkStart := keeps_funded
  refine ((hKeeps (hIssues.2 chunkStart)).yields (R := fun result =>
    ∃ locals, result = some locals ∧ locals.chunkStart = chunkStart) ?_).mono (fun _ h => h) ?_
  · intro stopScanDeadline stopScanInitialDeadline
    exact .after fun _ => .after fun directories => ⟨_, rfl, rfl⟩
  · rintro result w ⟨⟨locals, rfl, hStart⟩, hw⟩
    rwa [PaidOf, Paid, hStart]

/-- Every thread saves only what is affordable. -/
theorem rate_contract (settings : Settings) :
    (system settings).Contract (guarantee (rateGuarantee settings)) Controller.Initial
      (posts (PaidOf settings)) := by
  apply contract_of_watcher
  · exact paid_startUp settings
  · intro locals
    have hError : WatcherTriple settings (rateGuarantee settings)
        (PaidIn settings locals .lidarError) (lidarError settings)
        fun _ => Paid settings locals :=
      (robust_funded.keeps (issues_showError _ _ _ _ _)).mono (fun _ hw => hw.1) fun _ _ hw => hw
    exact (observes_paid settings locals).round hError (paid_branches settings locals)
      (fun _ hw => hw) fun _ _ => trivial

/-- Time and requests only add to what is affordable. -/
theorem affordable_move {settings : Settings} {w : History} {action : Move} {s : Controller}
    (hw : Affordable settings 0 w) (h : move settings action w.state = some s) :
    Affordable settings 0 (w.record (.move action) s) := by
  have hClock : w.state.steadyClock ≤ (w.record (.move action) s).state.steadyClock :=
    move_steadyClock h
  have hOther : ¬ByWatcher (.move action) := id
  rw [Affordable] at hw ⊢
  rw [savedFiles_other hOther, ordered_record, began_record]
  simp only [seconds] at hw ⊢
  split_ifs <;> omega

/-- A statement leaves affordable what has been saved so far. -/
theorem affordable_statement {settings : Settings} {w : History} {t : Thread}
    {request : Request t} {response : Response t request} {s : Controller}
    (hw : Affordable settings 0 w) (hGuarantee : guarantee (rateGuarantee settings) t request w)
    (h : (machine settings).perform t request w.state = .returns response s) :
    Affordable settings 0 (w.record (.statement t request response) s) := by
  have hClock : (w.record (.statement t request response) s).state.steadyClock =
      w.state.steadyClock := perform_steadyClock h
  rw [Affordable] at hw ⊢
  rw [ordered_statement, began_record, hClock]
  by_cases hWatcher : t = .watcher
  · subst hWatcher
    rw [chunks_statement]
    split_ifs with hSave
    · cases request with
      | savePointcloudData buffer directory chunk =>
          have hAffordable : Affordable settings 1 w := hGuarantee
          rw [Affordable] at hAffordable
          simp only [seconds] at hAffordable ⊢
          omega
      | _ => simp [WatcherRequest.file] at hSave
    · simp only [seconds] at hw ⊢
      omega
  · have hOther : ¬ByWatcher (.statement t request response) := hWatcher
    rwa [savedFiles_other hOther]

theorem began_run {settings : Settings} {s : Controller}
    {c : Configuration Response Local Controller Move} (h : (system settings).Reachable s c) :
    began c.world.state c.world.trace = s.steadyClock := by
  induction h with
  | initial => rfl
  | @next c d choice prior last ih =>
      rcases System.next_cases last with ⟨action, s', -, rfl⟩ | ⟨u, locals, -, rfl⟩ |
        ⟨u, request, rest, response, s', -, -, rfl⟩ | ⟨u, request, rest, -, -, rfl⟩
      · exact ih
      · exact ih
      · exact ih
      · exact ih

/-- However the threads are scheduled, the chunks of a run are at most the
requests which end a scan or ask for a stop scan, and one for every ten seconds
for which the controller has been running. -/
theorem chunks_rated {settings : Settings} {s : Controller} (hInitial : s.Initial)
    {c : Configuration Response Local Controller Move} (h : (system settings).Reachable s c) :
    seconds 10 * chunks (savedFiles c.world.trace) ≤
      seconds 10 * c.world.trace.countP (orders settings) +
        (c.world.state.steadyClock - s.steadyClock) := by
  have hAffordable : Affordable settings 0 c.world := by
    refine (rate_contract settings).invariant hInitial (I := Affordable settings 0) ?_ ?_ ?_ h
    · simp [Affordable, savedFiles, chunks, ordered, began]
    · exact fun w action s' hw hMove => affordable_move hw hMove
    · exact fun w t request response s' hw hGuarantee hPerform =>
        affordable_statement hw hGuarantee hPerform
  rw [Affordable, began_run h, add_zero] at hAffordable
  exact hAffordable

set_option maxRecDepth 2000 in
theorem chunks_rated_twoScans :
    ∃ c, (system plainSettings).run ((system plainSettings).initial (switchedOn true)) twoScans =
      some c ∧ chunks (savedFiles c.world.trace) = 2 ∧
    seconds 10 * chunks (savedFiles c.world.trace) ≤
      seconds 10 * c.world.trace.countP (orders plainSettings) +
        (c.world.state.steadyClock - (switchedOn true).steadyClock) := by
  have hRun : (system plainSettings).run ((system plainSettings).initial (switchedOn true))
      twoScans = some _ := rfl
  have hReachable := System.Reachable.initial.run _ hRun
  exact ⟨_, hRun, by decide +kernel, chunks_rated (switchedOn_initial true) hReachable⟩

end Runs

end Mandeye.Controller
