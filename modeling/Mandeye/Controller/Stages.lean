import Mandeye.Controller.Rounds

/-! The two stages in which a stop of the continuous scan is confirmed. A stage
is opened and advanced by clicks, each in time; a round of the watcher which
begins after the deadline goes back to `SCANNING`. -/
namespace Mandeye.Controller

open Interleaving
open StateWatcher

inductive Stage where
  | stage1
  | stage2

def Stage.state : Stage → States
  | .stage1 => .stoppingStage1
  | .stage2 => .stoppingStage2

def Stage.deadline : Stage → Deadline
  | .stage1 => .stoppingStage1StartDeadline
  | .stage2 => .stoppingStage2StartDeadline

/-- Where the click is made which opens the stage. -/
def Stage.source : Stage → States
  | .stage1 => .scanning
  | .stage2 => .stoppingStage1

/-- Where a click in time leads. -/
def Stage.target : Stage → States
  | .stage1 => .stoppingStage2
  | .stage2 => .stopping

/-- The deadline of the stage before this one has not passed. -/
def Stage.opens : Stage → Controller → Prop
  | .stage1, _ => True
  | .stage2, s => s.steadyClock < s.deadlines .stoppingStage1StartDeadline

section Clicks

variable {settings : Settings} {s : Controller} {stage : Stage}

/-- No request but a click opens a stage. -/
theorem trigger_opens (hClicks : settings.stopOneClick = false) {request : Trigger}
    (h : (s.trigger settings request).2.appState = stage.state) :
    s.appState = stage.state ∧ (s.trigger settings request).2 = s ∨
      request = .triggerContinousScanning ∧ s.appState = stage.source ∧ stage.opens s ∧
      (s.trigger settings request).2.deadlines stage.deadline =
        s.steadyClock + milliseconds 2000 ∧
      (s.trigger settings request).2.steadyClock = s.steadyClock := by
  cases request with
  | startScan =>
      simp only [trigger, startScan] at h ⊢
      split_ifs at h ⊢
      · cases stage <;> cases h
      · exact .inl ⟨h, rfl⟩
  | stopScan =>
      simp only [trigger, stopScan] at h ⊢
      split_ifs at h ⊢
      · cases stage <;> cases h
      · exact .inl ⟨h, rfl⟩
  | triggerStopScan =>
      simp only [trigger, triggerStopScan] at h ⊢
      split_ifs at h ⊢
      · cases stage <;> cases h
      · exact .inl ⟨h, rfl⟩
  | triggerContinousScanning =>
      simp only [trigger, triggerContinousScanning, hClicks, Bool.false_eq_true, if_false] at h ⊢
      split_ifs at h ⊢ with hIdle hScanning hStage1 hInTime hStage2 hInTime
      · cases stage <;> cases h
      · cases stage with
        | stage1 =>
            exact .inr ⟨trivial, hScanning, trivial, by simp [enterStage, Stage.deadline], rfl⟩
        | stage2 => cases h
      · cases stage with
        | stage1 => cases h
        | stage2 =>
            exact .inr ⟨trivial, hStage1, hInTime, by simp [enterStage, Stage.deadline], rfl⟩
      · exact .inl ⟨h, rfl⟩
      · cases stage <;> cases h
      · exact .inl ⟨h, rfl⟩
      · exact .inl ⟨h, rfl⟩

theorem trigger_ignored {request : Trigger} (hState : s.appState = stage.state)
    (hOther : request ≠ .triggerContinousScanning) : (s.trigger settings request).2 = s := by
  cases request with
  | startScan => cases stage <;> simp [trigger, startScan, hState, Stage.state]
  | stopScan => cases stage <;> simp [trigger, stopScan, hState, Stage.state]
  | triggerStopScan => cases stage <;> simp [trigger, triggerStopScan, hState, Stage.state]
  | triggerContinousScanning => exact absurd rfl hOther

/-- A stage is advanced by a click in time; all other requests are ignored. -/
theorem trigger_in_stage (hState : s.appState = stage.state) (request : Trigger) :
    (s.trigger settings request).2 = s ∨
      request = .triggerContinousScanning ∧ s.steadyClock < s.deadlines stage.deadline ∧
        (s.trigger settings request).2.appState = stage.target := by
  by_cases hClick : request = .triggerContinousScanning
  · subst hClick
    by_cases hInTime : s.steadyClock < s.deadlines stage.deadline
    · refine .inr ⟨rfl, hInTime, ?_⟩
      cases stage with
      | stage1 =>
          change s.steadyClock < s.deadlines .stoppingStage1StartDeadline at hInTime
          simp [trigger, triggerContinousScanning, hState, Stage.state, hInTime, enterStage,
            Stage.target]
      | stage2 =>
          change s.steadyClock < s.deadlines .stoppingStage2StartDeadline at hInTime
          simp [trigger, triggerContinousScanning, hState, Stage.state, hInTime, Stage.target]
    · apply Or.inl
      cases stage with
      | stage1 =>
          change ¬s.steadyClock < s.deadlines .stoppingStage1StartDeadline at hInTime
          simp [trigger, triggerContinousScanning, hState, Stage.state, hInTime]
      | stage2 =>
          change ¬s.steadyClock < s.deadlines .stoppingStage2StartDeadline at hInTime
          simp [trigger, triggerContinousScanning, hState, Stage.state, hInTime]
  · exact .inl (trigger_ignored hState hClick)

theorem trigger_expired (hState : s.appState = stage.state)
    (hExpired : s.deadlines stage.deadline ≤ s.steadyClock) (request : Trigger) :
    (s.trigger settings request).2 = s :=
  (trigger_in_stage hState request).resolve_right fun ⟨_, hInTime, _⟩ => by omega

/-- Only the third click stops a scan. -/
theorem click_stops (hClicks : settings.stopOneClick = false) (hBefore : s.appState ≠ .stopping)
    (h : (s.trigger settings .triggerContinousScanning).2.appState = .stopping) :
    s.appState = .stoppingStage2 ∧ s.steadyClock < s.deadlines .stoppingStage2StartDeadline := by
  simp only [trigger, triggerContinousScanning, hClicks, Bool.false_eq_true, if_false] at h
  split_ifs at h with hIdle hScanning hStage1 hInTime hStage2 hInTime
  · cases h
  · cases h
  · exact absurd h hBefore
  · exact ⟨hStage2, hInTime⟩
  · exact absurd h hBefore
  · exact absurd h hBefore

/-- A move in a stage leaves it as it is, or is a click in time. -/
theorem stage_move {action : Move} {s' : Controller} (hState : s.appState = stage.state)
    (h : move settings action s = some s') :
    (s'.appState = s.appState ∧ s'.deadlines stage.deadline = s.deadlines stage.deadline ∧
      s.steadyClock ≤ s'.steadyClock) ∨
    action = .trigger .triggerContinousScanning ∧
      s.steadyClock < s.deadlines stage.deadline ∧ s'.appState = stage.target := by
  cases action with
  | trigger request =>
      obtain rfl : (s.trigger settings request).2 = s' := Option.some.inj h
      rcases trigger_in_stage hState request with hSame | ⟨rfl, hInTime, hTarget⟩
      · rw [hSame]
        exact .inl ⟨rfl, rfl, le_rfl⟩
      · exact .inr ⟨rfl, hInTime, hTarget⟩
  | elapse nanoseconds =>
      cases h
      exact .inl ⟨rfl, rfl, by simp⟩
  | _ =>
      have hPanel := move_samePanel (by simp) (by simp) h
      have hSame : s'.appState = s.appState := by
        rcases move_appState h with hSame | ⟨request, hRequest, -⟩
        · exact hSame
        · cases hRequest
      exact .inl ⟨hSame, congrFun hPanel.deadlines _, hPanel.steadyClock.ge⟩

end Clicks

section Expired

/-- In a stage whose deadline has passed. -/
structure Expired (stage : Stage) (time : Int) (before : Trace) (w : History) : Prop where
  state : w.state.appState = stage.state
  deadline : w.state.deadlines stage.deadline = time
  passed : time < w.state.steadyClock
  since : before <:+ w.trace

/-- The watcher has gone back from the stage to `SCANNING`. -/
def FellBack (stage : Stage) (before : Trace) (w : History) : Prop :=
  ∃ s earlier, (s, .statement .watcher (.storeAppState .scanning) ()) :: earlier <:+ w.trace ∧
    before <:+ earlier ∧ s.appState = stage.state

variable {settings : Settings} {stage : Stage} {time : Int} {before : Trace} {w : History}
  {label : Label Response Move} {s : Controller}

theorem Expired.record (h : Expired stage time before w) (hState : s.appState = w.state.appState)
    (hDeadline : s.deadlines stage.deadline = w.state.deadlines stage.deadline)
    (hClock : w.state.steadyClock ≤ s.steadyClock) :
    Expired stage time before (w.record label s) where
  state := hState.trans h.state
  deadline := hDeadline.trans h.deadline
  passed := lt_of_lt_of_le h.passed hClock
  since := h.since.trans (List.suffix_cons _ _)

theorem Expired.same (h : Expired stage time before w) (hState : s.appState = w.state.appState)
    (hPanel : SamePanel w.state s) : Expired stage time before (w.record label s) :=
  h.record hState (congrFun hPanel.deadlines _) hPanel.steadyClock.ge

theorem FellBack.record (h : FellBack stage before w) :
    FellBack stage before (w.record label s) := by
  obtain ⟨s, earlier, hSuffix, hStage⟩ := h
  exact ⟨s, earlier, hSuffix.trans (List.suffix_cons _ _), hStage⟩

/-- The deadlines are written by requests and by the watcher. -/
theorem perform_deadlines {t : Thread} {request : Request t} {response : Response t request}
    {s s' : Controller} (ht : t ≠ .watcher)
    (h : (machine settings).perform t request s = .returns response s') :
    s'.deadlines = s.deadlines ∧ s'.steadyClock = s.steadyClock := by
  cases t with
  | watcher => exact absurd rfl ht
  | livox => exact ⟨(performLivox_samePanel h).deadlines, (performLivox_samePanel h).steadyClock⟩
  | gpio =>
      by_cases hCreate : request = .createGpioClient
      · subst hCreate
        cases h
        exact ⟨rfl, rfl⟩
      · have hPanel := performGpio_samePanel hCreate h
        exact ⟨hPanel.deadlines, hPanel.steadyClock⟩
  | gnss => exact ⟨(performGnss_samePanel h).deadlines, (performGnss_samePanel h).steadyClock⟩

theorem expired_move {action : Move} (h : Expired stage time before w)
    (hMove : move settings action w.state = some s) :
    Expired stage time before (w.record (.move action) s) := by
  rcases stage_move h.state hMove with ⟨hState, hDeadline, hClock⟩ | ⟨-, hInTime, -⟩
  · exact h.record hState hDeadline hClock
  · have hPassed := h.passed
    rw [← h.deadline] at hPassed
    omega

end Expired

section Fallback

variable (settings : Settings) (stage : Stage) (time : Int) (before : Trace)

/-- Triples in which the watcher guarantees nothing. -/
abbrev FreeTriple {Result : Type} (P : History → Prop) (code : Code Result)
    (Q : Result → History → Prop) : Prop :=
  WatcherTriple settings (fun _ _ => True) P code Q

/-- The statements which do not end the stage. -/
def Patient : WatcherRequest → Prop
  | .storeAppState _ => False
  | .storeDeadline deadline _ => deadline ≠ stage.deadline
  | _ => True

theorem Calm.patient (request : WatcherRequest) (h : Calm request) : Patient stage request := by
  cases request with
  | storeAppState state => exact h.elim
  | storeDeadline deadline time => exact h.elim
  | _ => trivial

theorem stable_expired :
    WatcherStable settings (fun _ _ => True) (Expired stage time before) := by
  intro w w' h hw
  obtain hMove | ⟨hOther, -, hPerform⟩ := h
  · exact expired_move hw hMove
  · obtain ⟨hDeadlines, hClock⟩ := perform_deadlines hOther hPerform
    exact hw.record (perform_appState hOther hPerform) (congrFun hDeadlines _) hClock.ge

theorem preserves_expired (request : WatcherRequest) (h : Patient stage request) :
    (machine settings).Preserves (guarantee fun _ _ => True) .watcher
      (Expired stage time before) request := by
  intro w hw
  refine ⟨trivial, fun response s (hPerform : performWatcher settings request w.state = _) => ?_⟩
  have hState := (performWatcher_changes hPerform).appState
  cases request with
  | storeAppState state => exact h.elim
  | storeDeadline deadline time =>
      cases hPerform
      exact hw.record rfl (Function.update_of_ne (Ne.symm h) _ _) le_rfl
  | _ => exact hw.same hState (performWatcher_samePanel (by simp) hPerform)

theorem keeps_expired {Result : Type} {code : Code Result} (hCode : code.Issues (Patient stage)) :
    FreeTriple settings (Expired stage time before) code fun _ => Expired stage time before :=
  Machine.Keeps.of_issues (stable_expired settings stage time before) <|
    hCode.mono (preserves_expired settings stage time before)

theorem stable_fellBack : WatcherStable settings (fun _ _ => True) (FellBack stage before) := by
  intro w w' h hw
  obtain ⟨label, s, rfl, -⟩ := interference_record h
  exact hw.record

theorem keeps_fellBack {Result : Type} (code : Code Result) :
    FreeTriple settings (FellBack stage before) code fun _ => FellBack stage before :=
  Machine.Keeps.of_issues (stable_fellBack settings stage before) <|
    .of_forall code fun _ _ hw => ⟨trivial, fun _ _ _ => hw.record⟩

theorem tests_expired :
    Tests settings (fun _ _ => True) (Expired stage time before)
      fun state w => state = stage.state ∧ Expired stage time before w where
  stable := stable_expired settings stage time before
  entered _ := (Machine.Stable.const _).and (stable_expired settings stage time before)
  allowed _ _ _ := trivial
  found _ hw := ⟨hw.state, hw.record rfl rfl le_rfl⟩
  notFound _ _ hw _ := hw.record rfl rfl le_rfl

/-- The other stage is not entered. -/
theorem triple_otherStage (state : States) (hState : state ≠ stage.state)
    (deadline changeLed : Deadline) (period : Int) (led : Bool) :
    FreeTriple settings (Expired stage time before)
      (confirmationStage state deadline changeLed period led)
      fun _ => Expired stage time before := by
  refine ((tests_expired settings stage time before).test state).bind fun entered => ?_
  cases entered with
  | true => exact .of_fact fun hEntered => absurd hEntered hState
  | false => exact triple_return led (stable_expired settings stage time before) fun _ hw => hw

/-- The clock shows that the deadline has passed. -/
theorem triple_clock :
    FreeTriple settings (Expired stage time before) (call .steadyClockNow)
      fun now w => time < now ∧ Expired stage time before w := by
  have hExpired := stable_expired settings stage time before
  apply Machine.Triple.perform hExpired fun _ => (Machine.Stable.const _).and hExpired
  · exact fun _ _ => trivial
  · intro w now s hw hPerform
    cases hPerform
    exact ⟨hw.passed, hw.record rfl rfl le_rfl⟩

theorem triple_readDeadline :
    FreeTriple settings (Expired stage time before) (call (.readDeadline stage.deadline))
      fun read w => read = time ∧ Expired stage time before w := by
  have hExpired := stable_expired settings stage time before
  apply Machine.Triple.perform hExpired fun _ => (Machine.Stable.const _).and hExpired
  · exact fun _ _ => trivial
  · intro w read s hw hPerform
    cases hPerform
    exact ⟨hw.deadline, hw.record rfl rfl le_rfl⟩

theorem triple_fallBack :
    FreeTriple settings (Expired stage time before) (call (.storeAppState .scanning))
      fun _ => FellBack stage before := by
  apply Machine.Triple.perform (stable_expired settings stage time before)
    fun _ => stable_fellBack settings stage before
  · exact fun _ _ => trivial
  · intro w response s hw _
    exact ⟨w.state, w.trace, List.suffix_refl _, hw.since, hw.state⟩

theorem triple_thisStage (changeLed : Deadline) (hChangeLed : changeLed ≠ stage.deadline)
    (period : Int) (led : Bool) :
    FreeTriple settings (Expired stage time before)
      (confirmationStage stage.state stage.deadline changeLed period led)
      fun _ => FellBack stage before := by
  have hTests := tests_expired settings stage time before
  refine (hTests.test_true fun _ hw => hw.state).bind fun entered => .of_fact fun hEntered => ?_
  subst hEntered
  apply Machine.Triple.of_fact
  intro _
  refine (triple_clock settings stage time before).bind fun now => .of_fact fun hNow => ?_
  have hRead : (call (.readDeadline changeLed)).Issues (Patient stage) := .perform trivial
  refine (keeps_expired settings stage time before hRead).bind fun changeLedTime => ?_
  have hBlink : (Program.when (changeLedTime < now) do
      call (.setLed .continousScanning led)
      let again ← call .steadyClockNow
      call (.storeDeadline changeLed (again + milliseconds period))).Issues (Patient stage) :=
    .when (.bind (.perform trivial) fun _ => .bind (.perform trivial) fun _ =>
      .perform hChangeLed)
  refine (keeps_expired settings stage time before hBlink).bind fun _ => ?_
  refine (triple_readDeadline settings stage time before).bind fun read => .of_fact fun hTime => ?_
  subst hTime
  rw [decide_eq_true hNow]
  exact (triple_fallBack settings stage read before).bind fun _ =>
    keeps_fellBack settings stage before _

/-- No chunk ends in a confirmation stage. -/
theorem triple_checkChunk_expired (now : Int) (locals : Locals) :
    FreeTriple settings (Expired stage time before) (checkChunk now locals)
      fun _ => Expired stage time before := by
  have hExpired := stable_expired settings stage time before
  have hAsked : FreeTriple settings (Expired stage time before)
      (andAlso (seconds 10 < now - locals.chunkStart) (call (.testAppState .scanning)))
      fun chunkEnds w => chunkEnds = false ∧ Expired stage time before w := by
    apply triple_andAlso
    · exact fun _ => triple_return false hExpired fun _ hw => ⟨rfl, hw⟩
    · intro _
      apply ((tests_expired settings stage time before).test .scanning).mono fun _ hw => hw
      intro found w hw
      cases found with
      | true => cases stage <;> cases hw.1
      | false => exact ⟨rfl, hw⟩
  refine hAsked.bind fun chunkEnds => .of_fact fun hChunk => ?_
  subst hChunk
  exact triple_return locals hExpired fun _ hw => hw

theorem triple_scanning_expired (locals : Locals) :
    FreeTriple settings (Expired stage time before) (scanning locals)
      fun _ => FellBack stage before := by
  have hCalm := Calm.patient stage
  have hKeeps : ∀ {Result : Type} {code : Code Result}, code.Issues (Patient stage) →
      FreeTriple settings (Expired stage time before) code fun _ => Expired stage time before :=
    fun hCode => keeps_expired settings stage time before hCode
  have hBlink : ∀ (late : Bool) milliseconds, (Program.when late
      (blink .continousScanning false milliseconds)).Issues (Patient stage) := fun _ _ =>
    .when ((calm_blink _ _ _).mono hCalm)
  refine (hKeeps (issues_showScanning hCalm fun _ => trivial)).bind fun _ => ?_
  have hClock : (call .steadyClockNow).Issues (Patient stage) := .perform trivial
  refine (hKeeps hClock).bind fun now => ?_
  refine (hKeeps (hBlink _ 1000)).bind fun _ => (hKeeps (hBlink _ 100)).bind fun _ => ?_
  refine (triple_checkChunk_expired settings stage time before now locals).bind fun locals => ?_
  cases stage with
  | stage1 =>
      have hHere := triple_thisStage settings .stage1 time before
        .stoppingStage1StartDeadlineChangeLed (by simp [Stage.deadline]) 500 locals.led1
      exact hHere.bind fun _ => keeps_fellBack settings _ _ _
  | stage2 =>
      have hOther := triple_otherStage settings .stage2 time before .stoppingStage1
        (by simp [Stage.state]) .stoppingStage1StartDeadline
        .stoppingStage1StartDeadlineChangeLed 500 locals.led1
      have hHere := triple_thisStage settings .stage2 time before
        .stoppingStage2StartDeadlineChangeLed (by simp [Stage.deadline]) 250 locals.led2
      exact hOther.bind fun _ => hHere.bind fun _ => keeps_fellBack settings _ _ _

/-- A round which begins after the deadline goes back to `SCANNING`. -/
theorem triple_round_expired (locals : Locals) :
    FreeTriple settings (Expired stage time before) (round settings locals)
      fun result w => result ≠ none → FellBack stage before w := by
  have hTests := tests_expired settings stage time before
  have hRunning : (call .isRunning).Issues (Patient stage) := .perform trivial
  refine (keeps_expired settings stage time before hRunning).bind fun running => ?_
  cases running with
  | false => exact triple_return none hTests.stable fun _ _ h => absurd rfl h
  | true =>
      have hShow := calm_publishState.mono (Calm.patient stage)
      have hShown := keeps_expired settings stage time before hShow
      have hNoError : FreeTriple settings (Expired stage time before)
          (call (.testAppState .lidarError))
          fun error w => error = false ∧ Expired stage time before w := by
        apply (hTests.test .lidarError).mono fun _ hw => hw
        intro found w hw
        cases found with
        | true => cases stage <;> cases hw.1
        | false => exact ⟨rfl, hw⟩
      refine hShown.bind fun _ => hNoError.bind fun error => .of_fact fun hError => ?_
      subst hError
      have hOther : ∀ entry ∈ (branches settings locals).take 4, ∀ other ∈ entry.1,
          FreeTriple settings (fun w => other = stage.state ∧ Expired stage time before w) entry.2
            fun _ => FellBack stage before := by
        have hNot : ∀ entry ∈ (branches settings locals).take 4, stage.state ∉ entry.1 := by
          cases stage <;> simp [branches, Stage.state]
        intro entry hEntry other hOther
        apply Machine.Triple.of_fact
        intro hState
        exact absurd (hState ▸ hOther) (hNot entry hEntry)
      have hScan : ∀ other ∈ [States.scanning, .stoppingStage1, .stoppingStage2],
          FreeTriple settings (fun w => other = stage.state ∧ Expired stage time before w)
            (scanning locals) fun _ => FellBack stage before := fun other _ =>
        .of_fact fun _ => triple_scanning_expired settings stage time before locals
      have hMem : stage.state ∈ [States.scanning, .stoppingStage1, .stoppingStage2] := by
        cases stage <;> simp [Stage.state]
      apply Machine.Triple.map some
      have hSelected : FreeTriple settings (Expired stage time before)
          (elseIf (return locals) (branches settings locals)) fun _ => FellBack stage before :=
        hTests.elseIf_at (fun _ hw => hw.state) ((branches settings locals).take 4) hMem
          ((branches settings locals).drop 5) hOther hScan
      exact hSelected.mono (fun _ hw => hw) fun _ _ hw _ => hw

end Fallback

end Mandeye.Controller
