import Mandeye.Controller.Steps

/-! Rules for the watcher among the other threads. In every contract below only
the watcher has guarantees of its own; of the others it is enough to know that
each client is created once. -/
namespace Mandeye.Controller

open Interleaving

abbrev History := World Response Controller Move

abbrev Trace := List (Controller × Label Response Move)

/-- What the watcher guarantees, together with what is known of the others. -/
def guarantee (g : WatcherRequest → History → Prop) : Guarantee Response Controller Move
  | .watcher, request, w => g request w
  | .livox, .createLivoxClient, w => w.state.livoxCLientPtr = none
  | .livox, .createGnssClient, w => w.state.gnssClientPtr = none
  | _, _, _ => True

/-- The statements of the watcher which are about neither the state, the
directories nor the recorded data. -/
def Quiet : WatcherRequest → Prop
  | .testAppState _ => False
  | .storeAppState _ => False
  | .createDirectoryForStopScans _ => False
  | .createDirectoryForContinousScanning _ => False
  | .startLog => False
  | .stopLog => False
  | .retrieveData => False
  | .gnssStartLog => False
  | .gnssStopLog => False
  | .gnssRetrieveData => False
  | .gnssRetrieveRawData => False
  | .getSerialNumberToLidarIdMapping => False
  | .savePointcloudData _ _ _ => False
  | .saveImuData _ _ _ => False
  | .saveStatusData _ _ => False
  | .saveLidarList _ _ _ => False
  | .saveGnssData _ _ _ => False
  | .saveGnssRawData _ _ _ => False
  | _ => True

theorem Quiet.sameData {settings : Settings} {request : WatcherRequest} {s s' : Controller}
    {response : request.Response} (hQuiet : Quiet request)
    (h : performWatcher settings request s = .returns response s') : SameData s s' := by
  have hChanges := performWatcher_changes h
  cases request with
  | storeAppState state => exact hQuiet.elim
  | startLog => exact hQuiet.elim
  | stopLog => exact hQuiet.elim
  | retrieveData => exact hQuiet.elim
  | gnssStartLog => exact hQuiet.elim
  | gnssStopLog => exact hQuiet.elim
  | gnssRetrieveData => exact hQuiet.elim
  | gnssRetrieveRawData => exact hQuiet.elim
  | _ => exact hChanges.sameData

/-- The quiet statements which every branch may contain: the others among them
belong to one place of the code each. -/
def Calm : WatcherRequest → Prop
  | .isRunning => True
  | .readAppState => True
  | .isLidarError => True
  | .isSet _ => True
  | .steadyClockNow => True
  | .sleepFor _ => True
  | .readDeadline _ => True
  | .setLed _ _ => True
  | .beep _ => True
  | .setMode _ => True
  | .reportState _ => True
  | _ => False

theorem Calm.quiet (request : WatcherRequest) (h : Calm request) : Quiet request := by
  cases request with
  | isRunning => trivial
  | readAppState => trivial
  | isLidarError => trivial
  | isSet pointer => trivial
  | steadyClockNow => trivial
  | sleepFor milliseconds => trivial
  | readDeadline deadline => trivial
  | setLed led state => trivial
  | beep durations => trivial
  | setMode mode => trivial
  | reportState state => trivial
  | _ => exact h.elim

/-- The statements which change neither the state nor the lidar client. -/
def Still : WatcherRequest → Prop
  | .storeAppState _ => False
  | .startLog => False
  | .stopLog => False
  | .retrieveData => False
  | _ => True

theorem Still.same {settings : Settings} {request : WatcherRequest} {s s' : Controller}
    {response : request.Response} (hStill : Still request)
    (h : performWatcher settings request s = .returns response s') :
    s'.appState = s.appState ∧ s'.livoxCLientPtr = s.livoxCLientPtr := by
  obtain ⟨hState, hClient, -⟩ := performWatcher_changes h
  cases request with
  | storeAppState state => exact hStill.elim
  | startLog => exact hStill.elim
  | stopLog => exact hStill.elim
  | retrieveData => exact hStill.elim
  | _ => exact ⟨hState, hClient.trans (congrFun Option.map_id _)⟩

/-- A statement of the watcher. -/
def ByWatcher : Label Response Move → Prop
  | .statement t _ _ => t = .watcher
  | .move _ => False

/-- What is not done by the watcher is a move, or a statement of another thread. -/
@[elab_as_elim] theorem not_byWatcher_cases
    {motive : ∀ label : Label Response Move, ¬ByWatcher label → Prop}
    (move : ∀ action h, motive (.move action) h)
    (livox : ∀ request response h, motive (.statement .livox request response) h)
    (gpio : ∀ request response h, motive (.statement .gpio request response) h)
    (gnss : ∀ request response h, motive (.statement .gnss request response) h)
    (label : Label Response Move) (h : ¬ByWatcher label) : motive label h := by
  cases label with
  | move action => exact move action h
  | statement t request response =>
      cases t with
      | watcher => exact absurd rfl h
      | livox => exact livox request response h
      | gpio => exact gpio request response h
      | gnss => exact gnss request response h

/-- The states in which a request can be accepted. -/
theorem Requested.source {state state' : States} (h : Requested state state') :
    state ∈ [States.idle, .stopped, .scanning, .stoppingStage1, .stoppingStage2] := by
  cases h with
  | startingScan h => rcases h with rfl | rfl <;> decide
  | startingStopScan h => rcases h with rfl | rfl <;> decide
  | _ => decide

theorem Requested.permanent {state state' : States} (h : Requested state state') :
    state ≠ .waitForResources ∧ state ≠ .usbIoError ∧ state' ≠ .usbIoError := by
  cases h with
  | startingScan h => rcases h with rfl | rfl <;> exact ⟨by decide, by decide, by decide⟩
  | startingStopScan h => rcases h with rfl | rfl <;> exact ⟨by decide, by decide, by decide⟩
  | _ => exact ⟨by decide, by decide, by decide⟩

section Interference

variable {settings : Settings} {g : WatcherRequest → History → Prop} {w w' : History}

/-- While a statement of the watcher is awaited, the history only grows by what
others do, and only requests change the state. -/
theorem interference_record
    (h : (machine settings).Interference (guarantee g) .watcher w w') :
    ∃ label s, w' = w.record label s ∧ ¬ByWatcher label ∧
      (s.appState = w.state.appState ∨ Requested w.state.appState s.appState) := by
  obtain ⟨hMove⟩ | ⟨hOther, -, hPerform⟩ := h
  · refine ⟨_, _, rfl, id, ?_⟩
    rcases move_appState hMove with hSame | ⟨-, -, hRequested⟩
    · exact .inl hSame
    · exact .inr hRequested
  · exact ⟨_, _, rfl, hOther, .inl (perform_appState hOther hPerform)⟩

/-- Others than the watcher create the lidar client once and leave the
pointers to its buffers alone. -/
theorem perform_livoxCLientPtr {t : Thread} {request : Request t} {response : Response t request}
    {s : Controller} (ht : t ≠ .watcher) (hGuarantee : guarantee g t request w)
    (h : (machine settings).perform t request w.state = .returns response s) :
    s.livoxCLientPtr = w.state.livoxCLientPtr ∨
      w.state.livoxCLientPtr = none ∧ s.livoxCLientPtr = some .new := by
  have hSame : ∀ {s' : Controller}, s'.livoxCLientPtr = w.state.livoxCLientPtr.map id →
      s'.livoxCLientPtr = w.state.livoxCLientPtr := fun h => h.trans (congrFun Option.map_id _)
  cases t with
  | watcher => exact absurd rfl ht
  | livox =>
      rcases performLivox_cases h with ⟨rfl, rfl⟩ | ⟨-, rfl⟩ | hChanges
      · exact .inr ⟨hGuarantee, rfl⟩
      · exact .inl rfl
      · exact .inl (hSame hChanges.livoxCLientPtr)
  | gpio => exact .inl (performGpio_sameData h).livoxCLientPtr
  | gnss => exact .inl (hSame (performGnss_changes h).livoxCLientPtr)

end Interference

section Code

open StateWatcher

/-- Triples of the watcher. -/
abbrev WatcherTriple (settings : Settings) (g : WatcherRequest → History → Prop)
    {Result : Type} (P : History → Prop) (code : Code Result) (Q : Result → History → Prop) :
    Prop :=
  (machine settings).Triple (guarantee g) .watcher P code Q

abbrev WatcherStable (settings : Settings) (g : WatcherRequest → History → Prop)
    (P : History → Prop) : Prop :=
  (machine settings).Stable (guarantee g) .watcher P

/-- `P` survives whatever the others do and every quiet statement. -/
structure Robust (settings : Settings) (g : WatcherRequest → History → Prop)
    (P : History → Prop) : Prop where
  stable : WatcherStable settings g P
  quiet : ∀ request, Quiet request →
    (machine settings).Preserves (guarantee g) .watcher P request

/-- Looking at `app_state` turns `P` into `E state` if it is `state`, and keeps
`P` if it is not. -/
structure Tests (settings : Settings) (g : WatcherRequest → History → Prop)
    (P : History → Prop) (E : States → History → Prop) : Prop where
  stable : WatcherStable settings g P
  entered : ∀ state, WatcherStable settings g (E state)
  allowed : ∀ state w, P w → g (.testAppState state) w
  found : ∀ w, P w → E w.state.appState
    (w.record (.statement .watcher (.testAppState w.state.appState) true) w.state)
  notFound : ∀ state w, P w → w.state.appState ≠ state →
    P (w.record (.statement .watcher (.testAppState state) false) w.state)

/-- `P` before and `E state` after the watcher has found `app_state` to be
`state`; without success it is still `P`. -/
structure Observes (settings : Settings) (g : WatcherRequest → History → Prop)
    (P : History → Prop) (E : States → History → Prop) : Prop where
  robust : Robust settings g P
  entered : ∀ state, WatcherStable settings g (E state)
  allowed : ∀ state w, P w → g (.testAppState state) w
  found : ∀ w, P w → E w.state.appState
    (w.record (.statement .watcher (.testAppState w.state.appState) true) w.state)
  notFound : ∀ state w, P w → w.state.appState ≠ state →
    P (w.record (.statement .watcher (.testAppState state) false) w.state)

variable {settings : Settings} {g : WatcherRequest → History → Prop} {Result : Type}
  {P : History → Prop} {Q : Result → History → Prop} {E : States → History → Prop}

theorem triple_return (result : Result) (hStable : WatcherStable settings g P)
    (h : ∀ w, P w → Q result w) : WatcherTriple settings g P (return result) Q :=
  .done hStable h

theorem Robust.keeps (h : Robust settings g P) {code : Code Result} (hCode : code.Issues Quiet) :
    WatcherTriple settings g P code fun _ => P :=
  Machine.Keeps.of_issues h.stable (hCode.mono h.quiet)

/-- Quiet code in front of other code. -/
theorem Robust.before (h : Robust settings g P) {First : Type} {code : Code First}
    (hCode : code.Issues Quiet) {next : First → Code Result}
    (hNext : ∀ result, WatcherTriple settings g P (next result) Q) :
    WatcherTriple settings g P (code >>= next) Q :=
  (h.keeps hCode).bind hNext

theorem Robust.statement (h : Robust settings g P) (request : WatcherRequest)
    (hQuiet : Quiet request) {next : request.Response → Code Result}
    (hNext : ∀ response, WatcherTriple settings g P (next response) Q) :
    WatcherTriple settings g P (call request >>= next) Q :=
  h.before (.perform hQuiet) hNext

theorem Robust.and {R : History → Prop} (hP : Robust settings g P) (hR : Robust settings g R) :
    Robust settings g fun w => P w ∧ R w where
  stable := hP.stable.and hR.stable
  quiet request hQuiet := by
    rintro w ⟨hw, hw'⟩
    obtain ⟨hAllowed, hAfter⟩ := hP.quiet request hQuiet w hw
    obtain ⟨-, hAfter'⟩ := hR.quiet request hQuiet w hw'
    exact ⟨hAllowed, fun response state hPerform =>
      ⟨hAfter response state hPerform, hAfter' response state hPerform⟩⟩

theorem triple_andAlso {left : Bool} {right : Code Bool} {Q : Bool → History → Prop}
    (hFalse : left = false → WatcherTriple settings g P (return false) Q)
    (hTrue : left = true → WatcherTriple settings g P right Q) :
    WatcherTriple settings g P (andAlso left right) Q := by
  cases left with
  | false => exact hFalse rfl
  | true => exact hTrue rfl

theorem Tests.test (h : Tests settings g P E) (state : States) :
    WatcherTriple settings g P (call (.testAppState state))
      fun found w => if found then E state w else P w := by
  refine .perform h.stable ?_ (h.allowed state) ?_
  · rintro (_ | _)
    · exact h.stable
    · exact h.entered state
  · intro w found s hw hPerform
    by_cases hState : w.state.appState = state
    · obtain ⟨rfl, rfl⟩ : found = true ∧ s = w.state := by
        cases hPerform
        exact ⟨decide_eq_true hState, rfl⟩
      subst hState
      exact h.found w hw
    · obtain ⟨rfl, rfl⟩ : found = false ∧ s = w.state := by
        cases hPerform
        exact ⟨decide_eq_false hState, rfl⟩
      exact h.notFound state w hw hState

theorem Tests.isAnyOf (h : Tests settings g P E) (states : List States) :
    WatcherTriple settings g P (isAnyOf states)
      fun found w => if found then ∃ state ∈ states, E state w else P w := by
  induction states with
  | nil => exact triple_return false h.stable fun w hw => hw
  | cons state rest ih =>
      refine (h.test state).bind fun found => ?_
      cases found with
      | true => exact triple_return true (h.entered state) fun w hw => ⟨state, by simp, hw⟩
      | false =>
          refine ih.mono (fun w hw => hw) fun found w hw => ?_
          cases found with
          | false => exact hw
          | true =>
              obtain ⟨other, hOther, hE⟩ := hw
              exact ⟨other, List.mem_cons_of_mem _ hOther, hE⟩

theorem Tests.elseIf (h : Tests settings g P E) {otherwise : Code Result}
    (hOtherwise : WatcherTriple settings g P otherwise Q)
    (entries : List (List States × Code Result))
    (hEntries : ∀ entry ∈ entries, ∀ state ∈ entry.1,
      WatcherTriple settings g (E state) entry.2 Q) :
    WatcherTriple settings g P (elseIf otherwise entries) Q := by
  induction entries with
  | nil => exact hOtherwise
  | cons entry rest ih =>
      refine (h.isAnyOf entry.1).bind fun found => ?_
      cases found with
      | true =>
          rintro w ⟨state, hState, hE⟩
          exact hEntries entry List.mem_cons_self state hState w hE
      | false => exact ih fun other hOther => hEntries other (List.mem_cons_of_mem _ hOther)

/-- The test of the state which `app_state` is known to have. -/
theorem Tests.test_true (h : Tests settings g P E) {state : States}
    (hState : ∀ w, P w → w.state.appState = state) :
    WatcherTriple settings g P (call (.testAppState state))
      fun found w => found = true ∧ E state w := by
  apply Machine.Triple.perform h.stable
  · exact fun _ => (Machine.Stable.const _).and (h.entered state)
  · exact h.allowed state
  · intro w found s hw hPerform
    obtain rfl := hState w hw
    obtain ⟨rfl, rfl⟩ : found = true ∧ s = w.state := by
      cases hPerform
      exact ⟨decide_eq_true rfl, rfl⟩
    exact ⟨rfl, h.found w hw⟩

theorem Tests.isAnyOf_true (h : Tests settings g P E) {state : States}
    (hState : ∀ w, P w → w.state.appState = state) {states : List States}
    (hMem : state ∈ states) :
    WatcherTriple settings g P (StateWatcher.isAnyOf states)
      fun found w => found = true ∧ ∃ other ∈ states, E other w := by
  induction states with
  | nil => cases hMem
  | cons first rest ih =>
      have hTrue : WatcherTriple settings g (E first) (return true)
          fun found w => found = true ∧ ∃ other ∈ first :: rest, E other w :=
        triple_return true (h.entered first) fun w hw => ⟨rfl, first, List.mem_cons_self, hw⟩
      rcases List.mem_cons.mp hMem with rfl | hRest
      · refine (h.test_true hState).bind fun found => .of_fact fun hFound => ?_
        subst hFound
        exact hTrue
      · refine (h.test first).bind fun found => ?_
        cases found with
        | true => exact hTrue
        | false =>
            apply (ih hRest).mono fun w hw => hw
            rintro found w ⟨hFound, other, hOther, hE⟩
            exact ⟨hFound, other, List.mem_cons_of_mem _ hOther, hE⟩

/-- With a known state an entry further down the chain is reached at the latest
by its own test. -/
theorem Tests.elseIf_at (h : Tests settings g P E) {state : States}
    (hState : ∀ w, P w → w.state.appState = state) {otherwise : Code Result}
    (before : List (List States × Code Result)) {states : List States} (hMem : state ∈ states)
    {body : Code Result} (after : List (List States × Code Result))
    (hBefore : ∀ entry ∈ before, ∀ other ∈ entry.1, WatcherTriple settings g (E other) entry.2 Q)
    (hBody : ∀ other ∈ states, WatcherTriple settings g (E other) body Q) :
    WatcherTriple settings g P
      (StateWatcher.elseIf otherwise (before ++ (states, body) :: after)) Q := by
  induction before with
  | nil =>
      refine (h.isAnyOf_true hState hMem).bind fun found => .of_fact fun hFound => ?_
      subst hFound
      rintro w ⟨other, hOther, hE⟩
      exact hBody other hOther w hE
  | cons entry rest ih =>
      refine (h.isAnyOf entry.1).bind fun found => ?_
      cases found with
      | true =>
          rintro w ⟨other, hOther, hE⟩
          exact hBefore entry List.mem_cons_self other hOther w hE
      | false => exact ih fun other hOther => hBefore other (List.mem_cons_of_mem _ hOther)

theorem Observes.tests (h : Observes settings g P E) : Tests settings g P E where
  stable := h.robust.stable
  entered := h.entered
  allowed := h.allowed
  found := h.found
  notFound := h.notFound

theorem Robust.calm (h : Robust settings g P) (request : WatcherRequest) (hCalm : Calm request) :
    (machine settings).Preserves (guarantee g) .watcher P request :=
  h.quiet request (hCalm.quiet request)

end Code

end Mandeye.Controller
