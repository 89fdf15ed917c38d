import Mandeye.Controller.Rounds

/-! The wait for synchronised lidars at start-up. It lasts up to a minute, with
both client mutexes held: a lidar thread which comes too late cannot create the
client which is waited for. -/
namespace Mandeye.Controller

open Interleaving
open StateWatcher

/-- The watcher has taken the second mutex and has since then only asked for the
lidars, without success. -/
def waits : Trace → Bool
  | [] => false
  | (_, .statement .watcher (.lock .gpioClientPtrLock) _) :: _ => true
  | (_, .statement .watcher (.sleepFor _) _) :: earlier => waits earlier
  | (_, .statement .watcher (.isSet .livoxCLientPtr) _) :: earlier => waits earlier
  | (_, .statement .watcher .isSynced synced) :: earlier => !synced && waits earlier
  | (_, .statement .watcher _ _) :: _ => false
  | _ :: earlier => waits earlier

/-- In the sync-wait loop of `WAIT_FOR_RESOURCES`. -/
def syncWaits (settings : Settings) (trace : Trace) : Bool :=
  settings.waitForLidarSync && waits trace

/-- The wait is entered before there is a lidar client. -/
def entersWithoutClient : Controller × Label Response Move → Bool
  | (s, .statement .watcher (.lock .gpioClientPtrLock) _) => s.livoxCLientPtr.isNone
  | _ => false

/-- The watcher raises the error at the end of the wait. -/
def syncGuarantee : WatcherRequest → History → Prop
  | .storeIsLidarError, w => waits w.trace = true
  | _, _ => True

section Clients

variable {settings : Settings} {w : History} {label : Label Response Move} {s : Controller}

/-- A lidar client which was there once is still there later. -/
def Lasting (w : History) : Prop :=
  (w.state :: w.trace.map Prod.fst).Pairwise fun later earlier =>
    earlier.livoxCLientPtr ≠ none → later.livoxCLientPtr ≠ none

theorem Lasting.record (h : Lasting w)
    (hStep : w.state.livoxCLientPtr ≠ none → s.livoxCLientPtr ≠ none) :
    Lasting (w.record label s) := by
  apply List.Pairwise.cons _ h
  intro earlier hEarlier hClient
  rcases List.mem_cons.mp hEarlier with rfl | hEarlier
  · exact hStep hClient
  · exact hStep ((List.pairwise_cons.mp h).1 earlier hEarlier hClient)

theorem ne_none_of_clients {s s' : Controller} (h : s'.clients = s.clients)
    (hClient : s.livoxCLientPtr ≠ none) : s'.livoxCLientPtr ≠ none := by
  rw [← Option.isSome_iff_ne_none] at hClient ⊢
  exact (congrArg Prod.fst h).trans hClient

theorem perform_lasting {t : Thread} {request : Request t} {response : Response t request}
    (h : (machine settings).perform t request w.state = .returns response s)
    (hClient : w.state.livoxCLientPtr ≠ none) : s.livoxCLientPtr ≠ none := by
  by_cases ht : t = .livox
  · subst ht
    rcases performLivox_cases h with ⟨-, rfl⟩ | ⟨-, rfl⟩ | hChanges
    · simp
    · exact hClient
    · exact ne_none_of_clients hChanges.clients hClient
  · exact ne_none_of_clients (perform_clients ht h) hClient

theorem lasting {s : Controller} (hInitial : s.Initial)
    {c : Configuration Response Local Controller Move} (h : (system settings).Reachable s c) :
    Lasting c.world := by
  refine (clients_contract settings).invariant hInitial ?_ ?_ ?_ h
  · exact List.pairwise_singleton _ _
  · intro w action s' hw hMove
    exact hw.record (ne_none_of_clients (move_clients hMove))
  · intro w t request response s' hw _ hPerform
    exact hw.record (perform_lasting hPerform)

end Clients

section Waiting

variable {settings : Settings} {w : History} {label : Label Response Move} {s : Controller}

/-- Every wait began by taking the second mutex. -/
theorem waits_begun {trace : Trace} (h : waits trace = true) :
    ∃ before response,
      (before, .statement .watcher (.lock .gpioClientPtrLock) response) ∈ trace := by
  fun_induction waits trace with
  | case1 => cases h
  | case2 before response earlier => exact ⟨before, response, List.mem_cons_self⟩
  | case3 before n response earlier ih =>
      obtain ⟨first, response, hFirst⟩ := ih h
      exact ⟨first, response, List.mem_cons_of_mem _ hFirst⟩
  | case4 before response earlier ih =>
      obtain ⟨first, response, hFirst⟩ := ih h
      exact ⟨first, response, List.mem_cons_of_mem _ hFirst⟩
  | case5 before synced earlier ih =>
      obtain ⟨first, response, hFirst⟩ := ih (Bool.and_eq_true_iff.mp h).2
      exact ⟨first, response, List.mem_cons_of_mem _ hFirst⟩
  | case6 => cases h
  | case7 entry earlier _ _ _ _ _ ih =>
      obtain ⟨first, response, hFirst⟩ := ih h
      exact ⟨first, response, List.mem_cons_of_mem _ hFirst⟩

theorem waits_other (h : ¬ByWatcher label) :
    waits (w.record label s).trace = waits w.trace := by
  cases label, h using not_byWatcher_cases with
  | move action => rfl
  | livox request response => rfl
  | gpio request response => rfl
  | gnss request response => rfl

end Waiting

section Branches

variable (settings : Settings) (locals : Locals)

/-- The statements which may be performed at any time. -/
def Errorless : WatcherRequest → Prop
  | .storeIsLidarError => False
  | _ => True

theorem Errorless.allowed {request : WatcherRequest} (h : Errorless request) (w : History) :
    syncGuarantee request w := by
  cases request with
  | storeIsLidarError => exact h.elim
  | _ => trivial

theorem Working.errorless (request : WatcherRequest) (h : Working request) :
    Errorless request := by
  cases request with
  | storeIsLidarError => exact h.elim
  | _ => trivial

theorem Calm.errorless (request : WatcherRequest) (h : Calm request) : Errorless request :=
  h.working.errorless

/-- Code which raises no error needs no assertion. -/
theorem keeps_errorless {Result : Type} {code : Code Result} (hCode : code.Issues Errorless) :
    WatcherTriple settings syncGuarantee (fun _ => True) code fun _ _ => True :=
  Machine.Keeps.of_issues (stable_true settings syncGuarantee .watcher) <|
    hCode.mono fun _ h _ _ => ⟨h.allowed _, fun _ _ _ => trivial⟩

theorem stable_waits : WatcherStable settings syncGuarantee fun w => waits w.trace = true := by
  intro w w' h hw
  obtain ⟨label, s, rfl, hLabel, -⟩ := interference_record h
  rwa [waits_other hLabel]

/-- A question of the wait goes on with it. -/
theorem triple_waits (request : WatcherRequest) (hErrorless : Errorless request)
    (hWaits : ∀ (w : History) response s, waits w.trace = true →
      waits (w.record (.statement .watcher request response) s).trace = true) :
    WatcherTriple settings syncGuarantee (fun w => waits w.trace = true) (call request)
      fun _ w => waits w.trace = true := by
  apply Machine.Triple.perform (stable_waits settings) fun _ => stable_waits settings
  · exact fun w _ => hErrorless.allowed w
  · exact fun w response s hw _ => hWaits w response s hw

theorem triple_isSynced (livoxCLient : Bool) :
    WatcherTriple settings syncGuarantee (fun w => waits w.trace = true)
      (andAlso livoxCLient (call .isSynced))
      fun synced w => synced = false → waits w.trace = true := by
  have hStable : ∀ synced, WatcherStable settings syncGuarantee
      fun w => synced = false → waits w.trace = true :=
    fun _ w w' h hw hSynced => stable_waits settings w w' h (hw hSynced)
  cases livoxCLient with
  | false => exact triple_return false (stable_waits settings) fun _ hw _ => hw
  | true =>
      apply Machine.Triple.perform (stable_waits settings) hStable
      · exact fun _ _ => trivial
      · rintro w synced s hw hPerform rfl
        exact hw

/-- Without success the wait is still the latest which the watcher has done. -/
theorem triple_isLidarSynced (n : Nat) :
    WatcherTriple settings syncGuarantee (fun w => waits w.trace = true) (isLidarSynced n)
      fun synced w => synced = false → waits w.trace = true := by
  induction n with
  | zero => exact triple_return false (stable_waits settings) fun _ hw _ => hw
  | succ n ih =>
      refine (triple_waits settings (.sleepFor 1000) trivial fun _ _ _ hw => hw).bind fun _ => ?_
      refine (triple_waits settings (.isSet .livoxCLientPtr) trivial
        fun _ _ _ hw => hw).bind fun livoxCLient => ?_
      refine (triple_isSynced settings livoxCLient).bind fun synced => ?_
      cases synced with
      | false => exact ih.mono (fun _ hw => hw rfl) fun _ _ hw => hw
      | true =>
          have hStable : WatcherStable settings syncGuarantee
              fun w => true = false → waits w.trace = true := fun _ _ _ _ h => nomatch h
          exact triple_return true hStable fun _ hw => hw

theorem triple_waitForLidarSync :
    WatcherTriple settings syncGuarantee (fun w => waits w.trace = true) waitForLidarSync
      fun _ _ => True := by
  refine (triple_isLidarSynced settings 60).bind fun synced => ?_
  cases synced with
  | false =>
      apply Machine.Triple.perform
      · exact fun w w' h hw hSynced => stable_waits settings w w' h (hw hSynced)
      · exact fun _ => stable_true settings syncGuarantee .watcher
      · exact fun w hw => hw rfl
      · exact fun _ _ _ _ _ => trivial
  | true => exact (triple_return () (stable_true settings syncGuarantee .watcher)
      fun _ hw => hw).mono (fun _ _ => trivial) fun _ _ hw => hw

theorem sync_waitForResources :
    WatcherTriple settings syncGuarantee (fun _ => True) (waitForResources settings locals)
      fun _ _ => True := by
  have hBeep : ∀ durations, (call (.beep durations)).Issues Errorless :=
    fun _ => .perform trivial
  have hSleep : (call (.sleepFor 100)).Issues Errorless := .perform trivial
  have hFirst : (call (.lock .livoxClientPtrLock)).Issues Errorless := .perform trivial
  have hLock : WatcherTriple settings syncGuarantee (fun _ => True)
      (call (.lock .gpioClientPtrLock)) fun _ w => waits w.trace = true := by
    apply Machine.Triple.perform (stable_true settings syncGuarantee .watcher)
      fun _ => stable_waits settings
    · exact fun _ _ => trivial
    · exact fun _ _ _ _ _ => rfl
  have hWait : WatcherTriple settings syncGuarantee (fun w => waits w.trace = true)
      (.when settings.waitForLidarSync waitForLidarSync) fun _ _ => True := by
    apply Machine.Triple.when
    · exact fun _ => triple_waitForLidarSync settings
    · exact fun _ => .done (stable_waits settings) fun _ _ => trivial
  refine (keeps_errorless settings (.when (hBeep [10]))).bind fun _ => ?_
  refine (keeps_errorless settings hSleep).bind fun _ => ?_
  refine (keeps_errorless settings hFirst).bind fun _ => ?_
  refine hLock.bind fun _ => hWait.bind fun _ => keeps_errorless settings ?_
  refine .bind (.perform trivial) fun gpioClient => ?_
  refine .bind (issues_andAlso (.perform trivial)) fun fileSystemClient => ?_
  refine .bind (.when (.bind (.perform trivial) fun _ => .when (hBeep _))) fun _ => ?_
  refine .bind (.perform trivial) fun publisher => .bind (.when (.perform trivial)) fun _ => ?_
  exact .bind (.perform trivial) fun _ => .bind (.perform trivial) fun _ => .done

theorem sync_branches :
    BranchTriples settings syncGuarantee (fun _ _ => True) locals fun _ _ => True := by
  have hKeeps : ∀ {code : Code Locals}, code.Issues Errorless →
      WatcherTriple settings syncGuarantee (fun _ => True) code fun _ _ => True :=
    fun hCode => keeps_errorless settings hCode
  constructor
  case usbIoError => exact hKeeps (issues_usbIoError Calm.errorless settings locals)
  case waitForResources => exact sync_waitForResources settings locals
  case idle => exact hKeeps (issues_idle Calm.errorless settings locals trivial trivial)
  case startingScan =>
    exact hKeeps (issues_startingScan Calm.errorless locals trivial trivial trivial)
  case scanning =>
    intro state _
    exact hKeeps (issues_scanning locals Working.errorless (fun _ => trivial) trivial
      (fun _ => trivial) (fun _ => trivial) fun _ => trivial)
  case stopping =>
    exact hKeeps (issues_stopping locals Working.errorless trivial trivial fun _ => trivial)
  case startingStopScan => exact hKeeps (issues_startingStopScan Calm.errorless locals trivial)
  case stopScanInInitialProgress =>
    exact hKeeps (issues_stopScanInInitialProgress Calm.errorless locals trivial trivial trivial)
  case stopScanInProgress =>
    exact hKeeps (issues_stopScanInProgress Calm.errorless locals trivial)
  case stopingStopScan =>
    exact hKeeps (issues_stopingStopScan locals Working.errorless trivial trivial fun _ => trivial)

end Branches

theorem sync_contract (settings : Settings) :
    (system settings).Contract (guarantee syncGuarantee) Controller.Initial
      (posts fun _ _ => True) := by
  apply contract_of_watcher
  · intro s _
    have hCode : startUp.Issues Errorless :=
      issues_startUp trivial trivial (fun _ => trivial) (fun _ => trivial) trivial
    exact (keeps_errorless settings hCode).mono (fun _ _ => trivial) fun _ _ hw => hw
  · intro locals
    have hTests : Tests settings syncGuarantee (fun _ => True) fun _ _ => True :=
      ⟨stable_true settings syncGuarantee .watcher,
        fun _ => stable_true settings syncGuarantee .watcher, fun _ _ _ => trivial,
        fun _ _ => trivial, fun _ _ _ _ => trivial⟩
    have hShow := keeps_errorless settings (calm_publishState.mono Calm.errorless)
    have hError := keeps_errorless settings
      ((calm_showError settings true false true 10000).mono Calm.errorless)
    exact hTests.round (fun _ _ => ⟨trivial, fun _ _ _ => trivial⟩) hShow hError
      (sync_branches settings locals) (fun _ hw => hw) fun _ hw => hw

/-- If each wait has been entered with a lidar client, the client is there in
the wait and whenever the watcher raises the error. -/
theorem wait_keeps_client {settings : Settings} {s : Controller} (hInitial : s.Initial)
    {c : Configuration Response Local Controller Move} (h : (system settings).Reachable s c)
    (hEntered : ∀ entry ∈ c.world.trace, entersWithoutClient entry = false) :
    ¬(syncWaits settings c.world.trace = true ∧ c.world.state.livoxCLientPtr = none ∧
      ∃ rest, c.code .livox = .call (.lock .livoxClientPtrLock) rest) ∧
    ∀ later before response earlier,
      c.world.trace =
          later ++ (before, .statement .watcher .storeIsLidarError response) :: earlier →
        before.livoxCLientPtr ≠ none := by
  have hLasting := lasting hInitial h
  have hClient : ∀ earlier : Trace, earlier ⊆ c.world.trace → waits earlier = true →
      ∃ entry ∈ earlier, entry.1.livoxCLientPtr ≠ none := by
    intro earlier hSubset hWaits
    obtain ⟨before, response, hEntry⟩ := waits_begun hWaits
    refine ⟨_, hEntry, Option.isSome_iff_ne_none.mp ?_⟩
    simpa [entersWithoutClient] using hEntered _ (hSubset hEntry)
  constructor
  · rintro ⟨hWaits, hNone, -⟩
    obtain ⟨entry, hEntry, hSet⟩ :=
      hClient c.world.trace (List.Subset.refl _) (Bool.and_eq_true_iff.mp hWaits).2
    exact (List.pairwise_cons.mp hLasting).1 _ (List.mem_map_of_mem hEntry) hSet hNone
  · intro later before response earlier hTrace
    have hWaits : waits earlier = true := (sync_contract settings).recorded hInitial h hTrace
    obtain ⟨entry, hEntry, hSet⟩ := hClient earlier (by simp [hTrace]) hWaits
    rw [Lasting, hTrace, List.map_append, List.map_cons, ← List.cons_append] at hLasting
    have hLater := (List.pairwise_append.mp hLasting).2.1
    exact (List.pairwise_cons.mp hLater).1 _ (List.mem_map_of_mem hEntry) hSet

/-- A build which waits for synchronised lidars. -/
def syncSettings : Settings := { plainSettings with waitForLidarSync := true }

theorem wait_keeps_client_created :
    ∃ c, (system syncSettings).run ((system syncSettings).initial (switchedOn true))
      (steps .livox 3 ++ steps .watcher 17) = some c ∧
    syncWaits syncSettings c.world.trace = true ∧
    ¬(syncWaits syncSettings c.world.trace = true ∧ c.world.state.livoxCLientPtr = none ∧
      ∃ rest, c.code .livox = .call (.lock .livoxClientPtrLock) rest) := by
  have hRun : (system syncSettings).run ((system syncSettings).initial (switchedOn true))
      (steps .livox 3 ++ steps .watcher 17) = some _ := rfl
  have hReachable := System.Reachable.initial.run _ hRun
  refine ⟨_, hRun, rfl, ?_⟩
  exact (wait_keeps_client (switchedOn_initial true) hReachable (by decide +kernel)).1

/-- The watcher takes the mutexes first, waits for a client which the Livox
thread cannot create, and raises the error. -/
theorem wait_starves_livox :
    ∃ c d, (system syncSettings).run ((system syncSettings).initial (switchedOn true))
      (steps .watcher 17) = some c ∧
    syncWaits syncSettings c.world.trace = true ∧ c.world.state.livoxCLientPtr = none ∧
    c.world.state.owner .livoxClientPtrLock = some .watcher ∧
    (∃ rest, c.code .livox = .call (.lock .livoxClientPtrLock) rest) ∧
    (system syncSettings).run c (steps .watcher 121) = some d ∧
    d.world.state.isLidarError = true ∧ d.world.state.livoxCLientPtr = none := by
  have hRun : (system syncSettings).run ((system syncSettings).initial (switchedOn true))
      (steps .watcher 17) = some _ := rfl
  exact ⟨_, _, hRun, rfl, rfl, rfl, ⟨_, rfl⟩, rfl, rfl, rfl⟩

end Mandeye.Controller
