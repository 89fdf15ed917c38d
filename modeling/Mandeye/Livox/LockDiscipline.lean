import Mandeye.Livox.WatchThread

/-! Who holds `m_lidarInfoMutex`, and who asks for it. The SDK calls back on the
thread which sends when `sendto` fails, and the watch loop sends its queries
while it holds the mutex. -/
namespace Mandeye.LivoxClient.WatchThread

open Interleaving

/-- A query which the watch loop sends fails in `sendto`. -/
def queryFails : Label Respond Move → Bool
  | .statement .watch (.sendCommand .queryLivoxLidarInternalInfo _) .failed => true
  | _ => false

theorem queryFails_iff {label : Label Respond Move} : queryFails label = true ↔
    ∃ handle, label = .statement .watch (.sendCommand .queryLivoxLidarInternalInfo handle)
      SendOutcome.failed := by
  constructor
  · intro h
    unfold queryFails at h
    split at h
    · exact ⟨_, rfl⟩
    · cases h
  · rintro ⟨handle, rfl⟩
    rfl

/-- So far every query of the watch loop was sent or refused. -/
def Clean (w : World Respond Shared Move) : Prop := ∀ entry ∈ w.trace, queryFails entry.2 = false

/-- Once a query of the watch loop has failed, its thread holds the mutex and
asks for it again. Until then nobody asks for a mutex which he holds. -/
def guarantee : Guarantee Respond Shared Move
  | t, .lock, w => w.state.lidarInfoMutex = some t ↔ t = .watch ∧ ¬Clean w
  | t, .unlock, w => w.state.lidarInfoMutex = some t ∧ (t = .watch → Clean w)
  | t, _, w => t = .watch → Clean w

/-- Whether thread `t` holds the mutex, with nothing amiss so far. -/
def Owner (held : Bool) (t : Thread) (w : World Respond Shared Move) : Prop :=
  (w.state.lidarInfoMutex = some t ↔ held = true) ∧ (t = .watch → Clean w)

/-- The watch thread waits for itself. -/
def Stuck (t : Thread) (w : World Respond Shared Move) : Prop :=
  t = .watch ∧ w.state.lidarInfoMutex = some .watch ∧ ¬Clean w

theorem clean_record {w : World Respond Shared Move} {label : Label Respond Move}
    {state : Shared} : Clean (w.record label state) ↔ queryFails label = false ∧ Clean w := by
  simp [Clean, World.record]

theorem not_queryFails_of_ne {t : Thread} {request : Request} {response : request.Response}
    (ht : t ≠ .watch) : queryFails (.statement t request response) = false := by
  refine Bool.eq_false_iff.mpr fun h => ?_
  obtain ⟨handle, h⟩ := queryFails_iff.mp h
  cases h
  exact ht rfl

/-- Whether the history is clean is up to the watch thread. -/
theorem clean_interference {w w' : World Respond Shared Move}
    (h : system.Interference guarantee .watch w w') : Clean w' ↔ Clean w := by
  obtain ⟨hMove⟩ | ⟨hOther, -, -⟩ := h
  · rw [clean_record]
    exact and_iff_right rfl
  · rw [clean_record]
    exact and_iff_right (not_queryFails_of_ne hOther)

/-- A move of the surroundings leaves the mutex alone. -/
theorem move_lidarInfoMutex {action : Move} {s s' : Shared} (h : move action s = some s') :
    s'.lidarInfoMutex = s.lidarInfoMutex := by
  cases action with
  | deliver n event =>
      simp only [move] at h
      split at h
      · cases h
        rfl
      · cases h
  | network outcome => cases h; rfl
  | ask question => cases h; rfl
  | done => cases h; rfl

/-- Only the two statements on the mutex change its owner. -/
theorem perform_lidarInfoMutex {t : Thread} {request : Request} {response : request.Response}
    {s s' : Shared} (h : system.perform t request s = .returns response s') :
    (request = .lock ∧ s.lidarInfoMutex = none ∧ s'.lidarInfoMutex = some t) ∨
    (request = .unlock ∧ s'.lidarInfoMutex = none) ∨
    (request ≠ .lock ∧ request ≠ .unlock ∧ s'.lidarInfoMutex = s.lidarInfoMutex) := by
  cases request with
  | lock =>
      simp only [system, perform] at h
      split at h
      · rename_i hFree
        cases h
        exact .inl ⟨rfl, hFree, rfl⟩
      · cases h
  | unlock =>
      cases h
      exact .inr (.inl ⟨rfl, rfl⟩)
  | waitForEvent n =>
      simp only [system, perform] at h
      split at h
      · cases h
      · cases h
        exact .inr (.inr ⟨nofun, nofun, rfl⟩)
  | _ =>
      cases h
      exact .inr (.inr ⟨nofun, nofun, rfl⟩)

/-- The other threads neither take the mutex from a thread nor give it to one. -/
theorem interference_lidarInfoMutex {t : Thread} {w w' : World Respond Shared Move}
    (h : system.Interference guarantee t w w') :
    w'.state.lidarInfoMutex = some t ↔ w.state.lidarInfoMutex = some t := by
  obtain ⟨hMove⟩ | ⟨hOther, hGuarantee, hPerform⟩ := h
  · rw [World.record, move_lidarInfoMutex hMove]
  · rename_i u request response state
    rcases perform_lidarInfoMutex hPerform with ⟨rfl, hBefore, hAfter⟩ | ⟨rfl, hAfter⟩ |
      ⟨-, -, hSame⟩
    · simp [World.record, hBefore, hAfter, hOther]
    · simp [World.record, hAfter, hGuarantee.1, hOther]
    · rw [World.record, hSame]

/-- Other threads send no query for the watch loop. -/
theorem interference_clean {t : Thread} {w w' : World Respond Shared Move}
    (h : system.Interference guarantee t w w') :
    (t = .watch → Clean w') ↔ (t = .watch → Clean w) := by
  constructor
  · rintro hClean rfl
    exact (clean_interference h).mp (hClean rfl)
  · rintro hClean rfl
    exact (clean_interference h).mpr (hClean rfl)

theorem stable_owner (held : Bool) (t : Thread) :
    system.Stable guarantee t (Owner held t) := by
  intro w w' h hOwner
  exact ⟨(interference_lidarInfoMutex h).trans hOwner.1, (interference_clean h).mpr hOwner.2⟩

/-- A thread which waits for itself does so for ever. -/
theorem stable_stuck (t : Thread) : system.Stable guarantee t (Stuck t) := by
  rintro w w' h ⟨rfl, hOwner, hDirty⟩
  exact ⟨rfl, (interference_lidarInfoMutex h).mpr hOwner, fun hClean =>
    hDirty ((clean_interference h).mp hClean)⟩

/-- The statements which leave the mutex alone and are no queries. -/
def Quiet : Request → Prop
  | .lock => False
  | .unlock => False
  | .sendCommand .queryLivoxLidarInternalInfo _ => False
  | _ => True

theorem Quiet.not_queryFails {t : Thread} {request : Request} {response : request.Response}
    (hQuiet : Quiet request) : queryFails (.statement t request response) = false := by
  refine Bool.eq_false_iff.mpr fun h => ?_
  obtain ⟨handle, h⟩ := queryFails_iff.mp h
  cases h
  exact hQuiet

/-- A statement which leaves the mutex alone and is no failing query of the
watch loop. -/
theorem owner_record {held : Bool} {t : Thread} {request : Request} {w : World Respond Shared Move}
    {response : request.Response} {state : Shared} (hLock : request ≠ .lock)
    (hUnlock : request ≠ .unlock) (hOwner : Owner held t w)
    (hPerform : system.perform t request w.state = .returns response state)
    (hAnswer : t = .watch → queryFails (.statement t request response) = false) :
    Owner held t (w.record (.statement t request response) state) := by
  rcases perform_lidarInfoMutex hPerform with ⟨h, -, -⟩ | ⟨h, -⟩ | ⟨-, -, hSame⟩
  · exact absurd h hLock
  · exact absurd h hUnlock
  · refine ⟨?_, fun ht => clean_record.mpr ⟨hAnswer ht, hOwner.2 ht⟩⟩
    rw [World.record, hSame]
    exact hOwner.1

section Triples

variable {held : Bool} {t : Thread} {Result : Type}

theorem triple_return {result : Result} :
    system.Triple guarantee t (Owner held t) (.done result) fun _ => Owner held t :=
  .done (stable_owner held t) fun _ h => h

theorem triple_lock :
    system.Triple guarantee t (Owner false t) (call .lock) fun _ => Owner true t := by
  refine .perform (stable_owner false t) (fun _ => stable_owner true t) ?_ ?_
  · intro w hFree
    simp only [guarantee, hFree.1, Bool.false_eq_true, false_iff, not_and, not_not]
    exact hFree.2
  · intro w response state hFree hPerform
    rcases perform_lidarInfoMutex hPerform with ⟨-, -, hAfter⟩ | ⟨h, -⟩ | ⟨h, -, -⟩
    · refine ⟨by simp [World.record, hAfter], fun ht => ?_⟩
      exact clean_record.mpr ⟨by cases t <;> rfl, hFree.2 ht⟩
    · cases h
    · exact absurd rfl h

theorem triple_unlock :
    system.Triple guarantee t (Owner true t) (call .unlock) fun _ => Owner false t := by
  refine .perform (stable_owner true t) (fun _ => stable_owner false t) ?_ ?_
  · intro w hHeld
    exact ⟨hHeld.1.mpr rfl, hHeld.2⟩
  · intro w response state hHeld hPerform
    cases hPerform
    exact ⟨by simp [World.record], fun ht => clean_record.mpr ⟨by cases t <;> rfl, hHeld.2 ht⟩⟩

theorem triple_quiet (request : Request) (hQuiet : Quiet request) :
    system.Triple guarantee t (Owner held t) (call request) fun _ => Owner held t := by
  refine .perform (stable_owner held t) (fun _ => stable_owner held t) ?_ ?_
  · intro w hOwner
    cases request with
    | lock => exact hQuiet.elim
    | unlock => exact hQuiet.elim
    | _ => exact hOwner.2
  · intro w response state hOwner hPerform
    refine owner_record ?_ ?_ hOwner hPerform fun _ => hQuiet.not_queryFails
    · rintro rfl
      exact hQuiet
    · rintro rfl
      exact hQuiet

/-- The mutex is held inside the guarded block and is free behind it. -/
theorem triple_lockGuard {body : Code Result}
    (hBody : system.Triple guarantee t (Owner true t) body fun _ => Owner true t) :
    system.Triple guarantee t (Owner false t) (lockGuard body) fun _ => Owner false t :=
  triple_lock.bind fun _ => hBody.bind fun _ => triple_unlock.bind fun _ => triple_return

/-- The callback takes the mutex and gives it back. -/
theorem triple_queryInternalInfoFailed (handle : UInt32) :
    system.Triple guarantee t (Owner false t) (queryInternalInfoFailed handle)
      fun _ => Owner false t :=
  triple_lockGuard (triple_quiet (.setWorkMode handle (-1)) trivial)

/-- Nothing after the failure is ever executed. -/
theorem triple_stuck {handle : UInt32} {Q : Unit → World Respond Shared Move → Prop} :
    system.Triple guarantee .watch (Stuck .watch) (queryInternalInfoFailed handle) Q := by
  refine .statement (fun _ _ => False) (stable_stuck .watch) ?_ ?_ fun _ => .of_false fun _ => id
  · rintro w ⟨-, hOwner, hDirty⟩
    exact ⟨fun _ => ⟨rfl, hDirty⟩, fun _ => hOwner⟩
  · rintro w response state ⟨-, hOwner, -⟩ hPerform
    rcases perform_lidarInfoMutex hPerform with ⟨-, hBefore, -⟩ | ⟨h, -⟩ | ⟨h, -, -⟩
    · cases hOwner.symm.trans hBefore
    · cases h
    · exact absurd rfl h

/-- A query which is sent without the mutex may fail: its callback finds the mutex
free of its own thread. -/
theorem triple_query (ht : t ≠ .watch) (handle : UInt32) :
    system.Triple guarantee t (Owner false t) (queryLivoxLidarInternalInfo handle)
      fun _ => Owner false t := by
  refine .statement (fun _ => Owner false t) (stable_owner false t) (fun _ h => h.2) ?_ ?_
  · intro w response state hOwner hPerform
    exact owner_record (by simp) (by simp) hOwner hPerform fun h => absurd h ht
  · intro outcome
    exact .when (fun _ => triple_queryInternalInfoFailed handle) fun _ => triple_return

/-- The query of the watch loop is sent with the mutex held. If it fails, the callback
asks for the mutex once more, and nothing comes after that. -/
theorem triple_query_watch (handle : UInt32) :
    system.Triple guarantee .watch (Owner true .watch) (queryLivoxLidarInternalInfo handle)
      fun _ => Owner true .watch := by
  refine .statement
    (fun outcome w => if outcome = .failed then Stuck .watch w else Owner true .watch w)
    (stable_owner true .watch) (fun _ h => h.2) ?_ ?_
  · intro w outcome state hOwner hPerform
    have hState : state = w.state := by
      cases hPerform
      rfl
    split_ifs with hOutcome
    · refine ⟨rfl, ?_, fun hClean => ?_⟩
      · rw [World.record, hState]
        exact hOwner.1.mpr rfl
      · subst hOutcome
        cases (clean_record.mp hClean).1
    · refine owner_record (by simp) (by simp) hOwner hPerform fun _ => ?_
      cases outcome with
      | failed => exact absurd rfl hOutcome
      | refused => rfl
      | sent => rfl
  · intro outcome
    refine .when (fun h => ?_) (fun h => ?_)
    · simpa [of_decide_eq_true h] using triple_stuck
    · simpa [of_decide_eq_false h] using triple_return

theorem triple_watchLidar (handle : UInt32) :
    system.Triple guarantee .watch (Owner true .watch) (watchLidar handle)
      fun _ => Owner true .watch := by
  refine (triple_query_watch handle).bind fun _ =>
    (triple_quiet (.findWorkMode handle) trivial).bind fun mode => ?_
  refine .when (fun _ => ?_) fun _ => triple_return
  exact (triple_quiet (.sendCommand .setLivoxLidarWorkMode handle) trivial).bind
    fun _ => triple_return

theorem triple_watchLidars (handles : List UInt32) :
    system.Triple guarantee .watch (Owner true .watch) (watchLidars handles)
      fun _ => Owner true .watch := by
  induction handles with
  | nil => exact triple_return
  | cons handle rest ih => exact (triple_watchLidar handle).bind fun _ => ih

theorem triple_testThread :
    system.Triple guarantee .watch (Owner false .watch) testThread fun _ => Owner false .watch := by
  refine (triple_quiet .isDone trivial).bind fun isDone => ?_
  cases isDone with
  | true => exact triple_return
  | false =>
      refine (triple_lockGuard ?_).bind fun _ => triple_return
      exact (triple_quiet .handleToSerialNumber trivial).bind triple_watchLidars

theorem triple_lidarInfoChangeCallback (ht : t ≠ .watch) (handle : UInt32)
    (info : Option LivoxLidarInfo) :
    system.Triple guarantee t (Owner false t) (lidarInfoChangeCallback handle info)
      fun _ => Owner false t := by
  cases info with
  | none => exact triple_return
  | some info =>
      have hWorkMode : system.Triple guarantee t (Owner false t) (setLivoxLidarWorkMode handle)
          fun _ => Owner false t :=
        (triple_quiet (.sendCommand .setLivoxLidarWorkMode handle) trivial).bind
          fun _ => triple_return
      exact hWorkMode.bind fun _ => (triple_query ht handle).bind fun _ =>
        triple_lockGuard (triple_quiet (.addLidar handle info) trivial)

theorem triple_parse (parsing : Parsing) :
    system.Triple guarantee t (Owner false t) (parse parsing) fun _ => Owner false t := by
  unfold parse
  split_ifs
  · refine Machine.Triple.bind (.when (fun _ => ?_) fun _ => triple_return) fun _ => triple_return
    exact triple_lockGuard (triple_quiet (.receiveParam parsing.handle _) trivial)
  · exact triple_return

theorem triple_queryInternalInfoCallback (status : Int32) (handle : UInt32)
    (response : Option LivoxLidarDiagInternalInfoResponse) :
    system.Triple guarantee t (Owner false t) (queryInternalInfoCallback status handle response)
      fun _ => Owner false t := by
  unfold queryInternalInfoCallback
  split_ifs
  · exact (triple_queryInternalInfoFailed handle).bind fun _ => triple_return
  · exact triple_return

theorem triple_sdkThread (n : Nat) (parsing : Option Parsing) :
    system.Triple guarantee (.sdk n) (Owner false (.sdk n)) (sdkThread n parsing)
      fun _ => Owner false (.sdk n) := by
  cases parsing with
  | some parsing => exact (triple_parse parsing).bind fun _ => triple_return
  | none =>
      refine (triple_quiet (.waitForEvent n) trivial).bind fun event => ?_
      cases event with
      | lidarInfoChange handle info =>
          exact (triple_lidarInfoChangeCallback (by simp) handle info).bind fun _ => triple_return
      | queryInternalInfo status handle response =>
          exact (triple_queryInternalInfoCallback status handle response).bind
            fun _ => triple_return
      | workMode status handle => exact triple_return

theorem triple_recorder :
    system.Triple guarantee .recorder (Owner false .recorder) recorder
      fun _ => Owner false .recorder := by
  refine (triple_quiet .question trivial).bind fun question => ?_
  cases question with
  | getSerialNumberToLidarIdMapping =>
      exact (triple_lockGuard (triple_quiet .getSerialNumberToLidarIdMapping trivial)).bind
        fun _ => triple_return
  | isSynced =>
      exact (triple_lockGuard (triple_quiet .isSynced trivial)).bind fun _ => triple_return

end Triples

/-- Each thread starts without the mutex and keeps the discipline. -/
theorem contract : system.Contract guarantee (fun s => s.lidarInfoMutex = none)
    fun t _ => Owner false t := by
  constructor
  · rintro t state hState w rfl
    have hOwner : Owner false t ⟨state, []⟩ := ⟨by simp [hState], fun _ => by simp [Clean]⟩
    cases t with
    | watch => exact triple_return _ hOwner
    | sdk n => exact triple_return _ hOwner
    | recorder => exact triple_return _ hOwner
  · intro t locals
    cases t with
    | watch => exact triple_testThread
    | sdk n => exact triple_sdkThread n locals
    | recorder => exact triple_recorder

/-- At every point of a run no thread is about to lock the mutex while holding
it, exactly when no query sent by the watch loop has failed in `sendto`. -/
theorem lidarInfoMutex_discipline {state : Shared} (hState : state.lidarInfoMutex = none)
    {c : Configuration Respond Local Shared Move} (h : system.Reachable state c) :
    (∀ t rest, c.code t = .call .lock rest → c.world.state.lidarInfoMutex ≠ some t) ↔
      ∀ entry ∈ c.world.trace, queryFails entry.2 = false := by
  constructor
  · intro hDiscipline
    by_contra hDirty
    cases hCode : c.code .watch with
    | done locals => exact hDirty ((contract.at_end hState h hCode).2 rfl)
    | call request rest =>
        have hGuarantee := contract.at_statement hState h hCode
        cases request with
        | lock => exact hDiscipline .watch rest hCode (hGuarantee.mpr ⟨rfl, hDirty⟩)
        | unlock => exact hDirty (hGuarantee.2 rfl)
        | _ => exact hDirty (hGuarantee rfl)
  · intro hClean t rest hCode hOwner
    exact ((contract.at_statement hState h hCode).mp hOwner).2 hClean

/-- One known lidar; every command gets the given outcome. -/
def oneLidar (outcome : SendOutcome) : Shared where
  client := LivoxClient.new.lidarInfoChangeCallback 7 ⟨9, "47MDL9T0020193", "192.168.1.193"⟩
  isDone := false
  lidarInfoMutex := none
  network _ _ := outcome
  pending _ := none
  question := .isSynced

theorem lidarInfoMutex_discipline_sent :
    ∃ c, system.run (system.initial (oneLidar .sent)) (.replicate 6 (.run .watch)) = some c ∧
      ∀ t rest, c.code t = .call .lock rest → c.world.state.lidarInfoMutex ≠ some t := by
  have hRun : system.run (system.initial (oneLidar .sent)) (.replicate 6 (.run .watch)) =
      some _ := rfl
  have hReachable := System.Reachable.initial.run _ hRun
  refine ⟨_, hRun, (lidarInfoMutex_discipline (by rfl) hReachable).mpr ?_⟩
  decide

/-- The watch thread has sent its query without success and waits for itself. -/
theorem lidarInfoMutex_locked_twice :
    ∃ c, system.Reachable (oneLidar .failed) c ∧
      (∃ rest, c.code .watch = .call .lock rest) ∧
      c.world.state.lidarInfoMutex = some .watch :=
  ⟨_, System.Reachable.run .initial (.replicate 5 (.run .watch)) rfl, ⟨_, rfl⟩, rfl⟩

end Mandeye.LivoxClient.WatchThread
