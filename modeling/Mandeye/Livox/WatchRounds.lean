import Mandeye.Livox.LockDiscipline

/-! What the watch thread sends in one round. It holds the mutex throughout, so that nothing
which is known of the lidars changes under its hands. It visits the lidars in the order of an
unordered map, which is the order of the list standing for it. -/
namespace Mandeye.LivoxClient.WatchThread

open Interleaving

/-- The statements which change what is known of the lidars. -/
def Changes : Request → Prop
  | .setWorkMode _ _ => True
  | .receiveParam _ _ => True
  | .addLidar _ _ => True
  | _ => False

/-- The commands which the watch thread has sent since it took the mutex. -/
def sendsSinceLock : List (Shared × Label Respond Move) → List (Command × UInt32)
  | [] => []
  | (_, .statement .watch .lock _) :: _ => []
  | (_, .statement .watch (.sendCommand command handle) _) :: earlier =>
      sendsSinceLock earlier ++ [(command, handle)]
  | _ :: earlier => sendsSinceLock earlier

/-- A lidar is asked, and woken up if it is known not to be in normal mode. -/
def commandsFor (client : LivoxClient) (handle : UInt32) : List (Command × UInt32) :=
  (.queryLivoxLidarInternalInfo, handle) ::
    match client.livoxLidarWorkMode.lookup handle with
    | none => []
    | some mode => if mode ≠ kLivoxLidarNormal then [(.setLivoxLidarWorkMode, handle)] else []

/-- The lidars in the order in which the loop visits them. -/
def handles (client : LivoxClient) : List UInt32 :=
  client.handleToSerialNumber.entries.map Sigma.fst

/-- What is to be sent in a round, by what the client knows of the lidars. -/
def round (client : LivoxClient) : List (Command × UInt32) :=
  (handles client).flatMap (commandsFor client)

/-- What is known of the lidars is protected by the mutex, and the watch thread gives it up
after a full round. -/
def protection : Guarantee Respond Shared Move := fun t request w =>
  guarantee t request w ∧ (Changes request → w.state.lidarInfoMutex = some t) ∧
    (request = .unlock → t = .watch → sendsSinceLock w.trace = round w.state.client)

/-- An assertion which is stable without the protection is so with it. -/
theorem stable_protection {t : Thread} {P : World Respond Shared Move → Prop}
    (h : system.Stable guarantee t P) : system.Stable protection t P :=
  fun w w' hStep => h w w' (hStep.mono fun _ _ _ hGuarantee => hGuarantee.1)

section Others

variable {t : Thread} {Result : Type}

/-- Another thread whose code changes nothing protects what is known. -/
theorem triple_protection (ht : t ≠ .watch) {code : Code Result}
    {P : World Respond Shared Move → Prop} {Q : Result → World Respond Shared Move → Prop}
    (h : system.Triple guarantee t P code Q) (hCode : code.Issues fun request => ¬Changes request) :
    system.Triple protection t P code Q := by
  have hSteps : ∀ {w v : World Respond Shared Move},
      Relation.ReflTransGen (system.Interference protection t) w v →
        Relation.ReflTransGen (system.Interference guarantee t) w v := fun hSteps =>
    Relation.ReflTransGen.mono (fun _ _ hStep => hStep.mono fun _ _ _ hGuarantee => hGuarantee.1)
      _ _ hSteps
  have hWp : ∀ w, system.wp guarantee t code Q w → system.wp protection t code Q w := by
    clear h
    induction code with
    | done result => exact fun w hw v hv => hw v (hSteps hv)
    | call request next ih =>
      intro w hw v hv
      obtain ⟨hGuarantee, hNext⟩ := hw v (hSteps hv)
      refine ⟨⟨hGuarantee, fun hChanges => absurd hChanges hCode.1, fun _ hWatch =>
        absurd hWatch ht⟩, fun response state hPerform => ?_⟩
      exact ih response (hCode.2 response) _ (hNext response state hPerform)
  exact fun w hw => hWp w (h w hw)

/-- A change is made by whom the mutex belongs to. -/
theorem protected_change (ht : t ≠ .watch) (request : Request) (hQuiet : Quiet request) :
    system.Triple protection t (Owner true t) (call request) fun _ => Owner true t := by
  refine .perform (stable_protection (stable_owner true t))
    (fun _ => stable_protection (stable_owner true t)) (fun w hOwner => ?_) ?_
  · refine ⟨?_, fun _ => hOwner.1.mpr rfl, fun _ hWatch => absurd hWatch ht⟩
    cases request with
    | lock => exact hQuiet.elim
    | unlock => exact hQuiet.elim
    | _ => exact hOwner.2
  · intro w response state hOwner hPerform
    refine owner_record ?_ ?_ hOwner hPerform fun _ => hQuiet.not_queryFails
    · rintro rfl
      exact hQuiet
    · rintro rfl
      exact hQuiet

theorem protected_return (ht : t ≠ .watch) {held : Bool} {result : Result} :
    system.Triple protection t (Owner held t) (.done result) fun _ => Owner held t :=
  triple_protection ht triple_return trivial

/-- Another thread takes the mutex for a single change. -/
theorem protected_lockGuard (ht : t ≠ .watch) (request : Request) (hQuiet : Quiet request) :
    system.Triple protection t (Owner false t) (lockGuard (call request)) fun _ => Owner false t :=
  (triple_protection ht triple_lock ⟨id, fun _ => trivial⟩).bind fun _ =>
    (protected_change ht request hQuiet).bind fun _ =>
      (triple_protection ht triple_unlock ⟨id, fun _ => trivial⟩).bind fun _ => protected_return ht

theorem protected_quiet (ht : t ≠ .watch) {held : Bool} (request : Request)
    (hQuiet : Quiet request) (hChanges : ¬Changes request) :
    system.Triple protection t (Owner held t) (call request) fun _ => Owner held t :=
  triple_protection ht (triple_quiet request hQuiet) ⟨hChanges, fun _ => trivial⟩

/-- Other threads send without the mutex. -/
theorem protected_query (ht : t ≠ .watch) (handle : UInt32) :
    system.Triple protection t (Owner false t) (queryLivoxLidarInternalInfo handle)
      fun _ => Owner false t := by
  refine .statement (fun _ => Owner false t) (stable_protection (stable_owner false t)) ?_ ?_ ?_
  · exact fun w hOwner => ⟨hOwner.2, nofun, nofun⟩
  · intro w response state hOwner hPerform
    exact owner_record (by simp) (by simp) hOwner hPerform fun h => absurd h ht
  · intro outcome
    exact .when (fun _ => protected_lockGuard ht (.setWorkMode handle (-1)) trivial)
      fun _ => protected_return ht

/-- The SDK's threads change what is known under the mutex only. -/
theorem protected_sdkThread (n : Nat) (parsing : Option Parsing) :
    system.Triple protection (.sdk n) (Owner false (.sdk n)) (sdkThread n parsing)
      fun _ => Owner false (.sdk n) := by
  have ht : Thread.sdk n ≠ .watch := nofun
  cases parsing with
  | some parsing =>
    refine Machine.Triple.bind (Q := fun _ => Owner false (.sdk n)) ?_ fun _ => protected_return ht
    unfold parse
    split_ifs
    · refine Machine.Triple.bind (.when (fun _ => ?_) fun _ => protected_return ht)
        fun _ => protected_return ht
      exact protected_lockGuard ht (.receiveParam parsing.handle _) trivial
    · exact protected_return ht
  | none =>
    refine (protected_quiet ht (.waitForEvent n) trivial id).bind fun event => ?_
    cases event with
    | lidarInfoChange handle info =>
      refine Machine.Triple.bind (Q := fun _ => Owner false (.sdk n)) ?_
        fun _ => protected_return ht
      cases info with
      | none => exact protected_return ht
      | some info =>
        have hWorkMode : system.Triple protection (.sdk n) (Owner false (.sdk n))
            (setLivoxLidarWorkMode handle) fun _ => Owner false (.sdk n) :=
          (protected_quiet ht (.sendCommand .setLivoxLidarWorkMode handle) trivial id).bind
            fun _ => protected_return ht
        exact hWorkMode.bind fun _ => (protected_query ht handle).bind fun _ =>
          protected_lockGuard ht (.addLidar handle info) trivial
    | queryInternalInfo status handle response =>
      refine Machine.Triple.bind (Q := fun _ => Owner false (.sdk n)) ?_
        fun _ => protected_return ht
      unfold queryInternalInfoCallback
      split_ifs
      · exact (protected_lockGuard ht (.setWorkMode handle (-1)) trivial).bind
          fun _ => protected_return ht
      · exact protected_return ht
    | workMode status handle => exact protected_return ht

/-- The recorder changes nothing. -/
theorem protected_recorder :
    system.Triple protection .recorder (Owner false .recorder) recorder
      fun _ => Owner false .recorder := by
  have ht : Thread.recorder ≠ .watch := nofun
  refine (protected_quiet ht .question trivial id).bind fun question => ?_
  cases question with
  | getSerialNumberToLidarIdMapping =>
    exact (protected_lockGuard ht .getSerialNumberToLidarIdMapping trivial).bind
      fun _ => protected_return ht
  | isSynced =>
    exact (protected_lockGuard ht .isSynced trivial).bind fun _ => protected_return ht

end Others

/-- What is known of the lidars is changed by these statements alone. -/
theorem perform_client {t : Thread} {request : Request} {response : request.Response}
    {s s' : Shared} (h : system.perform t request s = .returns response s')
    (hChanges : ¬Changes request) : s'.client = s.client := by
  cases request with
  | lock =>
    simp only [system, perform] at h
    split at h
    · cases h
      rfl
    · cases h
  | waitForEvent n =>
    simp only [system, perform] at h
    split at h
    · cases h
    · cases h
      rfl
  | setWorkMode handle mode => exact absurd trivial hChanges
  | receiveParam handle kv => exact absurd trivial hChanges
  | addLidar handle info => exact absurd trivial hChanges
  | _ =>
    cases h
    rfl

section Watch

/-- The watch thread is in the middle of a round with this client. -/
def Round (client : LivoxClient) (sends : List (Command × UInt32))
    (w : World Respond Shared Move) : Prop :=
  Owner true .watch w ∧ w.state.client = client ∧ sendsSinceLock w.trace = sends

variable {client : LivoxClient} {sends : List (Command × UInt32)}

/-- What other threads send does not count. -/
theorem sendsSinceLock_other {t : Thread} {request : Request} {response : request.Response}
    (ht : t ≠ .watch) (before : Shared) (earlier : List (Shared × Label Respond Move)) :
    sendsSinceLock ((before, .statement t request response) :: earlier) =
      sendsSinceLock earlier := by
  cases t with
  | watch => exact absurd rfl ht
  | sdk n => rfl
  | recorder => rfl

/-- While the watch thread holds the mutex nothing is changed, and it alone sends for
its round. -/
theorem stable_round : system.Stable protection .watch (Round client sends) := by
  intro w w' hStep hRound
  have hOwner := stable_protection (stable_owner true .watch) w w' hStep hRound.1
  cases hStep with
  | @move action state hMove =>
    refine ⟨hOwner, ?_, hRound.2.2⟩
    rw [← hRound.2.1]
    cases action with
    | deliver n event =>
      simp only [system, move] at hMove
      split at hMove
      · cases hMove
        rfl
      · cases hMove
    | network outcome => cases hMove; rfl
    | ask question => cases hMove; rfl
    | done => cases hMove; rfl
  | @statement t request response state hOther hGuarantee hPerform =>
    refine ⟨hOwner, ?_, ?_⟩
    · rw [← hRound.2.1]
      refine perform_client hPerform fun hChanges => hOther ?_
      have hHolder := hGuarantee.2.1 hChanges
      rw [hRound.1.1.mpr rfl] at hHolder
      exact (Option.some.inj hHolder).symm
    · exact (sendsSinceLock_other hOther _ _).trans hRound.2.2

/-- A statement of the round which only reads or sends. -/
theorem round_record {request : Request} {w : World Respond Shared Move}
    {response : request.Response} {state : Shared} (hLock : request ≠ .lock)
    (hUnlock : request ≠ .unlock) (hChanges : ¬Changes request) (hRound : Round client sends w)
    (hPerform : system.perform .watch request w.state = .returns response state)
    (hAnswer : queryFails (.statement .watch request response) = false) :
    Round client
      (sendsSinceLock ((w.state, .statement .watch request response) :: w.trace))
      (w.record (.statement .watch request response) state) :=
  ⟨owner_record hLock hUnlock hRound.1 hPerform fun _ => hAnswer,
    (perform_client hPerform hChanges).trans hRound.2.1, rfl⟩

theorem watch_return {Result : Type} {result : Result} :
    system.Triple protection .watch (Round client sends) (.done result)
      fun _ => Round client sends :=
  .done stable_round fun _ h => h

/-- Nothing after a failed query is ever executed. -/
theorem watch_stuck {handle : UInt32} {Q : Unit → World Respond Shared Move → Prop} :
    system.Triple protection .watch (Stuck .watch) (queryInternalInfoFailed handle) Q := by
  refine .statement (fun _ _ => False) (stable_protection (stable_stuck .watch)) ?_ ?_
    fun _ => .of_false fun _ => id
  · rintro w ⟨-, hOwner, hDirty⟩
    exact ⟨⟨fun _ => ⟨rfl, hDirty⟩, fun _ => hOwner⟩, nofun, nofun⟩
  · rintro w response state ⟨-, hOwner, -⟩ hPerform
    rcases perform_lidarInfoMutex hPerform with ⟨-, hBefore, -⟩ | ⟨h, -⟩ | ⟨h, -, -⟩
    · cases hOwner.symm.trans hBefore
    · cases h
    · exact absurd rfl h

/-- A query is sent. When it fails the thread waits for itself, and its round never ends. -/
theorem watch_query (handle : UInt32) :
    system.Triple protection .watch (Round client sends) (queryLivoxLidarInternalInfo handle)
      fun _ => Round client (sends ++ [(.queryLivoxLidarInternalInfo, handle)]) := by
  refine .statement
    (fun outcome w => if outcome = .failed then Stuck .watch w
      else Round client (sends ++ [(.queryLivoxLidarInternalInfo, handle)]) w)
    stable_round (fun w h => ⟨h.1.2, nofun, nofun⟩) ?_ ?_
  · intro w outcome state hRound hPerform
    split_ifs with hOutcome
    · refine ⟨rfl, ?_, fun hClean => ?_⟩
      · cases hPerform
        exact hRound.1.1.mpr rfl
      · subst hOutcome
        cases (clean_record.mp hClean).1
    · have hRecord := round_record (by simp) (by simp) id hRound hPerform (by
        cases outcome with
        | failed => exact absurd rfl hOutcome
        | refused => rfl
        | sent => rfl)
      rw [← hRound.2.2]
      exact hRecord
  · intro outcome
    refine .when (fun h => ?_) (fun h => ?_)
    · simpa [of_decide_eq_true h] using watch_stuck
    · simpa [of_decide_eq_false h] using watch_return

/-- A lidar in another mode is to be asked and woken up. -/
theorem commandsFor_awake {handle : UInt32}
    (h : ((client.livoxLidarWorkMode.lookup handle).isSome &&
      decide (client.livoxLidarWorkMode.lookup handle ≠ some kLivoxLidarNormal)) = true) :
    commandsFor client handle =
      [(.queryLivoxLidarInternalInfo, handle), (.setLivoxLidarWorkMode, handle)] := by
  unfold commandsFor
  cases hMode : client.livoxLidarWorkMode.lookup handle with
  | none => simp [hMode] at h
  | some mode =>
    have hOther : mode ≠ kLivoxLidarNormal := by simpa [hMode] using h
    simp only [if_pos hOther]

/-- One which is awake, or not known, is only asked. -/
theorem commandsFor_normal {handle : UInt32}
    (h : ((client.livoxLidarWorkMode.lookup handle).isSome &&
      decide (client.livoxLidarWorkMode.lookup handle ≠ some kLivoxLidarNormal)) = false) :
    commandsFor client handle = [(.queryLivoxLidarInternalInfo, handle)] := by
  unfold commandsFor
  cases hMode : client.livoxLidarWorkMode.lookup handle with
  | none => rfl
  | some mode =>
    have hNormal : mode = kLivoxLidarNormal := by simpa [hMode] using h
    simp only [hNormal, ne_eq, not_true_eq_false, if_false]

/-- One lidar takes its part in the round. -/
theorem watch_lidar (handle : UInt32) :
    system.Triple protection .watch (Round client sends) (watchLidar handle)
      fun _ => Round client (sends ++ commandsFor client handle) := by
  refine (watch_query handle).bind fun _ => ?_
  refine .statement (fun mode w => mode = client.livoxLidarWorkMode.lookup handle ∧
    Round client (sends ++ [(.queryLivoxLidarInternalInfo, handle)]) w) stable_round
    (fun w h => ⟨h.1.2, nofun, nofun⟩) ?_ fun mode => .of_fact fun hMode => ?_
  · intro w mode state hRound hPerform
    have hRecord := round_record (by simp) (by simp) id hRound hPerform rfl
    refine ⟨?_, hRecord.1, hRecord.2.1, hRound.2.2⟩
    cases hPerform
    rw [hRound.2.1]
  · refine .when (fun h => ?_) fun h => ?_
    · refine .statement (fun _ => Round client (sends ++ commandsFor client handle)) stable_round
        (fun w h => ⟨h.1.2, nofun, nofun⟩) ?_ fun _ => watch_return
      intro w outcome state hRound hPerform
      have hRecord := round_record (by simp) (by simp) id hRound hPerform rfl
      refine ⟨hRecord.1, hRecord.2.1, ?_⟩
      change sendsSinceLock w.trace ++ [(.setLivoxLidarWorkMode, handle)] = _
      rw [hRound.2.2, commandsFor_awake (hMode ▸ h), List.append_assoc, List.singleton_append]
    · refine .done stable_round fun w hRound => ?_
      rw [commandsFor_normal (hMode ▸ h)]
      exact hRound

/-- The induction is on the lidars which are left. -/
theorem watch_lidars (rest : List UInt32) (sends : List (Command × UInt32)) :
    system.Triple protection .watch (Round client sends) (watchLidars rest)
      fun _ => Round client (sends ++ rest.flatMap (commandsFor client)) := by
  induction rest generalizing sends with
  | nil =>
    rw [List.flatMap_nil, List.append_nil]
    exact watch_return
  | cons handle rest ih =>
    rw [List.flatMap_cons, ← List.append_assoc]
    exact (watch_lidar handle).bind fun _ => ih _

/-- With the mutex a round begins. -/
theorem watch_lock :
    system.Triple protection .watch (Owner false .watch) (call .lock)
      fun _ w => ∃ client, Round client [] w := by
  refine .perform (stable_protection (stable_owner false .watch))
    (fun _ => .exists fun _ => stable_round) (fun w hFree => ⟨?_, nofun, nofun⟩) ?_
  · simp only [guarantee, hFree.1, Bool.false_eq_true, true_and, false_iff, not_not]
    exact hFree.2 rfl
  · intro w response state hFree hPerform
    rcases perform_lidarInfoMutex hPerform with ⟨-, -, hAfter⟩ | ⟨h, -⟩ | ⟨h, -, -⟩
    · refine ⟨state.client, ⟨by simp [World.record, hAfter], fun ht => ?_⟩, rfl, rfl⟩
      exact clean_record.mpr ⟨rfl, hFree.2 ht⟩
    · cases h
    · exact absurd rfl h

/-- The whole loop is one round. -/
theorem watch_body (client : LivoxClient) :
    system.Triple protection .watch (Round client [])
      (call .handleToSerialNumber >>= watchLidars) fun _ => Round client (round client) := by
  refine .statement (fun known w => known = handles client ∧ Round client [] w) stable_round
    (fun w h => ⟨h.1.2, nofun, nofun⟩) ?_ fun known => .of_fact fun hKnown => ?_
  · intro w known state hRound hPerform
    have hRecord := round_record (by simp) (by simp) id hRound hPerform rfl
    refine ⟨?_, hRecord.1, hRecord.2.1, hRound.2.2⟩
    cases hPerform
    rw [← hRound.2.1]
    rfl
  · subst hKnown
    exact watch_lidars _ _

/-- After a full round the mutex is given up. -/
theorem watch_unlock {Result : Type} {result : Result} :
    system.Triple protection .watch (Round client (round client))
      (call .unlock >>= fun _ => return result) fun _ => Owner false .watch := by
  refine .statement (fun _ => Owner false .watch) stable_round (fun w hRound => ?_) ?_
    fun _ => .done (stable_protection (stable_owner false .watch)) fun _ h => h
  · refine ⟨⟨hRound.1.1.mpr rfl, hRound.1.2⟩, nofun, fun _ _ => ?_⟩
    rw [hRound.2.1, hRound.2.2]
  · intro w response state hRound hPerform
    cases hPerform
    exact ⟨by simp [World.record], fun ht => clean_record.mpr ⟨rfl, hRound.1.2 ht⟩⟩

/-- A pass of the thread either ends it or makes a round. -/
theorem watch_testThread :
    system.Triple protection .watch (Owner false .watch) testThread
      fun _ => Owner false .watch := by
  have hOwner := stable_protection (stable_owner false .watch)
  refine .statement (fun _ => Owner false .watch) hOwner (fun w h => ⟨h.2, nofun, nofun⟩)
    (fun w isDone state hFree hPerform => ?_) fun isDone => ?_
  · exact owner_record (by simp) (by simp) hFree hPerform fun _ => rfl
  · cases isDone with
    | true => exact .done hOwner fun _ h => h
    | false =>
      refine Machine.Triple.bind (Q := fun _ => Owner false .watch) ?_
        fun _ => .done hOwner fun _ h => h
      exact watch_lock.bind fun _ => .of_exists fun client =>
        (watch_body client).bind fun _ => watch_unlock

end Watch

/-- All threads keep to the protection. -/
theorem protection_contract : system.Contract protection (fun s => s.lidarInfoMutex = none)
    fun t _ => Owner false t := by
  constructor
  · rintro t state hState w rfl
    have hOwner : Owner false t ⟨state, []⟩ := ⟨by simp [hState], fun _ => by simp [Clean]⟩
    have hStable := stable_protection (stable_owner false t)
    cases t with
    | watch => exact Machine.Triple.done hStable (fun _ h => h) _ hOwner
    | sdk n => exact Machine.Triple.done hStable (fun _ h => h) _ hOwner
    | recorder => exact Machine.Triple.done hStable (fun _ h => h) _ hOwner
  · intro t locals
    cases t with
    | watch => exact watch_testThread
    | sdk n => exact protected_sdkThread n locals
    | recorder => exact protected_recorder

/-- Whenever the watch thread gives up the mutex, it has asked every lidar whose serial number
is known since it took the mutex, and woken up exactly those which are known to be in another
than the normal mode, in the order in which the client holds them. -/
theorem rounds_complete {state : Shared} (hState : state.lidarInfoMutex = none)
    {c : Configuration Respond Local Shared Move} (h : system.Reachable state c)
    {later earlier : List (Shared × Label Respond Move)} {before : Shared}
    (hTrace : c.world.trace = later ++ (before, .statement .watch .unlock ()) :: earlier) :
    sendsSinceLock earlier = round before.client :=
  (protection_contract.recorded hState h hTrace).2.2 rfl rfl

/-- Two lidars are known, and the work mode of neither. -/
def twoLidars : Shared :=
  let client := (oneLidar .sent).client
  { oneLidar .sent with
    client := client.lidarInfoChangeCallback 8 ⟨9, "47MDL9T0020194", "192.168.1.194"⟩ }

/-- A lidar answers with its work mode. -/
def workModeAnswer (handle : UInt32) (mode : UInt8) : Event :=
  .queryInternalInfo kLivoxLidarStatusSuccess handle
    (some ⟨0, 1, fun i => [0x1A, 0, 1, 0, mode].getD i 0⟩)

/-- The first lidar says that it is in standby and the second one that it is awake. While the
watch thread asks them, the SDK is told that a query has timed out, and has to wait. -/
def timedOutRound : List (Choice Thread Move) :=
  [.move (.deliver 0 (workModeAnswer 7 3)), .move (.deliver 1 (workModeAnswer 8 1))] ++
    steps (.sdk 0) 8 ++ steps (.sdk 1) 8 ++ steps .watch 4 ++
    [.move (.deliver 1 (.queryInternalInfo (-4) 8 none))] ++ steps (.sdk 1) 1 ++ steps .watch 6

theorem rounds_complete_timedOut : ∃ c before earlier, system.Reachable twoLidars c ∧
    c.world.trace = (before, .statement .watch .unlock ()) :: earlier ∧
    sendsSinceLock earlier = [(.queryLivoxLidarInternalInfo, 8),
      (.queryLivoxLidarInternalInfo, 7), (.setLivoxLidarWorkMode, 7)] := by
  have hReachable : system.Reachable twoLidars _ :=
    System.Reachable.run .initial timedOutRound rfl
  refine ⟨_, _, _, hReachable, rfl, ?_⟩
  exact @rounds_complete twoLidars rfl _ hReachable [] _ _ rfl

end Mandeye.LivoxClient.WatchThread
