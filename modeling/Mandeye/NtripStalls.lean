import Mathlib.Algebra.GroupWithZero.Nat
import Mandeye.NtripReconnects

/-! What the client waits for. The watchdog is set by the first data of a connection, so
it guards all reads of the stream but the first one. -/
namespace Mandeye.NtripReconnects.NtripClient

/-- Data have been read on the connection, when a handler has run. -/
def heard (c : NtripClient) (before : Bool) : Event → Bool
  | .run =>
      match c.ready.head? with
      | some (.activity a ending) => a = .streamRead && (before || c.passes a ending)
      | some (.reconnect _) => before
      | some (.watchdog _) => before
      | none => before
  | .network _ _ => before
  | .reconnectExpiry => before
  | .watchdogExpiry => before

/-- Data have been read on the connection after these events. -/
def received (c : NtripClient) (before : Bool) : List Event → Bool
  | [] => before
  | event :: later => (c.next event).received (c.heard before event) later

/-- Only the network can bring the client on: no timer is set, and no handler which
does something is ready. -/
structure Waits (c : NtripClient) : Prop where
  reconnectWait : c.reconnectWait = false
  watchdogWait : c.watchdogWait = false
  queue : c.queue = []

/-- The event is about something which is there. -/
def Happens (c : NtripClient) : Event → Prop
  | .network a _ => a ∈ c.pending
  | .reconnectExpiry => c.reconnectWait = true
  | .watchdogExpiry => c.watchdogWait = true
  | .run => c.ready ≠ []

/-- Events which happen, in time, while the network is silent. -/
def Alone (c : NtripClient) : List Event → Prop
  | [] => True
  | event :: later => (∀ a failed, event ≠ .network a failed) ∧ c.Happens event ∧
      c.Prompt event ∧ (c.next event).Alone later

section Guard

variable {c : NtripClient} {event : Event} {handler : Handler} {rest : List Handler} {before : Bool}

/-- The watchdog is set, or its handler is ready. -/
def Guarded (c : NtripClient) : Prop := c.watchdogWait = true ∨ .watchdog false ∈ c.queue

/-- The stream is read, or the handler of a read is ready, and no reconnect is due. -/
def Reading (c : NtripClient) : Prop :=
  c.reconnectWait = false ∧
    (.streamRead ∈ c.pending ∨ ∃ ending, .activity .streamRead ending ∈ c.queue)

/-- While the stream is read, the watchdog guards it exactly if there have been data. -/
structure Told (c : NtripClient) (received : Bool) : Prop where
  chain : c.Chain
  guarded : c.Reading → (received = true ↔ c.Guarded)

theorem next_run (hReady : c.ready = handler :: rest) :
    c.next .run = { c with ready := rest }.handle handler := by
  simp [next, hReady]

/-- No operation is pending while a reconnect is due. -/
theorem Chain.pending_of_wait (h : c.Chain) (hWait : c.reconnectWait = true) :
    c.pending = [] := by
  cases h with
  | pending a n hPending hNone => simp [hNone] at hWait
  | ended a ending m n hPending => exact hPending
  | closed hClosed => exact hClosed.pending
  | waiting n hPending => exact hPending
  | expired hPending => exact hPending

theorem not_reading_of_wait (hWait : c.reconnectWait = true) : ¬c.Reading := fun h => by
  simp [h.1] at hWait

@[simp] theorem reconnectWait_initiate (a : Activity) :
    (c.initiate a).reconnectWait = c.reconnectWait := by
  unfold initiate post
  cases a with
  | resolve => rfl
  | connect => rfl
  | requestWrite | headerRead | streamRead =>
      dsimp only
      split <;> rfl

@[simp] theorem watchdogWait_initiate (a : Activity) :
    (c.initiate a).watchdogWait = c.watchdogWait := by
  unfold initiate post
  cases a with
  | resolve => rfl
  | connect => rfl
  | requestWrite | headerRead | streamRead =>
      dsimp only
      split <;> rfl

theorem mem_queue_initiate {a : Activity} (h : handler ∈ (c.initiate a).queue) :
    handler ∈ c.queue ∨ handler = .activity a .failure := by
  unfold initiate at h
  cases a with
  | resolve => exact .inl h
  | connect => exact .inl h
  | requestWrite | headerRead | streamRead =>
      dsimp only at h
      split at h
      · exact .inl h
      · rw [queue_post] at h
        exact (List.mem_append.mp h).imp_right fun hNew =>
          List.mem_singleton.mp (List.mem_filter.mp hNew).1

theorem reconnectWait_giveUp (a : Activity) : (c.giveUp a).reconnectWait = true := by
  cases a <;> rfl

theorem mem_pending_initiate {a b : Activity} (h : b ∈ (c.initiate a).pending) :
    b ∈ c.pending ∨ b = a := by
  unfold initiate post at h
  cases a with
  | resolve | connect => simpa using h
  | requestWrite | headerRead | streamRead =>
      dsimp only at h
      split at h
      · simpa using h
      · exact .inl h

/-- Only a read of the stream makes the client read. -/
theorem not_reading_initiate {a : Activity} (hRead : a ≠ .streamRead) (hPending : c.pending = [])
    (hQueue : c.queue = []) : ¬(c.initiate a).Reading := by
  rintro ⟨-, hMem | ⟨ending, hMem⟩⟩
  · rcases mem_pending_initiate hMem with hOld | hNew
    · simp [hPending] at hOld
    · exact hRead hNew.symm
  · rcases mem_queue_initiate hMem with hOld | hNew
    · simp [hQueue] at hOld
    · cases hNew
      exact hRead rfl

/-- The handler of an activity which has succeeded goes on to read the stream without
the watchdog, or to read on with it. -/
theorem guarded_proceed {a : Activity} {n : Nat} (hPending : c.pending = [])
    (hQueue : c.queue = expiries n) (hWatched : c.Watched a n)
    (hReading : (c.proceed a).Reading) : a = .streamRead ↔ (c.proceed a).Guarded := by
  by_cases hRead : a = .streamRead
  · subst hRead
    exact iff_of_true rfl (.inl (watchdogWait_initiate _))
  · obtain ⟨rfl, hOff⟩ := hWatched.resolve_left hRead
    have hOther : ∀ b, b ≠ .streamRead → ¬(c.initiate b).Reading :=
      fun b hb => not_reading_initiate hb hPending hQueue
    refine iff_of_false hRead ?_
    cases a with
    | resolve => exact absurd hReading (hOther .connect (by decide))
    | connect => exact absurd hReading (hOther .requestWrite (by decide))
    | requestWrite => exact absurd hReading (hOther .headerRead (by decide))
    | headerRead =>
        rintro (hWait | hMem)
        · exact absurd ((watchdogWait_initiate _).symm.trans hWait) (by simp [hOff])
        · rcases mem_queue_initiate hMem with hOld | hNew
          · simp [hQueue] at hOld
          · cases hNew
    | streamRead => exact absurd rfl hRead

/-- When the client connects again, nothing else is left to do. -/
theorem Chain.reconnect (h : (c.beforeRun (.reconnect false)).Chain) :
    c.pending = [] ∧ c.queue = [] := by
  have hCons := @queue_beforeRun c (.reconnect false) rfl
  cases h with
  | pending a n hPending hWait hQueue =>
      obtain ⟨k, -, hHandler, -⟩ := expiries_eq_cons (hQueue.symm.trans hCons)
      cases hHandler
  | ended a ending m n hPending hWait hQueue =>
      rcases expiries_append_eq_cons (hQueue.symm.trans hCons) with
        ⟨-, hFirst⟩ | ⟨k, -, hHandler, -⟩
      · cases (List.cons.inj hFirst).1
      · cases hHandler
  | closed hClosed =>
      obtain ⟨ending, m, n, hQueue⟩ := hClosed.queue
      rcases expiries_append_eq_cons (hQueue.symm.trans hCons) with
        ⟨-, hFirst⟩ | ⟨k, -, hHandler, -⟩
      · cases (List.cons.inj hFirst).1
      · cases hHandler
  | waiting n hPending hWatchdog hWait hQueue =>
      obtain ⟨k, -, hHandler, -⟩ := expiries_eq_cons (hQueue.symm.trans hCons)
      cases hHandler
  | expired hPending hWatchdog hWait hQueue =>
      exact ⟨hPending, (List.cons.inj (hQueue.symm.trans hCons)).2.symm⟩

/-- When the handler of an activity runs, nothing is pending. -/
theorem Chain.activity {a : Activity} {ending : Ending}
    (h : (c.beforeRun (.activity a ending)).Chain) :
    c.pending = [] ∧ (c.reconnectWait = true ∨ ∃ n, c.queue = expiries n ∧ c.Watched a n) := by
  have hCons := @queue_beforeRun c (.activity a ending) rfl
  cases h with
  | pending b n hPending hWait hQueue =>
      obtain ⟨k, -, hHandler, -⟩ := expiries_eq_cons (hQueue.symm.trans hCons)
      cases hHandler
  | ended b other m n hPending hWait hQueue hWatched =>
      rcases expiries_append_eq_cons (hQueue.symm.trans hCons) with
        ⟨rfl, hFirst⟩ | ⟨k, -, hHandler, -⟩
      · obtain ⟨hSame, hRest⟩ := List.cons.inj hFirst
        cases hSame
        rw [Nat.zero_add] at hWatched
        exact ⟨hPending, .inr ⟨n, hRest.symm, hWatched⟩⟩
      · cases hHandler
  | closed hClosed => exact ⟨hClosed.pending, .inl hClosed.reconnectWait⟩
  | waiting n hPending hWatchdog hWait => exact ⟨hPending, .inl hWait⟩
  | expired hPending hWatchdog hWait hQueue =>
      cases (List.cons.inj (hQueue.symm.trans hCons)).1

theorem reconnectWait_proceed (a : Activity) :
    (c.proceed a).reconnectWait = c.reconnectWait := by
  cases a with
  | streamRead => exact reconnectWait_initiate _
  | _ => exact reconnectWait_initiate _

/-- After a handler which does something, the watchdog is set exactly if data have
been read. -/
theorem Told.handle (h : (c.beforeRun handler).Told before) (hLive : live handler = true)
    (hReading : (c.handle handler).Reading) :
    (c.beforeRun handler).heard before .run = true ↔ (c.handle handler).Guarded := by
  cases handler with
  | reconnect aborted =>
      obtain rfl : aborted = false := by simpa [live] using hLive
      obtain ⟨hPending, hQueue⟩ := h.chain.reconnect
      have hRead : Activity.resolve ≠ .streamRead := by decide
      exact absurd hReading (not_reading_initiate hRead hPending hQueue)
  | watchdog aborted =>
      obtain rfl : aborted = false := by simpa [live] using hLive
      exact absurd hReading (not_reading_of_wait rfl)
  | activity a ending =>
      have hHandle : c.handle (.activity a ending) =
          if c.passes a ending then c.proceed a else c.giveUp a := rfl
      rw [hHandle] at hReading ⊢
      cases hPasses : c.passes a ending with
      | false =>
          rw [hPasses, if_neg Bool.false_ne_true] at hReading
          exact absurd hReading (not_reading_of_wait (reconnectWait_giveUp a))
      | true =>
          rw [hPasses, if_pos rfl] at hReading
          have hHeard : (c.beforeRun (.activity a ending)).heard before .run =
              decide (a = .streamRead) := by
            have hSame : (c.beforeRun (.activity a ending)).passes a ending = true := hPasses
            simp [heard, beforeRun] at hSame ⊢
            simp [hSame]
          rw [hHeard, if_pos rfl, decide_eq_true_eq]
          obtain ⟨hPending, hWait | ⟨n, hQueue, hWatched⟩⟩ := h.chain.activity
          · exact absurd hReading
              (not_reading_of_wait ((reconnectWait_proceed a).trans hWait))
          · exact guarded_proceed hPending hQueue hWatched hReading

/-- An operation which ends leaves the watchdog as it was. -/
theorem Told.network (h : c.Told before) {a : Activity} (ending : Ending) (hMem : a ∈ c.pending) :
    ({ c.post [.activity a ending] with pending := c.pending.erase a } : NtripClient).Reading →
      (before = true ↔ ({ c.post [.activity a ending] with
        pending := c.pending.erase a } : NtripClient).Guarded) := by
  have hQueue : ({ c.post [.activity a ending] with
      pending := c.pending.erase a } : NtripClient).queue = c.queue ++ [.activity a ending] :=
    queue_post [.activity a ending]
  rintro ⟨hWait, hRead⟩
  have hReading : c.Reading := by
    refine ⟨hWait, ?_⟩
    rcases hRead with hPending | ⟨other, hReady⟩
    · exact .inl (List.mem_of_mem_erase hPending)
    · rw [hQueue, List.mem_append, List.mem_singleton] at hReady
      rcases hReady with hOld | hNew
      · exact .inr ⟨other, hOld⟩
      · cases hNew
        exact .inl hMem
  rw [h.guarded hReading, Guarded, Guarded, hQueue]
  simp [post]

/-- The handler of the watchdog, once ready, guards the stream as the timer did. -/
theorem Told.watchdogExpiry (h : c.Told before) (hSet : c.watchdogWait = true) :
    ({ c.post [.watchdog false] with watchdogWait := false } : NtripClient).Reading →
      (before = true ↔
        ({ c.post [.watchdog false] with watchdogWait := false } : NtripClient).Guarded) := by
  have hQueue : ({ c.post [.watchdog false] with
      watchdogWait := false } : NtripClient).queue = c.queue ++ [.watchdog false] :=
    queue_post [.watchdog false]
  rintro ⟨hWait, hRead⟩
  have hReading : c.Reading := by
    refine ⟨hWait, hRead.imp_right fun ⟨ending, hReady⟩ => ⟨ending, ?_⟩⟩
    simpa [hQueue] using hReady
  refine iff_of_true ((h.guarded hReading).mpr (.inl hSet)) (.inr ?_)
  simp [hQueue]

/-- When the reconnect timer ends, the stream is not being read. -/
theorem Told.reconnectExpiry (h : c.Told before) (hPrompt : c.Prompt .reconnectExpiry)
    (hSet : c.reconnectWait = true) :
    ¬({ c.post [.reconnect false] with reconnectWait := false } : NtripClient).Reading := by
  have hQueue : ({ c.post [.reconnect false] with
      reconnectWait := false } : NtripClient).queue = c.queue ++ [.reconnect false] :=
    queue_post [.reconnect false]
  rintro ⟨-, hMem | ⟨ending, hMem⟩⟩
  · change Activity.streamRead ∈ c.pending at hMem
    simp [h.chain.pending_of_wait hSet] at hMem
  · rw [hQueue, hPrompt.queue_eq_nil hSet] at hMem
    simp at hMem

/-- The handler of a timer which was cancelled changes nothing. -/
theorem Told.dequeue (h : (c.beforeRun handler).Told before) (hLive : live handler = false) :
    (c.handle handler).Reading →
      ((c.beforeRun handler).heard before .run = true ↔ (c.handle handler).Guarded) := by
  have hQueue := queue_beforeRun_of_cancelled (c := c) hLive
  have hHeard : (c.beforeRun handler).heard before .run = before := by
    cases handler with
    | activity a ending => cases hLive
    | reconnect aborted => rfl
    | watchdog aborted => rfl
  rw [handle_of_cancelled hLive, hHeard]
  have hGuarded := h.guarded
  unfold Reading Guarded at hGuarded ⊢
  rw [hQueue] at hGuarded
  exact hGuarded

/-- Every event keeps the watchdog in step with the data. -/
theorem Told.next (h : c.Told before) (hPrompt : c.Prompt event) :
    (c.next event).Told (c.heard before event) := by
  refine ⟨h.chain.next hPrompt, ?_⟩
  cases event with
  | network a failed =>
      rw [NtripClient.next]
      split
      · rename_i hMem
        exact h.network _ hMem
      · exact h.guarded
  | reconnectExpiry =>
      rw [NtripClient.next]
      split
      · rename_i hSet
        exact fun hReading => absurd hReading (h.reconnectExpiry hPrompt hSet)
      · exact h.guarded
  | watchdogExpiry =>
      rw [NtripClient.next]
      split
      · rename_i hSet
        exact h.watchdogExpiry hSet
      · exact h.guarded
  | run =>
      cases hReady : c.ready with
      | nil =>
          have hSame : c.next .run = c := by simp [NtripClient.next, hReady]
          have hHeard : c.heard before .run = before := by simp [heard, hReady]
          rw [hSame, hHeard]
          exact h.guarded
      | cons handler rest =>
          rw [next_run hReady]
          rw [← beforeRun_rest hReady] at h ⊢
          cases hLive : live handler with
          | false => exact h.dequeue hLive
          | true => exact h.handle hLive

end Guard

section Stalls

variable {c : NtripClient} {callback before : Bool} {events : List Event}

/-- Whatever happens in time, the watchdog stays in step with the data. -/
theorem Told.goOn (h : c.Told before) (hTimely : c.Timely events) :
    (c.goOn events).Told (c.received before events) := by
  induction events generalizing c before with
  | nil => exact h
  | cons event events ih => exact ih (h.next hTimely.head) hTimely.tail

theorem told_start (callback : Bool) : (start callback).Told false := by
  refine ⟨chain_start callback, fun hReading => ?_⟩
  obtain ⟨-, hMem | ⟨ending, hMem⟩⟩ := hReading
  · cases hMem with
    | tail _ hMem => cases hMem
  · cases hMem

/-- With the watchdog in step, the client waits exactly while one operation is pending
and no data guard it. -/
theorem Told.waiting_iff (h : c.Told before) :
    c.Waits ↔ ∃ a, c.pending = [a] ∧ (a = .streamRead → before = false) := by
  constructor
  · intro hWaits
    have hNone : ¬c.Guarded := by simp [Guarded, hWaits.watchdogWait, hWaits.queue]
    cases h.chain with
    | pending a n hPending hWait hQueue hWatched =>
        refine ⟨a, hPending, fun hRead => ?_⟩
        subst hRead
        have hReading : c.Reading := ⟨hWait, .inl (by simp [hPending])⟩
        simpa [hNone] using h.guarded hReading
    | ended a ending m n hPending hWait hQueue => simp [hWaits.queue] at hQueue
    | closed hClosed => exact absurd hClosed.reconnectWait (by simp [hWaits.reconnectWait])
    | waiting n hPending hWatchdog hWait => simp [hWaits.reconnectWait] at hWait
    | expired hPending hWatchdog hWait hQueue => simp [hWaits.queue] at hQueue
  · rintro ⟨a, hPending, hData⟩
    cases h.chain with
    | pending b n hOnly hWait hQueue hWatched =>
        obtain rfl := List.singleton_inj.mp (hOnly.symm.trans hPending)
        have hQuiet : n = 0 ∧ c.watchdogWait = false := by
          by_cases hRead : b = .streamRead
          · have hReading : c.Reading := ⟨hWait, .inl (by simp [hPending, hRead])⟩
            have hNone : ¬c.Guarded := fun hGuarded => by
              simpa [hData hRead] using (h.guarded hReading).mpr hGuarded
            refine ⟨?_, Bool.eq_false_iff.mpr fun hSet => hNone (.inl hSet)⟩
            cases n with
            | zero => rfl
            | succ k => exact absurd (.inr (by simp [hQueue, expiries_succ])) hNone
          · exact hWatched.resolve_left hRead
        refine ⟨hWait, hQuiet.2, ?_⟩
        rw [hQueue, hQuiet.1]
        rfl
    | ended b ending m n hNone => simp [hPending] at hNone
    | closed hClosed => exact absurd hClosed.pending (by simp [hPending])
    | waiting n hNone => simp [hPending] at hNone
    | expired hNone => simp [hPending] at hNone

/-- The client waits for the network alone exactly while it resolves, connects, sends
its request, or reads the header or the first data of a connection. -/
theorem waits_iff (callback : Bool) (events : List Event) (h : (start callback).Timely events) :
    (after callback events).Waits ↔ ∃ a, (after callback events).pending = [a] ∧
      (a = .streamRead → (start callback).received false events = false) :=
  ((told_start callback).goOn h).waiting_iff

/-- The client waits for the first data, but not for the next ones. -/
theorem waits_iff_silentCaster :
    (after true (silentCaster.take 8)).Waits ∧ ¬(after true (silentCaster.take 10)).Waits := by
  constructor
  · exact (waits_iff true _ (by decide)).mpr ⟨.streamRead, by decide, fun _ => by decide⟩
  · rw [waits_iff true _ (by decide)]
    rintro ⟨a, hPending, hData⟩
    have hRead : (after true (silentCaster.take 10)).pending = [.streamRead] := by decide
    have hSome : (start true).received false (silentCaster.take 10) = true := by decide
    obtain rfl := List.singleton_inj.mp (hRead.symm.trans hPending)
    simp [hSome] at hData

end Stalls

section Silence

variable {c : NtripClient} {event : Event} {handler : Handler} {rest : List Handler}
  {silence : List Event}

/-- What the handler may still cause while the network is silent. -/
def weight : Handler → Nat
  | .activity _ .success => 11
  | .activity _ .failure => 4
  | .activity _ .aborted => 4
  | .reconnect _ => 1
  | .watchdog aborted => if aborted then 1 else 4

/-- A bound on the number of events while the network is silent. -/
def rank (c : NtripClient) : Nat :=
  (c.ready.map weight).sum + 4 * (c.pending.filter (· ≠ .resolve)).length +
    2 * c.reconnectWait.toNat + 5 * c.watchdogWait.toNat

@[simp] theorem rank_post (handlers : List Handler) :
    (c.post handlers).rank = c.rank + (handlers.map weight).sum := by
  simp only [rank, post, List.map_append, List.sum_append]
  omega

theorem rank_beforeRun : (c.beforeRun handler).rank = c.rank + weight handler := by
  simp only [rank, beforeRun, List.map_cons, List.sum_cons]
  omega

theorem rank_cancelTimer : c.cancelTimer.rank + c.reconnectWait.toNat = c.rank := by
  cases hWait : c.reconnectWait <;> simp [cancelTimer, rank, post, hWait, weight]
  omega

theorem rank_stopWatchdog : c.stopWatchdog.rank + 4 * c.watchdogWait.toNat = c.rank := by
  cases hWait : c.watchdogWait <;> simp [stopWatchdog, rank, post, hWait, weight]
  omega

theorem rank_scheduleReconnect_le : c.scheduleReconnect.rank ≤ c.rank + 2 := by
  have hCancel := @rank_cancelTimer c
  have hOff : c.cancelTimer.reconnectWait = false := rfl
  rw [scheduleReconnect]
  simp only [rank, hOff, Bool.toNat_false, Bool.toNat_true] at hCancel ⊢
  omega

theorem rank_startWatchdog_le : c.startWatchdog.rank ≤ c.rank + 5 := by
  have hStop := @rank_stopWatchdog c
  have hOff : c.stopWatchdog.watchdogWait = false := rfl
  rw [startWatchdog]
  simp only [rank, hOff, Bool.toNat_false, Bool.toNat_true] at hStop ⊢
  omega

/-- The handlers of the operations which are aborted weigh as much as these do. -/
theorem rank_closeSocket : c.closeSocket.rank = c.rank := by
  have hAborted : ∀ pending : List Activity,
      ((pending.map (Handler.activity · .aborted)).map weight).sum = 4 * pending.length := by
    intro pending
    induction pending with
    | nil => rfl
    | cons a rest ih =>
        rw [List.map_cons, List.map_cons, List.sum_cons, ih, List.length_cons, weight]
        omega
  have hNone : ((c.pending.filter (· = .resolve)).filter (· ≠ .resolve)) = [] := by
    simp [List.filter_filter]
  rw [closeSocket]
  simp only [rank, post, List.map_append, List.sum_append, hAborted, hNone, List.length_nil]
  omega

theorem rank_stop_le : c.stop.rank ≤ c.rank := by
  have hTimer := @rank_cancelTimer c.closeSocket
  have hWatchdog := @rank_stopWatchdog c.closeSocket.cancelTimer
  rw [rank_closeSocket] at hTimer
  rw [stop]
  omega

theorem rank_initiate_le (a : Activity) : (c.initiate a).rank ≤ c.rank + 4 := by
  have hUsing : (if c.isOpen then { c with pending := c.pending ++ [a] }
      else c.post [.activity a .failure]).rank ≤ c.rank + 4 := by
    split
    · simp only [rank, List.filter_append, List.length_append]
      have hOne : ([a].filter (· ≠ .resolve)).length ≤ 1 := List.length_filter_le _ _
      omega
    · simp [weight]
  cases a with
  | resolve => simp [initiate, rank, List.filter_append]
  | connect =>
      simp [initiate, rank, List.filter_append]
      omega
  | requestWrite | headerRead | streamRead => exact hUsing

theorem rank_giveUp_le (a : Activity) : (c.giveUp a).rank ≤ c.rank + 2 := by
  cases a with
  | streamRead =>
      have hWatchdog := @rank_stopWatchdog c
      have hSchedule := @rank_scheduleReconnect_le c.stopWatchdog
      rw [giveUp]
      omega
  | _ => exact rank_scheduleReconnect_le

theorem rank_proceed_le (a : Activity) : (c.proceed a).rank ≤ c.rank + 9 := by
  have hOther : ∀ b, (c.initiate b).rank ≤ c.rank + 9 :=
    fun b => (rank_initiate_le b).trans (by omega)
  cases a with
  | streamRead =>
      have hStart := @rank_startWatchdog_le c
      have hRead := @rank_initiate_le c.startWatchdog .streamRead
      exact hRead.trans (by omega)
  | _ => exact hOther _

/-- A handler causes less than it weighs. -/
theorem rank_handle_lt : (c.handle handler).rank < c.rank + weight handler := by
  cases handler with
  | activity a ending =>
      rw [handle]
      split
      · rename_i hPasses
        have hSuccess : ending = .success := by
          simp only [passes, Bool.and_eq_true, decide_eq_true_eq] at hPasses
          exact hPasses.1
        have hProceed := @rank_proceed_le c a
        rw [hSuccess, weight]
        omega
      · have hGiveUp := @rank_giveUp_le c a
        have hWeight : 4 ≤ weight (.activity a ending) := by
          cases ending <;> simp [weight]
        omega
  | reconnect aborted =>
      cases aborted with
      | true => exact Nat.lt_succ_self c.rank
      | false =>
          have hSame : (c.initiate .resolve).rank = c.rank := by
            simp [initiate, rank, List.filter_append]
          exact Nat.lt_succ_of_le hSame.le
  | watchdog aborted =>
      cases aborted with
      | true => exact Nat.lt_succ_self c.rank
      | false =>
          have hStop := @rank_stop_le c
          have hSchedule := @rank_scheduleReconnect_le c.stop
          change c.stop.scheduleReconnect.rank < c.rank + 4
          omega

/-- While the network is silent, every event which happens uses up some of the rank. -/
theorem rank_next_lt (hSilent : ∀ a failed, event ≠ .network a failed)
    (hHappens : c.Happens event) : (c.next event).rank < c.rank := by
  cases event with
  | network a failed => exact absurd rfl (hSilent a failed)
  | reconnectExpiry =>
      change c.reconnectWait = true at hHappens
      rw [next, if_pos hHappens]
      simp only [rank, post, List.map_append, List.sum_append, hHappens, Bool.toNat_true,
        Bool.toNat_false, List.map_cons, List.map_nil, List.sum_cons, List.sum_nil, weight]
      omega
  | watchdogExpiry =>
      change c.watchdogWait = true at hHappens
      rw [next, if_pos hHappens]
      simp only [rank, post, List.map_append, List.sum_append, hHappens, Bool.toNat_true,
        Bool.toNat_false, List.map_cons, List.map_nil, List.sum_cons, List.sum_nil, weight,
        Bool.false_eq_true, if_false]
      omega
  | run =>
      obtain ⟨handler, rest, hReady⟩ := List.exists_cons_of_ne_nil hHappens
      rw [next_run hReady]
      have hBefore := @rank_beforeRun { c with ready := rest } handler
      rw [beforeRun_rest hReady] at hBefore
      rw [hBefore]
      exact rank_handle_lt

/-- Each event in the silence lowers the rank. -/
theorem Alone.length_le (h : c.Alone silence) : silence.length ≤ c.rank := by
  induction silence generalizing c with
  | nil => exact Nat.zero_le _
  | cons event later ih =>
      obtain ⟨hSilent, hHappens, -, hLater⟩ := h
      have hLess := rank_next_lt hSilent hHappens
      have hRest := ih hLater
      rw [List.length_cons]
      omega

/-- The silence goes on by one event which happens in time. -/
theorem alone_concat : c.Alone (silence ++ [event]) ↔ c.Alone silence ∧
    (∀ a failed, event ≠ .network a failed) ∧ (c.goOn silence).Happens event ∧
      (c.goOn silence).Prompt event := by
  induction silence generalizing c with
  | nil => simp [Alone, goOn]
  | cons first later ih =>
      have hGoOn : c.goOn (first :: later) = (c.next first).goOn later := rfl
      rw [List.cons_append, Alone, ih, hGoOn, Alone]
      tauto

/-- The connection is given up and made again. -/
inductive Silent (c : NtripClient) : Prop
  | reading (n : Nat) (hPending : c.pending = [.streamRead]) (hWait : c.reconnectWait = false)
      (hQueue : c.queue = expiries n) (hGuarded : c.watchdogWait = true ∨ 0 < n)
  | closed (h : c.Closed)
  | waiting (n : Nat) (hPending : c.pending = []) (hWatchdog : c.watchdogWait = false)
      (hWait : c.reconnectWait = true) (hQueue : c.queue = expiries n)
  | expired (hPending : c.pending = []) (hWatchdog : c.watchdogWait = false)
      (hWait : c.reconnectWait = false) (hQueue : c.queue = [.reconnect false])
  | resolving (hPending : c.pending = [.resolve]) (hWatchdog : c.watchdogWait = false)
      (hWait : c.reconnectWait = false) (hQueue : c.queue = [])

/-- Where a reconnect is due, the connection is being made again. -/
theorem Silent.of_wait (h : c.Chain) (hWait : c.reconnectWait = true) : c.Silent := by
  cases h with
  | pending a n hPending hNone => simp [hNone] at hWait
  | ended a ending m n hPending hNone => simp [hNone] at hWait
  | closed hClosed => exact .closed hClosed
  | waiting n hPending hWatchdog hSet hQueue => exact .waiting n hPending hWatchdog hSet hQueue
  | expired hPending hWatchdog hNone => simp [hNone] at hWait

theorem Silent.chain (h : c.Silent) : c.Chain := by
  cases h with
  | reading n hPending hWait hQueue => exact .pending .streamRead n hPending hWait hQueue (.inl rfl)
  | closed hClosed => exact .closed hClosed
  | waiting n hPending hWatchdog hWait hQueue => exact .waiting n hPending hWatchdog hWait hQueue
  | expired hPending hWatchdog hWait hQueue => exact .expired hPending hWatchdog hWait hQueue
  | resolving hPending hWatchdog hWait hQueue =>
      exact .pending .resolve 0 hPending hWait hQueue (.inr ⟨rfl, hWatchdog⟩)

theorem Silent.dequeue (h : (c.beforeRun handler).Silent) (hLive : live handler = false) :
    c.Silent := by
  have hSame := (queue_beforeRun_of_cancelled (c := c) hLive).symm
  cases h with
  | reading n hPending hWait hQueue hGuarded =>
      exact .reading n hPending hWait (hSame.trans hQueue) hGuarded
  | closed hClosed => exact .closed (hClosed.dequeue hLive)
  | waiting n hPending hWatchdog hWait hQueue =>
      exact .waiting n hPending hWatchdog hWait (hSame.trans hQueue)
  | expired hPending hWatchdog hWait hQueue =>
      exact .expired hPending hWatchdog hWait (hSame.trans hQueue)
  | resolving hPending hWatchdog hWait hQueue =>
      exact .resolving hPending hWatchdog hWait (hSame.trans hQueue)

theorem reconnectWait_of_rearms (h : (c.beforeRun handler).rearms .run = true) :
    (c.handle handler).reconnectWait = true := by
  cases handler with
  | activity a ending =>
      have hFails : c.passes a ending = false := by
        have hGivesUp : (!c.passes a ending) = true := h
        simpa using hGivesUp
      have hHandle : c.handle (.activity a ending) = c.giveUp a := by simp [handle, hFails]
      rw [hHandle]
      exact reconnectWait_giveUp a
  | reconnect aborted => cases h
  | watchdog aborted =>
      obtain rfl : aborted = false := by simpa [rearms, beforeRun] using h
      rfl

/-- Without the network no handler leads back to reading the stream. -/
theorem Silent.handle (h : (c.beforeRun handler).Silent) (hLive : live handler = true) :
    (c.handle handler).Silent := by
  have hCons := queue_beforeRun (c := c) hLive
  have hChain := h.chain.handle hLive
  cases h with
  | reading n hPending hWait hQueue hGuarded =>
      obtain ⟨k, -, rfl, -⟩ := expiries_eq_cons (hQueue.symm.trans hCons)
      exact .of_wait hChain rfl
  | closed hClosed =>
      rcases hClosed.handle hLive with hStill | ⟨hRearms, -⟩
      · exact .closed hStill
      · exact .of_wait hChain (reconnectWait_of_rearms hRearms)
  | waiting n hPending hWatchdog hWait hQueue =>
      obtain ⟨k, -, rfl, -⟩ := expiries_eq_cons (hQueue.symm.trans hCons)
      exact .of_wait hChain rfl
  | expired hPending hWatchdog hWait hQueue =>
      obtain ⟨rfl, hRest⟩ := List.cons.inj (hQueue.symm.trans hCons)
      refine .resolving ?_ hWatchdog hWait hRest.symm
      change c.pending ++ [.resolve] = [.resolve]
      change c.pending = [] at hPending
      rw [hPending, List.nil_append]
  | resolving hPending hWatchdog hWait hQueue => cases hQueue.symm.trans hCons

/-- The next event keeps the silence, unless it is the network's. -/
theorem Silent.next (h : c.Silent) (hSilent : ∀ a failed, event ≠ .network a failed)
    (hPrompt : c.Prompt event) : (c.next event).Silent := by
  cases event with
  | network a failed => exact absurd rfl (hSilent a failed)
  | reconnectExpiry =>
      rw [NtripClient.next]
      split
      · rename_i hSet
        cases h with
        | reading n hPending hWait => simp [hWait] at hSet
        | closed hClosed => exact absurd rfl (hClosed.next hPrompt).1
        | waiting n hPending hWatchdog hWait hQueue =>
            refine .expired hPending hWatchdog rfl ?_
            show (c.post _).queue = _
            rw [queue_post, hPrompt.queue_eq_nil hWait]
            rfl
        | expired hPending hWatchdog hWait => simp [hWait] at hSet
        | resolving hPending hWatchdog hWait => simp [hWait] at hSet
      · exact h
  | watchdogExpiry =>
      rw [NtripClient.next]
      split
      · rename_i hSet
        cases h with
        | reading n hPending hWait hQueue hGuarded =>
            refine .reading (n + 1) hPending hWait ?_ (.inr (Nat.succ_pos n))
            rw [← expiries_concat, ← hQueue]
            exact queue_post [.watchdog false]
        | closed hClosed =>
            have hNext := (hClosed.next hPrompt).2
            rw [NtripClient.next, if_pos hSet] at hNext
            exact hNext.elim .closed fun hRearms => by cases hRearms.1
        | waiting n hPending hWatchdog => simp [hWatchdog] at hSet
        | expired hPending hWatchdog => simp [hWatchdog] at hSet
        | resolving hPending hWatchdog => simp [hWatchdog] at hSet
      · exact h
  | run =>
      cases hReady : c.ready with
      | nil =>
          have hSame : c.next .run = c := by simp [NtripClient.next, hReady]
          rw [hSame]
          exact h
      | cons handler rest =>
          rw [next_run hReady]
          rw [← beforeRun_rest hReady] at h
          cases hLive : live handler with
          | false =>
              rw [handle_of_cancelled hLive]
              exact h.dequeue hLive
          | true => exact h.handle hLive

theorem Silent.goOn (h : c.Silent) (hAlone : c.Alone silence) : (c.goOn silence).Silent := by
  induction silence generalizing c with
  | nil => exact h
  | cons event later ih =>
      obtain ⟨hSilent, -, hPrompt, hLater⟩ := hAlone
      exact ih (h.next hSilent hPrompt) hLater

/-- If nothing can happen any more, the client resolves the host again. -/
theorem Silent.resolves (h : c.Silent)
    (hEnd : ∀ event, (∀ a failed, event ≠ .network a failed) → c.Prompt event →
      ¬c.Happens event) : c.pending = [.resolve] := by
  have hReady : c.ready = [] := not_not.mp (hEnd .run nofun nofun)
  have hWatchdog : c.watchdogWait = false :=
    Bool.eq_false_iff.mpr (hEnd .watchdogExpiry nofun nofun)
  have hReconnect : c.reconnectWait = false := by
    refine Bool.eq_false_iff.mpr (hEnd .reconnectExpiry nofun fun _ _ handler hMem => ?_)
    simp [hReady] at hMem
  have hNone : c.queue = [] := by simp [queue, hReady]
  cases h with
  | reading n hPending hWait hQueue hGuarded =>
      have hEmpty : expiries n = [] := hQueue.symm.trans hNone
      have hZero : n = 0 := by simpa [expiries] using hEmpty
      simp [hWatchdog, hZero] at hGuarded
  | closed hClosed => exact absurd hClosed.reconnectWait (by simp [hReconnect])
  | waiting n hPending hOff hWait => simp [hReconnect] at hWait
  | expired hPending hOff hWait hQueue => simp [hNone] at hQueue
  | resolving hPending => exact hPending

/-- If the caster falls silent while the stream is read on, the client cannot but give
the connection up and resolve the host again, after a bounded number of events. -/
theorem silence_reconnects (callback : Bool) (events : List Event)
    (h : (start callback).Timely events)
    (hReading : (after callback events).pending = [.streamRead])
    (hReceived : (start callback).received false events = true) :
    ∃ bound, ∀ silence, (after callback events).Alone silence →
      silence.length ≤ bound ∧
        ((∀ event, ¬(after callback events).Alone (silence ++ [event])) →
          ((after callback events).goOn silence).pending = [.resolve]) := by
  have hTold : (after callback events).Told ((start callback).received false events) :=
    (told_start callback).goOn h
  have hSilent : (after callback events).Silent := by
    cases hTold.chain with
    | pending a n hPending hWait hQueue =>
        have hGuarded := (hTold.guarded ⟨hWait, .inl (by simp [hReading])⟩).mp hReceived
        refine .reading n hReading hWait hQueue (hGuarded.imp_right fun hReady => ?_)
        rw [hQueue, expiries, List.mem_replicate] at hReady
        exact Nat.pos_of_ne_zero hReady.1
    | ended a ending m n hPending => simp [hReading] at hPending
    | closed hClosed => exact absurd hClosed.pending (by simp [hReading])
    | waiting n hPending => simp [hReading] at hPending
    | expired hPending => simp [hReading] at hPending
  refine ⟨(after callback events).rank, fun silence hAlone => ⟨hAlone.length_le, fun hEnd => ?_⟩⟩
  refine (hSilent.goOn hAlone).resolves fun event hNetwork hPrompt hHappens => ?_
  exact hEnd event (alone_concat.mpr ⟨hAlone, hNetwork, hHappens, hPrompt⟩)

theorem silence_reconnects_silentCaster :
    ∃ bound, ∀ silence, (after true (silentCaster.take 10)).Alone silence →
      silence.length ≤ bound ∧
        ((∀ event, ¬(after true (silentCaster.take 10)).Alone (silence ++ [event])) →
          ((after true (silentCaster.take 10)).goOn silence).pending = [.resolve]) :=
  silence_reconnects true _ (by decide) (by decide) (by decide)

end Silence

end Mandeye.NtripReconnects.NtripClient
