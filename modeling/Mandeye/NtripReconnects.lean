import Mandeye.Calls

/-! The connection to the caster as a chain of asynchronous operations. Handlers which
are ready run one at a time, in the order in which they became ready. A wait which is
cancelled, or whose timer is set again, ends as well, but its handler does nothing. -/
namespace Mandeye.NtripReconnects

open Calls

/-- The asynchronous operations, in the order of a connection. -/
inductive Activity where
  | resolve
  | connect
  | requestWrite
  | headerRead
  | streamRead
  deriving DecidableEq

/-- How an operation ends. It is aborted if `stop` closes its socket. -/
inductive Ending where
  | success
  | failure
  | aborted
  deriving DecidableEq

/-- The handler of an operation or of the wait for one of the two timers. -/
inductive Handler where
  | activity (a : Activity) (ending : Ending)
  | reconnect (aborted : Bool)
  | watchdog (aborted : Bool)
  deriving DecidableEq

/-- What the client waits for, and its handlers which are ready. -/
structure NtripClient where
  callback : Bool
  isOpen : Bool
  pending : List Activity
  reconnectWait : Bool
  watchdogWait : Bool
  ready : List Handler

/-- An operation comes to its end, a timer expires or the next handler runs. -/
inductive Event where
  | network (a : Activity) (failed : Bool)
  | reconnectExpiry
  | watchdogExpiry
  | run
  deriving DecidableEq

namespace NtripClient

/-- Handlers become ready behind those which are. -/
def post (handlers : List Handler) (c : NtripClient) : NtripClient :=
  { c with ready := c.ready ++ handlers }

/-- The resolver needs no socket, and to connect opens it. Anything else fails at once
if it is closed. -/
def initiate (a : Activity) (c : NtripClient) : NtripClient :=
  match a with
  | .resolve => { c with pending := c.pending ++ [.resolve] }
  | .connect => { c with pending := c.pending ++ [.connect], isOpen := true }
  | .requestWrite | .headerRead | .streamRead =>
      if c.isOpen then { c with pending := c.pending ++ [a] } else c.post [.activity a .failure]

/-- Cancels the timer, or sets it again: the wait for it ends. -/
def cancelTimer (c : NtripClient) : NtripClient :=
  { c.post (if c.reconnectWait then [.reconnect true] else []) with reconnectWait := false }

/-- The wait for the watchdog ends as that for the other timer. -/
def stopWatchdog (c : NtripClient) : NtripClient :=
  { c.post (if c.watchdogWait then [.watchdog true] else []) with watchdogWait := false }

/-- The resolver does not use the socket. -/
def closeSocket (c : NtripClient) : NtripClient :=
  let aborted := c.pending.filter (· ≠ .resolve)
  { c.post (aborted.map (.activity · .aborted)) with
    isOpen := false
    pending := c.pending.filter (· = .resolve) }

/-- The socket is closed and nothing is waited for any more. -/
def stop (c : NtripClient) : NtripClient := c.closeSocket.cancelTimer.stopWatchdog

/-- The timer is set again, so that the wait before it ends. -/
def scheduleReconnect (c : NtripClient) : NtripClient :=
  { c.cancelTimer with reconnectWait := true }

/-- The watchdog is set again by each read. -/
def startWatchdog (c : NtripClient) : NtripClient := { c.stopWatchdog with watchdogWait := true }

/-- A connection begins with the name of the caster. -/
def doConnect (c : NtripClient) : NtripClient := c.initiate .resolve

/-- The request is written to the socket. -/
def sendRequest (c : NtripClient) : NtripClient := c.initiate .requestWrite

/-- The answer is read up to the end of its header. -/
def readHeaders (c : NtripClient) : NtripClient := c.initiate .headerRead

/-- The next bytes of the stream are read. -/
def readStream (c : NtripClient) : NtripClient := c.initiate .streamRead

/-- Without a callback nothing can be done with what is read. -/
def passes (c : NtripClient) (a : Activity) (ending : Ending) : Bool :=
  ending = .success && (a ≠ .streamRead || c.callback)

/-- What the handler starts after a success. -/
def proceed (a : Activity) (c : NtripClient) : NtripClient :=
  match a with
  | .resolve => c.initiate .connect
  | .connect => c.sendRequest
  | .requestWrite => c.readHeaders
  | .headerRead => c.readStream
  | .streamRead => c.startWatchdog.readStream

/-- What the handler does after anything else. It does not ask whether it was aborted. -/
def giveUp (a : Activity) (c : NtripClient) : NtripClient :=
  match a with
  | .resolve | .connect | .requestWrite | .headerRead => c.scheduleReconnect
  | .streamRead => c.stopWatchdog.scheduleReconnect

/-- A handler runs from its beginning to its end. -/
def handle (handler : Handler) (c : NtripClient) : NtripClient :=
  match handler with
  | .activity a ending => if c.passes a ending then c.proceed a else c.giveUp a
  | .reconnect aborted => if aborted then c else c.doConnect
  | .watchdog aborted => if aborted then c else c.stop.scheduleReconnect

/-- Nothing happens if what the event is about is not there. -/
def next (c : NtripClient) : Event → NtripClient
  | .network a failed =>
      if a ∈ c.pending then
        { c.post [.activity a (if failed then .failure else .success)] with
          pending := c.pending.erase a }
      else c
  | .reconnectExpiry =>
      if c.reconnectWait then { c.post [.reconnect false] with reconnectWait := false } else c
  | .watchdogExpiry =>
      if c.watchdogWait then { c.post [.watchdog false] with watchdogWait := false } else c
  | .run =>
      match c.ready with
      | [] => c
      | handler :: rest => { c with ready := rest }.handle handler

/-- A client without a connection. -/
def new (callback : Bool) : NtripClient := ⟨callback, false, [], false, false, []⟩

/-- The first connection is begun by the program. -/
def start (callback : Bool) : NtripClient := (new callback).doConnect

/-- The client after some more events. -/
def goOn (c : NtripClient) (events : List Event) : NtripClient := events.foldl next c

/-- The client after these events, from its start on. -/
def after (callback : Bool) (events : List Event) : NtripClient := (start callback).goOn events

/-- The activity whose handler this is, and whether `stop` aborted it. -/
def ended : Handler → Option (Activity × Bool)
  | .activity a ending => some (a, ending = .aborted)
  | .reconnect _ => none
  | .watchdog _ => none

/-- The activities whose handlers have not yet run. -/
def inProgress (c : NtripClient) : List (Activity × Bool) :=
  c.pending.map (·, false) ++ c.ready.filterMap ended

/-- The event makes a handler run which sets the reconnect timer. -/
def rearms (c : NtripClient) : Event → Bool
  | .run =>
      match c.ready.head? with
      | some (.activity a ending) => !c.passes a ending
      | some (.watchdog aborted) => !aborted
      | some (.reconnect _) => false
      | none => false
  | .network _ _ => false
  | .reconnectExpiry => false
  | .watchdogExpiry => false

/-- The timer which is set expires before it is set again. -/
def expires (c : NtripClient) : List Event → Bool
  | [] => false
  | event :: later =>
      event = .reconnectExpiry || (!c.rearms event && (c.next event).expires later)

/-- A wait which has ended, or is going to end, without being cancelled. -/
def willConnect (c : NtripClient) (later : List Event) : Bool :=
  .reconnect false ∈ c.ready || (c.reconnectWait && c.expires later)

/-- One activity at most is in progress at a time, and none but a read which `stop`
aborted while there is a wait after which the client connects. -/
def SingleChain (callback : Bool) (events : List Event) : Prop :=
  ∀ earlier later, events = earlier ++ later →
    (after callback earlier).inProgress.length ≤ 1 ∧
      ((after callback earlier).willConnect later = true →
        ∀ entry ∈ (after callback earlier).inProgress,
          entry = (.headerRead, true) ∨ entry = (.streamRead, true))

/-- When the reconnect timer expires, only cancelled waits are still to be handled. -/
def Prompt (c : NtripClient) (event : Event) : Prop :=
  event = .reconnectExpiry → c.reconnectWait = true →
    ∀ handler ∈ c.ready, handler = .reconnect true ∨ handler = .watchdog true

/-- A cancelled wait ends without a consequence. -/
def live : Handler → Bool
  | .activity _ _ => true
  | .reconnect aborted => !aborted
  | .watchdog aborted => !aborted

/-- The ready handlers which do something. -/
def queue (c : NtripClient) : List Handler := c.ready.filter live

section Queue

variable {c : NtripClient} {handler : Handler} {rest : List Handler}

@[simp] theorem queue_post (handlers : List Handler) :
    (c.post handlers).queue = c.queue ++ handlers.filter live := by
  simp [queue, post]

@[simp] theorem queue_cancelTimer : c.cancelTimer.queue = c.queue := by
  cases hWait : c.reconnectWait <;> simp [cancelTimer, queue, post, hWait, live]

@[simp] theorem queue_stopWatchdog : c.stopWatchdog.queue = c.queue := by
  cases hWait : c.watchdogWait <;> simp [stopWatchdog, queue, post, hWait, live]

@[simp] theorem queue_scheduleReconnect : c.scheduleReconnect.queue = c.queue :=
  queue_cancelTimer

@[simp] theorem queue_startWatchdog : c.startWatchdog.queue = c.queue := queue_stopWatchdog

@[simp] theorem queue_stop : c.stop.queue =
    c.queue ++ (c.pending.filter (· ≠ .resolve)).map (Handler.activity · .aborted) := by
  have hLive : ∀ aborted : List Activity,
      (aborted.map (Handler.activity · .aborted)).filter live =
        aborted.map (Handler.activity · .aborted) := by
    intro aborted
    simp [live]
  rw [stop, queue_stopWatchdog, queue_cancelTimer]
  show (c.post _).queue = _
  rw [queue_post, hLive]

/-- The client just before the handler is taken from its queue. -/
def beforeRun (handler : Handler) (c : NtripClient) : NtripClient :=
  { c with ready := handler :: c.ready }

theorem beforeRun_rest (h : c.ready = handler :: rest) :
    beforeRun handler { c with ready := rest } = c := by
  rw [beforeRun, ← h]

theorem queue_beforeRun (hLive : live handler = true) :
    (c.beforeRun handler).queue = handler :: c.queue := by
  simp [queue, beforeRun, hLive]

theorem queue_beforeRun_of_cancelled (hLive : live handler = false) :
    (c.beforeRun handler).queue = c.queue := by
  simp [queue, beforeRun, hLive]

/-- The timer expires promptly only if nothing is left to do. -/
theorem Prompt.queue_eq_nil (h : c.Prompt .reconnectExpiry) (hWait : c.reconnectWait = true) :
    c.queue = [] := by
  rw [queue, List.filter_eq_nil_iff]
  intro handler hReady
  rcases h rfl hWait handler hReady with rfl | rfl <;> simp [live]

end Queue

/-- The watchdog may have expired, and even several times, before its handler runs. -/
def expiries (n : Nat) : List Handler := List.replicate n (.watchdog false)

@[simp] theorem expiries_zero : expiries 0 = [] := rfl

theorem expiries_succ (n : Nat) : expiries (n + 1) = .watchdog false :: expiries n := rfl

theorem expiries_concat (n : Nat) : expiries n ++ [.watchdog false] = expiries (n + 1) :=
  List.replicate_succ'.symm

/-- The watchdog runs during a stream read only. -/
def Watched (c : NtripClient) (a : Activity) (n : Nat) : Prop :=
  a = .streamRead ∨ n = 0 ∧ c.watchdogWait = false

/-- The watchdog closed the socket of a stream read, whose handler did not run yet and
which will fail if it did not already. -/
structure Closed (c : NtripClient) : Prop where
  pending : c.pending = []
  isOpen : c.isOpen = false
  reconnectWait : c.reconnectWait = true
  queue : ∃ ending m n, c.queue = expiries m ++ .activity .streamRead ending :: expiries n

/-- One activity is in progress, which is to end or ended already, or the client waits. -/
inductive Chain (c : NtripClient) : Prop
  | pending (a : Activity) (n : Nat) (hPending : c.pending = [a])
      (hWait : c.reconnectWait = false) (hQueue : c.queue = expiries n)
      (hWatched : c.Watched a n)
  | ended (a : Activity) (ending : Ending) (m n : Nat) (hPending : c.pending = [])
      (hWait : c.reconnectWait = false)
      (hQueue : c.queue = expiries m ++ .activity a ending :: expiries n)
      (hWatched : c.Watched a (m + n))
  | closed (h : c.Closed)
  | waiting (n : Nat) (hPending : c.pending = []) (hWatchdog : c.watchdogWait = false)
      (hWait : c.reconnectWait = true) (hQueue : c.queue = expiries n)
  | expired (hPending : c.pending = []) (hWatchdog : c.watchdogWait = false)
      (hWait : c.reconnectWait = false) (hQueue : c.queue = [.reconnect false])

section Handlers

variable {c : NtripClient} {a : Activity} {ending : Ending} {m n : Nat}

theorem Chain.initiate (hPending : c.pending = []) (hWait : c.reconnectWait = false)
    (hQueue : c.queue = expiries n) (hWatched : c.Watched a n) : Chain (c.initiate a) := by
  have hBegun : ∀ isOpen, Chain { c with pending := c.pending ++ [a], isOpen := isOpen } :=
    fun isOpen => .pending a n (by simp [hPending]) hWait hQueue hWatched
  have hUsing : Chain (if c.isOpen then { c with pending := c.pending ++ [a] }
      else c.post [.activity a .failure]) := by
    split
    · exact hBegun c.isOpen
    · refine .ended a .failure n 0 hPending hWait ?_ hWatched
      simp [hQueue, live]
  cases a with
  | resolve => exact hBegun c.isOpen
  | connect => exact hBegun true
  | requestWrite | headerRead | streamRead => exact hUsing

theorem Chain.proceed (hPending : c.pending = []) (hWait : c.reconnectWait = false)
    (hQueue : c.queue = expiries n) (hWatched : c.Watched a n) : Chain (c.proceed a) := by
  have hOther : a ≠ .streamRead → ∀ b, Chain (c.initiate b) :=
    fun hRead b => .initiate hPending hWait hQueue (.inr (hWatched.resolve_left hRead))
  cases a with
  | resolve => exact hOther (by decide) .connect
  | connect => exact hOther (by decide) .requestWrite
  | requestWrite => exact hOther (by decide) .headerRead
  | headerRead => exact hOther (by decide) .streamRead
  | streamRead =>
      exact .initiate (c := c.startWatchdog) hPending hWait
        (queue_startWatchdog.trans hQueue) (.inl rfl)

theorem Chain.giveUp (hPending : c.pending = []) (hQueue : c.queue = expiries n)
    (hWatched : c.Watched a n) : Chain (c.giveUp a) := by
  have hOther : a ≠ .streamRead → Chain c.scheduleReconnect := fun hRead =>
    .waiting n hPending (hWatched.resolve_left hRead).2 rfl (queue_scheduleReconnect.trans hQueue)
  cases a with
  | resolve | connect | requestWrite | headerRead => exact hOther (by decide)
  | streamRead => exact .waiting n hPending rfl rfl (by simp [giveUp, hQueue])

theorem Closed.proceed (hPending : c.pending = []) (hOpen : c.isOpen = false)
    (hWait : c.reconnectWait = true) (hQueue : c.queue = expiries n) :
    Closed (c.proceed .streamRead) := by
  have hFails : c.proceed .streamRead = c.startWatchdog.post [.activity .streamRead .failure] :=
    if_neg (by simp [startWatchdog, stopWatchdog, post, hOpen])
  rw [hFails]
  refine ⟨hPending, hOpen, hWait, .failure, n, 0, ?_⟩
  simp [hQueue, live]

/-- The handler of the watchdog, if it runs during a stream read. -/
theorem Closed.timeout (ending : Ending) (n m : Nat)
    (hPending : c.pending = [] ∨ c.pending = [.streamRead])
    (hQueue : c.queue ++ (c.pending.filter (· ≠ .resolve)).map (Handler.activity · .aborted) =
      expiries n ++ .activity .streamRead ending :: expiries m) :
    Closed c.stop.scheduleReconnect := by
  refine ⟨?_, rfl, rfl, ending, n, m, ?_⟩
  · show c.pending.filter (· = .resolve) = []
    rcases hPending with hNone | hRead
    · simp [hNone]
    · simp [hRead]
  · rw [queue_scheduleReconnect, queue_stop, hQueue]

theorem Chain.timeout (hPending : c.pending = []) (hQueue : c.queue = expiries n) :
    Chain c.stop.scheduleReconnect := by
  refine .waiting n ?_ rfl rfl ?_
  · show c.pending.filter (· = .resolve) = []
    simp [hPending]
  · simp [hQueue, hPending]

end Handlers

section Steps

variable {c : NtripClient} {event : Event} {handler : Handler} {rest : List Handler} {n : Nat}

theorem expiries_append_eq_cons {tail : List Handler} (h : expiries n ++ tail = handler :: rest) :
    (n = 0 ∧ tail = handler :: rest) ∨
      ∃ k, n = k + 1 ∧ handler = .watchdog false ∧ rest = expiries k ++ tail := by
  cases n with
  | zero => exact .inl ⟨rfl, h⟩
  | succ k =>
      rw [expiries_succ, List.cons_append, List.cons.injEq] at h
      exact .inr ⟨k, rfl, h.1.symm, h.2.symm⟩

theorem expiries_eq_cons (h : expiries n = handler :: rest) :
    ∃ k, n = k + 1 ∧ handler = .watchdog false ∧ rest = expiries k := by
  rw [← List.append_nil (expiries n)] at h
  rcases expiries_append_eq_cons h with ⟨-, hNil⟩ | ⟨k, hSucc, hHandler, hRest⟩
  · cases hNil
  · exact ⟨k, hSucc, hHandler, hRest.trans (List.append_nil _)⟩

theorem handle_of_cancelled (hLive : live handler = false) : c.handle handler = c := by
  cases handler with
  | activity a ending => cases hLive
  | reconnect aborted => simp_all [live, handle]
  | watchdog aborted => simp_all [live, handle]

theorem Closed.dequeue (h : (c.beforeRun handler).Closed) (hLive : live handler = false) :
    c.Closed := by
  have hQueue := queue_beforeRun_of_cancelled (c := c) hLive
  exact ⟨h.pending, h.isOpen, h.reconnectWait, hQueue ▸ h.queue⟩

theorem Chain.dequeue (h : (c.beforeRun handler).Chain) (hLive : live handler = false) :
    c.Chain := by
  have hSame := (queue_beforeRun_of_cancelled (c := c) hLive).symm
  cases h with
  | pending a n hPending hWait hQueue hWatched =>
      exact .pending a n hPending hWait (hSame.trans hQueue) hWatched
  | ended a ending m n hPending hWait hQueue hWatched =>
      exact .ended a ending m n hPending hWait (hSame.trans hQueue) hWatched
  | closed hClosed => exact .closed (hClosed.dequeue hLive)
  | waiting n hPending hWatchdog hWait hQueue =>
      exact .waiting n hPending hWatchdog hWait (hSame.trans hQueue)
  | expired hPending hWatchdog hWait hQueue =>
      exact .expired hPending hWatchdog hWait (hSame.trans hQueue)

/-- The socket stays closed until a handler sets the reconnect timer again. -/
theorem Closed.handle (h : (c.beforeRun handler).Closed) (hLive : live handler = true) :
    (c.handle handler).Closed ∨
      (c.beforeRun handler).rearms .run = true ∧ (c.handle handler).Chain := by
  have hPending : c.pending = [] := h.pending
  obtain ⟨ending, m, n, hQueue⟩ := h.queue
  rw [queue_beforeRun hLive] at hQueue
  rcases expiries_append_eq_cons hQueue.symm with ⟨rfl, hFirst⟩ | ⟨k, rfl, rfl, hRest⟩
  · obtain ⟨rfl, hRest⟩ := List.cons.inj hFirst
    rw [NtripClient.handle]
    split
    · exact .inl (.proceed hPending h.isOpen h.reconnectWait hRest.symm)
    · rename_i hFails
      have hGivesUp : (c.beforeRun (.activity .streamRead ending)).passes .streamRead ending =
          false := Bool.eq_false_iff.mpr hFails
      refine .inr ⟨?_, .giveUp hPending hRest.symm (.inl rfl)⟩
      simpa [rearms, beforeRun] using hGivesUp
  · refine .inl (.timeout ending k n (.inl hPending) ?_)
    simp [hRest, hPending]

theorem Chain.handle (h : (c.beforeRun handler).Chain) (hLive : live handler = true) :
    (c.handle handler).Chain := by
  have hCons := queue_beforeRun (c := c) hLive
  cases h with
  | pending a n hPending hWait hQueue hWatched =>
      change c.pending = [a] at hPending
      obtain ⟨k, rfl, rfl, hRest⟩ := expiries_eq_cons (hQueue.symm.trans hCons)
      obtain rfl : a = .streamRead := hWatched.resolve_right (by simp)
      refine .closed (.timeout .aborted k 0 (.inr hPending) ?_)
      simp [hRest, hPending]
  | ended a ending m n hPending hWait hQueue hWatched =>
      change c.pending = [] at hPending
      rcases expiries_append_eq_cons (hQueue.symm.trans hCons) with
        ⟨rfl, hFirst⟩ | ⟨k, rfl, rfl, hRest⟩
      · obtain ⟨rfl, hRest⟩ := List.cons.inj hFirst
        rw [Nat.zero_add] at hWatched
        rw [NtripClient.handle]
        split
        · exact .proceed hPending hWait hRest.symm hWatched
        · exact .giveUp hPending hRest.symm hWatched
      · obtain rfl : a = .streamRead := hWatched.resolve_right (by omega)
        refine .closed (.timeout ending k n (.inl hPending) ?_)
        simp [hRest, hPending]
  | closed hClosed => exact (hClosed.handle hLive).elim .closed And.right
  | waiting n hPending hWatchdog hWait hQueue =>
      obtain ⟨k, rfl, rfl, hRest⟩ := expiries_eq_cons (hQueue.symm.trans hCons)
      exact .timeout hPending hRest
  | expired hPending hWatchdog hWait hQueue =>
      obtain ⟨rfl, hRest⟩ := List.cons.inj (hQueue.symm.trans hCons)
      have hWatched : c.Watched .resolve 0 := .inr ⟨rfl, hWatchdog⟩
      have hEmpty : c.queue = expiries 0 := hRest.symm
      exact Chain.initiate (a := .resolve) hPending hWait hEmpty hWatched

/-- While the socket is closed, the reconnect timer does not expire before it is set
again. -/
theorem Closed.next (h : c.Closed) (hPrompt : c.Prompt event) :
    event ≠ .reconnectExpiry ∧
      ((c.next event).Closed ∨ c.rearms event = true ∧ (c.next event).Chain) := by
  cases event with
  | network a failed =>
      have hNone : a ∉ c.pending := by simp [h.pending]
      refine ⟨nofun, .inl ?_⟩
      rw [NtripClient.next, if_neg hNone]
      exact h
  | reconnectExpiry =>
      obtain ⟨ending, m, n, hQueue⟩ := h.queue
      rw [hPrompt.queue_eq_nil h.reconnectWait] at hQueue
      simp at hQueue
  | watchdogExpiry =>
      refine ⟨nofun, .inl ?_⟩
      rw [NtripClient.next]
      split
      · obtain ⟨ending, m, n, hQueue⟩ := h.queue
        refine ⟨h.pending, h.isOpen, h.reconnectWait, ending, m, n + 1, ?_⟩
        rw [← expiries_concat, ← List.cons_append, ← List.append_assoc, ← hQueue]
        exact queue_post [.watchdog false]
      · exact h
  | run =>
      refine ⟨nofun, ?_⟩
      rw [NtripClient.next]
      cases hReady : c.ready with
      | nil => exact .inl h
      | cons handler rest =>
          rw [← beforeRun_rest hReady] at h ⊢
          cases hLive : live handler with
          | false =>
              refine .inl ?_
              show Closed ({ c with ready := rest }.handle handler)
              rw [handle_of_cancelled hLive]
              exact h.dequeue hLive
          | true => exact h.handle hLive

theorem Chain.next (h : c.Chain) (hPrompt : c.Prompt event) : (c.next event).Chain := by
  cases event with
  | network a failed =>
      rw [NtripClient.next]
      split
      · rename_i hMem
        cases h with
        | pending b n hPending hWait hQueue hWatched =>
            rw [hPending, List.mem_singleton] at hMem
            subst hMem
            refine .ended a (if failed then .failure else .success) n 0 ?_ hWait ?_ hWatched
            · simp [hPending]
            · rw [← hQueue]
              exact queue_post _
        | ended b ending m n hPending => simp [hPending] at hMem
        | closed hClosed => simp [hClosed.pending] at hMem
        | waiting n hPending => simp [hPending] at hMem
        | expired hPending => simp [hPending] at hMem
      · exact h
  | reconnectExpiry =>
      rw [NtripClient.next]
      split
      · rename_i hSet
        cases h with
        | pending a n hPending hWait => simp [hWait] at hSet
        | ended a ending m n hPending hWait => simp [hWait] at hSet
        | closed hClosed => exact absurd rfl (hClosed.next hPrompt).1
        | waiting n hPending hWatchdog hWait hQueue =>
            refine .expired hPending hWatchdog rfl ?_
            show (c.post _).queue = _
            rw [queue_post, hPrompt.queue_eq_nil hWait]
            rfl
        | expired hPending hWatchdog hWait => simp [hWait] at hSet
      · exact h
  | watchdogExpiry =>
      rw [NtripClient.next]
      split
      · rename_i hSet
        have hPosted : ({ c.post [.watchdog false] with
            watchdogWait := false } : NtripClient).queue = c.queue ++ [.watchdog false] :=
          queue_post [.watchdog false]
        cases h with
        | pending a n hPending hWait hQueue hWatched =>
            refine .pending a (n + 1) hPending hWait ?_ (.inl (hWatched.resolve_right ?_))
            · rw [hPosted, hQueue, expiries_concat]
            · simp [hSet]
        | ended a ending m n hPending hWait hQueue hWatched =>
            refine .ended a ending m (n + 1) hPending hWait ?_ (.inl (hWatched.resolve_right ?_))
            · rw [hPosted, hQueue, ← expiries_concat, List.append_assoc, List.cons_append]
            · simp [hSet]
        | closed hClosed =>
            have hNext := (hClosed.next hPrompt).2
            rw [NtripClient.next, if_pos hSet] at hNext
            exact hNext.elim .closed And.right
        | waiting n hPending hWatchdog => simp [hWatchdog] at hSet
        | expired hPending hWatchdog => simp [hWatchdog] at hSet
      · exact h
  | run =>
      rw [NtripClient.next]
      cases hReady : c.ready with
      | nil => exact h
      | cons handler rest =>
          rw [← beforeRun_rest hReady] at h
          cases hLive : live handler with
          | false =>
              show Chain ({ c with ready := rest }.handle handler)
              rw [handle_of_cancelled hLive]
              exact h.dequeue hLive
          | true => exact h.handle hLive

end Steps

section Runs

variable {c : NtripClient} {callback : Bool} {events : List Event} {event : Event}

/-- Each event, where it happens, comes in time. -/
def Timely (c : NtripClient) (events : List Event) : Prop :=
  Each (fun earlier event => (c.goOn earlier).Prompt event) events

instance : Decidable (c.Prompt event) :=
  inferInstanceAs (Decidable (_ → _ → ∀ handler ∈ c.ready, _))

theorem Timely.head {later : List Event} (h : c.Timely (event :: later)) : c.Prompt event :=
  h [] event later rfl

theorem Timely.tail {later : List Event} (h : c.Timely (event :: later)) :
    (c.next event).Timely later :=
  fun earlier other rest hLater => h (event :: earlier) other rest (by rw [hLater]; rfl)

theorem timely_cons {later : List Event} :
    c.Timely (event :: later) ↔ c.Prompt event ∧ (c.next event).Timely later := by
  refine ⟨fun h => ⟨h.head, h.tail⟩, fun ⟨hHead, hTail⟩ earlier other rest hEvents => ?_⟩
  cases earlier with
  | nil =>
      obtain ⟨rfl, -⟩ := List.cons.inj hEvents
      exact hHead
  | cons first earlier =>
      obtain ⟨rfl, hLater⟩ := List.cons.inj hEvents
      exact hTail earlier other rest hLater

theorem Timely.append {earlier later : List Event} (h : c.Timely (earlier ++ later)) :
    (c.goOn earlier).Timely later := by
  induction earlier generalizing c with
  | nil => exact h
  | cons event earlier ih => exact ih h.tail

instance decidableTimely (c : NtripClient) : (events : List Event) → Decidable (c.Timely events)
  | [] => isTrue each_nil
  | event :: later =>
      have := decidableTimely (c.next event) later
      decidable_of_iff (c.Prompt event ∧ (c.next event).Timely later) timely_cons.symm

theorem chain_start (callback : Bool) : (start callback).Chain :=
  .pending .resolve 0 rfl rfl rfl (.inr ⟨rfl, rfl⟩)

theorem Chain.goOn (h : c.Chain) (hTimely : c.Timely events) : (c.goOn events).Chain := by
  induction events generalizing c with
  | nil => exact h
  | cons event events ih => exact ih (h.next hTimely.head) hTimely.tail

theorem Closed.not_expires (h : c.Closed) (hTimely : c.Timely events) :
    c.expires events = false := by
  induction events generalizing c with
  | nil => rfl
  | cons event events ih =>
      obtain ⟨hOther, hNext⟩ := h.next hTimely.head
      rcases hNext with hClosed | ⟨hRearms, -⟩
      · simp [expires, hOther, ih hClosed hTimely.tail]
      · simp [expires, hOther, hRearms]

theorem inProgress_eq (c : NtripClient) :
    c.inProgress = c.pending.map (·, false) ++ c.queue.filterMap ended := by
  have hSkip : c.ready.filterMap ended = c.queue.filterMap ended := by
    rw [queue, List.filterMap_filter]
    congr 1
    funext handler
    cases handler with
    | activity a ending => rfl
    | reconnect aborted => simp [ended]
    | watchdog aborted => simp [ended]
  rw [inProgress, hSkip]

theorem filterMap_expiries (n : Nat) : (expiries n).filterMap ended = [] := by
  simp [expiries, ended]

theorem reconnect_mem_ready : .reconnect false ∈ c.ready ↔ .reconnect false ∈ c.queue := by
  simp [queue, live]

theorem reconnect_not_mem_expiries (n : Nat) : .reconnect false ∉ expiries n := by
  simp [expiries]

theorem Chain.length_inProgress (h : c.Chain) : c.inProgress.length ≤ 1 := by
  rw [inProgress_eq]
  cases h with
  | pending a n hPending hWait hQueue hWatched =>
      simp [hPending, hQueue, filterMap_expiries]
  | ended a ending m n hPending hWait hQueue hWatched =>
      simp [hPending, hQueue, filterMap_expiries, NtripClient.ended]
  | closed hClosed =>
      obtain ⟨ending, m, n, hQueue⟩ := hClosed.queue
      simp [hClosed.pending, hQueue, filterMap_expiries, NtripClient.ended]
  | waiting n hPending hWatchdog hWait hQueue =>
      simp [hPending, hQueue, filterMap_expiries]
  | expired hPending hWatchdog hWait hQueue =>
      simp [hPending, hQueue, NtripClient.ended, List.filterMap_cons]

/-- Nothing is in progress while the client waits to connect. -/
theorem Chain.inProgress_eq_nil (h : c.Chain) (hTimely : c.Timely events)
    (hConnect : c.willConnect events = true) : c.inProgress = [] := by
  rw [willConnect, Bool.or_eq_true, Bool.and_eq_true, decide_eq_true_eq, reconnect_mem_ready]
    at hConnect
  rw [inProgress_eq]
  cases h with
  | pending a n hPending hWait hQueue hWatched =>
      simp [hWait, hQueue, reconnect_not_mem_expiries] at hConnect
  | ended a ending m n hPending hWait hQueue hWatched =>
      simp [hWait, hQueue, reconnect_not_mem_expiries] at hConnect
  | closed hClosed =>
      obtain ⟨ending, m, n, hQueue⟩ := hClosed.queue
      simp [hClosed.not_expires hTimely, hQueue, reconnect_not_mem_expiries] at hConnect
  | waiting n hPending hWatchdog hWait hQueue =>
      simp [hPending, hQueue, filterMap_expiries]
  | expired hPending hWatchdog hWait hQueue =>
      simp [hPending, hQueue, NtripClient.ended]

end Runs

/-- The activities form a single chain if no reconnect timer expires while a handler
which does something is still ready to run. -/
theorem singleChain_of_timely (callback : Bool) (events : List Event)
    (h : (start callback).Timely events) : SingleChain callback events := by
  rintro earlier later rfl
  have hEarlier : (start callback).Timely earlier :=
    fun before event rest hBefore => h before event (rest ++ later) (by simp [hBefore])
  have hChain : (after callback earlier).Chain := (chain_start callback).goOn hEarlier
  refine ⟨hChain.length_inProgress, fun hConnect entry hEntry => ?_⟩
  rw [hChain.inProgress_eq_nil h.append hConnect] at hEntry
  cases hEntry

/-- After one read the caster is silent until the watchdog closes the socket. -/
def silentCaster : List Event :=
  [.network .resolve false, .run, .network .connect false, .run,
    .network .requestWrite false, .run, .network .headerRead false, .run,
    .network .streamRead false, .run, .watchdogExpiry, .run]

theorem singleChain_silentCaster :
    SingleChain true (silentCaster ++ [.run, .reconnectExpiry, .run]) :=
  singleChain_of_timely true _ (by decide)

/-- The timer expires before the handler of the read which was aborted runs, and this
handler sets it again. -/
def overtaken : List Event :=
  silentCaster ++ [.reconnectExpiry, .run, .run, .reconnectExpiry, .run]

theorem two_chains_overtaken :
    (after true overtaken).inProgress = [(.resolve, false), (.resolve, false)] ∧
      ¬SingleChain true overtaken := by
  have hTwo : (after true overtaken).inProgress = [(.resolve, false), (.resolve, false)] := by
    decide
  refine ⟨hTwo, fun hSingle => ?_⟩
  have hLength := (hSingle _ [] (List.append_nil _).symm).1
  rw [hTwo] at hLength
  exact absurd hLength (by decide)

end NtripClient

end Mandeye.NtripReconnects
