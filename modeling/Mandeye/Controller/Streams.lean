import Mandeye.Controller.Rules
import Mandeye.Ledger

/-! The four streams of a recording. Points and IMU samples are kept by the
lidar client in buffers which are exchanged, lines by the GNSS client in lists
which are emptied. For each of them: what an action means for its buffer. -/
namespace Mandeye.Controller

open Interleaving

/-- A stream by its effects, and what the next retrieval would take. -/
structure Stream (α : Type) where
  effect : Controller × Label Response Move → Effect α
  held : Controller → Option (List α)

/-- A buffer of the lidar client. `saved` is the pointer which is handed to the
save function of the stream. -/
structure LidarStream (α : Type) where
  buffer : LivoxClient → SwapBuffer α
  delivered : UInt64 → Callback → List α
  saved : WatcherRequest → Option (Option Nat)
  saved_stopLog : saved .stopLog = none
  new_buffer : buffer .new = .initial
  startLog_buffer : ∀ client : LivoxClient, buffer client.startLog = (buffer client).start
  stopLog_buffer : ∀ client : LivoxClient, buffer client.stopLog = (buffer client).stop
  callback_buffer : ∀ millis event client,
    buffer (callback millis event client) = (buffer client).append (delivered millis event)
  initializeDuration_buffer : ∀ client : LivoxClient,
    buffer client.initializeDuration = buffer client

/-- The points. -/
def pointStream : LidarStream LivoxPoint where
  buffer := LivoxClient.bufferLivox
  delivered _ event := event.points
  saved
    | .savePointcloudData buffer _ _ => some buffer
    | _ => none
  saved_stopLog := rfl
  new_buffer := rfl
  startLog_buffer _ := rfl
  stopLog_buffer _ := rfl
  callback_buffer := callback_bufferLivox
  initializeDuration_buffer client := (initializeDuration_buffers client).1

/-- The IMU samples. -/
def imuStream : LidarStream LivoxIMU where
  buffer := LivoxClient.bufferIMU
  delivered millis event := event.samples millis
  saved
    | .saveImuData buffer _ _ => some buffer
    | _ => none
  saved_stopLog := rfl
  new_buffer := rfl
  startLog_buffer _ := rfl
  stopLog_buffer _ := rfl
  callback_buffer := callback_bufferIMU
  initializeDuration_buffer client := (initializeDuration_buffers client).2

/-- A list of the GNSS client, with the lines which the worker adds to it, the
retrieval which empties it and the lines handed to its save function. -/
structure GnssStream (α : Type) where
  buffer : GNSSClient → List α
  added : GnssRequest → GNSSClient → List α
  retrieves : WatcherRequest → Bool
  saved : WatcherRequest → Option (List α)
  new_buffer : buffer .new = []
  startLog_buffer : ∀ client : GNSSClient, buffer client.startLog = []
  stopLog_buffer : ∀ client : GNSSClient, buffer client.stopLog = buffer client
  retrieveData_buffer : ∀ client : GNSSClient, buffer client.retrieveData.2 =
    if retrieves .gnssRetrieveData then [] else buffer client
  retrieveRawData_buffer : ∀ client : GNSSClient, buffer client.retrieveRawData.2 =
    if retrieves .gnssRetrieveRawData then [] else buffer client
  retrieves_gnss : ∀ request, retrieves request = true →
    request = .gnssRetrieveData ∨ request = .gnssRetrieveRawData
  worker_buffer : ∀ request client,
    buffer (workerStep request client) = buffer client ++ added request client
  listener_buffer : ∀ (client : GNSSClient) (initSucces dataCallback : Bool),
    buffer { client with initSucces := initSucces, dataCallback := dataCallback } = buffer client

/-- The positions, which are kept while a log is running. -/
def ggaStream : GnssStream GgaCsvLine where
  buffer := GNSSClient.buffer
  added
    | .appendGga csvline, client => client.acceptedGga csvline
    | _, _ => []
  retrieves
    | .gnssRetrieveData => true
    | _ => false
  saved
    | .saveGnssData buffer _ _ => some buffer
    | _ => none
  new_buffer := rfl
  startLog_buffer _ := rfl
  stopLog_buffer _ := rfl
  retrieveData_buffer _ := rfl
  retrieveRawData_buffer _ := rfl
  retrieves_gnss request h := by
    split at h
    · exact .inl rfl
    · cases h
  worker_buffer request client := by
    cases request with
    | appendGga csvline => rfl
    | _ => exact (List.append_nil _).symm
  listener_buffer _ _ _ := rfl

/-- The raw lines, which are always kept. -/
def rawStream : GnssStream String where
  buffer := GNSSClient.rawbuffer
  added
    | .appendRaw line, _ => [line]
    | _, _ => []
  retrieves
    | .gnssRetrieveRawData => true
    | _ => false
  saved
    | .saveGnssRawData buffer _ _ => some buffer
    | _ => none
  new_buffer := rfl
  startLog_buffer _ := rfl
  stopLog_buffer _ := rfl
  retrieveData_buffer _ := rfl
  retrieveRawData_buffer _ := rfl
  retrieves_gnss request h := by
    split at h
    · exact .inr rfl
    · cases h
  worker_buffer request client := by
    cases request with
    | appendRaw line => rfl
    | _ => exact (List.append_nil _).symm
  listener_buffer _ _ _ := rfl

section Effects

variable {α : Type}

/-- The buffer of the stream, once there is a lidar client. -/
def LidarStream.content (σ : LidarStream α) (s : Controller) : Option (SwapBuffer α) :=
  s.livoxCLientPtr.map σ.buffer

def LidarStream.effect (σ : LidarStream α) : Controller × Label Response Move → Effect α
  | (_, .statement .watcher .startLog _) => .start
  | (_, .statement .watcher .retrieveData _) => .retrieve
  | (s, .statement .watcher request _) =>
      match σ.saved request with
      | some pointer => .hand (((σ.content s).map fun buffer => buffer.content pointer).getD [])
      | none => .other
  | (s, .move (.livox event)) =>
      match σ.content s with
      | some buffer => .append (buffer.accepted (σ.delivered s.systemClock event))
      | none => .other
  | _ => .other

def LidarStream.stream (σ : LidarStream α) : Stream α where
  effect := σ.effect
  held s := (σ.content s).bind SwapBuffer.held

/-- The lines of the stream. There are none without a GNSS client. -/
def GnssStream.content (σ : GnssStream α) (s : Controller) : List α :=
  (s.gnssClientPtr.map σ.buffer).getD []

def GnssStream.effect (σ : GnssStream α) : Controller × Label Response Move → Effect α
  | (_, .statement .watcher .gnssStartLog _) => .start
  | (_, .statement .watcher request _) =>
      if σ.retrieves request then .retrieve
      else match σ.saved request with
        | some lines => .hand lines
        | none => .other
  | (s, .statement .gnss request _) =>
      .append ((s.gnssClientPtr.map (σ.added request)).getD [])
  | _ => .other

def GnssStream.stream (σ : GnssStream α) : Stream α where
  effect := σ.effect
  held s := some (σ.content s)

end Effects

section Lidar

variable {α : Type} (σ : LidarStream α) {settings : Settings} {s s' : Controller}

theorem LidarStream.held_some {client : LivoxClient} (h : s.livoxCLientPtr = some client) :
    σ.stream.held s = (σ.buffer client).held := by
  simp only [stream, content, h, Option.map_some, Option.bind_some]

theorem LidarStream.content_some {client : LivoxClient} (h : s.livoxCLientPtr = some client) :
    σ.content s = some (σ.buffer client) := by
  rw [content, h, Option.map_some]

/-- Handing something on leaves the buffer alone. -/
theorem LidarStream.step_same {request : WatcherRequest} {response : request.Response}
    (hSame : s'.livoxCLientPtr = s.livoxCLientPtr)
    (hEffect : σ.effect (s, .statement .watcher request response) = match σ.saved request with
      | some pointer => .hand (((σ.content s).map fun buffer => buffer.content pointer).getD [])
      | none => .other) :
    SwapBuffer.Step (σ.content s) (σ.effect (s, .statement .watcher request response))
      (σ.content s') := by
  have hContent : σ.content s' = σ.content s := by rw [content, hSame, content]
  rw [hEffect, hContent]
  cases σ.saved request with
  | none => exact .other _
  | some pointer => exact .hand _ _

theorem LidarStream.watcher_step {request : WatcherRequest} {response : request.Response}
    (h : performWatcher settings request s = .returns response s') :
    SwapBuffer.Step (σ.content s) (σ.effect (s, .statement .watcher request response))
      (σ.content s') := by
  cases request with
  | startLog =>
      obtain ⟨client, hClient, -, rfl⟩ := withLivox_returns h
      rw [σ.content_some hClient, σ.content_some rfl, σ.startLog_buffer]
      exact .start _
  | stopLog =>
      obtain ⟨client, hClient, -, rfl⟩ := withLivox_returns h
      have hOther : σ.effect (s, .statement .watcher .stopLog response) = .other := by
        simp only [effect, σ.saved_stopLog]
      rw [hOther, σ.content_some hClient, σ.content_some rfl, σ.stopLog_buffer]
      exact .stop _
  | retrieveData =>
      obtain ⟨client, hClient, -, rfl⟩ := withLivox_returns h
      rw [σ.content_some hClient, σ.content_some rfl, LivoxClient.retrieveData_client,
        σ.startLog_buffer]
      exact .retrieve _
  | storeAppState state =>
      cases h
      exact σ.step_same rfl rfl
  | _ => exact σ.step_same (Still.same (by trivial) h).2 rfl

theorem LidarStream.move_step {action : Move} (h : move settings action s = some s') :
    SwapBuffer.Step (σ.content s) (σ.effect (s, .move action)) (σ.content s') := by
  rcases move_cases h with ⟨request, rfl, rfl⟩ | ⟨event, client, rfl, hClient, rfl⟩ |
    ⟨hOther, hSame⟩
  · rcases trigger_livoxCLientPtr settings request s with hSame | hMap
    · rw [content, content, hSame]
      exact .other _
    · have hContent : σ.content (s.trigger settings request).2 = σ.content s := by
        rw [content, content, hMap, Option.map_map]
        exact congrArg (fun f => s.livoxCLientPtr.map f) (funext σ.initializeDuration_buffer)
      rw [hContent]
      exact .other _
  · have hEffect : σ.effect (s, .move (.livox event)) = .append
        ((σ.buffer client).accepted (σ.delivered s.systemClock event)) := by
      simp only [effect, σ.content_some hClient]
    rw [hEffect, σ.content_some hClient, σ.content_some rfl, σ.callback_buffer]
    exact .append _ _
  · have hEffect : σ.effect (s, .move action) = .other := by
      cases action with
      | livox event => exact absurd rfl (hOther event)
      | _ => rfl
    rw [hEffect, content, content, hSame.livoxCLientPtr]
    exact .other _

/-- The other threads create the lidar client, at most. -/
theorem LidarStream.perform_step {g : WatcherRequest → History → Prop} {w : History} {t : Thread}
    {request : Request t} {response : Response t request} (ht : t ≠ .watcher)
    (hGuarantee : guarantee g t request w)
    (h : (machine settings).perform t request w.state = .returns response s') :
    SwapBuffer.Step (σ.content w.state) (σ.effect (w.state, .statement t request response))
      (σ.content s') := by
  have hOther : σ.effect (w.state, .statement t request response) = .other := by
    cases t with
    | watcher => exact absurd rfl ht
    | _ => rfl
  rw [hOther]
  rcases perform_livoxCLientPtr ht hGuarantee h with hSame | ⟨hNone, hNew⟩
  · rw [content, content, hSame]
    exact .other _
  · rw [content, content, hNone, hNew, Option.map_none, Option.map_some, σ.new_buffer]
    exact .create

end Lidar

section Gnss

variable {α : Type} (σ : GnssStream α) {settings : Settings} {s s' : Controller}

/-- The statements of the watcher which change the GNSS client. -/
def UsesGnss : WatcherRequest → Prop
  | .gnssStartLog => True
  | .gnssStopLog => True
  | .gnssRetrieveData => True
  | .gnssRetrieveRawData => True
  | _ => False

theorem performWatcher_gnssClientPtr {request : WatcherRequest} {response : request.Response}
    (hRequest : ¬UsesGnss request)
    (h : performWatcher settings request s = .returns response s') :
    s'.gnssClientPtr = s.gnssClientPtr := by
  have hClient := (performWatcher_changes h).gnssClientPtr
  cases request with
  | gnssStartLog => exact absurd trivial hRequest
  | gnssStopLog => exact absurd trivial hRequest
  | gnssRetrieveData => exact absurd trivial hRequest
  | gnssRetrieveRawData => exact absurd trivial hRequest
  | _ => exact hClient.trans (congrFun Option.map_id _)

theorem GnssStream.content_some {client : GNSSClient} (h : s.gnssClientPtr = some client) :
    σ.content s = σ.buffer client := by
  rw [content, h, Option.map_some, Option.getD_some]

/-- The Livox thread creates the GNSS client and starts its listener. -/
theorem GnssStream.performLivox_content {request : LivoxRequest} {response : request.Response}
    (hCreated : request = .createGnssClient → s.gnssClientPtr = none)
    (h : performLivox request s = .returns response s') : σ.content s' = σ.content s := by
  rcases performLivox_cases h with ⟨-, rfl⟩ | ⟨hRequest, rfl⟩ | hChanges
  · rfl
  · rw [content, content, hCreated hRequest, Option.map_some, σ.new_buffer]
    rfl
  · have hBuffer : σ.buffer ∘ request.onGnss s.serialPortOpens = σ.buffer := by
      funext client
      cases request with
      | gnssStartListener => exact σ.listener_buffer client _ _
      | gnssSetDataCallback => exact σ.listener_buffer client _ _
      | _ => rfl
    rw [content, hChanges.gnssClientPtr, Option.map_map, hBuffer, content]

/-- Handing something on, if anything. -/
def HandsOn (effect : Effect α) : Prop := (∃ lines, effect = .hand lines) ∨ effect = .other

theorem GnssStream.effect_request (s : Controller) {request : WatcherRequest}
    (response : request.Response) (hStart : request ≠ .gnssStartLog) :
    σ.retrieves request = true ∧ σ.effect (s, .statement .watcher request response) = .retrieve ∨
      σ.retrieves request = false ∧
        HandsOn (σ.effect (s, .statement .watcher request response)) := by
  have hEffect : σ.effect (s, .statement .watcher request response) =
      if σ.retrieves request then .retrieve
      else match σ.saved request with
        | some lines => .hand lines
        | none => .other := by
    cases request with
    | gnssStartLog => exact absurd rfl hStart
    | _ => rfl
  rw [hEffect]
  cases σ.retrieves request with
  | true => exact .inl ⟨rfl, if_pos rfl⟩
  | false =>
      refine .inr ⟨rfl, ?_⟩
      cases σ.saved request with
      | none => exact .inr rfl
      | some lines => exact .inl ⟨lines, rfl⟩

theorem GnssStream.follows_same {effect : Effect α} (hEffect : HandsOn effect)
    (hContent : σ.content s' = σ.content s) :
    effect.Follows (σ.stream.held s) (σ.stream.held s') := by
  have hHeld : σ.stream.held s' = σ.stream.held s := congrArg some hContent
  rcases hEffect with ⟨lines, rfl⟩ | rfl <;> exact .inl hHeld

theorem GnssStream.not_retrieves {request : WatcherRequest} (hData : request ≠ .gnssRetrieveData)
    (hRaw : request ≠ .gnssRetrieveRawData) : σ.retrieves request = false := by
  by_contra hRetrieves
  rcases σ.retrieves_gnss request (by simpa using hRetrieves) with h | h
  · exact hData h
  · exact hRaw h

/-- A retrieval empties the list; what does not start a session leaves it
alone otherwise. -/
theorem GnssStream.performWatcher_content {request : WatcherRequest} {response : request.Response}
    (hStart : request ≠ .gnssStartLog)
    (h : performWatcher settings request s = .returns response s') :
    σ.content s' = if σ.retrieves request then [] else σ.content s := by
  by_cases hUses : UsesGnss request
  · cases request with
    | gnssStartLog => exact absurd rfl hStart
    | gnssStopLog =>
        obtain ⟨client, hClient, -, rfl⟩ := withGnss_returns h
        rw [σ.not_retrieves (by simp) (by simp), σ.content_some hClient, σ.content_some rfl,
          σ.stopLog_buffer]
        rfl
    | gnssRetrieveData =>
        obtain ⟨client, hClient, -, rfl⟩ := withGnss_returns h
        rw [σ.content_some hClient, σ.content_some rfl, σ.retrieveData_buffer]
    | gnssRetrieveRawData =>
        obtain ⟨client, hClient, -, rfl⟩ := withGnss_returns h
        rw [σ.content_some hClient, σ.content_some rfl, σ.retrieveRawData_buffer]
    | _ => exact hUses.elim
  · have hRetrieves : σ.retrieves request = false := by
      refine σ.not_retrieves ?_ ?_ <;> exact fun hRequest => hUses (hRequest ▸ trivial)
    rw [content, performWatcher_gnssClientPtr hUses h, hRetrieves, content]
    rfl

theorem GnssStream.watcher_follows {request : WatcherRequest} {response : request.Response}
    (h : performWatcher settings request s = .returns response s') :
    (σ.effect (s, .statement .watcher request response)).Follows (σ.stream.held s)
      (σ.stream.held s') := by
  by_cases hStart : request = .gnssStartLog
  · subst hStart
    obtain ⟨client, hClient, -, rfl⟩ := withGnss_returns h
    exact congrArg some ((σ.content_some rfl).trans (σ.startLog_buffer client))
  · have hContent := σ.performWatcher_content hStart h
    rcases σ.effect_request s response hStart with ⟨hRetrieves, hEffect⟩ | ⟨hRetrieves, hEffect⟩
    · rw [hEffect]
      exact congrArg some (hContent.trans (if_pos hRetrieves))
    · rw [hRetrieves] at hContent
      exact σ.follows_same hEffect hContent

theorem GnssStream.move_follows {action : Move} (h : move settings action s = some s') :
    (σ.effect (s, .move action)).Follows (σ.stream.held s) (σ.stream.held s') := by
  refine σ.follows_same (.inr rfl) ?_
  rw [content, move_gnssClientPtr h, content]

/-- The other threads add lines, at most. -/
theorem GnssStream.perform_follows {g : WatcherRequest → History → Prop} {w : History}
    {t : Thread} {request : Request t} {response : Response t request} (ht : t ≠ .watcher)
    (hGuarantee : guarantee g t request w)
    (h : (machine settings).perform t request w.state = .returns response s') :
    (σ.effect (w.state, .statement t request response)).Passive ∧
      (σ.effect (w.state, .statement t request response)).Follows (σ.stream.held w.state)
        (σ.stream.held s') := by
  cases t with
  | watcher => exact absurd rfl ht
  | livox =>
      refine ⟨trivial, σ.follows_same (.inr rfl) (σ.performLivox_content ?_ h)⟩
      rintro rfl
      exact hGuarantee
  | gpio =>
      refine ⟨trivial, σ.follows_same (.inr rfl) ?_⟩
      rw [content, (performGpio_sameData h).gnssClientPtr, content]
  | gnss =>
      refine ⟨trivial, congrArg some ?_⟩
      rw [content, (performGnss_changes h).gnssClientPtr, content]
      cases w.state.gnssClientPtr with
      | none => rfl
      | some client => exact σ.worker_buffer request client

end Gnss

section Laws

variable {α : Type} (settings : Settings) (g : WatcherRequest → History → Prop)

/-- The effects say what happens to the content, and only the watcher starts,
empties and hands on. -/
structure Stream.Lawful (σ : Stream α) : Prop where
  watcher : ∀ request (response : WatcherRequest.Response request) s s',
    performWatcher settings request s = .returns response s' →
      (σ.effect (s, .statement .watcher request response)).Follows (σ.held s) (σ.held s')
  others : ∀ w w', (machine settings).Interference (guarantee g) .watcher w w' →
    ∃ label s, w' = w.record label s ∧ (σ.effect (w.state, label)).Passive ∧
      (σ.effect (w.state, label)).Follows (σ.held w.state) (σ.held s)

theorem LidarStream.passive (σ : LidarStream α) {s : Controller} {label : Label Response Move}
    (h : ¬ByWatcher label) : (σ.effect (s, label)).Passive := by
  cases label, h using not_byWatcher_cases with
  | livox request response => trivial
  | gpio request response => trivial
  | gnss request response => trivial
  | move action =>
      cases action with
      | livox event =>
          simp only [LidarStream.effect]
          split <;> trivial
      | _ => trivial

variable {settings g}

/-- What the others do to a buffer of the lidar client. -/
theorem LidarStream.others_step (σ : LidarStream α) {w w' : History}
    (h : (machine settings).Interference (guarantee g) .watcher w w') :
    ∃ label s, w' = w.record label s ∧ (σ.effect (w.state, label)).Passive ∧
      SwapBuffer.Step (σ.content w.state) (σ.effect (w.state, label)) (σ.content s) := by
  obtain ⟨hMove⟩ | ⟨hOther, hGuarantee, hPerform⟩ := h
  · exact ⟨_, _, rfl, σ.passive id, σ.move_step hMove⟩
  · exact ⟨_, _, rfl, σ.passive hOther, σ.perform_step hOther hGuarantee hPerform⟩

variable (settings g)

theorem LidarStream.lawful (σ : LidarStream α) : σ.stream.Lawful settings g where
  watcher _ _ _ _ h := (σ.watcher_step h).follows
  others w w' h := by
    obtain ⟨label, s, rfl, hPassive, hStep⟩ := σ.others_step h
    exact ⟨label, s, rfl, hPassive, hStep.follows⟩

theorem GnssStream.lawful (σ : GnssStream α) : σ.stream.Lawful settings g where
  watcher _ _ _ _ h := σ.watcher_follows h
  others w w' h := by
    obtain ⟨hMove⟩ | ⟨hOther, hGuarantee, hPerform⟩ := h
    · exact ⟨_, _, rfl, trivial, σ.move_follows hMove⟩
    · exact ⟨_, _, rfl, σ.perform_follows hOther hGuarantee hPerform⟩

end Laws

end Mandeye.Controller
