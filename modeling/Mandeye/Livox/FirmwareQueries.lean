import Mandeye.Livox.Introductions
import Mathlib.Data.Finset.Card

/-! How often the firmware is asked for. Every answer that does not tell it has the SDK ask
again, until eleven answers in a row have failed; as each lidar ends this at most once, the
queries are bounded by the number of lidars. The counter is an unprotected variable, shared by
all lidars; two callbacks at once could both find it at its bound, and are excluded here. -/
namespace Mandeye.BringUp

open GeneralCommandHandler LivoxClient

def Event.outcomes : Event → List SendOutcome
  | .handleDetectionData _ _ outcomes => outcomes
  | .queryFwTypeCallback _ _ _ outcomes => outcomes
  | _ => []

/-- The lidar whose query is answered, or has timed out. -/
def Event.answers : Event → Option UInt32
  | .queryFwTypeCallback _ handle _ _ => some handle
  | _ => none

def Event.detects : Event → Option UInt32
  | .handleDetectionData handle data _ => if data.retCode = 0 then some handle else none
  | _ => none

def answered (events : List Event) : List UInt32 := events.filterMap Event.answers

def lidars (events : List Event) : Finset UInt32 := (events.filterMap Event.detects).toFinset

/-- No attempt to send a query fails, and every answer is to a query, each of which is answered
at most once. -/
structure Reliable (handlers : UInt8 → Option CommandHandler) (events : List Event) : Prop where
  sent : ∀ event ∈ events, ∀ outcome ∈ event.outcomes, outcome = .sent
  asked : ∀ before event, before ++ [event] <+: events →
    (answered (before ++ [event])).Subperm (run handlers before).queries

/-- What one step means for the queries. -/
inductive Asks (s s' : State) : Event → Prop where
  | introduced (handle : UInt32) (data : DetectionData) (outcomes : List SendOutcome)
      (hAccepted : data.retCode = 0) (hUnknown : s.devices handle = none)
      (hQueries : s'.queries = s.queries ++ [handle]) (hCount : s'.count = s.count) :
      Asks s s' (.handleDetectionData handle data outcomes)
  | other (event : Event) (hAnswers : event.answers = none)
      (hQueries : s'.queries = s.queries) (hCount : s'.count = s.count) : Asks s s' event
  | again (status : Int32) (handle : UInt32)
      (response : Option LivoxLidarDiagInternalInfoResponse) (outcomes : List SendOutcome)
      (hFew : s.count ≤ 10) (hQueries : s'.queries = s.queries ++ [handle])
      (hCount : s'.count = s.count + 1) :
      Asks s s' (.queryFwTypeCallback status handle response outcomes)
  | known (status : Int32) (handle : UInt32)
      (response : Option LivoxLidarDiagInternalInfoResponse) (outcomes : List SendOutcome)
      (hQueries : s'.queries = s.queries) (hCount : s'.count = 0)
      (hKnown : ∀ device, s'.devices handle = some device → device.isGetLoaderMode = true) :
      Asks s s' (.queryFwTypeCallback status handle response outcomes)

namespace State

variable {s : State} {handle : UInt32}

theorem queryFwType_sent (handle : UInt32) {outcomes : List SendOutcome}
    (hSent : ∀ outcome ∈ outcomes, outcome = .sent) (s : State) :
    queryFwType handle outcomes s = { s with queries := s.queries ++ [handle] } := by
  cases outcomes with
  | nil => rfl
  | cons outcome rest =>
    cases hSent outcome List.mem_cons_self
    rfl

/-- A step which asks nobody. -/
structure Unasked (s s' : State) : Prop where
  queries : s'.queries = s.queries
  count : s'.count = s.count

theorem Unasked.refl : Unasked s s :=
  ⟨rfl, rfl⟩

theorem Unasked.trans {s' s'' : State} (h : Unasked s s') (h' : Unasked s' s'') :
    Unasked s s'' :=
  ⟨h'.queries.trans h.queries, h'.count.trans h.count⟩

theorem unasked_livoxLidarInfoChange (s : State) (handle : UInt32) :
    Unasked s (s.livoxLidarInfoChange handle) := by
  unfold livoxLidarInfoChange
  dsimp only
  split <;> exact ⟨rfl, rfl⟩

theorem unasked_updateLidarCfg (s : State) (cmdHandler : Option CommandHandler)
    (handle : UInt32) (lidarCmdPort : UInt16) :
    Unasked s (s.updateLidarCfg cmdHandler handle lidarCmdPort) := by
  unfold updateLidarCfg
  split
  · exact .refl
  · exact .refl
  · split <;> exact ⟨rfl, rfl⟩

theorem unasked_deviceManagerHandleDetectionData (s : State) (handle : UInt32)
    (data : DetectionData) (isGetLoaderMode isLoaderMode : Bool) :
    Unasked s
      (s.deviceManagerHandleDetectionData handle data isGetLoaderMode isLoaderMode) := by
  unfold deviceManagerHandleDetectionData
  split
  · exact .refl
  · split
    · split
      · exact .refl
      · split
        · exact unasked_livoxLidarInfoChange s handle
        · exact .refl
    · dsimp only
      split
      · have hTold := unasked_livoxLidarInfoChange { s with
          lidarsDevType := Function.update s.lidarsDevType handle (some data.devType) } handle
        exact ⟨hTold.queries, hTold.count⟩
      · exact ⟨rfl, rfl⟩

theorem unasked_updateLidarCallback (s : State) (kind : CommandHandler) (status : Int32)
    (handle : UInt32) (response : Option LivoxLidarAsyncControlResponse) :
    Unasked s (s.updateLidarCallback kind status handle response) := by
  obtain ⟨configured, hResult⟩ := exists_updateLidarCallback s kind status handle response
  rw [hResult]
  split
  · have hTold := unasked_livoxLidarInfoChange { s with configured := configured } handle
    exact ⟨hTold.queries, hTold.count⟩
  · exact .refl

theorem asks_handleDetectionData (handlers : UInt8 → Option CommandHandler) (s : State)
    (handle : UInt32) (data : DetectionData) {outcomes : List SendOutcome}
    (hSent : ∀ outcome ∈ outcomes, outcome = .sent) :
    Asks s (s.handleDetectionData handlers handle data outcomes)
      (.handleDetectionData handle data outcomes) := by
  unfold handleDetectionData
  split
  · exact .other _ rfl rfl rfl
  · rename_i hAccepted
    split
    · rename_i device hDevice
      have hConfigured : Unasked s
          (if !device.isUpdateCfg && device.isGetLoaderMode && !device.isLoaderMode then
            s.updateLidarCfg (handlers data.devType) handle data.cmdPort
          else s) := by
        split
        · exact unasked_updateLidarCfg s _ handle _
        · exact .refl
      have hUnasked := hConfigured.trans (unasked_deviceManagerHandleDetectionData _ handle data
        device.isGetLoaderMode device.isLoaderMode)
      exact .other _ rfl hUnasked.queries hUnasked.count
    · rename_i hUnknown
      have hAsked := queryFwType_sent handle hSent
        (s.setDevice handle { DeviceInfo.empty with info := data.lidarInfo })
      dsimp only
      generalize queryFwType handle outcomes _ = s₁ at hAsked ⊢
      have hManaged := unasked_deviceManagerHandleDetectionData s₁ handle data
        ((s₁.devices handle).getD .empty).isGetLoaderMode
        ((s₁.devices handle).getD .empty).isLoaderMode
      generalize s₁.deviceManagerHandleDetectionData handle data _ _ = s₂ at hManaged ⊢
      have hIntroduced : ∀ s', Unasked s₂ s' →
          Asks s s' (.handleDetectionData handle data outcomes) := by
        intro s' hUnasked
        have hLast := hManaged.trans hUnasked
        rw [hAsked] at hLast
        exact .introduced handle data outcomes (not_not.mp hAccepted) hUnknown hLast.queries
          hLast.count
      split
      · exact hIntroduced _ (unasked_updateLidarCfg s₂ _ handle _)
      · exact hIntroduced _ .refl

theorem isGetLoaderMode_updateFwType (s : State) (handle : UInt32) (fwType : UInt8)
    {device : DeviceInfo} (hDevice : (s.updateFwType handle fwType).devices handle = some device) :
    device.isGetLoaderMode = true := by
  unfold updateFwType at hDevice
  cases hFormer : s.devices handle with
  | none =>
    rw [hFormer] at hDevice
    rw [hFormer] at hDevice
    cases hDevice
  | some former =>
    rw [hFormer] at hDevice
    cases (Function.update_self handle _ s.devices).symm.trans hDevice
    rfl

theorem queries_updateFwType (s : State) (handle : UInt32) (fwType : UInt8) :
    (s.updateFwType handle fwType).queries = s.queries := by
  unfold updateFwType
  split <;> rfl

theorem asks_queryFwTypeCallback (s : State) (status : Int32) (handle : UInt32)
    (response : Option LivoxLidarDiagInternalInfoResponse) {outcomes : List SendOutcome}
    (hSent : ∀ outcome ∈ outcomes, outcome = .sent) :
    Asks s (s.queryFwTypeCallback status handle response outcomes)
      (.queryFwTypeCallback status handle response outcomes) := by
  have hKnown : ∀ fwType : UInt8,
      Asks s { s.updateFwType handle fwType with count := 0 }
        (.queryFwTypeCallback status handle response outcomes) := by
    intro fwType
    exact .known status handle response outcomes (queries_updateFwType s handle fwType) rfl
      fun device hDevice => isGetLoaderMode_updateFwType s handle fwType hDevice
  unfold queryFwTypeCallback
  split
  · exact hKnown 1
  · rename_i hFew
    split
    · rw [queryFwType_sent handle hSent]
      exact .again status handle response outcomes (Nat.le_of_not_lt hFew) rfl rfl
    · exact hKnown _

theorem asks_step (handlers : UInt8 → Option CommandHandler) (s : State) {event : Event}
    (hSent : ∀ outcome ∈ event.outcomes, outcome = .sent) :
    Asks s (s.step handlers event) event := by
  cases event with
  | setLivoxLidarInfoChangeCallback => exact .other _ rfl rfl rfl
  | handleDetectionData handle data outcomes =>
    exact asks_handleDetectionData handlers s handle data hSent
  | queryFwTypeCallback status handle response outcomes =>
    exact asks_queryFwTypeCallback s status handle response hSent
  | updateLidarCallback kind status handle response =>
    have hUnasked := unasked_updateLidarCallback s kind status handle response
    exact .other _ rfl hUnasked.queries hUnasked.count

end State

theorem answered_append (before : List Event) (event : Event) :
    answered (before ++ [event]) = answered before ++ event.answers.toList := by
  rw [answered, List.filterMap_append, answered]
  cases hAnswers : event.answers with
  | none => rw [List.filterMap_cons_none hAnswers]; rfl
  | some handle => rw [List.filterMap_cons_some hAnswers]; rfl

theorem lidars_subset (before : List Event) (event : Event) :
    lidars before ⊆ lidars (before ++ [event]) := by
  intro handle hMember
  rw [lidars, List.mem_toFinset] at hMember ⊢
  rw [List.filterMap_append]
  exact List.mem_append_left _ hMember

/-- A lidar that the SDK does not know has not been detected. -/
theorem not_mem_lidars {handlers : UInt8 → Option CommandHandler} {events : List Event}
    {handle : UInt32} (hUnknown : (run handlers events).devices handle = none) :
    handle ∉ lidars events := by
  intro hMember
  have hInfo := info_run handlers events handle
  rw [hUnknown, Option.map_none] at hInfo
  rw [lidars, List.mem_toFinset] at hMember
  obtain ⟨event, hEvent, hDetects⟩ := List.mem_filterMap.mp hMember
  have hNobody := List.findSome?_eq_none_iff.mp hInfo.symm event hEvent
  cases event with
  | handleDetectionData other data outcomes =>
    rw [Event.detects] at hDetects
    split at hDetects
    · rename_i hAccepted
      cases hDetects
      rw [introduces, if_pos hAccepted, somebody, Function.update_self] at hNobody
      cases hNobody
    · cases hDetects
  | _ => cases hDetects

theorem card_lidars_introduced {handlers : UInt8 → Option CommandHandler} {before : List Event}
    {handle : UInt32} {data : DetectionData} (outcomes : List SendOutcome)
    (hAccepted : data.retCode = 0) (hUnknown : (run handlers before).devices handle = none) :
    (lidars (before ++ [.handleDetectionData handle data outcomes])).card =
      (lidars before).card + 1 := by
  have hDetects : Event.detects (.handleDetectionData handle data outcomes) = some handle :=
    if_pos hAccepted
  have hLidars : lidars (before ++ [.handleDetectionData handle data outcomes]) =
      insert handle (lidars before) := by
    ext other
    rw [lidars, List.filterMap_append, List.filterMap_cons_some hDetects, List.filterMap_nil,
      List.mem_toFinset, List.mem_append, List.mem_singleton, Finset.mem_insert, lidars,
      List.mem_toFinset]
    exact or_comm
  rw [hLidars, Finset.card_insert_of_notMem (not_mem_lidars hUnknown)]

/-- The queries are paid for by the lidars: each brings twelve of them, and what is not yet used
up is owed to the answers to come and to the failures in a row. -/
structure Paid (queries answers lidars count : Nat) : Prop where
  outstanding : queries ≤ answers + lidars
  owed : 12 * queries ≤ 12 * lidars + 11 * answers + count
  bounded : queries ≤ 12 * lidars
  failures : count ≤ 11

namespace Paid

variable {queries answers lidars count : Nat}

theorem initial : Paid 0 0 0 0 := by
  constructor <;> exact Nat.zero_le _

theorem introduce (h : Paid queries answers lidars count) :
    Paid (queries + 1) answers (lidars + 1) count := by
  obtain ⟨hOutstanding, hOwed, hBounded, hFailures⟩ := h
  constructor <;> omega

theorem mono (h : Paid queries answers lidars count) {more : Nat} (hMore : lidars ≤ more) :
    Paid queries answers more count := by
  obtain ⟨hOutstanding, hOwed, hBounded, hFailures⟩ := h
  constructor <;> omega

/-- A failure is answered by another query. -/
theorem again (h : Paid queries answers lidars count) (hWaiting : answers < queries)
    (hFew : count ≤ 10) : Paid (queries + 1) (answers + 1) lidars (count + 1) := by
  obtain ⟨hOutstanding, hOwed, hBounded, hFailures⟩ := h
  constructor <;> omega

/-- The failures are forgotten once a lidar needs no more queries. -/
theorem know (h : Paid queries answers lidars count) : Paid queries (answers + 1) lidars 0 := by
  obtain ⟨hOutstanding, hOwed, hBounded, hFailures⟩ := h
  constructor <;> omega

end Paid

/-- Who has been asked is known, and either has told its firmware or is being asked. -/
structure Asked (events : List Event) (s : State) : Prop where
  paid : Paid s.queries.length (answered events).length (lidars events).card s.count
  asking : ∀ handle ∈ s.queries, ∃ device, s.devices handle = some device ∧
    (device.isGetLoaderMode = true ∨ (answered events).count handle < s.queries.count handle)

theorem asked_initial : Asked [] .initial :=
  ⟨.initial, fun _ hMember => absurd hMember List.not_mem_nil⟩

/-- Who is waiting for an answer goes on waiting, unless answers to it outnumber the queries. -/
theorem Asked.still {before events : List Event} {s s' : State}
    {introduced : UInt32 → Option LivoxLidarInfo} (h : Asked before s)
    (hEvolves : Evolves introduced s.devices s'.devices) {handle : UInt32}
    (hMember : handle ∈ s.queries)
    (hCount : (answered events).count handle + s.queries.count handle ≤
      (answered before).count handle + s'.queries.count handle) :
    ∃ device, s'.devices handle = some device ∧
      (device.isGetLoaderMode = true ∨
        (answered events).count handle < s'.queries.count handle) := by
  obtain ⟨device, hDevice, hAsking⟩ := h.asking handle hMember
  obtain ⟨device', hDevice', -⟩ := hEvolves.exists_some hDevice
  refine ⟨device', hDevice', ?_⟩
  rcases hAsking with hKnown | hWaiting
  · exact .inl ((hEvolves.flags handle device device' hDevice hDevice').2.1 hKnown)
  · exact .inr (by omega)

section Steps

variable {before events : List Event} {s s' : State} {handle : UInt32}
  {introduced : UInt32 → Option LivoxLidarInfo}

/-- A lidar which is introduced is asked. -/
theorem Asked.introduce (h : Asked before s) {info : LivoxLidarInfo}
    (hEvolves : Evolves (somebody handle info) s.devices s'.devices)
    (hUnknown : s.devices handle = none) (hAnswered : answered events = answered before)
    (hAsked : (answered events).Subperm s.queries)
    (hLidars : (lidars events).card = (lidars before).card + 1)
    (hQueries : s'.queries = s.queries ++ [handle]) (hSame : s'.count = s.count) :
    Asked events s' := by
  constructor
  · rw [hAnswered, hQueries, hSame, hLidars, List.length_append]
    exact h.paid.introduce
  · intro other hMember
    rw [hQueries, List.mem_append, List.mem_singleton] at hMember
    by_cases hFormer : other ∈ s.queries
    · apply h.still hEvolves hFormer
      rw [hAnswered, hQueries, List.count_append]
      omega
    · cases hMember.resolve_left hFormer
      have hInfo := hEvolves.info handle
      rw [hUnknown, somebody, Function.update_self] at hInfo
      obtain ⟨device, hDevice, -⟩ := Option.map_eq_some_iff.mp hInfo
      have hFew := hAsked.count_le handle
      refine ⟨device, hDevice, .inr ?_⟩
      rw [hQueries, List.count_append, List.count_singleton_self]
      omega

theorem Asked.keep (h : Asked before s) (hEvolves : Evolves introduced s.devices s'.devices)
    (hAnswered : answered events = answered before)
    (hCard : (lidars before).card ≤ (lidars events).card) (hQueries : s'.queries = s.queries)
    (hSame : s'.count = s.count) : Asked events s' := by
  constructor
  · rw [hAnswered, hQueries, hSame]
    exact h.paid.mono hCard
  · intro other hMember
    rw [hQueries] at hMember
    apply h.still hEvolves hMember
    rw [hAnswered, hQueries]

/-- Who has not told its firmware is asked again. -/
theorem Asked.again (h : Asked before s) (hEvolves : Evolves introduced s.devices s'.devices)
    (hAnswered : answered events = answered before ++ [handle])
    (hAsked : (answered events).Subperm s.queries)
    (hCard : (lidars before).card ≤ (lidars events).card) (hFew : s.count ≤ 10)
    (hQueries : s'.queries = s.queries ++ [handle]) (hNext : s'.count = s.count + 1) :
    Asked events s' := by
  rw [hAnswered] at hAsked
  have hWaiting := hAsked.length_le
  rw [List.length_append, List.length_singleton] at hWaiting
  constructor
  · rw [hAnswered, hQueries, hNext, List.length_append, List.length_append]
    exact (h.paid.again hWaiting hFew).mono hCard
  · intro other hMember
    have hFormer : other ∈ s.queries := by
      rw [hQueries, List.mem_append, List.mem_singleton] at hMember
      rcases hMember with hFormer | hSame
      · exact hFormer
      · rw [hSame]
        exact hAsked.subset (List.mem_append_right _ List.mem_cons_self)
    apply h.still hEvolves hFormer
    rw [hAnswered, hQueries, List.count_append, List.count_append]
    omega

/-- Who has told its firmware waits for no answer. -/
theorem Asked.know (h : Asked before s) (hEvolves : Evolves introduced s.devices s'.devices)
    (hAnswered : answered events = answered before ++ [handle])
    (hCard : (lidars before).card ≤ (lidars events).card) (hQueries : s'.queries = s.queries)
    (hNone : s'.count = 0)
    (hKnown : ∀ device, s'.devices handle = some device → device.isGetLoaderMode = true) :
    Asked events s' := by
  constructor
  · rw [hAnswered, hQueries, hNone, List.length_append]
    exact h.paid.know.mono hCard
  · intro other hMember
    rw [hQueries] at hMember
    by_cases hOther : other = handle
    · subst hOther
      obtain ⟨device, hDevice, -⟩ := h.asking other hMember
      obtain ⟨device', hDevice', -⟩ := hEvolves.exists_some hDevice
      exact ⟨device', hDevice', .inl (hKnown device' hDevice')⟩
    · apply h.still hEvolves hMember
      rw [hAnswered, hQueries, List.count_append,
        List.count_eq_zero.mpr fun hSame => hOther (List.mem_singleton.mp hSame)]
      omega

end Steps

theorem asked_step {handlers : UInt8 → Option CommandHandler} {before : List Event}
    {event : Event} (h : Asked before (run handlers before))
    (hSent : ∀ outcome ∈ event.outcomes, outcome = .sent)
    (hAsked : (answered (before ++ [event])).Subperm (run handlers before).queries) :
    Asked (before ++ [event]) ((run handlers before).step handlers event) := by
  have hAsks := State.asks_step handlers (run handlers before) hSent
  have hEvolves := (State.follows_step handlers (run handlers before) event).evolves
  have hCard := Finset.card_le_card (lidars_subset before event)
  have hAnswered := answered_append before event
  generalize (run handlers before).step handlers event = s' at hAsks hEvolves ⊢
  cases hAsks with
  | introduced handle data outcomes hAccepted hUnknown hQueries hSame =>
    rw [introduces, if_pos hAccepted] at hEvolves
    exact h.introduce hEvolves hUnknown (hAnswered.trans (List.append_nil _)) hAsked
      (card_lidars_introduced outcomes hAccepted hUnknown) hQueries hSame
  | other _ hAnswers hQueries hSame =>
    rw [hAnswers] at hAnswered
    exact h.keep hEvolves (hAnswered.trans (List.append_nil _)) hCard hQueries hSame
  | again status handle response outcomes hFew hQueries hNext =>
    exact h.again hEvolves hAnswered hAsked hCard hFew hQueries hNext
  | known status handle response outcomes hQueries hNone hKnown =>
    exact h.know hEvolves hAnswered hCard hQueries hNone hKnown

theorem Reliable.of_append {handlers : UInt8 → Option CommandHandler} {before : List Event}
    {event : Event} (h : Reliable handlers (before ++ [event])) : Reliable handlers before where
  sent := fun other hMember => h.sent other (List.mem_append_left _ hMember)
  asked := fun first other hPrefix =>
    h.asked first other (hPrefix.trans (List.prefix_append before [event]))

theorem reliable_nil (handlers : UInt8 → Option CommandHandler) : Reliable handlers [] where
  sent := fun _ hMember => absurd hMember List.not_mem_nil
  asked := by
    intro before event hPrefix
    have hLength := hPrefix.length_le
    rw [List.length_append, List.length_singleton, List.length_nil] at hLength
    omega

theorem Reliable.append {handlers : UInt8 → Option CommandHandler} {before : List Event}
    {event : Event} (h : Reliable handlers before)
    (hSent : ∀ outcome ∈ event.outcomes, outcome = .sent)
    (hAsked : (answered (before ++ [event])).Subperm (run handlers before).queries) :
    Reliable handlers (before ++ [event]) where
  sent := by
    intro other hMember
    rcases List.mem_append.mp hMember with hMember | hMember
    · exact h.sent other hMember
    · cases List.mem_singleton.mp hMember
      exact hSent
  asked := by
    intro first other hPrefix
    rcases List.prefix_concat_iff.mp hPrefix with hSame | hEarlier
    · obtain ⟨rfl, hOther⟩ := List.append_inj' hSame rfl
      cases hOther
      exact hAsked
    · exact h.asked first other hEarlier

theorem asked_run {handlers : UInt8 → Option CommandHandler} {events : List Event}
    (hReliable : Reliable handlers events) : Asked events (run handlers events) := by
  induction events using List.reverseRecOn with
  | nil => exact asked_initial
  | append_singleton before event ih =>
    rw [run_append]
    exact asked_step (ih hReliable.of_append)
      (hReliable.sent event (List.mem_append_right _ List.mem_cons_self))
      (hReliable.asked before event List.prefix_rfl)

/-- Asking for the firmware comes to an end when callbacks run one at a time: no more than
twelve queries are sent for each lidar that has introduced itself, and once those to a lidar
have been answered, its firmware is known or taken for the normal one. -/
theorem firmware_becomes_known (handlers : UInt8 → Option CommandHandler) (events : List Event)
    (hReliable : Reliable handlers events) :
    (run handlers events).queries.length ≤ 12 * (lidars events).card ∧
    ∀ handle ∈ (run handlers events).queries,
      (answered events).count handle = (run handlers events).queries.count handle →
      ∃ device, (run handlers events).devices handle = some device ∧
        device.isGetLoaderMode = true := by
  have hAsked := asked_run hReliable
  constructor
  · exact hAsked.paid.bounded
  · intro handle hMember hAnswered
    obtain ⟨device, hDevice, hKnown | hWaiting⟩ := hAsked.asking handle hMember
    · exact ⟨device, hDevice, hKnown⟩
    · omega

/-- A lidar introduces itself. -/
def detection : Event :=
  .handleDetectionData 7 ⟨0, kLivoxLidarTypeMid360, "47MDL5B0010129", (192, 168, 1, 12), 56100⟩
    [.sent]

/-- The time for the first answer is up. -/
def timeout : Event := .queryFwTypeCallback (-4) 7 none [.sent]

/-- The second answer tells of the normal firmware. -/
def normal : Event :=
  .queryFwTypeCallback kLivoxLidarStatusSuccess 7
    (some ⟨0, 1, fun i => [0x10, 0x80, 1, 0, 1].getD i 0⟩) []

theorem firmware_becomes_known_second :
    (run CommandHandler.ofType [detection, timeout, normal]).queries.length ≤
      12 * (lidars [detection, timeout, normal]).card ∧
    ∃ device, (run CommandHandler.ofType [detection, timeout, normal]).devices 7 = some device ∧
      device.isGetLoaderMode = true := by
  have hSent : ∀ outcome ∈ [SendOutcome.sent], outcome = .sent :=
    fun _ hMember => List.mem_singleton.mp hMember
  have hDetected : Reliable CommandHandler.ofType [detection] :=
    (reliable_nil _).append hSent (List.nil_subperm)
  have hTimeout : Reliable CommandHandler.ofType [detection, timeout] :=
    hDetected.append hSent (List.Subperm.refl [7])
  have hNormal : Reliable CommandHandler.ofType [detection, timeout, normal] :=
    hTimeout.append (fun _ hMember => absurd hMember List.not_mem_nil) (List.Subperm.refl [7, 7])
  obtain ⟨hBounded, hKnown⟩ := firmware_becomes_known _ _ hNormal
  exact ⟨hBounded, hKnown 7 List.mem_cons_self rfl⟩

end Mandeye.BringUp
