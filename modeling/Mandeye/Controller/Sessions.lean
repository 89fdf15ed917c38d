import Mandeye.Controller.Directories
import Mandeye.Controller.Streams

/-! What becomes of everything that is recorded in a session. Whatever the
watcher takes out of a buffer it hands to a save function, so exactly that is
missing which is appended after the last retrieval. -/
namespace Mandeye.Controller

open Interleaving
open StateWatcher

/-- Every item appended in the session was handed to a save function, once and
in order. -/
structure Delivered (trace : Trace) : Prop where
  points :
    (Ledger.of pointStream.effect trace).handed = (Ledger.of pointStream.effect trace).appended
  imu : (Ledger.of imuStream.effect trace).handed = (Ledger.of imuStream.effect trace).appended
  gga : (Ledger.of ggaStream.effect trace).handed = (Ledger.of ggaStream.effect trace).appended
  raw : (Ledger.of rawStream.effect trace).handed = (Ledger.of rawStream.effect trace).appended

/-- Nothing was appended after the last retrieval of each buffer, or after the
start of the session if there was none. -/
structure Drained (trace : Trace) : Prop where
  points : (Ledger.of pointStream.effect trace).waiting = []
  imu : (Ledger.of imuStream.effect trace).waiting = []
  gga : (Ledger.of ggaStream.effect trace).waiting = []
  raw : (Ledger.of rawStream.effect trace).waiting = []

/-- The watcher is about to return to `IDLE` from a scan. -/
def SessionEnds (c : Configuration Response Local Controller Move) : Prop :=
  (∃ rest, c.code .watcher = .call (.storeAppState .idle) rest) ∧
    (c.world.state.appState = .stopping ∨ c.world.state.appState = .stopingStopScan)

section Accounts

variable {α : Type} {settings : Settings} {g : WatcherRequest → History → Prop}

/-- The books of a stream are right, and the given items are still to be handed
on. -/
structure Stream.Account (σ : Stream α) (items : List α) (w : History) : Prop where
  holds : (Ledger.of σ.effect w.trace).Holds (σ.held w.state)
  owes : (Ledger.of σ.effect w.trace).Owes items

variable {σ : Stream α} {items : List α} {w : History}

theorem Stream.Account.passive (h : σ.Account items w) {label : Label Response Move}
    {s : Controller} (hPassive : (σ.effect (w.state, label)).Passive)
    (hFollows : (σ.effect (w.state, label)).Follows (σ.held w.state) (σ.held s)) :
    σ.Account items (w.record label s) :=
  ⟨h.holds.enter hFollows, h.owes.passive hPassive⟩

theorem Stream.Account.others (h : σ.Account items w) (hLawful : σ.Lawful settings g)
    {w' : History} (hStep : (machine settings).Interference (guarantee g) .watcher w w') :
    σ.Account items w' := by
  obtain ⟨label, s, rfl, hPassive, hFollows⟩ := hLawful.others w w' hStep
  exact h.passive hPassive hFollows

section Watcher

variable {request : WatcherRequest} {response : request.Response} {s : Controller}
  (hLawful : σ.Lawful settings g)
  (hPerform : performWatcher settings request w.state = .returns response s)

include hLawful hPerform

theorem Stream.Account.other (h : σ.Account items w)
    (hEffect : σ.effect (w.state, .statement .watcher request response) = .other) :
    σ.Account items (w.record (.statement .watcher request response) s) := by
  have hFollows := hLawful.watcher request response w.state s hPerform
  exact h.passive (hEffect ▸ trivial) hFollows

theorem Stream.Account.start
    (hEffect : σ.effect (w.state, .statement .watcher request response) = .start) :
    σ.Account [] (w.record (.statement .watcher request response) s) := by
  have hFollows := hLawful.watcher request response w.state s hPerform
  rw [hEffect] at hFollows
  constructor
  · intro items hHeld
    rw [World.record, Ledger.of, hEffect]
    exact Option.some.inj (hHeld.symm.trans hFollows)
  · rw [World.record, Ledger.of, hEffect]
    exact Ledger.owes_empty

/-- What was held is owed now. -/
theorem Stream.Account.retrieve (h : σ.Account [] w)
    (hEffect : σ.effect (w.state, .statement .watcher request response) = .retrieve) :
    ∃ items, (∀ content, σ.held w.state = some content → content = items) ∧
      σ.Account items (w.record (.statement .watcher request response) s) := by
  have hFollows := hLawful.watcher request response w.state s hPerform
  refine ⟨_, h.holds, h.holds.enter hFollows, ?_⟩
  rw [World.record, Ledger.of, hEffect]
  exact h.owes.retrieve

theorem Stream.Account.hand (h : σ.Account items w)
    (hEffect : σ.effect (w.state, .statement .watcher request response) = .hand items) :
    σ.Account [] (w.record (.statement .watcher request response) s) := by
  have hFollows := hLawful.watcher request response w.state s hPerform
  refine ⟨h.holds.enter hFollows, ?_⟩
  rw [World.record, Ledger.of, hEffect]
  exact h.owes.hand

end Watcher

end Accounts

section Assertions

/-- What is still to be handed on of each stream. -/
structure Owed where
  points : List LivoxPoint
  imu : List LivoxIMU
  gga : List GgaCsvLine
  raw : List String

structure Accounts (owed : Owed) (w : History) : Prop where
  points : pointStream.stream.Account owed.points w
  imu : imuStream.stream.Account owed.imu w
  gga : ggaStream.stream.Account owed.gga w
  raw : rawStream.stream.Account owed.raw w

/-- Nothing is owed. -/
def Level (w : History) : Prop := Accounts ⟨[], [], [], []⟩ w

def Taken (w : History) : Prop := ∃ entry ∈ w.trace, retrieves entry.2 = true

/-- The watcher has given up after it had taken data out of the logs. -/
def Lost (w : History) : Prop :=
  ∃ later before earlier,
    w.trace = later ++ (before, .statement .watcher (.storeAppState .usbIoError) ()) :: earlier ∧
      ∃ entry ∈ earlier, retrieves entry.2 = true

/-- A session ends with nothing owed. -/
def sessionGuarantee : WatcherRequest → History → Prop
  | .storeAppState .idle, w => Level w ∨ Lost w
  | _, _ => True

def HasGnss (w : History) : Prop := w.state.gnssClientPtr ≠ none

/-- The pointer, unless it is null, still leads to the items. -/
def LidarStream.Kept {α : Type} (σ : LidarStream α) (pointer : Option Nat) (items : List α)
    (w : History) : Prop :=
  ∀ p, pointer = some p → ∃ buffer, σ.content w.state = some buffer ∧ buffer.Keeps p items

/-- The statements which do not concern the streams. -/
def Uninvolved : WatcherRequest → Prop
  | .storeAppState _ => False
  | .startLog => False
  | .retrieveData => False
  | .gnssStartLog => False
  | .gnssRetrieveData => False
  | .gnssRetrieveRawData => False
  | .savePointcloudData _ _ _ => False
  | .saveImuData _ _ _ => False
  | .saveGnssData _ _ _ => False
  | .saveGnssRawData _ _ _ => False
  | _ => True

theorem Quiet.uninvolved (request : WatcherRequest) (h : Quiet request) : Uninvolved request := by
  cases request with
  | storeAppState state => exact h.elim
  | startLog => exact h.elim
  | retrieveData => exact h.elim
  | gnssStartLog => exact h.elim
  | gnssRetrieveData => exact h.elim
  | gnssRetrieveRawData => exact h.elim
  | savePointcloudData buffer directory chunk => exact h.elim
  | saveImuData buffer directory chunk => exact h.elim
  | saveGnssData buffer directory chunk => exact h.elim
  | saveGnssRawData buffer directory chunk => exact h.elim
  | _ => trivial

variable {settings : Settings} {owed : Owed} {w : History}

theorem Uninvolved.allowed {request : WatcherRequest} (h : Uninvolved request) (w : History) :
    sessionGuarantee request w := by
  cases request with
  | storeAppState state => exact h.elim
  | _ => trivial

/-- An assertion which survives the other threads and the uninvolved statements. -/
structure AboutStreams (settings : Settings) (A : History → Prop) : Prop where
  stable : WatcherStable settings sessionGuarantee A
  uninvolved : ∀ request (response : WatcherRequest.Response request) w s, Uninvolved request →
    performWatcher settings request w.state = .returns response s → A w →
      A (w.record (.statement .watcher request response) s)

/-- A statement which does not concern any of the streams. -/
def NoEffect (entry : Controller × Label Response Move) : Prop :=
  pointStream.effect entry = .other ∧ imuStream.effect entry = .other ∧
    ggaStream.effect entry = .other ∧ rawStream.effect entry = .other

theorem Uninvolved.noEffect {request : WatcherRequest} (h : Uninvolved request)
    (s : Controller) (response : request.Response) :
    NoEffect (s, .statement .watcher request response) := by
  cases request with
  | storeAppState state => exact h.elim
  | startLog => exact h.elim
  | retrieveData => exact h.elim
  | gnssStartLog => exact h.elim
  | gnssRetrieveData => exact h.elim
  | gnssRetrieveRawData => exact h.elim
  | savePointcloudData buffer directory chunk => exact h.elim
  | saveImuData buffer directory chunk => exact h.elim
  | saveGnssData buffer directory chunk => exact h.elim
  | saveGnssRawData buffer directory chunk => exact h.elim
  | _ => exact ⟨rfl, rfl, rfl, rfl⟩

theorem Accounts.noEffect {request : WatcherRequest} {response : request.Response}
    {s : Controller} (h : Accounts owed w)
    (hEffect : NoEffect (w.state, .statement .watcher request response))
    (hPerform : performWatcher settings request w.state = .returns response s) :
    Accounts owed (w.record (.statement .watcher request response) s) := by
  obtain ⟨hPoints, hImu, hGga, hRaw⟩ := hEffect
  constructor
  · exact h.points.other (pointStream.lawful settings sessionGuarantee) hPerform hPoints
  · exact h.imu.other (imuStream.lawful settings sessionGuarantee) hPerform hImu
  · exact h.gga.other (ggaStream.lawful settings sessionGuarantee) hPerform hGga
  · exact h.raw.other (rawStream.lawful settings sessionGuarantee) hPerform hRaw

/-- No other thread takes the GNSS client away again. -/
theorem perform_hasGnss {t : Thread} {request : Request t} {response : Response t request}
    {s s' : Controller} (ht : t ≠ .watcher)
    (h : (machine settings).perform t request s = .returns response s')
    (hGnss : s.gnssClientPtr ≠ none) : s'.gnssClientPtr ≠ none := by
  cases t with
  | watcher => exact absurd rfl ht
  | livox =>
      rcases performLivox_cases h with ⟨-, rfl⟩ | ⟨-, rfl⟩ | hChanges
      · exact hGnss
      · exact Option.some_ne_none _
      · simpa [hChanges.gnssClientPtr] using hGnss
  | gpio => rwa [(performGpio_sameData h).gnssClientPtr]
  | gnss => simpa [(performGnss_changes h).gnssClientPtr] using hGnss

theorem hasGnss_performWatcher {request : WatcherRequest} {response : request.Response}
    {s : Controller} (h : performWatcher settings request w.state = .returns response s)
    (hGnss : HasGnss w) : HasGnss (w.record (.statement .watcher request response) s) := by
  have hClients : s.gnssClientPtr.isSome = w.state.gnssClientPtr.isSome :=
    congrArg Prod.snd (performWatcher_changes h).clients
  rw [HasGnss, ← Option.isSome_iff_ne_none] at hGnss ⊢
  exact hClients.trans hGnss

variable (settings)

theorem aboutStreams_accounts (owed : Owed) : AboutStreams settings (Accounts owed) where
  stable := by
    intro w w' hStep hw
    constructor
    · exact hw.points.others (pointStream.lawful settings sessionGuarantee) hStep
    · exact hw.imu.others (imuStream.lawful settings sessionGuarantee) hStep
    · exact hw.gga.others (ggaStream.lawful settings sessionGuarantee) hStep
    · exact hw.raw.others (rawStream.lawful settings sessionGuarantee) hStep
  uninvolved _ response w _ hUninvolved hPerform hw :=
    hw.noEffect (hUninvolved.noEffect w.state response) hPerform

theorem aboutStreams_kept {α : Type} (σ : LidarStream α) (pointer : Option Nat) (items : List α) :
    AboutStreams settings (σ.Kept pointer items) where
  stable := by
    intro w w' hStep hw p hp
    obtain ⟨label, s, rfl, -, hBuffer⟩ := σ.others_step hStep
    exact hBuffer.keeps (hw p hp)
  uninvolved _ _ _ _ _ hPerform hw p hp := (σ.watcher_step hPerform).keeps (hw p hp)

theorem aboutStreams_hasGnss : AboutStreams settings HasGnss where
  stable := by
    rintro w w' (hMove | ⟨hOther, -, hPerform⟩) hw
    · exact (congrArg (· ≠ none) (move_gnssClientPtr hMove)).mpr hw
    · exact perform_hasGnss hOther hPerform hw
  uninvolved _ _ _ _ _ hPerform hw := hasGnss_performWatcher hPerform hw

theorem aboutStreams_taken : AboutStreams settings Taken where
  stable := by
    intro w w' hStep ⟨entry, hEntry, hTaken⟩
    obtain ⟨label, s, rfl, -⟩ := interference_record hStep
    exact ⟨entry, List.mem_cons_of_mem _ hEntry, hTaken⟩
  uninvolved := by
    rintro request response w s - - ⟨entry, hEntry, hTaken⟩
    exact ⟨entry, List.mem_cons_of_mem _ hEntry, hTaken⟩

end Assertions

section Rules

variable {settings : Settings} {A B : History → Prop}

theorem AboutStreams.preserves (h : AboutStreams settings A) (request : WatcherRequest)
    (hUninvolved : Uninvolved request) :
    (machine settings).Preserves (guarantee sessionGuarantee) .watcher A request :=
  fun w hw => ⟨hUninvolved.allowed w, fun response s hPerform =>
    h.uninvolved request response w s hUninvolved hPerform hw⟩

theorem AboutStreams.robust (h : AboutStreams settings A) :
    Robust settings sessionGuarantee A :=
  ⟨h.stable, fun request hQuiet => h.preserves request hQuiet.uninvolved⟩

theorem AboutStreams.keeps (h : AboutStreams settings A) {Result : Type} {code : Code Result}
    (hCode : code.Issues Uninvolved) :
    WatcherTriple settings sessionGuarantee A code fun _ => A :=
  Machine.Keeps.of_issues h.stable (hCode.mono h.preserves)

theorem AboutStreams.and (hA : AboutStreams settings A) (hB : AboutStreams settings B) :
    AboutStreams settings fun w => A w ∧ B w where
  stable := hA.stable.and hB.stable
  uninvolved request response w s hUninvolved hPerform hw :=
    ⟨hA.uninvolved request response w s hUninvolved hPerform hw.1,
      hB.uninvolved request response w s hUninvolved hPerform hw.2⟩

/-- A fact which does not depend on the history may hold instead. -/
theorem AboutStreams.or_fact (hA : AboutStreams settings A) (p : Prop) :
    AboutStreams settings fun w => A w ∨ p where
  stable := hA.stable.or (.const p)
  uninvolved request response w s hUninvolved hPerform hw :=
    hw.imp_left (hA.uninvolved request response w s hUninvolved hPerform)

/-- Data which were taken out of the lidar buffers are on their way. The
pointers lead to `kept`, and `owed` is what no save function has got yet. There
is a GNSS client unless `noGnss` holds. -/
def Carrying (buffers : Option Nat × Option Nat) (kept : List LivoxPoint × List LivoxIMU)
    (noGnss : Prop) (owed : Owed) (w : History) : Prop :=
  Accounts owed w ∧ pointStream.Kept buffers.1 kept.1 w ∧ imuStream.Kept buffers.2 kept.2 w ∧
    Taken w ∧ (HasGnss w ∨ noGnss)

variable (settings) {buffers : Option Nat × Option Nat} {kept : List LivoxPoint × List LivoxIMU}
  {noGnss : Prop}

theorem aboutStreams_carrying (owed : Owed) :
    AboutStreams settings (Carrying buffers kept noGnss owed) :=
  (aboutStreams_accounts settings owed).and <| (aboutStreams_kept settings pointStream _ _).and <|
    (aboutStreams_kept settings imuStream _ _).and <| (aboutStreams_taken settings).and <|
      (aboutStreams_hasGnss settings).or_fact noGnss

/-- Only the books change. -/
theorem triple_carry {request : WatcherRequest} {owed : Owed} {owed' : request.Response → Owed}
    (hAllowed : ∀ w, sessionGuarantee request w)
    (hAccounts : ∀ w response s, Carrying buffers kept noGnss owed w →
      performWatcher settings request w.state = .returns response s →
        Accounts (owed' response) (w.record (.statement .watcher request response) s)) :
    WatcherTriple settings sessionGuarantee (Carrying buffers kept noGnss owed) (call request)
      fun response => Carrying buffers kept noGnss (owed' response) := by
  refine .perform (aboutStreams_carrying settings owed).stable
    (fun response => (aboutStreams_carrying settings (owed' response)).stable)
    (fun w _ => hAllowed w) ?_
  intro w response s hw hPerform
  obtain ⟨-, hPoints, hImu, ⟨entry, hEntry, hTaken⟩, hGnss⟩ := id hw
  refine ⟨hAccounts w response s hw hPerform, ?_, ?_,
    ⟨entry, List.mem_cons_of_mem _ hEntry, hTaken⟩, hGnss.imp_left ?_⟩
  · exact fun p hp => (pointStream.watcher_step hPerform).keeps (hPoints p hp)
  · exact fun p hp => (imuStream.watcher_step hPerform).keeps (hImu p hp)
  · exact hasGnss_performWatcher hPerform

/-- The pointer which is taken away leads to what the buffer held. -/
theorem LidarStream.kept_retrieved {α : Type} (σ : LidarStream α) {w w' : History}
    {client : LivoxClient} {items : List α} (hClient : w.state.livoxCLientPtr = some client)
    (hAfter : w'.state.livoxCLientPtr = some client.startLog)
    (hHeld : ∀ content, σ.stream.held w.state = some content → content = items) :
    σ.Kept (σ.buffer client).pointer items w' := by
  intro p hp
  have hContent : σ.stream.held w.state = some (σ.buffer client).current :=
    (σ.held_some hClient).trans (SwapBuffer.held_of_some hp)
  rw [σ.content_some hAfter, σ.startLog_buffer, ← hHeld _ hContent]
  exact ⟨_, rfl, SwapBuffer.retrieve_keeps hp⟩

theorem triple_retrieveData_level :
    WatcherTriple settings sessionGuarantee Level (call .retrieveData) fun buffers w =>
      ∃ kept : List LivoxPoint × List LivoxIMU,
        Carrying buffers kept True ⟨kept.1, kept.2, [], []⟩ w := by
  refine .perform (aboutStreams_accounts settings _).stable
    (fun buffers => .exists fun kept => (aboutStreams_carrying settings _).stable)
    (fun _ _ => trivial) ?_
  intro w buffers s hw hMachine
  have hPerform : performWatcher settings .retrieveData w.state = .returns buffers s := hMachine
  obtain ⟨points, hPoints, hPointAccount⟩ := hw.points.retrieve
    (pointStream.lawful settings sessionGuarantee) hPerform rfl
  obtain ⟨imu, hImu, hImuAccount⟩ := hw.imu.retrieve
    (imuStream.lawful settings sessionGuarantee) hPerform rfl
  have hGga := hw.gga.other (ggaStream.lawful settings sessionGuarantee) hPerform rfl
  have hRaw := hw.raw.other (rawStream.lawful settings sessionGuarantee) hPerform rfl
  obtain ⟨client, hClient, rfl, rfl⟩ := withLivox_returns hPerform
  refine ⟨(points, imu), ⟨hPointAccount, hImuAccount, hGga, hRaw⟩, ?_, ?_,
    ⟨_, List.mem_cons_self, rfl⟩, .inr trivial⟩
  · exact pointStream.kept_retrieved hClient rfl hPoints
  · exact imuStream.kept_retrieved hClient rfl hImu

variable {owed : Owed}

theorem triple_gnssRetrieveData (hNone : owed.gga = []) :
    WatcherTriple settings sessionGuarantee (Carrying buffers kept noGnss owed)
      (call .gnssRetrieveData)
      fun lines => Carrying buffers kept noGnss { owed with gga := lines } := by
  refine triple_carry settings (fun _ => trivial) ?_
  intro w lines s ⟨hw, _⟩ hPerform
  obtain ⟨items, hHeld, hGga⟩ := (hNone ▸ hw.gga).retrieve
    (ggaStream.lawful settings sessionGuarantee) hPerform rfl
  have hLines : lines = items := by
    obtain ⟨client, hClient, rfl, -⟩ := withGnss_returns hPerform
    exact hHeld _ (congrArg some (ggaStream.content_some hClient))
  refine ⟨?_, ?_, hLines ▸ hGga, ?_⟩
  · exact hw.points.other (pointStream.lawful settings sessionGuarantee) hPerform rfl
  · exact hw.imu.other (imuStream.lawful settings sessionGuarantee) hPerform rfl
  · exact hw.raw.other (rawStream.lawful settings sessionGuarantee) hPerform rfl

theorem triple_gnssRetrieveRawData (hNone : owed.raw = []) :
    WatcherTriple settings sessionGuarantee (Carrying buffers kept noGnss owed)
      (call .gnssRetrieveRawData)
      fun lines => Carrying buffers kept noGnss { owed with raw := lines } := by
  refine triple_carry settings (fun _ => trivial) ?_
  intro w lines s ⟨hw, _⟩ hPerform
  obtain ⟨items, hHeld, hRaw⟩ := (hNone ▸ hw.raw).retrieve
    (rawStream.lawful settings sessionGuarantee) hPerform rfl
  have hLines : lines = items := by
    obtain ⟨client, hClient, rfl, -⟩ := withGnss_returns hPerform
    exact hHeld _ (congrArg some (rawStream.content_some hClient))
  refine ⟨?_, ?_, ?_, hLines ▸ hRaw⟩
  · exact hw.points.other (pointStream.lawful settings sessionGuarantee) hPerform rfl
  · exact hw.imu.other (imuStream.lawful settings sessionGuarantee) hPerform rfl
  · exact hw.gga.other (ggaStream.lawful settings sessionGuarantee) hPerform rfl

/-- A save function which returns has not followed a null pointer. -/
theorem LidarStream.saved_items {α : Type} (σ : LidarStream α) {w : History} {items : List α}
    {pointer : Option Nat} (hKept : σ.Kept pointer items w) (hPointer : pointer ≠ none) :
    ((σ.content w.state).map fun buffer => buffer.content pointer).getD [] = items := by
  obtain ⟨p, rfl⟩ := Option.ne_none_iff_exists'.mp hPointer
  obtain ⟨buffer, hBuffer, -, hItems⟩ := hKept p rfl
  rw [hBuffer, Option.map_some, Option.getD_some, hItems]

theorem triple_savePointcloudData (hOwed : owed.points = kept.1) (directory : String)
    (chunk : Int32) :
    WatcherTriple settings sessionGuarantee (Carrying buffers kept noGnss owed)
      (call (.savePointcloudData buffers.1 directory chunk))
      fun _ => Carrying buffers kept noGnss { owed with points := [] } := by
  refine triple_carry settings (fun _ => trivial) ?_
  intro w response s ⟨hw, hKept, _⟩ hPerform
  have hItems := pointStream.saved_items hKept (withBuffer_returns hPerform).2
  constructor
  · exact hw.points.hand (pointStream.lawful settings sessionGuarantee) hPerform
      (congrArg Effect.hand (hItems.trans hOwed.symm))
  · exact hw.imu.other (imuStream.lawful settings sessionGuarantee) hPerform rfl
  · exact hw.gga.other (ggaStream.lawful settings sessionGuarantee) hPerform rfl
  · exact hw.raw.other (rawStream.lawful settings sessionGuarantee) hPerform rfl

theorem triple_saveImuData (hOwed : owed.imu = kept.2) (directory : String) (chunk : Int32) :
    WatcherTriple settings sessionGuarantee (Carrying buffers kept noGnss owed)
      (call (.saveImuData buffers.2 directory chunk))
      fun _ => Carrying buffers kept noGnss { owed with imu := [] } := by
  refine triple_carry settings (fun _ => trivial) ?_
  intro w response s ⟨hw, _, hKept, _⟩ hPerform
  have hItems := imuStream.saved_items hKept (withBuffer_returns hPerform).2
  constructor
  · exact hw.points.other (pointStream.lawful settings sessionGuarantee) hPerform rfl
  · exact hw.imu.hand (imuStream.lawful settings sessionGuarantee) hPerform
      (congrArg Effect.hand (hItems.trans hOwed.symm))
  · exact hw.gga.other (ggaStream.lawful settings sessionGuarantee) hPerform rfl
  · exact hw.raw.other (rawStream.lawful settings sessionGuarantee) hPerform rfl

theorem triple_saveGnssData (directory : String) (chunk : Int32) :
    WatcherTriple settings sessionGuarantee (Carrying buffers kept noGnss owed)
      (call (.saveGnssData owed.gga directory chunk))
      fun _ => Carrying buffers kept noGnss { owed with gga := [] } := by
  refine triple_carry settings (fun _ => trivial) ?_
  intro w response s ⟨hw, _⟩ hPerform
  constructor
  · exact hw.points.other (pointStream.lawful settings sessionGuarantee) hPerform rfl
  · exact hw.imu.other (imuStream.lawful settings sessionGuarantee) hPerform rfl
  · exact hw.gga.hand (ggaStream.lawful settings sessionGuarantee) hPerform rfl
  · exact hw.raw.other (rawStream.lawful settings sessionGuarantee) hPerform rfl

theorem triple_saveGnssRawData (directory : String) (chunk : Int32) :
    WatcherTriple settings sessionGuarantee (Carrying buffers kept noGnss owed)
      (call (.saveGnssRawData owed.raw directory chunk))
      fun _ => Carrying buffers kept noGnss { owed with raw := [] } := by
  refine triple_carry settings (fun _ => trivial) ?_
  intro w response s ⟨hw, _⟩ hPerform
  constructor
  · exact hw.points.other (pointStream.lawful settings sessionGuarantee) hPerform rfl
  · exact hw.imu.other (imuStream.lawful settings sessionGuarantee) hPerform rfl
  · exact hw.gga.other (ggaStream.lawful settings sessionGuarantee) hPerform rfl
  · exact hw.raw.hand (rawStream.lawful settings sessionGuarantee) hPerform rfl

end Rules

section Code

variable (settings : Settings)

theorem stable_lost : WatcherStable settings sessionGuarantee Lost := by
  intro w w' hStep ⟨later, before, earlier, hTrace, hTaken⟩
  obtain ⟨label, s, rfl, -⟩ := interference_record hStep
  exact ⟨_ :: later, before, earlier, congrArg (List.cons _) hTrace, hTaken⟩

theorem triple_lost {Result : Type} (code : Code Result) :
    WatcherTriple settings sessionGuarantee Lost code fun _ => Lost := by
  refine Machine.Keeps.of_issues (stable_lost settings) (.of_forall code fun request w hw => ?_)
  refine ⟨?_, fun response s _ => ?_⟩
  · simp only [guarantee, sessionGuarantee]
    split
    · exact .inr hw
    · trivial
  · obtain ⟨later, before, earlier, hTrace, hTaken⟩ := hw
    exact ⟨_ :: later, before, earlier, congrArg (List.cons _) hTrace, hTaken⟩

/-- Between the statements which retrieve and those which hand on. -/
abbrev SessionTriple {Result : Type} (A : History → Prop) (code : Code Result) : Prop :=
  WatcherTriple settings sessionGuarantee A code fun _ w => Level w ∨ Lost w

variable {buffers : Option Nat × Option Nat} {kept : List LivoxPoint × List LivoxIMU}
  {noGnss : Prop} {owed : Owed}

theorem triple_isSetGnss :
    WatcherTriple settings sessionGuarantee (Carrying buffers kept noGnss owed)
      (call (.isSet .gnssClientPtr)) fun isSet w =>
        (isSet = true ∨ noGnss) ∧ Carrying buffers kept (isSet = false) owed w := by
  refine .perform (aboutStreams_carrying settings owed).stable (fun isSet => ?_)
    (fun _ _ => trivial) ?_
  · exact Machine.Stable.and (.const _) (aboutStreams_carrying settings owed).stable
  · intro w isSet s hw hPerform
    obtain ⟨hAccounts, hPoints, hImu, hTaken, hGnss⟩ :=
      (aboutStreams_carrying settings owed).uninvolved (.isSet .gnssClientPtr) isSet w s trivial
        hPerform hw
    cases hPerform
    cases hSet : w.state.gnssClientPtr with
    | none => exact ⟨.inr (hw.2.2.2.2.resolve_left (absurd hSet)), hAccounts, hPoints, hImu, hTaken,
        .inr (by simp [isSet, hSet])⟩
    | some client => exact ⟨.inl (by simp [isSet, hSet]), hAccounts, hPoints, hImu, hTaken,
        .inl (by simp [HasGnss, World.record, hSet])⟩

theorem Carrying.weaken {w : History} {noGnss' : Prop} (h : Carrying buffers kept noGnss owed w)
    (hNone : noGnss → noGnss') : Carrying buffers kept noGnss' owed w :=
  ⟨h.1, h.2.1, h.2.2.1, h.2.2.2.1, h.2.2.2.2.imp_right hNone⟩

theorem triple_retrieveGnss (gnssClient : Bool) :
    WatcherTriple settings sessionGuarantee
      (Carrying buffers kept (gnssClient = false) ⟨kept.1, kept.2, [], []⟩)
      (retrieveGnss gnssClient) fun lines =>
        Carrying buffers kept (lines = ([], [])) ⟨kept.1, kept.2, lines.1, lines.2⟩ := by
  cases gnssClient with
  | false =>
      exact triple_return ([], []) (aboutStreams_carrying settings _).stable
        fun w hw => hw.weaken fun _ => rfl
  | true =>
      refine (triple_gnssRetrieveData settings rfl).bind fun gnssBuffer => ?_
      refine (triple_gnssRetrieveRawData settings rfl).bind fun gnssRawBuffer => ?_
      exact triple_return (gnssBuffer, gnssRawBuffer) (aboutStreams_carrying settings _).stable
        fun w hw => hw.weaken fun h => absurd h (by simp)

theorem triple_saveLidarData_carrying (directory : String) (chunk : Int32) (gga : List GgaCsvLine)
    (raw : List String) :
    WatcherTriple settings sessionGuarantee
      (Carrying buffers kept noGnss ⟨kept.1, kept.2, gga, raw⟩)
      (saveLidarData buffers.1 buffers.2 directory chunk)
      fun _ => Carrying buffers kept noGnss ⟨[], [], gga, raw⟩ := by
  refine (triple_savePointcloudData settings rfl directory chunk).bind fun _ => ?_
  refine (triple_saveImuData settings rfl directory chunk).bind fun _ => ?_
  refine (aboutStreams_carrying settings _).keeps ?_
  exact .bind (.perform trivial) fun _ => .bind (.perform trivial) fun _ => .perform trivial

/-- The lines are handed on if there is a client, and otherwise there are none. -/
theorem triple_saveGnss {gga : List GgaCsvLine} {raw : List String} {gnssClient : Bool}
    (hGnss : gnssClient = true ∨ (gga, raw) = ([], [])) (directory : String) (chunk : Int32) :
    WatcherTriple settings sessionGuarantee (Carrying buffers kept noGnss ⟨[], [], gga, raw⟩)
      (.when gnssClient do
        call (.saveGnssData gga directory chunk)
        call (.saveGnssRawData raw directory chunk)) fun _ => Level := by
  refine .when (fun _ => ?_) fun hNone => ?_
  · refine (triple_saveGnssData settings directory chunk).bind fun _ => ?_
    exact (triple_saveGnssRawData settings directory chunk).mono (fun _ hw => hw) fun _ _ hw => hw.1
  · obtain ⟨rfl, rfl⟩ := Prod.mk.inj (hGnss.resolve_left (by simp [hNone]))
    exact triple_return () (aboutStreams_carrying settings _).stable fun _ hw => hw.1

theorem triple_saveLastChunk_level (gga : List GgaCsvLine) (directory : String) (chunk : Int32) :
    WatcherTriple settings sessionGuarantee
      (Carrying buffers kept (gga = []) ⟨kept.1, kept.2, gga, []⟩)
      (saveLastChunk buffers gga directory chunk) fun _ => Level := by
  refine (triple_saveLidarData_carrying settings directory chunk gga []).bind fun _ => ?_
  refine (triple_isSetGnss settings).bind fun gnssClient => .of_fact fun hGnss => ?_
  refine .when (fun _ => ?_) fun hNone => ?_
  · exact (triple_saveGnssData settings directory chunk).mono (fun _ hw => hw) fun _ _ hw => hw.1
  · obtain rfl := hGnss.resolve_left (by simp [hNone])
    exact triple_return () (aboutStreams_carrying settings _).stable fun _ hw => hw.1

/-- The lines of the raw log are not taken. -/
theorem triple_closeLogs_carrying :
    WatcherTriple settings sessionGuarantee Level closeLogs fun closed w =>
      ∃ kept : List LivoxPoint × List LivoxIMU,
        Carrying closed.1 kept (closed.2 = []) ⟨kept.1, kept.2, closed.2, []⟩ w := by
  refine (triple_retrieveData_level settings).bind fun buffers => .of_exists fun kept => ?_
  have hCarrying : ∀ noGnss gga, AboutStreams settings
      (Carrying buffers kept noGnss ⟨kept.1, kept.2, gga, []⟩) := fun _ _ =>
    aboutStreams_carrying settings _
  have hStop : WatcherTriple settings sessionGuarantee
      (Carrying buffers kept True ⟨kept.1, kept.2, [], []⟩) (call .stopLog)
      fun _ => Carrying buffers kept True ⟨kept.1, kept.2, [], []⟩ :=
    (hCarrying True []).keeps (.perform trivial)
  refine hStop.bind fun _ => (triple_isSetGnss settings).bind fun gnssClient => .of_fact fun _ => ?_
  cases gnssClient with
  | false =>
      exact triple_return (buffers, []) (hCarrying _ _).stable
        fun w hw => ⟨kept, hw.weaken fun _ => rfl⟩
  | true =>
      refine (triple_gnssRetrieveData settings rfl).bind fun gnssData => ?_
      have hGnssStop : WatcherTriple settings sessionGuarantee
          (Carrying buffers kept (true = false) ⟨kept.1, kept.2, gnssData, []⟩)
          (call .gnssStopLog)
          fun _ => Carrying buffers kept (true = false) ⟨kept.1, kept.2, gnssData, []⟩ :=
        (hCarrying (true = false) gnssData).keeps (.perform trivial)
      exact hGnssStop.bind fun _ => triple_return (buffers, gnssData) (hCarrying _ _).stable
        fun w hw => ⟨kept, hw.weaken fun h => absurd h (by simp)⟩

/-- Giving up loses what is on its way. -/
theorem triple_lose :
    WatcherTriple settings sessionGuarantee (Carrying buffers kept noGnss owed)
      (call (.storeAppState .usbIoError)) fun _ => Lost := by
  refine .perform (aboutStreams_carrying settings owed).stable (fun _ => stable_lost settings)
    (fun _ _ => trivial) ?_
  intro w response s ⟨_, _, _, hTaken, _⟩ _
  exact ⟨[], w.state, w.trace, rfl, hTaken⟩

variable (locals : Locals)

theorem session_rotateChunk : SessionTriple settings Level (rotateChunk locals) := by
  have hLevel := aboutStreams_accounts settings ⟨[], [], [], []⟩
  refine hLevel.robust.statement (.setLed .copyData true) trivial fun _ => ?_
  refine hLevel.robust.statement .steadyClockNow trivial fun chunkStart => ?_
  refine (triple_retrieveData_level settings).bind fun buffers => .of_exists fun kept => ?_
  refine (triple_isSetGnss settings).bind fun gnssClient => .of_fact fun _ => ?_
  refine (triple_retrieveGnss settings gnssClient).bind fun ⟨gnssBuffer, gnssRawBuffer⟩ => ?_
  dsimp only
  split_ifs
  · exact (triple_lose settings).bind fun _ =>
      triple_return _ (stable_lost settings) fun _ hw => .inr hw
  · refine (triple_saveLidarData_carrying settings _ _ _ _).bind fun _ => ?_
    refine (triple_isSetGnss settings).bind fun gnssClient => .of_fact fun hGnss => ?_
    refine (triple_saveGnss settings hGnss _ _).bind fun _ => ?_
    exact hLevel.robust.statement (.setLed .copyData false) trivial fun _ =>
      triple_return _ hLevel.stable fun _ hw => .inl hw

theorem preserves_level {request : WatcherRequest}
    (hEffect : ∀ s response, NoEffect (s, .statement .watcher request response)) :
    (machine settings).Preserves (guarantee sessionGuarantee) .watcher Level request := by
  intro w hw
  refine ⟨?_, fun response s hPerform => Accounts.noEffect hw (hEffect _ response) hPerform⟩
  simp only [guarantee, sessionGuarantee]
  split
  · exact .inl hw
  · trivial

theorem preserves_level_store (state : States) :
    (machine settings).Preserves (guarantee sessionGuarantee) .watcher Level
      (.storeAppState state) :=
  preserves_level settings fun _ _ => ⟨rfl, rfl, rfl, rfl⟩

theorem preserves_level_test (state : States) :
    (machine settings).Preserves (guarantee sessionGuarantee) .watcher Level
      (.testAppState state) :=
  preserves_level settings fun _ _ => ⟨rfl, rfl, rfl, rfl⟩

theorem preserves_level_startLog :
    (machine settings).Preserves (guarantee sessionGuarantee) .watcher Level .startLog := by
  refine fun w hw => ⟨trivial, fun response s hPerform => ⟨?_, ?_, ?_, ?_⟩⟩
  · exact .start (pointStream.lawful settings sessionGuarantee) hPerform rfl
  · exact .start (imuStream.lawful settings sessionGuarantee) hPerform rfl
  · exact hw.gga.other (ggaStream.lawful settings sessionGuarantee) hPerform rfl
  · exact hw.raw.other (rawStream.lawful settings sessionGuarantee) hPerform rfl

theorem preserves_level_gnssStartLog :
    (machine settings).Preserves (guarantee sessionGuarantee) .watcher Level .gnssStartLog := by
  refine fun w hw => ⟨trivial, fun response s hPerform => ⟨?_, ?_, ?_, ?_⟩⟩
  · exact hw.points.other (pointStream.lawful settings sessionGuarantee) hPerform rfl
  · exact hw.imu.other (imuStream.lawful settings sessionGuarantee) hPerform rfl
  · exact .start (ggaStream.lawful settings sessionGuarantee) hPerform rfl
  · exact .start (rawStream.lawful settings sessionGuarantee) hPerform rfl

/-- A branch which takes nothing out of the buffers. -/
theorem session_of_issues {Result : Type} {code : Code Result}
    (h : code.Issues ((machine settings).Preserves (guarantee sessionGuarantee) .watcher Level)) :
    SessionTriple settings Level code :=
  (Machine.Keeps.of_issues (aboutStreams_accounts settings _).stable h).mono (fun _ hw => hw)
    fun _ _ hw => .inl hw

theorem session_or_lost {Result : Type} {code : Code Result}
    (h : SessionTriple settings Level code) :
    SessionTriple settings (fun w => Level w ∨ Lost w) code :=
  .or h ((triple_lost settings code).mono (fun _ hw => hw) fun _ _ hw => .inr hw)

theorem session_checkChunk (now : Int) : SessionTriple settings Level (checkChunk now locals) := by
  have hLevel := aboutStreams_accounts settings ⟨[], [], [], []⟩
  have hTested : WatcherTriple settings sessionGuarantee Level
      (andAlso (seconds 10 < now - locals.chunkStart) (call (.testAppState .scanning)))
      fun _ => Level :=
    Machine.Keeps.of_issues hLevel.stable
      (issues_andAlso (.perform (preserves_level_test settings _)))
  refine hTested.bind fun chunkEnds => ?_
  cases chunkEnds with
  | false => exact triple_return locals hLevel.stable fun _ hw => .inl hw
  | true => exact session_rotateChunk settings locals

theorem session_scanning : SessionTriple settings Level (scanning locals) := by
  have hLevel := aboutStreams_accounts settings ⟨[], [], [], []⟩
  have hQuiet := hLevel.robust.quiet
  have hCalm := hLevel.robust.calm
  have hShow : WatcherTriple settings sessionGuarantee Level showScanning fun _ => Level :=
    Machine.Keeps.of_issues hLevel.stable
      (issues_showScanning hCalm (preserves_level_test settings))
  refine hShow.bind fun _ => ?_
  refine hLevel.robust.statement .steadyClockNow trivial fun now => ?_
  refine hLevel.robust.before (.when (issues_blink _ _ _)) fun _ => ?_
  refine hLevel.robust.before (.when (issues_blink _ _ _)) fun _ => ?_
  refine (session_checkChunk settings locals now).bind fun rotated => session_or_lost settings ?_
  have hStage := issues_confirmationStage hCalm (preserves_level_test settings)
    (preserves_level_store settings .scanning)
  have hDeadline := fun changeLed time => hQuiet (.storeDeadline changeLed time) trivial
  refine session_of_issues settings (.bind (hStage _ _ _ (hDeadline _) _ _) fun _ => ?_)
  refine .bind (hStage _ _ _ (hDeadline _) _ _) fun _ => ?_
  exact .bind (.perform (hQuiet _ trivial)) fun _ => .done

/-- The end of a branch which has saved its last chunk. -/
theorem session_close (state : States) (result : Locals) :
    SessionTriple settings Level
      (do
        call (.storeAppState state)
        return result) :=
  session_of_issues settings
    (.bind (.perform (preserves_level_store settings state)) fun _ => .done)

theorem session_lose (result : Locals) :
    SessionTriple settings (Carrying buffers kept noGnss owed)
      (do
        call (.storeAppState .usbIoError)
        return result) :=
  (triple_lose settings).bind fun _ =>
    triple_return result (stable_lost settings) fun _ hw => .inr hw

theorem session_stopping : SessionTriple settings Level (stopping locals) := by
  have hLevel := aboutStreams_accounts settings ⟨[], [], [], []⟩
  refine hLevel.robust.before issues_showCopying fun _ => ?_
  refine (triple_closeLogs_carrying settings).bind fun ⟨buffers, gnssData⟩ =>
    .of_exists fun kept => ?_
  dsimp only
  refine (aboutStreams_carrying settings _).robust.before (issues_blinkTimes _ _ _ _) fun _ => ?_
  refine (aboutStreams_carrying settings _).robust.before issues_showCopying fun _ => ?_
  split_ifs
  · exact session_lose settings locals
  · refine (triple_saveLastChunk_level settings gnssData _ _).bind fun _ => ?_
    exact hLevel.robust.statement (.setLed .copyData false) trivial fun _ =>
      session_close settings _ _

theorem session_stopingStopScan : SessionTriple settings Level (stopingStopScan locals) := by
  have hLevel := aboutStreams_accounts settings ⟨[], [], [], []⟩
  refine hLevel.robust.before issues_showStopScanClosing fun _ => ?_
  refine (triple_closeLogs_carrying settings).bind fun ⟨buffers, gnssData⟩ =>
    .of_exists fun kept => ?_
  dsimp only
  split_ifs
  · exact session_lose settings locals
  · refine (triple_saveLastChunk_level settings gnssData _ _).bind fun _ => ?_
    exact hLevel.robust.before issues_showStopScanEnd fun _ => session_close settings _ _

theorem branches_level :
    BranchTriples settings sessionGuarantee (fun _ => Level) locals
      fun _ w => Level w ∨ Lost w := by
  have hQuiet := (aboutStreams_accounts settings ⟨[], [], [], []⟩).robust.quiet
  have hCalm := (aboutStreams_accounts settings ⟨[], [], [], []⟩).robust.calm
  have hStore := preserves_level_store settings
  have hStart := preserves_level_startLog settings
  have hGnssStart := preserves_level_gnssStartLog settings
  constructor
  case usbIoError => exact session_of_issues settings (issues_usbIoError hCalm settings locals)
  case waitForResources =>
    exact session_of_issues settings (issues_waitForResources hQuiet settings locals (hStore _))
  case idle =>
    exact session_of_issues settings (issues_idle hCalm settings locals (hStore _) (hStore _))
  case startingScan =>
    exact session_of_issues settings
      (issues_startingScan hCalm locals hStart hGnssStart (hStore _))
  case scanning => exact fun _ _ => session_scanning settings locals
  case stopping => exact session_stopping settings locals
  case startingStopScan =>
    exact session_of_issues settings (issues_startingStopScan hCalm locals (hStore _))
  case stopScanInInitialProgress =>
    exact session_of_issues settings
      (issues_stopScanInInitialProgress hCalm locals hStart hGnssStart (hStore _))
  case stopScanInProgress =>
    exact session_of_issues settings (issues_stopScanInProgress hCalm locals (hStore _))
  case stopingStopScan => exact session_stopingStopScan settings locals

theorem observes_level : Observes settings sessionGuarantee Level fun _ => Level where
  robust := (aboutStreams_accounts settings _).robust
  entered _ := (aboutStreams_accounts settings _).stable
  allowed _ _ _ := trivial
  found w hw :=
    (preserves_level_test settings _ w hw).2 true w.state (by simp [machine, performWatcher])
  notFound state w hw hNe :=
    (preserves_level_test settings state w hw).2 false w.state
      (by simp [machine, performWatcher, hNe])

end Code

/-- Before the process does anything there is nothing in the books. -/
theorem Level.initial {s : Controller} (h : s.Initial) : Level ⟨s, []⟩ := by
  have hLivox : ∀ {α : Type} (σ : LidarStream α), σ.stream.Account [] ⟨s, []⟩ := by
    intro α σ
    refine ⟨?_, Ledger.owes_empty⟩
    have hHeld : σ.stream.held s = none := by
      simp only [LidarStream.stream, LidarStream.content, h.livoxCLientPtr, Option.map_none,
        Option.bind_none]
    rw [hHeld]
    exact Ledger.holds_none
  have hGnss : ∀ {α : Type} (σ : GnssStream α), σ.stream.Account [] ⟨s, []⟩ := by
    intro α σ
    refine ⟨fun items hItems => ?_, Ledger.owes_empty⟩
    have hContent : σ.content s = [] := by
      rw [GnssStream.content, h.gnssClientPtr, Option.map_none, Option.getD_none]
    exact (Option.some.inj hItems).symm.trans hContent
  exact ⟨hLivox pointStream, hLivox imuStream, hGnss ggaStream, hGnss rawStream⟩

theorem session_contract (settings : Settings) :
    (system settings).Contract (guarantee sessionGuarantee) Controller.Initial
      (posts fun _ w => Level w ∨ Lost w) := by
  have hLevel := aboutStreams_accounts settings ⟨[], [], [], []⟩
  refine contract_of_watcher (fun s hInitial => ?_) fun locals => ?_
  · have hStartUp : SessionTriple settings Level startUp :=
      session_of_issues settings <| issues_startUp (hLevel.robust.calm _ trivial)
        (hLevel.robust.calm _ trivial)
        (fun _ => hLevel.preserves _ trivial) (fun _ => hLevel.preserves _ trivial)
        (preserves_level_store settings _)
    refine hStartUp.mono ?_ fun _ _ hw => hw
    rintro w rfl
    exact Level.initial hInitial
  · have hError : WatcherTriple settings sessionGuarantee Level (lidarError settings)
        fun _ => Level := hLevel.robust.keeps (issues_showError _ _ _ _ _)
    refine session_or_lost settings ?_
    exact (observes_level settings).round hError (branches_level settings locals)
      (fun _ hw => .inl hw) fun _ hw => .inl hw

/-- The watcher never gives up while it carries data: without a directory it has
given up at its start. -/
theorem not_lost {settings : Settings} {s : Controller} (hInitial : s.Initial)
    {c : Configuration Response Local Controller Move} (h : (system settings).Reachable s c) :
    ¬Lost c.world := by
  rintro ⟨later, before, earlier, hTrace, entry, hEntry, hTaken⟩
  obtain ⟨-, hNothing, -⟩ := (startUp_contract settings).recorded hInitial h hTrace
  simp [hNothing entry hEntry] at hTaken

/-- A build with a GNSS receiver, all of whose lines are sentences but none a
GGA sentence. -/
def gnssSettings : Settings :=
  { plainSettings with gnssPort := "/dev/ttyS0", minmea := ⟨fun _ => true, fun _ => none⟩ }

/-- A continuous scan of a single chunk, with deliveries between two rounds. -/
def wholeScan (deliveries : List (Choice Thread Move)) : List (Choice Thread Move) :=
  untilIdle ++ steps .livox 8 ++ [.move (.trigger .startScan)] ++ steps .watcher 29 ++
    deliveries ++ [.move (.trigger .stopScan)] ++ steps .watcher 113

/-- A packet with an IMU sample. -/
def imuPacket : LivoxLidarEthernetPacket where
  timeInterval := 0
  dotNum := 1
  dataType := kLivoxLidarImuData
  timestamp := 1
  pointData _ := ⟨0, 0, 0, 0, 0⟩
  imuData := ⟨0, 0, 0, 0, 0, 0⟩

end Mandeye.Controller
