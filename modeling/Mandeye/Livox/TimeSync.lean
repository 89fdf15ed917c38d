import Mandeye.Livox.LockDiscipline

/-! What the lidars have told about their synchronisation, and what `isSynced` makes of it. A
lidar may answer before it has been added, and the serial number of such a lidar is looked up
in vain. -/
namespace Mandeye.LivoxClient.WatchThread

open Interleaving

abbrev History := List (Shared × Label Respond Move)

/-- What a label tells about the synchronisation of a lidar. -/
def toldTimeSync (handle : UInt32) : Label Respond Move → Option Int32
  | .statement _ (.receiveParam sender kv) _ =>
      if sender = handle ∧ kv.key = kKeyTimeSyncType then some (Int32.ofNat (kv.value 0).toNat)
      else none
  | _ => none

/-- The kind of synchronisation which a lidar told last. -/
def lastTimeSync (handle : UInt32) : History → Option Int32
  | [] => none
  | entry :: earlier => (toldTimeSync handle entry.2).or (lastTimeSync handle earlier)

def adds (handle : UInt32) : Label Respond Move → Prop
  | .statement _ (.addLidar added _) _ => added = handle
  | _ => False

def Added (handle : UInt32) (history : History) : Prop := ∃ entry ∈ history, adds handle entry.2

/-- What the client knows is what the history tells. -/
structure Told (w : World Respond Shared Move) : Prop where
  timeSync : ∀ handle, w.state.client.livoxLidarTimeSync.lookup handle =
    lastTimeSync handle w.trace
  added : ∀ handle, handle ∈ w.state.client.handleToSerialNumber ↔ Added handle w.trace

theorem added_cons {handle : UInt32} {entry : Shared × Label Respond Move} {earlier : History} :
    Added handle (entry :: earlier) ↔ adds handle entry.2 ∨ Added handle earlier := by
  simp [Added]

/-- A label which tells nothing, and leaves what the client knows alone. -/
theorem Told.quiet {w : World Respond Shared Move} {label : Label Respond Move} {state : Shared}
    (h : Told w) (hTold : ∀ handle, toldTimeSync handle label = none)
    (hAdds : ∀ handle, ¬adds handle label)
    (hTimeSync : state.client.livoxLidarTimeSync = w.state.client.livoxLidarTimeSync)
    (hSerial : state.client.handleToSerialNumber = w.state.client.handleToSerialNumber) :
    Told (w.record label state) := by
  constructor
  · intro handle
    change state.client.livoxLidarTimeSync.lookup handle =
      (toldTimeSync handle label).or (lastTimeSync handle w.trace)
    rw [hTimeSync, hTold, Option.none_or]
    exact h.timeSync handle
  · intro handle
    change handle ∈ state.client.handleToSerialNumber ↔ Added handle ((w.state, label) :: w.trace)
    rw [hSerial, added_cons, or_iff_right (hAdds handle)]
    exact h.added handle

theorem lookup_timeSync_receiveParam (client : LivoxClient) (sender handle : UInt32)
    (kv : LivoxLidarKeyValueParam) :
    (client.receiveParam sender kv).livoxLidarTimeSync.lookup handle =
      if sender = handle ∧ kv.key = kKeyTimeSyncType then some (Int32.ofNat (kv.value 0).toNat)
      else client.livoxLidarTimeSync.lookup handle := by
  by_cases hSender : sender = handle
  · subst hSender
    rw [receiveParam_timeSync]
    simp only [true_and]
  · rw [if_neg fun h => hSender h.1, LivoxClient.receiveParam]
    split_ifs
    · rfl
    · exact AList.lookup_insert_ne fun h => hSender h.symm
    · rfl

theorem Told.receiveParam {w : World Respond Shared Move} {t : Thread} {sender : UInt32}
    {kv : LivoxLidarKeyValueParam} {state : Shared} (h : Told w)
    (hClient : state.client = w.state.client.receiveParam sender kv) :
    Told (w.record (.statement t (.receiveParam sender kv) ()) state) := by
  constructor
  · intro handle
    change state.client.livoxLidarTimeSync.lookup handle =
      (if sender = handle ∧ kv.key = kKeyTimeSyncType then some _ else none).or
        (lastTimeSync handle w.trace)
    rw [hClient, lookup_timeSync_receiveParam, h.timeSync]
    split_ifs <;> rfl
  · intro handle
    have hSerial : state.client.handleToSerialNumber = w.state.client.handleToSerialNumber := by
      rw [hClient, LivoxClient.receiveParam]
      split_ifs <;> rfl
    change handle ∈ state.client.handleToSerialNumber ↔ Added handle (_ :: w.trace)
    rw [hSerial, added_cons]
    exact (h.added handle).trans (or_iff_right id).symm

theorem Told.addLidar {w : World Respond Shared Move} {t : Thread} {added : UInt32}
    {info : LivoxLidarInfo} {state : Shared} (h : Told w)
    (hClient : state.client = w.state.client.lidarInfoChangeCallback added info) :
    Told (w.record (.statement t (.addLidar added info) ()) state) := by
  constructor
  · intro handle
    change state.client.livoxLidarTimeSync.lookup handle =
      (none : Option Int32).or (lastTimeSync handle w.trace)
    rw [hClient, Option.none_or]
    exact h.timeSync handle
  · intro handle
    change handle ∈ state.client.handleToSerialNumber ↔ Added handle (_ :: w.trace)
    rw [hClient, added_cons, ← h.added handle]
    exact (AList.mem_insert _).trans (or_congr_left eq_comm)

/-- The statements which tell nothing of a lidar. -/
def Tells : Request → Prop
  | .receiveParam _ _ => True
  | .addLidar _ _ => True
  | _ => False

theorem Told.unchanged {w : World Respond Shared Move} {t : Thread} {request : Request}
    {response : request.Response} {state : Shared} (h : Told w) (hTells : ¬Tells request)
    (hTimeSync : state.client.livoxLidarTimeSync = w.state.client.livoxLidarTimeSync)
    (hSerial : state.client.handleToSerialNumber = w.state.client.handleToSerialNumber) :
    Told (w.record (.statement t request response) state) := by
  refine h.quiet (fun handle => ?_) (fun handle hAdds => ?_) hTimeSync hSerial
  · cases request with
    | receiveParam sender kv => exact absurd trivial hTells
    | _ => rfl
  · cases request with
    | addLidar added info => exact hTells trivial
    | _ => exact hAdds

theorem Told.statement {w : World Respond Shared Move} {t : Thread} {request : Request}
    {response : request.Response} {state : Shared} (h : Told w)
    (hPerform : system.perform t request w.state = .returns response state) :
    Told (w.record (.statement t request response) state) := by
  cases request with
  | receiveParam handle kv =>
    cases hPerform
    exact h.receiveParam rfl
  | addLidar handle info =>
    cases hPerform
    exact h.addLidar rfl
  | lock =>
    simp only [system, perform] at hPerform
    split at hPerform
    · cases hPerform
      exact h.unchanged id rfl rfl
    · cases hPerform
  | waitForEvent n =>
    simp only [system, perform] at hPerform
    split at hPerform
    · cases hPerform
    · cases hPerform
      exact h.unchanged id rfl rfl
  | _ =>
    cases hPerform
    exact h.unchanged id rfl rfl

theorem Told.move {w : World Respond Shared Move} {action : Move} {state : Shared} (h : Told w)
    (hMove : move action w.state = some state) : Told (w.record (.move action) state) := by
  have hClient : state.client = w.state.client := by
    cases action with
    | deliver n event =>
      simp only [WatchThread.move] at hMove
      split at hMove
      · cases hMove
        rfl
      · cases hMove
    | network outcome => cases hMove; rfl
    | ask question => cases hMove; rfl
    | done => cases hMove; rfl
  exact h.quiet (fun _ => rfl) (fun _ => id) (by rw [hClient]) (by rw [hClient])

theorem told_reachable {state : Shared} (hState : state.client = .new)
    {c : Configuration Respond Local Shared Move} (h : system.Reachable state c) :
    Told c.world := by
  induction h with
  | initial =>
    constructor
    · intro handle
      change state.client.livoxLidarTimeSync.lookup handle = none
      rw [hState]
      rfl
    · intro handle
      change handle ∈ state.client.handleToSerialNumber ↔ _
      rw [hState]
      exact iff_of_false (AList.notMem_empty handle) fun ⟨_, hMem, _⟩ => nomatch hMem
  | @next c d choice prior last ih =>
    rcases System.next_cases last with ⟨action, s, hMove, rfl⟩ | ⟨t, locals, -, rfl⟩ |
      ⟨t, request, rest, response, s, -, hPerform, rfl⟩ | ⟨t, request, rest, -, -, rfl⟩
    · exact ih.move hMove
    · exact ih
    · exact ih.statement hPerform
    · exact ih

section Answers

variable {client : LivoxClient}

theorem lookup_of_mem_entries {handle : UInt32} {kind : Int32}
    {known : AList fun _ : UInt32 => Int32} :
    known.lookup handle = some kind ↔ ⟨handle, kind⟩ ∈ known.entries :=
  AList.mem_lookup_iff

theorem isSynced_true : client.isSynced = some true ↔
    (∃ handle kind, client.livoxLidarTimeSync.lookup handle = some kind) ∧
      ∀ handle kind, client.livoxLidarTimeSync.lookup handle = some kind → 0 < kind := by
  unfold LivoxClient.isSynced
  simp only [lookup_of_mem_entries]
  split
  · rename_i hEmpty
    rw [List.isEmpty_iff] at hEmpty
    simp [hEmpty]
  · rename_i hSome
    split
    · rename_i hFind
      refine iff_of_true rfl ⟨?_, fun handle kind hMem => ?_⟩
      · obtain ⟨⟨handle, kind⟩, hMem⟩ := List.exists_mem_of_ne_nil _
          fun h => hSome (List.isEmpty_iff.mpr h)
        exact ⟨handle, kind, hMem⟩
      · have hPositive := List.find?_eq_none.mp hFind _ hMem
        exact Int32.not_le.mp fun h => hPositive (decide_eq_true h)
    · rename_i entry hFind
      refine iff_of_false (fun h => ?_) fun h => ?_
      · obtain ⟨sn, -, hEq⟩ := Option.map_eq_some_iff.mp h
        cases hEq
      · have hLate : entry.2 ≤ 0 := by simpa using List.find?_some hFind
        exact Int32.not_le.mpr (h.2 entry.1 entry.2 (List.mem_of_find?_eq_some hFind)) hLate

theorem isSynced_none (h : client.isSynced = none) :
    ∃ handle kind, client.livoxLidarTimeSync.lookup handle = some kind ∧ kind ≤ 0 ∧
      handle ∉ client.handleToSerialNumber := by
  unfold LivoxClient.isSynced at h
  split at h
  · cases h
  · split at h
    · cases h
    · rename_i entry hFind
      have hLate : entry.2 ≤ 0 := by simpa using List.find?_some hFind
      refine ⟨entry.1, entry.2, ?_, hLate, ?_⟩
      · exact lookup_of_mem_entries.mpr (List.mem_of_find?_eq_some hFind)
      · exact AList.lookup_eq_none.mp (Option.map_eq_none_iff.mp h)

end Answers

/-- Whenever `isSynced` is asked, it is true exactly if some lidar has told its kind of
synchronisation, and each which has told it last told a positive one. It throws only for a
lidar which is not synchronised and has not been added yet. -/
theorem isSynced_answers {state : Shared} (hState : state.client = .new)
    {c : Configuration Respond Local Shared Move} (h : system.Reachable state c)
    {later earlier : History} {before : Shared} {t : Thread} {answer : Option Bool}
    (hTrace : c.world.trace = later ++ (before, .statement t .isSynced answer) :: earlier) :
    (answer = some true ↔
      (∃ handle kind, lastTimeSync handle earlier = some kind) ∧
        ∀ handle kind, lastTimeSync handle earlier = some kind → 0 < kind) ∧
    (answer = none → ∃ handle kind, lastTimeSync handle earlier = some kind ∧ kind ≤ 0 ∧
      ¬Added handle earlier) := by
  obtain ⟨d, hReachable, hWorld, -⟩ := h.history hTrace
  have hTold := told_reachable hState hReachable
  rw [hWorld] at hTold
  obtain ⟨after, hPerform⟩ := h.performed (by rw [hTrace]; exact List.mem_append_right _ (.head _))
  cases hPerform
  simp only [← hTold.timeSync, ← hTold.added]
  exact ⟨isSynced_true, isSynced_none⟩

/-- A lidar without synchronisation has answered, and its own thread has not yet added it. -/
def answeredEarly : Shared where
  client := .new
  isDone := false
  lidarInfoMutex := none
  network _ _ := .sent
  pending n :=
    if n = 0 then
      some (.queryInternalInfo kLivoxLidarStatusSuccess 7
        (some ⟨0, 1, fun i => [0x0C, 0x80, 1, 0, 0].getD i 0⟩))
    else none
  question := .isSynced

theorem isSynced_answers_early : ∃ c before earlier, system.Reachable answeredEarly c ∧
    c.world.trace = (before, .statement .recorder .isSynced none) :: earlier ∧
    ∃ handle kind, lastTimeSync handle earlier = some kind ∧ kind ≤ 0 ∧
      ¬Added handle earlier := by
  have hReachable : system.Reachable answeredEarly _ :=
    System.Reachable.run .initial (steps (.sdk 0) 6 ++ steps .recorder 4) rfl
  refine ⟨_, _, _, hReachable, rfl, ?_⟩
  exact (@isSynced_answers answeredEarly rfl _ hReachable [] _ _ _ _ rfl).2 rfl

end Mandeye.LivoxClient.WatchThread
