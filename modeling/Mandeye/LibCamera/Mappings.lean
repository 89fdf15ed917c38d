import Mathlib.Algebra.GroupWithZero.Nat
import Mathlib.Data.List.SplitBy
import Mandeye.Calls
import Mandeye.LibCamera.Starts

/-! The mappings of the buffers into which the camera writes its images. They are kept
by the addresses of the buffers. -/
namespace Mandeye.LibCamera.Mappings

open Calls Exceptions LibCameraWrapper SetConfig

inductive CameraCall where
  | start (surroundings : Surroundings) (camNo : Nat) (config : Json)
  | stop

namespace CameraCall

/-- An exception is caught by the caller; a null pointer ends the process. -/
def apply (w : Option LibCameraWrapper) : CameraCall → Option LibCameraWrapper
  | .start surroundings camNo config =>
      w.bind fun w => (LibCameraWrapper.start surroundings camNo config w).state?
  | .stop => w.bind fun w => (LibCameraWrapper.stop w).state?

def run (calls : List CameraCall) : Option LibCameraWrapper := calls.foldl apply (some .new)

/-- The buffers which a call allocates and maps, once it has a camera. -/
def mapped : CameraCall → List FrameBuffer
  | .start surroundings camNo config =>
      if triggerTyped config ∧ surroundings.cameras[camNo]? ≠ none then surroundings.buffers
      else []
  | .stop => []

end CameraCall

/-- `Mmap`. -/
def mmap (w : LibCameraWrapper) (buffer : FrameBuffer) : List Span := w.mappedBuffers buffer.address

/-- One mapping for a run of planes. -/
def runSpan (run : List Plane) : Span :=
  ⟨(run.getLast?.map Plane.mem).getD 0, (run.map Plane.length).sum⟩

/-- One mapping for each maximal run of planes with the same file descriptor. -/
def spansOf (planes : List Plane) : List Span :=
  (planes.splitBy fun a b => a.fd == b.fd).map runSpan

open CameraCall

/-- The buffers of the current allocation have the mappings made for them, so the first
of these is one of them too. -/
def Served (calls : List CameraCall) : Prop :=
  ∀ w ∈ run calls, ∀ buffers ∈ w.allocator, ∀ buffer ∈ buffers,
    mmap w buffer = spansOf buffer.planes

/-- No new buffer lies where one with planes was mapped before. -/
def NewAddresses (earlier : List CameraCall) (call : CameraCall) : Prop :=
  run earlier ≠ none → ∀ buffer ∈ call.mapped, ∀ older ∈ earlier.flatMap mapped,
    older.planes ≠ [] → older.address ≠ buffer.address

/-- The buffers of one allocation are apart. -/
def Apart (calls : List CameraCall) : Prop :=
  ∀ call ∈ calls, (call.mapped.map FrameBuffer.address).Nodup

section Planes

/-- A run of planes becomes one mapping. -/
theorem mapPlanes_run {run rest : List Plane} (total : Nat) (hNe : run ≠ [])
    (hRun : run.IsChain fun a b => a.fd == b.fd)
    (hRest : ∀ a ∈ run.getLast?, ∀ b ∈ rest.head?, a.fd ≠ b.fd) :
    mapPlanes total (run ++ rest) =
      ⟨(run.getLast?.map Plane.mem).getD 0, total + (run.map Plane.length).sum⟩ ::
        mapPlanes 0 rest := by
  induction run generalizing total with
  | nil => exact absurd rfl hNe
  | cons plane run ih =>
      cases run with
      | nil =>
          cases rest with
          | nil => simp [mapPlanes]
          | cons following rest =>
              have hOther : plane.fd ≠ following.fd := hRest plane rfl following rfl
              simp [mapPlanes, hOther]
      | cons following run =>
          rw [List.isChain_cons_cons] at hRun
          have hSame : plane.fd = following.fd := by simpa using hRun.1
          have hTail := ih (total + plane.length) (by simp) hRun.2 (by simpa using hRest)
          simp only [List.cons_append] at hTail ⊢
          rw [mapPlanes, if_pos hSame, hTail]
          simp [Nat.add_assoc]

theorem mapPlanes_flatten {runs : List (List Plane)} (hNe : [] ∉ runs)
    (hRuns : ∀ run ∈ runs, run.IsChain fun a b => a.fd == b.fd)
    (hApart : runs.IsChain fun a b => ∃ ha hb, ((a.getLast ha).fd == (b.head hb).fd) = false) :
    mapPlanes 0 runs.flatten = runs.map runSpan := by
  induction runs with
  | nil => rfl
  | cons run runs ih =>
      have hRest : ∀ a ∈ run.getLast?, ∀ b ∈ runs.flatten.head?, a.fd ≠ b.fd := by
        intro a ha b hb
        cases runs with
        | nil => cases hb
        | cons next later =>
            obtain ⟨hLast, hHead, hOther⟩ := (List.isChain_cons_cons.mp hApart).1
            rw [List.getLast?_eq_some_getLast hLast, Option.mem_some_iff] at ha
            rw [List.flatten_cons, List.head?_append_of_ne_nil _ hHead,
              List.head?_eq_some_head hHead, Option.mem_some_iff] at hb
            subst ha hb
            simpa using hOther
      have hFirst := @mapPlanes_run run runs.flatten 0 (fun h => hNe (h ▸ List.mem_cons_self))
        (hRuns run List.mem_cons_self) hRest
      rw [List.flatten_cons, hFirst, ih (fun h => hNe (List.mem_cons_of_mem _ h))
        (fun other h => hRuns other (List.mem_cons_of_mem _ h)) hApart.tail, Nat.zero_add]
      rfl

/-- The loop over the planes makes one mapping for each maximal run. -/
theorem mapPlanes_eq_spansOf (planes : List Plane) : mapPlanes 0 planes = spansOf planes := by
  obtain ⟨hPlanes, hNe, hRuns, hApart⟩ :=
    List.splitBy_eq_iff.mp (rfl : planes.splitBy (fun a b => a.fd == b.fd) = _)
  rw [spansOf, ← mapPlanes_flatten hNe hRuns hApart, ← hPlanes]

theorem spansOf_eq_nil_iff {planes : List Plane} : spansOf planes = [] ↔ planes = [] := by
  rw [spansOf, List.map_eq_nil_iff, List.splitBy_eq_nil]

end Planes

section Calls

variable {calls earlier : List CameraCall} {call : CameraCall} {w : LibCameraWrapper}

@[simp] theorem run_concat : run (calls ++ [call]) = call.apply (run calls) := by
  simp [run]

/-- The mappings of some buffers, added to those there are. -/
def addMappings (buffers : List FrameBuffer) (mapped : UInt64 → List Span) : UInt64 → List Span :=
  buffers.foldl (fun mapped buffer => Function.update mapped buffer.address
    (mapped buffer.address ++ mapPlanes 0 buffer.planes)) mapped

/-- The mappings made at an address, in order. -/
def spansAt (address : UInt64) (buffers : List FrameBuffer) : List Span :=
  (buffers.filter fun buffer => buffer.address = address).flatMap fun buffer =>
    spansOf buffer.planes

theorem spansAt_append (address : UInt64) (first second : List FrameBuffer) :
    spansAt address (first ++ second) = spansAt address first ++ spansAt address second := by
  simp [spansAt]

theorem spansAt_cons (address : UInt64) (buffer : FrameBuffer) (rest : List FrameBuffer) :
    spansAt address (buffer :: rest) =
      (if buffer.address = address then spansOf buffer.planes else []) ++ spansAt address rest := by
  unfold spansAt
  split <;> simp [*]

theorem addMappings_apply (buffers : List FrameBuffer) (mapped : UInt64 → List Span)
    (address : UInt64) :
    addMappings buffers mapped address = mapped address ++ spansAt address buffers := by
  induction buffers generalizing mapped with
  | nil => simp [addMappings, spansAt]
  | cons buffer buffers ih =>
      rw [addMappings, List.foldl_cons, ← addMappings, ih]
      by_cases h : buffer.address = address
      · subst h
        simp [spansAt, mapPlanes_eq_spansOf, List.append_assoc]
      · have hOther : address ≠ buffer.address := fun hEq => h hEq.symm
        simp [spansAt, h, Function.update_of_ne hOther]

theorem prepared_mappings (surroundings : Surroundings) (id : String) (t : Trigger)
    (config : Json) (w : LibCameraWrapper) :
    (prepared surroundings id t config w).mappedBuffers =
        addMappings surroundings.buffers w.mappedBuffers ∧
      (prepared surroundings id t config w).allocator = some surroundings.buffers := by
  rw [prepared_eq]
  exact ⟨rfl, rfl⟩

/-- Starting the camera leaves the buffers alone. -/
theorem configured_mappings (surroundings : Surroundings) (id : String) (t : Trigger)
    (config : Json) (w : LibCameraWrapper) :
    (configured surroundings id t config w).mappedBuffers =
        addMappings surroundings.buffers w.mappedBuffers ∧
      (configured surroundings id t config w).allocator = some surroundings.buffers := by
  obtain ⟨chip, line, hWatch, -⟩ := watchPps_eq surroundings
    (setFrameSync
      { prepared surroundings id t config w with rateMs := (rateOf config).getD w.rateMs })
  rw [configured, hWatch, setFrameSync_eq, prepared_eq]
  exact ⟨rfl, rfl⟩

/-- A call maps its buffers into a new allocation, or maps nothing and leaves at most
the old allocation. -/
theorem apply_cases (w : LibCameraWrapper) (call : CameraCall) :
    (∃ w', call.apply (some w) = some w' ∧ w'.allocator = some call.mapped ∧
      w'.mappedBuffers = addMappings call.mapped w.mappedBuffers) ∨
    (call.mapped = [] ∧ ∀ w' ∈ call.apply (some w), w'.mappedBuffers = w.mappedBuffers ∧
      ∀ buffers ∈ w'.allocator, buffers ∈ w.allocator) := by
  cases call with
  | stop =>
      refine Or.inr ⟨rfl, fun w' hw => ?_⟩
      obtain ⟨camera, allocator, requests, rfl, hOld⟩ := eq_of_stop hw
      exact ⟨rfl, hOld⟩
  | start surroundings camNo config =>
      simp only [CameraCall.apply, Option.bind_some, CameraCall.mapped]
      cases start_outcome surroundings camNo config with
      | refused what t hTyped h =>
          rw [h, hTyped]
          refine Or.inr ⟨by simp, ?_⟩
          rintro w' ⟨⟩
          exact ⟨rfl, fun _ hBuffers => hBuffers⟩
      | unavailable t hNone h =>
          rw [h, hNone]
          refine Or.inr ⟨by simp, ?_⟩
          rintro w' ⟨⟩
          exact ⟨rfl, fun _ hBuffers => hBuffers⟩
      | rateRefused id t what hTyped hRate hCamera h =>
          obtain ⟨hMapped, hAllocator⟩ := prepared_mappings surroundings id t config w
          rw [h, if_pos ⟨hTyped, by simp [hCamera]⟩]
          exact Or.inl ⟨_, rfl, hAllocator, hMapped⟩
      | accepted id t hWellTyped hCamera hMode h =>
          have hTyped : triggerTyped config = true := (Bool.and_eq_true_iff.mp hWellTyped).1
          obtain ⟨hMapped, hAllocator⟩ := configured_mappings surroundings id t config w
          rw [h, if_pos ⟨hTyped, by simp [hCamera]⟩]
          exact Or.inl ⟨_, rfl, hAllocator, hMapped⟩

/-- The table holds all the mappings that were ever made at an address. -/
theorem run_mappedBuffers (h : run calls = some w) (address : UInt64) :
    w.mappedBuffers address = spansAt address (calls.flatMap mapped) := by
  induction calls using List.reverseRecOn generalizing w with
  | nil =>
      cases h
      rfl
  | append_singleton earlier call ih =>
      rw [run_concat] at h
      cases hEarlier : run earlier with
      | none =>
          rw [hEarlier] at h
          cases call <;> cases h
      | some before =>
          have hBefore := ih hEarlier
          rw [hEarlier] at h
          rw [List.flatMap_append, List.flatMap_singleton, spansAt_append, ← hBefore]
          rcases apply_cases before call with ⟨w', hApply, -, hMapped⟩ | ⟨hNone, hKept⟩
          · rw [hApply, Option.some.injEq] at h
            rw [← h, hMapped, addMappings_apply]
          · rw [(hKept w h).1, hNone]
            simp [spansAt]

theorem spansAt_eq_nil_iff {address : UInt64} {buffers : List FrameBuffer} :
    spansAt address buffers = [] ↔
      ∀ older ∈ buffers, older.planes ≠ [] → older.address ≠ address := by
  simp only [spansAt, List.flatMap_eq_nil_iff, List.mem_filter, decide_eq_true_eq,
    spansOf_eq_nil_iff]
  grind

/-- A buffer of an allocation has its address to itself there. -/
theorem spansAt_address {buffers : List FrameBuffer} {buffer : FrameBuffer}
    (hApart : (buffers.map FrameBuffer.address).Nodup) (hBuffer : buffer ∈ buffers) :
    spansAt buffer.address buffers = spansOf buffer.planes := by
  induction buffers with
  | nil => cases hBuffer
  | cons first rest ih =>
      rw [List.map_cons, List.nodup_cons] at hApart
      rw [spansAt_cons]
      rcases List.mem_cons.mp hBuffer with rfl | hRest
      · have hNone : spansAt buffer.address rest = [] := by
          rw [spansAt_eq_nil_iff]
          intro other hOther _ hSame
          exact hApart.1 (hSame ▸ List.mem_map_of_mem hOther)
        rw [if_pos rfl, hNone, List.append_nil]
      · have hOther : first.address ≠ buffer.address := fun hSame =>
          hApart.1 (hSame ▸ List.mem_map_of_mem hRest)
        rw [if_neg hOther, List.nil_append, ih hApart.2 hRest]

theorem served_concat_iff (hServed : Served earlier)
    (hApart : (call.mapped.map FrameBuffer.address).Nodup) :
    Served (earlier ++ [call]) ↔ NewAddresses earlier call := by
  unfold Served NewAddresses
  rw [run_concat]
  cases hEarlier : run earlier with
  | none => cases call <;> simp [CameraCall.apply]
  | some before =>
      rcases apply_cases before call with ⟨w, hApply, hAllocator, hMapped⟩ | ⟨hNone, hKept⟩
      · have hAt : ∀ buffer ∈ call.mapped, mmap w buffer = spansOf buffer.planes ↔
            ∀ older ∈ earlier.flatMap mapped,
              older.planes ≠ [] → older.address ≠ buffer.address := by
          intro buffer hBuffer
          rw [mmap, hMapped, addMappings_apply, run_mappedBuffers hEarlier,
            spansAt_address hApart hBuffer, List.append_left_eq_self, spansAt_eq_nil_iff]
        rw [hApply]
        simp only [Option.mem_some_iff, forall_eq', hAllocator]
        constructor
        · intro h _ buffer hBuffer
          exact (hAt buffer hBuffer).mp (h buffer hBuffer)
        · intro h buffer hBuffer
          exact (hAt buffer hBuffer).mpr (h nofun buffer hBuffer)
      · rw [hNone]
        refine iff_of_true ?_ (by simp)
        intro w hw buffers hBuffers buffer hBuffer
        obtain ⟨hSame, hOld⟩ := hKept w hw
        rw [mmap, hSame]
        exact hServed before hEarlier buffers (hOld buffers hBuffers) buffer hBuffer

/-- Every buffer has the mappings of its own start exactly if no buffer is allocated
where an older one was mapped. -/
theorem mappings_served_iff (calls : List CameraCall) (hApart : Apart calls) :
    Throughout Served calls ↔ Each NewAddresses calls := by
  apply throughout_iff_each
  · intro w hw buffers hBuffers
    cases hw
    cases hBuffers
  · intro earlier call hPrefix hServed
    have hCall : call ∈ calls := hPrefix.subset (by simp)
    exact served_concat_iff hServed.last (hApart call hCall)

end Calls

/-- One buffer, mapped to some memory through some file. -/
def oneBuffer (address : UInt64) (fd : Int32) (mem : UInt64) : FrameBuffer :=
  ⟨address, [⟨fd, 4147200, mem⟩]⟩

/-- A camera with this buffer is started. -/
def startWith (buffer : FrameBuffer) : CameraCall :=
  .start { connected with buffers := [buffer] } 0 (.object [])

/-- The camera is started, stopped and started again. -/
def restarted (first second : FrameBuffer) : List CameraCall :=
  [startWith first, .stop, startWith second]

theorem mappings_served_moved :
    Throughout Served (restarted (oneBuffer 4096 3 65536) (oneBuffer 8192 4 131072)) := by
  refine (mappings_served_iff _ ?_).mpr ?_
  · simp [Apart, restarted, startWith, CameraCall.mapped, triggerTyped, connected, Json.member]
  · change Each NewAddresses ((([] ++ [startWith (oneBuffer 4096 3 65536)]) ++ [CameraCall.stop]) ++
      [startWith (oneBuffer 8192 4 131072)])
    rw [each_concat, each_concat, each_concat]
    simp [NewAddresses, startWith, oneBuffer, CameraCall.mapped, triggerTyped, connected,
      Json.member]

/-- The second buffer has the address of the first, and the image is copied from the
memory of the first. -/
theorem firstMapping_served :
    ¬Throughout Served (restarted (oneBuffer 4096 3 65536) (oneBuffer 4096 4 131072)) ∧
      Apart (restarted (oneBuffer 4096 3 65536) (oneBuffer 4096 4 131072)) ∧
      ∃ w, run (restarted (oneBuffer 4096 3 65536) (oneBuffer 4096 4 131072)) = some w ∧
        w.allocator = some [oneBuffer 4096 4 131072] ∧
        mmap w (oneBuffer 4096 4 131072) = [⟨65536, 4147200⟩, ⟨131072, 4147200⟩] := by
  have hApart : Apart (restarted (oneBuffer 4096 3 65536) (oneBuffer 4096 4 131072)) := by
    simp [Apart, restarted, startWith, CameraCall.mapped, triggerTyped, connected, Json.member]
  have hStarted : ∃ w, run (restarted (oneBuffer 4096 3 65536) (oneBuffer 4096 4 131072)) = some w ∧
      w.allocator = some [oneBuffer 4096 4 131072] := ⟨_, rfl, rfl⟩
  obtain ⟨w, hRun, hAllocator⟩ := hStarted
  have hMmap : mmap w (oneBuffer 4096 4 131072) = [⟨65536, 4147200⟩, ⟨131072, 4147200⟩] :=
    (run_mappedBuffers hRun 4096).trans (by decide)
  refine ⟨fun hServed => ?_, hApart, w, hRun, hAllocator, hMmap⟩
  have hSpans := hServed.last w hRun _ hAllocator (oneBuffer 4096 4 131072) List.mem_cons_self
  rw [hMmap] at hSpans
  exact absurd hSpans (by decide)

end Mandeye.LibCamera.Mappings
