import Mathlib.Data.List.Pairwise
import Mathlib.Data.List.Chain
import Mandeye.Interleaving.Interruption
import Mandeye.LibCamera.NearestFrame
import Mandeye.Signed

/-! Which frame is forwarded for an edge of the PPS signal, when edges and frames
are handled one after the other. The first frame which is near enough is taken,
and no later one is waited for. -/
namespace Mandeye.NearestPhoto

open Interleaving NearestFrame

/-- A time in nanoseconds since 1970, up to the year 2262. -/
structure Timestamp where
  ns : UInt64
  lt : ns.toNat < 2 ^ 63

/-- The time as a number. -/
def Timestamp.toInt (t : Timestamp) : Int := t.ns.toNat

/-- The age of a frame is configured in milliseconds. -/
def maxFrameAgeNs (maxFrameAgeMs : UInt32) : UInt64 := maxFrameAgeMs.toUInt64 * 1000000

/-- An edge, or a frame which has been completed. -/
inductive Event where
  | edge (evUtcNs : Timestamp)
  | frame (frameUtcNs : Timestamp)

/-- An edge is stored and marked. -/
def edgeStep (evUtcNs : Timestamp) (s : Trigger) : Trigger :=
  { s with lastPpsNs := evUtcNs.ns, ppsPending := true }

/-- A frame is forwarded with a timestamp or not at all. -/
def frameStep (maxFrameAgeMs : UInt32) (frameUtcNs : Timestamp) (s : Trigger) :
    Option UInt64 × Trigger :=
  if s.ppsPending ∧ isNear (maxFrameAgeNs maxFrameAgeMs) frameUtcNs.ns s.lastPpsNs then
    (some s.lastPpsNs, { s with ppsPending := false })
  else (none, s)

/-- The camera's statements, where what the callback gets is kept. -/
def performRecorded (request : CameraRequest) (s : Option UInt64 × Trigger) :
    Outcome (Option UInt64 × Trigger) request.Response :=
  let report := match request with
    | .callback reportTimestampNs => some reportTimestampNs
    | _ => s.1
  match performCamera request s.2 with
  | .returns response after => .returns response (report, after)
  | .blocks => .blocks
  | .faults => .faults

/-- The step of an edge is the whole code of its thread. -/
theorem ppsWatchThread_alone (evUtcNs : Timestamp) (s : Trigger) :
    ppsWatchThread.alone performPps { s with edges := evUtcNs.ns :: s.edges } =
      some (some (), edgeStep evUtcNs s) := rfl

/-- The step of a frame is the whole code of its completion. -/
theorem requestComplete_alone (maxFrameAgeMs : UInt32) (frameUtcNs : Timestamp) (s : Trigger) :
    (requestComplete (maxFrameAgeNs maxFrameAgeMs)).alone performRecorded
        (none, { s with frames := frameUtcNs.ns :: s.frames }) =
      some (some (), frameStep maxFrameAgeMs frameUtcNs s) := by
  obtain ⟨lastPpsNs, ppsPending, edges, frames⟩ := s
  have hAwait : (camera .awaitFrame).alone performRecorded
      (none, ⟨lastPpsNs, ppsPending, edges, frameUtcNs.ns :: frames⟩) =
        some (frameUtcNs.ns, none, ⟨lastPpsNs, ppsPending, edges, frames⟩) := rfl
  have hPending : (camera .loadPpsPending).alone performRecorded
      (none, ⟨lastPpsNs, ppsPending, edges, frames⟩) =
        some (ppsPending, none, ⟨lastPpsNs, ppsPending, edges, frames⟩) := rfl
  have hLast : (camera .loadLastPpsNs).alone performRecorded
      (none, ⟨lastPpsNs, ppsPending, edges, frames⟩) =
        some (lastPpsNs, none, ⟨lastPpsNs, ppsPending, edges, frames⟩) := rfl
  rw [requestComplete, frameStep]
  simp only [Program.alone_bind, hAwait, hPending, Option.bind_some]
  cases ppsPending with
  | false => rfl
  | true =>
      rw [Program.alone_when_true, Program.alone_bind, hLast, Option.bind_some]
      dsimp only
      cases isNear (maxFrameAgeNs maxFrameAgeMs) frameUtcNs.ns lastPpsNs with
      | false => rfl
      | true => rfl

/-- One event. -/
def step (maxFrameAgeMs : UInt32) (s : Trigger) : Event → Option UInt64 × Trigger
  | .edge evUtcNs => (none, edgeStep evUtcNs s)
  | .frame frameUtcNs => frameStep maxFrameAgeMs frameUtcNs s

/-- The two variables after these events. -/
def after (maxFrameAgeMs : UInt32) (s : Trigger) (events : List Event) : Trigger :=
  events.foldl (fun s event => (step maxFrameAgeMs s event).2) s

/-- The frames which are forwarded, with the timestamps they are forwarded with. -/
def photos (maxFrameAgeMs : UInt32) : Trigger → List Event → List (Timestamp × UInt64)
  | _, [] => []
  | s, .edge evUtcNs :: rest => photos maxFrameAgeMs (edgeStep evUtcNs s) rest
  | s, .frame frameUtcNs :: rest =>
      let (report, next) := frameStep maxFrameAgeMs frameUtcNs s
      (report.map fun reportTimestampNs => (frameUtcNs, reportTimestampNs)).toList ++
        photos maxFrameAgeMs next rest

/-- The frames among the events. -/
def frames : List Event → List Timestamp
  | [] => []
  | .edge _ :: rest => frames rest
  | .frame frameUtcNs :: rest => frameUtcNs :: frames rest

/-- The frames which are completed before the next edge. -/
def segment : List Event → List Timestamp
  | .frame frameUtcNs :: rest => frameUtcNs :: segment rest
  | _ => []

/-- The time between a frame and an edge. -/
def distance (frameUtcNs evUtcNs : Timestamp) : Nat :=
  (frameUtcNs.toInt - evUtcNs.toInt).natAbs

/-- Times which do not go back. -/
def InOrder (timestamps : List Timestamp) : Prop :=
  timestamps.Pairwise fun first second => first.toInt ≤ second.toInt

/-- The camera delivers its frames with a constant period. -/
def HasPeriod (period : Nat) (timestamps : List Timestamp) : Prop :=
  timestamps.IsChain fun first second : Timestamp => second.toInt = first.toInt + period

/-- The frame would be forwarded for the edge. -/
def near (maxFrameAgeMs : UInt32) (evUtcNs frameUtcNs : Timestamp) : Bool :=
  isNear (maxFrameAgeNs maxFrameAgeMs) frameUtcNs.ns evUtcNs.ns

/-- Of the frames up to the next edge none is nearer than the one which is forwarded,
and that one is within half a period if there is a period. -/
def ForwardsNearest (maxFrameAgeMs : UInt32) (s : Trigger) (events : List Event) : Prop :=
  ∀ earlier evUtcNs later, events = earlier ++ .edge evUtcNs :: later →
    ∀ photo ∈ photos maxFrameAgeMs (after maxFrameAgeMs s (earlier ++ [.edge evUtcNs]))
        ((segment later).map .frame),
      (∀ frameUtcNs ∈ segment later, distance photo.1 evUtcNs ≤ distance frameUtcNs evUtcNs) ∧
        ∀ period, HasPeriod period (frames events) → 2 * distance photo.1 evUtcNs ≤ period

/-- A frame from before the edge is too old if a nearer one comes after it. -/
def PassesOlder (maxFrameAgeMs : UInt32) (evUtcNs : Timestamp) (segment : List Timestamp) : Prop :=
  ∀ older ∈ segment, ∀ newer ∈ segment, older.toInt < newer.toInt →
    older.toInt + newer.toInt < 2 * evUtcNs.toInt →
      (maxFrameAgeNs maxFrameAgeMs).toNat ≤ evUtcNs.toInt - older.toInt

/-- Frames more than half a period before the edge are too old, and those which come
more than half a period after it are too young or not the first ones. -/
def PassesFarther (maxFrameAgeMs : UInt32) (period : Nat) (evUtcNs : Timestamp)
    (segment : List Timestamp) : Prop :=
  (∀ older ∈ segment, period < 2 * (evUtcNs.toInt - older.toInt) →
      (maxFrameAgeNs maxFrameAgeMs).toNat ≤ evUtcNs.toInt - older.toInt) ∧
    ∀ newer ∈ segment, period < 2 * (newer.toInt - evUtcNs.toInt) →
      newer.toInt - evUtcNs.toInt < (maxFrameAgeNs maxFrameAgeMs).toNat →
        ∃ nearer ∈ segment, 2 * distance nearer evUtcNs ≤ period

variable {maxFrameAgeMs : UInt32} {evUtcNs frameUtcNs : Timestamp} {timestamps : List Timestamp}
  {s : Trigger} {events later : List Event}

theorem maxFrameAgeNs_lt (maxFrameAgeMs : UInt32) :
    (maxFrameAgeNs maxFrameAgeMs).toNat < 2 ^ 63 := by
  have hAge := maxFrameAgeMs.toNat_lt
  have hProduct : maxFrameAgeMs.toNat * 1000000 < 2 ^ 63 := by omega
  rw [maxFrameAgeNs, UInt64.toNat_mul, UInt32.toNat_toUInt64]
  exact (Nat.mod_le _ _).trans_lt hProduct

/-- Nothing overflows when the frame is compared with the edge. -/
theorem near_iff : near maxFrameAgeMs evUtcNs frameUtcNs = true ↔
    distance frameUtcNs evUtcNs < (maxFrameAgeNs maxFrameAgeMs).toNat := by
  have hFrame := frameUtcNs.lt
  have hEdge := evUtcNs.lt
  have hDelta : (frameUtcNs.ns.toInt64 - evUtcNs.ns.toInt64).toInt =
      frameUtcNs.toInt - evUtcNs.toInt := by
    rw [Int64.toInt_sub, Signed.toInt_toInt64_of_lt hFrame, Signed.toInt_toInt64_of_lt hEdge,
      Int.bmod_def, Timestamp.toInt, Timestamp.toInt]
    omega
  have hBound : -2 ^ 63 < (frameUtcNs.ns.toInt64 - evUtcNs.ns.toInt64).toInt := by
    rw [hDelta, Timestamp.toInt, Timestamp.toInt]
    omega
  rw [near, isNear, decide_eq_true_iff, Int64.lt_iff_toInt_lt, Signed.toInt_abs hBound, hDelta,
    Signed.toInt_toInt64_of_lt (maxFrameAgeNs_lt maxFrameAgeMs), Int.ofNat_lt, distance]

section Segment

theorem photos_frame (rest : List Event) {report : Option UInt64} {next : Trigger}
    (h : frameStep maxFrameAgeMs frameUtcNs s = (report, next)) :
    photos maxFrameAgeMs s (.frame frameUtcNs :: rest) =
      (report.map fun reportTimestampNs => (frameUtcNs, reportTimestampNs)).toList ++
        photos maxFrameAgeMs next rest := by
  rw [photos, h]

theorem photos_done (h : s.ppsPending = false) :
    photos maxFrameAgeMs s (timestamps.map .frame) = [] := by
  induction timestamps with
  | nil => rfl
  | cons first rest ih =>
      have hStep : frameStep maxFrameAgeMs first s = (none, s) := by simp [frameStep, h]
      rw [List.map_cons, photos_frame _ hStep, ih, Option.map_none, Option.toList_none,
        List.nil_append]

/-- The near frame which comes first is the one that is taken. -/
theorem photos_segment (hEdge : s.lastPpsNs = evUtcNs.ns) (hPending : s.ppsPending = true) :
    photos maxFrameAgeMs s (timestamps.map .frame) =
      ((timestamps.find? (near maxFrameAgeMs evUtcNs)).map fun frameUtcNs =>
        (frameUtcNs, evUtcNs.ns)).toList := by
  induction timestamps with
  | nil => rfl
  | cons first rest ih =>
      by_cases hNear : near maxFrameAgeMs evUtcNs first = true
      · have hStep : frameStep maxFrameAgeMs first s =
            (some evUtcNs.ns, { s with ppsPending := false }) := by
          rw [frameStep, hEdge]
          exact if_pos ⟨hPending, hNear⟩
        rw [List.map_cons, photos_frame _ hStep, photos_done rfl, List.find?_cons_of_pos hNear]
        simp
      · have hStep : frameStep maxFrameAgeMs first s = (none, s) := by
          rw [frameStep, hEdge]
          exact if_neg fun hBoth => hNear hBoth.2
        rw [List.map_cons, photos_frame _ hStep, ih, List.find?_cons_of_neg hNear]
        simp

/-- In order, the first near frame is the earliest one. -/
theorem find?_near (hOrder : InOrder timestamps)
    (h : timestamps.find? (near maxFrameAgeMs evUtcNs) = some frameUtcNs) :
    ∀ other ∈ timestamps, distance other evUtcNs < (maxFrameAgeNs maxFrameAgeMs).toNat →
      frameUtcNs.toInt ≤ other.toInt := by
  induction timestamps with
  | nil => cases h
  | cons first rest ih =>
      obtain ⟨hFirst, hRest⟩ := List.pairwise_cons.mp hOrder
      by_cases hNear : near maxFrameAgeMs evUtcNs first = true
      · rw [List.find?_cons_of_pos hNear] at h
        obtain rfl := Option.some.inj h
        intro other hOther _
        rcases List.mem_cons.mp hOther with rfl | hLater
        · exact Int.le_refl _
        · exact hFirst other hLater
      · rw [List.find?_cons_of_neg hNear] at h
        intro other hOther hDistance
        rcases List.mem_cons.mp hOther with rfl | hLater
        · exact absurd (near_iff.mpr hDistance) hNear
        · exact ih hRest h other hLater hDistance

theorem forwards_nearest_iff (hOrder : InOrder timestamps) :
    (∀ taken, timestamps.find? (near maxFrameAgeMs evUtcNs) = some taken →
      ∀ other ∈ timestamps, distance taken evUtcNs ≤ distance other evUtcNs) ↔
      PassesOlder maxFrameAgeMs evUtcNs timestamps := by
  constructor
  · intro hNearest older hOlder newer hNewer hLess hNearer
    by_contra hYoung
    have hDistance : distance older evUtcNs < (maxFrameAgeNs maxFrameAgeMs).toNat := by
      rw [distance]
      omega
    obtain ⟨taken, hTaken⟩ := Option.isSome_iff_exists.mp
      (List.find?_isSome.mpr ⟨older, hOlder, near_iff.mpr hDistance⟩)
    have hFirst := find?_near hOrder hTaken older hOlder hDistance
    have hBest := hNearest taken hTaken newer hNewer
    rw [distance, distance] at hBest
    omega
  · intro hPasses taken hTaken other hOther
    by_contra hFarther
    have hMem := List.mem_of_find?_eq_some hTaken
    have hTakenNear := near_iff.mp (List.find?_some hTaken)
    have hFirst := find?_near hOrder hTaken other hOther (by omega)
    have hOld := hPasses taken hMem other hOther
    rw [distance] at hTakenNear
    rw [distance, distance] at hFarther
    omega

theorem forwards_within_iff (hOrder : InOrder timestamps) (period : Nat) :
    (∀ taken, timestamps.find? (near maxFrameAgeMs evUtcNs) = some taken →
      2 * distance taken evUtcNs ≤ period) ↔
      PassesFarther maxFrameAgeMs period evUtcNs timestamps := by
  constructor
  · intro hWithin
    have hTake : ∀ frameUtcNs ∈ timestamps,
        distance frameUtcNs evUtcNs < (maxFrameAgeNs maxFrameAgeMs).toNat →
          ∃ taken ∈ timestamps, taken.toInt ≤ frameUtcNs.toInt ∧
            2 * distance taken evUtcNs ≤ period := by
      intro frameUtcNs hMem hDistance
      obtain ⟨taken, hTaken⟩ := Option.isSome_iff_exists.mp
        (List.find?_isSome.mpr ⟨frameUtcNs, hMem, near_iff.mpr hDistance⟩)
      exact ⟨taken, List.mem_of_find?_eq_some hTaken,
        find?_near hOrder hTaken frameUtcNs hMem hDistance, hWithin taken hTaken⟩
    constructor
    · intro older hOlder hFar
      by_contra hYoung
      obtain ⟨taken, -, hFirst, hHalf⟩ := hTake older hOlder (by rw [distance]; omega)
      rw [distance] at hHalf
      omega
    · intro newer hNewer hFar hYoung
      obtain ⟨taken, hMem, -, hHalf⟩ := hTake newer hNewer (by rw [distance]; omega)
      exact ⟨taken, hMem, hHalf⟩
  · rintro ⟨hOlder, hNewer⟩ taken hTaken
    by_contra hFar
    have hMem := List.mem_of_find?_eq_some hTaken
    have hTakenNear := near_iff.mp (List.find?_some hTaken)
    have hOld := hOlder taken hMem
    rw [distance] at hTakenNear hFar
    have hAfter : period < 2 * (taken.toInt - evUtcNs.toInt) := by omega
    have hYoung : taken.toInt - evUtcNs.toInt < (maxFrameAgeNs maxFrameAgeMs).toNat := by omega
    obtain ⟨nearer, hNearer, hHalf⟩ := hNewer taken hMem hAfter hYoung
    rw [distance] at hHalf
    have hNearerNear : distance nearer evUtcNs < (maxFrameAgeNs maxFrameAgeMs).toNat := by
      rw [distance]
      omega
    have hFirst := find?_near hOrder hTaken nearer hNearer hNearerNear
    omega

end Segment

theorem frames_append (earlier later : List Event) :
    frames (earlier ++ later) = frames earlier ++ frames later := by
  induction earlier with
  | nil => rfl
  | cons event rest ih => cases event <;> simp [frames, ih]

theorem prefix_of_segment (events : List Event) : segment events <+: frames events := by
  induction events with
  | nil => exact List.nil_prefix
  | cons event rest ih =>
      cases event with
      | edge evUtcNs => exact List.nil_prefix
      | frame frameUtcNs => exact (List.prefix_cons_inj frameUtcNs).mpr ih

/-- After an edge the frames up to the next one decide. -/
theorem photos_after_edge (earlier later : List Event) :
    photos maxFrameAgeMs (after maxFrameAgeMs s (earlier ++ [.edge evUtcNs]))
        ((segment later).map .frame) =
      (((segment later).find? (near maxFrameAgeMs evUtcNs)).map fun frameUtcNs =>
        (frameUtcNs, evUtcNs.ns)).toList := by
  have hEdge : after maxFrameAgeMs s (earlier ++ [.edge evUtcNs]) =
      edgeStep evUtcNs (after maxFrameAgeMs s earlier) := by
    simp [after, step]
  rw [hEdge]
  exact photos_segment rfl rfl

/-- The nearest frame is forwarded for each edge exactly if the frames which come too
early, or too late, are not near enough to be taken. -/
theorem forwardsNearest_iff (hOrder : InOrder (frames events)) :
    ForwardsNearest maxFrameAgeMs s events ↔
      ∀ earlier evUtcNs later, events = earlier ++ .edge evUtcNs :: later →
        PassesOlder maxFrameAgeMs evUtcNs (segment later) ∧
          ∀ period, HasPeriod period (frames events) →
            PassesFarther maxFrameAgeMs period evUtcNs (segment later) := by
  refine forall_congr' fun earlier => forall_congr' fun evUtcNs => forall_congr' fun later =>
    forall_congr' fun hEvents => ?_
  have hSegment : InOrder (segment later) := by
    rw [hEvents, frames_append] at hOrder
    exact (List.pairwise_append.mp hOrder).2.1.sublist (prefix_of_segment later).sublist
  have hPhotos : ∀ P : Timestamp → Prop,
      (∀ photo ∈ photos maxFrameAgeMs (after maxFrameAgeMs s (earlier ++ [.edge evUtcNs]))
        ((segment later).map .frame), P photo.1) ↔
      ∀ taken, (segment later).find? (near maxFrameAgeMs evUtcNs) = some taken → P taken := by
    intro P
    rw [photos_after_edge]
    simp [Option.mem_toList]
  rw [hPhotos fun taken =>
    (∀ frameUtcNs ∈ segment later, distance taken evUtcNs ≤ distance frameUtcNs evUtcNs) ∧
      ∀ period, HasPeriod period (frames events) → 2 * distance taken evUtcNs ≤ period]
  rw [← forwards_nearest_iff hSegment]
  simp only [← forwards_within_iff hSegment]
  constructor
  · intro h
    exact ⟨fun taken hTaken => (h taken hTaken).1,
      fun period hPeriod taken hTaken => (h taken hTaken).2 period hPeriod⟩
  · rintro ⟨hNearest, hWithin⟩ taken hTaken
    exact ⟨hNearest taken hTaken, fun period hPeriod => hWithin period hPeriod taken hTaken⟩

def milliseconds (ms : UInt32) : Timestamp := ⟨maxFrameAgeNs ms, maxFrameAgeNs_lt ms⟩

def waiting : Trigger := ⟨0, false, [], []⟩

/-- Frames of 10 Hz, of which the one before the edge has been completed. -/
def inTime : List Event :=
  [.frame (milliseconds 910), .edge (milliseconds 1000), .frame (milliseconds 1010),
    .frame (milliseconds 1110)]

theorem forwardsNearest_iff_inTime : ForwardsNearest 60 waiting inTime := by
  have hOrder : InOrder (frames inTime) := by
    simp only [InOrder, inTime, frames]
    decide
  refine (forwardsNearest_iff hOrder).mpr fun earlier evUtcNs later hEvents => ?_
  obtain ⟨rfl, rfl⟩ : evUtcNs = milliseconds 1000 ∧
      later = [.frame (milliseconds 1010), .frame (milliseconds 1110)] := by
    rcases earlier with _ | ⟨first, _ | ⟨second, rest⟩⟩
    · cases hEvents
    · cases hEvents
      exact ⟨rfl, rfl⟩
    · have hLater : [.frame (milliseconds 1010), .frame (milliseconds 1110)] =
          rest ++ .edge evUtcNs :: later := (List.cons.inj (List.cons.inj hEvents).2).2
      have hMem : Event.edge evUtcNs ∈ rest ++ .edge evUtcNs :: later := by simp
      rw [← hLater] at hMem
      simp at hMem
  simp only [segment, PassesOlder, PassesFarther, List.forall_mem_cons, List.not_mem_nil,
    false_implies, implies_true, and_true]
  refine ⟨by decide, fun period hPeriod => ?_⟩
  have hSame : (milliseconds 1010).toInt = (milliseconds 910).toInt + period :=
    (List.isChain_cons_cons.mp hPeriod).1
  have hEarlier : (milliseconds 910).toInt = 910000000 := by decide
  have hEdge : (milliseconds 1000).toInt = 1000000000 := by decide
  have hFirst : (milliseconds 1010).toInt = 1010000000 := by decide
  have hSecond : (milliseconds 1110).toInt = 1110000000 := by decide
  have hAge : (maxFrameAgeNs 60).toNat = 60000000 := by decide
  rw [hEdge, hFirst, hSecond, hAge]
  omega

/-- The frame from before the edge is completed after it. -/
def late : List Event :=
  [.edge (milliseconds 1000), .frame (milliseconds 910), .frame (milliseconds 1010)]

/-- It is forwarded, although it is 90 ms from the edge and the next one is 10 ms. -/
theorem farther_frame_forwarded :
    InOrder (frames late) ∧ HasPeriod 100000000 (frames late) ∧
      distance (milliseconds 910) (milliseconds 1000) = 90000000 ∧
      ¬ForwardsNearest 500 waiting late := by
  refine ⟨?_, ?_, by decide, fun hForwards => ?_⟩
  · simp only [InOrder, late, frames]
    decide
  · simp only [HasPeriod, late, frames]
    decide
  · have hPhoto : (milliseconds 910, maxFrameAgeNs 1000) ∈
        photos 500 (after 500 waiting ([] ++ [.edge (milliseconds 1000)]))
          ((segment [.frame (milliseconds 910), .frame (milliseconds 1010)]).map .frame) := by
      have hNear : near 500 (milliseconds 1000) (milliseconds 910) = true := by decide
      rw [photos_after_edge, segment, List.find?_cons_of_pos hNear]
      exact List.mem_singleton_self _
    obtain ⟨hNearest, -⟩ := hForwards [] _ _ rfl _ hPhoto
    have hNewer := hNearest (milliseconds 1010) (by simp [segment])
    revert hNewer
    decide

end Mandeye.NearestPhoto
