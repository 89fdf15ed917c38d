import Mandeye.Interleaving.Contract

/-! The mode `NEAREST_FRAME` of the camera. One thread notes the edges of the PPS
signal, the other one looks for a frame near the latest edge. They share two
atomic variables, which are written and read one after the other. -/
namespace Mandeye.NearestFrame

open Interleaving

/-- The two atomic variables, and the edges and frames still to come. -/
structure Trigger where
  lastPpsNs : UInt64
  ppsPending : Bool
  edges : List UInt64
  frames : List UInt64

/-- The thread which waits for edges, and the one of the camera. -/
inductive Thread where
  | pps
  | camera
  deriving DecidableEq

/-- The two stores for an edge are statements of their own. -/
inductive PpsRequest where
  | awaitEdge
  | storeLastPpsNs (evUtcNs : UInt64)
  | storePpsPending

/-- Only an edge is waited for. -/
abbrev PpsRequest.Response : PpsRequest → Type
  | .awaitEdge => UInt64
  | .storeLastPpsNs _ => Unit
  | .storePpsPending => Unit

/-- The atomic accesses of the camera, and the call of the callback. -/
inductive CameraRequest where
  | awaitFrame
  | loadPpsPending
  | loadLastPpsNs
  | clearPpsPending
  | callback (reportTimestampNs : UInt64)

/-- What the camera reads. -/
abbrev CameraRequest.Response : CameraRequest → Type
  | .awaitFrame => UInt64
  | .loadPpsPending => Bool
  | .loadLastPpsNs => UInt64
  | .clearPpsPending => Unit
  | .callback _ => Unit

/-- The statements of each thread. -/
abbrev Request : Thread → Type
  | .pps => PpsRequest
  | .camera => CameraRequest

/-- And their answers. -/
abbrev Response : (t : Thread) → Request t → Type
  | .pps => PpsRequest.Response
  | .camera => CameraRequest.Response

/-- The edges come in their order. When there are none left the thread waits for good. -/
def performPps : (request : PpsRequest) → Trigger → Outcome Trigger request.Response
  | .awaitEdge, s =>
      match s.edges with
      | [] => .blocks
      | evUtcNs :: edges => .returns evUtcNs { s with edges := edges }
  | .storeLastPpsNs evUtcNs, s => .returns () { s with lastPpsNs := evUtcNs }
  | .storePpsPending, s => .returns () { s with ppsPending := true }

/-- The frames come in their order, too. -/
def performCamera : (request : CameraRequest) → Trigger → Outcome Trigger request.Response
  | .awaitFrame, s =>
      match s.frames with
      | [] => .blocks
      | frameUtcNs :: frames => .returns frameUtcNs { s with frames := frames }
  | .loadPpsPending, s => .returns s.ppsPending s
  | .loadLastPpsNs, s => .returns s.lastPpsNs s
  | .clearPpsPending, s => .returns () { s with ppsPending := false }
  | .callback _, s => .returns () s

abbrev pps (request : PpsRequest) : Program PpsRequest PpsRequest.Response request.Response :=
  Program.perform request

abbrev camera (request : CameraRequest) :
    Program CameraRequest CameraRequest.Response request.Response :=
  Program.perform request

/-- The edge is stored first and marked after that. -/
def ppsWatchThread : Program PpsRequest PpsRequest.Response (Option Unit) := do
  let evUtcNs ← pps .awaitEdge
  pps (.storeLastPpsNs evUtcNs)
  pps .storePpsPending
  return some ()

/-- The frame is near enough to the edge. -/
def isNear (maxFrameAgeNs frameUtcNs ppsNs : UInt64) : Bool :=
  (frameUtcNs.toInt64 - ppsNs.toInt64).abs < maxFrameAgeNs.toInt64

/-- A completed request. One that was cancelled is only queued again and never
looks at the mark, so it is no frame here; and the camera delivers in one of the
two pixel formats for which the callback is called. -/
def requestComplete (maxFrameAgeNs : UInt64) :
    Program CameraRequest CameraRequest.Response (Option Unit) := do
  let frameUtcNs ← camera .awaitFrame
  let ppsPending ← camera .loadPpsPending
  .when ppsPending do
    let ppsNs ← camera .loadLastPpsNs
    .when (isNear maxFrameAgeNs frameUtcNs ppsNs) do
      camera .clearPpsPending
      camera (.callback ppsNs)
  return some ()

/-- The surroundings act by edges and frames only. -/
def system (maxFrameAgeNs : UInt64) : System Response (fun _ => Unit) Trigger Empty where
  perform
    | .pps => performPps
    | .camera => performCamera
  move _ _ := none
  start _ := return some ()
  loop
    | .pps => fun _ => ppsWatchThread
    | .camera => fun _ => requestComplete maxFrameAgeNs

/-- The two variables, with all that has happened. -/
abbrev History := World Response Trigger Empty

/-- What has happened, the latest first. -/
abbrev Trace := List (Trigger × Label Response Empty)

section Traces

/-- The number of edges which have been stored. -/
def stored : Trace → Nat
  | [] => 0
  | (_, .statement .pps (.storeLastPpsNs _) _) :: earlier => stored earlier + 1
  | _ :: earlier => stored earlier

/-- The number of edges for which the mark has been set. -/
def marks : Trace → Nat
  | [] => 0
  | (_, .statement .pps .storePpsPending _) :: earlier => marks earlier + 1
  | _ :: earlier => marks earlier

/-- The edge which was stored last. -/
def latestStored : Trace → Option UInt64
  | [] => none
  | (_, .statement .pps (.storeLastPpsNs evUtcNs) _) :: _ => some evUtcNs
  | _ :: earlier => latestStored earlier

/-- The edge for which the mark was set. -/
def markedEdge : Trace → Option UInt64
  | [] => none
  | (_, .statement .pps .storePpsPending _) :: earlier => latestStored earlier
  | _ :: earlier => markedEdge earlier

/-- The edge with which a frame is tagged. -/
def loaded : Trace → Option UInt64
  | [] => none
  | (_, .statement .camera .loadLastPpsNs ppsNs) :: _ => some ppsNs
  | _ :: earlier => loaded earlier

/-- The number of edges which had been stored when the tag was loaded. -/
def storedAtLoad : Trace → Nat
  | [] => 0
  | (_, .statement .camera .loadLastPpsNs _) :: earlier => stored earlier
  | _ :: earlier => storedAtLoad earlier

/-- The number of edges which had been marked when the mark was cleared. -/
def marksAtClear : Trace → Nat
  | [] => 0
  | (_, .statement .camera .clearPpsPending _) :: earlier => marks earlier
  | _ :: earlier => marksAtClear earlier

/-- The timestamps of the frames which the callback got, the latest one first. -/
def reports : Trace → List UInt64
  | [] => []
  | (_, .statement .camera (.callback reportTimestampNs) _) :: earlier =>
      reportTimestampNs :: reports earlier
  | _ :: earlier => reports earlier

/-- Whenever the mark is cleared, as many edges have been marked as had been
stored when the tag was loaded: the edge of the tag, and none after it. -/
def inOrder : Trace → Bool
  | [] => true
  | (_, .statement .camera .clearPpsPending _) :: earlier =>
      marks earlier = storedAtLoad earlier && inOrder earlier
  | _ :: earlier => inOrder earlier

/-- No timestamp is reported twice, and a mark is only cleared for a frame which
is tagged with the edge of the mark. -/
structure OnePhotoPerEdge (trace : Trace) : Prop where
  distinct : (reports trace).Nodup
  tagged : ∀ later before reportTimestampNs response earlier,
    trace = later ++
        (before, .statement .camera (.callback reportTimestampNs) response) :: earlier →
      loaded earlier = some reportTimestampNs
  cleared : ∀ later before response earlier,
    trace = later ++ (before, .statement .camera .clearPpsPending response) :: earlier →
      loaded earlier = markedEdge earlier

end Traces

section Edges

variable {edges : List UInt64}

/-- The edge with this number, from one on. -/
def edge (edges : List UInt64) : Nat → Option UInt64
  | 0 => none
  | n + 1 => edges[n]?

theorem edge_lt (hEdges : edges.Pairwise (· < ·)) {m n : Nat} (hmn : m < n) {first second : UInt64}
    (hFirst : edge edges m = some first) (hSecond : edge edges n = some second) :
    first < second := by
  cases m with
  | zero => cases hFirst
  | succ m =>
      cases n with
      | zero => cases hSecond
      | succ n =>
          obtain ⟨hm, rfl⟩ := List.getElem?_eq_some_iff.mp hFirst
          obtain ⟨hn, rfl⟩ := List.getElem?_eq_some_iff.mp hSecond
          exact List.pairwise_iff_getElem.mp hEdges m n hm hn (by omega)

theorem edge_inj (hEdges : edges.Pairwise (· < ·)) {m n : Nat} {first : UInt64}
    (hFirst : edge edges m = some first) (hSecond : edge edges n = some first) : m = n := by
  rcases Nat.lt_trichotomy m n with hLess | hSame | hGreater
  · exact absurd (edge_lt hEdges hLess hFirst hSecond) (UInt64.lt_irrefl first)
  · exact hSame
  · exact absurd (edge_lt hEdges hGreater hSecond hFirst) (UInt64.lt_irrefl first)

end Edges

section Threads

variable (edges : List UInt64)

/-- The edges are stored in their order, and each is marked before the next one
is stored. A frame is tagged with an edge which has been stored, and with a
later one than all frames before it if the marks were cleared in order. -/
def photoGuarantee : Guarantee Response Trigger Empty
  | .pps, .storeLastPpsNs evUtcNs, w =>
      edges[stored w.trace]? = some evUtcNs ∧ marks w.trace = stored w.trace
  | .pps, .storePpsPending, w => marks w.trace + 1 = stored w.trace
  | .camera, .clearPpsPending, w => markedEdge w.trace = edge edges (marks w.trace) ∧
      ∃ ppsNs, loaded w.trace = some ppsNs ∧ edge edges (storedAtLoad w.trace) = some ppsNs
  | .camera, .callback reportTimestampNs, w => loaded w.trace = some reportTimestampNs ∧
      (inOrder w.trace = true → ∀ other ∈ reports w.trace, other < reportTimestampNs)
  | _, _, _ => True

/-- What the two variables say about the edges, at any time. -/
structure Consistent (w : History) : Prop where
  latest : latestStored w.trace = edge edges (stored w.trace)
  marked : markedEdge w.trace = edge edges (marks w.trace)
  lastPpsNs : 0 < stored w.trace → edge edges (stored w.trace) = some w.state.lastPpsNs
  marks_le : marks w.trace ≤ stored w.trace
  cleared_le : marksAtClear w.trace ≤ marks w.trace
  ppsPending : w.state.ppsPending = true → marksAtClear w.trace < marks w.trace

/-- Nothing has happened that the camera takes part in. -/
structure Unseen (w w' : History) : Prop where
  marks_le : marks w.trace ≤ marks w'.trace
  marksAtClear : marksAtClear w'.trace = marksAtClear w.trace
  loaded : loaded w'.trace = loaded w.trace
  storedAtLoad : storedAtLoad w'.trace = storedAtLoad w.trace
  reports : reports w'.trace = reports w.trace
  inOrder : inOrder w'.trace = inOrder w.trace

variable {edges} {maxFrameAgeNs : UInt64} {w w' : History}

theorem pps_interference (h : (system maxFrameAgeNs).Interference (photoGuarantee edges) .camera
    w w') (hw : Consistent edges w) : Consistent edges w' ∧ Unseen w w' := by
  cases h with
  | move h => cases h
  | @statement u request response s hOther hGuarantee h =>
      cases u with
      | camera => exact absurd rfl hOther
      | pps =>
          cases request with
          | awaitEdge =>
              simp only [system, performPps] at h
              split at h
              · cases h
              · cases h
                exact ⟨⟨hw.latest, hw.marked, hw.lastPpsNs, hw.marks_le, hw.cleared_le,
                  hw.ppsPending⟩, ⟨Nat.le_refl _, rfl, rfl, rfl, rfl, rfl⟩⟩
          | storeLastPpsNs evUtcNs =>
              cases h
              have hEdge : some evUtcNs = edge edges (stored w.trace + 1) := hGuarantee.1.symm
              exact ⟨⟨hEdge, hw.marked, fun _ => hEdge.symm, Nat.le_succ_of_le hw.marks_le,
                hw.cleared_le, hw.ppsPending⟩, ⟨Nat.le_refl _, rfl, rfl, rfl, rfl, rfl⟩⟩
          | storePpsPending =>
              cases h
              have hMarks : marks w.trace + 1 = stored w.trace := hGuarantee
              have hMarked : latestStored w.trace = edge edges (marks w.trace + 1) := by
                rw [hMarks]
                exact hw.latest
              exact ⟨⟨hw.latest, hMarked, hw.lastPpsNs, Nat.le_of_eq hMarks,
                Nat.le_succ_of_le hw.cleared_le, fun _ => Nat.lt_succ_of_le hw.cleared_le⟩,
                ⟨Nat.le_succ _, rfl, rfl, rfl, rfl, rfl⟩⟩

variable (edges) (maxFrameAgeNs)

section PpsThread

abbrev PpsTriple {Result : Type} (P : History → Prop)
    (code : Program PpsRequest PpsRequest.Response Result) (Q : Result → History → Prop) : Prop :=
  (system maxFrameAgeNs).Triple (photoGuarantee edges) .pps P code Q

/-- So many edges have been noted, stored and marked. -/
structure Progress (noted stored marks : Nat) (w : History) : Prop where
  edges : w.state.edges = edges.drop noted
  stored : NearestFrame.stored w.trace = stored
  marks : NearestFrame.marks w.trace = marks

theorem stable_progress (noted stored marks : Nat) :
    (system maxFrameAgeNs).Stable (photoGuarantee edges) .pps
      (Progress edges noted stored marks) := by
  intro w w' h hw
  cases h with
  | move h => cases h
  | @statement u request response s hOther hGuarantee h =>
      cases u with
      | pps => exact absurd rfl hOther
      | camera =>
          cases request with
          | awaitFrame =>
              simp only [system, performCamera] at h
              split at h
              · cases h
              · cases h
                exact ⟨hw.edges, hw.stored, hw.marks⟩
          | _ =>
              cases h
              exact ⟨hw.edges, hw.stored, hw.marks⟩

theorem triple_awaitEdge (n : Nat) :
    PpsTriple edges maxFrameAgeNs (Progress edges n n n) (pps .awaitEdge)
      fun evUtcNs w => edges[n]? = some evUtcNs ∧ Progress edges (n + 1) n n w := by
  have hBefore := stable_progress edges maxFrameAgeNs n n n
  have hAfter := stable_progress edges maxFrameAgeNs (n + 1) n n
  apply Machine.Triple.perform hBefore fun _ => (Machine.Stable.const _).and hAfter
  · exact fun _ _ => trivial
  · intro w evUtcNs s hw hPerform
    simp only [system, performPps] at hPerform
    split at hPerform
    · cases hPerform
    · rename_i evUtcNs rest hEdges
      cases hPerform
      have hDrop : edges.drop n = evUtcNs :: rest := hw.edges.symm.trans hEdges
      refine ⟨?_, ?_, hw.stored, hw.marks⟩
      · rw [← List.head?_drop, hDrop, List.head?_cons]
      · change rest = edges.drop (n + 1)
        rw [← List.tail_drop, hDrop, List.tail_cons]

theorem triple_ppsWatchThread :
    PpsTriple edges maxFrameAgeNs (fun w => ∃ n, Progress edges n n n w) ppsWatchThread
      fun _ w => ∃ n, Progress edges n n n w := by
  refine .of_exists fun n => (triple_awaitEdge edges maxFrameAgeNs n).bind fun evUtcNs => ?_
  refine .of_fact fun hEdge => ?_
  have hStable := stable_progress edges maxFrameAgeNs (n + 1)
  have hStore : PpsTriple edges maxFrameAgeNs (Progress edges (n + 1) n n)
      (pps (.storeLastPpsNs evUtcNs)) fun _ => Progress edges (n + 1) (n + 1) n := by
    apply Machine.Triple.perform (hStable _ _) fun _ => hStable _ _
    · intro w hw
      refine ⟨?_, hw.marks.trans hw.stored.symm⟩
      rw [hw.stored]
      exact hEdge
    · intro w response s hw hPerform
      cases hPerform
      exact ⟨hw.edges, congrArg (· + 1) hw.stored, hw.marks⟩
  have hMark : PpsTriple edges maxFrameAgeNs (Progress edges (n + 1) (n + 1) n)
      (pps .storePpsPending) fun _ => Progress edges (n + 1) (n + 1) (n + 1) := by
    apply Machine.Triple.perform (hStable _ _) fun _ => hStable _ _
    · intro w hw
      change marks w.trace + 1 = stored w.trace
      rw [hw.marks, hw.stored]
    · intro w response s hw hPerform
      cases hPerform
      exact ⟨hw.edges, hw.stored, congrArg (· + 1) hw.marks⟩
  refine hStore.bind fun _ => hMark.bind fun _ => .done (hStable _ _) fun w hw => ?_
  exact ⟨n + 1, hw⟩

end PpsThread

section RequestComplete

abbrev CameraTriple {Result : Type} (P : History → Prop)
    (code : Program CameraRequest CameraRequest.Response Result)
    (Q : Result → History → Prop) : Prop :=
  (system maxFrameAgeNs).Triple (photoGuarantee edges) .camera P code Q

/-- What has been reported is an edge whose mark was cleared by then. -/
structure Reported (w : History) : Prop where
  consistent : Consistent edges w
  reports : inOrder w.trace = true →
    ∀ other ∈ reports w.trace, ∃ n, n ≤ marksAtClear w.trace ∧ edge edges n = some other

/-- There is a mark to be cleared. -/
structure Pending (w : History) : Prop extends Reported edges w where
  marked : marksAtClear w.trace < marks w.trace

structure Tagged (ppsNs : UInt64) (w : History) : Prop extends Pending edges w where
  loaded : NearestFrame.loaded w.trace = some ppsNs
  storedAtLoad : edge edges (NearestFrame.storedAtLoad w.trace) = some ppsNs

/-- The mark has been cleared, and the frame has not been reported yet. -/
structure Accepted (ppsNs : UInt64) (w : History) : Prop where
  consistent : Consistent edges w
  loaded : NearestFrame.loaded w.trace = some ppsNs
  cleared : inOrder w.trace = true → edge edges (marksAtClear w.trace) = some ppsNs
  reports : inOrder w.trace = true →
    ∀ other ∈ reports w.trace, ∃ n, n < marksAtClear w.trace ∧ edge edges n = some other

variable {edges}

theorem Reported.unseen (h : Reported edges w) (hConsistent : Consistent edges w')
    (hSame : Unseen w w') : Reported edges w' := by
  refine ⟨hConsistent, ?_⟩
  rw [hSame.inOrder, hSame.reports, hSame.marksAtClear]
  exact h.reports

theorem Pending.unseen (h : Pending edges w) (hConsistent : Consistent edges w')
    (hSame : Unseen w w') : Pending edges w' := by
  refine ⟨h.toReported.unseen hConsistent hSame, ?_⟩
  rw [hSame.marksAtClear]
  exact Nat.lt_of_lt_of_le h.marked hSame.marks_le

theorem Tagged.unseen {ppsNs : UInt64} (h : Tagged edges ppsNs w)
    (hConsistent : Consistent edges w') (hSame : Unseen w w') : Tagged edges ppsNs w' := by
  refine ⟨h.toPending.unseen hConsistent hSame, hSame.loaded.trans h.loaded, ?_⟩
  rw [hSame.storedAtLoad]
  exact h.storedAtLoad

theorem Accepted.unseen {ppsNs : UInt64} (h : Accepted edges ppsNs w)
    (hConsistent : Consistent edges w') (hSame : Unseen w w') : Accepted edges ppsNs w' := by
  refine ⟨hConsistent, hSame.loaded.trans h.loaded, ?_, ?_⟩
  · rw [hSame.inOrder, hSame.marksAtClear]
    exact h.cleared
  · rw [hSame.inOrder, hSame.reports, hSame.marksAtClear]
    exact h.reports

variable (edges)

theorem stable_of_unseen {A : History → Prop} (hConsistent : ∀ w, A w → Consistent edges w)
    (hSame : ∀ w w', A w → Consistent edges w' → Unseen w w' → A w') :
    (system maxFrameAgeNs).Stable (photoGuarantee edges) .camera A := by
  intro w w' h hw
  obtain ⟨hAfter, hUnseen⟩ := pps_interference h (hConsistent w hw)
  exact hSame w w' hw hAfter hUnseen

theorem stable_reported :
    (system maxFrameAgeNs).Stable (photoGuarantee edges) .camera (Reported edges) :=
  stable_of_unseen edges maxFrameAgeNs (fun _ hw => hw.consistent) fun _ _ hw => hw.unseen

theorem stable_asked (ppsPending : Bool) :
    (system maxFrameAgeNs).Stable (photoGuarantee edges) .camera
      fun w => Reported edges w ∧ (ppsPending = true → Pending edges w) :=
  stable_of_unseen edges maxFrameAgeNs (fun _ hw => hw.1.consistent)
    fun _ _ hw hConsistent hSame => ⟨hw.1.unseen hConsistent hSame,
      fun hPending => (hw.2 hPending).unseen hConsistent hSame⟩

theorem stable_pending :
    (system maxFrameAgeNs).Stable (photoGuarantee edges) .camera (Pending edges) :=
  stable_of_unseen edges maxFrameAgeNs (fun _ hw => hw.consistent) fun _ _ hw => hw.unseen

theorem stable_tagged (ppsNs : UInt64) :
    (system maxFrameAgeNs).Stable (photoGuarantee edges) .camera (Tagged edges ppsNs) :=
  stable_of_unseen edges maxFrameAgeNs (fun _ hw => hw.consistent) fun _ _ hw => hw.unseen

theorem stable_accepted (ppsNs : UInt64) :
    (system maxFrameAgeNs).Stable (photoGuarantee edges) .camera (Accepted edges ppsNs) :=
  stable_of_unseen edges maxFrameAgeNs (fun _ hw => hw.consistent) fun _ _ hw => hw.unseen

variable {edges} in
theorem Consistent.camera {request : CameraRequest} {response : request.Response} {s : Trigger}
    (h : Consistent edges w) (hRequest : request ≠ .clearPpsPending)
    (hPerform : performCamera request w.state = .returns response s) :
    Consistent edges (w.record (.statement .camera request response) s) := by
  cases request with
  | awaitFrame =>
      simp only [performCamera] at hPerform
      split at hPerform
      · cases hPerform
      · cases hPerform
        exact ⟨h.latest, h.marked, h.lastPpsNs, h.marks_le, h.cleared_le, h.ppsPending⟩
  | clearPpsPending => exact absurd rfl hRequest
  | _ =>
      cases hPerform
      exact ⟨h.latest, h.marked, h.lastPpsNs, h.marks_le, h.cleared_le, h.ppsPending⟩

theorem triple_awaitFrame :
    CameraTriple edges maxFrameAgeNs (Reported edges) (camera .awaitFrame)
      fun _ => Reported edges := by
  have hStable := stable_reported edges maxFrameAgeNs
  apply Machine.Triple.perform hStable fun _ => hStable
  · exact fun _ _ => trivial
  · intro w frameUtcNs s hw hPerform
    exact ⟨hw.consistent.camera nofun hPerform, hw.reports⟩

theorem triple_loadPpsPending :
    CameraTriple edges maxFrameAgeNs (Reported edges) (camera .loadPpsPending)
      fun ppsPending w => Reported edges w ∧ (ppsPending = true → Pending edges w) := by
  apply Machine.Triple.perform (stable_reported edges maxFrameAgeNs)
    (stable_asked edges maxFrameAgeNs)
  · exact fun _ _ => trivial
  · intro w ppsPending s hw hPerform
    have hAfter : Reported edges (w.record (.statement .camera .loadPpsPending ppsPending) s) :=
      ⟨hw.consistent.camera nofun hPerform, hw.reports⟩
    cases hPerform
    exact ⟨hAfter, fun hPending => ⟨hAfter, hw.consistent.ppsPending hPending⟩⟩

theorem triple_loadLastPpsNs :
    CameraTriple edges maxFrameAgeNs (Pending edges) (camera .loadLastPpsNs)
      (Tagged edges) := by
  apply Machine.Triple.perform (stable_pending edges maxFrameAgeNs)
    (stable_tagged edges maxFrameAgeNs)
  · exact fun _ _ => trivial
  · intro w ppsNs s hw hPerform
    have hAfter : Consistent edges (w.record (.statement .camera .loadLastPpsNs ppsNs) s) :=
      hw.consistent.camera nofun hPerform
    have hStored : 0 < stored w.trace :=
      Nat.lt_of_lt_of_le (Nat.zero_lt_of_lt hw.marked) hw.consistent.marks_le
    cases hPerform
    exact ⟨⟨⟨hAfter, hw.reports⟩, hw.marked⟩, rfl, hw.consistent.lastPpsNs hStored⟩

/-- Clearing the mark in order makes the tag the number of marks. -/
theorem triple_clearPpsPending (ppsNs : UInt64) :
    CameraTriple edges maxFrameAgeNs (Tagged edges ppsNs) (camera .clearPpsPending)
      fun _ => Accepted edges ppsNs := by
  apply Machine.Triple.perform (stable_tagged edges maxFrameAgeNs ppsNs)
    fun _ => stable_accepted edges maxFrameAgeNs ppsNs
  · exact fun w hw => ⟨hw.consistent.marked, ppsNs, hw.loaded, hw.storedAtLoad⟩
  · intro w response s hw hPerform
    cases hPerform
    have hConsistent := hw.consistent
    have hOrder : ∀ {marked earlier : Bool}, (marked && earlier) = true →
        marked = true ∧ earlier = true := Bool.and_eq_true_iff.mp
    refine ⟨⟨hConsistent.latest, hConsistent.marked, hConsistent.lastPpsNs, hConsistent.marks_le,
      Nat.le_refl _, fun hPending => nomatch hPending⟩, hw.loaded, fun hInOrder => ?_,
      fun hInOrder other hOther => ?_⟩
    · have hMarks : marks w.trace = storedAtLoad w.trace := of_decide_eq_true (hOrder hInOrder).1
      change edge edges (marks w.trace) = some ppsNs
      rw [hMarks]
      exact hw.storedAtLoad
    · obtain ⟨n, hn, hEdge⟩ := hw.reports (hOrder hInOrder).2 other hOther
      exact ⟨n, Nat.lt_of_le_of_lt hn hw.marked, hEdge⟩

variable {edges} in
theorem triple_callback (hEdges : edges.Pairwise (· < ·)) (ppsNs : UInt64) :
    CameraTriple edges maxFrameAgeNs (Accepted edges ppsNs) (camera (.callback ppsNs))
      fun _ => Reported edges := by
  apply Machine.Triple.perform (stable_accepted edges maxFrameAgeNs ppsNs)
    fun _ => stable_reported edges maxFrameAgeNs
  · intro w hw
    refine ⟨hw.loaded, fun hInOrder other hOther => ?_⟩
    obtain ⟨n, hn, hEdge⟩ := hw.reports hInOrder other hOther
    exact edge_lt hEdges hn hEdge (hw.cleared hInOrder)
  · intro w response s hw hPerform
    refine ⟨hw.consistent.camera nofun hPerform, fun hInOrder other hOther => ?_⟩
    rcases List.mem_cons.mp hOther with rfl | hBefore
    · exact ⟨marksAtClear w.trace, Nat.le_refl _, hw.cleared hInOrder⟩
    · obtain ⟨n, hn, hEdge⟩ := hw.reports hInOrder other hBefore
      exact ⟨n, Nat.le_of_lt hn, hEdge⟩

variable {edges} in
theorem triple_requestComplete (hEdges : edges.Pairwise (· < ·)) :
    CameraTriple edges maxFrameAgeNs (Reported edges) (requestComplete maxFrameAgeNs)
      fun _ => Reported edges := by
  have hReported := stable_reported edges maxFrameAgeNs
  refine (triple_awaitFrame edges maxFrameAgeNs).bind fun frameUtcNs => ?_
  refine (triple_loadPpsPending edges maxFrameAgeNs).bind fun ppsPending => ?_
  have hAccept : ∀ ppsNs, CameraTriple edges maxFrameAgeNs (Tagged edges ppsNs)
      (.when (isNear maxFrameAgeNs frameUtcNs ppsNs) do
        camera .clearPpsPending
        camera (.callback ppsNs)) fun _ => Reported edges := by
    intro ppsNs
    apply Machine.Triple.when
    · intro hNear
      exact (triple_clearPpsPending edges maxFrameAgeNs ppsNs).bind fun _ =>
        triple_callback maxFrameAgeNs hEdges ppsNs
    · exact fun _ => .done (stable_tagged edges maxFrameAgeNs ppsNs) fun _ hw => hw.toReported
  have hFrame : CameraTriple edges maxFrameAgeNs
      (fun w => Reported edges w ∧ (ppsPending = true → Pending edges w))
      (.when ppsPending do
        let ppsNs ← camera .loadLastPpsNs
        .when (isNear maxFrameAgeNs frameUtcNs ppsNs) do
          camera .clearPpsPending
          camera (.callback ppsNs)) fun _ => Reported edges := by
    apply Machine.Triple.when
    · intro hPending
      exact Machine.Triple.mono ((triple_loadLastPpsNs edges maxFrameAgeNs).bind hAccept)
        (fun _ hw => hw.2 hPending) fun _ _ hw => hw
    · exact fun _ => .done (stable_asked edges maxFrameAgeNs ppsPending) fun _ hw => hw.1
  exact hFrame.bind fun _ => .done hReported fun _ hw => hw

end RequestComplete

def post : (t : Thread) → Option Unit → History → Prop
  | .pps => fun _ w => ∃ n, Progress edges n n n w
  | .camera => fun _ => Reported edges

/-- No edge has been noted yet. -/
structure Started (s : Trigger) : Prop where
  edges : s.edges = edges
  ppsPending : s.ppsPending = false

variable {edges}

theorem photo_contract (hEdges : edges.Pairwise (· < ·)) :
    (system maxFrameAgeNs).Contract (photoGuarantee edges) (Started edges) (post edges) := by
  constructor
  · intro t first hFirst
    cases t with
    | pps =>
        refine Machine.Triple.mono (.done (stable_progress edges maxFrameAgeNs 0 0 0)
          fun _ hw => hw) ?_ fun _ _ hw => ⟨0, hw⟩
        rintro w rfl
        exact ⟨hFirst.edges, rfl, rfl⟩
    | camera =>
        refine Machine.Triple.mono (.done (stable_reported edges maxFrameAgeNs)
          fun _ hw => hw) ?_ fun _ _ hw => hw
        rintro w rfl
        have hPending : first.ppsPending = true → 0 < 0 := by simp [hFirst.ppsPending]
        exact ⟨⟨rfl, rfl, nofun, Nat.le_refl _, Nat.le_refl _, hPending⟩, nofun⟩
  · intro t locals
    cases t with
    | pps => exact triple_ppsWatchThread edges maxFrameAgeNs
    | camera => exact triple_requestComplete maxFrameAgeNs hEdges

end Threads

theorem inOrder_cons {entry : Trigger × Label Response Empty} {earlier : Trace} :
    inOrder (entry :: earlier) = true ↔
      (∀ before response, entry = (before, .statement .camera .clearPpsPending response) →
        marks earlier = storedAtLoad earlier) ∧ inOrder earlier = true := by
  obtain ⟨before, label⟩ := entry
  cases label with
  | move action => cases action
  | statement t request response =>
      cases t with
      | pps => cases request <;> simp [inOrder]
      | camera => cases request <;> simp [inOrder]

theorem inOrder_iff {trace : Trace} : inOrder trace = true ↔
    ∀ later before response earlier,
      trace = later ++ (before, .statement .camera .clearPpsPending response) :: earlier →
        marks earlier = storedAtLoad earlier := by
  induction trace with
  | nil => simp [inOrder]
  | cons entry rest ih =>
      rw [inOrder_cons, ih]
      constructor
      · rintro ⟨hEntry, hRest⟩ later before response earlier hTrace
        cases later with
        | nil =>
            obtain ⟨rfl, rfl⟩ := List.cons.inj hTrace
            exact hEntry before response rfl
        | cons head later => exact hRest later before response earlier (List.cons.inj hTrace).2
      · intro hAll
        refine ⟨fun before response hEntry => ?_, fun later before response earlier hRest => ?_⟩
        · exact hAll [] before response rest (by rw [hEntry, List.nil_append])
        · exact hAll (entry :: later) before response earlier (by rw [hRest, List.cons_append])

section Runs

variable {first : Trigger} {maxFrameAgeNs : UInt64}
  {c : Configuration Response (fun _ => Unit) Trigger Empty}

theorem reports_nodup (hEdges : first.edges.Pairwise (· < ·)) (hPending : first.ppsPending = false)
    (h : (system maxFrameAgeNs).Reachable first c) :
    inOrder c.world.trace = true → (reports c.world.trace).Nodup := by
  have hContract := photo_contract maxFrameAgeNs hEdges
  let I : History → Prop := fun w => inOrder w.trace = true → (reports w.trace).Nodup
  change I c.world
  refine hContract.invariant ⟨rfl, hPending⟩ (fun _ => List.nodup_nil) ?_ ?_ h
  · exact fun w action => nomatch action
  · intro w t request response s hNodup hGuarantee hPerform hInOrder
    have hBefore := hNodup (inOrder_cons.mp hInOrder).2
    cases t with
    | pps => cases request <;> exact hBefore
    | camera =>
        cases request with
        | callback ppsNs =>
            obtain ⟨-, hLater⟩ := hGuarantee
            have hLess := hLater (inOrder_cons.mp hInOrder).2
            refine List.nodup_cons.mpr ⟨fun hAgain => ?_, hBefore⟩
            exact UInt64.lt_irrefl ppsNs (hLess ppsNs hAgain)
        | _ => exact hBefore

end Runs

/-- The frame between the two edges finds no mark. -/
def marked : Trigger :=
  ⟨0, false, [1000000000, 2000000000], [1020000000, 1990000000, 2030000000]⟩

/-- A frame before the second edge and one after it. -/
def twoEdges : Trigger := ⟨0, false, [1000000000, 2000000000], [1990000000, 2020000000]⟩

end Mandeye.NearestFrame
