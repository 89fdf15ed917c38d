import Mandeye.Binary64
import Mandeye.Interleaving.Contract

/-! The reports of the controller, and the programs which subscribe to them. The
sockets keep the newest report only; the mode and the directories are part of
the first report in each second. -/
namespace Mandeye.Reports

open Interleaving

/-- What the longer report has. -/
structure Details where
  stopScanDirectory : String
  continousScanDirectory : String
  mode : String

/-- What is sent. The details are in the longer report only. -/
structure Report where
  time : UInt64
  dur : UInt64
  details : Option Details

/-- The programs which listen. -/
inductive Subscriber where
  | rtkNmea
  | camera
  deriving DecidableEq

/-- What a subscriber knows of the controller. The camera program ignores the time. -/
structure Known where
  timestamp : ℚ
  modeName : String
  continuousScanTarget : String

/-- A report without details changes nothing of them. -/
def Known.hear (report : Report) (known : Known) : Known :=
  match report.details with
  | none => known
  | some details =>
      { known with
        modeName := details.mode
        continuousScanTarget := details.continousScanDirectory }

/-- What a program keeps of a report. -/
def Known.update : Subscriber → Report → Known → Known
  | .rtkNmea, report, known =>
      { known.hear report with timestamp := Binary64.round report.time.toNat }
  | .camera, report, known => known.hear report

/-- The clock of the lidar, in seconds. -/
structure TimeStampProvider where
  timestamp : ℚ
  sessionDuration : ℚ

/-- The publisher, the newest report which each socket has kept, and what each program
knows. -/
structure Publication where
  timeStampProvider : Option TimeStampProvider
  mode : String
  stopScanDirectory : String
  continousScanDirectory : String
  queue : Subscriber → Option Report
  known : Subscriber → Known

/-- Nothing has been published. -/
def started : Publication where
  timeStampProvider := none
  mode := ""
  stopScanDirectory := ""
  continousScanDirectory := ""
  queue _ := none
  known _ := ⟨0, "", ""⟩

/-- The thread which publishes, and one in each program. -/
inductive Thread where
  | publisher
  | subscriber (s : Subscriber)
  deriving DecidableEq

/-- The clock is read twice, and the details under their mutex. -/
inductive PublisherRequest where
  | getTimeStamp
  | getSessionDuration
  | lockDetails
  | publish (report : Report)

/-- What the publisher reads. -/
abbrev PublisherRequest.Response : PublisherRequest → Type
  | .getTimeStamp => ℚ
  | .getSessionDuration => ℚ
  | .lockDetails => Details
  | .publish _ => Unit

/-- A report is received and then stored. -/
inductive SubscriberRequest where
  | recv
  | update (report : Report)

/-- Only the report is read. -/
abbrev SubscriberRequest.Response : SubscriberRequest → Type
  | .recv => Report
  | .update _ => Unit

/-- The statements of each thread. -/
abbrev Request : Thread → Type
  | .publisher => PublisherRequest
  | .subscriber _ => SubscriberRequest

/-- And their answers. -/
abbrev Response : (t : Thread) → Request t → Type
  | .publisher => PublisherRequest.Response
  | .subscriber _ => SubscriberRequest.Response

/-- What the controller and the clock do. -/
inductive Move where
  | setTimeStampProvider (provider : TimeStampProvider)
  | setMode (mode : String)
  | setWorkingDirectory (stopScanDirectory continousScanDirectory : String)

/-- Each call of the controller sets its own values. -/
def move : Move → Publication → Option Publication
  | .setTimeStampProvider provider, p => some { p with timeStampProvider := some provider }
  | .setMode mode, p => some { p with mode := mode }
  | .setWorkingDirectory stopScanDirectory continousScanDirectory, p =>
      some { p with
        stopScanDirectory := stopScanDirectory
        continousScanDirectory := continousScanDirectory }

/-- Without a clock the time is zero. A report replaces the one which has not been
received. -/
def performPublisher : (request : PublisherRequest) → Publication →
    Outcome Publication request.Response
  | .getTimeStamp, p => .returns (p.timeStampProvider.elim 0 TimeStampProvider.timestamp) p
  | .getSessionDuration, p =>
      .returns (p.timeStampProvider.elim 0 TimeStampProvider.sessionDuration) p
  | .lockDetails, p =>
      .returns ⟨p.stopScanDirectory, p.continousScanDirectory, p.mode⟩ p
  | .publish report, p => .returns () { p with queue := fun _ => some report }

/-- A program waits until there is a report. -/
def performSubscriber (s : Subscriber) : (request : SubscriberRequest) → Publication →
    Outcome Publication request.Response
  | .recv, p =>
      match p.queue s with
      | none => .blocks
      | some report => .returns report { p with queue := Function.update p.queue s none }
  | .update report, p =>
      .returns () { p with known := Function.update p.known s ((p.known s).update s report) }

abbrev PublisherCode : Type → Type := Program PublisherRequest PublisherRequest.Response

abbrev publisher (request : PublisherRequest) : PublisherCode request.Response :=
  Program.perform request

abbrev SubscriberCode : Type → Type := Program SubscriberRequest SubscriberRequest.Response

abbrev subscriber (request : SubscriberRequest) : SubscriberCode request.Response :=
  Program.perform request

/-- Seconds as they are printed. -/
def nanoseconds (seconds : ℚ) : UInt64 :=
  UInt64.ofNat ⌊Binary64.round (seconds * 1000000000)⌋₊

/-- One report, with the details if the second has changed. -/
def worker (lastTime : ℚ) : PublisherCode (Option ℚ) := do
  let time ← publisher .getTimeStamp
  let elapsed ← publisher .getSessionDuration
  if ⌊time⌋ ≠ ⌊lastTime⌋ then do
    let details ← publisher .lockDetails
    publisher (.publish ⟨nanoseconds time, nanoseconds elapsed, some details⟩)
    return some time
  else do
    publisher (.publish ⟨nanoseconds time, nanoseconds elapsed, none⟩)
    return some lastTime

/-- One report after another. -/
def clientThread : SubscriberCode (Option Unit) := do
  let report ← subscriber .recv
  subscriber (.update report)
  return some ()

/-- The publisher remembers the time of the last longer report. -/
abbrev Local : Thread → Type
  | .publisher => ℚ
  | .subscriber _ => Unit

/-- The publisher and the programs. -/
def system : System Response Local Publication Move where
  perform
    | .publisher => performPublisher
    | .subscriber s => performSubscriber s
  move := move
  start
    | .publisher => return some (0 : ℚ)
    | .subscriber _ => return some ()
  loop
    | .publisher => worker
    | .subscriber _ => fun _ => clientThread

/-- The publication, with all that has happened. -/
abbrev History := World Response Publication Move

/-- What has happened, the latest first. -/
abbrev Trace := List (Publication × Label Response Move)

section Traces

/-- The details in the newest report which had some. -/
def newestDetails : Trace → Option Details
  | [] => none
  | (_, .statement .publisher (.publish report) _) :: earlier =>
      report.details.or (newestDetails earlier)
  | _ :: earlier => newestDetails earlier

variable (s : Subscriber)

/-- The details in the newest report which the subscriber has received and which
had some. -/
def receivedDetails : Trace → Option Details
  | [] => none
  | (_, .statement (.subscriber u) .recv report) :: earlier =>
      if u = s then report.details.or (receivedDetails earlier) else receivedDetails earlier
  | _ :: earlier => receivedDetails earlier

/-- The newest report has been received. -/
def received : Trace → Bool
  | [] => false
  | (_, .statement .publisher (.publish _) _) :: _ => false
  | (_, .statement (.subscriber u) .recv _) :: earlier => u = s || received earlier
  | _ :: earlier => received earlier

/-- The newest report has been received, and the subscriber has gone by it. -/
def processed : Trace → Bool
  | [] => false
  | (_, .statement .publisher (.publish _) _) :: _ => false
  | (_, .statement (.subscriber u) (.update _) _) :: earlier =>
      if u = s then received s earlier else processed earlier
  | _ :: earlier => processed earlier

/-- A report without details replaces one which has some and is still unread. -/
def hides : Publication × Label Response Move → Bool
  | (p, .statement .publisher (.publish report) _) =>
      report.details.isNone && ((p.queue s).bind Report.details).isSome
  | _ => false

def hidden : Trace → Bool
  | [] => false
  | entry :: earlier => hides s entry || hidden earlier

end Traces

section Subscribers

/-- The mode and the directory are those of the details, or none are known. -/
structure Known.Of (known : Known) (details : Option Details) : Prop where
  modeName : known.modeName = details.elim "" Details.mode
  continuousScanTarget : known.continuousScanTarget = details.elim "" Details.continousScanDirectory

theorem Known.Of.hear {known : Known} {details : Option Details} (h : known.Of details)
    (report : Report) : (known.hear report).Of (report.details.or details) := by
  unfold Known.hear
  cases report.details with
  | none => exact h
  | some newer => exact ⟨rfl, rfl⟩

theorem Known.Of.update {known : Known} {details : Option Details} (h : known.Of details)
    (s : Subscriber) (report : Report) :
    (known.update s report).Of (report.details.or details) := by
  cases s with
  | rtkNmea => exact ⟨(h.hear report).modeName, (h.hear report).continuousScanTarget⟩
  | camera => exact h.hear report

/-- A subscriber goes by the reports it has received. -/
def reportGuarantee : Guarantee Response Publication Move
  | .subscriber s, .update report, w =>
      ((w.state.known s).update s report).Of (receivedDetails s w.trace)
  | _, _, _ => True

variable {s : Subscriber} {w w' : History}

theorem subscriber_interference
    (h : system.Interference reportGuarantee (.subscriber s) w w') :
    w'.state.known s = w.state.known s ∧
      receivedDetails s w'.trace = receivedDetails s w.trace := by
  cases h with
  | @move action p h => cases action <;> cases h <;> exact ⟨rfl, rfl⟩
  | @statement t request response p hOther _ h =>
      cases t with
      | publisher => cases request <;> cases h <;> exact ⟨rfl, rfl⟩
      | subscriber u =>
          have hNot : u ≠ s := fun hSame => hOther (congrArg Thread.subscriber hSame)
          cases request with
          | recv =>
              simp only [system, performSubscriber] at h
              split at h
              · cases h
              · cases h
                exact ⟨rfl, if_neg hNot⟩
          | update report =>
              cases h
              exact ⟨Function.update_of_ne (Ne.symm hNot) _ _, rfl⟩

variable (s)

/-- Between two reports. -/
def Idle (w : History) : Prop := (w.state.known s).Of (receivedDetails s w.trace)

/-- A report has been received and the subscriber is about to go by it. -/
def Holding (report : Report) (w : History) : Prop :=
  ((w.state.known s).update s report).Of (receivedDetails s w.trace)

theorem stable_idle : system.Stable reportGuarantee (.subscriber s) (Idle s) := by
  intro w w' h hw
  obtain ⟨hKnown, hReceived⟩ := subscriber_interference h
  rw [Idle, hKnown, hReceived]
  exact hw

theorem stable_holding (report : Report) :
    system.Stable reportGuarantee (.subscriber s) (Holding s report) := by
  intro w w' h hw
  obtain ⟨hKnown, hReceived⟩ := subscriber_interference h
  rw [Holding, hKnown, hReceived]
  exact hw

theorem triple_clientThread :
    system.Triple reportGuarantee (.subscriber s) (Idle s) clientThread fun _ => Idle s := by
  have hRecv : system.Triple reportGuarantee (.subscriber s) (Idle s) (subscriber .recv)
      (Holding s) := by
    apply Machine.Triple.perform (stable_idle s) (stable_holding s)
    · exact fun _ _ => trivial
    · intro w report p hw hPerform
      simp only [system, performSubscriber] at hPerform
      split at hPerform
      · cases hPerform
      · cases hPerform
        change Known.Of _ (if s = s then _ else _)
        rw [if_pos rfl]
        exact hw.update s report
  have hUpdate : ∀ report, system.Triple reportGuarantee (.subscriber s) (Holding s report)
      (subscriber (.update report)) fun _ => Idle s := by
    intro report
    apply Machine.Triple.perform (stable_holding s report) fun _ => stable_idle s
    · exact fun _ hw => hw
    · intro w response p hw hPerform
      cases hPerform
      change Known.Of (Function.update w.state.known s _ s) _
      rw [Function.update_self]
      exact hw
  exact hRecv.bind fun report => (hUpdate report).bind fun _ => .done (stable_idle s) fun _ hw => hw

def post : (t : Thread) → Option (Local t) → History → Prop
  | .publisher => fun _ _ => True
  | .subscriber s => fun _ => Idle s

theorem report_contract : system.Contract reportGuarantee (· = started) post := by
  have hTrue : system.Stable reportGuarantee .publisher fun _ => True := fun _ _ _ hw => hw
  constructor
  · rintro t p rfl
    cases t with
    | publisher =>
        exact Machine.Triple.mono (.done hTrue fun _ hw => hw) (fun _ _ => trivial) fun _ _ hw => hw
    | subscriber s =>
        refine Machine.Triple.mono (.done (stable_idle s) fun _ hw => hw) ?_ fun _ _ hw => hw
        rintro w rfl
        exact ⟨rfl, rfl⟩
  · intro t locals
    cases t with
    | publisher =>
        refine Machine.Keeps.of_issues hTrue (.of_forall _ fun request w _ => ?_)
        exact ⟨trivial, fun _ _ _ => trivial⟩
    | subscriber s => exact triple_clientThread s

/-- Where the newest details are, unless they have been hidden. -/
structure Consistent (w : History) : Prop where
  received : received s w.trace = true → w.state.queue s = none
  processed : processed s w.trace = true →
    w.state.queue s = none ∧ (w.state.known s).Of (receivedDetails s w.trace)
  newest : hidden s w.trace = false →
    newestDetails w.trace = ((w.state.queue s).bind Report.details).or (receivedDetails s w.trace)

variable {s}

theorem Consistent.move {action : Move} {p : Publication} (h : Consistent s w)
    (hMove : system.move action w.state = some p) :
    Consistent s (w.record (.move action) p) := by
  cases action <;> cases hMove <;> exact ⟨h.received, h.processed, h.newest⟩

theorem Consistent.publisher {request : PublisherRequest} {response : request.Response}
    {p : Publication} (h : Consistent s w)
    (hPerform : performPublisher request w.state = .returns response p) :
    Consistent s (w.record (.statement .publisher request response) p) := by
  cases request with
  | publish report =>
      cases hPerform
      refine ⟨nofun, nofun, fun hHidden => ?_⟩
      obtain ⟨hHides, hEarlier⟩ := Bool.or_eq_false_iff.mp hHidden
      have hNewest := h.newest hEarlier
      change report.details.or (newestDetails w.trace) =
        report.details.or (receivedDetails s w.trace)
      cases hDetails : report.details with
      | some details => rfl
      | none =>
          have hUnread : (w.state.queue s).bind Report.details = none := by
            simpa [hides, hDetails] using hHides
          rw [hNewest, hUnread, Option.none_or]
  | _ =>
      cases hPerform
      exact ⟨h.received, h.processed, h.newest⟩

theorem recv_eq {u : Subscriber} {report : Report} {p p' : Publication}
    (h : performSubscriber u .recv p = .returns report p') :
    p.queue u = some report ∧ p' = { p with queue := Function.update p.queue u none } := by
  simp only [performSubscriber] at h
  split at h
  · cases h
  · cases h
    exact ⟨‹_›, rfl⟩

theorem Consistent.recv {u : Subscriber} {report : Report} {p : Publication} (h : Consistent s w)
    (hPerform : performSubscriber u .recv w.state = .returns report p) :
    Consistent s (w.record (.statement (.subscriber u) .recv report) p) := by
  obtain ⟨hQueue, rfl⟩ := recv_eq hPerform
  by_cases hSame : u = s
  · subst hSame
    have hEmpty : Function.update w.state.queue u none u = none := Function.update_self ..
    refine ⟨fun _ => hEmpty, fun hProcessed => ?_, fun hHidden => ?_⟩
    · rw [(h.processed hProcessed).1] at hQueue
      cases hQueue
    · change newestDetails w.trace = ((Function.update w.state.queue u none u).bind
        Report.details).or (if u = u then report.details.or (receivedDetails u w.trace) else _)
      rw [hEmpty, if_pos rfl, h.newest hHidden, hQueue]
      rfl
  · have hOther : Function.update w.state.queue u none s = w.state.queue s :=
      Function.update_of_ne (Ne.symm hSame) ..
    have hReceived : (if u = s then report.details.or (receivedDetails s w.trace)
        else receivedDetails s w.trace) = receivedDetails s w.trace := if_neg hSame
    refine ⟨fun h' => ?_, fun h' => ?_, fun h' => ?_⟩
    · refine hOther.trans (h.received ?_)
      simpa [World.record, Reports.received, hSame] using h'
    · refine ⟨hOther.trans (h.processed h').1, ?_⟩
      change Known.Of _ (if u = s then _ else _)
      rw [hReceived]
      exact (h.processed h').2
    · change newestDetails w.trace =
        ((Function.update w.state.queue u none s).bind Report.details).or (if u = s then _ else _)
      rw [hOther, hReceived]
      exact h.newest h'

theorem Consistent.update {u : Subscriber} {report : Report} (h : Consistent s w)
    (hHolding : Holding u report w) :
    Consistent s (w.record (.statement (.subscriber u) (.update report) ())
      { w.state with
        known := Function.update w.state.known u ((w.state.known u).update u report) }) := by
  refine ⟨h.received, fun hProcessed => ?_, h.newest⟩
  by_cases hSame : u = s
  · subst hSame
    have hReceived : Reports.received u w.trace = true := (if_pos rfl).symm.trans hProcessed
    refine ⟨h.received hReceived, ?_⟩
    change Known.Of (Function.update w.state.known u _ u) _
    rw [Function.update_self]
    exact hHolding
  · have hBefore : Reports.processed s w.trace = true := (if_neg hSame).symm.trans hProcessed
    refine ⟨(h.processed hBefore).1, ?_⟩
    change Known.Of (Function.update w.state.known u _ s) _
    rw [Function.update_of_ne (Ne.symm hSame)]
    exact (h.processed hBefore).2

theorem consistent {c : Configuration Response Local Publication Move}
    (h : system.Reachable started c) : Consistent s c.world := by
  apply report_contract.invariant rfl ?_ ?_ ?_ h
  · exact ⟨nofun, nofun, fun _ => rfl⟩
  · exact fun w action p hw hMove => hw.move hMove
  · intro w t request response p hw hGuarantee hPerform
    cases t with
    | publisher => exact hw.publisher hPerform
    | subscriber u =>
        cases request with
        | recv => exact hw.recv hPerform
        | update report =>
            cases hPerform
            exact hw.update hGuarantee

/-- In a run in which no details are hidden, a subscriber which has processed
the newest report has the mode and the directory of the newest details. -/
theorem newest_known {c : Configuration Response Local Publication Move}
    (h : system.Reachable started c) (hHidden : hidden s c.world.trace = false)
    (hProcessed : processed s c.world.trace = true) {details : Details}
    (hNewest : newestDetails c.world.trace = some details) :
    (c.world.state.known s).modeName = details.mode ∧
      (c.world.state.known s).continuousScanTarget = details.continousScanDirectory := by
  have hConsistent := consistent (s := s) h
  obtain ⟨hQueue, hKnown⟩ := hConsistent.processed hProcessed
  have hReceived : receivedDetails s c.world.trace = some details := by
    rw [← hNewest, hConsistent.newest hHidden, hQueue]
    rfl
  rw [hReceived] at hKnown
  exact ⟨hKnown.modeName, hKnown.continuousScanTarget⟩

end Subscribers

/-- The controller scans, and the first report in a second says so. -/
def untilReported : List (Choice Thread Move) :=
  [.move (.setMode "SCANNING"), .move (.setWorkingDirectory "" "/media/usb/scan"),
    .move (.setTimeStampProvider ⟨1, 0⟩)] ++ steps .publisher 5

theorem newest_known_scanning :
    ∃ c, system.run (system.initial started)
        (untilReported ++ steps (.subscriber .camera) 3) = some c ∧
      (c.world.state.known .camera).modeName = "SCANNING" ∧
      (c.world.state.known .camera).continuousScanTarget = "/media/usb/scan" := by
  have hRun : system.run (system.initial started)
      (untilReported ++ steps (.subscriber .camera) 3) = some _ := rfl
  exact ⟨_, hRun, newest_known (System.Reachable.initial.run _ hRun) rfl rfl rfl⟩

/-- The next report replaces the first one in the second. -/
theorem mode_hidden :
    ∃ c, system.Reachable started c ∧ processed .camera c.world.trace = true ∧
      newestDetails c.world.trace = some ⟨"", "/media/usb/scan", "SCANNING"⟩ ∧
      (c.world.state.known .camera).modeName = "" := by
  have hRun : system.run (system.initial started)
      (untilReported ++ steps .publisher 4 ++ steps (.subscriber .camera) 3) = some _ := rfl
  exact ⟨_, System.Reachable.initial.run _ hRun, rfl, rfl, rfl⟩

end Mandeye.Reports
