import Mandeye.Calls
import Mandeye.Livox.Client

/-! The duration of a session, measured in the timestamps of the lidars. All lidars
share one start, and the packets of one may be older than those of another. -/
namespace Mandeye.LivoxClient

open Calls

/-- The calls which read or set the clock of the client. -/
inductive ClockCall where
  | pointCloudCallback (laserId : UInt16) (data : LivoxLidarEthernetPacket)
  | imuDataCallback (laserId : UInt16) (data : LivoxLidarEthernetPacket) (millis : UInt64)
  | initializeDuration

namespace ClockCall

def apply (client : LivoxClient) : ClockCall → LivoxClient
  | .pointCloudCallback laserId data => client.pointCloudCallback laserId data
  | .imuDataCallback laserId data millis => client.imuDataCallback laserId data millis
  | .initializeDuration => client.initializeDuration

/-- The timestamp which a call passes to `saveTimeStamp`. -/
def saved : ClockCall → Option UInt64
  | .pointCloudCallback _ data =>
      if data.dataType = kLivoxLidarCartesianCoordinateHighData then some data.timestamp else none
  | .imuDataCallback _ data _ =>
      if data.dataType = kLivoxLidarImuData then some data.timestamp else none
  | .initializeDuration => none

/-- The client after some calls. -/
def run (calls : List ClockCall) : LivoxClient := calls.foldl apply .new

/-- The timestamp saved last, which is zero before the first one. -/
def lastSaved (calls : List ClockCall) : UInt64 := (calls.filterMap saved).getLast?.getD 0

def largestSaved (calls : List ClockCall) : Nat :=
  (calls.filterMap saved).foldr (fun timestamp largest => max timestamp.toNat largest) 0

/-- The elapsed time does not go beyond the largest timestamp seen so far. -/
def Bounded (calls : List ClockCall) : Prop :=
  ∀ start, (run calls).sessionStart = some start →
    (run calls).elapsed.toNat + start.toNat ≤ largestSaved calls

/-- The subtraction in `saveTimeStamp` is one of natural numbers. -/
def Unwrapped (earlier : List ClockCall) (call : ClockCall) : Prop :=
  ∀ start, (run earlier).sessionStart = some start → ∀ timestamp ∈ call.saved, start ≤ timestamp

/-- No packet after the first `initializeDuration` is older than the one saved last
before it. -/
def InOrder (calls : List ClockCall) : Prop :=
  ∀ before after, calls = before ++ .initializeDuration :: after → .initializeDuration ∉ before →
    ∀ timestamp ∈ after.filterMap saved, lastSaved before ≤ timestamp

variable {client : LivoxClient} {call : ClockCall} {calls before after : List ClockCall}

@[simp] theorem run_nil : run [] = .new := rfl

@[simp] theorem run_concat : run (calls ++ [call]) = call.apply (run calls) := by
  simp [run]

@[simp] theorem largestSaved_concat :
    largestSaved (calls ++ [call]) =
      max (largestSaved calls) ((call.saved.map UInt64.toNat).getD 0) := by
  rw [largestSaved, largestSaved, List.filterMap_append]
  induction calls.filterMap saved with
  | nil => cases h : call.saved <;> simp [h]
  | cons timestamp rest ih =>
      simp only [List.cons_append, List.foldr_cons]
      omega

theorem lastSaved_concat :
    lastSaved (calls ++ [call]) = call.saved.getD (lastSaved calls) := by
  cases h : call.saved <;> simp [lastSaved, h]

/-- What a call does to the clock: the start is set once, and a saved timestamp is
measured from it. -/
theorem apply_clock :
    (call.apply client).timestamp = call.saved.getD client.timestamp ∧
    (call.apply client).sessionStart =
      (client.sessionStart.or
        (match call with | .initializeDuration => some client.timestamp | _ => none)) ∧
    (call.apply client).elapsed =
      ((client.sessionStart.bind fun start => call.saved.map (· - start)).getD
        client.elapsed) := by
  cases call with
  | pointCloudCallback laserId data =>
      by_cases h : data.dataType = kLivoxLidarCartesianCoordinateHighData
      · cases hStart : client.sessionStart <;>
          simp [apply, saved, LivoxClient.pointCloudCallback, saveTimeStamp, h, hStart]
      · simp [apply, saved, LivoxClient.pointCloudCallback, h]
  | imuDataCallback laserId data millis =>
      by_cases h : data.dataType = kLivoxLidarImuData
      · cases hStart : client.sessionStart <;>
          simp [apply, saved, LivoxClient.imuDataCallback, saveTimeStamp, h, hStart]
      · simp [apply, saved, LivoxClient.imuDataCallback, h]
  | initializeDuration =>
      cases hStart : client.sessionStart <;>
        simp [apply, saved, LivoxClient.initializeDuration, hStart]

theorem run_timestamp (calls : List ClockCall) : (run calls).timestamp = lastSaved calls := by
  induction calls using List.reverseRecOn with
  | nil => rfl
  | append_singleton calls call ih =>
      rw [run_concat, apply_clock.1, ih, lastSaved_concat]

theorem lastSaved_le (calls : List ClockCall) : (lastSaved calls).toNat ≤ largestSaved calls := by
  induction calls using List.reverseRecOn with
  | nil => simp [lastSaved]
  | append_singleton calls call ih =>
      rw [lastSaved_concat, largestSaved_concat]
      cases h : call.saved with
      | none => simpa using ih
      | some timestamp => simp

theorem largestSaved_lt (calls : List ClockCall) : largestSaved calls < 2 ^ 64 := by
  induction calls using List.reverseRecOn with
  | nil => simp [largestSaved]
  | append_singleton calls call ih =>
      rw [largestSaved_concat]
      cases h : call.saved with
      | none => simpa using ih
      | some timestamp =>
          have hTimestamp := timestamp.toNat_lt
          simp only [Option.map_some, Option.getD_some]
          omega

theorem elapsed_unstarted (h : (run calls).sessionStart = none) : (run calls).elapsed = 0 := by
  induction calls using List.reverseRecOn with
  | nil => rfl
  | append_singleton calls call ih =>
      rw [run_concat] at h ⊢
      rw [apply_clock.2.1, Option.or_eq_none_iff] at h
      rw [apply_clock.2.2, h.1, Option.bind_none, Option.getD_none, ih h.1]

theorem sessionStart_unset (h : .initializeDuration ∉ calls) :
    (run calls).sessionStart = none := by
  induction calls using List.reverseRecOn with
  | nil => rfl
  | append_singleton calls call ih =>
      simp only [List.mem_append, List.mem_singleton, not_or] at h
      rw [run_concat, apply_clock.2.1, ih h.1, Option.none_or]
      cases call with
      | initializeDuration => exact (h.2 rfl).elim
      | _ => rfl

theorem sessionStart_kept {start : UInt64} (h : (run before).sessionStart = some start)
    (after : List ClockCall) : (run (before ++ after)).sessionStart = some start := by
  induction after using List.reverseRecOn with
  | nil => simpa using h
  | append_singleton after call ih =>
      rw [← List.append_assoc, run_concat, apply_clock.2.1, ih, Option.some_or]

/-- The session starts with the first `initializeDuration`, at the timestamp saved
last before it. -/
theorem sessionStart_first (h : .initializeDuration ∉ before) (after : List ClockCall) :
    (run (before ++ .initializeDuration :: after)).sessionStart = some (lastSaved before) := by
  have hSet : (run (before ++ [.initializeDuration])).sessionStart = some (lastSaved before) := by
    rw [run_concat, apply_clock.2.1, sessionStart_unset h, Option.none_or, run_timestamp]
  simpa using sessionStart_kept hSet after

theorem each_unwrapped_iff : Each Unwrapped calls ↔ InOrder calls := by
  constructor
  · rintro h before after rfl hFirst timestamp hTimestamp
    obtain ⟨call, hCall, hSaved⟩ := List.mem_filterMap.mp hTimestamp
    obtain ⟨middle, later, rfl⟩ := List.append_of_mem hCall
    refine h (before ++ .initializeDuration :: middle) call later (by simp) _ ?_ timestamp hSaved
    exact sessionStart_first hFirst middle
  · rintro h earlier call later rfl start hStart timestamp hTimestamp
    by_cases hMem : .initializeDuration ∈ earlier
    · obtain ⟨before, after, rfl, hFirst⟩ := List.eq_append_cons_of_mem hMem
      rw [sessionStart_first hFirst, Option.some.injEq] at hStart
      subst hStart
      refine h before (after ++ call :: later) (by simp) hFirst timestamp ?_
      exact List.mem_filterMap.mpr ⟨call, by simp, hTimestamp⟩
    · rw [sessionStart_unset hMem] at hStart
      cases hStart

/-- A call keeps the bound exactly if its subtraction does not wrap. -/
theorem bounded_concat_iff (h : Bounded calls) :
    Bounded (calls ++ [call]) ↔ Unwrapped calls call := by
  have hLast := lastSaved_le calls
  have hLargest := largestSaved_lt calls
  unfold Bounded Unwrapped
  rw [run_concat, apply_clock.2.1, apply_clock.2.2, largestSaved_concat]
  cases hStart : (run calls).sessionStart with
  | none =>
      have hElapsed := elapsed_unstarted hStart
      constructor
      · rintro - start hSome
        cases hSome
      · intro _ start hSome
        cases call with
        | initializeDuration =>
            rw [Option.none_or, Option.some.injEq, run_timestamp] at hSome
            subst hSome
            simpa [hElapsed] using Or.inl hLast
        | _ => cases hSome
  | some start =>
      have hBound := h start hStart
      cases hSaved : call.saved with
      | none => simpa using hBound
      | some timestamp =>
          have hTimestamp := timestamp.toNat_lt
          have hStartLt := start.toNat_lt
          simp [UInt64.le_iff_toNat_le, UInt64.toNat_sub]
          omega

/-- The elapsed time stays within the largest timestamp, and no subtraction wraps,
exactly if no packet after the start is older than the last one before it. -/
theorem elapsed_bounded_iff (calls : List ClockCall) :
    (Throughout Bounded calls ∧ Each Unwrapped calls) ↔ InOrder calls := by
  have hNil : Bounded [] := by
    intro start hStart
    cases hStart
  have hThroughout : Throughout Bounded calls ↔ Each Unwrapped calls :=
    throughout_iff_each hNil fun earlier call _ h => bounded_concat_iff h.last
  rw [hThroughout, and_self, each_unwrapped_iff]

/-- A packet without points. -/
def emptyPacket (timestamp : UInt64) : LivoxLidarEthernetPacket where
  timeInterval := 0
  dotNum := 0
  dataType := kLivoxLidarCartesianCoordinateHighData
  timestamp := timestamp
  pointData := fun _ => ⟨0, 0, 0, 0, 0⟩
  imuData := ⟨0, 0, 0, 0, 0, 0⟩

/-- The clock of the second lidar is one nanosecond behind the first one. -/
def laggingLidar : List ClockCall :=
  [.pointCloudCallback 0 (emptyPacket 1000), .initializeDuration,
    .pointCloudCallback 1 (emptyPacket 999)]

/-- A packet one nanosecond older than the start makes a session of 584 years. -/
theorem laggingLidar_wraps :
    (run laggingLidar).elapsed = 18446744073709551615 ∧
      ¬(Throughout Bounded laggingLidar ∧ Each Unwrapped laggingLidar) := by
  have hElapsed : (run laggingLidar).elapsed = 18446744073709551615 := rfl
  have hStart : (run laggingLidar).sessionStart = some 1000 := rfl
  refine ⟨hElapsed, fun h => ?_⟩
  have hBounded := h.1.last 1000 hStart
  rw [hElapsed] at hBounded
  exact absurd hBounded (by decide)

end ClockCall

end Mandeye.LivoxClient
