import Mandeye.FakePps.Sentence
import Mandeye.Signed

/-! The thread which gives the lidars a pulse every second, and after each pulse a
sentence with the time. -/
namespace Mandeye.FakePps

open Calendar NMEA

/-- The rate in milliseconds. -/
def rate : UInt64 := 1000

/-- The variables of the loop. The time point is in nanoseconds. -/
structure OneSecondThread where
  millisFromEpoch : UInt64
  waKeUpTime : Int

/-- One round of the loop: the time for which the rising edge is scheduled, and the
sentence sent after it. -/
structure Round where
  edge : Int
  sentence : String

/-- The time point of a number of milliseconds, which is signed by the conversion.
Beyond the range of 64 bits there is none: the product overflows. -/
def timePoint (millis : UInt64) : Option Int :=
  let nanoseconds := millis.toInt64.toInt * 1000000
  if -2 ^ 63 ≤ nanoseconds ∧ nanoseconds < 2 ^ 63 then some nanoseconds else none

namespace OneSecondThread

/-- The first wake-up is at the next full second. -/
def setUp (now : Int64) : Option OneSecondThread :=
  let millisFromEpoch := (now / 1000000).toUInt64 + rate
  let millisFromEpoch := millisFromEpoch / rate * rate
  (timePoint millisFromEpoch).map fun waKeUpTime => ⟨millisFromEpoch, waKeUpTime⟩

/-- The thread has slept until its wake-up time when a round begins. -/
def round (thread : OneSecondThread) : Option (Round × OneSecondThread) :=
  let millisFromEpoch := thread.millisFromEpoch + rate
  (timePoint millisFromEpoch).map fun waKeUpTime =>
    let secs := millisFromEpoch / 1000
    let ts := getTimestampFromSec secs.toNat
    (⟨thread.waKeUpTime, produceNMEA ts⟩, ⟨millisFromEpoch, waKeUpTime⟩)

/-- The thread after some rounds. -/
def after (now : Int64) : Nat → Option OneSecondThread
  | 0 => setUp now
  | k + 1 => (after now k).bind fun thread => thread.round.map Prod.snd

end OneSecondThread

open OneSecondThread

def roundAt (now : Int64) (k : Nat) : Option Round :=
  (after now k).bind fun thread => thread.round.map Prod.fst

/-- The edge is at a full second, the next one is a second later, and the sentence
names a given second. -/
structure Announces (now : Int64) (k : Nat) (this : Round) (s named : Nat) : Prop where
  edge : this.edge = s * 1000000000
  next : ∀ next ∈ roundAt now (k + 1), next.edge = (s + 1) * 1000000000
  sentence : this.sentence = produceNMEA (getTimestampFromSec named)

theorem timePoint_eq_some {millis : UInt64} {nanoseconds : Int}
    (h : timePoint millis = some nanoseconds) :
    nanoseconds = millis.toInt64.toInt * 1000000 ∧ nanoseconds < 2 ^ 63 := by
  simp only [timePoint, Option.ite_none_right_eq_some, Option.some.injEq] at h
  obtain ⟨⟨-, hLt⟩, rfl⟩ := h
  exact ⟨rfl, hLt⟩

/-- A time point after 1970 shows the milliseconds, and there is room for more. -/
theorem timePoint_nonneg {millis : UInt64} {nanoseconds : Int}
    (h : timePoint millis = some nanoseconds) (hNonneg : 0 ≤ nanoseconds) :
    nanoseconds = millis.toNat * 1000000 ∧ (millis + rate).toNat = millis.toNat + 1000 ∧
      (millis + rate).toInt64.toInt = millis.toNat + 1000 := by
  obtain ⟨hEq, hLt⟩ := timePoint_eq_some h
  have hMillis := Signed.toInt_toInt64_of_nonneg (n := millis) (by omega)
  rw [hMillis] at hEq
  have hRate : rate.toNat = 1000 := rfl
  have hAdd : (millis + rate).toNat = millis.toNat + 1000 := by
    rw [UInt64.toNat_add, hRate]
    omega
  refine ⟨hEq, hAdd, ?_⟩
  rw [Signed.toInt_toInt64_of_lt (by omega), hAdd]
  rfl

/-- What a round does, where it is defined. -/
theorem round_eq_some {thread later : OneSecondThread} {this : Round} :
    thread.round = some (this, later) ↔
      timePoint later.millisFromEpoch = some later.waKeUpTime ∧
      later.millisFromEpoch = thread.millisFromEpoch + rate ∧ this.edge = thread.waKeUpTime ∧
      this.sentence =
        produceNMEA (getTimestampFromSec (later.millisFromEpoch / 1000).toNat) := by
  simp only [OneSecondThread.round, Option.map_eq_some_iff, Prod.mk.injEq]
  constructor
  · rintro ⟨waKeUpTime, hTime, rfl, rfl⟩
    exact ⟨hTime, rfl, rfl, rfl⟩
  · rintro ⟨hTime, hMillis, hEdge, hSentence⟩
    obtain ⟨edge, sentence⟩ := this
    obtain ⟨millisFromEpoch, waKeUpTime⟩ := later
    subst hMillis hEdge hSentence
    exact ⟨waKeUpTime, hTime, rfl, rfl⟩

theorem after_succ_eq_some {now : Int64} {k : Nat} {later : OneSecondThread} :
    after now (k + 1) = some later ↔
      ∃ thread this, after now k = some thread ∧ thread.round = some (this, later) := by
  simp only [after, Option.bind_eq_some_iff, Option.map_eq_some_iff, Prod.exists,
    exists_eq_right, ← exists_and_left]

theorem roundAt_eq_some {now : Int64} {k : Nat} {this : Round} :
    roundAt now k = some this ↔
      ∃ thread later, after now k = some thread ∧ thread.round = some (this, later) := by
  simp only [roundAt, Option.bind_eq_some_iff, Option.map_eq_some_iff, Prod.exists,
    exists_and_right, exists_eq_right, ← exists_and_left]

/-- The wake-up time is always that of the milliseconds. -/
theorem after_timePoint {now : Int64} {k : Nat} {thread : OneSecondThread}
    (h : after now k = some thread) :
    timePoint thread.millisFromEpoch = some thread.waKeUpTime := by
  cases k with
  | zero =>
      simp only [after, setUp, Option.map_eq_some_iff] at h
      obtain ⟨waKeUpTime, hTime, rfl⟩ := h
      exact hTime
  | succ k =>
      obtain ⟨earlier, this, -, hRound⟩ := after_succ_eq_some.mp h
      exact (round_eq_some.mp hRound).1

/-- A round which begins at a full second names the following one, and leaves the
thread to wait for it. -/
theorem round_wakes {now : Int64} {k s : Nat} {thread later : OneSecondThread} {this : Round}
    (hThread : after now k = some thread) (hRound : thread.round = some (this, later))
    (hWake : thread.waKeUpTime = s * 1000000000) :
    later.waKeUpTime = (s + 1) * 1000000000 ∧
      this.sentence = produceNMEA (getTimestampFromSec (s + 1)) := by
  obtain ⟨hTime, hLater, -, hSentence⟩ := round_eq_some.mp hRound
  obtain ⟨hMillis, hAdd, hSigned⟩ := timePoint_nonneg (after_timePoint hThread) (by omega)
  have hSecs : (later.millisFromEpoch / 1000).toNat = s + 1 := by
    have hThousand : (1000 : UInt64).toNat = 1000 := rfl
    rw [UInt64.toNat_div, hThousand, hLater, hAdd]
    omega
  have hNext := (timePoint_eq_some hTime).1
  rw [hLater, hSigned] at hNext
  exact ⟨by omega, by rw [hSentence, hSecs]⟩

theorem round_ahead {now : Int64} {k s : Nat} {this : Round} (h : roundAt now k = some this)
    (hEdge : this.edge = s * 1000000000) : Announces now k this s (s + 1) := by
  obtain ⟨thread, later, hThread, hRound⟩ := roundAt_eq_some.mp h
  have hThis := (round_eq_some.mp hRound).2.2.1
  obtain ⟨hWake, hSentence⟩ := round_wakes hThread hRound (hThis ▸ hEdge)
  refine ⟨hEdge, ?_, hSentence⟩
  intro next hNext
  obtain ⟨again, last, hAgain, hNextRound⟩ := roundAt_eq_some.mp hNext
  rw [after_succ_eq_some.mpr ⟨thread, this, hThread, hRound⟩, Option.some.injEq] at hAgain
  subst hAgain
  rw [(round_eq_some.mp hNextRound).2.2.1, hWake]

/-- The full seconds of a time after 1970. -/
def fullSeconds (now : Int64) : Nat := now.toInt.toNat / 1000000000

/-- The thread starts by waiting for the next full second. -/
theorem setUp_wakes {now : Int64} {thread : OneSecondThread} (hNow : 0 ≤ now)
    (h : setUp now = some thread) :
    thread.waKeUpTime = (fullSeconds now + 1 : Nat) * 1000000000 := by
  simp only [setUp, Option.map_eq_some_iff] at h
  obtain ⟨waKeUpTime, hTime, rfl⟩ := h
  have hStart : 0 ≤ now.toInt := Int64.le_iff_toInt_le.mp hNow
  have hNowLt : now.toInt < 2 ^ 63 := now.toInt_lt
  have hDiv : (now / 1000000).toInt = now.toInt / 1000000 := by
    rw [Int64.toInt_div_of_ne_right _ _ (by decide)]
    exact Int.tdiv_eq_ediv_of_nonneg hStart
  have hMillis : (now / 1000000).toUInt64.toNat = now.toInt.toNat / 1000000 := by
    have hLe : 0 ≤ now / 1000000 := by
      rw [Int64.le_iff_toInt_le, hDiv]
      exact Int.ediv_nonneg hStart (by decide)
    rw [Int64.toNat_toUInt64_of_le hLe, Int64.toNatClampNeg, hDiv]
    omega
  have hRate : rate.toNat = 1000 := rfl
  have hFull : (((now / 1000000).toUInt64 + rate) / rate * rate).toNat =
      (fullSeconds now + 1) * 1000 := by
    rw [UInt64.toNat_mul, UInt64.toNat_div, UInt64.toNat_add, hMillis, hRate, fullSeconds]
    omega
  have hLt : (fullSeconds now + 1) * 1000 < 2 ^ 63 := by
    rw [fullSeconds]
    omega
  have hWake := (timePoint_eq_some hTime).1
  rw [Signed.toInt_toInt64_of_lt (by omega), hFull] at hWake
  rw [hWake]
  push_cast
  omega

theorem after_wakes {now : Int64} {k : Nat} {thread : OneSecondThread} (hNow : 0 ≤ now)
    (h : after now k = some thread) :
    thread.waKeUpTime = (fullSeconds now + 1 + k : Nat) * 1000000000 := by
  induction k generalizing thread with
  | zero => exact setUp_wakes hNow h
  | succ k ih =>
      obtain ⟨earlier, this, hEarlier, hRound⟩ := after_succ_eq_some.mp h
      have hNext := (round_wakes hEarlier hRound (ih hEarlier)).1
      rw [hNext]
      push_cast
      omega

/-- The edges are at full seconds, one after the other, but no sentence names the
second of its edge: each one names the second after it. -/
theorem sentence_ahead (now : Int64) (k : Nat) (this : Round) (h : roundAt now k = some this) :
    (¬∃ s, Announces now k this s s) ∧
      (0 ≤ now → Announces now k this (fullSeconds now + 1 + k) (fullSeconds now + 2 + k)) := by
  constructor
  · rintro ⟨s, hAnnounces⟩
    have hAhead := round_ahead h hAnnounces.edge
    have hSec := tmSec_of_produceNMEA (hAnnounces.sentence.symm.trans hAhead.sentence)
    simp only [gmtime] at hSec
    omega
  · intro hNow
    obtain ⟨thread, later, hThread, hRound⟩ := roundAt_eq_some.mp h
    have hEdge := (round_eq_some.mp hRound).2.2.1.trans (after_wakes hNow hThread)
    have hAhead := round_ahead h hEdge
    have hNamed : fullSeconds now + 2 + k = fullSeconds now + 1 + k + 1 := by omega
    rwa [hNamed]

/-- The first round of a thread which is started with the clock. -/
def firstRound : Round := ⟨1000000000, produceNMEA (getTimestampFromSec 2)⟩

theorem sentence_ahead_firstRound :
    (¬∃ s, Announces 0 0 firstRound s s) ∧
      ((0 : Int64) ≤ 0 →
        Announces 0 0 firstRound (fullSeconds 0 + 1 + 0) (fullSeconds 0 + 2 + 0)) :=
  sentence_ahead 0 0 firstRound rfl

/-- The thread is started half a second after 22:13:20. -/
def eveningStart : Int64 := 1700000000500000000

/-- After the edge of 22:13:21 the lidars are told that it is 22:13:22. -/
theorem eveningStart_ahead :
    roundAt eveningStart 0 =
        some ⟨1700000001000000000, produceNMEA (getTimestampFromSec 1700000002)⟩ ∧
      ∀ this ∈ roundAt eveningStart 0, ¬∃ s, Announces eveningStart 0 this s s := by
  have hRound : roundAt eveningStart 0 =
      some ⟨1700000001000000000, produceNMEA (getTimestampFromSec 1700000002)⟩ := rfl
  refine ⟨hRound, ?_⟩
  rw [hRound]
  rintro this ⟨⟩ ⟨s, hAnnounces⟩
  have hEdge := hAnnounces.edge
  obtain rfl : s = 1700000001 := by
    simp only at hEdge
    omega
  have hSec := tmSec_of_produceNMEA hAnnounces.sentence
  simp [gmtime] at hSec

end Mandeye.FakePps
