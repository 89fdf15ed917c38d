import Mathlib.Algebra.Order.BigOperators.Group.List
import Mathlib.Tactic.Linarith

/-! The Gregorian calendar, counted from the beginning of 1970, and the date and time
of day which belong to a number of seconds. -/
namespace Calendar

def isLeap (year : Nat) : Bool := year % 4 = 0 && (year % 100 ≠ 0 || year % 400 = 0)

def yearLength (year : Nat) : Nat := if isLeap year then 366 else 365

def monthLengths (year : Nat) : List Nat :=
  [31, if isLeap year then 29 else 28, 31, 30, 31, 30, 31, 31, 30, 31, 30, 31]

/-- The days from the beginning of 1970 to that of a later year. -/
def daysBeforeYear (year : Nat) : Nat := ((List.range' 1970 (year - 1970)).map yearLength).sum

/-- In which of the intervals, laid end to end, a number falls, and how far. -/
def locate : List Nat → Nat → Nat × Nat
  | [], n => (0, n)
  | length :: rest, n =>
      if n < length then (0, n)
      else
        let (i, offset) := locate rest (n - length)
        (i + 1, offset)

/-- The year in which a day falls, counting on from the first day of a given year. -/
def locateYear : Nat → Nat → Nat → Nat × Nat
  | 0, year, days => (year, days)
  | fuel + 1, year, days =>
      if days < yearLength year then (year, days)
      else locateYear fuel (year + 1) (days - yearLength year)

/-- `std::tm`, without the day of the week, of the year, and summer time. -/
structure Tm where
  tmSec : Nat
  tmMin : Nat
  tmHour : Nat
  tmMday : Nat
  tmMon : Nat
  tmYear : Int
  deriving DecidableEq

def gmtime (time : Nat) : Tm :=
  let days := time / 86400
  let (year, dayOfYear) := locateYear days 1970 days
  let (month, day) := locate (monthLengths year) dayOfYear
  { tmSec := time % 60
    tmMin := time / 60 % 60
    tmHour := time / 3600 % 24
    tmMday := day + 1
    tmMon := month
    tmYear := year - 1900 }

/-- The seconds from the beginning of 1970 to a date and time. -/
def timegm (tm : Tm) : Nat :=
  let year := (tm.tmYear + 1900).toNat
  let days := daysBeforeYear year + ((monthLengths year).take tm.tmMon).sum + (tm.tmMday - 1)
  days * 86400 + tm.tmHour * 3600 + tm.tmMin * 60 + tm.tmSec

/-- The date exists, and so does the time. -/
structure Tm.Valid (tm : Tm) : Prop where
  sec : tm.tmSec < 60
  min : tm.tmMin < 60
  hour : tm.tmHour < 24
  mon : tm.tmMon < 12
  mday : 1 ≤ tm.tmMday ∧ tm.tmMday ≤ 31
  year : 70 ≤ tm.tmYear

theorem yearLength_pos (year : Nat) : 0 < yearLength year := by
  unfold yearLength
  split <;> decide

theorem monthLengths_sum (year : Nat) : (monthLengths year).sum = yearLength year := by
  unfold monthLengths yearLength
  split <;> rfl

theorem monthLengths_le {year length : Nat} (h : length ∈ monthLengths year) : length ≤ 31 := by
  unfold monthLengths at h
  split at h <;> simp at h <;> omega

theorem daysBeforeYear_succ {year : Nat} (h : 1970 ≤ year) :
    daysBeforeYear (year + 1) = daysBeforeYear year + yearLength year := by
  have hCount : year + 1 - 1970 = year - 1970 + 1 := by omega
  have hLast : 1970 + (year - 1970) = year := by omega
  rw [daysBeforeYear, hCount, List.range'_concat, daysBeforeYear, Nat.one_mul, hLast]
  simp

theorem daysBeforeYear_mono {year later : Nat} (h : 1970 ≤ year) (hLater : year ≤ later) :
    daysBeforeYear year ≤ daysBeforeYear later := by
  induction later, hLater using Nat.le_induction with
  | base => exact le_rfl
  | succ later hLater ih =>
      rw [daysBeforeYear_succ (by omega)]
      omega

/-- The place found is where the number is. -/
theorem locate_spec {lengths : List Nat} {n : Nat} (h : n < lengths.sum) :
    (locate lengths n).1 < lengths.length ∧
      (lengths.take (locate lengths n).1).sum + (locate lengths n).2 = n ∧
      ∃ length ∈ lengths, (locate lengths n).2 < length := by
  induction lengths generalizing n with
  | nil => simp at h
  | cons length rest ih =>
      by_cases hFirst : n < length
      · simp [locate, hFirst]
      · rw [List.sum_cons] at h
        obtain ⟨hIndex, hSum, found, hFound, hLt⟩ := ih (n := n - length) (by omega)
        simp only [locate, hFirst, if_false, List.take_succ_cons, List.sum_cons,
          List.length_cons]
        exact ⟨by omega, by omega, found, List.mem_cons_of_mem _ hFound, hLt⟩

theorem locateYear_spec {fuel year days : Nat} (hFuel : days ≤ fuel) (hYear : 1970 ≤ year) :
    year ≤ (locateYear fuel year days).1 ∧
      daysBeforeYear (locateYear fuel year days).1 + (locateYear fuel year days).2 =
        daysBeforeYear year + days ∧
      (locateYear fuel year days).2 < yearLength (locateYear fuel year days).1 := by
  have hPos := yearLength_pos year
  induction fuel generalizing year days with
  | zero =>
      obtain rfl : days = 0 := by omega
      exact ⟨le_rfl, rfl, hPos⟩
  | succ fuel ih =>
      rw [locateYear]
      split
      · exact ⟨le_rfl, rfl, ‹_›⟩
      · obtain ⟨hLe, hDays, hLt⟩ :=
          @ih (year + 1) (days - yearLength year) (by omega) (by omega) (yearLength_pos _)
        rw [daysBeforeYear_succ hYear] at hDays
        exact ⟨by omega, by omega, hLt⟩

/-- The year, the month and the day which `gmtime` finds, by the days before them. -/
theorem gmtime_days (time : Nat) :
    ∃ year dayOfYear : Nat, (gmtime time).tmYear = year - 1900 ∧ 1970 ≤ year ∧
      daysBeforeYear year + dayOfYear = time / 86400 ∧ dayOfYear < yearLength year ∧
      (gmtime time).tmMon = (locate (monthLengths year) dayOfYear).1 ∧
      (gmtime time).tmMday = (locate (monthLengths year) dayOfYear).2 + 1 := by
  obtain ⟨hYear, hDays, hLt⟩ :=
    locateYear_spec (le_refl (time / 86400)) (le_refl 1970)
  refine ⟨_, _, rfl, hYear, ?_, hLt, rfl, rfl⟩
  rw [hDays]
  simp [daysBeforeYear]

theorem gmtime_valid (time : Nat) : (gmtime time).Valid := by
  obtain ⟨year, dayOfYear, hYear, h1970, -, hLt, hMon, hMday⟩ := gmtime_days time
  rw [← monthLengths_sum] at hLt
  obtain ⟨hIndex, -, length, hLength, hDay⟩ := locate_spec hLt
  have hLe := monthLengths_le hLength
  exact
    { sec := Nat.mod_lt _ (by decide)
      min := Nat.mod_lt _ (by decide)
      hour := Nat.mod_lt _ (by decide)
      mon := hMon ▸ hIndex
      mday := by omega
      year := by omega }

/-- Converting a time to a date and back gives the time. -/
theorem timegm_gmtime (time : Nat) : timegm (gmtime time) = time := by
  obtain ⟨year, dayOfYear, hYear, -, hDays, hLt, hMon, hMday⟩ := gmtime_days time
  rw [← monthLengths_sum] at hLt
  obtain ⟨-, hSum, -⟩ := locate_spec hLt
  have hTime : (gmtime time).tmHour * 3600 + (gmtime time).tmMin * 60 + (gmtime time).tmSec =
      time % 86400 := by
    simp only [gmtime]
    omega
  have hCentury : ((year : Int) - 1900 + 1900).toNat = year := by omega
  rw [timegm, hYear, hCentury, hMon, hMday, Nat.add_sub_cancel, Nat.add_assoc (daysBeforeYear year),
    hSum, hDays, Nat.add_assoc, Nat.add_assoc, ← Nat.add_assoc ((gmtime time).tmHour * 3600), hTime]
  exact Nat.div_add_mod' time 86400

/-- A year has begun when the days before it are over. -/
theorem le_tmYear_iff {year : Nat} (h : 1970 ≤ year) (time : Nat) :
    (year : Int) - 1900 ≤ (gmtime time).tmYear ↔ daysBeforeYear year * 86400 ≤ time := by
  obtain ⟨found, dayOfYear, hFound, h1970, hDays, hLt, -, -⟩ := gmtime_days time
  rw [hFound]
  constructor
  · intro hLe
    have hFoundLe : year ≤ found := by omega
    have hMono := daysBeforeYear_mono h hFoundLe
    omega
  · intro hTime
    by_contra hContra
    have hFoundLt : found + 1 ≤ year := by omega
    have hMono := daysBeforeYear_mono (Nat.le_succ_of_le h1970) hFoundLt
    rw [daysBeforeYear_succ h1970] at hMono
    omega

end Calendar
