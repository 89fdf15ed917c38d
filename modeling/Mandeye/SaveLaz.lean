import Mandeye.Binary64
import Mandeye.Decimation
import Mandeye.Livox.Client

/-! Saving a chunk of points to a LAZ file. Of a large chunk only every so many-th
point is written, and the header has the bounding box of all of them. Coordinates
are integers, in millimetres. -/
namespace Mandeye.SaveLaz

open Decimation

/-- The three axes. -/
inductive Axis where
  | x
  | y
  | z
  deriving DecidableEq

/-- A coordinate of a point. -/
def coordinate (p : LivoxPoint) : Axis → Int
  | .x => p.point.x.toInt
  | .y => p.point.y.toInt
  | .z => p.point.z.toInt

/-- Which calls of the library fail. -/
structure Laszip where
  create : Bool
  getHeaderPointer : Bool
  openWriter : Bool
  getPointPointer : Bool
  setCoordinates : Nat → Bool
  writePoint : Nat → Bool
  getPointCount : Bool
  closeWriter : Bool
  destroy : Bool

/-- The usual case. -/
def Laszip.succeeding : Laszip where
  create := false
  getHeaderPointer := false
  openWriter := false
  getPointPointer := false
  setCoordinates _ := false
  writePoint _ := false
  getPointCount := false
  closeWriter := false
  destroy := false

/-- The fields of the header which are set. -/
structure LaszipHeader where
  fileSourceId : UInt16
  globalEncoding : UInt16
  versionMajor : UInt8
  versionMinor : UInt8
  pointDataFormat : UInt8
  pointDataRecordLength : UInt16
  numberOfPointRecords : UInt32
  numberOfPointsByReturn : List UInt32
  scaleFactor : Axis → ℚ
  max : Axis → Int
  min : Axis → Int

/-- The fields of a point which are set. -/
structure LaszipPoint where
  intensity : UInt16
  gpsTime : ℚ
  classification : UInt8
  userData : UInt8
  coordinates : Axis → Int

/-- What is reported of a file. Without it the file could not be saved. -/
structure LazStats where
  filename : String
  pointsCount : Nat
  decimationStep : ℕ+

/-- What has been handed to the library, and the result. -/
structure Saving where
  header : Option LaszipHeader
  compress : Bool
  points : List LaszipPoint
  result : Option LazStats

/-- The largest double, in millimetres. -/
def largest : Int := (2 ^ 53 - 1) * 2 ^ 971 * 1000

/-- The bounding box while it is computed. -/
structure Extremes where
  max : Axis → Int
  min : Axis → Int

namespace Extremes

/-- The loop starts from a box which is inverted. -/
def initial : Extremes := ⟨fun _ => -largest, fun _ => largest⟩

/-- A point makes the box larger. -/
def add (e : Extremes) (p : LivoxPoint) : Extremes where
  max axis := Max.max (e.max axis) (coordinate p axis)
  min axis := Min.min (e.min axis) (coordinate p axis)

/-- The box of all points, also of those which are not written. -/
def ofBuffer (buffer : List LivoxPoint) : Extremes := buffer.foldl add initial

end Extremes

/-- The scale is a constant in single precision, a tenth of a millimetre. -/
def scale : ℚ := 13743895 / 2 ^ 37

/-- The step of the decimation, which is computed in double precision. -/
def decimationStep (size : Nat) : ℕ+ :=
  let step : Int := if 4000000 < size then ⌈Binary64.round (Binary64.round size / 2000000)⌉ else 1
  if h : step < 1 then 1 else ⟨step.toNat, by omega⟩

/-- The loop which counts the points to be written. There is no count if the loop
variable overflows. -/
def countPoints (size : Nat) (step : ℕ+) (i numPoints : Nat) : Option Nat :=
  if i < size then
    if i + step < 2 ^ 31 then countPoints size step (i + step) (numPoints + 1) else none
  else some numPoints
termination_by size - i
decreasing_by
  have := step.pos
  omega

/-- The header for so many points. -/
def header (numPoints : Nat) (e : Extremes) : LaszipHeader where
  fileSourceId := 4711
  globalEncoding := 1
  versionMajor := 1
  versionMinor := 2
  pointDataFormat := 1
  pointDataRecordLength := 28
  numberOfPointRecords := .ofNat numPoints
  numberOfPointsByReturn := [.ofNat numPoints, 0]
  scaleFactor _ := scale
  max := e.max
  min := e.min

/-- A point as it is written. Its time is converted to seconds in double precision. -/
def laszipPoint (p : LivoxPoint) : LaszipPoint where
  intensity := p.point.reflectivity.toUInt16
  gpsTime := Binary64.round
    (Binary64.round p.timestamp.toNat * Binary64.round (1 / 1000000000))
  classification := p.point.tag
  userData := p.laserId.toUInt8
  coordinates := coordinate p

/-- The loop which writes the points, and whether it comes to its end. -/
def writePoints (laszip : Laszip) (buffer : List LivoxPoint) (step : ℕ+) (i : Nat)
    (points : List LaszipPoint) : Bool × List LaszipPoint :=
  if h : i < buffer.length then
    let written := points ++ [laszipPoint buffer[i]]
    if laszip.setCoordinates points.length then (false, points)
    else if laszip.writePoint points.length then (false, written)
    else if i + step < 2 ^ 31 then writePoints laszip buffer step (i + step) written
    else (false, written)
  else (true, points)
termination_by buffer.length - i
decreasing_by
  have := step.pos
  omega

/-- The calls of the library, in their order. The first one which fails ends the
function, and what has been written stays. -/
def saveLaz (laszip : Laszip) (filename : String) (buffer : List LivoxPoint) : Saving :=
  let nothing : Saving := ⟨none, false, [], none⟩
  let step := decimationStep buffer.length
  if laszip.create || laszip.getHeaderPointer then nothing
  else match countPoints buffer.length step 0 0 with
    | none => nothing
    | some numPoints =>
        let populated : Saving :=
          { nothing with
            header := some (header numPoints (.ofBuffer buffer))
            compress := ".laz".toList <:+: filename.toList }
        if laszip.openWriter || laszip.getPointPointer then populated
        else
          let (finished, points) := writePoints laszip buffer step 0 []
          let written := { populated with points := points }
          if !finished || laszip.getPointCount || laszip.closeWriter || laszip.destroy then written
          else { written with result := some ⟨filename, points.length, step⟩ }

section Loops

variable {step : ℕ+} {i size : Nat} {buffer : List LivoxPoint}

theorem countPoints_eq (hSize : size + step ≤ 2 ^ 31) (numPoints : Nat) :
    countPoints size step i numPoints = some (numPoints + (size - i + step - 1) / step) := by
  fun_induction countPoints size step i numPoints with
  | case1 i numPoints hi hNext ih =>
      rw [ih, ceilDiv_sub step.pos (by omega : 0 < size - i), Nat.sub_add_eq]
      congr 1
      omega
  | case2 i numPoints hi hOverflow => omega
  | case3 i numPoints hi =>
      have hNone : size - i + step - 1 < step := by
        have hPos := step.pos
        omega
      rw [Nat.div_eq_of_lt hNone, Nat.add_zero]

theorem writePoints_eq (hSize : buffer.length + step ≤ 2 ^ 31) (hi : (step : Nat) ∣ i)
    (points : List LaszipPoint) : writePoints .succeeding buffer step i points =
      (true, points ++ (decimated step i (buffer.drop i)).map laszipPoint) := by
  fun_induction writePoints .succeeding buffer step i points with
  | case1 i points h hSet => cases hSet
  | case2 i points h written hSet hWrite => cases hWrite
  | case3 i points h written hSet hWrite hNext ih =>
      rw [ih (hi.add dvd_rfl), List.drop_eq_getElem_cons h, decimated_cons _ _ hi]
      rw [← List.drop_eq_getElem_cons h, List.drop_drop, List.map_cons]
      simp only [written, List.append_assoc, List.singleton_append]
  | case4 i points h written hSet hWrite hOverflow => omega
  | case5 i points h =>
      rw [List.drop_eq_nil_of_le (not_lt.mp h)]
      simp [decimated]

end Loops

section Steps

variable {size : Nat}

theorem decimationStep_small (h : size ≤ 4000000) : decimationStep size = 1 := by
  simp [decimationStep, Nat.not_lt.mpr h]

/-- Steps of two million elements reach the end, and one fewer do not. -/
theorem decimationStep_large (h : 4000000 < size) (hSize : size < 2 ^ 30) :
    (size : Int) ≤ decimationStep size * 2000000 ∧
      (decimationStep size - 1 : Int) * 2000000 < size := by
  have hRound : Binary64.round size = size := Binary64.round_natCast (by omega)
  have hCeil : ⌈Binary64.round (Binary64.round size / 2000000)⌉ = ⌈(size / 2000000 : ℚ)⌉ := by
    rw [hRound]
    exact_mod_cast Binary64.ceil_round_div (by norm_num : 0 < 2000000) (by omega : size < 2 ^ 53)
  obtain ⟨hBelow, hAbove⟩ := Int.ceil_eq_iff.mp (rfl : ⌈(size / 2000000 : ℚ)⌉ = _)
  rw [lt_div_iff₀ (by norm_num)] at hBelow
  rw [div_le_iff₀ (by norm_num)] at hAbove
  have hStep : (decimationStep size : Int) = ⌈(size / 2000000 : ℚ)⌉ := by
    have hOne : ¬⌈(size / 2000000 : ℚ)⌉ < 1 := by
      rw [not_lt, Int.one_le_ceil_iff]
      positivity
    simp [decimationStep, h, hCeil, hOne]
    omega
  rw [hStep]
  exact ⟨by exact_mod_cast hAbove, by exact_mod_cast hBelow⟩

/-- Two thirds of two million elements are the fewest, for a step of three. -/
theorem decimated_bounds {count step : Nat} (h : 4000000 < size) (hAbove : size ≤ step * 2000000)
    (hBelow : (step - 1) * 2000000 < size) (hCount : count = (size + step - 1) / step) :
    1333333 < count ∧ count ≤ 2000000 := by
  have hStep : 3 ≤ step := by omega
  have hLow : size ≤ count * step := by
    rw [hCount]
    have hDiv := Nat.lt_div_mul_add (a := size + step - 1) (by omega : 0 < step)
    omega
  constructor
  · by_contra hFew
    have hProduct : count * step ≤ 1333333 * step := Nat.mul_le_mul_right _ (by omega)
    omega
  · rw [hCount, ← Nat.lt_succ_iff, Nat.div_lt_iff_lt_mul (by omega)]
    omega

theorem decimationStep_le (hSize : size < 2 ^ 30) : (decimationStep size : Nat) ≤ 2 ^ 30 := by
  rcases Nat.lt_or_ge 4000000 size with hLarge | hSmall
  · have hBelow := (decimationStep_large hLarge hSize).2
    omega
  · simp [decimationStep_small hSmall]

end Steps

theorem saveLaz_succeeding (filename : String) (buffer : List LivoxPoint)
    (hSize : buffer.length < 2 ^ 30) :
    let step := decimationStep buffer.length
    let points := (decimated step 0 buffer).map laszipPoint
    saveLaz .succeeding filename buffer =
      ⟨some (header points.length (.ofBuffer buffer)), ".laz".toList <:+: filename.toList, points,
        some ⟨filename, points.length, step⟩⟩ := by
  intro step points
  have hBound : buffer.length + step ≤ 2 ^ 31 := by
    have hStep : (step : Nat) ≤ 2 ^ 30 := decimationStep_le hSize
    omega
  have hCount : countPoints buffer.length step 0 0 = some points.length := by
    rw [countPoints_eq hBound, List.length_map, length_decimated (dvd_zero _)]
    simp
  have hWrite : writePoints .succeeding buffer step 0 [] = (true, points) := by
    rw [writePoints_eq hBound (dvd_zero _)]
    rfl
  simp only [saveLaz, Laszip.succeeding] at hWrite ⊢
  simp [step, hCount, hWrite]

/-- Every step-th point is written, as many as the header says, and a large chunk is
reduced to at most two million points but not to much fewer. -/
theorem saveLaz_decimates (filename : String) (buffer : List LivoxPoint)
    (hSize : buffer.length < 2 ^ 30) :
    let saving := saveLaz .succeeding filename buffer
    saving.points = (decimated (decimationStep buffer.length) 0 buffer).map laszipPoint ∧
      (∃ header, saving.header = some header ∧
        header.numberOfPointRecords.toNat = saving.points.length) ∧
      (buffer.length ≤ 4000000 → saving.points = buffer.map laszipPoint) ∧
      (4000000 < buffer.length →
        1333333 < saving.points.length ∧ saving.points.length ≤ 2000000) := by
  intro saving
  have hSaving := saveLaz_succeeding filename buffer hSize
  have hPoints : saving.points =
      (decimated (decimationStep buffer.length) 0 buffer).map laszipPoint := by
    rw [show saving = _ from hSaving]
  have hLength : saving.points.length =
      (buffer.length + decimationStep buffer.length - 1) / decimationStep buffer.length := by
    rw [hPoints, List.length_map, length_decimated (dvd_zero _)]
  refine ⟨hPoints, ⟨_, congrArg Saving.header hSaving, ?_⟩, fun hSmall => ?_, fun hLarge => ?_⟩
  · rw [← hPoints]
    refine UInt32.toNat_ofNat_of_lt ?_
    have hFewer := length_decimated_le (decimationStep buffer.length) 0 buffer
    have hWidth : UInt32.size = 2 ^ 32 := rfl
    rw [hPoints, List.length_map]
    omega
  · rw [hPoints, decimationStep_small hSmall, decimated_one]
  · obtain ⟨hAbove, hBelow⟩ := decimationStep_large hLarge hSize
    exact decimated_bounds hLarge (by omega) (by omega) hLength

def origin : LivoxPoint := ⟨⟨0, 0, 0, 0, 0⟩, 0, 0⟩

theorem saveLaz_decimates_large :
    let saving := saveLaz .succeeding "lidar0000.laz" (List.replicate 4000001 origin)
    1333333 < saving.points.length ∧ saving.points.length ≤ 2000000 :=
  have hLength : (List.replicate 4000001 origin).length = 4000001 := List.length_replicate
  (saveLaz_decimates "lidar0000.laz" (List.replicate 4000001 origin)
    (hLength.trans_lt (by norm_num))).2.2.2 (hLength.symm ▸ by norm_num)

section Box

variable {laszip : Laszip} {filename : String} {buffer : List LivoxPoint} {p : LivoxPoint}
  {axis : Axis}

theorem two_pow_lt_largest : 2 ^ 31 < largest := by
  have hOne : (1 : Int) ≤ 2 ^ 971 := one_le_pow₀ (by norm_num)
  unfold largest
  generalize (2 : Int) ^ 971 = width at hOne ⊢
  omega

/-- Any coordinate replaces the extremes from which the loop starts. -/
theorem coordinate_lt_largest (p : LivoxPoint) (axis : Axis) :
    -largest < coordinate p axis ∧ coordinate p axis < largest := by
  have hBound : ∀ value : Int32, -largest < value.toInt ∧ value.toInt < largest := by
    intro value
    have hLow := value.le_toInt
    have hHigh := value.toInt_lt
    have hLargest := two_pow_lt_largest
    omega
  cases axis <;> exact hBound _

namespace Extremes

theorem ofBuffer_concat (buffer : List LivoxPoint) (p : LivoxPoint) :
    ofBuffer (buffer ++ [p]) = (ofBuffer buffer).add p := by
  simp [ofBuffer]

/-- The box has every point of the buffer. -/
theorem coordinate_mem (axis : Axis) (hp : p ∈ buffer) :
    (ofBuffer buffer).min axis ≤ coordinate p axis ∧
    coordinate p axis ≤ (ofBuffer buffer).max axis := by
  induction buffer using List.reverseRecOn with
  | nil => cases hp
  | append_singleton earlier last ih =>
      rw [ofBuffer_concat]
      rcases List.mem_append.mp hp with hEarlier | hLast
      · have hBox := ih hEarlier
        exact ⟨(min_le_left _ _).trans hBox.1, hBox.2.trans (le_max_left _ _)⟩
      · obtain rfl := List.mem_singleton.mp hLast
        exact ⟨min_le_right _ _, le_max_right _ _⟩

/-- A loop which always keeps one of two values ends with its first value or with one
which it met. -/
theorem foldl_attained {choose : Int → Int → Int}
    (hChoose : ∀ a b, choose a b = a ∨ choose a b = b) (axis : Axis) (initial : Int)
    (buffer : List LivoxPoint) :
    let extreme := buffer.foldl (fun extreme p => choose extreme (coordinate p axis)) initial
    extreme = initial ∨ ∃ p ∈ buffer, coordinate p axis = extreme := by
  induction buffer generalizing initial with
  | nil => exact .inl rfl
  | cons first rest ih =>
      rcases ih (choose initial (coordinate first axis)) with hStart | ⟨p, hp, hMet⟩
      · rcases hChoose initial (coordinate first axis) with hKept | hTaken
        · exact .inl (hStart.trans hKept)
        · exact .inr ⟨first, List.mem_cons_self, (hStart.trans hTaken).symm⟩
      · exact .inr ⟨p, List.mem_cons_of_mem _ hp, hMet⟩

theorem max_attained (axis : Axis) (buffer : List LivoxPoint) :
    (ofBuffer buffer).max axis = -largest ∨
      ∃ p ∈ buffer, coordinate p axis = (ofBuffer buffer).max axis := by
  have hLoop : (ofBuffer buffer).max axis = buffer.foldl
      (fun extreme p => Max.max extreme (coordinate p axis)) (-largest) :=
    (List.foldl_hom (fun e : Extremes => e.max axis) fun _ _ => rfl).symm
  rw [hLoop]
  exact foldl_attained max_choice axis _ buffer

theorem min_attained (axis : Axis) (buffer : List LivoxPoint) :
    (ofBuffer buffer).min axis = largest ∨
      ∃ p ∈ buffer, coordinate p axis = (ofBuffer buffer).min axis := by
  have hLoop : (ofBuffer buffer).min axis = buffer.foldl
      (fun extreme p => Min.min extreme (coordinate p axis)) largest :=
    (List.foldl_hom (fun e : Extremes => e.min axis) fun _ _ => rfl).symm
  rw [hLoop]
  exact foldl_attained min_choice axis _ buffer

end Extremes

theorem mem_writePoints {step : ℕ+} {i : Nat} {points : List LaszipPoint} {written : LaszipPoint}
    (h : written ∈ (writePoints laszip buffer step i points).2) :
    written ∈ points ∨ ∃ p ∈ buffer, written = laszipPoint p := by
  have hConcat : ∀ {i : Nat} {points : List LaszipPoint} (hi : i < buffer.length),
      written ∈ points ++ [laszipPoint buffer[i]] →
        written ∈ points ∨ ∃ p ∈ buffer, written = laszipPoint p := by
    intro i points hi hMem
    rcases List.mem_append.mp hMem with hEarlier | hLast
    · exact .inl hEarlier
    · exact .inr ⟨_, List.getElem_mem hi, List.mem_singleton.mp hLast⟩
  fun_induction writePoints laszip buffer step i points with
  | case1 i points hi hSet => exact .inl h
  | case2 i points hi next hSet hWrite => exact hConcat hi h
  | case3 i points hi next hSet hWrite hNext ih => exact (ih h).elim (hConcat hi) .inr
  | case4 i points hi next hSet hWrite hOverflow => exact hConcat hi h
  | case5 i points hi => exact .inl h

/-- The library may fail before it gets the header, before it gets the points or
after it got some of them. -/
theorem saveLaz_cases (laszip : Laszip) (filename : String) (buffer : List LivoxPoint) :
    (saveLaz laszip filename buffer = ⟨none, false, [], none⟩) ∨
      (∃ numPoints, (saveLaz laszip filename buffer).header =
        some (header numPoints (.ofBuffer buffer))) ∧
        ((saveLaz laszip filename buffer).points = [] ∨
          (saveLaz laszip filename buffer).points =
            (writePoints laszip buffer (decimationStep buffer.length) 0 []).2) := by
  unfold saveLaz
  dsimp only
  split
  · exact .inl rfl
  · split
    · exact .inl rfl
    · rename_i numPoints hCount
      split
      · exact .inr ⟨⟨numPoints, rfl⟩, .inl rfl⟩
      · split <;> exact .inr ⟨⟨numPoints, rfl⟩, .inr rfl⟩

theorem header_saveLaz {stored : LaszipHeader}
    (h : (saveLaz laszip filename buffer).header = some stored) :
    ∃ numPoints, stored = header numPoints (.ofBuffer buffer) := by
  rcases saveLaz_cases laszip filename buffer with hNothing | ⟨⟨numPoints, hHeader⟩, -⟩
  · rw [hNothing] at h
    cases h
  · exact ⟨numPoints, Option.some.inj (h.symm.trans hHeader)⟩

/-- What is written comes from the buffer, whatever the library does. -/
theorem mem_saveLaz {written : LaszipPoint}
    (h : written ∈ (saveLaz laszip filename buffer).points) :
    ∃ p ∈ buffer, written = laszipPoint p := by
  rcases saveLaz_cases laszip filename buffer with hNothing | ⟨-, hNone | hSome⟩
  · rw [hNothing] at h
    cases h
  · rw [hNone] at h
    cases h
  · rw [hSome] at h
    exact (mem_writePoints h).resolve_left List.not_mem_nil

/-- A box which is not inverted, has the points written and is as small as the
points of the buffer allow. -/
def LaszipHeader.Bounds (header : LaszipHeader) (buffer : List LivoxPoint)
    (points : List LaszipPoint) : Prop :=
  (∀ axis, header.min axis ≤ header.max axis) ∧
    (∀ written ∈ points, ∀ axis,
      header.min axis ≤ written.coordinates axis ∧ written.coordinates axis ≤ header.max axis) ∧
    (buffer ≠ [] → ∀ axis, (∃ p ∈ buffer, coordinate p axis = header.min axis) ∧
      ∃ p ∈ buffer, coordinate p axis = header.max axis)

/-- The header has the bounds of the chunk unless the chunk is empty. -/
theorem saveLaz_bounds_iff {stored : LaszipHeader}
    (h : (saveLaz laszip filename buffer).header = some stored) :
    stored.Bounds buffer (saveLaz laszip filename buffer).points ↔ buffer ≠ [] := by
  obtain ⟨numPoints, rfl⟩ := header_saveLaz h
  constructor
  · rintro ⟨hOrder, -⟩ rfl
    have hLargest := two_pow_lt_largest
    have hInverted : largest ≤ -largest := hOrder .x
    omega
  · intro hSome
    obtain ⟨first, hFirst⟩ := List.exists_mem_of_ne_nil buffer hSome
    refine ⟨fun axis => ?_, fun written hWritten axis => ?_, fun _ axis => ⟨?_, ?_⟩⟩
    · have hBox := Extremes.coordinate_mem axis hFirst
      exact hBox.1.trans hBox.2
    · obtain ⟨p, hp, rfl⟩ := mem_saveLaz hWritten
      exact Extremes.coordinate_mem axis hp
    · refine (Extremes.min_attained axis buffer).resolve_left fun hInitial => ?_
      have hBox := (Extremes.coordinate_mem axis hFirst).1
      have hLess := (coordinate_lt_largest first axis).2
      omega
    · refine (Extremes.max_attained axis buffer).resolve_left fun hInitial => ?_
      have hBox := (Extremes.coordinate_mem axis hFirst).2
      have hGreater := (coordinate_lt_largest first axis).1
      omega

/-- Two points on either side of the scanner, the first of them below it. -/
def corners : List LivoxPoint :=
  [⟨⟨-1500, 20, -7, 30, 0⟩, 1000, 0⟩, ⟨⟨900, -35, 4, 31, 0⟩, 2000, 1⟩]

theorem saveLaz_bounds_corners :
    ∃ stored, (saveLaz .succeeding "lidar0000.laz" corners).header = some stored ∧
      stored.min .x = -1500 ∧ stored.max .x = 900 ∧ stored.min .z = -7 ∧ stored.max .z = 4 ∧
      stored.Bounds corners (saveLaz .succeeding "lidar0000.laz" corners).points := by
  have hStored : (saveLaz .succeeding "lidar0000.laz" corners).header = some _ :=
    congrArg Saving.header (saveLaz_succeeding "lidar0000.laz" corners (by decide))
  refine ⟨_, hStored, ?_, ?_, ?_, ?_, (saveLaz_bounds_iff hStored).mpr (List.cons_ne_nil _ _)⟩
  all_goals decide +kernel

/-- The file of an empty chunk is completed, with a box which is inverted. -/
theorem empty_box_inverted :
    ∃ stored, (saveLaz .succeeding "lidar0000.laz" []).header = some stored ∧
      (saveLaz .succeeding "lidar0000.laz" []).result = some ⟨"lidar0000.laz", 0, 1⟩ ∧
      stored.max .x < stored.min .x ∧
      ¬stored.Bounds [] (saveLaz .succeeding "lidar0000.laz" []).points := by
  have hSaving := saveLaz_succeeding "lidar0000.laz" [] (by decide)
  have hLargest := two_pow_lt_largest
  have hInverted : (Extremes.initial).max .x < (Extremes.initial).min .x := by
    show -largest < largest
    omega
  refine ⟨_, congrArg Saving.header hSaving, ?_, hInverted, fun hBounds => ?_⟩
  · rw [hSaving, List.length_nil, decimationStep_small (Nat.zero_le _)]
    rfl
  · exact absurd (hBounds.1 .x) (not_le.mpr hInverted)

end Box

end Mandeye.SaveLaz
