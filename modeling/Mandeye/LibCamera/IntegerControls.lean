import Mandeye.LibCamera.LibCameraWrapper
import Mandeye.Signed

/-! Integers for the controls of a camera. A value is cut to 32 bits when it is read,
and to the width of the control before it is compared with the range. -/
namespace Mandeye.LibCamera.IntegerControls

open LibCameraWrapper

/-- The integer of a JSON value, of any magnitude. -/
def integer : Json → Option Int
  | .numberInteger value => some value.toInt
  | .numberUnsigned value => some value.toNat
  | _ => none

/-- What `get<int32_t>` makes of it. -/
def extracted : Json → Int32
  | .numberInteger value => value.toInt32
  | .numberUnsigned value => value.toUInt32.toInt32
  | _ => 0

/-- The range of a control of integer type. -/
def range : ControlType → Option (Int × Int)
  | .byte min max => some (min.toNat, max.toNat)
  | .unsigned16 min max => some (min.toNat, max.toNat)
  | .integer32 min max => some (min.toInt, max.toInt)
  | .integer64 min max => some (min.toInt, max.toInt)
  | _ => none

/-- The integer to which a control is set. -/
def controlInteger : ControlValue → Option Int
  | .byte value => some value.toNat
  | .unsigned16 value => some value.toNat
  | .integer32 value => some value.toInt
  | .integer64 value => some value.toInt
  | _ => none

/-- The value cut to the width of the control. -/
def narrowed (type : ControlType) (value : Int) : Int :=
  match type with
  | .byte _ _ => value % 2 ^ 8
  | .unsigned16 _ _ => value % 2 ^ 16
  | _ => value

/-- The list maps the control to the integer. -/
def Maps (controls : ControlList) (info : ControlInfo) (value : Int) : Prop :=
  ∃ controlValue, controls info.id = some controlValue ∧ controlInteger controlValue = some value

/-- The control is set to the integer, which is in its range, or the list stays as
it is and this is reported. -/
def ExactOrRejected (info : ControlInfo) (min max value : Int) (w : LibCameraWrapper)
    (result : Bool × LibCameraWrapper) : Prop :=
  (Maps result.2.controlList info value ∧ min ≤ value ∧ value ≤ max) ∨
    (result.2.controlList = w.controlList ∧ result.1 = false)

/-- The value is kept when it is cut to 32 bits. -/
def Fits (value : Int) : Prop := -2 ^ 31 ≤ value ∧ value < 2 ^ 31

/-- The value is cut to one out of the range, and the control has the value already. -/
def AlreadySet (info : ControlInfo) (min max value : Int) (w : LibCameraWrapper) : Prop :=
  Maps w.controlList info value ∧ ¬(min ≤ value.bmod (2 ^ 32) ∧ value.bmod (2 ^ 32) ≤ max)

variable {key : String} {json : Json} {info : ControlInfo} {type : ControlType}
  {w : LibCameraWrapper} {min max value : Int}

theorem extracted_toInt (h : integer json = some value) :
    (extracted json).toInt = value.bmod (2 ^ 32) := by
  cases json with
  | numberInteger stored =>
      cases h
      exact stored.toInt_toInt32
  | numberUnsigned stored =>
      cases h
      rw [extracted, Signed.toInt_toInt32, UInt64.toNat_toUInt32, Int.natCast_emod]
      exact Int.emod_bmod _ _
  | _ => cases h

/-- The entry is applied with the extracted integer. -/
theorem applyControl_integer (hKey : key.front ≠ '_') (h : integer json = some value) :
    applyControl key json w = (setControlNumeric key (.int32 (extracted json)) w).2 := by
  cases json with
  | numberInteger stored => simp only [applyControl, if_neg hKey, extracted]
  | numberUnsigned stored => simp only [applyControl, if_neg hKey, extracted]
  | _ => cases h

theorem toUInt8_toNat (u : Int32) : (u.toUInt32.toUInt8.toNat : Int) = u.toInt % 2 ^ 8 := by
  have hBound := u.toUInt32.toNat_lt
  rw [UInt32.toNat_toUInt8, Signed.toInt_bmod, Int.bmod_def]
  omega

theorem toUInt16_toNat (u : Int32) : (u.toUInt32.toUInt16.toNat : Int) = u.toInt % 2 ^ 16 := by
  have hBound := u.toUInt32.toNat_lt
  rw [UInt32.toNat_toUInt16, Signed.toInt_bmod, Int.bmod_def]
  omega

/-- A control of integer type is set if the cut value is in the range. -/
theorem setControl_integer (u : Int32) (hArray : info.isArray = false)
    (hRange : range info.type = some (min, max)) : ∃ controlValue,
      controlInteger controlValue = some (narrowed info.type u.toInt) ∧
        setControl info (.int32 u) w = (true, w.setInRange info.id controlValue
          (min ≤ narrowed info.type u.toInt && narrowed info.type u.toInt ≤ max)) := by
  have hNot : ¬info.isArray = true := by simp [hArray]
  rw [setControl, if_neg hNot]
  cases hType : info.type with
  | byte lowest highest =>
      rw [hType] at hRange
      cases hRange
      refine ⟨.byte u.toUInt32.toUInt8, congrArg some (toUInt8_toNat u), ?_⟩
      simp only [narrowed, ← toUInt8_toNat, Int.ofNat_le, ← UInt8.le_iff_toNat_le]
      rfl
  | unsigned16 lowest highest =>
      rw [hType] at hRange
      cases hRange
      refine ⟨.unsigned16 u.toUInt32.toUInt16, congrArg some (toUInt16_toNat u), ?_⟩
      simp only [narrowed, ← toUInt16_toNat, Int.ofNat_le, ← UInt16.le_iff_toNat_le]
      rfl
  | integer32 lowest highest =>
      rw [hType] at hRange
      cases hRange
      refine ⟨.integer32 u, rfl, ?_⟩
      simp only [narrowed, ← Int32.le_iff_toInt_le]
      rfl
  | integer64 lowest highest =>
      rw [hType] at hRange
      cases hRange
      refine ⟨.integer64 u.toInt64, congrArg some u.toInt_toInt64, ?_⟩
      simp only [narrowed, ← u.toInt_toInt64, ← Int64.le_iff_toInt_le]
      rfl
  | _ =>
      rw [hType] at hRange
      cases hRange

/-- A control either keeps all values or has values of 32 bits only, all of which it
keeps. -/
theorem narrowed_cases (hRange : range type = some (min, max)) (hMin : min ≤ value)
    (hMax : value ≤ max) :
    (∀ cut, narrowed type cut = cut) ∨ (Fits value ∧ narrowed type value = value) := by
  cases type with
  | byte lowest highest =>
      cases hRange
      have hBound := highest.toNat_lt
      right
      constructor
      · rw [Fits]
        omega
      · rw [narrowed]
        omega
  | unsigned16 lowest highest =>
      cases hRange
      have hBound := highest.toNat_lt
      right
      constructor
      · rw [Fits]
        omega
      · rw [narrowed]
        omega
  | integer32 lowest highest => exact .inl fun _ => rfl
  | integer64 lowest highest => exact .inl fun _ => rfl
  | _ => cases hRange

/-- Of the values in the range of a control those of 32 bits are kept. -/
theorem narrowed_bmod_iff (hRange : range type = some (min, max)) (hMin : min ≤ value)
    (hMax : value ≤ max) : narrowed type (value.bmod (2 ^ 32)) = value ↔ Fits value := by
  have hWrap : value.bmod (2 ^ 32) = value ↔ Fits value := by
    rw [Int.bmod_def, Fits]
    omega
  rcases narrowed_cases hRange hMin hMax with hKept | ⟨hFits, hSame⟩
  · rw [hKept, hWrap]
  · rw [hWrap.mpr hFits]
    exact iff_of_true hSame hFits

/-- A value of more than 32 bits which is in the range is one of 64 bits. -/
theorem narrowed_of_not_fits (hRange : range type = some (min, max)) (hMin : min ≤ value)
    (hMax : value ≤ max) (hFits : ¬Fits value) (cut : Int) : narrowed type cut = cut :=
  (narrowed_cases hRange hMin hMax).resolve_right (fun hNarrow => hFits hNarrow.1) cut

theorem maps_set {controls : ControlList} {controlValue : ControlValue} {cut : Int}
    (h : controlInteger controlValue = some cut) :
    Maps (controls.set info.id controlValue) info value ↔ cut = value := by
  simp [Maps, ControlList.set, h]

/-- What an entry does to a control which is no array. -/
theorem setControl_exact_iff (hArray : info.isArray = false)
    (hRange : range info.type = some (min, max)) (h : integer json = some value) :
    ExactOrRejected info min max value w (setControl info (.int32 (extracted json)) w) ↔
      min ≤ value ∧ value ≤ max ∧ (Fits value ∨ AlreadySet info min max value w) := by
  obtain ⟨controlValue, hInteger, hSet⟩ :=
    setControl_integer (w := w) (extracted json) hArray hRange
  rw [extracted_toInt h] at hInteger hSet
  rw [hSet]
  by_cases hCut : min ≤ narrowed info.type (value.bmod (2 ^ 32)) ∧
      narrowed info.type (value.bmod (2 ^ 32)) ≤ max
  · simp only [ExactOrRejected, setInRange, hCut, decide_true, Bool.and_self, if_true,
      maps_set hInteger, Bool.true_eq_false, and_false, or_false]
    constructor
    · rintro ⟨hSame, hMin, hMax⟩
      exact ⟨hMin, hMax, .inl ((narrowed_bmod_iff hRange hMin hMax).mp hSame)⟩
    · rintro ⟨hMin, hMax, hFits⟩
      refine ⟨(narrowed_bmod_iff hRange hMin hMax).mpr ?_, hMin, hMax⟩
      by_contra hLarge
      rw [narrowed_of_not_fits hRange hMin hMax hLarge] at hCut
      exact hFits.elim hLarge fun hAlready => hAlready.2 hCut
  · have hNot : (decide (min ≤ narrowed info.type (value.bmod (2 ^ 32))) &&
        decide (narrowed info.type (value.bmod (2 ^ 32)) ≤ max)) = false := by
      simpa using hCut
    simp only [ExactOrRejected, setInRange, hNot, Bool.false_eq_true, if_false, and_false,
      Bool.true_eq_false, or_false]
    constructor
    · rintro ⟨hMaps, hMin, hMax⟩
      refine ⟨hMin, hMax, .inr ⟨hMaps, ?_⟩⟩
      have hLarge : ¬Fits value := by
        intro hFits
        rw [(narrowed_bmod_iff hRange hMin hMax).mpr hFits] at hCut
        exact hCut ⟨hMin, hMax⟩
      rwa [narrowed_of_not_fits hRange hMin hMax hLarge] at hCut
    · rintro ⟨hMin, hMax, hFits | hAlready⟩
      · rw [(narrowed_bmod_iff hRange hMin hMax).mpr hFits] at hCut
        exact absurd ⟨hMin, hMax⟩ hCut
      · exact ⟨hAlready.1, hMin, hMax⟩

/-- An integer is set exactly, or refused and reported, if the control is an array,
or the value is in its range and one of 32 bits, or was set before. -/
theorem integerControl_exact_iff (hKey : key.front ≠ '_')
    (hInfo : (w.controlsInfo.find? fun info => info.name = key) = some info)
    (hRange : range info.type = some (min, max)) (h : integer json = some value) :
    applyControl key json w = (setControlNumeric key (.int32 (extracted json)) w).2 ∧
      (ExactOrRejected info min max value w
          (setControlNumeric key (.int32 (extracted json)) w) ↔
        info.isArray = true ∨
          (min ≤ value ∧ value ≤ max ∧ (Fits value ∨ AlreadySet info min max value w))) := by
  refine ⟨applyControl_integer hKey h, ?_⟩
  rw [setControlNumeric, hInfo]
  cases hArray : info.isArray with
  | false =>
      simp only [Bool.false_eq_true, false_or]
      exact setControl_exact_iff hArray hRange h
  | true =>
      simp only [true_or, iff_true]
      exact .inr ⟨by simp [setControl, hArray], by simp [setControl, hArray]⟩

def exposureTime : ControlInfo := ⟨"ExposureTime", 5, false, .integer32 100 66666⟩

def camera : LibCameraWrapper := { new with controlsInfo := [exposureTime] }

theorem integerControl_exact_in_range :
    ExactOrRejected exposureTime 100 66666 5000 camera
      (setControlNumeric "ExposureTime" (.int32 5000) camera) := by
  have hInfo : (camera.controlsInfo.find? fun info => info.name = "ExposureTime") =
      some exposureTime := rfl
  have hInteger : integer (.numberUnsigned 5000) = some 5000 := rfl
  refine (integerControl_exact_iff (by decide) hInfo rfl hInteger).2.mpr ?_
  exact .inr ⟨by decide, by decide, .inl (by simp [Fits])⟩

/-- A value far out of the range becomes one in it. -/
theorem large_integer_accepted :
    (applyControl "ExposureTime" (.numberUnsigned 4294972296) camera).controlList 5 =
        some (.integer32 5000) ∧
      ¬ExactOrRejected exposureTime 100 66666 4294972296 camera
        (setControlNumeric "ExposureTime" (.int32 (extracted (.numberUnsigned 4294972296)))
          camera) := by
  refine ⟨by rfl, ?_⟩
  rintro (⟨-, -, hMax⟩ | ⟨-, hRefused⟩)
  · revert hMax
    decide
  · cases hRefused

end Mandeye.LibCamera.IntegerControls
