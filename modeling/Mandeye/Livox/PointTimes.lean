import Mandeye.Livox.Client

/-! The times of the points of a packet. They are computed in double precision,
whose 53 bits do not hold every time of a packet. -/
namespace Mandeye.LivoxClient

open Binary64

/-- The duration of a packet in nanoseconds. -/
def duration (data : LivoxLidarEthernetPacket) : Nat := data.timeInterval.toNat * 100

/-- What a packet should add to the buffer. -/
structure TimesInPacket (laserId : UInt16) (data : LivoxLidarEthernetPacket)
    (points : List LivoxPoint) : Prop where
  content : points.map LivoxPoint.point = (List.range data.dotNum.toNat).map data.pointData
  laserId : ∀ point ∈ points, point.laserId = laserId
  ordered : points.Pairwise fun first second => first.timestamp ≤ second.timestamp
  inPacket : ∀ point ∈ points, data.timestamp ≤ point.timestamp ∧
    point.timestamp.toNat ≤ data.timestamp.toNat + duration data
  first : ∀ point ∈ points.head?, point.timestamp = data.timestamp

/-- The time of the packet is a double, and so near the end of the packet is no other
one that the time of its last point would be rounded to it. -/
def Representable (data : LivoxLidarEthernetPacket) : Prop :=
  Binary64.round data.timestamp.toNat = data.timestamp.toNat ∧
    Binary64.round (data.timestamp.toNat +
        duration data * (data.dotNum.toNat - 1 : Nat) / data.dotNum.toNat) ≤
      data.timestamp.toNat + duration data

section Offsets

variable {D k : Nat}

/-- The offset as it is computed for the last of `k + 1` points. -/
def lastOffset (D k : Nat) : ℚ := Binary64.round (k * Binary64.round (D / (k + 1 : Nat)))

/-- The computed offset differs little from the exact one. -/
theorem abs_lastOffset_sub_lt (hD : D ≤ 6553500) :
    |lastOffset D k - D * k / (k + 1 : Nat)| < 1 / 65536 := by
  have hk : (0 : ℚ) < (k + 1 : Nat) := by exact_mod_cast Nat.succ_pos k
  have hDCast : (D : ℚ) ≤ 6553500 := by exact_mod_cast hD
  have hStep : (0 : ℚ) ≤ D / (k + 1 : Nat) := by positivity
  have hExact : (k : ℚ) * (D / (k + 1 : Nat)) = D * k / (k + 1 : Nat) := by ring
  have hLess : (D * k / (k + 1 : Nat) : ℚ) ≤ D := by
    rw [div_le_iff₀ hk]
    push_cast
    nlinarith [D.cast_nonneg (α := ℚ)]
  have hStepError := abs_round_sub_le hStep
  have hProduct : |(k : ℚ) * Binary64.round (D / (k + 1 : Nat)) - D * k / (k + 1 : Nat)| ≤
      D * k / (k + 1 : Nat) / 2 ^ 53 := by
    rw [← hExact, ← mul_sub, abs_mul, abs_of_nonneg (k.cast_nonneg (α := ℚ)), mul_div_assoc]
    exact mul_le_mul_of_nonneg_left hStepError (k.cast_nonneg (α := ℚ))
  have hOffsetError := abs_round_sub_le (q := k * Binary64.round (D / (k + 1 : Nat)))
    (mul_nonneg (k.cast_nonneg (α := ℚ)) (round_nonneg hStep))
  rw [lastOffset]
  rw [abs_le] at hProduct hOffsetError
  rw [abs_lt]
  constructor <;> linarith [hProduct.1, hProduct.2, hOffsetError.1, hOffsetError.2]

/-- Compared with integers, the computed offset is the exact one. -/
theorem lastOffset_cases (hk : k < 65535) (hD : D ≤ 6553500) :
    (∃ m : Nat, m ≤ D ∧ lastOffset D k = m ∧ (D * k / (k + 1 : Nat) : ℚ) = m) ∨
      ∃ m : Nat, m + 1 ≤ D ∧ (m < lastOffset D k ∧ lastOffset D k < m + 1) ∧
        (m : ℚ) < D * k / (k + 1 : Nat) ∧ (D * k / (k + 1 : Nat) : ℚ) < m + 1 := by
  have hPos : (0 : ℚ) < (k + 1 : Nat) := by exact_mod_cast Nat.succ_pos k
  have hQuotient := quotient_cases (D * k) (Nat.succ_pos k)
  rw [Nat.cast_mul] at hQuotient
  rcases hQuotient with ⟨m, hProduct, -⟩ | ⟨m, hLess, hLow, hHigh⟩
  · obtain ⟨c, rfl⟩ : k + 1 ∣ D := by
      have hProductDvd : k + 1 ∣ D * k := ⟨m, hProduct.trans (mul_comm _ _)⟩
      have hDifference := Nat.dvd_sub (Nat.dvd_mul_left (k + 1) D) hProductDvd
      rwa [← Nat.mul_sub, Nat.add_sub_cancel_left, Nat.mul_one] at hDifference
    have hStep : (((k + 1) * c : Nat) / (k + 1 : Nat) : ℚ) = c := by
      rw [Nat.cast_mul, mul_div_cancel_left₀ _ hPos.ne']
    have hExact : (((k + 1) * c : Nat) * k / (k + 1 : Nat) : ℚ) = (k * c : Nat) := by
      rw [mul_div_right_comm, hStep, Nat.cast_mul, mul_comm]
    have hShare : k * c ≤ (k + 1) * c := Nat.mul_le_mul_right c (Nat.le_succ k)
    have hSmall : c ≤ 2 ^ 53 := by nlinarith
    refine .inl ⟨k * c, hShare, ?_, hExact⟩
    rw [lastOffset, hStep, round_natCast hSmall, ← Nat.cast_mul, round_natCast (by omega)]
  · have hClose := abs_lt.mp (abs_lastOffset_sub_lt (k := k) hD)
    have hFew : (1 : ℚ) / 65536 ≤ 1 / (k + 1 : Nat) := by
      refine one_div_le_one_div_of_le hPos ?_
      exact_mod_cast (by omega : k + 1 ≤ 65536)
    have hNext : m < D := by nlinarith
    exact .inr ⟨m, hNext, ⟨by linarith [hClose.1], by linarith [hClose.2]⟩, by linarith,
      by linarith⟩

theorem lastOffset_le (hk : k < 65535) (hD : D ≤ 6553500) : lastOffset D k ≤ D := by
  rcases lastOffset_cases hk hD with ⟨m, hm, hOffset, -⟩ | ⟨m, hm, hOffset, -⟩
  · rw [hOffset]
    exact_mod_cast hm
  · have hNext : (m : ℚ) + 1 ≤ D := by exact_mod_cast hm
    exact hOffset.2.le.trans hNext

/-- With the computed offset the sum is past the end exactly if it is with the exact
one, once both have been rounded. -/
theorem floor_sum_le_iff (T : Nat) (hk : k < 65535) (hD : D ≤ 6553500) :
    ⌊Binary64.round (T + lastOffset D k)⌋₊ ≤ T + D ↔
      Binary64.round (T + D * k / (k + 1 : Nat)) ≤ T + D := by
  rcases lastOffset_cases hk hD with ⟨m, -, hOffset, hExact⟩ | ⟨m, hm, hOffset, hExact⟩
  · obtain ⟨sum, hSum⟩ := round_natCast_eq (T + m)
    rw [Nat.cast_add] at hSum
    rw [hOffset, hExact, hSum, Nat.floor_natCast]
    exact_mod_cast Iff.rfl
  · rcases le_or_gt (T + m + 1) (2 ^ 53) with hSmall | hLarge
    · have hBound : ∀ offset : ℚ, (m : ℚ) < offset → offset < m + 1 →
          Binary64.round (T + offset) ≤ T + D := by
        intro offset hLow hHigh
        have hNext : Binary64.round ((T + m + 1 : Nat) : ℚ) = (T + m + 1 : Nat) :=
          round_natCast hSmall
        have hEnd : ((T + m + 1 : Nat) : ℚ) ≤ T + D := by
          exact_mod_cast (by omega : T + m + 1 ≤ T + D)
        have hSign : (0 : ℚ) ≤ T + offset := by
          linarith [T.cast_nonneg (α := ℚ), m.cast_nonneg (α := ℚ)]
        have hLess : (T : ℚ) + offset ≤ (T + m + 1 : Nat) := by
          push_cast
          linarith
        exact ((round_mono hSign hLess).trans_eq hNext).trans hEnd
      refine iff_of_true ?_ (hBound _ hExact.1 hExact.2)
      refine Nat.floor_le_of_le ?_
      exact_mod_cast hBound _ hOffset.1 hOffset.2
    · obtain ⟨sum, hSum⟩ := round_between (n := T + m) (by omega)
      have hSame : ∀ offset : ℚ, (m : ℚ) < offset → offset < m + 1 →
          Binary64.round (T + offset) = sum := by
        intro offset hLow hHigh
        refine hSum _ ?_ ?_ <;> push_cast <;> linarith
      rw [hSame _ hOffset.1 hOffset.2, hSame _ hExact.1 hExact.2, Nat.floor_natCast]
      exact_mod_cast Iff.rfl

end Offsets

section Packets

variable {laserId : UInt16} {data : LivoxLidarEthernetPacket} {i j : Nat}

/-- The time of a point before it is cut to 64 bits. -/
def stamp (data : LivoxLidarEthernetPacket) (i : Nat) : Nat :=
  ⌊Binary64.round (Binary64.round data.timestamp.toNat +
    Binary64.round (i * Binary64.round ((data.timeInterval.toNat * 100 : ℚ) /
      data.dotNum.toNat)))⌋₊

theorem pointTimestamp_eq (data : LivoxLidarEthernetPacket) (i : Nat) :
    pointTimestamp data i = UInt64.ofNat (stamp data i) := rfl

theorem duration_le (data : LivoxLidarEthernetPacket) : duration data ≤ 6553500 := by
  have hInterval := data.timeInterval.toNat_lt
  rw [duration]
  omega

theorem step_nonneg (data : LivoxLidarEthernetPacket) :
    0 ≤ Binary64.round ((data.timeInterval.toNat * 100 : ℚ) / data.dotNum.toNat) :=
  round_nonneg (by positivity)

theorem stamp_mono (h : i ≤ j) : stamp data i ≤ stamp data j := by
  have hStep := step_nonneg data
  have hProduct : (0 : ℚ) ≤ i * Binary64.round ((data.timeInterval.toNat * 100 : ℚ) /
      data.dotNum.toNat) := mul_nonneg (Nat.cast_nonneg i) hStep
  have hOffset := round_mono hProduct
    (mul_le_mul_of_nonneg_right (Nat.cast_le.mpr h) hStep)
  have hTime := round_nonneg (q := data.timestamp.toNat) (Nat.cast_nonneg _)
  refine Nat.floor_mono (round_mono ?_ (by linarith))
  linarith [round_nonneg hProduct]

theorem stamp_zero (data : LivoxLidarEthernetPacket) :
    (stamp data 0 : ℚ) = Binary64.round data.timestamp.toNat := by
  have hTime := round_round (q := data.timestamp.toNat) (Nat.cast_nonneg _)
  obtain ⟨m, hm⟩ := round_natCast_eq data.timestamp.toNat
  rw [stamp, Nat.cast_zero, zero_mul, round_zero, add_zero, hTime, hm, Nat.floor_natCast]

/-- A number of at most 64 bits is rounded to one of them or to the next power of two. -/
theorem round_le_of_le {q : ℚ} (hq : 0 ≤ q) (h : q ≤ 2 ^ 64) : Binary64.round q ≤ 2 ^ 64 := by
  have hEnd := round_of_bits 1 64 (by norm_num)
  norm_num at hEnd
  exact (round_mono hq h).trans_eq (by norm_num [hEnd])

theorem stamp_zero_le (data : LivoxLidarEthernetPacket) : stamp data 0 ≤ 2 ^ 64 := by
  have hTime : (data.timestamp.toNat : ℚ) ≤ 2 ^ 64 := by
    exact_mod_cast data.timestamp.toNat_lt.le
  have hRound := round_le_of_le (Nat.cast_nonneg _) hTime
  rw [← stamp_zero] at hRound
  exact_mod_cast hRound

section Last

variable (hDots : data.dotNum.toNat ≠ 0)
  (hTime : Binary64.round data.timestamp.toNat = data.timestamp.toNat)

include hDots hTime

theorem stamp_last_eq : ∃ k < 65535, data.dotNum.toNat = k + 1 ∧
    stamp data (data.dotNum.toNat - 1) =
      ⌊Binary64.round (data.timestamp.toNat + lastOffset (duration data) k)⌋₊ := by
  obtain ⟨k, hk⟩ := Nat.exists_eq_succ_of_ne_zero hDots
  have hFew := data.dotNum.toNat_lt
  have hDuration : (data.timeInterval.toNat * 100 : ℚ) = (duration data : Nat) := by
    rw [duration]
    push_cast
    rfl
  refine ⟨k, by omega, hk, ?_⟩
  rw [stamp, hTime, hDuration, hk]
  rfl

/-- The last time is past the end exactly if it is with the exact offset. -/
theorem stamp_last_le_iff :
    stamp data (data.dotNum.toNat - 1) ≤ data.timestamp.toNat + duration data ↔
      Binary64.round (data.timestamp.toNat +
        duration data * (data.dotNum.toNat - 1 : Nat) / data.dotNum.toNat) ≤
      data.timestamp.toNat + duration data := by
  obtain ⟨k, hFew, hk, hStamp⟩ := stamp_last_eq hDots hTime
  rw [hStamp, hk]
  exact floor_sum_le_iff _ hFew (duration_le data)

theorem stamp_last_le (hEnd : data.timestamp.toNat + duration data ≤ 2 ^ 64) :
    stamp data (data.dotNum.toNat - 1) ≤ 2 ^ 64 := by
  obtain ⟨k, hFew, -, hStamp⟩ := stamp_last_eq hDots hTime
  have hOffset := lastOffset_le hFew (duration_le data)
  have hSign : 0 ≤ lastOffset (duration data) k := by
    exact round_nonneg (mul_nonneg (Nat.cast_nonneg k) (round_nonneg (by positivity)))
  have hCast : (data.timestamp.toNat : ℚ) + duration data ≤ 2 ^ 64 := by exact_mod_cast hEnd
  rw [hStamp]
  refine Nat.floor_le_of_le ?_
  push_cast
  exact round_le_of_le (by positivity) (by linarith)

end Last

/-- The points of a packet, before those without a time are left out. -/
def computed (laserId : UInt16) (data : LivoxLidarEthernetPacket) : List LivoxPoint :=
  (List.range data.dotNum.toNat).map fun i =>
    { point := data.pointData i, timestamp := pointTimestamp data i, laserId := laserId }

theorem acceptedPoints_eq (hType : data.dataType = kLivoxLidarCartesianCoordinateHighData) :
    acceptedPoints laserId data =
      (computed laserId data).filter fun point => 0 < point.timestamp := by
  rw [acceptedPoints, if_pos hType]
  rfl

theorem toNat_pointTimestamp (h : stamp data i < 2 ^ 64) :
    (pointTimestamp data i).toNat = stamp data i := by
  rw [pointTimestamp_eq]
  exact UInt64.toNat_ofNat_of_lt' h

/-- All times are in the packet if the first and the last one are. -/
theorem timesInPacket_of_representable
    (hType : data.dataType = kLivoxLidarCartesianCoordinateHighData)
    (hPositive : 0 < data.timestamp) (hEnd : data.timestamp.toNat + duration data < 2 ^ 64)
    (hDots : data.dotNum.toNat ≠ 0) (h : Representable data) :
    TimesInPacket laserId data (acceptedPoints laserId data) := by
  obtain ⟨hTime, hLast⟩ := h
  have hFirst : stamp data 0 = data.timestamp.toNat := by
    exact_mod_cast (stamp_zero data).trans hTime
  have hBounds : ∀ i < data.dotNum.toNat, data.timestamp.toNat ≤ stamp data i ∧
      stamp data i ≤ data.timestamp.toNat + duration data := by
    intro i hi
    constructor
    · exact hFirst.symm.trans_le (stamp_mono (Nat.zero_le i))
    · exact (stamp_mono (by omega)).trans ((stamp_last_le_iff hDots hTime).mpr hLast)
  have hToNat : ∀ i < data.dotNum.toNat, (pointTimestamp data i).toNat = stamp data i :=
    fun i hi => toNat_pointTimestamp ((hBounds i hi).2.trans_lt hEnd)
  have hAll : acceptedPoints laserId data = computed laserId data := by
    rw [acceptedPoints_eq hType, List.filter_eq_self]
    intro point hPoint
    obtain ⟨i, hi, rfl⟩ := List.mem_map.mp hPoint
    rw [decide_eq_true_iff, UInt64.lt_iff_toNat_lt, hToNat i (List.mem_range.mp hi)]
    exact (UInt64.lt_iff_toNat_lt.mp hPositive).trans_le (hBounds i (List.mem_range.mp hi)).1
  rw [hAll]
  constructor
  · simp [computed]
  · intro point hPoint
    obtain ⟨i, -, rfl⟩ := List.mem_map.mp hPoint
    rfl
  · rw [computed, List.pairwise_map]
    refine List.pairwise_lt_range.imp_of_mem fun {i j} hi hj hLess => ?_
    rw [UInt64.le_iff_toNat_le, hToNat i (List.mem_range.mp hi), hToNat j (List.mem_range.mp hj)]
    exact stamp_mono hLess.le
  · intro point hPoint
    obtain ⟨i, hi, rfl⟩ := List.mem_map.mp hPoint
    rw [UInt64.le_iff_toNat_le, hToNat i (List.mem_range.mp hi)]
    exact hBounds i (List.mem_range.mp hi)
  · intro point hPoint
    rw [computed, List.head?_map, List.head?_range, if_neg hDots] at hPoint
    obtain rfl := Option.some.inj hPoint
    rw [← UInt64.toNat_inj, hToNat 0 (Nat.pos_of_ne_zero hDots), hFirst]

/-- If no point is left out, the first and the last time tell what is representable. -/
theorem representable_of_timesInPacket
    (hType : data.dataType = kLivoxLidarCartesianCoordinateHighData)
    (hPositive : 0 < data.timestamp) (hEnd : data.timestamp.toNat + duration data < 2 ^ 64)
    (hDots : data.dotNum.toNat ≠ 0) (h : TimesInPacket laserId data (acceptedPoints laserId data)) :
    Representable data := by
  have hAll : acceptedPoints laserId data = computed laserId data := by
    have hLength := congrArg List.length h.content
    rw [acceptedPoints_eq hType, List.length_map, List.length_map] at hLength
    rw [acceptedPoints_eq hType, List.filter_eq_self]
    refine List.length_filter_eq_length_iff.mp ?_
    rw [hLength, computed, List.length_map]
  rw [hAll] at h
  have hHead : ⟨data.pointData 0, pointTimestamp data 0, laserId⟩ ∈
      (computed laserId data).head? := by
    rw [computed, List.head?_map, List.head?_range, if_neg hDots]
    rfl
  have hFirst : pointTimestamp data 0 = data.timestamp := h.first _ hHead
  have hPositiveNat := UInt64.lt_iff_toNat_lt.mp hPositive
  have hTime : Binary64.round data.timestamp.toNat = data.timestamp.toNat := by
    have hMod : stamp data 0 % 2 ^ 64 = data.timestamp.toNat := by
      rw [← hFirst, pointTimestamp_eq, UInt64.toNat_ofNat']
    have hLess : stamp data 0 < 2 ^ 64 := by
      refine (stamp_zero_le data).lt_of_ne fun hSame => ?_
      rw [hSame, Nat.mod_self] at hMod
      exact absurd hMod hPositiveNat.ne
    rw [← stamp_zero, ← hMod, Nat.mod_eq_of_lt hLess]
  refine ⟨hTime, (stamp_last_le_iff hDots hTime).mp ?_⟩
  have hMem : (⟨data.pointData (data.dotNum.toNat - 1),
      pointTimestamp data (data.dotNum.toNat - 1), laserId⟩ : LivoxPoint) ∈
        computed laserId data :=
    List.mem_map.mpr ⟨_, List.mem_range.mpr (by omega), rfl⟩
  obtain ⟨hAfter, hHigh⟩ := h.inPacket _ hMem
  have hLow : data.timestamp.toNat ≤ (pointTimestamp data (data.dotNum.toNat - 1)).toNat :=
    UInt64.le_iff_toNat_le.mp hAfter
  have hMod : (pointTimestamp data (data.dotNum.toNat - 1)).toNat =
      stamp data (data.dotNum.toNat - 1) % 2 ^ 64 := by
    rw [pointTimestamp_eq, UInt64.toNat_ofNat']
  have hLess : stamp data (data.dotNum.toNat - 1) < 2 ^ 64 := by
    refine (stamp_last_le hDots hTime hEnd.le).lt_of_ne fun hSame => ?_
    rw [hSame, Nat.mod_self] at hMod
    omega
  rw [hMod, Nat.mod_eq_of_lt hLess] at hHigh
  exact hHigh

/-- All times up to 2 ^ 53 are representable, which are those of 104 days. -/
theorem representable_of_le (h : data.timestamp.toNat + duration data ≤ 2 ^ 53) :
    Representable data := by
  refine ⟨round_natCast (by omega), ?_⟩
  have hEnd := round_natCast h
  rw [Nat.cast_add] at hEnd
  have hShare : (duration data * (data.dotNum.toNat - 1 : Nat) / data.dotNum.toNat : ℚ) ≤
      duration data := by
    refine div_le_of_le_mul₀ (Nat.cast_nonneg _) (Nat.cast_nonneg _) ?_
    exact_mod_cast Nat.mul_le_mul_left _ (Nat.sub_le _ 1)
  exact (round_mono (by positivity) (by linarith)).trans_eq hEnd

end Packets

/-- The points of a packet are recorded with times in the packet, the first one at
its time, exactly if there are none or the times are representable. -/
theorem pointTimes_iff (client : LivoxClient) (laserId : UInt16)
    (data : LivoxLidarEthernetPacket)
    (hType : data.dataType = kLivoxLidarCartesianCoordinateHighData)
    (hLogging : client.bufferLivox.pointer.isSome) (hPositive : 0 < data.timestamp)
    (hEnd : data.timestamp.toNat + duration data < 2 ^ 64) :
    (∃ points, (client.pointCloudCallback laserId data).bufferLivox.current =
        client.bufferLivox.current ++ points ∧ TimesInPacket laserId data points) ↔
      data.dotNum = 0 ∨ Representable data := by
  obtain ⟨p, hp⟩ := Option.isSome_iff_exists.mp hLogging
  have hAppend : (client.pointCloudCallback laserId data).bufferLivox.current =
      client.bufferLivox.current ++ acceptedPoints laserId data := by
    rw [pointCloudCallback_bufferLivox, SwapBuffer.append_current _ hp]
  have hDots : data.dotNum = 0 ↔ data.dotNum.toNat = 0 := by
    rw [← UInt16.toNat_inj]
    rfl
  rw [hDots]
  constructor
  · rintro ⟨points, hPoints, h⟩
    obtain rfl := List.append_cancel_left (hAppend.symm.trans hPoints)
    exact or_iff_not_imp_left.mpr fun hSome =>
      representable_of_timesInPacket hType hPositive hEnd hSome h
  · intro hRepresentable
    refine ⟨acceptedPoints laserId data, hAppend, ?_⟩
    by_cases hNone : data.dotNum.toNat = 0
    · have hEmpty : acceptedPoints laserId data = [] := by
        rw [acceptedPoints_eq hType, computed, hNone]
        rfl
      rw [hEmpty]
      exact ⟨by rw [hNone]; rfl, nofun, .nil, nofun, nofun⟩
    · exact timesInPacket_of_representable hType hPositive hEnd hNone
        (hRepresentable.resolve_left hNone)

/-- A packet of 96 points in half a millisecond. -/
def packet (timestamp : UInt64) : LivoxLidarEthernetPacket where
  timeInterval := 5000
  dotNum := 96
  dataType := kLivoxLidarCartesianCoordinateHighData
  timestamp := timestamp
  pointData i := ⟨.ofNat i, 0, 0, 0, 0⟩
  imuData := ⟨0, 0, 0, 0, 0, 0⟩

theorem pointTimes_iff_since_start :
    ∃ points, (new.startLog.pointCloudCallback 1 (packet 1000000000)).bufferLivox.current =
      new.startLog.bufferLivox.current ++ points ∧
        TimesInPacket 1 (packet 1000000000) points :=
  (pointTimes_iff new.startLog 1 (packet 1000000000) rfl rfl (by decide) (by decide)).mpr
    (.inr (representable_of_le (by decide)))

/-- Doubles of this size are 256 nanoseconds apart. -/
theorem not_representable_since_1970 : ¬Representable (packet 1700000000000000001) := by
  rintro ⟨hTime, -⟩
  have hLog : Nat.log 2 1700000000000000001 = 60 := by
    rw [Nat.log_eq_iff (by norm_num)]
    norm_num
  have hUlp := ulp_of_floor (q := (1700000000000000001 : Nat)) (n := 1700000000000000001)
    (by norm_num) le_rfl (lt_add_one _)
  rw [hLog] at hUlp
  change Binary64.round (1700000000000000001 : Nat) = (1700000000000000001 : Nat) at hTime
  rw [Binary64.round, hUlp] at hTime
  have hMultiple : roundHalfEven ((1700000000000000001 : Nat) / 2 ^ (60 - 52)) * 2 ^ (60 - 52) =
      (1700000000000000001 : ℤ) := by exact_mod_cast hTime
  omega

theorem first_time_rounded :
    ¬∃ points, (new.startLog.pointCloudCallback 1
        (packet 1700000000000000001)).bufferLivox.current =
      new.startLog.bufferLivox.current ++ points ∧
        TimesInPacket 1 (packet 1700000000000000001) points := by
  rintro ⟨points, hPoints, h⟩
  have hAppend : (new.startLog.pointCloudCallback 1
      (packet 1700000000000000001)).bufferLivox.current =
        new.startLog.bufferLivox.current ++ acceptedPoints 1 (packet 1700000000000000001) := by
    rw [pointCloudCallback_bufferLivox]
    exact SwapBuffer.append_current _ rfl
  obtain rfl := List.append_cancel_left (hAppend.symm.trans hPoints)
  exact not_representable_since_1970
    (representable_of_timesInPacket rfl (by decide) (by decide) (by decide) h)

end Mandeye.LivoxClient
