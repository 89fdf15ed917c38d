import Mandeye.Livox.LidarIds

/-! Lidar ids and serial numbers, after any announcements. A handle may be announced
again, with the same or another serial number. -/
namespace Mandeye.LivoxClient

/-- A call of `LidarInfoChangeCallback`. The pointer to the info may be null. -/
structure Announcement where
  handle : UInt32
  info : Option LivoxLidarInfo

def announce (client : LivoxClient) (call : Announcement) : LivoxClient :=
  match call.info with
  | none => client
  | some info => client.lidarInfoChangeCallback call.handle info

def announced (calls : List Announcement) : LivoxClient := calls.foldl announce new

/-- The serial number with which a handle was announced last. -/
def currentSerialNumber (handle : UInt32) : List Announcement → Option String
  | [] => none
  | call :: later =>
      (currentSerialNumber handle later).or
        (if call.handle = handle then call.info.map LivoxLidarInfo.sn else none)

variable {calls : List Announcement} {call : Announcement} {client : LivoxClient}
  {handle other : UInt32} {sn sn' : String}

@[simp] theorem announced_concat :
    announced (calls ++ [call]) = (announced calls).announce call := by
  simp [announced]

theorem currentSerialNumber_concat : currentSerialNumber handle (calls ++ [call]) =
    (if call.handle = handle then call.info.map LivoxLidarInfo.sn else none).or
      (currentSerialNumber handle calls) := by
  induction calls with
  | nil => simp [currentSerialNumber]
  | cons first later ih =>
      rw [List.cons_append, currentSerialNumber, ih, currentSerialNumber, Option.or_assoc]

theorem Announced.announce (h : Announced client) : Announced (client.announce call) := by
  obtain ⟨handle, info⟩ := call
  cases info with
  | none => exact h
  | some info => exact h.lidarInfoChangeCallback handle info

theorem announced_announced (calls : List Announcement) : Announced (announced calls) := by
  induction calls using List.reverseRecOn with
  | nil => exact .new
  | append_singleton calls call ih =>
      rw [announced_concat]
      exact ih.announce

/-- The table of serial numbers has what was announced last. -/
theorem lookup_handleToSerialNumber (calls : List Announcement) (handle : UInt32) :
    (announced calls).handleToSerialNumber.lookup handle = currentSerialNumber handle calls := by
  induction calls using List.reverseRecOn with
  | nil => rfl
  | append_singleton calls call ih =>
      rw [announced_concat, currentSerialNumber_concat, ← ih]
      obtain ⟨other, info⟩ := call
      cases info with
      | none => simp [LivoxClient.announce]
      | some info =>
          by_cases hHandle : other = handle
          · subst hHandle
            simp [LivoxClient.announce, lidarInfoChangeCallback]
          · simp [LivoxClient.announce, lidarInfoChangeCallback, hHandle,
              AList.lookup_insert_ne (Ne.symm hHandle)]

section Ids

variable (h : Announced client) (hCard : client.serialNumbers.card < 65536)
  (hHandle : client.handleToSerialNumber.lookup handle = some sn)
  (hOther : client.handleToSerialNumber.lookup other = some sn')

include h hCard hHandle in
/-- With few serial numbers the id is the position, which is not cut. -/
theorem Announced.toNat_handleToLidarId :
    (client.handleToLidarId handle).toNat = Rank.rank client.serialNumbers sn := by
  have hRank := Rank.rank_lt_card (h.known handle sn hHandle)
  rw [h.handleToLidarId hHandle]
  exact UInt16.toNat_ofNat_of_lt' (hRank.trans hCard)

include h hCard hHandle hOther

theorem Announced.handleToLidarId_inj :
    client.handleToLidarId handle = client.handleToLidarId other ↔ sn = sn' := by
  rw [← UInt16.toNat_inj, h.toNat_handleToLidarId hCard hHandle,
    h.toNat_handleToLidarId hCard hOther]
  constructor
  · exact Rank.rank_injOn (h.known handle sn hHandle) (h.known other sn' hOther)
  · rintro rfl
    rfl

theorem Announced.handleToLidarId_lt :
    client.handleToLidarId handle < client.handleToLidarId other ↔ sn < sn' := by
  rw [UInt16.lt_iff_toNat_lt, h.toNat_handleToLidarId hCard hHandle,
    h.toNat_handleToLidarId hCard hOther]
  constructor
  · intro hLess
    by_contra hNot
    rcases (not_lt.mp hNot).lt_or_eq with hGreater | rfl
    · exact absurd hLess (Rank.rank_lt_rank (h.known other sn' hOther) hGreater).asymm
    · exact absurd hLess (lt_irrefl _)
  · exact Rank.rank_lt_rank (h.known handle sn hHandle)

end Ids

/-- The mapping has the ids of the announced handles, and their serial numbers. -/
theorem Announced.lookup_getSerialNumberToLidarIdMapping (h : Announced client)
    (hCard : client.serialNumbers.card < 65536) (id : UInt32) (sn : String) :
    client.getSerialNumberToLidarIdMapping.lookup id = some sn ↔
      ∃ handle, client.handleToSerialNumber.lookup handle = some sn ∧
        (client.handleToLidarId handle).toUInt32 = id := by
  refine (Rank.lookup_table _ _ client.livoxLidarInfo.entries id sn).trans ?_
  constructor
  · rintro ⟨earlier, entry, later, hEntries, rfl, rfl, -⟩
    exact ⟨entry.1, h.handleToSerialNumber (by simp [hEntries]), rfl⟩
  · rintro ⟨handle, hHandle, rfl⟩
    have hInfo := h.info handle
    rw [hHandle] at hInfo
    obtain ⟨info, hLookup, rfl⟩ := Option.map_eq_some_iff.mp hInfo
    obtain ⟨earlier, later, hEntries⟩ := List.append_of_mem (AList.mem_lookup_iff.mp hLookup)
    refine ⟨earlier, ⟨handle, info⟩, later, hEntries, rfl, rfl, fun other hOther hSame => ?_⟩
    have hMem : other ∈ client.livoxLidarInfo.entries := by simp [hEntries, hOther]
    have hOtherHandle := h.handleToSerialNumber hMem
    exact (h.handleToLidarId_inj hCard hOtherHandle hHandle).mp (UInt16.toUInt32_inj.mp hSame)

/-- Ids are in the order of the serial numbers, and the mapping goes back. -/
theorem lidarIds_follow_serialNumbers (calls : List Announcement)
    (hCard : (announced calls).serialNumbers.card < 65536) :
    (∀ handle other sn sn', currentSerialNumber handle calls = some sn →
      currentSerialNumber other calls = some sn' →
        ((announced calls).handleToLidarId handle = (announced calls).handleToLidarId other ↔
            sn = sn') ∧
          ((announced calls).handleToLidarId handle < (announced calls).handleToLidarId other ↔
            sn < sn')) ∧
      ∀ id sn, (announced calls).getSerialNumberToLidarIdMapping.lookup id = some sn ↔
        ∃ handle, currentSerialNumber handle calls = some sn ∧
          ((announced calls).handleToLidarId handle).toUInt32 = id := by
  have hAnnounced := announced_announced calls
  simp only [← lookup_handleToSerialNumber]
  constructor
  · intro handle other sn sn' hHandle hOther
    exact ⟨hAnnounced.handleToLidarId_inj hCard hHandle hOther,
      hAnnounced.handleToLidarId_lt hCard hHandle hOther⟩
  · exact hAnnounced.lookup_getSerialNumberToLidarIdMapping hCard

/-- A handle is announced again with another serial number. -/
def replaced : List Announcement :=
  [⟨1, some ⟨9, "B", "192.168.1.101"⟩⟩, ⟨2, some ⟨9, "A", "192.168.1.102"⟩⟩, ⟨3, none⟩,
    ⟨1, some ⟨9, "C", "192.168.1.101"⟩⟩]

theorem lidarIds_follow_replaced :
    (announced replaced).handleToLidarId 1 = 2 ∧
      (announced replaced).handleToLidarId 2 < (announced replaced).handleToLidarId 1 ∧
      (announced replaced).getSerialNumberToLidarIdMapping.lookup 2 = some "C" := by
  obtain ⟨hIds, hMapping⟩ := lidarIds_follow_serialNumbers replaced (by decide)
  exact ⟨by decide, (hIds 2 1 "A" "C" (by decide) (by decide)).2.mpr (by decide),
    (hMapping 2 "C").mpr ⟨1, by decide, by decide⟩⟩

end Mandeye.LivoxClient
