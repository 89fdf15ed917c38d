import Mandeye.KeyLengthValue
import Mandeye.Livox.Client

/-! The answer to an internal-info query. The callback walks over the records
of the response and keeps two values of the lidar: its work mode and the kind
of time synchronisation. -/
namespace Mandeye.LivoxClient

open KeyLengthValue (Entry)

/-- The status of an answer which has come. -/
def kLivoxLidarStatusSuccess : Int32 := 0

/-- The keys of the records which the callback looks at. -/
def kKeyLidarPointDataHostIPCfg : UInt16 := 0x0006
def kKeyLidarImuHostIPCfg : UInt16 := 0x0007
def kKeyWorkMode : UInt16 := 0x001A
def kKeyTimeSyncType : UInt16 := 0x800C

/-- The array is declared with one byte and read far beyond it, so the response
comes with the memory which follows. -/
structure LivoxLidarDiagInternalInfoResponse where
  retCode : UInt8
  paramNum : UInt16
  data : Nat → UInt8

/-- A record, with the memory which follows its head. -/
structure LivoxLidarKeyValueParam where
  key : UInt16
  length : UInt16
  value : Nat → UInt8

/-- The record at an offset. Nothing is checked against the end of the answer. -/
def LivoxLidarDiagInternalInfoResponse.param (response : LivoxLidarDiagInternalInfoResponse)
    (off : UInt16) : LivoxLidarKeyValueParam where
  key := KeyLengthValue.word response.data off.toNat
  length := KeyLengthValue.word response.data (off.toNat + 2)
  value i := response.data (off.toNat + 4 + i)

/-- Where a lidar sends one kind of data. These values are only printed. -/
structure HostIPCfg where
  ipaddr : List UInt8
  hostPort : UInt16
  lidarPort : UInt16

/-- What is printed when there is no such record. -/
def HostIPCfg.zero : HostIPCfg := ⟨List.replicate 4 0, 0, 0⟩

/-- The address and the ports in a record. -/
def HostIPCfg.read (kv : LivoxLidarKeyValueParam) : HostIPCfg where
  ipaddr := (List.range 4).map kv.value
  hostPort := KeyLengthValue.word kv.value 4
  lidarPort := KeyLengthValue.word kv.value 6

/-- The variables of the loop. The counter has 8 bits, the offset 16. -/
structure QueryLoop where
  i : UInt8
  off : UInt16
  hostPoint : HostIPCfg
  hostImu : HostIPCfg

/-- The variables before the loop. -/
def QueryLoop.enter : QueryLoop := ⟨0, 0, .zero, .zero⟩

/-- What an iteration does to the variables of the loop. -/
def QueryLoop.advance (loop : QueryLoop) (kv : LivoxLidarKeyValueParam) : QueryLoop where
  i := loop.i + 1
  off := loop.off + 4 + kv.length
  hostPoint := if kv.key = kKeyLidarPointDataHostIPCfg then .read kv else loop.hostPoint
  hostImu := if kv.key = kKeyLidarImuHostIPCfg then .read kv else loop.hostImu

/-- The last mode which was heard of is kept. -/
def setWorkMode (client : LivoxClient) (handle : UInt32) (mode : Int32) : LivoxClient :=
  { client with livoxLidarWorkMode := client.livoxLidarWorkMode.insert handle mode }

/-- The same for the kind of the synchronisation. -/
def setTimeSync (client : LivoxClient) (handle : UInt32) (kind : Int32) : LivoxClient :=
  { client with livoxLidarTimeSync := client.livoxLidarTimeSync.insert handle kind }

/-- What an iteration does to the client, each time under the info mutex. -/
def receiveParam (client : LivoxClient) (handle : UInt32) (kv : LivoxLidarKeyValueParam) :
    LivoxClient :=
  if kv.key = kKeyWorkMode then client.setWorkMode handle (Int32.ofNat (kv.value 0).toNat)
  else if kv.key = kKeyTimeSyncType then
    client.setTimeSync handle (Int32.ofNat (kv.value 0).toNat)
  else client

/-- One iteration; there is none once the counter has reached `param_num`. -/
def QueryLoop.step (handle : UInt32) (response : LivoxLidarDiagInternalInfoResponse) :
    QueryLoop × LivoxClient → Option (QueryLoop × LivoxClient)
  | (loop, client) =>
      if loop.i.toNat < response.paramNum.toNat then
        let kv := response.param loop.off
        some (loop.advance kv, client.receiveParam handle kv)
      else none

/-- The loop and the client after `k` iterations, if there are that many. -/
def QueryLoop.after (handle : UInt32) (response : LivoxLidarDiagInternalInfoResponse)
    (client : LivoxClient) : Nat → Option (QueryLoop × LivoxClient)
  | 0 => some (.enter, client)
  | k + 1 => (QueryLoop.after handle response client k).bind (step handle response)

/-- Run the loop to its end. There is no result while more than `fuel`
iterations are left. -/
def QueryLoop.finish (handle : UInt32) (response : LivoxLidarDiagInternalInfoResponse) :
    Nat → QueryLoop × LivoxClient → Option LivoxClient
  | 0, current => if (step handle response current).isNone then some current.2 else none
  | fuel + 1, current =>
      match step handle response current with
      | none => some current.2
      | some next => finish handle response fuel next

/-- An answer which has not come makes the mode unknown. An empty one changes nothing. -/
def queryInternalInfoCallback (fuel : Nat) (status : Int32) (handle : UInt32)
    (response : Option LivoxLidarDiagInternalInfoResponse) (client : LivoxClient) :
    Option LivoxClient :=
  if status ≠ kLivoxLidarStatusSuccess then some (client.setWorkMode handle (-1))
  else match response with
    | none => some client
    | some response => QueryLoop.finish handle response fuel (.enter, client)

/-- The response carries exactly these records. Work mode and synchronisation
records have a value. -/
structure Encodes (response : LivoxLidarDiagInternalInfoResponse) (entries : List Entry) :
    Prop where
  paramNum : response.paramNum.toNat = entries.length
  fits : (KeyLengthValue.encode entries).length ≤ 65535
  data : KeyLengthValue.Holds response.data 0 (KeyLengthValue.encode entries)
  valued : ∀ entry ∈ entries, entry.key = kKeyWorkMode ∨ entry.key = kKeyTimeSyncType →
    entry.value ≠ []

/-- What the last record with the key says, or what was known before. -/
def latest (key : UInt16) (entries : List Entry) (before : Option Int32) : Option Int32 :=
  match KeyLengthValue.lastValue key entries with
  | none => before
  | some value => some (Int32.ofNat (value.headD 0).toNat)

/-- The parameter which the loop looks at is the record. -/
structure Represents (kv : LivoxLidarKeyValueParam) (entry : Entry) : Prop where
  key : kv.key = entry.key
  length : kv.length.toNat = entry.value.length
  value : KeyLengthValue.Holds kv.value 0 entry.value

/-- The loop reads each record where it starts, ends after the last one, and
then the client knows what the records say about the lidar. -/
def ParsesAll (handle : UInt32) (response : LivoxLidarDiagInternalInfoResponse)
    (client : LivoxClient) (entries : List Entry) : Prop :=
  (∀ k entry, entries[k]? = some entry →
    ∃ loop before, QueryLoop.after handle response client k = some (loop, before) ∧
      loop.off.toNat = KeyLengthValue.start entries k ∧
      Represents (response.param loop.off) entry ∧
      (QueryLoop.step handle response (loop, before)).isSome) ∧
  ∃ loop final, QueryLoop.after handle response client entries.length = some (loop, final) ∧
    QueryLoop.step handle response (loop, final) = none ∧
    (∀ fuel, entries.length ≤ fuel →
      queryInternalInfoCallback fuel kLivoxLidarStatusSuccess handle (some response) client =
        some final) ∧
    final.livoxLidarWorkMode.lookup handle =
      latest kKeyWorkMode entries (client.livoxLidarWorkMode.lookup handle) ∧
    final.livoxLidarTimeSync.lookup handle =
      latest kKeyTimeSyncType entries (client.livoxLidarTimeSync.lookup handle)

section Reading

variable {handle : UInt32} {response : LivoxLidarDiagInternalInfoResponse}
  {client : LivoxClient} {entries : List Entry}

theorem receiveParam_workMode (kv : LivoxLidarKeyValueParam) :
    (client.receiveParam handle kv).livoxLidarWorkMode.lookup handle =
      if kv.key = kKeyWorkMode then some (Int32.ofNat (kv.value 0).toNat)
      else client.livoxLidarWorkMode.lookup handle := by
  by_cases hMode : kv.key = kKeyWorkMode
  · simp [receiveParam, hMode, setWorkMode]
  · simp only [receiveParam, hMode, if_false]
    split_ifs <;> rfl

theorem receiveParam_timeSync (kv : LivoxLidarKeyValueParam) :
    (client.receiveParam handle kv).livoxLidarTimeSync.lookup handle =
      if kv.key = kKeyTimeSyncType then some (Int32.ofNat (kv.value 0).toNat)
      else client.livoxLidarTimeSync.lookup handle := by
  by_cases hSync : kv.key = kKeyTimeSyncType
  · simp [receiveParam, hSync, setTimeSync, kKeyTimeSyncType, kKeyWorkMode]
  · simp only [receiveParam, hSync, if_false]
    split_ifs <;> rfl

theorem Encodes.represents (h : Encodes response entries) {off : UInt16} {k : Nat} {entry : Entry}
    (hOff : off.toNat = KeyLengthValue.start entries k) (hEntry : entries[k]? = some entry) :
    Represents (response.param off) entry := by
  obtain ⟨hKey, hLength, hValue⟩ := KeyLengthValue.entry_at h.data hEntry
  refine ⟨?_, ?_, ?_⟩
  · simpa only [LivoxLidarDiagInternalInfoResponse.param, hOff] using hKey
  · simp only [LivoxLidarDiagInternalInfoResponse.param, hOff, hLength, UInt16.toNat_ofNat']
    exact Nat.mod_eq_of_lt entry.fits
  · intro i hi
    simpa only [LivoxLidarDiagInternalInfoResponse.param, hOff, Nat.zero_add] using hValue i hi

/-- The first value byte, for a record which has one. -/
theorem Represents.head {kv : LivoxLidarKeyValueParam} {entry : Entry}
    (h : Represents kv entry) (hValue : entry.value ≠ []) : kv.value 0 = entry.value.headD 0 := by
  have hFirst := h.value 0 (List.length_pos_iff.mpr hValue)
  cases hList : entry.value with
  | nil => exact absurd hList hValue
  | cons byte rest => simpa [hList] using hFirst

theorem latest_append_singleton (key : UInt16) (entries : List Entry) (entry : Entry)
    (before : Option Int32) :
    latest key (entries ++ [entry]) before =
      if entry.key = key then some (Int32.ofNat (entry.value.headD 0).toNat)
      else latest key entries before := by
  simp only [latest, KeyLengthValue.lastValue_append_singleton]
  split_ifs <;> rfl

/-- The loop and the client after the first `k` records. The offset never wraps
before the end of the data; the counter does once there are enough records. -/
structure Progress (handle : UInt32) (client : LivoxClient) (entries : List Entry) (k : Nat)
    (loop : QueryLoop) (now : LivoxClient) : Prop where
  i : loop.i.toNat = k % 256
  off : loop.off.toNat = KeyLengthValue.start entries k
  workMode : now.livoxLidarWorkMode.lookup handle =
    latest kKeyWorkMode (entries.take k) (client.livoxLidarWorkMode.lookup handle)
  timeSync : now.livoxLidarTimeSync.lookup handle =
    latest kKeyTimeSyncType (entries.take k) (client.livoxLidarTimeSync.lookup handle)

theorem Progress.enter : Progress handle client entries 0 .enter client := by
  refine ⟨rfl, ?_, rfl, rfl⟩
  rw [KeyLengthValue.start_zero]
  rfl

theorem Progress.advance (h : Encodes response entries) {k : Nat} {entry : Entry}
    {loop : QueryLoop} {now : LivoxClient} (hEntry : entries[k]? = some entry)
    (hLoop : Progress handle client entries k loop now) :
    Progress handle client entries (k + 1) (loop.advance (response.param loop.off))
      (now.receiveParam handle (response.param loop.off)) := by
  have hParam := h.represents hLoop.off hEntry
  have hMember := List.mem_of_getElem? hEntry
  have hTake := KeyLengthValue.take_succ hEntry
  have hStart := KeyLengthValue.start_succ hEntry
  have hBound := (KeyLengthValue.start_le entries (k + 1)).trans h.fits
  constructor
  · rw [QueryLoop.advance, UInt8.toNat_add, hLoop.i]
    simp
  · rw [QueryLoop.advance, UInt16.toNat_add, UInt16.toNat_add, hLoop.off, hParam.length, hStart]
    rw [show (4 : UInt16).toNat = 4 from rfl]
    omega
  · rw [receiveParam_workMode, hTake, latest_append_singleton, hParam.key, hLoop.workMode]
    split_ifs with hKey
    · rw [hParam.head (h.valued entry hMember (.inl hKey))]
    · rfl
  · rw [receiveParam_timeSync, hTake, latest_append_singleton, hParam.key, hLoop.timeSync]
    split_ifs with hKey
    · rw [hParam.head (h.valued entry hMember (.inr hKey))]
    · rfl

/-- The wrapped counter never exceeds the number of records already read, so
the loop does go on while there are records left. -/
theorem Progress.step (h : Encodes response entries) {k : Nat} {loop : QueryLoop}
    {now : LivoxClient} (hLoop : Progress handle client entries k loop now)
    (hk : k < entries.length) :
    QueryLoop.step handle response (loop, now) =
      some (loop.advance (response.param loop.off),
        now.receiveParam handle (response.param loop.off)) := by
  rw [QueryLoop.step, if_pos]
  rw [h.paramNum, hLoop.i]
  omega

theorem Progress.after (h : Encodes response entries) {k : Nat} (hk : k ≤ entries.length) :
    ∃ loop now, QueryLoop.after handle response client k = some (loop, now) ∧
      Progress handle client entries k loop now := by
  induction k with
  | zero => exact ⟨_, _, rfl, .enter⟩
  | succ k ih =>
      obtain ⟨loop, now, hAfter, hLoop⟩ := ih (by omega)
      refine ⟨_, _, ?_, hLoop.advance h (List.getElem?_eq_getElem (by omega))⟩
      rw [QueryLoop.after, hAfter, Option.bind_some, hLoop.step h (by omega)]

theorem QueryLoop.finish_after {k : Nat} {current : QueryLoop × LivoxClient}
    (hAfter : QueryLoop.after handle response client k = some current) (fuel : Nat) :
    QueryLoop.finish handle response (fuel + k) (.enter, client) =
      QueryLoop.finish handle response fuel current := by
  induction k generalizing fuel current with
  | zero =>
      cases hAfter
      rfl
  | succ k ih =>
      obtain ⟨before, hBefore, hStep⟩ := Option.bind_eq_some_iff.mp hAfter
      rw [show fuel + (k + 1) = fuel + 1 + k by omega, ih hBefore, QueryLoop.finish, hStep]

theorem QueryLoop.finish_of_step_eq_none {current : QueryLoop × LivoxClient} (fuel : Nat)
    (h : QueryLoop.step handle response current = none) :
    QueryLoop.finish handle response fuel current = some current.2 := by
  cases fuel <;> simp [QueryLoop.finish, h]

/-- With more parameters than the counter can count the callback never comes
back, whatever the response holds. -/
theorem queryInternalInfoCallback_never_returns (fuel : Nat) (handle : UInt32)
    (response : LivoxLidarDiagInternalInfoResponse) (client : LivoxClient)
    (h : 256 ≤ response.paramNum.toNat) :
    queryInternalInfoCallback fuel kLivoxLidarStatusSuccess handle (some response) client =
      none := by
  have hStep : ∀ current, ∃ next, QueryLoop.step handle response current = some next :=
    fun current => ⟨_, if_pos (current.1.i.toNat_lt.trans_le h)⟩
  have hFinish : ∀ current, QueryLoop.finish handle response fuel current = none := by
    induction fuel with
    | zero =>
        intro current
        obtain ⟨next, hNext⟩ := hStep current
        simp [QueryLoop.finish, hNext]
    | succ fuel ih =>
        intro current
        obtain ⟨next, hNext⟩ := hStep current
        simpa [QueryLoop.finish, hNext] using ih next
  exact hFinish _

end Reading

theorem parsesAll_of_lt {handle : UInt32} {response : LivoxLidarDiagInternalInfoResponse}
    {client : LivoxClient} {entries : List Entry} (h : Encodes response entries)
    (hLt : response.paramNum.toNat < 256) : ParsesAll handle response client entries := by
  constructor
  · intro k entry hEntry
    obtain ⟨hk, -⟩ := List.getElem?_eq_some_iff.mp hEntry
    obtain ⟨loop, now, hAfter, hLoop⟩ := Progress.after h hk.le
    refine ⟨loop, now, hAfter, hLoop.off, h.represents hLoop.off hEntry, ?_⟩
    rw [hLoop.step h hk, Option.isSome_some]
  · have hLoops : ∃ loop final,
        QueryLoop.after handle response client entries.length = some (loop, final) ∧
          Progress handle client entries entries.length loop final := Progress.after h le_rfl
    obtain ⟨loop, final, hAfter, hLoop⟩ := hLoops
    have hEnd : QueryLoop.step handle response (loop, final) = none := by
      rw [QueryLoop.step, if_neg]
      rw [hLoop.i, h.paramNum, Nat.mod_eq_of_lt (h.paramNum ▸ hLt)]
      exact lt_irrefl _
    refine ⟨loop, final, hAfter, hEnd, ?_, ?_, ?_⟩
    · intro fuel hFuel
      obtain ⟨rest, rfl⟩ := Nat.exists_eq_add_of_le hFuel
      rw [queryInternalInfoCallback, if_neg (by simp), Nat.add_comm]
      exact (QueryLoop.finish_after hAfter rest).trans (QueryLoop.finish_of_step_eq_none rest hEnd)
    · simpa using hLoop.workMode
    · simpa using hLoop.timeSync

/-- The parser does its work exactly when the number of records fits into its
counter. -/
theorem parsesAll_iff {handle : UInt32} {response : LivoxLidarDiagInternalInfoResponse}
    {client : LivoxClient} {entries : List Entry} (h : Encodes response entries) :
    ParsesAll handle response client entries ↔ response.paramNum.toNat < 256 := by
  refine ⟨fun hAll => ?_, parsesAll_of_lt h⟩
  obtain ⟨-, -, final, -, -, hReturns, -⟩ := hAll
  by_contra hLarge
  have hNever := queryInternalInfoCallback_never_returns entries.length handle response client
    (Nat.le_of_not_lt hLarge)
  rw [hReturns _ le_rfl] at hNever
  cases hNever

def sleepingLidarEntries : List Entry :=
  [⟨kKeyWorkMode, [3], by decide⟩, ⟨0x8000, [52, 55], by decide⟩,
    ⟨kKeyTimeSyncType, [1], by decide⟩]

def sleepingLidarResponse : LivoxLidarDiagInternalInfoResponse where
  retCode := 0
  paramNum := 3
  data i := (KeyLengthValue.encode sleepingLidarEntries).getD i 0

theorem sleepingLidarResponse_parsed :
    ParsesAll 7 sleepingLidarResponse .new sleepingLidarEntries :=
  (parsesAll_iff ⟨rfl, by decide, KeyLengthValue.holds_getD _, by decide⟩).mpr (by decide)

def emptyEntries (n : Nat) : List Entry := List.replicate n ⟨0, [], by decide⟩

def emptyRecordsResponse (n : UInt16) : LivoxLidarDiagInternalInfoResponse where
  retCode := 0
  paramNum := n
  data _ := 0

theorem encodes_emptyEntries (n : UInt16) (h : 4 * n.toNat ≤ 65535) :
    Encodes (emptyRecordsResponse n) (emptyEntries n.toNat) := by
  have hEncode := KeyLengthValue.encode_replicate n.toNat ⟨0, [], by decide⟩ rfl rfl
  refine ⟨by simp [emptyRecordsResponse, emptyEntries], ?_, ?_, ?_⟩
  · rwa [emptyEntries, hEncode, List.length_replicate]
  · intro i hi
    simp only [emptyEntries, hEncode, emptyRecordsResponse, List.getElem_replicate]
  · intro entry hEntry hKey
    obtain rfl := List.eq_of_mem_replicate hEntry
    rcases hKey with hKey | hKey <;> exact absurd hKey (by decide)

/-- The smallest number of records which the counter cannot reach. -/
theorem emptyRecordsResponse_not_parsed :
    Encodes (emptyRecordsResponse 256) (emptyEntries 256) ∧
    ¬ParsesAll 7 (emptyRecordsResponse 256) .new (emptyEntries 256) := by
  refine ⟨encodes_emptyEntries 256 (by decide), fun hAll => ?_⟩
  obtain ⟨-, -, final, -, -, hReturns, -⟩ := hAll
  have hNever := queryInternalInfoCallback_never_returns (emptyEntries 256).length 7
    (emptyRecordsResponse 256) .new (by decide)
  rw [hReturns _ le_rfl] at hNever
  cases hNever

end Mandeye.LivoxClient
