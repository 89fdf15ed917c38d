import Mandeye.Livox.Client
import Mandeye.Rank

/-! Lidar ids in the saved data. A callback looks its lidar up when the packet
arrives, and only later gets hold of the buffer; the list of serial numbers is
made when the chunk has been saved. Announcements come at any time. -/
namespace Mandeye.LivoxClient

/-- Where a sample comes from: the lidar announced under the handle when the
packet arrived, and the serial numbers known at that moment. -/
structure Origin where
  serialNumber : Option String
  known : Finset String

/-- A callback which has looked up its lidar and waits for the buffer. -/
inductive Pending where
  | pointCloud (data : LivoxLidarEthernetPacket)
  | imuData (data : LivoxLidarEthernetPacket) (millis : UInt64)

structure Arrived where
  pending : Pending
  laserId : UInt16
  origin : Origin

/-- What was taken out of the buffers, with the origin of each sample. -/
structure Batch where
  points : List (LivoxPoint × Origin)
  imu : List (LivoxIMU × Origin)

/-- A saved chunk: its samples, the list saved with it, and the client as it
was when the list was made. -/
structure Chunk where
  batch : Batch
  lidarList : AList fun _ : UInt32 => String
  client : LivoxClient

/-- The client with the callbacks under way. The samples in its buffers are
kept a second time, with their origins. -/
structure Recording where
  client : LivoxClient
  arrived : List Arrived
  current : Batch
  retrieved : Option Batch
  saved : List Chunk

namespace Recording

def initial : Recording := ⟨.new, [], ⟨[], []⟩, none, []⟩

inductive Event where
  | lidarInfoChange (handle : UInt32) (info : LivoxLidarInfo)
  | arrive (handle : UInt32) (pending : Pending)
  | enter (i : Nat)
  | startLog
  | stopLog
  | retrieveData
  | getSerialNumberToLidarIdMapping

/-- Samples added to the current batch, if there is a buffer for them. -/
def tagged {Sample : Type} (pointer : Option Nat) (samples : List Sample) (origin : Origin) :
    List (Sample × Origin) :=
  if pointer.isSome then samples.map fun sample => (sample, origin) else []

/-- The protected section of a callback. -/
def enter (r : Recording) (a : Arrived) : Recording :=
  match a.pending with
  | .pointCloud data =>
      { r with
        client := r.client.pointCloudCallback a.laserId data
        current.points := r.current.points ++
          tagged r.client.bufferLivox.pointer (acceptedPoints a.laserId data) a.origin }
  | .imuData data millis =>
      { r with
        client := r.client.imuDataCallback a.laserId data millis
        current.imu := r.current.imu ++
          tagged r.client.bufferIMU.pointer (acceptedIMU a.laserId data millis) a.origin }

def step (r : Recording) : Event → Recording
  | .lidarInfoChange handle info =>
      { r with client := r.client.lidarInfoChangeCallback handle info }
  | .arrive handle pending =>
      let origin := ⟨r.client.handleToSerialNumber.lookup handle, r.client.serialNumbers⟩
      { r with arrived := r.arrived ++ [⟨pending, r.client.handleToLidarId handle, origin⟩] }
  | .enter i =>
      match r.arrived[i]? with
      | none => r
      | some a => { r with arrived := r.arrived.eraseIdx i }.enter a
  | .startLog => { r with client := r.client.startLog, current := ⟨[], []⟩ }
  | .stopLog => { r with client := r.client.stopLog, current := ⟨[], []⟩ }
  | .retrieveData =>
      { r with
        client := r.client.retrieveData.2
        current := ⟨[], []⟩
        retrieved := some r.current }
  | .getSerialNumberToLidarIdMapping =>
      match r.retrieved with
      | none => r
      | some batch =>
          { r with
            retrieved := none
            saved := ⟨batch, r.client.getSerialNumberToLidarIdMapping, r.client⟩ :: r.saved }

def run (r : Recording) (events : List Event) : Recording := events.foldl step r

end Recording

/-- The ids of the samples of a batch, with the origins of the samples. -/
def Batch.ids (batch : Batch) : List (UInt16 × Origin) :=
  batch.points.map (fun sample => (sample.1.laserId, sample.2)) ++
    batch.imu.map fun sample => (sample.1.laserId, sample.2)

/-- The saved list names the lidar of each sample which had been announced. -/
def Chunk.Names (chunk : Chunk) : Prop :=
  ∀ id origin, (id, origin) ∈ chunk.batch.ids → ∀ sn, origin.serialNumber = some sn →
    chunk.lidarList.lookup id.toUInt32 = some sn

/-- The number which becomes the id of a lidar: its position among the serial
numbers, cut to 16 bits. -/
def lidarNumber (client : LivoxClient) (sn : String) : Nat :=
  Rank.rank client.serialNumbers sn % 65536

/-- For each sample of an announced lidar, when the list was made: only a
multiple of 65536 smaller serial numbers had joined since the packet arrived,
and the lidar was still in the table of announced lidars, with no other lidar
of the same number behind it. -/
def Chunk.Undisturbed (chunk : Chunk) : Prop :=
  ∀ id origin, (id, origin) ∈ chunk.batch.ids → ∀ sn, origin.serialNumber = some sn →
    65536 ∣ ((chunk.client.serialNumbers \ origin.known).filter (· < sn)).card ∧
    ∃ earlier entry later, chunk.client.livoxLidarInfo.entries = earlier ++ entry :: later ∧
      entry.2.sn = sn ∧ ∀ other ∈ later,
        chunk.client.lidarNumber other.2.sn = chunk.client.lidarNumber sn → other.2.sn = sn

/-- With no more serial numbers than ids: every smaller serial number had been
known to the sample's packet, and the lidar was still announced. -/
def Chunk.Steady (chunk : Chunk) : Prop :=
  ∀ id origin, (id, origin) ∈ chunk.batch.ids → ∀ sn, origin.serialNumber = some sn →
    (∀ other ∈ chunk.client.serialNumbers, other < sn → other ∈ origin.known) ∧
    ∃ handle, chunk.client.handleToSerialNumber.lookup handle = some sn

/-- The two tables filled by announcements agree, and the set of serial numbers
covers them. -/
structure Announced (client : LivoxClient) : Prop where
  info : ∀ handle, (client.livoxLidarInfo.lookup handle).map LivoxLidarInfo.sn =
    client.handleToSerialNumber.lookup handle
  known : ∀ handle sn, client.handleToSerialNumber.lookup handle = some sn →
    sn ∈ client.serialNumbers

/-- An id is the position of the lidar at the time when its packet arrived. -/
def Marks (client : LivoxClient) (id : UInt16) (origin : Origin) : Prop :=
  origin.known ⊆ client.serialNumbers ∧
  ∀ sn, origin.serialNumber = some sn →
    sn ∈ origin.known ∧ id = UInt16.ofNat (Rank.rank origin.known sn)

theorem Announced.new : Announced .new := by
  constructor
  · intro handle
    rfl
  · intro handle sn h
    cases h

theorem Announced.lidarInfoChangeCallback {client : LivoxClient} (h : Announced client)
    (handle : UInt32) (info : LivoxLidarInfo) :
    Announced (client.lidarInfoChangeCallback handle info) := by
  constructor
  · intro other
    by_cases hOther : other = handle
    · subst hOther
      simp [LivoxClient.lidarInfoChangeCallback]
    · simpa [LivoxClient.lidarInfoChangeCallback, AList.lookup_insert_ne hOther] using h.info other
  · intro other sn hLookup
    by_cases hOther : other = handle
    · subst hOther
      simp only [LivoxClient.lidarInfoChangeCallback, AList.lookup_insert, Option.some.injEq]
        at hLookup
      subst hLookup
      exact Finset.mem_insert_self _ _
    · simp only [LivoxClient.lidarInfoChangeCallback, AList.lookup_insert_ne hOther] at hLookup
      exact Finset.mem_insert_of_mem (h.known other sn hLookup)

theorem Announced.of_same {client client' : LivoxClient} (h : Announced client)
    (hInfo : client'.livoxLidarInfo = client.livoxLidarInfo)
    (hHandle : client'.handleToSerialNumber = client.handleToSerialNumber)
    (hSerial : client'.serialNumbers = client.serialNumbers) : Announced client' := by
  constructor
  · rw [hInfo, hHandle]
    exact h.info
  · rw [hHandle, hSerial]
    exact h.known

/-- The id of a handle which has been announced. -/
theorem Announced.handleToLidarId {client : LivoxClient} (h : Announced client)
    {handle : UInt32} {sn : String}
    (hLookup : client.handleToSerialNumber.lookup handle = some sn) :
    client.handleToLidarId handle = UInt16.ofNat (Rank.rank client.serialNumbers sn) := by
  simp only [LivoxClient.handleToLidarId, hLookup, serialNumberIndex,
    h.known handle sn hLookup, if_true, Rank.rank]

theorem ofNat_eq_iff {a b : Nat} : UInt16.ofNat a = UInt16.ofNat b ↔ a % 65536 = b % 65536 := by
  rw [← UInt16.toNat_inj, UInt16.toNat_ofNat', UInt16.toNat_ofNat']

theorem Announced.handleToSerialNumber {client : LivoxClient} (h : Announced client)
    {entry : Sigma fun _ : UInt32 => LivoxLidarInfo}
    (hEntry : entry ∈ client.livoxLidarInfo.entries) :
    client.handleToSerialNumber.lookup entry.1 = some entry.2.sn := by
  rw [← h.info entry.1, AList.mem_lookup_iff.mpr hEntry]
  rfl

/-- What the saved list says about an id: the last lidar which has it decides. -/
theorem Announced.lookup_mapping {client : LivoxClient} (h : Announced client) (n : Nat)
    (sn : String) :
    client.getSerialNumberToLidarIdMapping.lookup (UInt16.ofNat n).toUInt32 = some sn ↔
      ∃ earlier entry later, client.livoxLidarInfo.entries = earlier ++ entry :: later ∧
        client.lidarNumber entry.2.sn = n % 65536 ∧ entry.2.sn = sn ∧
        ∀ other ∈ later, client.lidarNumber other.2.sn = n % 65536 → other.2.sn = sn := by
  have hKey : ∀ entry ∈ client.livoxLidarInfo.entries,
      ((client.handleToLidarId entry.1).toUInt32 = (UInt16.ofNat n).toUInt32 ↔
        client.lidarNumber entry.2.sn = n % 65536) := by
    intro entry hEntry
    rw [UInt16.toUInt32_inj, h.handleToLidarId (h.handleToSerialNumber hEntry), ofNat_eq_iff,
      lidarNumber]
  refine (Rank.lookup_table _ _ client.livoxLidarInfo.entries _ sn).trans ?_
  constructor
  · rintro ⟨earlier, entry, later, hEntries, hEntry, hSn, hLater⟩
    refine ⟨earlier, entry, later, hEntries, (hKey entry (by simp [hEntries])).mp hEntry, hSn, ?_⟩
    intro other hOther hNumber
    exact hLater other hOther ((hKey other (by simp [hEntries, hOther])).mpr hNumber)
  · rintro ⟨earlier, entry, later, hEntries, hEntry, hSn, hLater⟩
    refine ⟨earlier, entry, later, hEntries, (hKey entry (by simp [hEntries])).mpr hEntry, hSn, ?_⟩
    intro other hOther hSame
    exact hLater other hOther ((hKey other (by simp [hEntries, hOther])).mp hSame)

/-- What two clients know about the lidars is the same. -/
structure SameLidars (client client' : LivoxClient) : Prop where
  info : client'.livoxLidarInfo = client.livoxLidarInfo
  handle : client'.handleToSerialNumber = client.handleToSerialNumber
  serial : client'.serialNumbers = client.serialNumbers

theorem pointCloudCallback_sameLidars (client : LivoxClient) (laserId : UInt16)
    (data : LivoxLidarEthernetPacket) :
    SameLidars client (client.pointCloudCallback laserId data) := by
  unfold pointCloudCallback
  split_ifs <;> exact ⟨rfl, rfl, rfl⟩

theorem imuDataCallback_sameLidars (client : LivoxClient) (laserId : UInt16)
    (data : LivoxLidarEthernetPacket) (millis : UInt64) :
    SameLidars client (client.imuDataCallback laserId data millis) := by
  unfold imuDataCallback
  split_ifs <;> exact ⟨rfl, rfl, rfl⟩

theorem laserId_of_mem_acceptedPoints {laserId : UInt16} {data : LivoxLidarEthernetPacket}
    {point : LivoxPoint} (h : point ∈ acceptedPoints laserId data) : point.laserId = laserId := by
  unfold acceptedPoints at h
  split_ifs at h
  · obtain ⟨i, -, rfl⟩ := List.mem_map.mp (List.mem_filter.mp h).1
    rfl
  · cases h

theorem laserId_of_mem_acceptedIMU {laserId : UInt16} {data : LivoxLidarEthernetPacket}
    {millis : UInt64} {sample : LivoxIMU} (h : sample ∈ acceptedIMU laserId data millis) :
    sample.laserId = laserId := by
  unfold acceptedIMU at h
  split_ifs at h
  · rw [List.mem_singleton.mp h]
  · cases h

/-- Every sample of the batch carries the position of its lidar. -/
def Batch.Marked (client : LivoxClient) (batch : Batch) : Prop :=
  ∀ id origin, (id, origin) ∈ batch.ids → Marks client id origin

theorem Marks.mono {client client' : LivoxClient} {id : UInt16} {origin : Origin}
    (h : Marks client id origin) (hSubset : client.serialNumbers ⊆ client'.serialNumbers) :
    Marks client' id origin :=
  ⟨h.1.trans hSubset, h.2⟩

theorem Batch.Marked.mono {client client' : LivoxClient} {batch : Batch}
    (h : batch.Marked client) (hSubset : client.serialNumbers ⊆ client'.serialNumbers) :
    batch.Marked client' :=
  fun id origin hMem => (h id origin hMem).mono hSubset

theorem Batch.Marked.empty (client : LivoxClient) : Batch.Marked client ⟨[], []⟩ := by
  intro id origin h
  cases h

theorem mem_tagged {Sample : Type} {pointer : Option Nat} {samples : List Sample}
    {origin : Origin} {tag : Sample × Origin}
    (h : tag ∈ Recording.tagged pointer samples origin) : tag.1 ∈ samples ∧ tag.2 = origin := by
  unfold Recording.tagged at h
  split_ifs at h
  · obtain ⟨sample, hSample, rfl⟩ := List.mem_map.mp h
    exact ⟨hSample, rfl⟩
  · cases h

theorem Batch.Marked.add_points {client : LivoxClient} {batch : Batch}
    (h : batch.Marked client) {laserId : UInt16} {origin : Origin}
    (hMarks : Marks client laserId origin) (data : LivoxLidarEthernetPacket)
    (pointer : Option Nat) :
    Batch.Marked client { batch with
      points := batch.points ++
        Recording.tagged pointer (acceptedPoints laserId data) origin } := by
  intro id other hMem
  simp only [Batch.ids, List.map_append, List.mem_append] at hMem
  rcases hMem with (hMem | hMem) | hMem
  · exact h id other (List.mem_append_left _ hMem)
  · obtain ⟨tag, hTag, hEq⟩ := List.mem_map.mp hMem
    obtain ⟨hSample, hOrigin⟩ := mem_tagged hTag
    cases hEq
    rwa [laserId_of_mem_acceptedPoints hSample, hOrigin]
  · exact h id other (List.mem_append_right _ hMem)

theorem Batch.Marked.add_imu {client : LivoxClient} {batch : Batch}
    (h : batch.Marked client) {laserId : UInt16} {origin : Origin}
    (hMarks : Marks client laserId origin) (data : LivoxLidarEthernetPacket) (millis : UInt64)
    (pointer : Option Nat) :
    Batch.Marked client { batch with
      imu := batch.imu ++
        Recording.tagged pointer (acceptedIMU laserId data millis) origin } := by
  intro id other hMem
  simp only [Batch.ids, List.map_append, List.mem_append] at hMem
  rcases hMem with hMem | hMem | hMem
  · exact h id other (List.mem_append_left _ hMem)
  · exact h id other (List.mem_append_right _ hMem)
  · obtain ⟨tag, hTag, hEq⟩ := List.mem_map.mp hMem
    obtain ⟨hSample, hOrigin⟩ := mem_tagged hTag
    cases hEq
    rwa [laserId_of_mem_acceptedIMU hSample, hOrigin]

namespace Recording

/-- What holds at every moment of a recording. -/
structure Sound (r : Recording) : Prop where
  announced : Announced r.client
  arrived : ∀ a ∈ r.arrived, Marks r.client a.laserId a.origin
  current : r.current.Marked r.client
  retrieved : ∀ batch, r.retrieved = some batch → batch.Marked r.client
  saved : ∀ chunk ∈ r.saved, Announced chunk.client ∧
    chunk.lidarList = chunk.client.getSerialNumberToLidarIdMapping ∧
    chunk.batch.Marked chunk.client

theorem Sound.initial : Sound initial :=
  ⟨.new, nofun, .empty _, nofun, nofun⟩

theorem Sound.lidarInfoChange {r : Recording} (h : r.Sound) (handle : UInt32)
    (info : LivoxLidarInfo) : (r.step (.lidarInfoChange handle info)).Sound := by
  have hSubset : r.client.serialNumbers ⊆
      (r.client.lidarInfoChangeCallback handle info).serialNumbers := Finset.subset_insert _ _
  exact ⟨h.announced.lidarInfoChangeCallback handle info,
    fun a ha => (h.arrived a ha).mono hSubset, h.current.mono hSubset,
    fun batch hBatch => (h.retrieved batch hBatch).mono hSubset, h.saved⟩

/-- A change of the client which leaves the lidars alone. -/
theorem Sound.of_sameLidars {r : Recording} (h : r.Sound) (client : LivoxClient)
    (hSame : SameLidars r.client client) {current : Batch} (hCurrent : current.Marked r.client) :
    Sound { r with client := client, current := current } := by
  have hSubset : r.client.serialNumbers ⊆ client.serialNumbers := hSame.serial.ge
  exact ⟨h.announced.of_same hSame.info hSame.handle hSame.serial,
    fun a ha => (h.arrived a ha).mono hSubset, hCurrent.mono hSubset,
    fun batch hBatch => (h.retrieved batch hBatch).mono hSubset, h.saved⟩

theorem Sound.enter {r : Recording} (h : r.Sound) {a : Arrived}
    (ha : Marks r.client a.laserId a.origin) : (r.enter a).Sound := by
  unfold Recording.enter
  split
  · exact h.of_sameLidars _ (pointCloudCallback_sameLidars _ _ _) (h.current.add_points ha _ _)
  · exact h.of_sameLidars _ (imuDataCallback_sameLidars _ _ _ _) (h.current.add_imu ha _ _ _)

theorem Sound.arrive {r : Recording} (h : r.Sound) (handle : UInt32) (pending : Pending) :
    (r.step (.arrive handle pending)).Sound := by
  refine ⟨h.announced, ?_, h.current, h.retrieved, h.saved⟩
  intro a ha
  rcases List.mem_append.mp ha with ha | ha
  · exact h.arrived a ha
  · rw [List.mem_singleton.mp ha]
    exact ⟨subset_rfl, fun sn hLookup =>
      ⟨h.announced.known handle sn hLookup, h.announced.handleToLidarId hLookup⟩⟩

theorem Sound.step {r : Recording} (h : r.Sound) (event : Event) : (r.step event).Sound := by
  cases event with
  | lidarInfoChange handle info => exact h.lidarInfoChange handle info
  | arrive handle pending => exact h.arrive handle pending
  | enter i =>
      simp only [Recording.step]
      split
      · exact h
      · rename_i a ha
        have hRest : Sound { r with arrived := r.arrived.eraseIdx i } :=
          ⟨h.announced, fun other hOther => h.arrived other (List.mem_of_mem_eraseIdx hOther),
            h.current, h.retrieved, h.saved⟩
        exact hRest.enter (h.arrived a (List.mem_of_getElem? ha))
  | startLog => exact h.of_sameLidars r.client.startLog ⟨rfl, rfl, rfl⟩ (.empty _)
  | stopLog => exact h.of_sameLidars r.client.stopLog ⟨rfl, rfl, rfl⟩ (.empty _)
  | retrieveData =>
      have hRetrieved : Sound { r with retrieved := some r.current } := by
        refine ⟨h.announced, h.arrived, h.current, ?_, h.saved⟩
        rintro batch ⟨⟩
        exact h.current
      exact hRetrieved.of_sameLidars r.client.retrieveData.2 ⟨rfl, rfl, rfl⟩ (.empty _)
  | getSerialNumberToLidarIdMapping =>
      simp only [Recording.step]
      split
      · exact h
      · rename_i batch hBatch
        refine ⟨h.announced, h.arrived, h.current, nofun, ?_⟩
        intro chunk hChunk
        rcases List.mem_cons.mp hChunk with rfl | hChunk
        · exact ⟨h.announced, rfl, h.retrieved batch hBatch⟩
        · exact h.saved chunk hChunk

theorem Sound.run {r : Recording} (h : r.Sound) (events : List Event) : (r.run events).Sound := by
  induction events generalizing r with
  | nil => exact h
  | cons event rest ih => exact ih (h.step event)

/-- The samples kept with their origins are the content of the buffers. -/
structure Tracks (r : Recording) : Prop where
  points : r.current.points.map Prod.fst = r.client.bufferLivox.current
  imu : r.current.imu.map Prod.fst = r.client.bufferIMU.current

theorem tagged_append {Sample : Type} (buffer : SwapBuffer Sample) (samples : List Sample)
    (origin : Origin) :
    buffer.current ++ (tagged buffer.pointer samples origin).map Prod.fst =
      (buffer.append samples).current := by
  cases hPointer : buffer.pointer with
  | none => simp [tagged, SwapBuffer.append_of_none samples hPointer]
  | some p =>
      rw [SwapBuffer.append_current samples hPointer]
      simp [tagged, Function.comp_def]

theorem Tracks.enter {r : Recording} (h : r.Tracks) (a : Arrived) : (r.enter a).Tracks := by
  unfold Recording.enter
  split
  · refine ⟨?_, by simpa using h.imu⟩
    rw [List.map_append, h.points, tagged_append, pointCloudCallback_bufferLivox]
  · refine ⟨by simpa using h.points, ?_⟩
    rw [List.map_append, h.imu, tagged_append, imuDataCallback_bufferIMU]

theorem Tracks.step {r : Recording} (h : r.Tracks) (event : Event) : (r.step event).Tracks := by
  cases event with
  | lidarInfoChange handle info => exact ⟨h.points, h.imu⟩
  | arrive handle pending => exact ⟨h.points, h.imu⟩
  | enter i =>
      simp only [Recording.step]
      split
      · exact h
      · rename_i a ha
        have hRest : Tracks { r with arrived := r.arrived.eraseIdx i } := ⟨h.points, h.imu⟩
        exact hRest.enter a
  | startLog => exact ⟨by simp [Recording.step], by simp [Recording.step]⟩
  | stopLog => exact ⟨by simp [Recording.step], by simp [Recording.step]⟩
  | retrieveData => exact ⟨by simp [Recording.step], by simp [Recording.step]⟩
  | getSerialNumberToLidarIdMapping =>
      simp only [Recording.step]
      split
      · exact h
      · exact ⟨h.points, h.imu⟩

theorem Tracks.run {r : Recording} (h : r.Tracks) (events : List Event) :
    (r.run events).Tracks := by
  induction events generalizing r with
  | nil => exact h
  | cons event rest ih => exact ih (h.step event)

/-- The samples whose origins are followed are those in the client's buffers. -/
theorem run_tracks (events : List Event) : (initial.run events).Tracks :=
  Tracks.run ⟨rfl, rfl⟩ events

end Recording

/-- The list saved with a chunk names the lidars of its samples exactly when
nothing which would move them was announced in between. -/
theorem saved_names_iff (events : List Recording.Event) {chunk : Chunk}
    (hChunk : chunk ∈ (Recording.initial.run events).saved) :
    chunk.Names ↔ chunk.Undisturbed := by
  obtain ⟨hAnnounced, hList, hMarked⟩ := (Recording.Sound.initial.run events).saved chunk hChunk
  refine forall_congr' fun id => forall_congr' fun origin => forall_congr' fun hMem =>
    forall_congr' fun sn => forall_congr' fun hSerial => ?_
  obtain ⟨hKnown, hMarks⟩ := hMarked id origin hMem
  obtain ⟨-, rfl⟩ := hMarks sn hSerial
  have hMoved := Rank.rank_add_card (a := sn) hKnown
  have hNumber : chunk.client.lidarNumber sn = Rank.rank origin.known sn % 65536 ↔
      65536 ∣ ((chunk.client.serialNumbers \ origin.known).filter (· < sn)).card := by
    rw [lidarNumber]
    omega
  rw [hList, hAnnounced.lookup_mapping]
  constructor
  · rintro ⟨earlier, entry, later, hEntries, hEntry, rfl, hLater⟩
    refine ⟨hNumber.mp hEntry, earlier, entry, later, hEntries, rfl, ?_⟩
    rwa [hEntry]
  · rintro ⟨hJoined, earlier, entry, later, hEntries, rfl, hLater⟩
    have hEntry := hNumber.mpr hJoined
    refine ⟨earlier, entry, later, hEntries, hEntry, rfl, ?_⟩
    rwa [hEntry] at hLater

/-- With no more serial numbers than ids no two lidars share a number, and a
multiple of 65536 new serial numbers is none. -/
theorem undisturbed_iff_steady (events : List Recording.Event) {chunk : Chunk}
    (hChunk : chunk ∈ (Recording.initial.run events).saved)
    (hCard : chunk.client.serialNumbers.card ≤ 65536) : chunk.Undisturbed ↔ chunk.Steady := by
  obtain ⟨hAnnounced, -, hMarked⟩ := (Recording.Sound.initial.run events).saved chunk hChunk
  refine forall_congr' fun id => forall_congr' fun origin => forall_congr' fun hMem =>
    forall_congr' fun sn => forall_congr' fun hSerial => ?_
  obtain ⟨hKnown, hMarks⟩ := hMarked id origin hMem
  have hSn : sn ∈ chunk.client.serialNumbers := hKnown (hMarks sn hSerial).1
  have hLt : ∀ other ∈ chunk.client.serialNumbers,
      Rank.rank chunk.client.serialNumbers other < 65536 :=
    fun other hOther => (Rank.rank_lt_card hOther).trans_le hCard
  apply and_congr
  · have hMoved := Rank.rank_add_card (a := sn) hKnown
    have hFew := hLt sn hSn
    have hNone : 65536 ∣ ((chunk.client.serialNumbers \ origin.known).filter (· < sn)).card ↔
        ((chunk.client.serialNumbers \ origin.known).filter (· < sn)).card = 0 := by
      omega
    rw [hNone, Finset.card_eq_zero, Finset.filter_eq_empty_iff]
    constructor
    · intro hNew other hOther hSmaller
      by_contra hUnknown
      exact hNew (Finset.mem_sdiff.mpr ⟨hOther, hUnknown⟩) hSmaller
    · intro hOld other hOther hSmaller
      obtain ⟨hOther, hUnknown⟩ := Finset.mem_sdiff.mp hOther
      exact hUnknown (hOld other hOther hSmaller)
  · constructor
    · rintro ⟨earlier, entry, later, hEntries, rfl, -⟩
      exact ⟨entry.1, hAnnounced.handleToSerialNumber (by simp [hEntries])⟩
    · rintro ⟨handle, hHandle⟩
      have hInfo := hAnnounced.info handle
      rw [hHandle] at hInfo
      obtain ⟨info, hLookup, rfl⟩ := Option.map_eq_some_iff.mp hInfo
      obtain ⟨earlier, later, hEntries⟩ := List.append_of_mem (AList.mem_lookup_iff.mp hLookup)
      refine ⟨earlier, ⟨handle, info⟩, later, hEntries, rfl, fun other hOther hNumber => ?_⟩
      have hOtherSn : other.2.sn ∈ chunk.client.serialNumbers :=
        hAnnounced.known other.1 other.2.sn
          (hAnnounced.handleToSerialNumber (by simp [hEntries, hOther]))
      refine Rank.rank_injOn hOtherSn hSn ?_
      rwa [lidarNumber, lidarNumber, Nat.mod_eq_of_lt (hLt _ hOtherSn),
        Nat.mod_eq_of_lt (hLt _ hSn)] at hNumber

/-- A sample of the lidar with the given serial number is recorded; then, maybe,
another lidar is announced before the chunk is closed. -/
def chunkEvents (sn : String) (joining : List String) : List Recording.Event :=
  [.lidarInfoChange 2 ⟨9, sn, "192.168.1.102"⟩, .startLog, .arrive 2 (.imuData imuSample 0),
      .enter 0] ++
    joining.map (fun other => .lidarInfoChange 1 ⟨9, other, "192.168.1.101"⟩) ++
    [.retrieveData, .getSerialNumberToLidarIdMapping]
where
  imuSample : LivoxLidarEthernetPacket :=
    ⟨0, 1, kLivoxLidarImuData, 5, fun _ => ⟨0, 0, 0, 0, 0⟩, ⟨0, 0, 0, 0, 0, 0⟩⟩

theorem saved_names_larger :
    ∃ chunk, chunk ∈ (Recording.initial.run (chunkEvents "A" ["B"])).saved ∧
    chunk.batch.imu.length = 1 ∧ chunk.Names := by
  refine ⟨_, List.mem_singleton_self _, rfl,
    (saved_names_iff (chunkEvents "A" ["B"]) (List.mem_singleton_self _)).mpr ?_⟩
  refine (undisturbed_iff_steady (chunkEvents "A" ["B"]) (List.mem_singleton_self _)
    (by decide)).mpr ?_
  intro id origin hMem sn hSerial
  obtain ⟨rfl, rfl⟩ := Prod.mk.inj (List.mem_singleton.mp hMem)
  cases hSerial
  exact ⟨by decide, 2, rfl⟩

/-- The sample was taken by the lidar `B` and the list says `A`. -/
theorem saved_misnames_smaller :
    ∃ chunk, chunk ∈ (Recording.initial.run (chunkEvents "B" ["A"])).saved ∧ ¬chunk.Names := by
  refine ⟨_, List.mem_singleton_self _, fun hNames => ?_⟩
  have hLookup := hNames 0 ⟨some "B", {"B"}⟩ (List.mem_singleton_self _) "B" rfl
  revert hLookup
  decide

end Mandeye.LivoxClient
