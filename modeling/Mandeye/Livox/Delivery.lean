import Mandeye.Livox.Client

/-! Points and IMU samples on their way from the packet callbacks to the
recorder. The callbacks hold one mutex each and the recorder holds both, so a
run is the sequence in which the protected sections were executed. -/
namespace Mandeye.LivoxClient

/-- A protected section executed while a log is running. -/
inductive Section where
  | pointCloud (laserId : UInt16) (data : LivoxLidarEthernetPacket)
  | imuData (laserId : UInt16) (data : LivoxLidarEthernetPacket) (millis : UInt64)
  | retrieveData

/-- The client after the sections, with the pairs of pointers returned by the
calls of `retrieveData`. -/
def run (client : LivoxClient) : List Section → LivoxClient × List (Option Nat × Option Nat)
  | [] => (client, [])
  | .pointCloud laserId data :: rest => (client.pointCloudCallback laserId data).run rest
  | .imuData laserId data millis :: rest => (client.imuDataCallback laserId data millis).run rest
  | .retrieveData :: rest =>
      let (batch, client) := client.retrieveData
      let (final, batches) := client.run rest
      (final, batch :: batches)

/-- The points of all packets, in the order in which the callback accepted them. -/
def pointsOf : List Section → List LivoxPoint
  | [] => []
  | .pointCloud laserId data :: rest => acceptedPoints laserId data ++ pointsOf rest
  | .imuData _ _ _ :: rest => pointsOf rest
  | .retrieveData :: rest => pointsOf rest

def imuOf : List Section → List LivoxIMU
  | [] => []
  | .pointCloud _ _ :: rest => imuOf rest
  | .imuData laserId data millis :: rest => acceptedIMU laserId data millis ++ imuOf rest
  | .retrieveData :: rest => imuOf rest

/-- What a section does to the point buffer. -/
def Section.pointAccess : Section → Option (SwapBuffer.Access LivoxPoint)
  | .pointCloud laserId data => some (.append (acceptedPoints laserId data))
  | .imuData _ _ _ => none
  | .retrieveData => some .retrieve

def Section.imuAccess : Section → Option (SwapBuffer.Access LivoxIMU)
  | .pointCloud _ _ => none
  | .imuData laserId data millis => some (.append (acceptedIMU laserId data millis))
  | .retrieveData => some .retrieve

theorem run_bufferLivox (client : LivoxClient) (sections : List Section) :
    (client.run sections).1.bufferLivox =
        (client.bufferLivox.run (sections.filterMap Section.pointAccess)).1 ∧
      (client.run sections).2.map Prod.fst =
        (client.bufferLivox.run (sections.filterMap Section.pointAccess)).2 := by
  induction sections generalizing client with
  | nil => exact ⟨rfl, rfl⟩
  | cons head rest ih =>
      cases head with
      | pointCloud laserId data =>
          simpa [run, Section.pointAccess, SwapBuffer.run] using
            ih (client.pointCloudCallback laserId data)
      | imuData laserId data millis =>
          simpa [run, List.filterMap_cons, Section.pointAccess] using
            ih (client.imuDataCallback laserId data millis)
      | retrieveData =>
          simpa [run, Section.pointAccess, SwapBuffer.run, SwapBuffer.retrieve] using
            ih client.startLog

theorem run_bufferIMU (client : LivoxClient) (sections : List Section) :
    (client.run sections).1.bufferIMU =
        (client.bufferIMU.run (sections.filterMap Section.imuAccess)).1 ∧
      (client.run sections).2.map Prod.snd =
        (client.bufferIMU.run (sections.filterMap Section.imuAccess)).2 := by
  induction sections generalizing client with
  | nil => exact ⟨rfl, rfl⟩
  | cons head rest ih =>
      cases head with
      | pointCloud laserId data =>
          simpa [run, List.filterMap_cons, Section.imuAccess] using
            ih (client.pointCloudCallback laserId data)
      | imuData laserId data millis =>
          simpa [run, Section.imuAccess, SwapBuffer.run] using
            ih (client.imuDataCallback laserId data millis)
      | retrieveData =>
          simpa [run, Section.imuAccess, SwapBuffer.run, SwapBuffer.retrieve] using
            ih client.startLog

theorem appended_pointAccess (sections : List Section) :
    SwapBuffer.appended (sections.filterMap Section.pointAccess) = pointsOf sections := by
  induction sections with
  | nil => rfl
  | cons head rest ih =>
      cases head <;>
        simp [List.filterMap_cons, Section.pointAccess, SwapBuffer.appended, pointsOf, ih]

theorem appended_imuAccess (sections : List Section) :
    SwapBuffer.appended (sections.filterMap Section.imuAccess) = imuOf sections := by
  induction sections with
  | nil => rfl
  | cons head rest ih =>
      cases head <;>
        simp [List.filterMap_cons, Section.imuAccess, SwapBuffer.appended, imuOf, ih]

/-- The batches returned while a log is running, with the live buffer, hold
every accepted point exactly once and in order. -/
theorem run_points (client : LivoxClient) (sections : List Section) :
    (∀ batch ∈ (client.startLog.run sections).2, batch.1 ≠ none) ∧
    ((client.startLog.run sections).2.map fun batch =>
        (client.startLog.run sections).1.bufferLivox.content batch.1).flatten ++
      (client.startLog.run sections).1.bufferLivox.current = pointsOf sections := by
  obtain ⟨hBuffer, hBatches⟩ := run_bufferLivox client.startLog sections
  obtain ⟨-, hPointers, hContent⟩ := SwapBuffer.run_delivers
    (sections.filterMap Section.pointAccess) client.bufferLivox.start_pointer
  rw [← startLog_bufferLivox, ← hBatches, ← hBuffer] at hContent
  rw [← startLog_bufferLivox, ← hBatches] at hPointers
  constructor
  · intro batch hBatch
    obtain ⟨q, hq, -⟩ := hPointers batch.1 (List.mem_map_of_mem hBatch)
    simp [hq]
  · rw [List.map_map, startLog_bufferLivox, SwapBuffer.start_current, List.nil_append,
      appended_pointAccess] at hContent
    exact hContent

/-- The batches returned while a log is running, with the live buffer, hold
every accepted IMU sample exactly once and in order. -/
theorem run_imu (client : LivoxClient) (sections : List Section) :
    (∀ batch ∈ (client.startLog.run sections).2, batch.2 ≠ none) ∧
    ((client.startLog.run sections).2.map fun batch =>
        (client.startLog.run sections).1.bufferIMU.content batch.2).flatten ++
      (client.startLog.run sections).1.bufferIMU.current = imuOf sections := by
  obtain ⟨hBuffer, hBatches⟩ := run_bufferIMU client.startLog sections
  obtain ⟨-, hPointers, hContent⟩ := SwapBuffer.run_delivers
    (sections.filterMap Section.imuAccess) client.bufferIMU.start_pointer
  rw [← startLog_bufferIMU, ← hBatches, ← hBuffer] at hContent
  rw [← startLog_bufferIMU, ← hBatches] at hPointers
  constructor
  · intro batch hBatch
    obtain ⟨q, hq, -⟩ := hPointers batch.2 (List.mem_map_of_mem hBatch)
    simp [hq]
  · rw [List.map_map, startLog_bufferIMU, SwapBuffer.start_current, List.nil_append,
      appended_imuAccess] at hContent
    exact hContent

/-- What a batch holds at the moment of its return, read again at the end. -/
theorem run_batch_fixed (client : LivoxClient) (first second : List Section) :
    let returned := (client.startLog.run first).1
    let final := (client.startLog.run (first ++ .retrieveData :: second)).1
    final.bufferLivox.content returned.retrieveData.1.1 = returned.bufferLivox.current ∧
    final.bufferIMU.content returned.retrieveData.1.2 = returned.bufferIMU.current := by
  dsimp only
  constructor
  · rw [(run_bufferLivox _ _).1, retrieveData_pointers, (run_bufferLivox _ first).1,
      List.filterMap_append]
    exact SwapBuffer.run_content_fixed _ _ client.bufferLivox.start_pointer
  · rw [(run_bufferIMU _ _).1, retrieveData_pointers, (run_bufferIMU _ first).1,
      List.filterMap_append]
    exact SwapBuffer.run_content_fixed _ _ client.bufferIMU.start_pointer

/-- Between one `startLog` and the next `startLog` or `stopLog`, in every order
of the protected sections, nothing is lost, nothing is returned twice, no null
pointer is returned and no returned batch grows afterwards. -/
theorem retrieveData_delivers (client : LivoxClient) (sections : List Section) :
    let final := (client.startLog.run sections).1
    let batches := (client.startLog.run sections).2
    (∀ batch ∈ batches, batch.1 ≠ none ∧ batch.2 ≠ none) ∧
    (batches.map fun batch => final.bufferLivox.content batch.1).flatten ++
      final.bufferLivox.current = pointsOf sections ∧
    (batches.map fun batch => final.bufferIMU.content batch.2).flatten ++
      final.bufferIMU.current = imuOf sections ∧
    ∀ first second, sections = first ++ .retrieveData :: second →
      let returned := (client.startLog.run first).1
      final.bufferLivox.content returned.retrieveData.1.1 = returned.bufferLivox.current ∧
      final.bufferIMU.content returned.retrieveData.1.2 = returned.bufferIMU.current := by
  obtain ⟨hLidar, hPoints⟩ := run_points client sections
  obtain ⟨hImu, hSamples⟩ := run_imu client sections
  refine ⟨fun batch h => ⟨hLidar batch h, hImu batch h⟩, hPoints, hSamples, ?_⟩
  rintro first second rfl
  exact run_batch_fixed client first second

end Mandeye.LivoxClient
