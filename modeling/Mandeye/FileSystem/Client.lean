import Mathlib.Data.Finset.Insert
import Mathlib.Data.List.AList
import Mathlib.Data.String.Basic
import Mandeye.Decimal
import Mandeye.Interleaving.Program

/-! The file system client: the number of the session, kept in a file of the
repository, and the two directories of the session. The code is written over
the single operations on the file system. -/
namespace Mandeye

open Interleaving (Program)

/-- The files and directories of the repository by their paths, and what the
system currently lets the process do there. -/
structure Repository where
  files : AList fun _ : String => String
  directories : Finset String
  writable : Bool
  opens : Bool
  creates : Bool

/-- The operations on the repository. Opening a file for writing creates it or
cuts it to nothing. -/
inductive FileOperation where
  | openForWriting (path : String)
  | write (path text : String)
  | openForReading (path : String)
  | readUInt32 (path : String)
  | access
  | createDirectories (path : String)

/-- Whether the operation succeeds, but for the number which is read and for a write,
whose errors are not looked at. -/
abbrev FileOperation.Response : FileOperation → Type
  | .write _ _ => Unit
  | .readUInt32 _ => UInt32
  | _ => Bool

/-- `create_directories` is also content with a directory which exists. -/
def Repository.handle : (operation : FileOperation) → Repository →
    operation.Response × Repository
  | .openForWriting path, r =>
      if r.opens then (true, { r with files := r.files.insert path "" }) else (false, r)
  | .write path text, r =>
      ((), { r with files := r.files.insert path ((r.files.lookup path).getD "" ++ text) })
  | .openForReading path, r => ((r.files.lookup path).isSome, r)
  | .readUInt32 path, r => (Decimal.readUInt32 ((r.files.lookup path).getD ""), r)
  | .access, r => (r.writable, r)
  | .createDirectories path, r =>
      if r.creates then (true, { r with directories := insert path r.directories })
      else (false, r)

/-- The members of the class. -/
structure FileSystemClient where
  repository : String
  nextId : Int32
  currentContinousScanDirectory : String
  currentStopScanDirectory : String

namespace FileSystemClient

/-- Code over these operations. -/
abbrev Code := Program FileOperation FileOperation.Response

/-- A single operation. -/
abbrev call (operation : FileOperation) : Code operation.Response := Program.perform operation

/-- The two files in the root of the repository. -/
def manifestFilename : String := "mandala_manifest.txt"
def versionFilename : String := "version.txt"

/-- `path / name` for a relative name. -/
def join (path name : String) : String :=
  if path = "" ∨ path.toList.getLast? = some '/' then path ++ name else path ++ "/" ++ name

/-- Where the number of the next session is. -/
def manifestPath (repository : String) : String := join repository manifestFilename

/-- Where the version is. -/
def versionPath (repository : String) : String := join repository versionFilename

/-- The directory of a session for stop scans. -/
def stopScansPath (repository : String) (id : Int) : String :=
  join repository ("stopScans_" ++ Decimal.format04 id)

/-- The directory of a session for continuous scans. -/
def continousScanningPath (repository : String) (id : Int) : String :=
  join repository ("continousScanning_" ++ Decimal.format04 id)

/-- The number is read as far as there is one. A manifest which is not there is made,
and one which cannot be made gives a number below all others. -/
def getIdFromManifest (client : FileSystemClient) : Code Int32 := do
  let versionfn := versionPath client.repository
  let versionOpen ← call (.openForWriting versionfn)
  .when versionOpen (call (.write versionfn "Version 0.6-dev\n"))
  let manifest := manifestPath client.repository
  let readable ← call (.openForReading manifest)
  if readable then
    let id ← call (.readUInt32 manifest)
    return id.toInt32
  else
    let created ← call (.openForWriting manifest)
    if created then
      call (.write manifest "0\n")
      return 0
    else return -1

/-- The number of the next session is stored before this session begins. -/
def getNextIdFromManifest (client : FileSystemClient) : Code (Int32 × FileSystemClient) := do
  let manifest := manifestPath client.repository
  let id ← getIdFromManifest client
  let id := id + 1
  let opened ← call (.openForWriting manifest)
  .when opened (call (.write manifest (toString id.toInt ++ "\n")))
  return (id, { client with nextId := id })

/-- Only the permission is asked for; nothing is written. -/
def getIsWritable : Code Bool := call .access

/-- The path, if the directory is there afterwards. -/
def createDirectory (path : String) : Code (Option String) := do
  let created ← call (.createDirectories path)
  return if created ∧ path ≠ "" then some path else none

/-- The directory for continuous scans has the number which that for stop scans got. -/
def createDirectoryForContinousScanning (client : FileSystemClient) (idManifest : Int32) :
    Code (Option String × FileSystemClient) := do
  let writable ← getIsWritable
  if writable then
    let writableDir ← createDirectory (continousScanningPath client.repository idManifest.toInt)
    return (writableDir,
      { client with
        currentContinousScanDirectory :=
          writableDir.getD client.currentContinousScanDirectory })
  else return (none, client)

/-- The manifest is advanced here, also when the directory cannot be created. -/
def createDirectoryForStopScans (client : FileSystemClient) (idManifest : Int32) :
    Code ((Option String × Int32) × FileSystemClient) := do
  let writable ← getIsWritable
  if writable then
    let (nextId, client) ← getNextIdFromManifest client
    let idManifest := nextId - 1
    let writableDir ← createDirectory (stopScansPath client.repository idManifest.toInt)
    return ((writableDir, idManifest),
      { client with
        currentStopScanDirectory := writableDir.getD client.currentStopScanDirectory })
  else return ((none, idManifest), client)

/-- The constructor. -/
def new (repository : String) : Code FileSystemClient := do
  let client := ⟨repository, 0, "", ""⟩
  let nextId ← getIdFromManifest client
  return { client with nextId := nextId }

/-- Everything the process does on the repository before it records. -/
def startUp (repository : String) : Code (Option String × Option String) := do
  let client ← new repository
  let ((stopScanDirectory, idManifest), client) ← createDirectoryForStopScans client 0
  let (continousScanDirectory, _) ← createDirectoryForContinousScanning client idManifest
  return (stopScanDirectory, continousScanDirectory)

theorem join_injective (path : String) : Function.Injective (join path) := by
  intro a b h
  unfold join at h
  split_ifs at h <;> simpa using h

theorem versionPath_ne_manifestPath (repository : String) :
    versionPath repository ≠ manifestPath repository :=
  fun h => absurd (join_injective repository h) (by decide)

theorem stopScansPath_injective (repository : String) :
    Function.Injective (stopScansPath repository) := by
  intro m n h
  exact Decimal.format04_injective (String.append_right_inj _ |>.mp (join_injective repository h))

theorem continousScanningPath_injective (repository : String) :
    Function.Injective (continousScanningPath repository) := by
  intro m n h
  exact Decimal.format04_injective (String.append_right_inj _ |>.mp (join_injective repository h))

theorem append_ne_of_head {a b : String} {c d : Char} (hc : a.toList.head? = some c)
    (hd : b.toList.head? = some d) (h : c ≠ d) (x y : String) : a ++ x ≠ b ++ y := by
  intro hEq
  have hList := congrArg (fun s : String => s.toList.head?) hEq
  simp only [String.toList_append, List.head?_append, hc, hd, Option.some_or] at hList
  exact h (Option.some.inj hList)

theorem stopScansPath_ne_continousScanningPath (repository : String) (m n : Int) :
    stopScansPath repository m ≠ continousScanningPath repository n := by
  intro h
  have hName := join_injective repository h
  have hS : "stopScans_".toList.head? = some 's' := by decide
  have hC : "continousScanning_".toList.head? = some 'c' := by decide
  exact append_ne_of_head hS hC (by decide) _ _ hName

end FileSystemClient

end Mandeye
