import Mandeye.Interleaving.Contract
import Mandeye.Livox.InternalInfo

/-! The threads which share what is known of the lidars: the watch thread, the
threads on which the SDK calls back, and the recorder. All of them protect
their accesses with `m_lidarInfoMutex`. The SDK decides about each command
whether it is refused, fails in `sendto` or is sent. -/
namespace Mandeye.LivoxClient.WatchThread

open Interleaving

/-- The watch thread, the threads of the SDK, and the recorder. -/
inductive Thread where
  | watch
  | sdk (n : Nat)
  | recorder
  deriving DecidableEq

/-- The two commands which the client sends. -/
inductive Command where
  | queryLivoxLidarInternalInfo
  | setLivoxLidarWorkMode
  deriving DecidableEq

/-- A refused command has no known handle or no handler; nobody is called back. -/
inductive SendOutcome where
  | refused
  | failed
  | sent
  deriving DecidableEq

/-- What the SDK calls back with on one of its own threads. -/
inductive Event where
  | lidarInfoChange (handle : UInt32) (info : Option LivoxLidarInfo)
  | queryInternalInfo (status : Int32) (handle : UInt32)
      (response : Option LivoxLidarDiagInternalInfoResponse)
  | workMode (status : Int32) (handle : UInt32)

/-- The two calls with which the recorder reads about the lidars. -/
inductive Question where
  | getSerialNumberToLidarIdMapping
  | isSynced

/-- The client with its mutex, what the network does to the commands, and what each
SDK thread is called with next. -/
structure Shared where
  client : LivoxClient
  isDone : Bool
  lidarInfoMutex : Option Thread
  network : Command → UInt32 → SendOutcome
  pending : Nat → Option Event
  question : Question

/-- The surroundings: the network, the SDK's events, the recorder's needs and
the end of the process. -/
inductive Move where
  | network (outcome : Command → UInt32 → SendOutcome)
  | deliver (n : Nat) (event : Event)
  | ask (question : Question)
  | done

/-- The statements of these threads. -/
inductive Request where
  | isDone
  | lock
  | unlock
  | handleToSerialNumber
  | findWorkMode (handle : UInt32)
  | setWorkMode (handle : UInt32) (mode : Int32)
  | receiveParam (handle : UInt32) (kv : LivoxLidarKeyValueParam)
  | addLidar (handle : UInt32) (info : LivoxLidarInfo)
  | sendCommand (command : Command) (handle : UInt32)
  | waitForEvent (n : Nat)
  | question
  | getSerialNumberToLidarIdMapping
  | isSynced

/-- And their answers. Whether all lidars are in sync may not have one. -/
abbrev Request.Response : Request → Type
  | .isDone => Bool
  | .handleToSerialNumber => List UInt32
  | .findWorkMode _ => Option Int32
  | .sendCommand _ _ => SendOutcome
  | .waitForEvent _ => Event
  | .question => Question
  | .getSerialNumberToLidarIdMapping => AList fun _ : UInt32 => String
  | .isSynced => Option Bool
  | _ => Unit

/-- A mutex which is taken makes everybody wait, also the thread which holds it. -/
def perform (t : Thread) : (request : Request) → Shared → Outcome Shared request.Response
  | .isDone, s => .returns s.isDone s
  | .lock, s =>
      match s.lidarInfoMutex with
      | none => .returns () { s with lidarInfoMutex := some t }
      | some _ => .blocks
  | .unlock, s => .returns () { s with lidarInfoMutex := none }
  | .handleToSerialNumber, s => .returns (s.client.handleToSerialNumber.entries.map Sigma.fst) s
  | .findWorkMode handle, s => .returns (s.client.livoxLidarWorkMode.lookup handle) s
  | .setWorkMode handle mode, s => .returns () { s with client := s.client.setWorkMode handle mode }
  | .receiveParam handle kv, s => .returns () { s with client := s.client.receiveParam handle kv }
  | .addLidar handle info, s =>
      .returns () { s with client := s.client.lidarInfoChangeCallback handle info }
  | .sendCommand command handle, s => .returns (s.network command handle) s
  | .waitForEvent n, s =>
      match s.pending n with
      | none => .blocks
      | some event => .returns event { s with pending := Function.update s.pending n none }
  | .question, s => .returns s.question s
  | .getSerialNumberToLidarIdMapping, s => .returns s.client.getSerialNumberToLidarIdMapping s
  | .isSynced, s => .returns s.client.isSynced s

/-- A thread of the SDK is given its next event when it has taken the last one. -/
def move : Move → Shared → Option Shared
  | .network outcome, s => some { s with network := outcome }
  | .deliver n event, s =>
      if (s.pending n).isNone then
        some { s with pending := Function.update s.pending n (some event) }
      else none
  | .ask question, s => some { s with question := question }
  | .done, s => some { s with isDone := true }

/-- Code of any of the threads. -/
abbrev Code := Program Request Request.Response

/-- A single statement. -/
abbrev call (request : Request) : Code request.Response := Program.perform request

/-- The scope of a `lock_guard` on the mutex. -/
def lockGuard {Result : Type} (body : Code Result) : Code Result := do
  call .lock
  let result ← body
  call .unlock
  return result

/-- The section which `QueryInternalInfoCallback` executes on any failure. -/
def queryInternalInfoFailed (handle : UInt32) : Code Unit :=
  lockGuard (call (.setWorkMode handle (-1)))

/-- A failing `sendto` makes the SDK call back before the command returns. -/
def queryLivoxLidarInternalInfo (handle : UInt32) : Code Unit := do
  let outcome ← call (.sendCommand .queryLivoxLidarInternalInfo handle)
  .when (outcome = .failed) (queryInternalInfoFailed handle)

/-- `WorkModeCallback` only prints, so nothing is left of it here. -/
def setLivoxLidarWorkMode (handle : UInt32) : Code Unit := do
  let _outcome ← call (.sendCommand .setLivoxLidarWorkMode handle)
  return ()

/-- `kLivoxLidarNormal`. -/
def kLivoxLidarNormal : Int32 := 1

/-- The watch loop's work on one lidar. -/
def watchLidar (handle : UInt32) : Code Unit := do
  queryLivoxLidarInternalInfo handle
  let mode ← call (.findWorkMode handle)
  .when (mode.isSome && mode ≠ some kLivoxLidarNormal) (setLivoxLidarWorkMode handle)

/-- The loop over the lidars. -/
def watchLidars : List UInt32 → Code Unit
  | [] => return ()
  | handle :: rest => do
      watchLidar handle
      watchLidars rest

/-- One round of the watch thread. -/
def testThread : Code (Option Unit) := do
  let isDone ← call .isDone
  if isDone then return none
  lockGuard do
    let handles ← call .handleToSerialNumber
    watchLidars handles
  return some ()

/-- The lidar is woken up and asked before it is entered, so that the mutex is free
meanwhile. -/
def lidarInfoChangeCallback (handle : UInt32) (info : Option LivoxLidarInfo) : Code Unit :=
  match info with
  | none => return ()
  | some info => do
      setLivoxLidarWorkMode handle
      queryLivoxLidarInternalInfo handle
      lockGuard (call (.addLidar handle info))

/-- A response which the callback is walking over. -/
structure Parsing where
  handle : UInt32
  response : LivoxLidarDiagInternalInfoResponse
  loop : QueryLoop

/-- One iteration of the parsing loop. -/
def parse (parsing : Parsing) : Code (Option Parsing) := do
  if parsing.loop.i.toNat < parsing.response.paramNum.toNat then
    let kv := parsing.response.param parsing.loop.off
    .when (kv.key = kKeyWorkMode ∨ kv.key = kKeyTimeSyncType)
      (lockGuard (call (.receiveParam parsing.handle kv)))
    return some { parsing with loop := parsing.loop.advance kv }
  else return none

/-- A failure is dealt with at once; an answer is walked over, record by record. -/
def queryInternalInfoCallback (status : Int32) (handle : UInt32)
    (response : Option LivoxLidarDiagInternalInfoResponse) : Code (Option Parsing) := do
  if status ≠ kLivoxLidarStatusSuccess then
    queryInternalInfoFailed handle
    return none
  else return response.map fun response => ⟨handle, response, .enter⟩

/-- One round of an SDK thread: the next iteration of a parsing loop, or the
next event. -/
def sdkThread (n : Nat) : Option Parsing → Code (Option (Option Parsing))
  | some parsing => some <$> parse parsing
  | none => do
      let event ← call (.waitForEvent n)
      match event with
      | .lidarInfoChange handle info => do
          lidarInfoChangeCallback handle info
          return some none
      | .queryInternalInfo status handle response =>
          some <$> queryInternalInfoCallback status handle response
      | .workMode _ _ => return some none

/-- The recorder asks under the mutex, and again in the next round. -/
def recorder : Code (Option Unit) := do
  match ← call .question with
  | .getSerialNumberToLidarIdMapping => do
      let _ret ← lockGuard (call .getSerialNumberToLidarIdMapping)
      return some ()
  | .isSynced => do
      let _synced ← lockGuard (call .isSynced)
      return some ()

/-- An SDK thread remembers the answer which it is walking over. -/
abbrev Local : Thread → Type
  | .watch => Unit
  | .sdk _ => Option Parsing
  | .recorder => Unit

/-- All threads have the same statements. -/
abbrev Respond (_ : Thread) (request : Request) : Type := request.Response

/-- The threads of the client. -/
def system : System Respond Local Shared Move where
  perform := perform
  move := move
  start
    | .watch => return some ()
    | .sdk _ => return some none
    | .recorder => return some ()
  loop
    | .watch => fun _ => testThread
    | .sdk n => sdkThread n
    | .recorder => fun _ => recorder

end Mandeye.LivoxClient.WatchThread
