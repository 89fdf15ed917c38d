import Mandeye.KeyedTable
import Mandeye.Livox.SdkProtocol

/-! The commands which the host sends to the lidars. A command is registered under its
sequence number, and its callback is called when an acknowledgement of that number comes, or
when the time is up. Several threads send, receive and watch the time. -/
namespace Mandeye.GeneralCommandHandler

open SdkProtocol

/-- Nanoseconds of the steady clock. -/
abbrev TimePoint := Int

/-- Milliseconds, in the unit of the clock. -/
def milliseconds (count : Nat) : TimePoint := count * 1000000

/-- The constants of the protocol. A command has a second to be answered. -/
def kDefaultTimeOut : UInt32 := 1000
def kCommandTypeCmd : UInt8 := 0
def kCommandTypeAck : UInt8 := 1
def kHostSend : UInt8 := 0
def kCommandIDLidarSearch : UInt16 := 0x0000
def kCommandIDLidarWorkModeControl : UInt16 := 0x0100
def kDetectionPort : UInt16 := 56000
def kPaLidarFaultPort : UInt16 := 10001
def kMaxCommandBufferSize : Nat := 1400
def broadcast : UInt32 := 0xFFFFFFFF
def kLivoxLidarTypeMid360 : UInt8 := 9
def kLivoxLidarTypeIndustrialHAP : UInt8 := 10
def kLivoxLidarTypePA : UInt8 := 16

/-- The counter of the sequence numbers, and how often it was asked. -/
structure GenerateSeq where
  seq : UInt32
  calls : Nat
  counted : seq.toNat = calls % 65535 + 1

namespace GenerateSeq

/-- Nothing has been asked yet. -/
def initial : GenerateSeq := ⟨1, 0, rfl⟩

/-- The numbers go round without zero, which no command has. -/
def getSeq (g : GenerateSeq) : GenerateSeq where
  seq := if g.seq = 65535 then 1 else g.seq + 1
  calls := g.calls + 1
  counted := by
    have hCounted := g.counted
    split
    · rename_i hMax
      rw [hMax] at hCounted
      simp only [UInt32.reduceToNat] at hCounted ⊢
      omega
    · rename_i hMax
      have hBelow : g.seq.toNat ≠ 65535 := fun h => hMax (UInt32.toNat_inj.mp h)
      rw [UInt32.toNat_add, UInt32.toNat_one]
      omega

end GenerateSeq

/-- The packet and the lidar it is for. `issue` tells how many sequence numbers had been
given out, so that it names the command and its callback. -/
structure Command where
  issue : Nat
  packet : CommPacket
  handle : UInt32
  timeOut : UInt32
  numbered : packet.seqNum.toNat = issue % 65535 + 1

/-- The command which gets the number that was drawn last. -/
def GenerateSeq.command (g : GenerateSeq) (cmdId : UInt16) (data : List UInt8)
    (fits : data.length < 2 ^ 16) (handle : UInt32) : Command where
  issue := g.calls
  packet :=
    { protocol := kLidarSdk
      version := kSdkVer
      seqNum := g.seq.toUInt16.toUInt32
      cmdId := cmdId
      cmdType := kCommandTypeCmd
      senderType := kHostSend
      data := data
      fits := fits }
  handle := handle
  timeOut := kDefaultTimeOut
  numbered := by
    rw [UInt16.toNat_toUInt32, UInt32.toNat_toUInt16, ← g.counted]
    have hCounted := g.counted
    omega

theorem fits_nil : ([] : List UInt8).length < 2 ^ 16 := by decide

/-- The data are on the stack of the sender. -/
def Command.withoutData (command : Command) : Command :=
  { command with packet := { command.packet with data := [], fits := fits_nil } }

/-- The kinds of lidars for which there is a handler. -/
inductive CommandHandler where
  | hap
  | mid360
  | pa
  deriving DecidableEq

/-- Which kind of lidar a type is. -/
def CommandHandler.ofType (devType : UInt8) : Option CommandHandler :=
  if devType = kLivoxLidarTypeIndustrialHAP then some .hap
  else if devType = kLivoxLidarTypeMid360 then some .mid360
  else if devType = kLivoxLidarTypePA then some .pa
  else none

/-- What a thread which sends a command does one after the other. Each is under its own
lock, so that other threads may act in between. -/
inductive Action where
  | getLidarCommandHandler
  | addCommand
  | sendto
  | reportFailure
  deriving DecidableEq

/-- The handlers differ in whether they register the command themselves. -/
def CommandHandler.sendCommand : CommandHandler → List Action
  | .hap => [.addCommand, .sendto]
  | .mid360 => [.sendto]
  | .pa => []

/-- The command is registered after the handler has sent it. -/
def sendCommand (cmdHandler : CommandHandler) : List Action :=
  cmdHandler.sendCommand ++ [.addCommand]

/-- The configuration of a lidar is sent by its handler alone. -/
def setLidar : List Action := [.addCommand, .sendto]

/-- A thread in the middle of sending a command. -/
structure Sender where
  command : Command
  todo : List Action

/-- Why a callback is called: a packet came from the lidar of this handle, or the time was
up. -/
inductive Cause where
  | ack (handle : UInt32) (packet : CommPacket)
  | timeout (now : TimePoint)

/-- The callback of a command is called, and why. -/
structure Answer where
  command : Command
  cause : Cause

/-- A command and when its time is up. -/
abbrev Entry := Command × TimePoint

/-- The pending commands, of which no two have the same number. -/
abbrev Commands := KeyedTable fun entry : Entry => entry.1.packet.seqNum

/-- The last fields keep what has happened. A callback which is due is called by the thread
which removed the command. -/
structure State where
  generateSeq : GenerateSeq
  deviceDevType : UInt32 → Option UInt8
  lidarsCommandHandler : UInt8 → Option CommandHandler
  commands : Commands
  senders : List Sender
  due : List Answer
  sent : List (UInt32 × List UInt8)
  answered : List Answer
  failures : List Command
  registered : List (Command × TimePoint)
  replaced : List (Command × Command)
  ignored : List Command

/-- Nothing has been sent. -/
def State.initial : State where
  generateSeq := .initial
  deviceDevType := fun _ => none
  lidarsCommandHandler := fun _ => none
  commands := .empty
  senders := []
  due := []
  sent := []
  answered := []
  failures := []
  registered := []
  replaced := []
  ignored := []

namespace State

/-- A handler is created once. -/
def createCommandHandle (s : State) (devType : UInt8) : State :=
  match s.lidarsCommandHandler devType with
  | some _ => s
  | none =>
      { s with
        lidarsCommandHandler :=
          Function.update s.lidarsCommandHandler devType (CommandHandler.ofType devType) }

/-- The first type which a lidar tells is kept. -/
def setDevType (s : State) (handle : UInt32) (devType : UInt8) : State :=
  match s.deviceDevType handle with
  | some _ => s
  | none =>
      { s with deviceDevType := Function.update s.deviceDevType handle (some devType) }

/-- The handler is found by the type which the lidar has told. -/
def getLidarCommandHandler (s : State) (handle : UInt32) : Option CommandHandler :=
  s.deviceDevType handle >>= s.lidarsCommandHandler

/-- The number is drawn, and the thread goes on with these actions. -/
def issue (s : State) (cmdId : UInt16) (data : List UInt8) (fits : data.length < 2 ^ 16)
    (handle : UInt32) (todo : List Action) : State :=
  let generateSeq := s.generateSeq.getSeq
  { s with
    generateSeq := generateSeq
    senders := s.senders ++ [⟨generateSeq.command cmdId data fits handle, todo⟩] }

/-- The search for lidars draws a number too, but nothing is registered. -/
def detection (s : State) : State :=
  let generateSeq := s.generateSeq.getSeq
  let command := generateSeq.command kCommandIDLidarSearch [] fits_nil broadcast
  { s with
    generateSeq := generateSeq
    sent := s.sent ++ [(broadcast,
      (pack (fun _ => 0) kMaxCommandBufferSize command.packet).getD [])] }

/-- A command replaces the pending one of its number. An answer of the host's own is
not registered. -/
def addCommand (s : State) (command : Command) (now : TimePoint) : State :=
  if command.packet.cmdType = kCommandTypeAck then s
  else
    { s with
      commands := s.commands.put
        (command.withoutData, now + milliseconds command.timeOut.toNat)
      registered := s.registered ++ [(command, now)]
      replaced := s.replaced ++
        (s.commands.find command.packet.seqNum).toList.map fun old => (old.1, command) }

/-- What one action does, and what the thread has to do next because of it. -/
def perform (s : State) (command : Command) (now : TimePoint) (wasSent : Bool) :
    Action → State × List Action
  | .getLidarCommandHandler =>
      (s, ((s.getLidarCommandHandler command.handle).map sendCommand).getD [])
  | .addCommand => (s.addCommand command now, [])
  | .sendto =>
      ({ s with
          sent := s.sent ++ [(command.handle,
            (pack (fun _ => 0) kMaxCommandBufferSize command.packet).getD [])] },
        if wasSent then [] else [.reportFailure])
  | .reportFailure => ({ s with failures := s.failures ++ [command] }, [])

/-- A thread goes on with its next action. -/
def act (s : State) (index : Nat) (now : TimePoint) (wasSent : Bool) : State :=
  match s.senders[index]? with
  | some ⟨command, action :: todo⟩ =>
      let (s', more) := s.perform command now wasSent action
      { s' with senders := s'.senders.set index ⟨command, more ++ todo⟩ }
  | _ => s

/-- The command of this number is taken out, and its callback is due. -/
def acknowledge (s : State) (seq : UInt32) (handle : UInt32) (packet : CommPacket) : State :=
  match s.commands.find seq with
  | none => s
  | some entry =>
      { s with
        commands := s.commands.erase seq
        due := s.due ++ [⟨entry.1, .ack handle packet⟩] }

/-- The handler of this type does nothing with an acknowledgement. -/
def ignore (s : State) (seq : UInt32) : State :=
  match s.commands.find seq with
  | none => s
  | some entry =>
      { s with
        commands := s.commands.erase seq
        ignored := s.ignored ++ [entry.1] }

/-- A datagram from a lidar whose type is not known. -/
def handler (s : State) (handle : UInt32) (lidarPort : UInt16) (buf : Nat → UInt8)
    (bufSize : Nat) : State :=
  if bufSize = 0 then s
  else
    match parseCommStream buf bufSize with
    | none => s
    | some packet =>
        if lidarPort = kDetectionPort ∧ packet.cmdId = kCommandIDLidarSearch then s
        else if packet.cmdType = kCommandTypeAck then
          s.acknowledge packet.seqNum handle packet
        else s

/-- A datagram from a lidar of a known type. The number is cut to 16 bits. -/
def handlerOfType (s : State) (devType : UInt8) (handle : UInt32) (lidarPort : UInt16)
    (buf : Nat → UInt8) (bufSize : Nat) : State :=
  if bufSize = 0 then s
  else if devType = kLivoxLidarTypePA ∧ lidarPort = kPaLidarFaultPort then s
  else
    match parseCommStream buf bufSize with
    | none => s
    | some packet =>
        if lidarPort = kDetectionPort ∧ packet.cmdId = kCommandIDLidarSearch then s
        else
          match s.lidarsCommandHandler devType with
          | none => s
          | some cmdHandler =>
              if packet.cmdType = kCommandTypeAck then
                let seq := packet.seqNum.toUInt16.toUInt32
                if cmdHandler = .pa then s.ignore seq else s.acknowledge seq handle packet
              else s

/-- The commands whose time is up are removed, and their callbacks are due. -/
def commandsHandle (s : State) (now : TimePoint) : State :=
  { s with
    commands := s.commands.keep fun entry => !decide (entry.2 < now)
    due := s.due ++ (s.commands.items.filter fun entry => entry.2 < now).map fun entry =>
      ⟨entry.1, .timeout now⟩ }

/-- A callback which is due is called. -/
def call (s : State) (index : Nat) : State :=
  match s.due[index]? with
  | none => s
  | some answer =>
      { s with due := s.due.eraseIdx index, answered := s.answered ++ [answer] }

end State

/-- What a thread does under a lock. -/
inductive Event where
  | detection
  | createCommandHandle (devType : UInt8)
  | setDevType (handle : UInt32) (devType : UInt8)
  | sendCommand (handle : UInt32) (cmdId : UInt16) (data : List UInt8)
      (fits : data.length < 2 ^ 16)
  | setLidar (handle : UInt32) (data : List UInt8) (fits : data.length < 2 ^ 16)
  | act (index : Nat) (now : TimePoint) (wasSent : Bool)
  | handler (handle : UInt32) (lidarPort : UInt16) (buf : Nat → UInt8) (bufSize : Nat)
  | handlerOfType (devType : UInt8) (handle : UInt32) (lidarPort : UInt16)
      (buf : Nat → UInt8) (bufSize : Nat)
  | onTimer (now : TimePoint)
  | call (index : Nat)

def State.step (s : State) : Event → State
  | .detection => s.detection
  | .createCommandHandle devType => s.createCommandHandle devType
  | .setDevType handle devType => s.setDevType handle devType
  | .sendCommand handle cmdId data fits =>
      s.issue cmdId data fits handle [.getLidarCommandHandler]
  | .setLidar handle data fits =>
      s.issue kCommandIDLidarWorkModeControl data fits handle setLidar
  | .act index now wasSent => s.act index now wasSent
  | .handler handle lidarPort buf bufSize => s.handler handle lidarPort buf bufSize
  | .handlerOfType devType handle lidarPort buf bufSize =>
      s.handlerOfType devType handle lidarPort buf bufSize
  | .onTimer now => s.commandsHandle now
  | .call index => s.call index

/-- The states after any sequence of events. -/
def run (events : List Event) : State := events.foldl State.step .initial

end Mandeye.GeneralCommandHandler
