import Mathlib.Algebra.Order.Group.Multiset
import Mathlib.Data.List.Perm.Basic
import Mathlib.Data.Nat.ModEq
import Mathlib.Tactic.Abel
import Mandeye.Livox.Commands

/-! Every command which was registered is answered, due, replaced, ignored or pending, and no
registration is in two of these places. -/
namespace Mandeye.GeneralCommandHandler

open SdkProtocol LittleEndian

/-- Commands of the same number lie a multiple of 65535 numbers apart. -/
theorem Command.modEq_of_seqNum_eq {first second : Command}
    (h : first.packet.seqNum = second.packet.seqNum) :
    first.issue ≡ second.issue [MOD 65535] := by
  have hFirst := first.numbered
  have hSecond := second.numbered
  rw [h] at hFirst
  unfold Nat.ModEq
  omega

/-- A number fits 16 bits, so nothing is lost when it is cut. -/
theorem Command.toUInt16_seqNum (command : Command) :
    command.packet.seqNum.toUInt16.toUInt32 = command.packet.seqNum := by
  have hNumbered := command.numbered
  rw [← UInt32.toNat_inj, UInt16.toNat_toUInt32, UInt32.toNat_toUInt16]
  omega

/-- The entry was made when the command was registered. -/
def Registered (registered : List (Command × TimePoint)) (entry : Entry) : Prop :=
  ∃ registration ∈ registered, entry.1 = registration.1.withoutData ∧
    entry.2 = registration.2 + milliseconds registration.1.timeOut.toNat

/-- The callback is called for an acknowledgement of the number or because the time of a
registration is up. -/
def Caused (registered : List (Command × TimePoint)) (answer : Answer) : Prop :=
  match answer.cause with
  | .ack _ packet =>
      packet.cmdType = kCommandTypeAck ∧
        packet.seqNum.toUInt16.toUInt32 = answer.command.packet.seqNum
  | .timeout now =>
      ∃ registration ∈ registered, answer.command = registration.1.withoutData ∧
        registration.2 + milliseconds registration.1.timeOut.toNat < now

section Monotone

variable {registered registered' : List (Command × TimePoint)}

/-- What has been registered remains so. -/
theorem Registered.mono {entry : Entry} (h : registered ⊆ registered')
    (hEntry : Registered registered entry) : Registered registered' entry := by
  obtain ⟨registration, hMem, hEq⟩ := hEntry
  exact ⟨registration, h hMem, hEq⟩

/-- A cause remains one when more commands are registered. -/
theorem Caused.mono {answer : Answer} (h : registered ⊆ registered')
    (hAnswer : Caused registered answer) : Caused registered' answer := by
  unfold Caused at hAnswer ⊢
  split at hAnswer
  · exact hAnswer
  · obtain ⟨registration, hMem, hEq⟩ := hAnswer
    exact ⟨registration, h hMem, hEq⟩

end Monotone

/-- The numbers of the commands which are pending. -/
def Commands.issues (commands : Commands) : Multiset Nat :=
  commands.contents.map fun entry => entry.1.issue

namespace Commands

/-- A new command is counted, and the one which it replaces is not any more. -/
theorem issues_put (commands : Commands) (entry : Entry) :
    commands.issues + {entry.1.issue} =
      ↑((commands.find entry.1.packet.seqNum).toList.map fun old => old.1.issue) +
        Commands.issues (commands.put entry) := by
  have hPut := congrArg (Multiset.map fun entry : Entry => entry.1.issue)
    (commands.contents_put entry)
  rw [Multiset.map_cons, Multiset.map_add, Multiset.map_coe] at hPut
  rw [add_comm, Multiset.singleton_add]
  exact hPut

/-- A command which is taken out is counted once. -/
theorem issues_erase {commands : Commands} {seq : UInt32} {entry : Entry}
    (h : commands.find seq = some entry) :
    commands.issues = {entry.1.issue} + Commands.issues (commands.erase seq) := by
  have hErase := congrArg (Multiset.map fun entry : Entry => entry.1.issue)
    (commands.contents_erase seq)
  rw [h, Option.toList_some, Multiset.coe_singleton, Multiset.map_add,
    Multiset.map_singleton] at hErase
  exact hErase

/-- Those whose time is up are counted apart from the others. -/
theorem issues_keep (commands : Commands) (p : Entry → Bool) :
    commands.issues =
      ↑((commands.items.filter fun entry => !p entry).map fun entry => entry.1.issue) +
        Commands.issues (commands.keep p) := by
  have hKeep := congrArg (Multiset.map fun entry : Entry => entry.1.issue)
    (commands.contents_keep p)
  rw [Multiset.map_add, Multiset.map_coe] at hKeep
  exact hKeep

end Commands

namespace State

/-- The registrations by the number of their command. -/
def registrations (s : State) : Multiset Nat := s.registered.map fun r => r.1.issue

/-- What has become of the registrations. -/
def outcomes (s : State) : Multiset Nat :=
  ↑(s.answered.map fun a => a.command.issue) + ↑(s.due.map fun a => a.command.issue) +
    ↑(s.replaced.map fun pair => pair.1.issue) + ↑(s.ignored.map fun c => c.issue) +
    s.commands.issues

/-- The registrations are balanced by what has become of them. -/
structure Accounted (s : State) : Prop where
  balanced : s.registrations = s.outcomes
  replaced : ∀ pair ∈ s.replaced, pair.1.packet.seqNum = pair.2.packet.seqNum
  pending : ∀ entry ∈ s.commands.items, Registered s.registered entry
  caused : ∀ answer ∈ s.due ++ s.answered, Caused s.registered answer

variable {s : State} {command : Command} {now : TimePoint}

/-- There is nothing to account for at first. -/
theorem accounted_initial : initial.Accounted :=
  ⟨rfl, nofun, nofun, nofun⟩

/-- A command which is registered is pending, and one which it replaces is listed. -/
theorem Accounted.addCommand (h : s.Accounted) : (s.addCommand command now).Accounted := by
  unfold State.addCommand
  split
  · exact h
  · have hSubset : s.registered ⊆ s.registered ++ [(command, now)] :=
      List.subset_append_left _ _
    refine ⟨?_, ?_, ?_, ?_⟩
    · have hPut : s.commands.issues + {command.issue} = _ := s.commands.issues_put
        (command.withoutData, now + milliseconds command.timeOut.toNat)
      have hBalanced := h.balanced
      simp only [registrations, outcomes, List.map_append, List.map_cons, List.map_nil,
        ← Multiset.coe_add, List.map_map, Function.comp_def, Multiset.coe_singleton]
        at hBalanced ⊢
      rw [hBalanced, add_assoc, hPut]
      simp only [Command.withoutData]
      abel
    · intro pair hPair
      rcases List.mem_append.mp hPair with hPair | hPair
      · exact h.replaced pair hPair
      · obtain ⟨old, hOld, rfl⟩ := List.mem_map.mp hPair
        exact (KeyedTable.find_some (Option.mem_toList.mp hOld)).2
    · intro entry hEntry
      rcases KeyedTable.mem_put hEntry with rfl | hEntry
      · exact ⟨(command, now), by simp, rfl, rfl⟩
      · exact (h.pending entry hEntry).mono hSubset
    · exact fun answer hAnswer => (h.caused answer hAnswer).mono hSubset

/-- A command which is acknowledged goes from the pending ones to those which are due. -/
theorem Accounted.acknowledge {seq handle : UInt32} {packet : CommPacket} (h : s.Accounted)
    (hType : packet.cmdType = kCommandTypeAck)
    (hSeq : ∀ entry, s.commands.find seq = some entry →
      packet.seqNum.toUInt16.toUInt32 = seq) :
    (s.acknowledge seq handle packet).Accounted := by
  unfold State.acknowledge
  split
  · exact h
  · rename_i entry hFind
    refine ⟨?_, h.replaced, ?_, ?_⟩
    · have hErase := Commands.issues_erase hFind
      have hBalanced := h.balanced
      simp only [registrations, outcomes, List.map_append, List.map_cons, List.map_nil,
        ← Multiset.coe_add, Multiset.coe_singleton] at hBalanced ⊢
      rw [hBalanced, hErase]
      abel
    · exact fun other hOther => h.pending other (KeyedTable.mem_keep.mp hOther).1
    · intro answer hAnswer
      rcases List.mem_append.mp hAnswer with hAnswer | hAnswer
      · rcases List.mem_append.mp hAnswer with hAnswer | hAnswer
        · exact h.caused answer (List.mem_append_left _ hAnswer)
        · rw [List.mem_singleton.mp hAnswer]
          exact ⟨hType, (hSeq entry hFind).trans (KeyedTable.find_some hFind).2.symm⟩
      · exact h.caused answer (List.mem_append_right _ hAnswer)

/-- For a PA it goes to those which are ignored. -/
theorem Accounted.ignore {seq : UInt32} (h : s.Accounted) : (s.ignore seq).Accounted := by
  unfold State.ignore
  split
  · exact h
  · rename_i entry hFind
    refine ⟨?_, h.replaced, ?_, h.caused⟩
    · have hErase := Commands.issues_erase hFind
      have hBalanced := h.balanced
      simp only [registrations, outcomes, List.map_append, List.map_cons, List.map_nil,
        ← Multiset.coe_add, Multiset.coe_singleton] at hBalanced ⊢
      rw [hBalanced, hErase]
      abel
    · exact fun other hOther => h.pending other (KeyedTable.mem_keep.mp hOther).1

/-- When its time is up it is due for that reason. -/
theorem Accounted.commandsHandle (h : s.Accounted) : (s.commandsHandle now).Accounted := by
  refine ⟨?_, h.replaced, ?_, ?_⟩
  · have hKeep := s.commands.issues_keep fun entry => !decide (entry.2 < now)
    have hBalanced := h.balanced
    simp only [Bool.not_not] at hKeep
    simp only [registrations, outcomes, State.commandsHandle, List.map_append, List.map_map,
      Function.comp_def, ← Multiset.coe_add] at hBalanced ⊢
    rw [hBalanced, hKeep]
    abel
  · exact fun other hOther => h.pending other (KeyedTable.mem_keep.mp hOther).1
  · intro answer hAnswer
    rcases List.mem_append.mp hAnswer with hAnswer | hAnswer
    · rcases List.mem_append.mp hAnswer with hAnswer | hAnswer
      · exact h.caused answer (List.mem_append_left _ hAnswer)
      · obtain ⟨entry, hEntry, rfl⟩ := List.mem_map.mp hAnswer
        obtain ⟨hMem, hLate⟩ := List.mem_filter.mp hEntry
        obtain ⟨registration, hRegistered, hCommand, hTime⟩ := h.pending entry hMem
        refine ⟨registration, hRegistered, hCommand, ?_⟩
        rw [← hTime]
        exact of_decide_eq_true hLate
    · exact h.caused answer (List.mem_append_right _ hAnswer)

/-- A callback is called once. -/
theorem Accounted.call {index : Nat} (h : s.Accounted) : (s.call index).Accounted := by
  unfold State.call
  split
  · exact h
  · rename_i answer hAnswer
    obtain ⟨hIndex, hGet⟩ := List.getElem?_eq_some_iff.mp hAnswer
    have hPerm := List.getElem_cons_eraseIdx_perm hIndex
    rw [hGet] at hPerm
    refine ⟨?_, h.replaced, h.pending, ?_⟩
    · have hDue := Multiset.coe_eq_coe.mpr (hPerm.symm.map fun a => a.command.issue)
      have hBalanced := h.balanced
      simp only [registrations, outcomes, List.map_append, List.map_cons, List.map_nil,
        ← Multiset.coe_add, Multiset.coe_singleton] at hBalanced hDue ⊢
      rw [hBalanced, hDue, ← Multiset.cons_coe, ← Multiset.singleton_add]
      abel
    · intro other hOther
      refine h.caused other ?_
      simp only [List.mem_append, List.mem_singleton] at hOther ⊢
      rcases hOther with hOther | hOther | rfl
      · exact Or.inl (List.mem_of_mem_eraseIdx hOther)
      · exact Or.inr hOther
      · exact Or.inl (List.mem_of_getElem? hAnswer)

/-- The other fields do not matter. -/
theorem Accounted.of_eq {s' : State} (h : s.Accounted) (hCommands : s'.commands = s.commands)
    (hDue : s'.due = s.due) (hAnswered : s'.answered = s.answered)
    (hRegistered : s'.registered = s.registered) (hReplaced : s'.replaced = s.replaced)
    (hIgnored : s'.ignored = s.ignored) : s'.Accounted := by
  refine ⟨?_, ?_, ?_, ?_⟩
  · rw [registrations, outcomes, hCommands, hDue, hAnswered, hRegistered, hReplaced, hIgnored]
    exact h.balanced
  · rw [hReplaced]
    exact h.replaced
  · rw [hCommands, hRegistered]
    exact h.pending
  · rw [hDue, hAnswered, hRegistered]
    exact h.caused

theorem Accounted.perform {wasSent : Bool} {action : Action} (h : s.Accounted) :
    (s.perform command now wasSent action).1.Accounted := by
  cases action with
  | getLidarCommandHandler => exact h
  | addCommand => exact h.addCommand
  | sendto => exact h.of_eq rfl rfl rfl rfl rfl rfl
  | reportFailure => exact h.of_eq rfl rfl rfl rfl rfl rfl

theorem Accounted.act {index : Nat} {wasSent : Bool} (h : s.Accounted) :
    (s.act index now wasSent).Accounted := by
  unfold State.act
  split
  · exact h.perform.of_eq rfl rfl rfl rfl rfl rfl
  · exact h

/-- A number above 16 bits finds nothing. -/
theorem toUInt16_of_find {seq : UInt32} {entry : Entry} (h : s.commands.find seq = some entry) :
    seq.toUInt16.toUInt32 = seq := by
  rw [← (KeyedTable.find_some h).2]
  exact entry.1.toUInt16_seqNum

theorem Accounted.handler {handle : UInt32} {lidarPort : UInt16} {buf : Nat → UInt8}
    {bufSize : Nat} (h : s.Accounted) : (s.handler handle lidarPort buf bufSize).Accounted := by
  unfold State.handler
  split
  · exact h
  · split
    · exact h
    · split
      · exact h
      · split
        · rename_i hType
          exact h.acknowledge hType fun _ => toUInt16_of_find
        · exact h

theorem Accounted.handlerOfType {devType : UInt8} {handle : UInt32} {lidarPort : UInt16}
    {buf : Nat → UInt8} {bufSize : Nat} (h : s.Accounted) :
    (s.handlerOfType devType handle lidarPort buf bufSize).Accounted := by
  unfold State.handlerOfType
  split
  · exact h
  · split
    · exact h
    · split
      · exact h
      · split
        · exact h
        · split
          · exact h
          · split
            · rename_i hType
              dsimp only
              split
              · exact h.ignore
              · exact h.acknowledge hType fun _ _ => rfl
            · exact h

/-- No event loses a command or counts it twice. -/
theorem Accounted.step (h : s.Accounted) (event : Event) : (s.step event).Accounted := by
  cases event with
  | detection => exact h.of_eq rfl rfl rfl rfl rfl rfl
  | createCommandHandle devType =>
    rw [State.step, createCommandHandle]
    split
    · exact h
    · exact h.of_eq rfl rfl rfl rfl rfl rfl
  | setDevType handle devType =>
    rw [State.step, setDevType]
    split
    · exact h
    · exact h.of_eq rfl rfl rfl rfl rfl rfl
  | sendCommand handle cmdId data fits => exact h.of_eq rfl rfl rfl rfl rfl rfl
  | setLidar handle data fits => exact h.of_eq rfl rfl rfl rfl rfl rfl
  | act index now wasSent => exact h.act
  | handler handle lidarPort buf bufSize => exact h.handler
  | handlerOfType devType handle lidarPort buf bufSize => exact h.handlerOfType
  | onTimer now => exact h.commandsHandle
  | call index => exact h.call

end State

/-- One more event comes after the others. -/
theorem run_concat (events : List Event) (event : Event) :
    run (events ++ [event]) = (run events).step event :=
  List.foldl_concat _ _ _ _

/-- The books are balanced in every run. -/
theorem accounted_run (events : List Event) : (run events).Accounted := by
  induction events using List.reverseRecOn with
  | nil => exact State.accounted_initial
  | append_singleton events event ih =>
    rw [run_concat]
    exact ih.step event

/-- The command is taken out, and no other is touched. -/
structure Removed (s after : State) (entry : Entry) : Prop where
  others : ∀ other, other ∈ after.commands.items ↔ other ∈ s.commands.items ∧ other ≠ entry
  answered : after.answered = s.answered

/-- The callback of the command is due, with the data of the reply. -/
structure Replied (s after : State) (entry : Entry) (handle : UInt32) (reply : CommPacket) :
    Prop extends Removed s after entry where
  due : ∃ packet : CommPacket, packet.data = reply.data ∧ packet.cmdId = reply.cmdId ∧
    after.due = s.due ++ [⟨entry.1, .ack handle packet⟩]
  ignored : after.ignored = s.ignored

/-- The command is gone without its callback. -/
structure Dropped (s after : State) (entry : Entry) : Prop extends Removed s after entry where
  due : after.due = s.due
  ignored : after.ignored = s.ignored ++ [entry.1]

namespace State

variable {s : State} {entry : Entry} {seq : UInt32}

/-- What the handlers of the HAP and of the Mid360 do with an acknowledgement. -/
theorem replied_acknowledge (handle : UInt32) {packet reply : CommPacket}
    (hFind : s.commands.find seq = some entry) (hData : packet.data = reply.data)
    (hCmdId : packet.cmdId = reply.cmdId) :
    Replied s (s.acknowledge seq handle packet) entry handle reply := by
  rw [acknowledge, hFind]
  exact ⟨⟨fun other => KeyedTable.mem_erase hFind, rfl⟩, ⟨packet, hData, hCmdId, rfl⟩, rfl⟩

/-- What that of the PA does with it. -/
theorem dropped_ignore (hFind : s.commands.find seq = some entry) :
    Dropped s (s.ignore seq) entry := by
  rw [ignore, hFind]
  exact ⟨⟨fun other => KeyedTable.mem_erase hFind, rfl⟩, rfl, rfl⟩

end State

section Replies

variable {entry : Entry} {reply : CommPacket} {bytes : List UInt8} {memory : Nat → UInt8}

/-- A datagram which is an acknowledgement of this command. -/
structure Acknowledges (reply : CommPacket) (memory : Nat → UInt8) (bytes : List UInt8)
    (entry : Entry) : Prop where
  packed : ∃ oBuf oBufSize, pack oBuf oBufSize reply = some bytes
  fits : reply.data.length + 24 < 2 ^ 16
  memory : slice memory 0 bytes.length = bytes
  cmdType : reply.cmdType = kCommandTypeAck
  seqNum : reply.seqNum &&& 0xFFFF = entry.1.packet.seqNum

/-- What the parser makes of the datagram. -/
def received (reply : CommPacket) : CommPacket :=
  { reply with version := kSdkVer, seqNum := reply.seqNum &&& 0xFFFF }

/-- The datagram passes all checks, and its data come back. -/
theorem Acknowledges.parse (h : Acknowledges reply memory bytes entry) :
    bytes.length ≠ 0 ∧ parseCommStream memory bytes.length = some (received reply) := by
  obtain ⟨oBuf, oBufSize, hPack⟩ := h.packed
  have hLong := length_of_pack hPack
  have hSize : 24 ≤ bytes.length := by omega
  constructor
  · omega
  · exact parseCommStream_of_lies (lies_of_pack hPack h.memory) h.fits hSize
      (protocol_of_pack hPack)

/-- A datagram which looks like the answer to a search is not looked up among the commands. -/
def Searched (reply : CommPacket) (lidarPort : UInt16) : Prop :=
  lidarPort = kDetectionPort ∧ reply.cmdId = kCommandIDLidarSearch

instance (reply : CommPacket) (lidarPort : UInt16) : Decidable (Searched reply lidarPort) :=
  inferInstanceAs (Decidable (_ ∧ _))

/-- What the first overload does with such a datagram. -/
theorem Acknowledges.handler_eq (h : Acknowledges reply memory bytes entry) (s : State)
    (handle : UInt32) (lidarPort : UInt16) :
    s.handler handle lidarPort memory bytes.length =
      if Searched reply lidarPort then s
      else s.acknowledge entry.1.packet.seqNum handle (received reply) := by
  obtain ⟨hSome, hParsed⟩ := h.parse
  have hSeq : (received reply).seqNum = entry.1.packet.seqNum := h.seqNum
  have hType : (received reply).cmdType = kCommandTypeAck := h.cmdType
  rw [State.handler, if_neg hSome, hParsed]
  simp only [hSeq, hType, if_true]
  rfl

/-- What the second one does, by the type of the lidar. -/
theorem Acknowledges.handlerOfType_eq (h : Acknowledges reply memory bytes entry) (s : State)
    (devType : UInt8) (handle : UInt32) (lidarPort : UInt16) :
    s.handlerOfType devType handle lidarPort memory bytes.length =
      if devType = kLivoxLidarTypePA ∧ lidarPort = kPaLidarFaultPort then s
      else if Searched reply lidarPort then s
      else match s.lidarsCommandHandler devType with
        | none => s
        | some .pa => s.ignore entry.1.packet.seqNum
        | some _ => s.acknowledge entry.1.packet.seqNum handle (received reply) := by
  obtain ⟨hSome, hParsed⟩ := h.parse
  have hSeq : (received reply).seqNum = entry.1.packet.seqNum := h.seqNum
  have hType : (received reply).cmdType = kCommandTypeAck := h.cmdType
  rw [State.handlerOfType, if_neg hSome, hParsed]
  simp only [hSeq, hType, if_true, entry.1.toUInt16_seqNum]
  congr 1
  change (if Searched reply lidarPort then s else _) = _
  congr 1
  cases s.lidarsCommandHandler devType with
  | none => rfl
  | some cmdHandler => cases cmdHandler <;> rfl

end Replies

/-- An acknowledgement of a pending command comes. If the type of the lidar is not known, or
its handler is that of the HAP or of the Mid360, the callback of this command is due with the
data of the reply. The handler of the PA only takes the command out. Without a handler, on the
port of the faults of a PA, and for what looks like the answer to a search, no command is
touched. -/
theorem reply_answers (events : List Event) (entry : Entry) (reply : CommPacket)
    (memory : Nat → UInt8) (bytes : List UInt8) (handle : UInt32) (lidarPort : UInt16)
    (hPending : entry ∈ (run events).commands.items)
    (hReply : Acknowledges reply memory bytes entry) :
    (let after := run (events ++ [.handler handle lidarPort memory bytes.length])
    if Searched reply lidarPort then after = run events
    else Replied (run events) after entry handle reply) ∧
    ∀ devType,
      let after := run (events ++ [.handlerOfType devType handle lidarPort memory bytes.length])
      if devType = kLivoxLidarTypePA ∧ lidarPort = kPaLidarFaultPort then after = run events
      else if Searched reply lidarPort then after = run events
      else match (run events).lidarsCommandHandler devType with
        | none => after = run events
        | some .pa => Dropped (run events) after entry
        | some _ => Replied (run events) after entry handle reply := by
  have hFind : (run events).commands.find entry.1.packet.seqNum = some entry :=
    KeyedTable.find_of_mem hPending
  have hReplied : Replied (run events) ((run events).acknowledge entry.1.packet.seqNum handle
      (received reply)) entry handle reply :=
    State.replied_acknowledge handle hFind rfl rfl
  constructor
  · have hAfter : run (events ++ [.handler handle lidarPort memory bytes.length]) = _ :=
      (run_concat _ _).trans (hReply.handler_eq (run events) handle lidarPort)
    simp only [hAfter]
    by_cases hSearched : Searched reply lidarPort
    · simp only [if_pos hSearched]
    · simp only [if_neg hSearched]
      exact hReplied
  · intro devType
    have hAfter : run (events ++
        [.handlerOfType devType handle lidarPort memory bytes.length]) = _ :=
      (run_concat _ _).trans (hReply.handlerOfType_eq (run events) devType handle lidarPort)
    simp only [hAfter]
    by_cases hFault : devType = kLivoxLidarTypePA ∧ lidarPort = kPaLidarFaultPort
    · simp only [if_pos hFault]
    · simp only [if_neg hFault]
      by_cases hSearched : Searched reply lidarPort
      · simp only [if_pos hSearched]
      · simp only [if_neg hSearched]
        cases (run events).lidarsCommandHandler devType with
        | none => rfl
        | some cmdHandler =>
          cases cmdHandler with
          | hap => exact hReplied
          | mid360 => exact hReplied
          | pa => exact State.dropped_ignore hFind

/-- The work mode is asked for, sent and then registered. -/
def asking : List Event :=
  [.createCommandHandle kLivoxLidarTypeMid360, .createCommandHandle kLivoxLidarTypePA,
    .setDevType 7 kLivoxLidarTypeMid360, .sendCommand 7 0x0101 [] fits_nil, .act 0 0 true,
    .act 0 0 true, .act 0 0 true]

/-- The command as it is pending. -/
def asked : Entry :=
  ((GenerateSeq.initial.getSeq.command 0x0101 [] fits_nil 7).withoutData, milliseconds 1000)

theorem refusal_fits : ([1] : List UInt8).length < 2 ^ 16 := by decide

/-- The lidar refuses the command, with one byte of data. -/
def refusal : CommPacket := ⟨kLidarSdk, 0, 2, 0x0101, kCommandTypeAck, 1, [1], refusal_fits⟩

/-- The refusal as it is sent. -/
def refusalBytes : List UInt8 :=
  [170, 0, 25, 0, 2, 0, 0, 0, 1, 1, 1, 1, 0, 0, 0, 0, 0, 0, 250, 65, 27, 223, 5, 165, 1]

theorem refusal_packed : pack (fun _ => 0) 1400 refusal = some refusalBytes := by
  decide +kernel

theorem asked_pending : asked ∈ (run asking).commands.items := List.mem_cons_self

theorem refusal_acknowledges : Acknowledges refusal (refusalBytes.getD · 0) refusalBytes asked where
  packed := ⟨_, _, refusal_packed⟩
  fits := by decide
  memory := by decide
  cmdType := rfl
  seqNum := by decide

/-- The same reply, from a lidar whose type is not known, from the Mid360 that was asked, and
from a PA. -/
theorem reply_answers_refusal :
    Replied (run asking) (run (asking ++
      [.handler 7 56100 (refusalBytes.getD · 0) refusalBytes.length])) asked 7 refusal ∧
    Replied (run asking) (run (asking ++ [.handlerOfType kLivoxLidarTypeMid360 7 56100
      (refusalBytes.getD · 0) refusalBytes.length])) asked 7 refusal ∧
    Dropped (run asking) (run (asking ++ [.handlerOfType kLivoxLidarTypePA 7 56100
      (refusalBytes.getD · 0) refusalBytes.length])) asked := by
  obtain ⟨hUnknown, hKnown⟩ := reply_answers asking asked refusal (refusalBytes.getD · 0)
    refusalBytes 7 56100 asked_pending refusal_acknowledges
  exact ⟨hUnknown, hKnown kLivoxLidarTypeMid360, hKnown kLivoxLidarTypePA⟩

end Mandeye.GeneralCommandHandler
