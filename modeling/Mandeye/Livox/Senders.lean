import Mandeye.Livox.Answers

/-! How often a command is registered. The handler of one kind of lidar registers what it
sends, and the caller registers it again; every other command is registered once. -/
namespace Mandeye.GeneralCommandHandler

namespace State

/-- How often a command for this lidar may be registered. -/
def allowance (s : State) (handle : UInt32) : Nat :=
  if s.getLidarCommandHandler handle = some .hap then 2 else 1

/-- How many registrations a thread has before it. -/
def planned (allowance : Nat) (todo : List Action) : Nat :=
  todo.count .getLidarCommandHandler * allowance + todo.count .addCommand

/-- The registrations made and those to come stay within what is allowed. -/
structure Planned (s : State) : Prop where
  distinct : (s.senders.map fun sender => sender.command.issue).Nodup
  drawn : ∀ sender ∈ s.senders, sender.command.issue ≤ s.generateSeq.calls
  known : ∀ registration ∈ s.registered, ∃ sender ∈ s.senders,
    sender.command = registration.1
  bounded : ∀ sender ∈ s.senders,
    s.registrations.count sender.command.issue +
      planned (s.allowance sender.command.handle) sender.todo ≤
        s.allowance sender.command.handle

variable {s s' : State} {command : Command} {now : TimePoint} {wasSent : Bool}

theorem planned_initial : initial.Planned :=
  ⟨List.nodup_nil, nofun, nofun, nofun⟩

/-- Handlers may have been found in the meantime. -/
theorem Planned.of_eq (h : s.Planned) (hSenders : s'.senders = s.senders)
    (hCalls : s.generateSeq.calls ≤ s'.generateSeq.calls)
    (hRegistered : s'.registered = s.registered)
    (hFound : ∀ handle cmdHandler, s.getLidarCommandHandler handle = some cmdHandler →
      s'.getLidarCommandHandler handle = some cmdHandler) : s'.Planned := by
  refine ⟨?_, ?_, ?_, ?_⟩
  · rw [hSenders]
    exact h.distinct
  · rw [hSenders]
    exact fun sender hSender => (h.drawn sender hSender).trans hCalls
  · rw [hRegistered, hSenders]
    exact h.known
  · rw [hSenders]
    intro sender hSender
    have hBounded := h.bounded sender hSender
    rw [registrations, hRegistered]
    change s.registrations.count _ + _ ≤ _
    unfold planned allowance at hBounded ⊢
    have hKept := hFound sender.command.handle .hap
    by_cases hHap : s.getLidarCommandHandler sender.command.handle = some .hap
    · rw [if_pos (hKept hHap)]
      rw [if_pos hHap] at hBounded
      exact hBounded
    · rw [if_neg hHap] at hBounded
      split <;> omega

theorem getLidarCommandHandler_createCommandHandle {devType : UInt8} {handle : UInt32}
    {cmdHandler : CommandHandler} (h : s.getLidarCommandHandler handle = some cmdHandler) :
    (s.createCommandHandle devType).getLidarCommandHandler handle = some cmdHandler := by
  unfold createCommandHandle
  split
  · exact h
  · rename_i hNone
    obtain ⟨found, hFound, hHandler⟩ := Option.bind_eq_some_iff.mp h
    refine Option.bind_eq_some_iff.mpr
      ⟨found, hFound, (Function.update_of_ne ?_ _ _).trans hHandler⟩
    rintro rfl
    rw [hNone] at hHandler
    cases hHandler

theorem getLidarCommandHandler_setDevType {devType : UInt8} {handle other : UInt32}
    {cmdHandler : CommandHandler} (h : s.getLidarCommandHandler handle = some cmdHandler) :
    (s.setDevType other devType).getLidarCommandHandler handle = some cmdHandler := by
  unfold setDevType
  split
  · exact h
  · rename_i hNone
    obtain ⟨found, hFound, hHandler⟩ := Option.bind_eq_some_iff.mp h
    refine Option.bind_eq_some_iff.mpr
      ⟨found, (Function.update_of_ne ?_ _ _).trans hFound, hHandler⟩
    rintro rfl
    rw [hNone] at hFound
    cases hFound

theorem Planned.issue {cmdId : UInt16} {data : List UInt8} {fits : data.length < 2 ^ 16}
    {handle : UInt32} {todo : List Action} (h : s.Planned)
    (hTodo : planned (s.allowance handle) todo ≤ s.allowance handle) :
    (s.issue cmdId data fits handle todo).Planned := by
  have hFresh : ∀ sender ∈ s.senders, sender.command.issue ≠ s.generateSeq.calls + 1 := by
    intro sender hSender
    have hDrawn := h.drawn sender hSender
    omega
  refine ⟨?_, ?_, ?_, ?_⟩
  · rw [State.issue, List.map_append, List.nodup_append]
    refine ⟨h.distinct, List.nodup_singleton _, ?_⟩
    intro number hNumber other hOther
    obtain ⟨sender, hSender, rfl⟩ := List.mem_map.mp hNumber
    rw [List.mem_singleton.mp hOther]
    exact hFresh sender hSender
  · intro sender hSender
    rcases List.mem_append.mp hSender with hSender | hSender
    · exact (h.drawn sender hSender).trans (Nat.le_succ _)
    · rw [List.mem_singleton.mp hSender]
      exact Nat.le_refl _
  · intro registration hRegistration
    obtain ⟨sender, hSender, hEq⟩ := h.known registration hRegistration
    exact ⟨sender, List.mem_append_left _ hSender, hEq⟩
  · intro sender hSender
    rcases List.mem_append.mp hSender with hSender | hSender
    · exact h.bounded sender hSender
    · rw [List.mem_singleton.mp hSender]
      have hNone : s.registrations.count (s.generateSeq.calls + 1) = 0 := by
        refine Multiset.count_eq_zero.mpr fun hMem => ?_
        obtain ⟨registration, hRegistration, hEq⟩ := List.mem_map.mp hMem
        obtain ⟨sender, hKnown, hCommand⟩ := h.known registration hRegistration
        exact hFresh sender hKnown (by rw [hCommand, hEq])
      change s.registrations.count (s.generateSeq.calls + 1) + planned (s.allowance handle) todo ≤
        s.allowance handle
      omega

theorem senders_perform (s : State) (command : Command) (now : TimePoint) (wasSent : Bool)
    (action : Action) :
    (s.perform command now wasSent action).1.senders = s.senders ∧
      (s.perform command now wasSent action).1.generateSeq = s.generateSeq ∧
      (s.perform command now wasSent action).1.getLidarCommandHandler =
        s.getLidarCommandHandler := by
  cases action with
  | addCommand =>
    change (s.addCommand command now).senders = _ ∧ (s.addCommand command now).generateSeq = _ ∧
      (s.addCommand command now).getLidarCommandHandler = _
    unfold State.addCommand
    split <;> exact ⟨rfl, rfl, rfl⟩
  | getLidarCommandHandler => exact ⟨rfl, rfl, rfl⟩
  | sendto => exact ⟨rfl, rfl, rfl⟩
  | reportFailure => exact ⟨rfl, rfl, rfl⟩

/-- Only the command itself is registered. -/
theorem registered_perform (s : State) (command : Command) (now : TimePoint) (wasSent : Bool)
    (action : Action) :
    (s.perform command now wasSent action).1.registered = s.registered ∨
      (s.perform command now wasSent action).1.registered =
        s.registered ++ [(command, now)] := by
  cases action with
  | addCommand =>
    simp only [perform, State.addCommand]
    split
    · exact Or.inl rfl
    · exact Or.inr rfl
  | getLidarCommandHandler => exact Or.inl rfl
  | sendto => exact Or.inl rfl
  | reportFailure => exact Or.inl rfl

/-- No action registers more often than it was planned for. -/
theorem planned_perform (s : State) (command : Command) (now : TimePoint) (wasSent : Bool)
    (action : Action) (todo : List Action) :
    (s.perform command now wasSent action).1.registrations.count command.issue +
        planned (s.allowance command.handle)
          ((s.perform command now wasSent action).2 ++ todo) ≤
      s.registrations.count command.issue +
        planned (s.allowance command.handle) (action :: todo) := by
  cases action with
  | getLidarCommandHandler =>
    simp only [perform, planned, allowance]
    cases hFound : s.getLidarCommandHandler command.handle with
    | none => simp
    | some cmdHandler =>
      cases cmdHandler <;> simp [sendCommand, CommandHandler.sendCommand] <;> omega
  | addCommand =>
    have hOther : (Action.addCommand :: todo).count .getLidarCommandHandler =
        todo.count .getLidarCommandHandler := List.count_cons_of_ne (by decide)
    rw [perform, State.addCommand, planned, planned, hOther, List.count_cons_self]
    split
    · rw [List.nil_append]
      change s.registrations.count command.issue + _ ≤ _
      omega
    · simp only [registrations, List.map_append, List.map_cons, List.map_nil,
        ← Multiset.coe_add, Multiset.count_add, Multiset.coe_singleton,
        Multiset.count_singleton_self, List.nil_append]
      omega
  | sendto =>
    simp only [perform, planned]
    cases wasSent <;> simp [registrations]
  | reportFailure => simp [perform, planned, registrations]

/-- One thread moves on, and the others stay as they are. -/
theorem Planned.advance {before after : List Sender} {todo todo' : List Action}
    (h : s.Planned) (hSenders : s.senders = before ++ ⟨command, todo⟩ :: after)
    (hSenders' : s'.senders = before ++ ⟨command, todo'⟩ :: after)
    (hSeq : s'.generateSeq = s.generateSeq)
    (hFound : s'.getLidarCommandHandler = s.getLidarCommandHandler)
    (hRegistered : s'.registered = s.registered ∨
      s'.registered = s.registered ++ [(command, now)])
    (hPlanned : s'.registrations.count command.issue +
        planned (s.allowance command.handle) todo' ≤
      s.registrations.count command.issue + planned (s.allowance command.handle) todo) :
    s'.Planned := by
  have hAllowance : s'.allowance = s.allowance := by
    unfold allowance
    rw [hFound]
  have hMem : ∀ sender ∈ s'.senders, sender.command = command ∧ sender.todo = todo' ∨
      sender ∈ s.senders ∧ sender.command.issue ≠ command.issue := by
    intro sender hSender
    have hDistinct := h.distinct
    rw [hSenders, List.map_append, List.map_cons, List.nodup_middle, List.nodup_cons,
      ← List.map_append] at hDistinct
    rw [hSenders', List.mem_append, List.mem_cons, or_left_comm, ← List.mem_append] at hSender
    rcases hSender with rfl | hSender
    · exact Or.inl ⟨rfl, rfl⟩
    · refine Or.inr ⟨?_, fun hEq => hDistinct.1 ?_⟩
      · rw [hSenders, List.mem_append, List.mem_cons, or_left_comm, ← List.mem_append]
        exact Or.inr hSender
      · rw [← hEq]
        exact List.mem_map_of_mem hSender
  have hActing : ⟨command, todo⟩ ∈ s.senders := by
    rw [hSenders]
    exact List.mem_append_right _ List.mem_cons_self
  refine ⟨?_, ?_, ?_, ?_⟩
  · have hDistinct := h.distinct
    rw [hSenders, List.map_append, List.map_cons] at hDistinct
    rw [hSenders', List.map_append, List.map_cons]
    exact hDistinct
  · intro sender hSender
    rw [hSeq]
    rcases hMem sender hSender with ⟨hEq, -⟩ | ⟨hOld, -⟩
    · rw [hEq]
      exact h.drawn _ hActing
    · exact h.drawn sender hOld
  · intro registration hRegistration
    have hCommands : s'.senders.map (·.command) = s.senders.map (·.command) := by
      rw [hSenders, hSenders', List.map_append, List.map_append, List.map_cons, List.map_cons]
    have hKnown : registration.1 ∈ s.senders.map (·.command) := by
      rcases hRegistered with hEq | hEq
      · rw [hEq] at hRegistration
        exact List.mem_map.mpr (h.known registration hRegistration)
      · rw [hEq] at hRegistration
        rcases List.mem_append.mp hRegistration with hRegistration | hRegistration
        · exact List.mem_map.mpr (h.known registration hRegistration)
        · rw [List.mem_singleton.mp hRegistration]
          exact List.mem_map.mpr ⟨_, hActing, rfl⟩
    rw [← hCommands] at hKnown
    exact List.mem_map.mp hKnown
  · intro sender hSender
    rw [hAllowance]
    rcases hMem sender hSender with ⟨hEq, hTodo⟩ | ⟨hOld, hNe⟩
    · rw [hEq, hTodo]
      exact hPlanned.trans (h.bounded _ hActing)
    · have hSame : s'.registrations.count sender.command.issue =
          s.registrations.count sender.command.issue := by
        rcases hRegistered with hEq | hEq
        · rw [registrations, hEq, registrations]
        · rw [registrations, hEq, List.map_append, ← Multiset.coe_add, Multiset.count_add]
          have hNone : Multiset.count sender.command.issue ([command.issue] : Multiset Nat) = 0 :=
            Multiset.count_eq_zero.mpr fun hIn => hNe (List.mem_singleton.mp hIn)
          exact congrArg (s.registrations.count sender.command.issue + ·) hNone
      rw [hSame]
      exact h.bounded sender hOld

theorem Planned.act {index : Nat} (h : s.Planned) : (s.act index now wasSent).Planned := by
  unfold State.act
  split
  · rename_i command action todo hGet
    obtain ⟨hSenders, hSeq, hFound⟩ := senders_perform s command now wasSent action
    obtain ⟨hIndex, hGet⟩ := List.getElem?_eq_some_iff.mp hGet
    have hSplit : s.senders = s.senders.take index ++
        ⟨command, action :: todo⟩ :: s.senders.drop (index + 1) := by
      rw [← hGet, List.getElem_cons_drop, List.take_append_drop]
    refine h.advance hSplit ?_ hSeq hFound
      (registered_perform s command now wasSent action)
      (planned_perform s command now wasSent action todo)
    change (s.perform command now wasSent action).1.senders.set index _ = _
    rw [hSenders, List.set_eq_take_append_cons_drop, if_pos hIndex]
  · exact h

/-- What is received and what is due leave the senders alone. -/
theorem Planned.step (h : s.Planned) (event : Event) : (s.step event).Planned := by
  have hSame : ∀ handle cmdHandler, s.getLidarCommandHandler handle = some cmdHandler →
      s.getLidarCommandHandler handle = some cmdHandler := fun _ _ => id
  have hAcknowledge : ∀ seq handle packet, (s.acknowledge seq handle packet).Planned := by
    intro seq handle packet
    unfold acknowledge
    split
    · exact h
    · exact h.of_eq rfl (Nat.le_refl _) rfl hSame
  have hIgnore : ∀ seq, (s.ignore seq).Planned := by
    intro seq
    unfold ignore
    split
    · exact h
    · exact h.of_eq rfl (Nat.le_refl _) rfl hSame
  cases event with
  | detection => exact h.of_eq rfl (Nat.le_succ _) rfl hSame
  | createCommandHandle devType =>
    refine h.of_eq ?_ ?_ ?_ fun _ _ => getLidarCommandHandler_createCommandHandle <;>
      rw [State.step, createCommandHandle] <;> split <;> rfl
  | setDevType handle devType =>
    refine h.of_eq ?_ ?_ ?_ fun _ _ => getLidarCommandHandler_setDevType <;>
      rw [State.step, setDevType] <;> split <;> rfl
  | sendCommand handle cmdId data fits =>
    refine h.issue ?_
    simp [planned]
  | setLidar handle data fits =>
    refine h.issue ?_
    simp only [planned, setLidar, allowance]
    split <;> decide
  | act index now wasSent => exact h.act
  | handler handle lidarPort buf bufSize =>
    rw [State.step, State.handler]
    repeat' split
    all_goals first
      | exact h
      | exact hAcknowledge _ _ _
  | handlerOfType devType handle lidarPort buf bufSize =>
    rw [State.step, State.handlerOfType]
    dsimp only
    repeat' split
    all_goals first
      | exact h
      | exact hIgnore _
      | exact hAcknowledge _ _ _
  | onTimer now => exact h.of_eq rfl (Nat.le_refl _) rfl hSame
  | call index =>
    rw [State.step, State.call]
    split
    · exact h
    · exact h.of_eq rfl (Nat.le_refl _) rfl hSame

end State

theorem planned_run (events : List Event) : (run events).Planned := by
  induction events using List.reverseRecOn with
  | nil => exact State.planned_initial
  | append_singleton events event ih =>
    rw [run_concat]
    exact ih.step event

/-- Every registration is answered, due, replaced, ignored or pending, and in one of these
places only. A command is replaced by one whose sequence number is the same. It is registered
once, or twice where the handler of the lidar registers it too. An answer has its cause, and
when the time of every registration is up nothing stays pending. -/
theorem commands_accounted (events : List Event) :
    (run events).registrations = (run events).outcomes ∧
      (∀ pair ∈ (run events).replaced, pair.1.issue ≡ pair.2.issue [MOD 65535]) ∧
      (∀ registration ∈ (run events).registered,
        (run events).registrations.count registration.1.issue ≤
          if (run events).getLidarCommandHandler registration.1.handle = some .hap then 2
          else 1) ∧
      (∀ answer ∈ (run events).due ++ (run events).answered,
        Caused (run events).registered answer) ∧
      ∀ now, (∀ registration ∈ (run events).registered,
        registration.2 + milliseconds registration.1.timeOut.toNat < now) →
          (run (events ++ [.onTimer now])).commands.items = [] := by
  have hAccounted := accounted_run events
  refine ⟨hAccounted.balanced, ?_, ?_, hAccounted.caused, ?_⟩
  · exact fun pair hPair => Command.modEq_of_seqNum_eq (hAccounted.replaced pair hPair)
  · intro registration hRegistration
    obtain ⟨sender, hSender, hEq⟩ := (planned_run events).known registration hRegistration
    have hBounded := (planned_run events).bounded sender hSender
    rw [hEq] at hBounded
    exact (Nat.le_add_right _ _).trans hBounded
  · intro now hLate
    rw [run_concat]
    refine List.filter_eq_nil_iff.mpr fun entry hEntry => ?_
    obtain ⟨registration, hRegistration, -, hTime⟩ := hAccounted.pending entry hEntry
    have hBefore := hLate registration hRegistration
    rw [← hTime] at hBefore
    simp [hBefore]

end Mandeye.GeneralCommandHandler
