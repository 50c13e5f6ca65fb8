import GlRs485.MqttBridge

/-!
# The port of the MQTT bridge over its reconnections

`goto start` opens the port again and forgets the descriptor it had. The lock
that an earlier round took stays with the forgotten description, and until the
first reconnection there is no such round.
-/

namespace GlRs485.MqttReconnect

open CBytes BridgeSettings SerialLine MqttBridge TracedSystem

set_option autoImplicit false

def SingleOpen (ports : PortTable) : Prop :=
  ∀ fd other, ports.fds fd ≠ none → ports.fds other ≠ none → fd = other

/-- Nobody else uses the device: an attempt fails exactly when another open
description of this process has the lock, and then fails again each time. -/
def Refusals (s : State) (lockFails : Nat) : Prop :=
  (s.ports.lockable s.fd = true → lockFails = 0) ∧
    (s.ports.lockable s.fd = false → 30 < lockFails)

instance (s : State) (lockFails : Nat) : Decidable (Refusals s lockFails) :=
  inferInstanceAs (Decidable (_ ∧ _))

/-- Every open succeeds with an unused number, and the lock is the process's own. -/
def OwnDevice (s : State) : Answers → Prop
  | .start io => 0 ≤ io.opened ∧ s.ports.fds io.opened = none
  | .receive io => Refusals s io.lockFails

instance (s : State) : (answers : Answers) → Decidable (OwnDevice s answers)
  | .start io => inferInstanceAs (Decidable (0 ≤ io.opened ∧ s.ports.fds io.opened = none))
  | .receive io => inferInstanceAs (Decidable (Refusals s io.lockFails))

/-- The next `tty_write` gets the lock and, when the line accepts bytes, writes all. -/
def NextIsWritten (s : State) : Prop :=
  ∀ lockFails written data, Refusals s lockFails → (∀ result ∈ written, 0 < result) →
    data.length ≤ written.length →
      .locked s.fd true ∈ (ttyWrite s.fd lockFails written data).2 ∧
        .sent s.fd data data ∈ (ttyWrite s.fd lockFails written data).2

structure Works (s : State) : Prop where
  single : SingleOpen s.ports
  written : s.pc = .receiving → NextIsWritten s

inductive Turn (s s' : State) (events : List Event) : Answers → Prop
  | unconnected {io : StartAnswers} (pc : s.pc = .start) (ended : ∃ rc, s'.pc = .returned rc)
      (ports : s'.ports = s.ports) (stays : .reconnecting ∉ events) : Turn s s' events (.start io)
  | opened {io : StartAnswers} (pc : s.pc = .start) (receiving : s'.pc = .receiving)
      (fd : s'.fd = io.opened) (ports : 0 ≤ io.opened → s'.ports = s.ports.openAt io.opened)
      (stays : .reconnecting ∉ events) : Turn s s' events (.start io)
  | reconnects {io : ReceiveAnswers} (pc : s.pc = .receiving) (again : s'.pc = .start)
      (ports : s'.ports = s.ports) (leaves : .reconnecting ∈ events) :
      Turn s s' events (.receive io)
  | left {io : ReceiveAnswers} (pc : s.pc = .receiving) (ended : ∃ rc, s'.pc = .returned rc)
      (ports : s'.ports = s.ports.closeAt s.fd) (stays : .reconnecting ∉ events) :
      Turn s s' events (.receive io)
  | idle {io : ReceiveAnswers} (pc : s.pc = .receiving) (fd : s'.fd = s.fd)
      (on : s'.pc = .receiving ∨ s'.pc = .endless) (ports : s'.ports = s.ports)
      (stays : .reconnecting ∉ events) : Turn s s' events (.receive io)
  | forwarded {io : ReceiveAnswers} (data : List Byte) (pc : s.pc = .receiving) (fd : s'.fd = s.fd)
      (on : s'.pc = .receiving)
      (ports : s'.ports =
        (ttyWrite s.fd io.lockFails io.written data).2.foldl PortTable.apply s.ports)
      (stays : .reconnecting ∉ events) : Turn s s' events (.receive io)

theorem forward_ports (s : State) (io : ReceiveAnswers) (nbytes : Nat) :
    (forward s io nbytes).1.ports =
      (ttyWrite s.fd io.lockFails io.written (cells s.writeBuff nbytes)).2.foldl
        PortTable.apply s.ports := by
  rw [forward_state, forward_calls]
  exact (List.foldl_append).trans (tty_read_ports s.fd io.received s.recBuff _)

theorem start_turn (s : State) (io : StartAnswers) (pc : s.pc = .start) :
    Turn s (startStep s io).1 (startStep s io).2 (.start io) := by
  by_cases unconnected : io.connect ≠ 0 ∧ s.mqttautoconntime = 0
  · simp only [startStep, if_pos unconnected]
    exact .unconnected pc ⟨-1, rfl⟩ rfl (by simp)
  · simp only [startStep, if_neg unconnected]
    refine .opened pc rfl rfl ?_ ?_
    · intro port
      simp [if_neg (show ¬ io.opened < 0 by omega), PortTable.apply]
    · simp

theorem message_turn (s : State) (payload : List Byte) (io : ReceiveAnswers)
    (pc : s.pc = .receiving) :
      Turn s (handleMessage s payload io).1
        (.received io.rc :: .message payload :: (handleMessage s payload io).2) (.receive io) := by
  have forwards : ∀ loaded : State, ∀ nbytes, loaded.fd = s.fd → loaded.pc = s.pc →
      loaded.ports = s.ports →
        Turn s (forward loaded io nbytes).1 (.received io.rc :: .message payload ::
          ((forward loaded io nbytes).2.1.map .line ++
            [.published (forward loaded io nbytes).2.2])) (.receive io) := by
    intro loaded nbytes fd on ports
    have sameFd : (forward loaded io nbytes).1.fd = s.fd := by
      rw [forward_state]
      exact fd
    have samePc : (forward loaded io nbytes).1.pc = .receiving := by
      rw [forward_state]
      exact on.trans pc
    have calls := forward_ports loaded io nbytes
    rw [fd, ports] at calls
    apply Turn.forwarded (cells loaded.writeBuff nbytes) pc sameFd samePc calls
    simp
  unfold handleMessage
  dsimp only
  split
  · exact .idle pc rfl (Or.inl pc) rfl (by simp)
  · split
    · split
      · exact .idle pc rfl (Or.inl pc) rfl (by simp)
      · split
        · exact .idle pc rfl (Or.inr rfl) rfl (by simp)
        · exact forwards _ _ rfl rfl rfl
    · exact forwards _ _ rfl rfl rfl

theorem receive_turn (s : State) (io : ReceiveAnswers) (pc : s.pc = .receiving) :
    Turn s (receiveStep s io).1 (receiveStep s io).2 (.receive io) := by
  unfold receiveStep
  dsimp only
  split
  · split
    · split
      · exact .left pc ⟨io.rc, rfl⟩ rfl (by simp [leave])
      · exact .reconnects pc rfl rfl (by simp)
    · exact .left pc ⟨io.rc, rfl⟩ rfl (by simp [leave])
  · split
    · exact .idle pc rfl (Or.inl pc) rfl (by simp)
    · next payload message =>
        have handled := message_turn { s with mqttautoconntime := 0 } payload io pc
        cases handled with
        | idle _ fd on ports stays => exact .idle pc fd on ports stays
        | forwarded data _ fd on ports stays => exact .forwarded data pc fd on ports stays
        | left _ ended ports stays => exact .left pc ended ports stays
        | reconnects _ again ports leaves => exact .reconnects pc again ports leaves

theorem step_turn {s s' : State} {answers : Answers} {events : List Event}
    (taken : step s answers = some (s', events)) : Turn s s' events answers := by
  unfold step at taken
  split at taken
  · next io pc =>
      obtain ⟨after, shown⟩ := Prod.mk.inj (Option.some.inj taken)
      rw [← after, ← shown]
      exact start_turn s io pc
  · next io pc =>
      obtain ⟨after, shown⟩ := Prod.mk.inj (Option.some.inj taken)
      rw [← after, ← shown]
      exact receive_turn s io pc
  · simp at taken

/-- `fd` is the only open port and nothing else has the lock. -/
structure HoldsPort (s : State) : Prop where
  number : 0 ≤ s.fd
  alone : ∀ fd, fd ≠ s.fd → s.ports.fds fd = none
  lock : s.ports.lockable s.fd = true

structure FirstRound (s : State) : Prop where
  unopened : s.pc = .start → (∀ fd, s.ports.fds fd = none) ∧ s.ports.holder = none
  holding : s.pc = .receiving → HoldsPort s
  single : SingleOpen s.ports

/-- After a reconnection an earlier port is open besides the current one. -/
structure LaterRound (s : State) : Prop where
  abandoned : s.pc = .start → ∃ fd, s.ports.fds fd ≠ none
  besides : s.pc = .receiving → ∃ fd, fd ≠ s.fd ∧ s.ports.fds fd ≠ none

theorem single_of_alone {ports : PortTable} {port : Int}
    (alone : ∀ fd, fd ≠ port → ports.fds fd = none) : SingleOpen ports := by
  intro fd other used alsoUsed
  have first : fd = port := by
    by_contra apart
    exact used (alone fd apart)
  have second : other = port := by
    by_contra apart
    exact alsoUsed (alone other apart)
  rw [first, second]

theorem holds_port_written {s s' : State} {io : ReceiveAnswers} {data : List Byte}
    (holds : HoldsPort s) (refusals : Refusals s io.lockFails) (fd : s'.fd = s.fd)
    (ports : s'.ports =
      (ttyWrite s.fd io.lockFails io.written data).2.foldl PortTable.apply s.ports) :
      HoldsPort s' := by
  have table : s'.ports = s.ports.apply (.locked s.fd true) := by
    rw [ports, refusals.1 holds.lock, tty_write_at_once s.fd io.written data holds.number]
    rfl
  refine ⟨by rw [fd]; exact holds.number, ?_, ?_⟩
  · intro other apart
    rw [fd] at apart
    rw [table]
    exact holds.alone other apart
  · rw [fd, table]
    exact PortTable.lockable_locked s.ports s.fd holds.lock

theorem tty_write_others {s : State} {lockFails : Nat} {written : List Int} {data : List Byte}
    (refusals : Refusals s lockFails) (fd : Int) (apart : fd ≠ s.fd) :
      ((ttyWrite s.fd lockFails written data).2.foldl PortTable.apply s.ports).fds fd =
        s.ports.fds fd := by
  cases lock : s.ports.lockable s.fd with
  | false =>
      rcases tty_write_refused s.fd lockFails written data (refusals.2 lock) s.ports with
        same | closed
      · rw [same]
      · rw [closed, PortTable.closeAt_other _ _ _ apart]
  | true =>
      rw [refusals.1 lock]
      by_cases negative : s.fd < 0
      · simp [ttyWrite, negative]
      · rw [tty_write_at_once s.fd written data (by omega)]
        rfl

theorem first_round_holding {s : State} (holds : HoldsPort s) (running : s.pc ≠ .start) :
    FirstRound s :=
  ⟨fun starting => absurd starting running, fun _ => holds, single_of_alone holds.alone⟩

theorem first_round_over {s : State} {rc : Int} (returned : s.pc = .returned rc)
    (single : SingleOpen s.ports) : FirstRound s := by
  refine ⟨?_, ?_, single⟩
  · intro starting
    simp [returned] at starting
  · intro receiving
    simp [returned] at receiving

theorem first_opening_holds {s s' : State} {opened : Int} (number : 0 ≤ opened)
    (unopened : (∀ fd, s.ports.fds fd = none) ∧ s.ports.holder = none) (fd : s'.fd = opened)
    (ports : s'.ports = s.ports.openAt opened) : HoldsPort s' := by
  obtain ⟨closed, unlocked⟩ := unopened
  refine ⟨by rw [fd]; exact number, ?_, ?_⟩
  · intro other apart
    rw [fd] at apart
    rw [ports, PortTable.openAt_other _ _ _ apart]
    exact closed other
  · rw [fd, ports]
    simp [PortTable.lockable, PortTable.openAt, unlocked]

theorem first_round_turn {s s' : State} {answers : Answers} {events : List Event}
    (before : FirstRound s) (own : OwnDevice s answers) (turn : Turn s s' events answers)
    (stays : .reconnecting ∉ events) : FirstRound s' := by
  cases turn with
  | unconnected pc ended ports =>
      obtain ⟨rc, returned⟩ := ended
      exact first_round_over returned (ports ▸ before.single)
  | opened pc receiving fd ports =>
      have holds := first_opening_holds own.1 (before.unopened pc) fd (ports own.1)
      exact first_round_holding holds (by simp [receiving])
  | reconnects _ _ _ leaves => exact absurd leaves stays
  | left pc ended ports =>
      obtain ⟨rc, returned⟩ := ended
      have alone : ∀ fd, fd ≠ s.fd → s'.ports.fds fd = none := by
        intro fd apart
        rw [ports, PortTable.closeAt_other _ _ _ apart]
        exact (before.holding pc).alone fd apart
      exact first_round_over returned (single_of_alone alone)
  | idle pc fd on ports =>
      obtain ⟨number, alone, lock⟩ := before.holding pc
      rw [← fd, ← ports] at alone lock
      rw [← fd] at number
      exact first_round_holding ⟨number, alone, lock⟩ (by rcases on with on | on <;> simp [on])
  | forwarded data pc fd receiving ports =>
      have holds := holds_port_written (before.holding pc) own fd ports
      exact first_round_holding holds (by simp [receiving])

/-- The first reconnection leaves its port open. -/
theorem later_round_begins {s s' : State} {answers : Answers} {events : List Event}
    (before : FirstRound s) (turn : Turn s s' events answers) (leaves : .reconnecting ∈ events) :
      LaterRound s' := by
  cases turn with
  | reconnects pc again ports =>
      refine ⟨?_, ?_⟩
      · intro _
        exact ⟨s.fd, by rw [ports]; exact PortTable.lockable_opened (before.holding pc).lock⟩
      · intro receiving
        simp [again] at receiving
  | unconnected _ _ _ stays => exact absurd leaves stays
  | opened _ _ _ _ stays => exact absurd leaves stays
  | left _ _ _ stays => exact absurd leaves stays
  | idle _ _ _ _ stays => exact absurd leaves stays
  | forwarded _ _ _ _ _ stays => exact absurd leaves stays

theorem later_round_turn {s s' : State} {answers : Answers} {events : List Event}
    (before : LaterRound s) (own : OwnDevice s answers) (turn : Turn s s' events answers) :
      LaterRound s' := by
  cases turn with
  | unconnected pc ended ports =>
      obtain ⟨rc, returned⟩ := ended
      exact ⟨by simp [returned], by simp [returned]⟩
  | opened pc receiving fd ports =>
      obtain ⟨old, used⟩ := before.abandoned pc
      have apart : old ≠ s'.fd := by
        intro same
        rw [same, fd] at used
        exact used own.2
      refine ⟨by simp [receiving], fun _ => ⟨old, apart, ?_⟩⟩
      rw [ports own.1, PortTable.openAt_other _ _ _ (fd ▸ apart)]
      exact used
  | reconnects pc again ports =>
      obtain ⟨old, _, used⟩ := before.besides pc
      exact ⟨fun _ => ⟨old, ports ▸ used⟩, by simp [again]⟩
  | left pc ended ports =>
      obtain ⟨rc, returned⟩ := ended
      exact ⟨by simp [returned], by simp [returned]⟩
  | idle pc fd on ports =>
      obtain ⟨old, apart, used⟩ := before.besides pc
      exact ⟨by rcases on with on | on <;> simp [on], fun _ => ⟨old, fd ▸ apart, ports ▸ used⟩⟩
  | forwarded data pc fd receiving ports =>
      obtain ⟨old, apart, used⟩ := before.besides pc
      refine ⟨by simp [receiving], fun _ => ⟨old, fd ▸ apart, ?_⟩⟩
      rw [ports, tty_write_others own old apart]
      exact used

/-- The rounds of a run: the first until it reconnects, later ones from then on. -/
def InRound (trace : List Event) (s : State) : Prop :=
  (.reconnecting ∉ trace → FirstRound s) ∧ (.reconnecting ∈ trace → LaterRound s)

theorem in_round_step {s s' : State} {answers : Answers} {trace events : List Event}
    (before : InRound trace s) (own : OwnDevice s answers)
    (taken : step s answers = some (s', events)) : InRound (trace ++ events) s' := by
  have turn := step_turn taken
  by_cases earlier : .reconnecting ∈ trace
  · refine ⟨fun never => absurd (List.mem_append_left events earlier) never, fun _ => ?_⟩
    exact later_round_turn (before.2 earlier) own turn
  · have first := before.1 earlier
    refine ⟨?_, ?_⟩
    · intro never
      exact first_round_turn first own turn fun now => never (List.mem_append_right trace now)
    · intro once
      rcases List.mem_append.mp once with past | now
      · exact absurd past earlier
      · exact later_round_begins first turn now

theorem initial_in_round (cfg : Cfg) : InRound [] (initialState cfg) := by
  refine ⟨fun _ => ⟨fun _ => ⟨fun _ => rfl, rfl⟩, ?_, ?_⟩, ?_⟩
  · intro receiving
    simp [initialState] at receiving
  · intro fd other used
    exact absurd rfl used
  · intro once
    simp at once

theorem holds_port_works {s : State} (first : FirstRound s) : Works s := by
  refine ⟨first.single, ?_⟩
  intro receiving lockFails written data refusals progress enough
  obtain ⟨number, _, lock⟩ := first.holding receiving
  rw [refusals.1 lock, tty_write_at_once s.fd written data number,
    accepted_bytes_whole written data progress enough]
  simp

/-- A port that is not open cannot be locked, and then nothing is sent. -/
theorem unlockable_not_written {s : State} (lock : s.ports.lockable s.fd = false) :
    ¬ NextIsWritten s := by
  intro next
  have refusals : Refusals s 31 := ⟨fun locked => by simp [lock] at locked, fun _ => by omega⟩
  have sent := (next 31 [] [] refusals (by simp) (by simp)).2
  rcases tty_write_cases s.fd 31 [] [] with ⟨_, outcome⟩ | ⟨_, _, outcome⟩ | ⟨_, free, _⟩
  · simp [outcome] at sent
  · rw [outcome] at sent
    rcases List.mem_append.mp sent with locking | closing
    · obtain ⟨obtained, shown⟩ := flock_loop_events s.fd 31 0 _ locking
      simp at shown
    · simp at closing
  · omega

theorem later_round_fails {s : State} (later : LaterRound s) (receiving : s.pc = .receiving) :
    ¬ Works s := by
  intro works
  obtain ⟨old, apart, used⟩ := later.besides receiving
  cases lock : s.ports.lockable s.fd with
  | false => exact unlockable_not_written lock (works.written receiving)
  | true => exact apart (works.single old s.fd used (PortTable.lockable_opened lock))

/-- The bridge works as long as it has not reconnected, and never again from
the message loop after it has. -/
theorem works_until_it_reconnects {cfg : Cfg} {s : State} {trace : List Event}
    (run : Run step OwnDevice (initialState cfg) trace s) :
      (.reconnecting ∉ trace → Works s) ∧
        (s.pc = .receiving → (Works s ↔ .reconnecting ∉ trace)) := by
  have reached := run_invariant InRound (initial_in_round cfg)
    (fun _ _ _ _ _ before own taken => in_round_step before own taken) run
  have first := fun never => holds_port_works (reached.1 never)
  refine ⟨first, fun receiving => ⟨?_, first⟩⟩
  intro works once
  exact later_round_fails (reached.2 once) receiving works

def reconnectsOnce : List Answers :=
  [.start ⟨0, 3⟩, .receive ⟨0, some [1, 2], 0, [2], [.data [9]]⟩, .receive ⟨-3, none, 0, [], []⟩,
    .start ⟨0, 4⟩]

def mqttOverHex : Cfg := ⟨0, 32, 1, 5, ascii "hex", ascii "tcps"⟩

theorem works_until_it_reconnects_on_first_message :
    ∃ (trace : List Event) (s : State), s.pc = .receiving ∧
      .line (.sent 3 [1, 2] [1, 2]) ∈ trace ∧ Works s := by
  obtain ⟨s, trace, run, shown⟩ := run_of_replay_view step OwnDevice
    (fun reached => (reached.1.pc, decide (Event.line (.sent 3 [1, 2] [1, 2]) ∈ reached.2),
      decide (Event.reconnecting ∉ reached.2)))
    (reconnectsOnce.take 2) (initialState mqttOverHex) (.receiving, true, true) (by decide +kernel)
  obtain ⟨receiving, facts⟩ := Prod.mk.inj shown
  obtain ⟨sent, never⟩ := Prod.mk.inj facts
  exact ⟨trace, s, receiving, of_decide_eq_true sent,
    (works_until_it_reconnects run).1 (of_decide_eq_true never)⟩

/-- The second round opens descriptor 4 while the description of 3 keeps the lock. -/
theorem reconnection_locks_itself_out :
    ∃ trace s, Run step OwnDevice (initialState mqttOverHex) trace s ∧ s.pc = .receiving ∧
      ¬ SingleOpen s.ports ∧ ¬ NextIsWritten s := by
  obtain ⟨s, trace, run, shown⟩ := run_of_replay_view step OwnDevice
    (fun reached => (reached.1.pc, reached.1.ports.fds 3, reached.1.ports.fds 4,
      reached.1.ports.lockable reached.1.fd))
    reconnectsOnce (initialState mqttOverHex) (.receiving, some 0, some 1, false)
    (by decide +kernel)
  simp only [Prod.mk.injEq] at shown
  obtain ⟨receiving, old, new, locked⟩ := shown
  refine ⟨trace, s, run, receiving, ?_, unlockable_not_written locked⟩
  intro single
  have same := single 3 4 (by simp [old]) (by simp [new])
  omega

end GlRs485.MqttReconnect
