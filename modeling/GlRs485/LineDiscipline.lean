import GlRs485.MqttBridge
import GlRs485.SocketTransparency
import GlRs485.TerminalApi

/-!
# Writes and reads under the lock

Each program takes the lock on a descriptor before it writes to it or reads from
it, or has closed the descriptor by then. What it does not do is take the lock
before it flushes: `uartOpen` ends with a flush, and so begins a request of
`conn_loop`.
-/

namespace GlRs485.LineDiscipline

open CBytes ConnectionQueue BridgeSettings SerialLine RegisterApi TerminalApi SocketBridge
open ServingVisits LoopActions SocketTransparency TracedSystem

set_option autoImplicit false

/-- What a process has on a descriptor number: no port, a port, or a port whose
lock it was given. -/
inductive Tenure
  | closed
  | unlocked
  | locked
  deriving DecidableEq

def noteTenure (fd : Int) (tenure : Tenure) : LineEvent → Tenure
  | .opened other => if other = fd then .unlocked else tenure
  | .locked other true => if other = fd ∧ tenure ≠ .closed then .locked else tenure
  | .closed other => if other = fd then .closed else tenure
  | _ => tenure

def tenureOf (fd : Int) (calls : List LineEvent) : Tenure := calls.foldl (noteTenure fd) .closed

def UnderLock (before : List LineEvent) : LineEvent → Prop
  | .sent fd _ _ => tenureOf fd before ≠ .unlocked
  | .received fd _ => tenureOf fd before ≠ .unlocked
  | _ => True

/-- No write and no read on a port without its lock; numbers of ports are not negative. -/
structure Disciplined (calls : List LineEvent) : Prop where
  underLock : Judged UnderLock calls
  numbers : ∀ fd, .opened fd ∈ calls → 0 ≤ fd

theorem tenureOf_snoc (fd : Int) (calls : List LineEvent) (call : LineEvent) :
    tenureOf fd (calls ++ [call]) = noteTenure fd (tenureOf fd calls) call := by
  rw [tenureOf, List.foldl_append]
  rfl

theorem disciplined_nil : Disciplined [] := ⟨judged_nil UnderLock, by simp⟩

theorem Disciplined.silent {calls none : List LineEvent} (held : Disciplined calls)
    (empty : none = []) : Disciplined (calls ++ none) := by
  rw [empty, List.append_nil]
  exact held

theorem Disciplined.snoc {calls : List LineEvent} {call : LineEvent} (held : Disciplined calls)
    (next : UnderLock calls call) (number : ∀ fd, call = .opened fd → 0 ≤ fd) :
      Disciplined (calls ++ [call]) := by
  refine ⟨judged_snoc held.underLock next, ?_⟩
  intro fd opened
  rcases List.mem_append.mp opened with before | last
  · exact held.numbers fd before
  · exact number fd (List.mem_singleton.mp last).symm

theorem Disciplined.front {calls front : List LineEvent} (held : Disciplined calls)
    (begins : front <+: calls) : Disciplined front := by
  obtain ⟨rest, split⟩ := begins
  constructor
  · exact judged_front (split ▸ held.underLock)
  · intro fd opened
    exact held.numbers fd (split ▸ List.mem_append_left rest opened)

theorem Disciplined.negative {calls : List LineEvent} (held : Disciplined calls) {fd : Int}
    (negative : fd < 0) : tenureOf fd calls = .closed := by
  have numbers := held.numbers
  clear held
  unfold tenureOf
  induction calls with
  | nil => rfl
  | cons call rest ih =>
      have kept : noteTenure fd .closed call = .closed := by
        cases call with
        | opened other =>
            have port := numbers other (by simp)
            have apart : ¬other = fd := by omega
            simp [noteTenure, apart]
        | locked other obtained => cases obtained <;> simp [noteTenure]
        | closed other => simp [noteTenure]
        | _ => rfl
      rw [List.foldl_cons, kept]
      exact ih fun other opened => numbers other (by simp [opened])

theorem Disciplined.opens {calls : List LineEvent} (held : Disciplined calls) {fd : Int}
    (port : 0 ≤ fd) : Disciplined (calls ++ [.opened fd]) :=
  held.snoc trivial fun _ same => LineEvent.opened.inj same ▸ port

theorem Disciplined.flushes {calls : List LineEvent} (held : Disciplined calls) (fd : Int) :
    Disciplined (calls ++ [.flushed fd]) := held.snoc trivial (by simp)

theorem Disciplined.closes {calls : List LineEvent} (held : Disciplined calls) (fd : Int) :
    Disciplined (calls ++ [.closed fd]) := held.snoc trivial (by simp)

theorem reads_disciplined {calls reads : List LineEvent} {fd : Int} (held : Disciplined calls)
    (locked : tenureOf fd calls ≠ .unlocked)
    (reading : ∀ call ∈ reads, ∃ result, call = .received fd result) :
      Disciplined (calls ++ reads) := by
  induction reads generalizing calls with
  | nil => simpa using held
  | cons call rest ih =>
      obtain ⟨result, same⟩ := reading call (by simp)
      subst same
      have read : Disciplined (calls ++ [.received fd result]) := held.snoc locked (by simp)
      have kept : tenureOf fd (calls ++ [.received fd result]) ≠ .unlocked := by
        rw [tenureOf_snoc]
        exact locked
      have longer := ih read kept fun later member => reading later (by simp [member])
      simpa using longer

/-- The lock loop ends with the lock, or leaves the port as it was. -/
theorem locks_disciplined {calls : List LineEvent} (fd : Int) (fails timeOut : Nat)
    (held : Disciplined calls) :
      Disciplined (calls ++ (flockLoop fd fails timeOut).2) ∧
        ((flockLoop fd fails timeOut).1 = true →
          tenureOf fd (calls ++ (flockLoop fd fails timeOut).2) ≠ .unlocked) := by
  induction fails generalizing calls timeOut with
  | zero =>
      refine ⟨held.snoc trivial (by simp), fun _ => ?_⟩
      rw [flockLoop, tenureOf_snoc]
      cases tenureOf fd calls <;> simp [noteTenure]
  | succ fails ih =>
      have tried : Disciplined (calls ++ [.locked fd false]) := held.snoc trivial (by simp)
      by_cases last : 30 < timeOut + 1
      · rw [flockLoop, if_pos last]
        exact ⟨tried, by simp⟩
      · have later := ih (timeOut + 1) tried
        rw [List.append_assoc] at later
        rw [flockLoop, if_neg last]
        exact later

theorem write_disciplined {calls : List LineEvent} (fd : Int) (lockFails : Nat)
    (results : List Int) (data : List Byte) (held : Disciplined calls) :
      Disciplined (calls ++ (ttyWrite fd lockFails results data).2) ∧
        tenureOf fd (calls ++ (ttyWrite fd lockFails results data).2) ≠ .unlocked := by
  obtain ⟨tried, obtained⟩ := locks_disciplined fd lockFails 0 held
  rcases tty_write_cases fd lockFails results data with
    ⟨negative, outcome⟩ | ⟨_, _, outcome⟩ | ⟨_, free, outcome⟩
  · rw [outcome, List.append_nil, held.negative negative]
    exact ⟨held, by simp⟩
  · rw [outcome, ← List.append_assoc]
    refine ⟨tried.closes fd, ?_⟩
    rw [tenureOf_snoc]
    simp [noteTenure]
  · have lock := obtained ((flock_loop_obtains_iff fd lockFails 0 (by omega)).mpr (by omega))
    have flushed := tried.flushes fd
    have kept : tenureOf fd ((calls ++ (flockLoop fd lockFails 0).2) ++ [.flushed fd]) ≠
        .unlocked := by
      rw [tenureOf_snoc]
      exact lock
    rw [outcome, show [LineEvent.flushed fd, .sent fd data (acceptedBytes results data)] =
      [.flushed fd] ++ [.sent fd data (acceptedBytes results data)] from rfl,
      ← List.append_assoc, ← List.append_assoc]
    refine ⟨flushed.snoc kept (by simp), ?_⟩
    rw [tenureOf_snoc]
    exact kept

theorem write_read_disciplined {calls : List LineEvent} (fd : Int) (lockFails : Nat)
    (results : List Int) (data : List Byte) (answers : List RxResult) (buf : Buf)
    (held : Disciplined calls) :
      Disciplined (calls ++ ((ttyWrite fd lockFails results data).2 ++
        (ttyRead fd answers buf).events)) := by
  obtain ⟨written, locked⟩ := write_disciplined fd lockFails results data held
  rw [← List.append_assoc]
  exact reads_disciplined written locked fun call reading =>
    receive_loop_events fd answers buf 0 call reading

/-! The four calls of the API, each a process of its own. -/

theorem exchange_disciplined (line : LineAnswers) (command failure : List Byte) (asked : Bool) :
    Disciplined (exchange line command asked failure).events := by
  by_cases negative : line.fd < 0
  · simpa [exchange, negative] using disciplined_nil
  · have opened : Disciplined [.opened line.fd] := disciplined_nil.opens (by omega)
    rcases tty_write_cases line.fd line.lockFails line.written command with
      ⟨noPort, _⟩ | ⟨_, busy, outcome⟩ | ⟨_, free, outcome⟩
    · omega
    · have refused : (flockLoop line.fd line.lockFails 0).1 = false := by
        rw [← Bool.not_eq_true, flock_loop_obtains_iff _ _ _ (by omega)]
        omega
      have tried := (write_disciplined line.fd line.lockFails line.written command opened).1
      rw [outcome] at tried
      simpa [exchange, negative, refused] using tried
    · have obtained : (flockLoop line.fd line.lockFails 0).1 = true :=
        (flock_loop_obtains_iff _ _ _ (by omega)).mpr (by omega)
      have used := write_read_disciplined line.fd line.lockFails line.written command
        line.received (fun _ => 0) opened
      have closed := used.closes line.fd
      rw [outcome] at closed
      simpa [exchange, negative, obtained, myuartTxNonBlocking, ttyRead] using closed

theorem send_and_receive_disciplined {calls : List LineEvent} (line : LineAnswers)
    (data : List Byte) (held : Disciplined calls) :
      Disciplined (calls ++ (sendAndReceive line data).events) := by
  have used := write_read_disciplined line.fd line.lockFails line.written data
    (if (ttyWrite line.fd line.lockFails line.written data).1 < 0 then [.failed []]
      else line.received) (fun _ => 0) held
  have closed := used.closes line.fd
  rw [List.append_assoc] at closed
  exact closed

theorem opened_port_disciplined (fd : Int) : Disciplined (openedPort fd) := by
  unfold openedPort
  split
  · exact disciplined_nil
  · exact disciplined_nil.opens (by omega)

theorem read_call_disciplined {input : ReadInput} {line : LineAnswers} {result : ApiResult}
    (returned : readRs485Data input line = some result) : Disciplined result.events := by
  obtain ⟨command, regLen, _, same⟩ := read_exchange returned
  rw [same]
  exact exchange_disciplined line command _ _

theorem write_call_disciplined {input : WriteInput} {line : LineAnswers} {result : ApiResult}
    (returned : writeRs485Data input line = some result) : Disciplined result.events := by
  rcases write_exchange returned with untouched | ⟨command, same⟩
  · rw [untouched]
    exact disciplined_nil
  · rw [same]
    exact exchange_disciplined line command _ _

theorem terminal_call_disciplined {input : TerminalInput} {around : TerminalSurroundings}
    {line : LineAnswers} {result : ApiResult}
    (returned : terminalSendRead input around line = some result) :
      Disciplined result.events := by
  have opened := opened_port_disciplined line.fd
  unfold terminalSendRead at returned
  dsimp only at returned
  split at returned
  · split at returned
    · rw [← Option.some.inj returned]
      exact opened
    · obtain ⟨writeData, _, same⟩ := Option.map_eq_some_iff.mp returned
      rw [← same]
      exact send_and_receive_disciplined line _ opened
  · rw [← Option.some.inj returned]
    exact send_and_receive_disciplined line _ opened

theorem mqtt_call_disciplined {cmd : List Byte} {line : LineAnswers} {result : ApiResult}
    (returned : getRs485DataToGlMqtt cmd line = some result) : Disciplined result.events := by
  unfold getRs485DataToGlMqtt at returned
  dsimp only at returned
  split at returned
  · rw [← Option.some.inj returned]
    exact disciplined_nil
  · obtain ⟨rs485Data, _, same⟩ := Option.map_eq_some_iff.mp returned
    split at same
    · rw [← same]
      exact disciplined_nil
    · have opened : Disciplined [.opened line.fd] := disciplined_nil.opens (by omega)
      have used := fun data => send_and_receive_disciplined line data opened
      rw [← same]
      split
      · exact used _
      · exact used _

/-! The two daemons. -/

def mqttCall : MqttBridge.Event → Option LineEvent
  | .line call => some call
  | _ => none

def mqttCalls (trace : List MqttBridge.Event) : List LineEvent := trace.filterMap mqttCall

theorem mqttCalls_append (front back : List MqttBridge.Event) :
    mqttCalls (front ++ back) = mqttCalls front ++ mqttCalls back := List.filterMap_append

theorem mqttCalls_lines (calls : List LineEvent) :
    mqttCalls (calls.map MqttBridge.Event.line) = calls := by
  rw [mqttCalls, List.filterMap_map]
  exact List.filterMap_some

theorem message_disciplined {calls : List LineEvent} (s : MqttBridge.State) (payload : List Byte)
    (io : MqttBridge.ReceiveAnswers) (held : Disciplined calls) :
      Disciplined (calls ++ mqttCalls (MqttBridge.handleMessage s payload io).2) := by
  have forwards : ∀ loaded nbytes, Disciplined (calls ++ mqttCalls
      ((MqttBridge.forward loaded io nbytes).2.1.map .line ++
        [.published (MqttBridge.forward loaded io nbytes).2.2])) := by
    intro loaded nbytes
    have shown : mqttCalls [.published (MqttBridge.forward loaded io nbytes).2.2] = [] := rfl
    rw [mqttCalls_append, mqttCalls_lines, shown, List.append_nil, MqttBridge.forward_calls]
    exact write_read_disciplined _ _ _ _ _ _ held
  unfold MqttBridge.handleMessage
  dsimp only
  split
  · exact held.silent rfl
  · split
    · split
      · exact held.silent rfl
      · split
        · exact held.silent rfl
        · exact forwards _ _
    · exact forwards _ _

theorem start_disciplined {calls : List LineEvent} (s : MqttBridge.State)
    (io : MqttBridge.StartAnswers) (held : Disciplined calls) :
      Disciplined (calls ++ mqttCalls (MqttBridge.startStep s io).2) := by
  unfold MqttBridge.startStep
  split
  · exact held.silent rfl
  · dsimp only
    split
    · exact held.silent rfl
    · next port => exact held.opens (Int.not_lt.mp port)

theorem receive_disciplined {calls : List LineEvent} (s : MqttBridge.State)
    (io : MqttBridge.ReceiveAnswers) (held : Disciplined calls) :
      Disciplined (calls ++ mqttCalls (MqttBridge.receiveStep s io).2) := by
  have leaves : Disciplined (calls ++ mqttCalls [.received io.rc, .line (.closed s.fd)]) :=
    held.closes s.fd
  unfold MqttBridge.receiveStep
  dsimp only
  split
  · split
    · split
      · exact leaves
      · exact held.silent rfl
    · exact leaves
  · split
    · exact held.silent rfl
    · exact message_disciplined _ _ io held

theorem mqtt_step_disciplined {calls : List LineEvent} {s s' : MqttBridge.State}
    {answers : MqttBridge.Answers} {events : List MqttBridge.Event} (held : Disciplined calls)
    (taken : MqttBridge.step s answers = some (s', events)) :
      Disciplined (calls ++ mqttCalls events) := by
  unfold MqttBridge.step at taken
  split at taken
  · next io pc =>
      have shown : _ = events := congrArg Prod.snd (Option.some.inj taken)
      rw [← shown]
      exact start_disciplined s io held
  · next io pc =>
      have shown : _ = events := congrArg Prod.snd (Option.some.inj taken)
      rw [← shown]
      exact receive_disciplined s io held
  · simp at taken

theorem mqtt_daemon_disciplined {cfg : Cfg} {trace : List MqttBridge.Event}
    {s : MqttBridge.State}
    (run : Run MqttBridge.step (fun _ _ => True) (MqttBridge.initialState cfg) trace s) :
      Disciplined (mqttCalls trace) := by
  apply run_invariant (fun trace _ => Disciplined (mqttCalls trace)) disciplined_nil _ run
  intro trace s answers s' events held _ taken
  rw [mqttCalls_append]
  exact mqtt_step_disciplined held taken

def socketCall : SocketBridge.Event → Option LineEvent
  | .line call => some call
  | .dropped sd => some (.closed sd)
  | .closed _ sd => some (.closed sd)
  | _ => none

def socketCalls (trace : List SocketBridge.Event) : List LineEvent := trace.filterMap socketCall

theorem socketCalls_append (front back : List SocketBridge.Event) :
    socketCalls (front ++ back) = socketCalls front ++ socketCalls back := List.filterMap_append

theorem socketCalls_lines (calls : List LineEvent) :
    socketCalls (calls.map SocketBridge.Event.line) = calls := by
  rw [socketCalls, List.filterMap_map]
  exact List.filterMap_some

theorem socketCalls_formed {conn : Ptr} {s s' : State} {events : List Event}
    (formed : Formed conn s s' events) : socketCalls events = [] := by
  rw [formed.shown]
  rfl

theorem tty_request_disciplined {calls : List LineEvent} (s : State) (conn : Ptr)
    (io : VisitAnswers) (ready : s.tty.fd ∈ s.sdsetwr) (held : Disciplined calls) :
      Disciplined (calls ++ socketCalls (ttyRequest s conn io).2.1) := by
  have flushed := held.flushes s.tty.fd
  rw [tty_request_eq s conn io ready]
  dsimp only
  rw [socketCalls_append, socketCalls_lines]
  split
  · have formed := error_reply_formed (afterWrite s io) conn (ascii "tty write error")
    have written := (write_disciplined s.tty.fd io.lockFails io.written
      (cells s.tty.writebuf s.tty.txlen) flushed).1
    rw [socketCalls_formed formed]
    simpa [writeCalls] using written
  · obtain ⟨events, formed, shown, _⟩ := tty_answer_formed (afterWrite s io) conn io
    have used := write_read_disciplined s.tty.fd io.lockFails io.written
      (cells s.tty.writebuf s.tty.txlen) io.received (afterWrite s io).tty.rxbuf flushed
    rw [shown, socketCalls_append, socketCalls_lines, socketCalls_formed formed,
      (after_write_frame s conn io).ttyFd]
    simpa [writeCalls] using used

theorem dispatch_disciplined {calls : List LineEvent} (s : State) (conn : Ptr)
    (io : VisitAnswers) (ready : s.tty.fd ∈ s.sdsetwr) (held : Disciplined calls) :
      Disciplined (calls ++ socketCalls (dispatchRequest s conn io).2.1) := by
  unfold dispatchRequest
  dsimp only
  split
  · split
    · exact held.silent (socketCalls_formed (error_reply_formed _ conn _))
    · split
      · exact held.silent rfl
      · exact tty_request_disciplined _ conn io ready held
  · exact tty_request_disciplined s conn io ready held

/-- The step lemma: outside the answering of a request descriptors are only closed. -/
theorem action_disciplined {calls : List LineEvent} {s₀ s s' : State} {answers : Answers}
    {events : List Event} (held : Disciplined calls) (action : Action s₀ answers s events s') :
      Disciplined (calls ++ socketCalls events) := by
  cases action with
  | quiet fixed live fds rxlen kept silent =>
      apply held.silent
      rw [socketCalls, List.filterMap_eq_nil_iff]
      intro event member
      have quiet := silent event member
      cases event <;> first | rfl | exact quiet.elim
  | refused free => exact held.closes _
  | leaked free => exact held.silent rfl
  | opened tcps free small room fixed added fds rxlen => exact held.silent rfl
  | attached once fixed added fds rxlen => exact held.silent rfl
  | closed listed fixed gone rxlen => exact held.closes _
  | @answered _ io reader bytes peer lines events flow visit visited listed reads answered
      computed =>
      have used := dispatch_disciplined (loadRequest (heardState s₀ reader peer) reader bytes)
        reader io (by simp [loadRequest]) held
      rw [computed] at used
      exact used
  | @sent _ io writer visit listed owing accepted =>
      apply held.silent
      unfold replyCall
      split <;> rfl
  | @lost _ _ io writer visit listed owing failed fixed gone rxlen =>
      have none : socketCalls [replyCall s writer io, .closed writer (s.conn writer).sd] =
          [.closed (s.conn writer).sd] := by
        unfold replyCall
        split <;> rfl
      rw [none]
      exact held.closes _

theorem socket_daemon_disciplined {longBits : Nat} {initial s : State} {trace : List Event}
    (started : Started initial) (run : Run (step longBits) Admissible initial trace s) :
      Disciplined (.opened initial.tty.fd :: socketCalls trace) := by
  have opened : Disciplined [.opened initial.tty.fd] := disciplined_nil.opens (started_port started)
  have reached := run_actions_invariant (fun _ _ admitted => admitted)
    (fun trace _ => Disciplined ([.opened initial.tty.fd] ++ socketCalls trace))
    (fun trace _ => Disciplined ([.opened initial.tty.fd] ++ socketCalls trace))
    (started_sound started) opened
    (fun _ _ _ trace _ events _ _ held action => by
      rw [socketCalls_append, ← List.append_assoc]
      exact action_disciplined held action)
    (fun _ _ _ trace _ _ _ held stuck => by
      cases stuck
      rw [socketCalls_append, ← List.append_assoc]
      exact held.silent rfl)
    run
  rcases reached.2 with running | ⟨_, left⟩
  · exact running
  · exact left

end GlRs485.LineDiscipline
