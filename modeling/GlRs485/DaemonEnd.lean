import GlRs485.Foundation.FinalSteps
import GlRs485.ClientSockets
import GlRs485.LostConnections

/-!
# What ends the socket daemon

`conn_loop` returns when `select` fails and when a connection is purged, the process exits
when no element can be allocated, and it decodes for ever when a text is too long for the
counters. Nothing else that clients, the line or the kernel do keeps it from going on,
in runs in which no signal ends the process: a reply to a connection that its client
has reset raises SIGPIPE, which nothing catches.
-/

namespace GlRs485.DaemonEnd

open CBytes ConnectionQueue BridgeSettings SerialLine SocketBridge ServingVisits HeadPasses
open ClientSockets HexRequests LoopActions StepOutcomes LostConnections TracedSystem FinalSteps

set_option autoImplicit false

def needsElement (s : State) (io : OpenAnswers) : Bool :=
  if s.cfg.isTcps then
    io.sd.any (· < fdSetsize) && io.blkmode && io.sockopt &&
      decide ((s.queue.len : Int) ≠ s.cfg.maxconn)
  else s.oneTime

/-- The text that is decoded is too long for the counters of the decoder. -/
def DecodesEndlessly (cfg : Cfg) (bytes : List Byte) : Prop :=
  cfg.isStr = true ∧ (textBeforeNul bytes).length % 2 = 0 ∧ 254 ≤ (textBeforeNul bytes).length

/-- What ends the daemon: a `select` that fails, a connection that runs out of time, an
element that is not allocated, and a text that is decoded for ever. -/
def EndsDaemon (longBits : Nat) (s : State) : Answers → Prop
  | .head io =>
      match io.select with
      | .interrupted => False
      | .failed => True
      | .ready readable _ =>
          (∃ conn ∈ s.queue.live, runsOut longBits s io conn = true) ∨
            readable s.serverSd = true ∧ needsElement s io.opening = true ∧ io.opening.block = none
  | .visit io =>
      ∃ conn ∈ curconn s, readsRequests (s.conn conn).state = true ∧
        (s.conn conn).sd ∈ s.sdsetrd ∧ ∃ received ∈ connRead io.recv,
          received.1 ≠ [] ∧ DecodesEndlessly s.cfg received.1

def Final (pc : Pc) : Prop := pc = .returned ∨ pc = .exited ∨ pc = .endless

theorem stopped_iff_final (longBits : Nat) {s : State} (sound : Sound s) :
    Stopped (step longBits) s ↔ Final s.pc := by
  have placed := sound.placed
  unfold Placed at placed
  unfold Final
  cases pc : s.pc with
  | head =>
      simp only [reduceCtorEq, or_self, iff_false]
      intro stopped
      have none := stopped (passAfter 0 [] [] 0 0)
      simp [step, pc, passAfter] at none
  | serving more curconn =>
      simp only [reduceCtorEq, or_self, iff_false]
      intro stopped
      have none := stopped (visitWith [] 0 [] 0)
      simp [step, pc, visitWith] at none
  | nullRead =>
      rw [pc] at placed
      exact placed.elim
  | _ => simp [Stopped, step, pc]

/-! ## The head of the loop -/

theorem enqueue_pc (s : State) (sd : Int) (block : Option Ptr) :
    (enqueue s sd block).1.pc = if block = none then .exited else s.pc := by
  cases block <;> rfl

theorem conn_open_pc (s : State) (io : OpenAnswers) :
    (connOpen s io).1.pc =
      if needsElement s io = true ∧ io.block = none then .exited else s.pc := by
  unfold connOpen needsElement
  by_cases tcps : s.cfg.isTcps = true
  · rw [if_pos tcps, if_pos tcps]
    cases io.sd with
    | none => simp
    | some sd =>
        by_cases small : sd < fdSetsize
        · have fits : ¬fdSetsize ≤ sd := by omega
          by_cases room : (s.queue.len : Int) = s.cfg.maxconn <;> cases io.blkmode <;>
            cases io.sockopt <;> simp [dropClient, enqueue_pc, room, small, fits]
        · have large : fdSetsize ≤ sd := by omega
          cases io.blkmode <;> cases io.sockopt <;> simp [dropClient, small, large]
  · rw [if_neg tcps, if_neg tcps]
    cases s.oneTime <;> simp [enqueue_pc]

theorem accept_pending_pc (s : State) (io : OpenAnswers) :
    (acceptPending s io).1.pc =
      if s.serverSd ∈ s.sdsetrd ∧ needsElement s io = true ∧ io.block = none then .exited
      else s.pc := by
  unfold acceptPending
  by_cases pending : s.serverSd ∈ s.sdsetrd
  · rw [if_pos pending, conn_open_pc]
    simp [pending]
  · rw [if_neg pending, if_neg fun both => pending both.1]

theorem start_serving_final (s : State) (rc : Nat) (place : s.pc = .exited ∨ s.pc = .head) :
    Final (startServing s rc).pc ↔ s.pc = .exited := by
  rcases place with exited | head
  · rw [start_serving_exited s rc exited]
    simp [Final, exited]
  · rcases start_serving_place s rc with same | ⟨more, walks⟩
    · rw [same]
      simp [Final, head]
    · rw [walks]
      simp [Final, head]

theorem head_final_iff (longBits : Nat) (s : State) (io : HeadAnswers) (stable : Stable s)
    (head : s.pc = .head) :
      Final (headStep longBits s io).1.pc ↔ EndsDaemon longBits s (.head io) := by
  unfold headStep EndsDaemon
  rw [queue_walk_live s.queue stable.formed]
  dsimp only
  cases selected : io.select with
  | interrupted => simp [Final, head]
  | failed => simp [Final]
  | ready readable writable =>
      dsimp only
      have expiry := expire_staled_expiry longBits (afterSelect s readable writable) io
        stable.formed fun conn listed => never_tty stable conn listed
      unfold passAfterSelect
      unfold afterSelect askedToRead askedToWrite at expiry
      generalize expireStaled longBits _ io = expired at expiry ⊢
      cases expiry with
      | @spared toutSec tout conns none =>
          let timed : State := afterExpiry s readable writable toutSec conns tout
          have pending : timed.serverSd ∈ timed.sdsetrd ↔ readable s.serverSd = true := by
            simp [timed, afterExpiry, afterSelect, charged, askedToRead]
          have nobody : ¬∃ conn ∈ s.queue.live, runsOut longBits s io conn = true := by
            rintro ⟨conn, listed, out⟩
            have spared : runsOut longBits s io conn = false := none conn listed
            simp [spared] at out
          have opened := accept_pending_pc timed io.opening
          have exits : (acceptPending timed io.opening).1.pc = .exited ↔
              timed.serverSd ∈ timed.sdsetrd ∧ needsElement timed io.opening = true ∧
                io.opening.block = Option.none := by
            rw [opened]
            split
            · next ends => simp [ends]
            · next stays =>
                have inLoop : timed.pc = .head := head
                exact iff_of_false (by simp [inLoop]) stays
          have place : (acceptPending timed io.opening).1.pc = .exited ∨
              (acceptPending timed io.opening).1.pc = .head := by
            rw [opened]
            split
            · exact Or.inl rfl
            · exact Or.inr head
          refine (start_serving_final _ _ place).trans ?_
          rw [exits, pending, or_iff_right nobody]
          rfl
      | @purged toutSec tout conns conn listed out =>
          exact iff_of_true (Or.inl rfl) (Or.inl ⟨conn, listed, out⟩)

/-! ## The visits -/

theorem request_flow_endless (s : State) (io : VisitAnswers) (bytes : List Byte) :
    requestFlow s io bytes = .endless ↔ DecodesEndlessly s.cfg bytes := by
  unfold requestFlow DecodesEndlessly
  have parity := Nat.mod_two_eq_zero_or_one (textBeforeNul bytes).length
  by_cases text : s.cfg.isStr = true
  · rcases parity with even | odd
    · by_cases long : 254 ≤ (textBeforeNul bytes).length
      · simp [text, even, long]
      · have reaches : ∀ refused : Prop, [Decidable refused] →
            (if refused then Flow.send else Flow.done) ≠ .endless := by
          intro refused _
          split <;> simp
        simp [text, even, long, reaches]
    · simp [text, odd]
  · have reaches : ∀ refused : Prop, [Decidable refused] →
        (if refused then Flow.send else Flow.done) ≠ .endless := by
      intro refused _
      split <;> simp
    simp [text, reaches]

theorem followed_endless (s : State) (conn : Ptr) (io : VisitAnswers) (bytes : List Byte)
    (peer : Nat) (heard : connRead io.recv = some (bytes, peer)) (size : bytes.length ≤ 256) :
      (followSend (serveRequest s conn io) conn io).2.2 = .endless ↔
        bytes ≠ [] ∧ DecodesEndlessly s.cfg bytes := by
  by_cases ended : bytes = []
  · rw [serve_request_heard s conn io bytes peer heard, if_pos ended]
    simp [followSend, ended]
  · obtain ⟨refused, kept⟩ := followed_flow s conn io bytes peer heard size ended
    rw [← request_flow_endless s io bytes, and_iff_right ended]
    by_cases send : requestFlow s io bytes = .send
    · obtain ⟨before, text, flow⟩ := refused send
      rw [flow, send]
      simp [socket_send_ends]
    · rw [kept send]

theorem serve_conn_endless (s : State) (conn : Ptr) (io : VisitAnswers)
    (sizes : ∀ answer ∈ io.recv, answer.size ≤ 256) :
      (serveConn s conn io).2.2 = .endless ↔
        readsRequests (s.conn conn).state = true ∧ (s.conn conn).sd ∈ s.sdsetrd ∧
          ∃ received ∈ connRead io.recv, received.1 ≠ [] ∧ DecodesEndlessly s.cfg received.1 := by
  unfold serveConn
  cases phase : (s.conn conn).state with
  | tty => simp [readsRequests]
  | resp => simp [readsRequests, socket_send_ends]
  | _ =>
      simp only [readsRequests, true_and]
      by_cases readable : (s.conn conn).sd ∈ s.sdsetrd
      · rw [if_pos readable, and_iff_right readable]
        cases heard : connRead io.recv with
        | none => simp [serveRequest, heard, followSend]
        | some received =>
            have size := conn_read_size io.recv received.1 received.2 sizes heard
            rw [followed_endless s conn io received.1 received.2 heard size]
            simp
      · simp [readable]

theorem advance_goes_on (s : State) (more : Nat) (reached : Option Ptr) :
    ¬Final (advance s more reached).1.pc := by
  cases reached with
  | none => simp [advance, Final]
  | some conn => cases more <;> simp [advance, Final]

theorem visit_step_final (s : State) (more : Nat) (conn : Ptr) (io : VisitAnswers) :
    Final (visitStep s more (some conn) io).1.pc ↔ (serveConn s conn io).2.2 = .endless := by
  unfold visitStep
  dsimp only
  cases flow : (serveConn s conn io).2.2 with
  | sele => simp [Final]
  | endless => simp [Final]
  | closed nextconn => simpa using advance_goes_on (serveConn s conn io).1 more nextconn
  | done => simpa using advance_goes_on (serveConn s conn io).1 more (some conn)
  | send => simpa using advance_goes_on (serveConn s conn io).1 more (some conn)

/-- A visit is the last step exactly when it decodes for ever. -/
theorem visit_final_iff {longBits : Nat} {s s' : State} {events : List Event} {io : VisitAnswers}
    (sound : Sound s) (admissible : Admissible s (.visit io))
    (taken : step longBits s (.visit io) = some (s', events)) :
      Final s'.pc ↔ EndsDaemon longBits s (.visit io) := by
  cases step_outcome sound taken with
  | @visit _ more conn outcome =>
      have endless := serve_conn_endless s conn io admissible.1
      have walks : s'.pc = (visitStep s more (some conn) io).1.pc := by
        simp only [step, outcome.pc, Option.some.injEq] at taken
        rw [taken]
      have stands : curconn s = some conn := by rw [curconn, outcome.pc]
      simp only [EndsDaemon, stands, Option.mem_some_iff, exists_eq_left', ← endless]
      rw [walks, visit_step_final]

/-! ## Runs -/

theorem step_final_iff {longBits : Nat} {s s' : State} {answers : Answers} {events : List Event}
    (sound : Sound s) (admissible : Admissible s answers)
    (taken : step longBits s answers = some (s', events)) :
      Final s'.pc ↔ EndsDaemon longBits s answers := by
  cases answers with
  | visit io => exact visit_final_iff sound admissible taken
  | head io =>
      cases step_outcome sound taken with
      | head pc outcome =>
          have passes : headStep longBits s io = (s', events) := by
            simpa [step, pc] using taken
          rw [← head_final_iff longBits s io sound.toStable pc, passes]

theorem daemon_tells_final {longBits : Nat} {initial : State} (started : Started initial) :
    TellsFinal (step longBits) Admissible initial (EndsDaemon longBits) := by
  intro trace events s s' answers run admissible taken
  have sound := run_sound (fun _ _ admitted => admitted) started run
  have after := (step_going sound admissible taken).1
  rw [stopped_iff_final longBits after]
  exact step_final_iff sound admissible taken

/-- In every run the daemon has stopped for good exactly when the last step was one of those
that end it; no step before the last can have been one. -/
theorem daemon_stopped_iff {longBits : Nat} {initial s : State} {trace : List Event}
    (started : Started initial) (run : Run (step longBits) Admissible initial trace s) :
      Stopped (step longBits) s ↔
        Ended (step longBits) Admissible (EndsDaemon longBits) initial trace s := by
  apply stopped_iff_ended (daemon_tells_final started) _ run
  rw [stopped_iff_final longBits (started_sound started), (started_empty started).2]
  simp [Final]

def silentClient : List Answers :=
  [passWith [4] [] 5 0, visitWith [] 0 [] 0, passAfter 6 [] [] 6 1]

theorem daemon_stopped_iff_silent_client :
    ∃ trace s, s.pc = .returned ∧ Ended (step 64) Admissible (EndsDaemon 64)
      (freshDaemon (hexOverTcp 5)) trace s := by
  obtain ⟨s, trace, run, returned⟩ := run_of_replay_view (step 64) Admissible
    (fun reached => reached.1.pc) silentClient (freshDaemon (hexOverTcp 5)) .returned
    (by decide +kernel)
  have stopped : Stopped (step 64) s := by
    intro answers
    change s.pc = .returned at returned
    simp [step, returned]
  exact ⟨trace, s, returned, (daemon_stopped_iff (fresh_daemon_started _) run).mp stopped⟩

end GlRs485.DaemonEnd
