import GlRs485.SerialOwnership

/-!
# A lock timeout is final

The port is opened in `conn_init` and never again, since no connection comes into
`CONN_TTY`, where it would be re-opened. So `tty.fd` is the port until a write
gives up on the lock, and from then on, for the rest of the run, it is not.
-/

namespace GlRs485.PortLoss

open CBytes ConnectionQueue BridgeSettings HexCodec SerialLine SocketBridge ServingVisits
open HeadPasses LoopActions SerialOwnership TracedSystem

set_option autoImplicit false

def LockedOut (initial : State) (trace : List Event) : Prop :=
  .line (.closed initial.tty.fd) ∈ trace

instance (initial : State) (trace : List Event) : Decidable (LockedOut initial trace) :=
  inferInstanceAs (Decidable (_ ∈ trace))

def IsPort (s : State) (fd : Int) : Prop := ∃ opening, s.fds fd = some (.serial opening)

/-- `tty.fd` keeps its number; it is the port and nobody else's until a lock timeout. -/
structure PortUntilLockout (initial : State) (trace : List Event) (s : State) : Prop where
  number : s.tty.fd = initial.tty.fd
  apart : s.tty.fd ≠ s.serverSd
  cfg : s.cfg = initial.cfg
  port : ¬LockedOut initial trace → s.fds s.tty.fd = some (.serial 0) ∧
    ∀ conn ∈ s.queue.live, (s.conn conn).sd ≠ s.tty.fd
  lost : LockedOut initial trace → ¬IsPort s s.tty.fd

theorem no_port_opened (s : State) (fd sd : Int) (lost : ¬IsPort s fd) :
    ¬IsPort { s with fds := s.fds.openAt sd .client } fd := by
  rintro ⟨opening, port⟩
  by_cases same : fd = sd
  · subst same
    simp at port
  · exact lost ⟨opening, (openAt_other s.fds sd fd _ same).symm.trans port⟩

theorem no_port_closed (s : State) (fd sd : Int) (lost : ¬IsPort s fd) :
    ¬IsPort { s with fds := s.fds.closeAt sd } fd := by
  rintro ⟨opening, port⟩
  exact lost ⟨opening, ((closed_is_iff s.fds sd fd (.serial opening)).mp port).2⟩

theorem is_port_congr {s s' : State} {fd : Int} (fds : s'.fds fd = s.fds fd) :
    IsPort s' fd ↔ IsPort s fd := by
  rw [IsPort, IsPort, fds]

/-! ## What a request does to the port -/

structure PortTold (s s' : State) (events : List Event) : Prop where
  closed : .line (.closed s.tty.fd) ∈ events → s'.fds = s.fds.closeAt s.tty.fd
  kept : .line (.closed s.tty.fd) ∉ events → s'.fds = s.fds

theorem formed_silent {s s' : State} {conn : Ptr} {events : List Event} {call : LineEvent}
    (formed : Formed conn s s' events) : .line call ∉ events := by
  rw [formed.shown]
  simp

theorem tty_request_told (s : State) (conn : Ptr) (io : VisitAnswers)
    (ready : s.tty.fd ∈ s.sdsetwr) :
      PortTold s (ttyRequest s conn io).1 (ttyRequest s conn io).2.1 := by
  have written : ∀ {after : State} {reads : List LineEvent} {events : List Event},
      (∀ call ∈ reads, call ≠ .closed s.tty.fd) →
      Formed conn (afterWrite s io) after events →
        PortTold s after ((writeCalls s io).map .line ++ (reads.map .line ++ events)) := by
    intro after reads events open_ formed
    have told : .line (.closed s.tty.fd) ∈
        (writeCalls s io).map Event.line ++ (reads.map Event.line ++ events) ↔
          .closed s.tty.fd ∈ (ttyWrite s.tty.fd io.lockFails io.written
            (cells s.tty.writebuf s.tty.txlen)).2 := by
      have noReads : Event.line (.closed s.tty.fd) ∉ reads.map Event.line := by
        intro member
        obtain ⟨call, read, shown⟩ := List.mem_map.mp member
        exact open_ call read (Event.line.inj shown)
      simp [writeCalls, noReads, formed_silent formed]
    constructor
    · intro closing
      rw [formed.fds, afterWrite, if_pos (told.mp closing)]
    · intro silent
      rw [formed.fds, afterWrite, if_neg fun closing => silent (told.mpr closing)]
  rw [tty_request_eq s conn io ready]
  dsimp only
  split
  · have formed := error_reply_formed (afterWrite s io) conn (ascii "tty write error")
    have none : ∀ call ∈ ([] : List LineEvent), call ≠ .closed s.tty.fd := by simp
    exact written none formed
  · obtain ⟨events, formed, shown, _⟩ := tty_answer_formed (afterWrite s io) conn io
    rw [shown]
    apply written _ formed
    intro call read
    have line := tty_read_line _ _ _ call read
    rw [(after_write_frame s conn io).ttyFd] at line
    exact line.2

theorem dispatch_told {s s' : State} {conn : Ptr} {io : VisitAnswers} {events : List Event}
    {flow : Flow} (ready : s.tty.fd ∈ s.sdsetwr)
    (computed : dispatchRequest s conn io = (s', events, flow)) : PortTold s s' events := by
  have refused : ∀ {later : State} {shown : List Event}, later.fds = s.fds →
      .line (.closed s.tty.fd) ∉ shown → PortTold s later shown :=
    fun same silent => ⟨fun closing => absurd closing silent, fun _ => same⟩
  unfold dispatchRequest at computed
  dsimp only at computed
  split at computed
  · split at computed
    · obtain ⟨rfl, rest⟩ := Prod.mk.inj computed
      obtain ⟨rfl, _⟩ := Prod.mk.inj rest
      have formed := error_reply_formed { s with
        tty := { s.tty with
          txbuf := removeBlank1 s.tty.txbuf s.tty.txlen
          txlen := strlen (removeBlank1 s.tty.txbuf s.tty.txlen) ttyBufsize } } conn
        (ascii "data format error")
      exact refused formed.fds (formed_silent formed)
    · split at computed
      · obtain ⟨rfl, rest⟩ := Prod.mk.inj computed
        obtain ⟨rfl, _⟩ := Prod.mk.inj rest
        exact refused rfl (by simp)
      · next writebuf _ =>
          have told := tty_request_told { s with
            tty := { s.tty with
              txbuf := removeBlank1 s.tty.txbuf s.tty.txlen
              txlen := strlen (removeBlank1 s.tty.txbuf s.tty.txlen) ttyBufsize / 2
              writebuf := writebuf } } conn io ready
          rw [computed] at told
          exact ⟨told.closed, told.kept⟩
  · have told := tty_request_told s conn io ready
    rwa [computed] at told

theorem answered_told {s s' : State} {conn : Ptr} {io : VisitAnswers} {bytes : List Byte}
    {peer : Nat} {events : List Event} {flow : Flow}
    (computed : dispatchRequest (loadRequest (heardState s conn peer) conn bytes) conn io =
      (s', events, flow)) : PortTold s s' (.request conn bytes :: events) := by
  have told := dispatch_told (by simp [loadRequest]) computed
  have heard := (heard_state_untouched s conn peer).1
  have fds : (loadRequest (heardState s conn peer) conn bytes).fds = s.fds := heard.fds
  have number : (loadRequest (heardState s conn peer) conn bytes).tty.fd = s.tty.fd :=
    heard.frame.ttyFd
  constructor
  · intro closing
    have now := told.closed (by simpa [number] using closing)
    rw [now, fds, number]
  · intro silent
    have now := told.kept (by simpa [number] using silent)
    rw [now, fds]

/-! ## Along a run -/

/-- Descriptors of clients come and go beside the port, or in its place once it is lost. -/
theorem port_kept {initial s s' : State} {trace events : List Event}
    (before : PortUntilLockout initial trace s) (fixed : Fixed s s')
    (silent : .line (.closed initial.tty.fd) ∉ events)
    (port : ¬LockedOut initial trace → s'.fds s.tty.fd = s.fds s.tty.fd ∧
      ∀ conn ∈ s'.queue.live, (s'.conn conn).sd ≠ s.tty.fd)
    (lost : ¬IsPort s s.tty.fd → ¬IsPort s' s.tty.fd) :
      PortUntilLockout initial (trace ++ events) s' := by
  have same : LockedOut initial (trace ++ events) ↔ LockedOut initial trace := by
    rw [LockedOut, LockedOut, List.mem_append, or_iff_left silent]
  refine ⟨fixed.ttyFd.trans before.number, ?_, fixed.cfg.trans before.cfg, ?_, ?_⟩
  · rw [fixed.ttyFd, fixed.serverSd]
    exact before.apart
  · intro open_
    rw [same] at open_
    rw [fixed.ttyFd]
    obtain ⟨fds, clients⟩ := port open_
    exact ⟨fds.trans (before.port open_).1, clients⟩
  · intro out
    rw [same] at out
    rw [fixed.ttyFd]
    exact lost (before.lost out)

theorem port_apart {initial s : State} {trace : List Event} {sd : Int}
    (before : PortUntilLockout initial trace s) (open_ : ¬LockedOut initial trace)
    (free : s.fds sd = none) : s.tty.fd ≠ sd := by
  intro same
  have port := (before.port open_).1
  rw [same, free] at port
  simp at port

theorem reply_call_silent (s : State) (conn : Ptr) (io : VisitAnswers) (call : LineEvent) :
    Event.line call ∉ [replyCall s conn io] := by
  intro member
  exact reply_not_line s conn io call (List.mem_singleton.mp member)

/-- The step lemma. -/
theorem port_step {initial s₀ s s' : State} {answers : Answers} {trace events : List Event}
    (stable : Stable s) (before : PortUntilLockout initial trace s)
    (action : Action s₀ answers s events s') : PortUntilLockout initial (trace ++ events) s' := by
  cases action with
  | quiet fixed live fds rxlen kept silent =>
      apply port_kept before fixed (fun member => silent _ member)
      · intro open_
        refine ⟨by rw [fds], ?_⟩
        intro conn listed
        rw [live] at listed
        rw [(kept conn listed).sd]
        exact (before.port open_).2 conn listed
      · rw [is_port_congr (congrFun fds _)]
        exact id
  | @refused _ sd free =>
      have fixed : Fixed s { s with fds := (s.fds.openAt sd .client).closeAt sd } :=
        ⟨rfl, rfl, rfl⟩
      apply port_kept before fixed (by simp)
      · intro open_
        have apart := port_apart before open_ free
        refine ⟨?_, (before.port open_).2⟩
        exact (closeAt_other _ _ _ apart).trans (openAt_other _ _ _ _ apart)
      · intro lost
        exact no_port_closed _ _ sd (no_port_opened s _ sd lost)
  | @leaked _ sd free =>
      have fixed : Fixed s { s with fds := s.fds.openAt sd .client } := ⟨rfl, rfl, rfl⟩
      apply port_kept before fixed (by simp)
      · intro open_
        exact ⟨openAt_other _ _ _ _ (port_apart before open_ free), (before.port open_).2⟩
      · exact no_port_opened s _ sd
  | @opened _ _ conn sd tcps free small room fixed added fds rxlen =>
      apply port_kept before fixed (by simp)
      · intro open_
        have apart := port_apart before open_ free
        rw [fds]
        exact ⟨openAt_other _ _ _ _ apart,
          opened_clients added apart.symm (before.port open_).2⟩
      · intro lost port
        exact no_port_opened s _ sd lost ((is_port_congr (congrFun fds _)).mp port)
  | attached once fixed added fds rxlen =>
      apply port_kept before fixed (by simp)
      · intro open_
        rw [fds]
        exact ⟨rfl, opened_clients added before.apart.symm (before.port open_).2⟩
      · rw [is_port_congr (congrFun fds _)]
        exact id
  | @closed _ _ conn listed fixed gone rxlen =>
      apply port_kept before fixed (by simp)
      · intro open_
        have clients := (before.port open_).2
        have apart : s.tty.fd ≠ (s.conn conn).sd := (clients conn listed).symm
        rw [gone.fds]
        exact ⟨closeAt_other _ _ _ apart, closed_clients stable.formed gone clients⟩
      · intro lost port
        exact no_port_closed s _ _ lost ((is_port_congr (congrFun gone.fds _)).mp port)
  | @answered _ io reader bytes peer lines events flow visit visited listed reads answered
      computed =>
      have frame := answered_frame answered
      have told := answered_told computed
      by_cases closing : .line (.closed s₀.tty.fd) ∈ Event.request reader bytes :: events
      · have out : LockedOut initial (trace ++ Event.request reader bytes :: events) :=
          List.mem_append_right trace (before.number ▸ closing)
        refine ⟨frame.ttyFd.trans before.number, ?_, frame.cfg.trans before.cfg,
          fun open_ => absurd out open_, fun _ => ?_⟩
        · rw [frame.ttyFd, frame.serverSd]
          exact before.apart
        · rintro ⟨opening, port⟩
          rw [told.closed closing, frame.ttyFd] at port
          simp at port
      · have fds := told.kept closing
        apply port_kept before (frame_fixed frame) (before.number ▸ closing)
        · intro open_
          rw [fds]
          exact ⟨rfl, frame_clients frame (before.port open_).2⟩
        · rw [is_port_congr (congrFun fds _)]
          exact id
  | @sent _ io writer visit listed owing accepted =>
      have frame := state_conn_set_frame s writer .header
      apply port_kept before (frame_fixed frame) (reply_call_silent _ _ _ _)
      · exact fun open_ => ⟨rfl, frame_clients frame (before.port open_).2⟩
      · exact id
  | @lost _ _ io writer visit listed owing failed fixed gone rxlen =>
      apply port_kept before fixed
      · have silent := reply_call_silent s writer io (.closed initial.tty.fd)
        simpa using silent
      · intro open_
        have clients := (before.port open_).2
        have apart : s.tty.fd ≠ (s.conn writer).sd := (clients writer listed).symm
        rw [gone.fds]
        exact ⟨closeAt_other _ _ _ apart, closed_clients stable.formed gone clients⟩
      · intro lost port
        exact no_port_closed s _ _ lost ((is_port_congr (congrFun gone.fds _)).mp port)

theorem port_stuck {initial s s' : State} {answers : Answers} {trace events : List Event}
    (before : PortUntilLockout initial trace s) (stuck : Stuck s answers events s') :
      PortUntilLockout initial (trace ++ events) s' := by
  cases stuck with
  | @intro reached io conn bytes peer visit visited listed reads untouched =>
      have read : PortUntilLockout initial (trace ++ [.request conn bytes]) reached := by
        apply port_kept before (frame_fixed untouched.frame) (by simp)
        · intro open_
          exact ⟨congrFun untouched.fds _, frame_clients untouched.frame (before.port open_).2⟩
        · rw [is_port_congr (congrFun untouched.fds _)]
          exact id
      exact ⟨read.number, read.apart, read.cfg, read.port, read.lost⟩

theorem started_port_until_lockout {initial : State} (started : Started initial) :
    PortUntilLockout initial [] initial := by
  have own := started_owns_port started
  exact ⟨rfl, own.notListener, rfl, fun _ => ⟨own.port, own.notClient⟩, by simp [LockedOut]⟩

/-- In every reachable state `tty.fd` is a serial port, the one of the start, exactly when
no write has given up on the lock so far, and the configuration is the one of the start. -/
theorem port_until_lockout {longBits : Nat} {initial s : State} {trace : List Event}
    (started : Started initial) (run : Run (step longBits) Admissible initial trace s) :
      (IsPort s s.tty.fd ↔ ¬LockedOut initial trace) ∧
        (¬LockedOut initial trace → s.fds s.tty.fd = some (.serial 0)) ∧
          s.tty.fd = initial.tty.fd ∧ s.cfg = initial.cfg := by
  have reached := run_actions_invariant (fun _ _ admitted => admitted) (PortUntilLockout initial)
    (PortUntilLockout initial) (started_sound started) (started_port_until_lockout started)
    (fun _ _ _ _ _ _ _ stable before action => port_step stable before action)
    (fun _ _ _ _ _ _ _ before stuck => port_stuck before stuck) run
  have held : PortUntilLockout initial trace s := by
    rcases reached.2 with running | ⟨_, left⟩
    · exact running
    · exact left
  refine ⟨⟨fun port out => held.lost out port, fun open_ => ⟨0, (held.port open_).1⟩⟩,
    fun open_ => (held.port open_).1, held.number, held.cfg⟩

theorem port_until_lockout_two_refusals :
    ∃ trace s, LockedOut (freshDaemon (hexOverTcp 0)) trace ∧ s.fds s.tty.fd = some .client ∧
      ¬IsPort s s.tty.fd := by
  obtain ⟨final, trace, run, shown⟩ := run_of_replay_view (step 64) Admissible
    (fun reached => (decide (LockedOut (freshDaemon (hexOverTcp 0)) reached.2),
      reached.1.fds reached.1.tty.fd))
    lockoutThenClient (freshDaemon (hexOverTcp 0)) (true, some .client) (by decide +kernel)
  obtain ⟨out, client⟩ := Prod.mk.inj shown
  have port := (port_until_lockout (fresh_daemon_started _) run).1
  exact ⟨trace, final, of_decide_eq_true out, client,
    fun open_ => port.mp open_ (of_decide_eq_true out)⟩

end GlRs485.PortLoss
