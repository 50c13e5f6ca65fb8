import GlRs485.ClientSockets
import GlRs485.LostConnections

/-!
# The bridge over UDP

One element is queued when the first datagram is reported, and it shares the
descriptor of the listening socket. While nothing is read as the end of a
stream and every reply is taken, the socket stays open and the element queued;
the close of a lost connection, written for TCP, takes both away.
-/

namespace GlRs485.UdpBridge

open CBytes ConnectionQueue BridgeSettings SerialLine SocketBridge ServingVisits HeadPasses
open LoopActions StepOutcomes ClientSockets LostConnections TracedSystem

set_option autoImplicit false

/-- What passes at the socket: `select` reports it readable, `recvfrom` gives a
datagram that is served, or the daemon shows an event. -/
inductive Observed
  | reported
  | datagram (peer : Nat) (bytes : List Byte)
  | shown (event : Event)
  deriving DecidableEq

def peerOf (io : VisitAnswers) : Nat := ((connRead io.recv).map Prod.snd).getD 0

def observeVisit (io : VisitAnswers) : Event → List Observed
  | .request conn bytes => [.datagram (peerOf io) bytes, .shown (.request conn bytes)]
  | event => [.shown event]

def observe (s : State) (answers : Answers) (events : List Event) : List Observed :=
  match answers with
  | .head io => (if acceptsPending s io then [.reported] else []) ++ events.map .shown
  | .visit io => events.flatMap (observeVisit io)

def udpStep (longBits : Nat) : StepFunction State Answers Observed :=
  observing (step longBits) observe

/-- The socket is open, and once a datagram has been reported the queue holds
one element, which has the socket's descriptor. -/
structure ServesUdp (serverSd : Int) (seen : List Observed) (s : State) : Prop where
  listening : s.fds serverSd = some .listener
  queued : .reported ∈ seen → ∃ conn, s.queue.live = [conn] ∧ (s.conn conn).sd = serverSd

def Loses (s : State) : Answers → Prop
  | .head _ => False
  | .visit io => ∃ conn ∈ curconn s, losesConnection s conn io

/-- Before the first report the queue is empty, afterwards it has its one element. -/
inductive Attached (seen : List Observed) (s : State) : Prop
  | before (once : s.oneTime = true) (empty : s.queue.live = []) (unreported : .reported ∉ seen)
  | after {conn : Ptr} (once : s.oneTime = false) (alone : s.queue.live = [conn])
      (shared : (s.conn conn).sd = s.serverSd)

structure UdpHolds (initial : State) (seen : List Observed) (s : State) : Prop where
  sound : Sound s
  fixed : Fixed initial s
  listening : s.pc ≠ .exited → s.fds s.serverSd = some .listener
  attached : s.pc ≠ .exited → Attached seen s

theorem udp_not_tcps {cfg : Cfg} (udp : cfg.isUdp = true) : cfg.isTcps = false := by
  unfold Cfg.isUdp at udp
  unfold Cfg.isTcps
  rw [beq_iff_eq] at udp
  rw [beq_eq_false_iff_ne]
  intro tcps
  have shorter := congrArg (List.take 3) tcps
  rw [List.take_take, show min 3 4 = 3 from rfl, udp] at shorter
  exact absurd shorter (by decide)

theorem visit_reports_nothing (s : State) (io : VisitAnswers) (events : List Event) :
    .reported ∉ observe s (.visit io) events := by
  simp only [observe, List.mem_flatMap, not_exists, not_and]
  intro event _
  cases event <;> simp [observeVisit]

theorem head_reports_iff (s : State) (io : HeadAnswers) (events : List Event) :
    .reported ∈ observe s (.head io) events ↔ acceptsPending s io = true := by
  simp only [observe, List.mem_append, List.mem_map, reduceCtorEq, and_false, exists_false,
    or_false]
  split <;> simp [*]

/-- `conn_open` outside tcps: an element with the listener's descriptor, once. -/
theorem conn_open_udp (s : State) (io : OpenAnswers) (udp : s.cfg.isTcps = false) :
    (connOpen s io).1 =
      if s.oneTime then (enqueue { s with oneTime := false } s.serverSd io.block).1 else s := by
  rw [connOpen, if_neg (by simp [udp])]
  split <;> rfl

theorem attached_kept {seen later : List Observed} {s s' : State} (before : Attached seen s)
    (once : s'.oneTime = s.oneTime) (live : s'.queue.live = s.queue.live)
    (sd : ∀ conn, (s'.conn conn).sd = (s.conn conn).sd) (serverSd : s'.serverSd = s.serverSd)
    (silent : .reported ∈ later → s.oneTime = false) : Attached (seen ++ later) s' := by
  cases before with
  | before unused empty unreported =>
      refine .before (once.trans unused) (live.trans empty) ?_
      intro member
      rcases List.mem_append.mp member with earlier | now
      · exact unreported earlier
      · simp [silent now] at unused
  | after used alone shared =>
      exact .after (once.trans used) (live.trans alone) (by rw [sd, serverSd, shared])

theorem attached_moved {seen : List Observed} {s : State} (pc : Pc) (attached : Attached seen s) :
    Attached seen { s with pc := pc } := by
  cases attached with
  | before once empty unreported => exact .before once empty unreported
  | after once alone shared => exact .after once alone shared

theorem accept_pending_attached {seen later : List Observed} {s : State} {io : OpenAnswers}
    (udp : s.cfg.isTcps = false) (formed : WellFormed s.queue)
    (fresh : ∀ conn ∈ io.block, conn ∉ s.queue.live) (before : Attached seen s)
    (reports : .reported ∈ later → s.serverSd ∈ s.sdsetrd) :
      (acceptPending s io).1.pc = .exited ∨
        (acceptPending s io).1.fds = s.fds ∧ Attached (seen ++ later) (acceptPending s io).1 := by
  unfold acceptPending
  by_cases pending : s.serverSd ∈ s.sdsetrd
  · rw [if_pos pending, conn_open_udp s io udp]
    by_cases once : s.oneTime = true
    · rw [if_pos once]
      cases block : io.block with
      | none => exact Or.inl rfl
      | some conn =>
          have added := enqueue_opened { s with oneTime := false } conn s.serverSd formed
            (fresh conn block)
          refine Or.inr ⟨rfl, ?_⟩
          cases before with
          | before _ empty _ =>
              refine .after rfl (added.live.trans ?_) added.sd
              exact congrArg (· ++ [conn]) empty
          | after used _ _ => simp [used] at once
    · rw [if_neg once]
      rw [Bool.not_eq_true] at once
      exact Or.inr ⟨rfl, attached_kept before rfl rfl (fun _ => rfl) rfl fun _ => once⟩
  · rw [if_neg pending]
    exact Or.inr ⟨rfl, attached_kept before rfl rfl (fun _ => rfl) rfl fun now =>
      absurd (reports now) pending⟩

theorem head_keeps_serving {longBits : Nat} {initial s s' : State} {io : HeadAnswers}
    {seen : List Observed} {events : List Event} (udp : initial.cfg.isUdp = true)
    (untimed : initial.cfg.conntimeout = 0) (holds : UdpHolds initial seen s)
    (admissible : Admissible s (.head io)) (pc : s.pc = .head)
    (outcome : HeadOutcome longBits s io s' events) (running : s'.pc ≠ .exited) :
      s'.fds s.serverSd = some .listener ∧
        Attached (seen ++ observe s (.head io) events) s' := by
  have inLoop : s.pc ≠ .exited := by simp [pc]
  have listening := holds.listening inLoop
  have attached := holds.attached inLoop
  have reports := head_reports_iff s io events
  cases outcome with
  | waited place unready =>
      refine ⟨listening, attached_kept attached rfl rfl (fun _ => rfl) rfl ?_⟩
      intro member
      rw [reports, acceptsPending] at member
      cases selected : io.select with
      | ready readable writable => exact absurd selected (unready readable writable)
      | _ => simp [selected] at member
  | purged selected listed out =>
      have timed : s.cfg.conntimeout ≠ 0 := (of_decide_eq_true out).1
      rw [holds.fixed.cfg] at timed
      exact absurd untimed timed
  | @spared nfds tvSec readable writable toutSec tout rc conns selected =>
      let timed := afterExpiry s readable writable toutSec conns tout
      have pending : .reported ∈ observe s (.head io)
          (.selected nfds (askedToRead s) (askedToWrite s) tvSec ::
            (acceptPending timed io.opening).2) → timed.serverSd ∈ timed.sdsetrd := by
        intro member
        rw [head_reports_iff, acceptsPending, selected] at member
        exact List.mem_filter.mpr ⟨by simp [askedToRead, timed, afterExpiry, charged, afterSelect],
          member⟩
      have start : Attached (seen ++ []) timed := attached_kept attached rfl rfl
        (charged_sd (afterSelect s readable writable) toutSec conns) rfl (by simp)
      rw [List.append_nil] at start
      have notTcps : timed.cfg.isTcps = false := udp_not_tcps (holds.fixed.cfg ▸ udp)
      rcases accept_pending_attached notTcps (charged_well_formed _ _ _ holds.sound.formed)
        admissible.2.1 start pending with exited | ⟨fds, after⟩
      · rw [start_serving_exited _ rc exited] at running
        exact absurd exited running
      · rw [start_serving_eq]
        exact ⟨(congrFun fds s.serverSd).trans listening, attached_moved _ after⟩

theorem visit_keeps_serving {initial s s' : State} {more : Nat} {conn : Ptr} {io : VisitAnswers}
    {seen : List Observed} {events : List Event} (apart : initial.tty.fd ≠ initial.serverSd)
    (holds : UdpHolds initial seen s) (sizes : ∀ answer ∈ io.recv, answer.size ≤ 256)
    (keeps : ¬Loses s (.visit io)) (outcome : VisitOutcome s more conn io s' events) :
      s'.fds s.serverSd = some .listener ∧
        Attached (seen ++ observe s (.visit io) events) s' := by
  have inLoop : s.pc ≠ .exited := by simp [outcome.pc]
  have notLost : ¬losesConnection s conn io := fun lost =>
    keeps ⟨conn, by simp [curconn, outcome.pc], lost⟩
  have stays := (serve_conn_loses s conn io sizes).not.mpr notLost
  have served := serve_conn_served s conn io
  rw [outcome.after]
  generalize serveConn s conn io = left at served stays
  obtain ⟨middle, shown, flow⟩ := left
  cases served with
  | closed frame fds => exact absurd ⟨_, rfl⟩ stays
  | kept frame fds _ =>
      constructor
      · rw [← holds.listening inLoop]
        rcases fds with same | ⟨_, _, closed⟩
        · exact congrFun same _
        · refine (congrFun closed _).trans (closeAt_other _ _ _ ?_)
          rw [holds.fixed.ttyFd, holds.fixed.serverSd]
          exact apart.symm
      · exact attached_moved _ (attached_kept (holds.attached inLoop) frame.oneTime frame.live
          frame.sdEq frame.serverSd fun member => absurd member (visit_reports_nothing s io events))

/-- The steps in which the connection is not taken for a lost one. -/
def KeepsConnection (s : State) (answers : Answers) : Prop :=
  Admissible s answers ∧ ¬Loses s answers

theorem udp_step_holds {longBits : Nat} {initial s s' : State} {answers : Answers}
    {seen later : List Observed} (udp : initial.cfg.isUdp = true)
    (untimed : initial.cfg.conntimeout = 0) (apart : initial.tty.fd ≠ initial.serverSd)
    (holds : UdpHolds initial seen s) (allowed : KeepsConnection s answers)
    (taken : udpStep longBits s answers = some (s', later)) :
      UdpHolds initial (seen ++ later) s' := by
  obtain ⟨events, stepped, rfl⟩ := observing_taken taken
  have outcome := step_outcome holds.sound stepped
  have next := step_fixed outcome
  have serving : s'.pc ≠ .exited → s'.fds s.serverSd = some .listener ∧
      Attached (seen ++ observe s answers events) s' := by
    intro running
    cases outcome with
    | visit outcome =>
        exact visit_keeps_serving apart holds allowed.1.1 allowed.2 outcome
    | head pc outcome =>
        exact head_keeps_serving udp untimed holds allowed.1 pc outcome running
  have fixed : Fixed initial s' := ⟨next.cfg.trans holds.fixed.cfg,
    next.serverSd.trans holds.fixed.serverSd, next.ttyFd.trans holds.fixed.ttyFd⟩
  exact ⟨(step_going holds.sound allowed.1 stepped).1, fixed,
    fun running => by rw [next.serverSd]; exact (serving running).1,
    fun running => (serving running).2⟩

theorem started_udp_holds {initial : State} (started : Started initial) :
    UdpHolds initial [] initial ∧ initial.tty.fd ≠ initial.serverSd := by
  have sound := started_sound started
  obtain ⟨empty, _⟩ := started_empty started
  obtain ⟨io, rfl, _, _, apart⟩ := started_initial started
  exact ⟨⟨sound, ⟨rfl, rfl, rfl⟩, fun _ => openAt_same _ _ _,
    fun _ => .before rfl empty (by simp)⟩, apart.symm⟩

theorem udp_run_holds {longBits : Nat} {initial s : State} {seen : List Observed}
    (started : Started initial) (udp : initial.cfg.isUdp = true)
    (untimed : initial.cfg.conntimeout = 0)
    (run : Run (udpStep longBits) KeepsConnection initial seen s) : UdpHolds initial seen s := by
  obtain ⟨start, apart⟩ := started_udp_holds started
  exact run_invariant (UdpHolds initial) start
    (fun _ _ _ _ _ holds allowed taken => udp_step_holds udp untimed apart holds allowed taken) run

theorem udp_holds_serves {initial s : State} {seen : List Observed}
    (holds : UdpHolds initial seen s) (running : s.pc ≠ .exited) :
      ServesUdp initial.serverSd seen s := by
  rw [← holds.fixed.serverSd]
  refine ⟨holds.listening running, ?_⟩
  intro reported
  cases holds.attached running with
  | before _ _ unreported => exact absurd reported unreported
  | @after conn _ alone shared => exact ⟨conn, alone, shared⟩

theorem losing_ends_service {longBits : Nat} {initial s s' : State} {seen later : List Observed}
    {answers : Answers} (holds : UdpHolds initial seen s) (inLoop : s.pc ≠ .exited)
    (admissible : Admissible s answers) (loses : Loses s answers)
    (taken : udpStep longBits s answers = some (s', later)) :
      ¬ServesUdp initial.serverSd (seen ++ later) s' := by
  intro serves
  obtain ⟨events, stepped, _⟩ := observing_taken taken
  cases step_outcome holds.sound stepped with
  | head _ _ => exact loses
  | @visit io more conn outcome =>
      obtain ⟨here, stands, lost⟩ := loses
      have same : here = conn := by simpa [curconn, outcome.pc] using stands.symm
      subst same
      -- the connection's descriptor is the socket of the bridge
      have shared : (s.conn here).sd = initial.serverSd := by
        have listed := outcome.listed
        rw [← holds.fixed.serverSd]
        cases holds.attached inLoop with
        | before _ empty _ => simp [empty] at listed
        | @after conn _ alone shared =>
            rw [alone, List.mem_singleton] at listed
            rwa [listed]
      have gone := lost_connection_closed s here io admissible.1 lost
      have listening := serves.listening
      rw [shared] at gone
      rw [outcome.after] at listening
      exact absurd (listening.symm.trans gone) (by simp)

/-- A run that loses no connection keeps the bridge serving, and any next step
does so exactly when it loses none either. -/
theorem udp_serves_iff_keeps_connection {longBits : Nat} {initial s : State}
    {seen : List Observed} (started : Started initial) (udp : initial.cfg.isUdp = true)
    (untimed : initial.cfg.conntimeout = 0)
    (run : Run (udpStep longBits) KeepsConnection initial seen s) (running : s.pc ≠ .exited) :
      ServesUdp initial.serverSd seen s ∧
        ∀ answers s' later, Admissible s answers → udpStep longBits s answers = some (s', later) →
          s'.pc ≠ .exited →
            (ServesUdp initial.serverSd (seen ++ later) s' ↔ ¬Loses s answers) := by
  have holds := udp_run_holds started udp untimed run
  refine ⟨udp_holds_serves holds running, ?_⟩
  intro answers s' later admissible taken runningAfter
  constructor
  · intro serves loses
    exact losing_ends_service holds running admissible loses taken serves
  · intro keeps
    have apart := (started_udp_holds started).2
    exact udp_holds_serves (udp_step_holds udp untimed apart holds ⟨admissible, keeps⟩ taken)
      runningAfter

instance (s : State) : (answers : Answers) → Decidable (Loses s answers)
  | .head _ => isFalse not_false
  | .visit io =>
      decidable_of_iff ((curconn s).any (fun conn => decide (losesConnection s conn io)) = true) (by
        cases here : curconn s <;> simp [Loses, here])

instance (s : State) (answers : Answers) : Decidable (KeepsConnection s answers) :=
  inferInstanceAs (Decidable (_ ∧ _))

def hexOverUdp : Cfg := ⟨0, 32, 0, 0, ascii "hex", ascii "udp"⟩

def serveDatagram (peer : Nat) (bytes answer : List Byte) (sends : Nat) : Answers :=
  .visit
    { recv := [.data bytes peer]
      lockFails := 0
      written := [bytes.length]
      received := [.data answer]
      send := [.accepted sends]
      scrap := blankConn }

def twoPeers : List Answers :=
  [passWith [4] [] 5 1, serveDatagram 70 [1, 2] [9] 0,
    passWith [] [4] 5 2, serveDatagram 0 [] [] 1,
    passWith [4] [] 5 2, serveDatagram 80 [3] [8, 7] 0,
    passWith [] [4] 5 2, serveDatagram 0 [] [] 2]

theorem udp_serves_iff_keeps_connection_for_two_peers :
    ∃ seen s, (.reported ∈ seen ∧ s.queue.live = [1]) ∧ ServesUdp 4 seen s := by
  obtain ⟨s, seen, run, shown⟩ := run_of_replay_view (udpStep 64) KeepsConnection
    (fun reached => (decide (Observed.reported ∈ reached.2), reached.1.queue.live,
      decide (reached.1.pc = .exited)))
    twoPeers (freshDaemon hexOverUdp) (true, [1], false) (by decide +kernel)
  simp only [Prod.mk.injEq, decide_eq_true_eq, decide_eq_false_iff_not] at shown
  obtain ⟨reported, alone, running⟩ := shown
  exact ⟨seen, s, ⟨reported, alone⟩, (udp_serves_iff_keeps_connection (fresh_daemon_started _)
    (by decide) (by decide) run running).1⟩

def emptyDatagram : List Answers := [passWith [4] [] 5 1, serveDatagram 70 [] [] 0]

theorem empty_datagram_takes_the_bridge_down :
    ∃ seen s, Run (udpStep 64) Admissible (freshDaemon hexOverUdp) seen s ∧
      s.pc = .head ∧ .reported ∈ seen ∧ s.fds 4 = none ∧ s.queue.live = [] ∧
        ¬ServesUdp 4 seen s := by
  obtain ⟨s, seen, run, shown⟩ := run_of_replay_view (udpStep 64) Admissible
    (fun reached => (reached.1.pc, decide (Observed.reported ∈ reached.2), reached.1.fds 4,
      reached.1.queue.live))
    emptyDatagram (freshDaemon hexOverUdp) (.head, true, none, []) (by decide +kernel)
  simp only [Prod.mk.injEq, decide_eq_true_eq] at shown
  obtain ⟨head, reported, gone, empty⟩ := shown
  refine ⟨seen, s, run, head, reported, gone, empty, ?_⟩
  intro serves
  exact absurd (serves.listening.symm.trans gone) (by simp)

end GlRs485.UdpBridge
