import GlRs485.WaitingReplies

/-!
# What a client gets through the socket bridge

Untyped bytes go through `memcpy` on the way to the line and through `strncpy`
on the way back. The request always arrives as it is; the answer does exactly
when its zero bytes all stand at its end.
-/

namespace GlRs485.SocketTransparency

open CBytes ConnectionQueue BridgeSettings SerialLine SocketBridge ServingVisits HeadPasses
open LoopActions WaitingReplies TracedSystem

set_option autoImplicit false

/-- The latest request with its client, the bytes the line took since, and those
it gave. -/
structure Exchange where
  client : Option Ptr
  request : List Byte
  written : List Byte
  answer : List Byte
  deriving DecidableEq

def noteExchange (exchange : Exchange) : Event → Exchange
  | .request conn bytes => ⟨some conn, bytes, [], []⟩
  | .line (.sent _ _ accepted) => { exchange with written := exchange.written ++ accepted }
  | .line (.received _ (.data bytes)) => { exchange with answer := exchange.answer ++ bytes }
  | _ => exchange

def exchangeOf (trace : List Event) : Exchange := trace.foldl noteExchange ⟨none, [], [], []⟩

theorem exchangeOf_append (trace events : List Event) :
    exchangeOf (trace ++ events) = events.foldl noteExchange (exchangeOf trace) := by
  rw [exchangeOf, List.foldl_append]
  rfl

theorem note_locks (fd : Int) (fails timeOut : Nat) (exchange : Exchange) :
    ((flockLoop fd fails timeOut).2.map Event.line).foldl noteExchange exchange = exchange := by
  apply notes_unchanged
  intro event member
  obtain ⟨call, locking, rfl⟩ := List.mem_map.mp member
  obtain ⟨obtained, rfl⟩ := flock_loop_events fd fails timeOut call locking
  rfl

theorem note_reads (fd : Int) (results : List RxResult) (buf : Buf) (exchange : Exchange) :
    ((ttyRead fd results buf).events.map Event.line).foldl noteExchange exchange =
      { exchange with
        answer := exchange.answer ++ (ttyRead fd results buf).events.flatMap lineData } := by
  have reads := receive_loop_events fd results buf 0
  unfold ttyRead
  revert reads
  generalize (receiveLoop fd results buf 0).events = events
  intro reads
  induction events generalizing exchange with
  | nil => simp
  | cons event rest ih =>
      obtain ⟨result, shown⟩ := reads event (by simp)
      have later := fun exchange => ih exchange fun other member => reads other (by simp [member])
      subst shown
      cases result with
      | failed stored => simp [noteExchange, lineData, later]
      | data bytes => simp [noteExchange, lineData, later]

theorem tty_answer_untyped (s : State) (conn : Ptr) (io : VisitAnswers)
    (untyped : s.cfg.isStr = false)
    (nonempty : 0 < (ttyRead s.tty.fd io.received s.tty.rxbuf).count) :
      (ttyAnswer s conn io).1.tty.rxlen =
          (ttyRead s.tty.fd io.received s.tty.rxbuf).count.toNat ∧
        ∃ target, ((ttyAnswer s conn io).1.conn conn).buf =
          strncpy target (ttyRead s.tty.fd io.received s.tty.rxbuf).buf
            (ttyRead s.tty.fd io.received s.tty.rxbuf).count.toNat := by
  have reads : ¬ (ttyRead s.tty.fd io.received s.tty.rxbuf).count ≤ 0 := by omega
  have hex : ¬ s.cfg.isStr = true := by simp [untyped]
  unfold ttyAnswer
  dsimp only
  rw [if_neg reads, if_neg (show ¬ _ from hex)]
  constructor
  · rfl
  · rw [finish_reply_buf, update_conn_same]
    exact ⟨_, rfl⟩

theorem heard_state_tty (s : State) (conn : Ptr) (peer : Nat) :
    (heardState s conn peer).tty = s.tty := by
  unfold heardState
  dsimp only
  split <;> rfl

theorem load_request_writebuf (s : State) (conn : Ptr) (bytes : List Byte) :
    cells (loadRequest s conn bytes).tty.writebuf (loadRequest s conn bytes).tty.txlen = bytes := by
  have stored := cells_store (s.conn conn).buf 0 bytes
  rw [Nat.zero_add, show cells (s.conn conn).buf 0 = [] from rfl, List.nil_append] at stored
  calc
    cells (loadRequest s conn bytes).tty.writebuf bytes.length =
        cells (store (s.conn conn).buf 0 bytes) bytes.length := by
      simp only [loadRequest, update_conn_same, cells_memcpy]
    _ = bytes := stored

/-- Every call on the line during a read request succeeds, and the answer has
between one and 262 bytes. -/
def LineWorks (s : State) : Answers → Prop
  | .head _ => True
  | .visit io => ∀ conn ∈ curconn s, readsRequest s conn io = true →
      io.lockFails ≤ 30 ∧
        (∀ received ∈ connRead io.recv, acceptedBytes io.written received.1 = received.1) ∧
        (∀ result ∈ io.received, result.fails = false) ∧
        0 < (ttyRead s.tty.fd io.received s.tty.rxbuf).count ∧
        (ttyRead s.tty.fd io.received s.tty.rxbuf).count ≤ bufSize

def wholeWrite (fd : Int) (fails : Nat) (bytes : List Byte) : List LineEvent :=
  .flushed fd :: ((flockLoop fd fails 0).2 ++ [.flushed fd, .sent fd bytes bytes])

theorem note_whole_write (fd : Int) (fails : Nat) (bytes : List Byte) (exchange : Exchange) :
    ((wholeWrite fd fails bytes).map Event.line).foldl noteExchange exchange =
      { exchange with written := exchange.written ++ bytes } := by
  have locks := note_locks fd fails 0 exchange
  simp only [wholeWrite, List.map_cons, List.map_append, List.foldl_cons, List.foldl_append]
  rw [show noteExchange exchange (.line (.flushed fd)) = exchange from rfl, locks]
  rfl

theorem tty_request_written (s : State) (conn : Ptr) (io : VisitAnswers) (bytes : List Byte)
    (ready : s.tty.fd ∈ s.sdsetwr) (port : 0 ≤ s.tty.fd) (locked : io.lockFails ≤ 30)
    (loaded : cells s.tty.writebuf s.tty.txlen = bytes)
    (taken : acceptedBytes io.written bytes = bytes) :
      ttyRequest s conn io = ((ttyAnswer s conn io).1,
        (wholeWrite s.tty.fd io.lockFails bytes).map .line ++ (ttyAnswer s conn io).2.1,
          (ttyAnswer s conn io).2.2) := by
  have written : ttyWrite s.tty.fd io.lockFails io.written (cells s.tty.writebuf s.tty.txlen) =
      ((bytes.length : Int), (flockLoop s.tty.fd io.lockFails 0).2 ++
        [.flushed s.tty.fd, .sent s.tty.fd bytes bytes]) := by
    rw [loaded, tty_write_obtained _ _ _ _ port locked, taken]
  have noClosing : .closed s.tty.fd ∉ (flockLoop s.tty.fd io.lockFails 0).2 ++
      [.flushed s.tty.fd, .sent s.tty.fd bytes bytes] := by
    intro member
    rcases List.mem_append.mp member with locking | writing
    · exact (flock_loop_line _ _ _ _ locking).2 rfl
    · simp at writing
  have unclosed : afterWrite s io = s := by
    rw [afterWrite, written, if_neg noClosing]
  rw [tty_request_eq s conn io ready, writeCalls, written, unclosed]
  dsimp only
  rw [if_neg (by omega)]
  rfl

theorem tty_answer_carried (s : State) (conn : Ptr) (io : VisitAnswers)
    (untyped : s.cfg.isStr = false) (noneFailed : ∀ result ∈ io.received, result.fails = false)
    (nonempty : 0 < (ttyRead s.tty.fd io.received s.tty.rxbuf).count) :
      cells ((ttyAnswer s conn io).1.conn conn).buf (ttyAnswer s conn io).1.tty.rxlen =
          (ttyRead s.tty.fd io.received s.tty.rxbuf).events.flatMap lineData ↔
        NulsAtEnd ((ttyRead s.tty.fd io.received s.tty.rxbuf).events.flatMap lineData) := by
  obtain ⟨counted, stored⟩ := receive_loop_stores s.tty.fd io.received s.tty.rxbuf 0 noneFailed
  obtain ⟨rxlen, target, buf⟩ := tty_answer_untyped s conn io untyped nonempty
  have length : (ttyRead s.tty.fd io.received s.tty.rxbuf).count.toNat =
      ((ttyRead s.tty.fd io.received s.tty.rxbuf).events.flatMap lineData).length := by
    unfold ttyRead
    rw [counted]
    omega
  have source : cells (ttyRead s.tty.fd io.received s.tty.rxbuf).buf
      (ttyRead s.tty.fd io.received s.tty.rxbuf).count.toNat =
        (ttyRead s.tty.fd io.received s.tty.rxbuf).events.flatMap lineData := by
    rw [length]
    rw [Nat.zero_add] at stored
    exact stored
  rw [rxlen, buf, ← source]
  exact cells_strncpy_eq_iff target _ _

theorem dispatch_untyped {s s' : State} {conn : Ptr} {io : VisitAnswers} {bytes : List Byte}
    {peer : Nat} {events : List Event} {flow : Flow} (untyped : s.cfg.isStr = false)
    (port : 0 ≤ s.tty.fd) (locked : io.lockFails ≤ 30)
    (taken : acceptedBytes io.written bytes = bytes)
    (noneFailed : ∀ result ∈ io.received, result.fails = false)
    (nonempty : 0 < (ttyRead s.tty.fd io.received s.tty.rxbuf).count)
    (computed : dispatchRequest (loadRequest (heardState s conn peer) conn bytes) conn io =
      (s', events, flow)) :
      flow = .done ∧ ∃ answer,
        events.foldl noteExchange ⟨some conn, bytes, [], []⟩ = ⟨some conn, bytes, bytes, answer⟩ ∧
        (cells (s'.conn conn).buf s'.tty.rxlen = answer ↔ NulsAtEnd answer) := by
  have writebuf := load_request_writebuf (heardState s conn peer) conn bytes
  have ready : (loadRequest (heardState s conn peer) conn bytes).tty.fd ∈
      (loadRequest (heardState s conn peer) conn bytes).sdsetwr := by
    simp [loadRequest]
  have rxbuf : (loadRequest (heardState s conn peer) conn bytes).tty.rxbuf = s.tty.rxbuf := by
    show (heardState s conn peer).tty.rxbuf = s.tty.rxbuf
    rw [heard_state_tty]
  have frame := loaded_frame s conn peer bytes
  generalize loadRequest (heardState s conn peer) conn bytes = loaded at *
  have ttyFd : loaded.tty.fd = s.tty.fd := frame.ttyFd
  have stillUntyped : loaded.cfg.isStr = false := by rw [frame.cfg, untyped]
  rw [← ttyFd] at port
  rw [← ttyFd, ← rxbuf] at nonempty
  obtain ⟨formedEvents, formed, shown, done⟩ := tty_answer_formed loaded conn io
  have carried := tty_answer_carried loaded conn io stillUntyped noneFailed nonempty
  have dispatched : dispatchRequest loaded conn io = ttyRequest loaded conn io :=
    if_neg (by simp [stillUntyped])
  rw [dispatched, tty_request_written loaded conn io bytes ready port locked writebuf taken,
    done, shown, formed.shown] at computed
  obtain ⟨sameState, rest⟩ := Prod.mk.inj computed
  obtain ⟨sameEvents, sameFlow⟩ := Prod.mk.inj rest
  refine ⟨sameFlow.symm, _, ?_, by rw [← sameState]; exact carried⟩
  rw [← sameEvents, List.foldl_append, note_whole_write, List.foldl_append, note_reads]
  simp [noteExchange]

def ServesOneClient (s : State) (answers : Answers) : Prop :=
  Admissible s answers ∧ s.queue.live.length ≤ 1 ∧ LineWorks s answers

/-- At a reply call the line has had the client's request, and what is offered is
the answer exactly when the zeros of the answer all stand at its end. -/
def CarriesExchange (before : List Event) : Event → Prop
  | .replied conn _ _ bytes _ =>
      (exchangeOf before).client = some conn ∧
        (exchangeOf before).written = (exchangeOf before).request ∧
          (bytes = (exchangeOf before).answer ↔ NulsAtEnd (exchangeOf before).answer)
  | _ => True

/-- A waiting reply is what `strncpy` made of the answer to the latest request. -/
structure ExchangeInPlace (initial : State) (trace : List Event) (s : State) : Prop where
  cfg : s.cfg = initial.cfg
  ttyFd : s.tty.fd = initial.tty.fd
  waiting : ∀ conn ∈ s.queue.live, (s.conn conn).state = .resp →
    (exchangeOf trace).client = some conn ∧
      (exchangeOf trace).written = (exchangeOf trace).request ∧
        (cells (s.conn conn).buf s.tty.rxlen = (exchangeOf trace).answer ↔
          NulsAtEnd (exchangeOf trace).answer)
  carried : Judged CarriesExchange trace

theorem exchangeOf_plain (trace events : List Event) (plain : ∀ event ∈ events, Plain event) :
    exchangeOf (trace ++ events) = exchangeOf trace := by
  rw [exchangeOf_append]
  apply notes_unchanged
  intro event member
  have silent := plain event member
  cases event <;> first | rfl | exact silent.elim

theorem exchangeOf_replyCall (trace : List Event) (s : State) (conn : Ptr) (io : VisitAnswers) :
    exchangeOf (trace ++ [replyCall s conn io]) = exchangeOf trace := by
  rw [exchangeOf_append]
  unfold replyCall
  split <;> rfl

theorem carriesExchange_silent (before : List Event) (event : Event) (silent : NoReplyCall event) :
    CarriesExchange before event := by
  cases event <;> trivial

theorem only_one {conns : List Ptr} {first second : Ptr} (single : conns.length ≤ 1)
    (listedFirst : first ∈ conns) (listedSecond : second ∈ conns) : first = second := by
  cases conns with
  | nil => simp at listedFirst
  | cons conn rest =>
      cases rest with
      | nil =>
          rw [List.mem_singleton.mp listedFirst, List.mem_singleton.mp listedSecond]
      | cons other more => simp at single

/-- The step lemma: with one client on a working line every action keeps the exchange. -/
theorem exchange_in_place_step {initial s₀ s s' : State} {answers : Answers}
    {trace events : List Event} (untyped : initial.cfg.isStr = false) (port : 0 ≤ initial.tty.fd)
    (serves : ServesOneClient s₀ answers) (before : ExchangeInPlace initial trace s)
    (waits : Waits s₀ answers s events s') : ExchangeInPlace initial (trace ++ events) s' := by
  cases waits with
  | kept waiting plain =>
      refine ⟨waiting.fixed.cfg.trans before.cfg, waiting.fixed.ttyFd.trans before.ttyFd, ?_, ?_⟩
      · intro conn listed owing
        obtain ⟨listedBefore, owingBefore, buf⟩ := waiting.waiting conn listed owing
        rw [exchangeOf_plain trace events plain, buf, waiting.rxlen]
        exact before.waiting conn listedBefore owingBefore
      · exact judged_append before.carried fun earlier event member =>
          carriesExchange_silent earlier event (plain_no_reply event (plain event member))
  | @replied _ _ io writer rest listed owing waiting plain =>
      have own := before.waiting writer listed owing
      rw [← List.singleton_append, ← List.append_assoc]
      refine ⟨waiting.fixed.cfg.trans before.cfg, waiting.fixed.ttyFd.trans before.ttyFd, ?_, ?_⟩
      · intro conn listedAfter owingAfter
        obtain ⟨listedBefore, owingBefore, buf⟩ := waiting.waiting conn listedAfter owingAfter
        rw [exchangeOf_plain _ rest plain, exchangeOf_replyCall, buf, waiting.rxlen]
        exact before.waiting conn listedBefore owingBefore
      · apply judged_append
        · apply judged_snoc before.carried
          unfold replyCall
          split <;> exact own
        · exact fun earlier event member =>
            carriesExchange_silent earlier event (plain_no_reply event (plain event member))
  | @answered _ io reader bytes peer lines events flow visit stands listed reads answered
      computed =>
      subst visit
      obtain ⟨admissible, single, works⟩ := serves
      have frame := answered_frame answered
      obtain ⟨locked, taken, noneFailed, nonempty, fits⟩ :=
        works reader stands (reads_request _ _ _ _ _ reads)
      obtain ⟨done, answer, noted, copied⟩ := dispatch_untyped (by rw [before.cfg]; exact untyped)
        (by rw [before.ttyFd]; exact port) locked (taken (bytes, peer) reads.heard) noneFailed
        nonempty computed
      have exchange : exchangeOf (trace ++ .request reader bytes :: events) =
          ⟨some reader, bytes, bytes, answer⟩ := by
        rw [exchangeOf_append, List.foldl_cons]
        exact noted
      refine ⟨frame.cfg.trans before.cfg, frame.ttyFd.trans before.ttyFd, ?_, ?_⟩
      · intro conn listedAfter owing
        have same : conn = reader := only_one single (frame.live ▸ listedAfter) listed
        rw [exchange, same]
        exact ⟨rfl, rfl, copied⟩
      · exact judged_append before.carried fun earlier event member =>
          carriesExchange_silent earlier event (answered_no_reply answered event member)

/-- A request that is read ends in a waiting reply, and a waiting reply goes out
at the first visit that finds the client writable. -/
structure KeepsServing (longBits : Nat) (s : State) : Prop where
  answers : ∀ more conn io bytes peer, ServesOneClient s (.visit io) →
    s.pc = .serving more (some conn) → Reads s conn io bytes peer →
      ∃ s' events, step longBits s (.visit io) = some (s', events) ∧ (s'.conn conn).state = .resp
  delivers : ∀ more conn io, s.pc = .serving more (some conn) → (s.conn conn).state = .resp →
    (s.conn conn).sd ∈ s.sdsetwr →
      ∃ s' events, step longBits s (.visit io) = some (s', replyCall s conn io :: events)

theorem keeps_serving {initial s : State} {trace : List Event} (longBits : Nat)
    (untyped : initial.cfg.isStr = false) (port : 0 ≤ initial.tty.fd)
    (inPlace : ExchangeInPlace initial trace s) : KeepsServing longBits s := by
  constructor
  · intro more conn io bytes peer serves pc reads
    obtain ⟨locked, taken, noneFailed, nonempty, fits⟩ :=
      serves.2.2 conn (by simp [curconn, pc]) (reads_request _ _ _ _ _ reads)
    have cases := dispatch_request_cases (loadRequest (heardState s conn peer) conn bytes) conn io
      (by simp [loadRequest])
    generalize computed :
      dispatchRequest (loadRequest (heardState s conn peer) conn bytes) conn io = dispatched
      at cases
    obtain ⟨after, events, flow⟩ := dispatched
    obtain ⟨done, _⟩ := dispatch_untyped (by rw [inPlace.cfg]; exact untyped)
      (by rw [inPlace.ttyFd]; exact port) locked (taken (bytes, peer) reads.heard) noneFailed
      nonempty computed
    subst done
    have owing : (after.conn conn).state = .resp := by
      rcases cases with ⟨endless, _⟩ | ⟨_, answered, _⟩
      · simp at endless
      · exact answered.state
    have stepped : step longBits s (.visit io) = some ((advance after more (some conn)).1,
        .request conn bytes :: events ++ (advance after more (some conn)).2) := by
      simp only [step, pc, visitStep, serve_conn_reads reads computed]
    refine ⟨_, _, stepped, ?_⟩
    cases more with
    | zero => exact owing
    | succ less => exact owing
  · intro more conn io pc owing writable
    have served : serveConn s conn io = socketSend s conn io := by rw [serveConn, owing]
    rcases socket_send_cases s conn io with ⟨held, _⟩ | ⟨_, sent⟩ | ⟨_, lost⟩
    · exact absurd writable held
    · have stepped : step longBits s (.visit io) =
          some ((advance (stateConnSet s conn .header) more (some conn)).1,
            replyCall s conn io :: (advance (stateConnSet s conn .header) more (some conn)).2) := by
        simp only [step, pc, visitStep, served, sent]
        rfl
      exact ⟨_, _, stepped⟩
    · have stepped : step longBits s (.visit io) =
          some ((advance (connClose s conn io.scrap).1 more (connClose s conn io.scrap).2).1,
            replyCall s conn io :: .closed conn (s.conn conn).sd ::
              (advance (connClose s conn io.scrap).1 more (connClose s conn io.scrap).2).2) := by
        simp only [step, pc, visitStep, served, lost]
        rfl
      exact ⟨_, _, stepped⟩

/-- The socket bridge carries untyped bytes of one client: requests always, an
answer exactly when its zeros all stand at its end. -/
theorem socket_bridge_carries_answer_iff {longBits : Nat} {initial s : State} {trace : List Event}
    (started : Started initial) (untyped : initial.cfg.isStr = false)
    (run : Run (step longBits) ServesOneClient initial trace s) :
      Judged CarriesExchange trace ∧ KeepsServing longBits s := by
  have port := started_port started
  have empty : ExchangeInPlace initial [] initial := by
    refine ⟨rfl, rfl, ?_, judged_nil CarriesExchange⟩
    intro conn listed
    rw [(started_empty started).1] at listed
    simp at listed
  have reached := run_actions_invariant (fun _ _ allowed => allowed.1) (ExchangeInPlace initial)
    (fun trace _ => Judged CarriesExchange trace) (started_sound started) empty
    (fun _ _ allowed _ _ _ _ stable before action =>
      exchange_in_place_step untyped port allowed before (action_waits stable action))
    (fun _ _ _ _ _ _ _ before stuck => by
      apply judged_append before.carried
      cases stuck
      simp [CarriesExchange])
    run
  rcases reached.2 with running | ⟨endless, left⟩
  · exact ⟨running.carried, keeps_serving longBits untyped port running⟩
  · refine ⟨left, ?_, ?_⟩
    · intro more conn io bytes peer serves pc reads
      rw [endless] at pc
      simp at pc
    · intro more conn io pc owing writable
      rw [endless] at pc
      simp at pc

instance (s : State) : (answers : Answers) → Decidable (LineWorks s answers)
  | .head _ => isTrue trivial
  | .visit io => inferInstanceAs (Decidable (∀ conn ∈ curconn s, readsRequest s conn io = true →
      io.lockFails ≤ 30 ∧
        (∀ received ∈ connRead io.recv, acceptedBytes io.written received.1 = received.1) ∧
        (∀ result ∈ io.received, result.fails = false) ∧
        0 < (ttyRead s.tty.fd io.received s.tty.rxbuf).count ∧
        (ttyRead s.tty.fd io.received s.tty.rxbuf).count ≤ bufSize))

instance (s : State) (answers : Answers) : Decidable (ServesOneClient s answers) :=
  inferInstanceAs (Decidable (_ ∧ _ ∧ _))

def oneExchange (request answer : List Byte) : List Answers :=
  [passWith [4] [] 5 1, visitWith [] 0 [] 0,
    passWith [5] [] 6 2, visitWith request 0 [.data answer] 0,
    passWith [] [5] 6 2, visitWith [] 0 [] answer.length]

theorem socket_bridge_carries_answer_ending_in_zeros :
    ∃ trace s, .replied 1 5 none [9, 8, 0, 0] 4 ∈ trace ∧
      Judged CarriesExchange trace ∧ KeepsServing 64 s := by
  obtain ⟨s, trace, run, shown⟩ := run_of_replay_view (step 64) ServesOneClient
    (fun reached => decide (Event.replied 1 5 none [9, 8, 0, 0] 4 ∈ reached.2))
    (oneExchange [1, 0, 3] [9, 8, 0, 0]) (freshDaemon (hexOverTcp 0)) true (by decide +kernel)
  exact ⟨trace, s, of_decide_eq_true shown,
    socket_bridge_carries_answer_iff (fresh_daemon_started _) (by decide) run⟩

/-- The three bytes after the zero of a Modbus answer reach the client as zeros. -/
theorem zero_inside_answer_cuts_it :
    ∃ trace s, Run (step 64) ServesOneClient (freshDaemon (hexOverTcp 0)) trace s ∧
      ∃ before bytes, trace = before ++ [.replied 1 5 none bytes 7] ∧
        (exchangeOf before).answer = [1, 3, 2, 0, 21, 120, 75] ∧
          bytes = [1, 3, 2, 0, 0, 0, 0] := by
  obtain ⟨s, trace, run, shown⟩ := run_of_replay_view (step 64) ServesOneClient
    (fun reached => (reached.2.getLast?, (exchangeOf reached.2.dropLast).answer))
    (oneExchange [1, 3, 0, 0, 0, 1, 132, 10] [1, 3, 2, 0, 21, 120, 75]) (freshDaemon (hexOverTcp 0))
    (some (.replied 1 5 none [1, 3, 2, 0, 0, 0, 0] 7), [1, 3, 2, 0, 21, 120, 75])
    (by decide +kernel)
  obtain ⟨last, answer⟩ := Prod.mk.inj shown
  exact ⟨trace, s, run, trace.dropLast, _, (List.dropLast_append_getLast? _ last).symm, answer, rfl⟩

end GlRs485.SocketTransparency
