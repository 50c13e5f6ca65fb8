import GlRs485.SocketBridge

/-!
# What one visit of the serving walk can do

A visit leaves every other connection and the links of the queue alone until it
closes the visited connection. The case list at the end is the only place where
the control flow of the switch is taken apart; everything about runs of
`conn_loop` is derived from it.
-/

namespace GlRs485.ServingVisits

open CBytes ConnectionQueue BridgeSettings HexCodec SerialLine SocketBridge LinkedChain

set_option autoImplicit false

@[simp] theorem update_conn_same (s : State) (conn : Ptr) (change : Conn → Conn) :
    (s.update conn change).conn conn = change (s.conn conn) := by
  simp [State.update, State.conn]

@[simp] theorem update_conn_other (s : State) (conn : Ptr) (change : Conn → Conn) (other : Ptr)
    (different : other ≠ conn) : (s.update conn change).conn other = s.conn other := by
  simp [State.update, State.conn, different]

/-- The state changed at most in the fields of one connection that are not its
descriptor or its links, in the buffers of the line, in the descriptor table,
in the descriptor sets and in the peer address. -/
structure Frame (conn : Ptr) (s s' : State) : Prop where
  others : ∀ other, other ≠ conn → s'.conn other = s.conn other
  next : (s'.conn conn).next = (s.conn conn).next
  prev : (s'.conn conn).prev = (s.conn conn).prev
  sd : (s'.conn conn).sd = (s.conn conn).sd
  live : s'.queue.live = s.queue.live
  beg : s'.queue.beg = s.queue.beg
  last : s'.queue.last = s.queue.last
  len : s'.queue.len = s.queue.len
  cfg : s'.cfg = s.cfg
  serverSd : s'.serverSd = s.serverSd
  ttyFd : s'.tty.fd = s.tty.fd
  oneTime : s'.oneTime = s.oneTime
  openings : s'.openings = s.openings
  actconn : s'.actconn = s.actconn
  tout : s'.tout = s.tout
  pc : s'.pc = s.pc

theorem Frame.refl (conn : Ptr) (s : State) : Frame conn s s := by
  constructor <;> intros <;> rfl

theorem Frame.trans {conn : Ptr} {first second third : State} (left : Frame conn first second)
    (right : Frame conn second third) : Frame conn first third where
  others other different := (right.others other different).trans (left.others other different)
  next := right.next.trans left.next
  prev := right.prev.trans left.prev
  sd := right.sd.trans left.sd
  live := right.live.trans left.live
  beg := right.beg.trans left.beg
  last := right.last.trans left.last
  len := right.len.trans left.len
  cfg := right.cfg.trans left.cfg
  serverSd := right.serverSd.trans left.serverSd
  ttyFd := right.ttyFd.trans left.ttyFd
  oneTime := right.oneTime.trans left.oneTime
  openings := right.openings.trans left.openings
  actconn := right.actconn.trans left.actconn
  tout := right.tout.trans left.tout
  pc := right.pc.trans left.pc

theorem update_frame (s : State) (conn : Ptr) (change : Conn → Conn)
    (next : ∀ c, (change c).next = c.next) (prev : ∀ c, (change c).prev = c.prev)
    (sd : ∀ c, (change c).sd = c.sd) : Frame conn s (s.update conn change) := by
  constructor <;> intros
  · exact update_conn_other _ _ _ _ ‹_›
  · rw [update_conn_same, next]
  · rw [update_conn_same, prev]
  · rw [update_conn_same, sd]
  all_goals rfl

theorem state_conn_set_frame (s : State) (conn : Ptr) (state : ConnState) :
    Frame conn s (stateConnSet s conn state) := by
  apply update_frame <;> exact fun _ => rfl

theorem state_conn_set_state (s : State) (conn : Ptr) (state : ConnState) :
    ((stateConnSet s conn state).conn conn).state = state :=
  congrArg Conn.state (update_conn_same s conn _)

theorem Frame.nextEq {conn : Ptr} {s s' : State} (frame : Frame conn s s') :
    s'.queue.next = s.queue.next := by
  funext other
  by_cases same : other = conn
  · subst same
    exact frame.next
  · exact congrArg Conn.next (frame.others other same)

theorem Frame.prevEq {conn : Ptr} {s s' : State} (frame : Frame conn s s') :
    s'.queue.prev = s.queue.prev := by
  funext other
  by_cases same : other = conn
  · subst same
    exact frame.prev
  · exact congrArg Conn.prev (frame.others other same)

theorem Frame.wellFormed {conn : Ptr} {s s' : State} (frame : Frame conn s s')
    (formed : WellFormed s.queue) : WellFormed s'.queue :=
  well_formed_of_links frame.nextEq frame.prevEq frame.beg frame.last frame.live frame.len formed

theorem Frame.sdEq {conn : Ptr} {s s' : State} (frame : Frame conn s s') (other : Ptr) :
    (s'.conn other).sd = (s.conn other).sd := by
  by_cases same : other = conn
  · subst same
    exact frame.sd
  · rw [frame.others other same]

/-- A reply has been formed: the connection is in `CONN_RESP` and the event
shows the first `rxlen` bytes of its buffer. -/
structure Formed (conn : Ptr) (s s' : State) (events : List Event) : Prop where
  frame : Frame conn s s'
  state : (s'.conn conn).state = .resp
  timeout : (s'.conn conn).timeout = s.cfg.conntimeout
  fds : s'.fds = s.fds
  caddr : s'.caddr = s.caddr
  shown : events = [.formed conn (cells (s'.conn conn).buf s'.tty.rxlen)]

theorem finish_reply_formed (s : State) (conn : Ptr) (rxlen : Nat) :
    Formed conn s (finishReply s conn rxlen).1 (finishReply s conn rxlen).2 where
  frame := by
    have sized : Frame conn s { s with tty := { s.tty with rxlen := rxlen } } := by
      constructor <;> intros <;> rfl
    exact sized.trans (update_frame _ _ _ (fun _ => rfl) (fun _ => rfl) (fun _ => rfl))
  state := by simp [finishReply, stateConnSet]
  timeout := by simp [finishReply, stateConnSet]
  fds := rfl
  caddr := rfl
  shown := by
    simp only [finishReply, stateConnSet, update_conn_same]
    rfl

theorem finish_reply_buf (s : State) (conn : Ptr) (rxlen : Nat) :
    ((finishReply s conn rxlen).1.conn conn).buf = (s.conn conn).buf := by
  simp only [finishReply, stateConnSet, update_conn_same]
  rfl

theorem Formed.after {conn : Ptr} {s s₁ s₂ : State} {events : List Event}
    (frame : Frame conn s s₁) (fds : s₁.fds = s.fds) (caddr : s₁.caddr = s.caddr)
    (formed : Formed conn s₁ s₂ events) : Formed conn s s₂ events where
  frame := frame.trans formed.frame
  state := formed.state
  timeout := formed.timeout.trans (congrArg Cfg.conntimeout frame.cfg)
  fds := formed.fds.trans fds
  caddr := formed.caddr.trans caddr
  shown := formed.shown

theorem rewrite_frame (s : State) (conn : Ptr) (rewrite : Conn → Buf) :
    Frame conn s (s.update conn fun c => { c with buf := rewrite c }) :=
  update_frame s conn (fun c => { c with buf := rewrite c }) (fun _ => rfl) (fun _ => rfl)
    (fun _ => rfl)

theorem text_reply_formed (s : State) (conn : Ptr) (text : List Byte) :
    Formed conn s (textReply s conn text).1 (textReply s conn text).2 := by
  have copied := rewrite_frame s conn fun c => strncpy c.buf (ofBytes text) text.length
  exact Formed.after copied rfl rfl (finish_reply_formed _ conn text.length)

theorem error_reply_formed (s : State) (conn : Ptr) (text : List Byte) :
    Formed conn s (errorReply s conn text).1 (errorReply s conn text).2.1 := by
  have formed := text_reply_formed s conn text
  have selected : Frame conn (textReply s conn text).1 (errorReply s conn text).1 := by
    constructor <;> intros <;> rfl
  exact ⟨formed.frame.trans selected, formed.state, formed.timeout, formed.fds, formed.caddr,
    formed.shown⟩

def lineFd : LineEvent → Int
  | .opened fd => fd
  | .locked fd _ => fd
  | .flushed fd => fd
  | .sent fd _ _ => fd
  | .received fd _ => fd
  | .closed fd => fd

/-- A loaded request has been answered: calls on the line, then a reply. Only a
lock timeout touches the descriptor table. -/
structure Answered (conn : Ptr) (lockFails : Nat) (s s' : State) (lines : List LineEvent)
    (events : List Event) : Prop where
  frame : Frame conn s s'
  state : (s'.conn conn).state = .resp
  timeout : (s'.conn conn).timeout = s.cfg.conntimeout
  caddr : s'.caddr = s.caddr
  fds : s'.fds = s.fds ∨ 30 < lockFails ∧ s'.fds = s.fds.closeAt s.tty.fd
  onTty : ∀ event ∈ lines, lineFd event = s.tty.fd
  keptOpen : lockFails ≤ 30 → ∀ event ∈ lines, event ≠ .closed s.tty.fd
  shown : events = lines.map .line ++ [.formed conn (cells (s'.conn conn).buf s'.tty.rxlen)]

theorem Answered.shows {holds : Event → Prop} {conn : Ptr} {lockFails : Nat} {s s' : State}
    {lines : List LineEvent} {events : List Event}
    (answered : Answered conn lockFails s s' lines events) (line : ∀ call, holds (.line call))
    (formed : ∀ bytes, holds (.formed conn bytes)) : ∀ event ∈ events, holds event := by
  intro event member
  rw [answered.shown, List.mem_append, List.mem_map, List.mem_singleton] at member
  rcases member with ⟨call, _, shown⟩ | last
  · rw [← shown]
    exact line call
  · rw [last]
    exact formed _

theorem Answered.after {conn : Ptr} {lockFails : Nat} {s s₁ s₂ : State} {lines : List LineEvent}
    {events : List Event} (frame : Frame conn s s₁) (fds : s₁.fds = s.fds)
    (caddr : s₁.caddr = s.caddr) (answered : Answered conn lockFails s₁ s₂ lines events) :
      Answered conn lockFails s s₂ lines events where
  frame := frame.trans answered.frame
  state := answered.state
  timeout := answered.timeout.trans (congrArg Cfg.conntimeout frame.cfg)
  caddr := answered.caddr.trans caddr
  fds := by
    have outcome := answered.fds
    rw [fds, frame.ttyFd] at outcome
    exact outcome
  onTty := frame.ttyFd ▸ answered.onTty
  keptOpen := frame.ttyFd ▸ answered.keptOpen
  shown := answered.shown

theorem tty_answer_formed (s : State) (conn : Ptr) (io : VisitAnswers) :
    ∃ events, Formed conn s (ttyAnswer s conn io).1 events ∧
      (ttyAnswer s conn io).2.1 =
        (ttyRead s.tty.fd io.received s.tty.rxbuf).events.map .line ++ events ∧
      (ttyAnswer s conn io).2.2 = .done := by
  have loaded : Frame conn s
      { s with
        sdsetrd := s.tty.fd :: s.sdsetrd
        tty := { s.tty with rxbuf := (ttyRead s.tty.fd io.received s.tty.rxbuf).buf } } := by
    constructor <;> intros <;> rfl
  unfold ttyAnswer
  dsimp only
  split
  · exact ⟨_, Formed.after loaded rfl rfl (text_reply_formed _ conn _), rfl, rfl⟩
  · have cleared := loaded.trans (rewrite_frame _ conn fun c => memset c.buf 0 bufSize)
    split
    · have decoded := cleared.trans (rewrite_frame _ conn fun c =>
        glHex2str (ttyRead s.tty.fd io.received s.tty.rxbuf).buf
          (ttyRead s.tty.fd io.received s.tty.rxbuf).count.toNat c.buf)
      exact ⟨_, Formed.after decoded rfl rfl (finish_reply_formed _ conn _), rfl, rfl⟩
    · have copied := cleared.trans (rewrite_frame _ conn fun c =>
        strncpy c.buf (ttyRead s.tty.fd io.received s.tty.rxbuf).buf
          (ttyRead s.tty.fd io.received s.tty.rxbuf).count.toNat)
      exact ⟨_, Formed.after copied rfl rfl (finish_reply_formed _ conn _), rfl, rfl⟩

theorem tty_read_line (fd : Int) (received : List RxResult) (buf : Buf) (event : LineEvent)
    (member : event ∈ (ttyRead fd received buf).events) :
      lineFd event = fd ∧ event ≠ .closed fd := by
  obtain ⟨result, shown⟩ := receive_loop_events fd received buf 0 event member
  subst shown
  exact ⟨rfl, by simp⟩

theorem flock_loop_line (fd : Int) (fails timeOut : Nat) (event : LineEvent)
    (member : event ∈ (flockLoop fd fails timeOut).2) :
      lineFd event = fd ∧ event ≠ .closed fd := by
  obtain ⟨obtained, shown⟩ := flock_loop_events fd fails timeOut event member
  subst shown
  exact ⟨rfl, by simp⟩

/-- The calls of one `tty_write`: all on the descriptor, which it closes only
after its lock was refused more than thirty times. -/
theorem tty_write_line (fd : Int) (lockFails : Nat) (results : List Int) (data : List Byte)
    (event : LineEvent) (member : event ∈ (ttyWrite fd lockFails results data).2) :
      lineFd event = fd ∧ (event = .closed fd → 30 < lockFails) := by
  rcases tty_write_cases fd lockFails results data with
    ⟨_, outcome⟩ | ⟨_, busy, outcome⟩ | ⟨_, _, outcome⟩
  · rw [outcome] at member
    simp at member
  · rw [outcome, List.mem_append] at member
    rcases member with locking | closing
    · exact ⟨(flock_loop_line _ _ _ _ locking).1, fun _ => busy⟩
    · rw [List.mem_singleton] at closing
      exact ⟨by rw [closing]; rfl, fun _ => busy⟩
  · rw [outcome, List.mem_append] at member
    rcases member with locking | writing
    · have onLock := flock_loop_line _ _ _ _ locking
      exact ⟨onLock.1, fun closing => absurd closing onLock.2⟩
    · simp only [List.mem_cons, List.not_mem_nil, or_false] at writing
      rcases writing with flushing | sending
      · subst flushing
        exact ⟨rfl, by simp⟩
      · subst sending
        exact ⟨rfl, by simp⟩

def writeCalls (s : State) (io : VisitAnswers) : List LineEvent :=
  .flushed s.tty.fd ::
    (ttyWrite s.tty.fd io.lockFails io.written (cells s.tty.writebuf s.tty.txlen)).2

theorem write_calls_line (s : State) (io : VisitAnswers) (event : LineEvent)
    (member : event ∈ writeCalls s io) :
      lineFd event = s.tty.fd ∧ (event = .closed s.tty.fd → 30 < io.lockFails) := by
  rcases List.mem_cons.mp member with flushing | writing
  · subst flushing
    exact ⟨rfl, by simp⟩
  · exact tty_write_line _ _ _ _ event writing

def afterWrite (s : State) (io : VisitAnswers) : State :=
  if .closed s.tty.fd ∈
      (ttyWrite s.tty.fd io.lockFails io.written (cells s.tty.writebuf s.tty.txlen)).2 then
    { s with fds := s.fds.closeAt s.tty.fd }
  else s

theorem after_write_frame (s : State) (conn : Ptr) (io : VisitAnswers) :
    Frame conn s (afterWrite s io) := by
  unfold afterWrite
  split
  · constructor <;> intros <;> rfl
  · exact .refl conn s

theorem after_write_fds (s : State) (io : VisitAnswers) :
    (afterWrite s io).fds = s.fds ∨
      30 < io.lockFails ∧ (afterWrite s io).fds = s.fds.closeAt s.tty.fd := by
  unfold afterWrite
  split
  · next closing => exact Or.inr ⟨(tty_write_line _ _ _ _ _ closing).2 rfl, rfl⟩
  · exact Or.inl rfl

theorem after_write_caddr (s : State) (io : VisitAnswers) : (afterWrite s io).caddr = s.caddr := by
  unfold afterWrite
  split <;> rfl

theorem formed_after_write (s s' : State) (conn : Ptr) (io : VisitAnswers)
    (reads : List LineEvent) (events : List Event)
    (onTty : ∀ event ∈ reads, lineFd event = s.tty.fd ∧ event ≠ .closed s.tty.fd)
    (formed : Formed conn (afterWrite s io) s' events) :
      Answered conn io.lockFails s s' (writeCalls s io ++ reads)
        ((writeCalls s io).map .line ++ (reads.map .line ++ events)) where
  frame := (after_write_frame s conn io).trans formed.frame
  state := formed.state
  timeout := formed.timeout.trans (congrArg Cfg.conntimeout (after_write_frame s conn io).cfg)
  caddr := formed.caddr.trans (after_write_caddr s io)
  fds := formed.fds ▸ after_write_fds s io
  onTty := by
    intro event member
    rcases List.mem_append.mp member with writing | reading
    · exact (write_calls_line s io event writing).1
    · exact (onTty event reading).1
  keptOpen := by
    intro within event member closing
    rcases List.mem_append.mp member with writing | reading
    · exact absurd ((write_calls_line s io event writing).2 closing) (by omega)
    · exact (onTty event reading).2 closing
  shown := by rw [formed.shown, List.map_append, List.append_assoc]

theorem tty_request_eq (s : State) (conn : Ptr) (io : VisitAnswers) (ready : s.tty.fd ∈ s.sdsetwr) :
    ttyRequest s conn io =
      let answered :=
        if (ttyWrite s.tty.fd io.lockFails io.written (cells s.tty.writebuf s.tty.txlen)).1 < 0 then
          errorReply (afterWrite s io) conn (ascii "tty write error")
        else ttyAnswer (afterWrite s io) conn io
      (answered.1, (writeCalls s io).map .line ++ answered.2.1, answered.2.2) := by
  rw [ttyRequest, if_pos ready]
  rfl

theorem tty_request_answered (s : State) (conn : Ptr) (io : VisitAnswers)
    (ready : s.tty.fd ∈ s.sdsetwr) :
      ∃ lines, Answered conn io.lockFails s (ttyRequest s conn io).1 lines
          (ttyRequest s conn io).2.1 ∧
        ((ttyRequest s conn io).2.2 = .done ∨ (ttyRequest s conn io).2.2 = .send) := by
  rw [tty_request_eq s conn io ready]
  dsimp only
  split
  · have formed := error_reply_formed (afterWrite s io) conn (ascii "tty write error")
    have answered := formed_after_write s _ conn io [] _ (by simp) formed
    exact ⟨_, answered, Or.inr rfl⟩
  · obtain ⟨events, formed, shown, flow⟩ := tty_answer_formed (afterWrite s io) conn io
    have onTty : ∀ event ∈ (ttyRead (afterWrite s io).tty.fd io.received
        (afterWrite s io).tty.rxbuf).events,
          lineFd event = s.tty.fd ∧ event ≠ .closed s.tty.fd := by
      rw [(after_write_frame s conn io).ttyFd]
      exact tty_read_line s.tty.fd io.received _
    have answered := formed_after_write s _ conn io _ events onTty formed
    rw [shown]
    exact ⟨_, answered, Or.inl flow⟩

structure Untouched (conn : Ptr) (s s' : State) : Prop where
  frame : Frame conn s s'
  state : (s'.conn conn).state = (s.conn conn).state
  timeout : (s'.conn conn).timeout = (s.conn conn).timeout
  fds : s'.fds = s.fds
  rxlen : s'.tty.rxlen = s.tty.rxlen

theorem Untouched.trans {conn : Ptr} {first second third : State}
    (left : Untouched conn first second) (right : Untouched conn second third) :
      Untouched conn first third :=
  ⟨left.frame.trans right.frame, right.state.trans left.state, right.timeout.trans left.timeout,
    right.fds.trans left.fds, right.rxlen.trans left.rxlen⟩

theorem rewrite_untouched (s : State) (conn : Ptr) (rewrite : Conn → Buf) :
    Untouched conn s (s.update conn fun c => { c with buf := rewrite c }) :=
  ⟨rewrite_frame s conn rewrite, by rw [update_conn_same], by rw [update_conn_same], rfl, rfl⟩

theorem tty_frame (s : State) (conn : Ptr) (tty : TtyData) (sameFd : tty.fd = s.tty.fd) :
    Frame conn s { s with tty := tty } := by
  constructor <;> intros
  case ttyFd => exact sameFd
  all_goals rfl

theorem dispatch_request_cases (s : State) (conn : Ptr) (io : VisitAnswers)
    (ready : s.tty.fd ∈ s.sdsetwr) :
      ((dispatchRequest s conn io).2 = ([], .endless) ∧
        Untouched conn s (dispatchRequest s conn io).1) ∨
      ∃ lines, Answered conn io.lockFails s (dispatchRequest s conn io).1 lines
          (dispatchRequest s conn io).2.1 ∧
        ((dispatchRequest s conn io).2.2 = .done ∨ (dispatchRequest s conn io).2.2 = .send) := by
  unfold dispatchRequest
  split
  · have stripped := tty_frame s conn
      { s.tty with
        txbuf := removeBlank1 s.tty.txbuf s.tty.txlen
        txlen := strlen (removeBlank1 s.tty.txbuf s.tty.txlen) ttyBufsize } rfl
    dsimp only
    split
    · have formed := Formed.after stripped rfl rfl
        (error_reply_formed _ conn (ascii "data format error"))
      have answered : Answered conn io.lockFails s _ [] _ :=
        ⟨formed.frame, formed.state, formed.timeout, formed.caddr, Or.inl formed.fds, by simp,
          by simp, formed.shown⟩
      exact Or.inr ⟨[], answered, Or.inr rfl⟩
    · split
      · exact Or.inl ⟨rfl, stripped, rfl, rfl, rfl, rfl⟩
      · next writebuf decoded =>
          have loaded := tty_frame s conn
            { s.tty with
              txbuf := removeBlank1 s.tty.txbuf s.tty.txlen
              txlen := strlen (removeBlank1 s.tty.txbuf s.tty.txlen) ttyBufsize / 2
              writebuf := writebuf } rfl
          obtain ⟨lines, answered, flow⟩ := tty_request_answered
            { s with tty := { s.tty with
                txbuf := removeBlank1 s.tty.txbuf s.tty.txlen
                txlen := strlen (removeBlank1 s.tty.txbuf s.tty.txlen) ttyBufsize / 2
                writebuf := writebuf } } conn io ready
          exact Or.inr ⟨lines, Answered.after loaded rfl rfl answered, flow⟩
  · exact Or.inr (tty_request_answered s conn io ready)

theorem conn_read_size (recv : List RecvResult) (bytes : List Byte) (peer : Nat)
    (sizes : ∀ answer ∈ recv, answer.size ≤ 256) (heard : connRead recv = some (bytes, peer)) :
      bytes.length ≤ 256 := by
  induction recv with
  | nil => simp [connRead] at heard
  | cons answer rest ih =>
      cases answer with
      | interrupted => exact ih (fun later member => sizes later (by simp [member])) heard
      | failed => simp [connRead] at heard
      | data received from_ =>
          obtain ⟨rfl, rfl⟩ := Prod.mk.inj (Option.some.inj heard)
          exact sizes (.data received from_) (by simp)

def heardFrom (s : State) (peer : Nat) : State :=
  { s with caddr := if s.cfg.isUdp then peer else s.caddr }

structure Reads (s : State) (conn : Ptr) (io : VisitAnswers) (bytes : List Byte) (peer : Nat) :
    Prop where
  asked : readsRequests (s.conn conn).state = true
  readable : (s.conn conn).sd ∈ s.sdsetrd
  heard : connRead io.recv = some (bytes, peer)
  some : bytes ≠ []

/-- The connection the serving walk stands on. -/
def curconn (s : State) : Option Ptr :=
  match s.pc with
  | .serving _ conn => conn
  | _ => none

def readsRequest (s : State) (conn : Ptr) (io : VisitAnswers) : Bool :=
  readsRequests (s.conn conn).state && decide ((s.conn conn).sd ∈ s.sdsetrd) &&
    match connRead io.recv with
    | some (bytes, _) => !bytes.isEmpty
    | none => false

theorem reads_request (s : State) (conn : Ptr) (io : VisitAnswers) (bytes : List Byte) (peer : Nat)
    (reads : Reads s conn io bytes peer) : readsRequest s conn io = true := by
  simp [readsRequest, reads.asked, reads.readable, reads.heard, reads.some]

def replyCall (s : State) (conn : Ptr) (io : VisitAnswers) : Event :=
  if s.cfg.isUdp then
    .replied conn s.serverSd (some s.caddr) (cells (s.conn conn).buf s.tty.rxlen)
      (connWrite io.send)
  else .replied conn (s.conn conn).sd none (cells (s.conn conn).buf s.tty.rxlen) (connWrite io.send)

/-- `socketsend`: the reply is held back, gone or lost with its connection. -/
theorem socket_send_cases (s : State) (conn : Ptr) (io : VisitAnswers) :
    ((s.conn conn).sd ∉ s.sdsetwr ∧ socketSend s conn io = (s, [], .done)) ∨
    (0 < connWrite io.send ∧
      socketSend s conn io = (stateConnSet s conn .header, [replyCall s conn io], .done)) ∨
    (connWrite io.send ≤ 0 ∧
      socketSend s conn io = ((connClose s conn io.scrap).1,
        [replyCall s conn io, .closed conn (s.conn conn).sd],
        .closed (connClose s conn io.scrap).2)) := by
  by_cases writable : (s.conn conn).sd ∈ s.sdsetwr
  · by_cases refused : connWrite io.send ≤ 0
    · exact Or.inr (Or.inr ⟨refused, by simp [socketSend, writable, refused, replyCall]⟩)
    · exact Or.inr (Or.inl ⟨by omega, by simp [socketSend, writable, refused, replyCall]⟩)
  · exact Or.inl ⟨writable, by simp [socketSend, writable]⟩

theorem socket_send_shows {holds : Event → Prop} (s : State) (conn : Ptr) (io : VisitAnswers)
    (reply : holds (replyCall s conn io)) (closed : holds (.closed conn (s.conn conn).sd)) :
      ∀ event ∈ (socketSend s conn io).2.1, holds event := by
  intro event member
  rcases socket_send_cases s conn io with ⟨_, held⟩ | ⟨_, sent⟩ | ⟨_, lost⟩
  · simp [held] at member
  · rw [sent, List.mem_singleton] at member
    rwa [member]
  · rw [lost, List.mem_cons, List.mem_singleton] at member
    rcases member with reply | gone
    · rwa [reply]
    · rwa [gone]

def heardState (s : State) (conn : Ptr) (peer : Nat) : State :=
  let cleared := s.update conn fun c => { c with buf := memset c.buf 0 bufSize }
  if s.cfg.isUdp then { cleared with caddr := peer } else cleared

inductive Outcome (conn : Ptr) (io : VisitAnswers) (s : State) : State → List Event → Flow → Prop
  | passed : Outcome conn io s s [] .done
  | unread {s' : State} (asked : readsRequests (s.conn conn).state = true)
      (untouched : Untouched conn s s') : Outcome conn io s s' [] .sele
  | ended {s' : State} (asked : readsRequests (s.conn conn).state = true)
      (untouched : Untouched conn s s') :
      Outcome conn io s (connClose s' conn io.scrap).1 [.closed conn (s.conn conn).sd]
        (.closed (connClose s' conn io.scrap).2)
  | stuck {s' : State} {bytes : List Byte} {peer : Nat} (reads : Reads s conn io bytes peer)
      (untouched : Untouched conn s s') : Outcome conn io s s' [.request conn bytes] .endless
  | answered {s' : State} {bytes : List Byte} {peer : Nat} {lines : List LineEvent}
      {events : List Event} (reads : Reads s conn io bytes peer)
      (answered : Answered conn io.lockFails (heardFrom s peer) s' lines events)
      (computed : dispatchRequest (loadRequest (heardState s conn peer) conn bytes) conn io =
        (s', events, .done)) :
      Outcome conn io s s' (.request conn bytes :: events) .done
  | answeredAtOnce {s' : State} {bytes : List Byte} {peer : Nat} {lines : List LineEvent}
      {events : List Event} (reads : Reads s conn io bytes peer)
      (answered : Answered conn io.lockFails (heardFrom s peer) s' lines events)
      (computed : dispatchRequest (loadRequest (heardState s conn peer) conn bytes) conn io =
        (s', events, .send)) :
      Outcome conn io s (socketSend s' conn io).1
        (.request conn bytes :: events ++ (socketSend s' conn io).2.1) (socketSend s' conn io).2.2
  | owed (owing : (s.conn conn).state = .resp) :
      Outcome conn io s (socketSend s conn io).1 (socketSend s conn io).2.1
        (socketSend s conn io).2.2

theorem load_request_untouched (s : State) (conn : Ptr) (bytes : List Byte) :
    Untouched conn s (loadRequest s conn bytes) := by
  have received := rewrite_untouched s conn fun c => store c.buf 0 bytes
  refine ⟨received.frame.trans ?_, received.state, received.timeout, received.fds, rfl⟩
  constructor <;> intros <;> rfl

theorem heard_from_untouched (s : State) (conn : Ptr) (peer : Nat) :
    Untouched conn s (heardFrom s peer) := by
  refine ⟨?_, rfl, rfl, rfl, rfl⟩
  constructor <;> intros <;> rfl

theorem answered_frame {s s' : State} {conn : Ptr} {peer lockFails : Nat} {lines : List LineEvent}
    {events : List Event} (answered : Answered conn lockFails (heardFrom s peer) s' lines events) :
      Frame conn s s' :=
  (heard_from_untouched s conn peer).frame.trans answered.frame

theorem heard_state_untouched (s : State) (conn : Ptr) (peer : Nat) :
    Untouched conn (heardFrom s peer) (heardState s conn peer) ∧
      (heardState s conn peer).caddr = (heardFrom s peer).caddr := by
  have cleared := rewrite_untouched s conn fun c => memset c.buf 0 bufSize
  unfold heardState heardFrom
  dsimp only
  split
  · refine ⟨⟨?_, cleared.state, cleared.timeout, cleared.fds, rfl⟩, rfl⟩
    have frame := cleared.frame
    constructor
    exacts [frame.others, frame.next, frame.prev, frame.sd, rfl, rfl, rfl, rfl, rfl, rfl, rfl, rfl,
      rfl, rfl, rfl, rfl]
  · exact ⟨cleared, rfl⟩

theorem loaded_frame (s : State) (conn : Ptr) (peer : Nat) (bytes : List Byte) :
    Frame conn s (loadRequest (heardState s conn peer) conn bytes) :=
  (heard_from_untouched s conn peer).frame.trans
    ((heard_state_untouched s conn peer).1.frame.trans (load_request_untouched _ conn bytes).frame)

theorem serve_request_heard (s : State) (conn : Ptr) (io : VisitAnswers) (bytes : List Byte)
    (peer : Nat) (heard : connRead io.recv = some (bytes, peer)) :
      serveRequest s conn io =
        if bytes = [] then
          ((connClose (heardState s conn peer) conn io.scrap).1,
            [.closed conn ((heardState s conn peer).conn conn).sd],
            .closed (connClose (heardState s conn peer) conn io.scrap).2)
        else
          let dispatched :=
            dispatchRequest (loadRequest (heardState s conn peer) conn bytes) conn io
          (dispatched.1, .request conn bytes :: dispatched.2.1, dispatched.2.2) := by
  rw [serveRequest, heard]
  rfl

theorem serve_request_outcome (s : State) (conn : Ptr) (io : VisitAnswers)
    (asked : readsRequests (s.conn conn).state = true) (readable : (s.conn conn).sd ∈ s.sdsetrd) :
      Outcome conn io s (followSend (serveRequest s conn io) conn io).1
        (followSend (serveRequest s conn io) conn io).2.1
        (followSend (serveRequest s conn io) conn io).2.2 := by
  cases heard : connRead io.recv with
  | none =>
      have cleared := rewrite_untouched s conn fun c => memset c.buf 0 bufSize
      rw [serveRequest, heard]
      exact .unread asked cleared
  | some received =>
      obtain ⟨bytes, peer⟩ := received
      obtain ⟨untouched, caddr⟩ := heard_state_untouched s conn peer
      have from_peer := heard_from_untouched s conn peer
      have served := serve_request_heard s conn io bytes peer heard
      by_cases ended : bytes = []
      · have sameSd : ((heardState s conn peer).conn conn).sd = (s.conn conn).sd :=
          untouched.frame.sd
        rw [served, if_pos ended, sameSd]
        exact .ended asked (from_peer.trans untouched)
      · have reads : Reads s conn io bytes peer := ⟨asked, readable, heard, ended⟩
        have loaded := untouched.trans (load_request_untouched (heardState s conn peer) conn bytes)
        have loadedCaddr : (loadRequest (heardState s conn peer) conn bytes).caddr =
            (heardFrom s peer).caddr := caddr
        rw [served, if_neg ended]
        dsimp only
        have cases :=
          dispatch_request_cases (loadRequest (heardState s conn peer) conn bytes) conn io
          (by simp [loadRequest])
        generalize computed :
          dispatchRequest (loadRequest (heardState s conn peer) conn bytes) conn io = dispatched
          at cases ⊢
        obtain ⟨after, events, flow⟩ := dispatched
        rcases cases with ⟨endless, kept⟩ | ⟨lines, answered, flows⟩
        · obtain ⟨noEvents, never⟩ := Prod.mk.inj endless
          subst noEvents never
          exact .stuck reads (from_peer.trans (loaded.trans kept))
        · have answers := Answered.after loaded.frame loaded.fds loadedCaddr answered
          rcases flows with done | send
          · subst done
            exact .answered reads answers computed
          · subst send
            exact .answeredAtOnce reads answers computed

theorem serve_conn_outcome (s : State) (conn : Ptr) (io : VisitAnswers) :
    Outcome conn io s (serveConn s conn io).1 (serveConn s conn io).2.1
      (serveConn s conn io).2.2 := by
  unfold serveConn
  cases state : (s.conn conn).state with
  | tty => exact .passed
  | resp => exact .owed state
  | _ =>
      dsimp only
      split
      · next readable => exact serve_request_outcome s conn io (by rw [state]; rfl) readable
      · exact .passed

theorem serve_conn_heard {s : State} {conn : Ptr} {io : VisitAnswers} {bytes : List Byte}
    {peer : Nat} (reads : Reads s conn io bytes peer) :
      serveConn s conn io =
        let dispatched := dispatchRequest (loadRequest (heardState s conn peer) conn bytes) conn io
        followSend (dispatched.1, .request conn bytes :: dispatched.2.1, dispatched.2.2) conn io := by
  have served := serve_request_heard s conn io bytes peer reads.heard
  rw [if_neg reads.some] at served
  unfold serveConn
  have asked := reads.asked
  cases state : (s.conn conn).state with
  | tty => simp [state, readsRequests] at asked
  | resp => simp [state, readsRequests] at asked
  | _ =>
      dsimp only
      rw [if_pos reads.readable, served]

theorem serve_conn_reads {s s' : State} {conn : Ptr} {io : VisitAnswers} {bytes : List Byte}
    {peer : Nat} {events : List Event} (reads : Reads s conn io bytes peer)
    (computed : dispatchRequest (loadRequest (heardState s conn peer) conn bytes) conn io =
      (s', events, .done)) : serveConn s conn io = (s', .request conn bytes :: events, .done) := by
  rw [serve_conn_heard reads, computed]
  rfl

theorem advance_outcome (served : State) (more : Nat) (reached : Option Ptr) :
    (advance served more reached).1 = { served with pc := (advance served more reached).1.pc } ∧
      (advance served more reached).1.pc ≠ .endless ∧
        ∀ event ∈ (advance served more reached).2, ∃ gone, event = .staleRead gone := by
  cases reached with
  | none => simp [advance]
  | some here =>
      by_cases listed : here ∈ served.queue.live
      · cases more <;> simp [advance, listed]
      · cases more <;> simp [advance, listed]

theorem visit_step_served {longBits : Nat} {s s' : State} {more : Nat} {conn : Ptr}
    {io : VisitAnswers} {events : List Event} (pc : s.pc = .serving more (some conn))
    (stepped : step longBits s (.visit io) = some (s', events)) :
      (s'.pc = .endless ↔ (serveConn s conn io).2.2 = .endless) ∧
        ∃ stale, events = (serveConn s conn io).2.1 ++ stale ∧
          ∀ event ∈ stale, ∃ gone, event = .staleRead gone := by
  simp only [step, pc, visitStep, Option.some.injEq] at stepped
  split at stepped
  · next flow =>
      obtain ⟨rfl, rfl⟩ := Prod.mk.inj stepped
      exact ⟨by simp [flow], [], by simp, by simp⟩
  · next flow =>
      obtain ⟨rfl, rfl⟩ := Prod.mk.inj stepped
      exact ⟨by simp [flow], [], by simp, by simp⟩
  · next nextconn flow =>
      obtain ⟨_, ended, stale⟩ := advance_outcome (serveConn s conn io).1 more nextconn
      obtain ⟨rfl, rfl⟩ := Prod.mk.inj stepped
      exact ⟨by simp [flow, ended], _, rfl, stale⟩
  · next other =>
      obtain ⟨_, ended, stale⟩ := advance_outcome (serveConn s conn io).1 more (some conn)
      obtain ⟨rfl, rfl⟩ := Prod.mk.inj stepped
      refine ⟨⟨fun endless => absurd endless ended, fun endless => ?_⟩, _, rfl, stale⟩
      exact absurd endless ‹_›

theorem stale_shows {holds : Event → Prop} {served events : List Event}
    (shown : ∃ stale, events = served ++ stale ∧ ∀ event ∈ stale, ∃ gone, event = .staleRead gone)
    (blind : ∀ gone, holds (.staleRead gone)) (all : ∀ event ∈ served, holds event) :
      ∀ event ∈ events, holds event := by
  obtain ⟨stale, rfl, stales⟩ := shown
  intro event member
  rcases List.mem_append.mp member with now | read
  · exact all event now
  · obtain ⟨gone, rfl⟩ := stales event read
    exact blind gone

/-- A view that does not show reads of freed blocks shows of a visit what the switch did. -/
theorem stale_hidden {View : Type} (view : Event → Option View) {served events : List Event}
    (shown : ∃ stale, events = served ++ stale ∧ ∀ event ∈ stale, ∃ gone, event = .staleRead gone)
    (blind : ∀ gone, view (.staleRead gone) = none) :
      events.filterMap view = served.filterMap view := by
  obtain ⟨stale, rfl, stales⟩ := shown
  have hidden : stale.filterMap view = [] := by
    rw [List.filterMap_eq_nil_iff]
    intro event member
    obtain ⟨gone, rfl⟩ := stales event member
    exact blind gone
  rw [List.filterMap_append, hidden, List.append_nil]

end GlRs485.ServingVisits
