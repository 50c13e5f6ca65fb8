import GlRs485.BridgeSettings
import GlRs485.ConnectionQueue
import GlRs485.Foundation.TracedSystem
import GlRs485.HexCodec
import GlRs485.SerialLine
import Mathlib.Algebra.Ring.Int.Defs
import Mathlib.Algebra.Ring.Nat

/-!
# The socket bridge: `conn.c`, `sock_accept` and `state.c`

`conn_loop` as a machine. One step is either the head of the outer loop, from
the building of the descriptor sets to the start of the serving walk, or one
visit of the serving walk. The answers of the kernel, of the peers and of the
device arrive with the step. A jump of the source is an explicit flow value.
-/

namespace GlRs485.SocketBridge

open CBytes ConnectionQueue BridgeSettings HexCodec SerialLine TracedSystem

set_option autoImplicit false

/-- What an open descriptor refers to; serial openings are numbered. -/
inductive FdObject
  | serial (opening : Nat)
  | listener
  | client
  | other
  deriving DecidableEq

abbrev FdTable := Int → Option FdObject

def FdTable.openAt (fds : FdTable) (fd : Int) (object : FdObject) : FdTable :=
  fun other => if other = fd then some object else fds other

def FdTable.closeAt (fds : FdTable) (fd : Int) : FdTable :=
  fun other => if other = fd then none else fds other

@[simp] theorem openAt_same (fds : FdTable) (fd : Int) (object : FdObject) :
    fds.openAt fd object fd = some object := if_pos rfl

theorem openAt_other (fds : FdTable) (fd other : Int) (object : FdObject) (different : other ≠ fd) :
    fds.openAt fd object other = fds other := if_neg different

@[simp] theorem closeAt_same (fds : FdTable) (fd : Int) : fds.closeAt fd fd = none := if_pos rfl

theorem closeAt_other (fds : FdTable) (fd other : Int) (different : other ≠ fd) :
    fds.closeAt fd other = fds other := if_neg different

theorem opened_is_iff (fds : FdTable) (fd other : Int) (object : FdObject) :
    fds.openAt fd object other = some object ↔ other = fd ∨ fds other = some object := by
  by_cases same : other = fd
  · subst same
    simp
  · rw [openAt_other _ _ _ _ same, or_iff_right same]

theorem closed_is_iff (fds : FdTable) (fd other : Int) (object : FdObject) :
    fds.closeAt fd other = some object ↔ other ≠ fd ∧ fds other = some object := by
  by_cases same : other = fd
  · subst same
    simp
  · rw [closeAt_other _ _ _ same, and_iff_right same]

structure TtyData where
  fd : Int
  txlen : Nat
  rxlen : Nat
  txbuf : Buf
  rxbuf : Buf
  writebuf : Buf

def ttyBufsize : Nat := 512

def fdSetsize : Int := 1024

/-- Where the loop stands. `serving more curconn` is before a visit with `more`
visits to follow it. The last four never leave: `conn_loop` returned, the
process called `exit`, a loop of the decoder does not end, NULL was read. -/
inductive Pc
  | head
  | serving (more : Nat) (curconn : Option Ptr)
  | returned
  | exited
  | endless
  | nullRead
  deriving DecidableEq

/-- The globals of the daemon and the locals of `conn_loop` that outlive a step. -/
structure State where
  cfg : Cfg
  queue : QueueMem
  tty : TtyData
  serverSd : Int
  fds : FdTable
  openings : Nat
  oneTime : Bool
  actconn : Option Ptr
  caddr : Nat
  tout : Nat
  sdsetrd : List Int
  sdsetwr : List Int
  pc : Pc

/-- `formed` shows the reply, content and length, at the moment the connection
is put into `CONN_RESP`. `staleRead` is a `queue_next_elem` on a freed block. -/
inductive Event
  | selected (nfds : Int) (rd wr : List Int) (tvSec : Int)
  | accepted (sd : Int)
  | dropped (sd : Int)
  | opened (conn : Ptr) (sd : Int)
  | closed (conn : Ptr) (sd : Int)
  | request (conn : Ptr) (bytes : List Byte)
  | formed (conn : Ptr) (reply : List Byte)
  | replied (conn : Ptr) (sd : Int) (peer : Option Nat) (bytes : List Byte) (rc : Int)
  | line (event : LineEvent)
  | staleRead (conn : Ptr)
  deriving DecidableEq

structure TimeVal where
  sec : Int
  usec : Int

inductive SelectResult
  | interrupted
  | failed
  | ready (rd wr : Int → Bool)

inductive RecvResult
  | interrupted
  | failed
  | data (bytes : List Byte) (peer : Nat)

/-- The answers of `write` on a socket. That it raises SIGPIPE, which nothing catches
and which ends the process, is not among them. -/
inductive SendResult
  | interrupted
  | failed
  | accepted (count : Nat)

/-- The answers inside `conn_open`: `accept`, the two socket settings, `malloc`. -/
structure OpenAnswers where
  sd : Option Int
  blkmode : Bool
  sockopt : Bool
  block : Option Ptr

structure HeadAnswers where
  select : SelectResult
  ts : TimeVal
  tts : TimeVal
  opening : OpenAnswers
  /-- What `cfg_init` and `uartOpen` give when the port is re-opened. -/
  reloaded : Cfg
  reopened : Int
  scrap : Conn

structure VisitAnswers where
  recv : List RecvResult
  lockFails : Nat
  written : List Int
  received : List RxResult
  send : List SendResult
  scrap : Conn

inductive Answers
  | head (answers : HeadAnswers)
  | visit (answers : VisitAnswers)

def State.conn (s : State) (conn : Ptr) : Conn := s.queue.heap conn

def State.update (s : State) (conn : Ptr) (change : Conn → Conn) : State :=
  { s with queue := { s.queue with heap := modify s.queue.heap conn change } }

def stateConnSet (s : State) (conn : Ptr) (state : ConnState) : State :=
  s.update conn fun c => { c with state := state, timeout := s.cfg.conntimeout }

/-- `tty_reinit`: closes the port, reloads the configuration and opens it again. -/
def ttyReinit (s : State) (io : HeadAnswers) : State :=
  let closed := s.fds.closeAt s.tty.fd
  if io.reopened < 0 then
    { s with cfg := io.reloaded, fds := closed, tty := { s.tty with fd := -1 } }
  else
    { s with
      cfg := io.reloaded
      fds := closed.openAt io.reopened (.serial s.openings)
      openings := s.openings + 1
      tty := { s.tty with fd := io.reopened } }

/-- The end of `conn_open`: a new element in state `CONN_HEADER`. -/
def enqueue (s : State) (sd : Int) (block : Option Ptr) : State × List Event :=
  match block with
  | none => ({ s with pc := .exited }, [])
  | some conn =>
      let added := { s with queue := queueNewElem s.queue conn }
      let addressed := added.update conn fun c => { c with sd := sd }
      (stateConnSet addressed conn .header, [.opened conn sd])

def dropClient (s : State) (sd : Int) : State × List Event :=
  ({ s with fds := s.fds.closeAt sd }, [.accepted sd, .dropped sd])

/-- `conn_open` with `sock_accept` in it. A refused buffer size leaves the
accepted descriptor open. -/
def connOpen (s : State) (io : OpenAnswers) : State × List Event :=
  if s.cfg.isTcps then
    match io.sd with
    | none => (s, [])
    | some sd =>
        let s := { s with fds := s.fds.openAt sd .client }
        if !io.blkmode then dropClient s sd
        else if !io.sockopt then (s, [.accepted sd])
        else if fdSetsize ≤ sd then dropClient s sd
        else if (s.queue.len : Int) = s.cfg.maxconn then dropClient s sd
        else
          let queued := enqueue s sd io.block
          (queued.1, .accepted sd :: queued.2)
  else if s.oneTime then enqueue { s with oneTime := false } s.serverSd io.block
  else (s, [])

/-- `conn_close`: the successor is taken before the element is removed. -/
def connClose (s : State) (conn : Ptr) (scrap : Conn) : State × Option Ptr :=
  let nextconn := queueNextElem s.queue conn
  ({ s with
      fds := s.fds.closeAt (s.conn conn).sd
      queue := queueDeleteElem s.queue conn scrap
      actconn := if s.actconn = some conn then nextconn else s.actconn },
    nextconn)

/-- `conn_read`, retried while interrupted; `none` is `RC_ERR`. -/
def connRead : List RecvResult → Option (List Byte × Nat)
  | [] => none
  | .interrupted :: rest => connRead rest
  | .failed :: _ => none
  | .data bytes peer :: _ => some (bytes, peer)

def connWrite : List SendResult → Int
  | [] => -1
  | .interrupted :: rest => connWrite rest
  | .failed :: _ => -1
  | .accepted count :: _ => count

/-- The jumps out of the switch: `goto sele`, `break` after a close or without
one, `goto socketsend`, and a decoder loop that does not end. -/
inductive Flow
  | sele
  | closed (nextconn : Option Ptr)
  | done
  | send
  | endless
  deriving DecidableEq

/-- Puts a finished reply of `rxlen` bytes into `CONN_RESP`. -/
def finishReply (s : State) (conn : Ptr) (rxlen : Nat) : State × List Event :=
  let sized := { s with tty := { s.tty with rxlen := rxlen } }
  (stateConnSet sized conn .resp, [.formed conn (cells (s.conn conn).buf rxlen)])

/-- `strncpy(curconn->buf, text, n)` with `n` the length of the text. -/
def textReply (s : State) (conn : Ptr) (text : List Byte) : State × List Event :=
  finishReply (s.update conn fun c => { c with buf := strncpy c.buf (ofBytes text) text.length })
    conn text.length

def errorReply (s : State) (conn : Ptr) (text : List Byte) : State × List Event × Flow :=
  let replied := textReply s conn text
  ({ replied.1 with sdsetwr := (s.conn conn).sd :: replied.1.sdsetwr }, replied.2, .send)

/-- The part of a request that reads the answer of the device. -/
def ttyAnswer (s : State) (conn : Ptr) (io : VisitAnswers) : State × List Event × Flow :=
  let s := { s with sdsetrd := s.tty.fd :: s.sdsetrd }
  let reception := ttyRead s.tty.fd io.received s.tty.rxbuf
  let s := { s with tty := { s.tty with rxbuf := reception.buf } }
  let reads := reception.events.map Event.line
  if reception.count ≤ 0 then
    let replied := textReply s conn (ascii "no data")
    (replied.1, reads ++ replied.2, .done)
  else
    let rxlen := reception.count.toNat
    let cleared := s.update conn fun c => { c with buf := memset c.buf 0 bufSize }
    let replied :=
      if s.cfg.isStr then
        finishReply (cleared.update conn fun c => { c with buf := glHex2str s.tty.rxbuf rxlen c.buf })
          conn (rxlen * 2)
      else
        finishReply (cleared.update conn fun c => { c with buf := strncpy c.buf s.tty.rxbuf rxlen })
          conn rxlen
    (replied.1, reads ++ replied.2, .done)

/-- The part of a request that writes to the device. `tty_write` may close the
descriptor it is given, while `tty.fd` keeps the number. -/
def ttyRequest (s : State) (conn : Ptr) (io : VisitAnswers) : State × List Event × Flow :=
  if s.tty.fd ∈ s.sdsetwr then
    let writing := ttyWrite s.tty.fd io.lockFails io.written (cells s.tty.writebuf s.tty.txlen)
    let writes := (.flushed s.tty.fd :: writing.2).map Event.line
    let s := if .closed s.tty.fd ∈ writing.2 then { s with fds := s.fds.closeAt s.tty.fd } else s
    let answered :=
      if writing.1 < 0 then errorReply s conn (ascii "tty write error")
      else ttyAnswer s conn io
    (answered.1, writes ++ answered.2.1, answered.2.2)
  else (s, [], .done)

/-- The copies of a request into the buffers of the line. -/
def loadRequest (s : State) (conn : Ptr) (bytes : List Byte) : State :=
  let received := s.update conn fun c => { c with buf := store c.buf 0 bytes }
  let buf := (received.conn conn).buf
  { received with
    sdsetwr := s.tty.fd :: s.sdsetwr
    tty := { s.tty with
      txlen := bytes.length
      txbuf := memcpy (memset s.tty.txbuf 0 ttyBufsize) buf bytes.length
      writebuf := memcpy s.tty.writebuf buf bytes.length } }

/-- What a request does once it is loaded: with `str` it is decoded first. -/
def dispatchRequest (s : State) (conn : Ptr) (io : VisitAnswers) : State × List Event × Flow :=
  if s.cfg.isStr then
    let txbuf := removeBlank1 s.tty.txbuf s.tty.txlen
    let txlen := strlen txbuf ttyBufsize
    let s := { s with tty := { s.tty with txbuf := txbuf, txlen := txlen } }
    if txlen % 2 = 1 then errorReply s conn (ascii "data format error")
    else
      match glStr2acsll txbuf txlen s.tty.writebuf with
      | none => (s, [], .endless)
      | some writebuf =>
          ttyRequest { s with tty := { s.tty with writebuf := writebuf, txlen := txlen / 2 } } conn io
  else ttyRequest s conn io

/-- A readable connection in one of the request states. -/
def serveRequest (s : State) (conn : Ptr) (io : VisitAnswers) : State × List Event × Flow :=
  let cleared := s.update conn fun c => { c with buf := memset c.buf 0 bufSize }
  match connRead io.recv with
  | none => (cleared, [], .sele)
  | some (bytes, peer) =>
      let s := if s.cfg.isUdp then { cleared with caddr := peer } else cleared
      if bytes = [] then
        let closed := connClose s conn io.scrap
        (closed.1, [.closed conn (s.conn conn).sd], .closed closed.2)
      else
        let dispatched := dispatchRequest (loadRequest s conn bytes) conn io
        (dispatched.1, .request conn bytes :: dispatched.2.1, dispatched.2.2)

/-- `socketsend`: the reply goes out in one `conn_write`. -/
def socketSend (s : State) (conn : Ptr) (io : VisitAnswers) : State × List Event × Flow :=
  if (s.conn conn).sd ∈ s.sdsetwr then
    let rc := connWrite io.send
    let bytes := cells (s.conn conn).buf s.tty.rxlen
    let sent : Event :=
      if s.cfg.isUdp then .replied conn s.serverSd (some s.caddr) bytes rc
      else .replied conn (s.conn conn).sd none bytes rc
    if rc ≤ 0 then
      let closed := connClose s conn io.scrap
      (closed.1, [sent, .closed conn (s.conn conn).sd], .closed closed.2)
    else (stateConnSet s conn .header, [sent], .done)
  else (s, [], .done)

def followSend (served : State × List Event × Flow) (conn : Ptr) (io : VisitAnswers) :
    State × List Event × Flow :=
  match served.2.2 with
  | .send =>
      let sent := socketSend served.1 conn io
      (sent.1, served.2.1 ++ sent.2.1, sent.2.2)
  | _ => served

/-- The switch on the state of the visited connection. -/
def serveConn (s : State) (conn : Ptr) (io : VisitAnswers) : State × List Event × Flow :=
  match (s.conn conn).state with
  | .tty => (s, [], .done)
  | .resp => socketSend s conn io
  | _ =>
      if (s.conn conn).sd ∈ s.sdsetrd then followSend (serveRequest s conn io) conn io
      else (s, [], .done)

/-- The end of a pass of the serving walk: `curconn` steps on from `from`. -/
def advance (s : State) (more : Nat) (from_ : Option Ptr) : State × List Event :=
  match from_ with
  | none => ({ s with pc := .nullRead }, [])
  | some conn =>
      let stale := if conn ∈ s.queue.live then [] else [Event.staleRead conn]
      match more with
      | 0 => ({ s with pc := .head }, stale)
      | more + 1 => ({ s with pc := .serving more (queueNextElem s.queue conn) }, stale)

def visitStep (s : State) (more : Nat) (curconn : Option Ptr) (io : VisitAnswers) :
    State × List Event :=
  match curconn with
  | none => ({ s with pc := .nullRead }, [])
  | some conn =>
      let served := serveConn s conn io
      match served.2.2 with
      | .sele => ({ served.1 with pc := .head }, served.2.1)
      | .endless => ({ served.1 with pc := .endless }, served.2.1)
      | .closed nextconn =>
          let moved := advance served.1 more nextconn
          (moved.1, served.2.1 ++ moved.2)
      | _ =>
          let moved := advance served.1 more (some conn)
          (moved.1, served.2.1 ++ moved.2)

/-- The elements met by `len` steps from `curconn`; `none` when NULL is met. -/
def queueWalk (q : QueueMem) : Nat → Option Ptr → Option (List Ptr)
  | 0, _ => some []
  | _ + 1, none => none
  | len + 1, some conn => (queueWalk q len (queueNextElem q conn)).map (conn :: ·)

def readsRequests (state : ConnState) : Bool :=
  match state with
  | .tty => false
  | .resp => false
  | _ => true

/-- `curconn->timeout -= tout_sec`: an `int` less an `unsigned long`. -/
def chargeTimeout (timeout : Int) (toutSec : Nat) : Int := (timeout - toutSec).bmod (2 ^ 32)

def chargeConn (toutSec : Nat) (conn : Conn) : Conn :=
  { conn with timeout := chargeTimeout conn.timeout toutSec }

/-- The walk that charges the elapsed seconds and purges a connection whose
timeout has run out. The result tells whether `conn_loop` returned. -/
def expireWalk (io : HeadAnswers) (toutSec : Nat) :
    Nat → Option Ptr → State → State × List Event × Bool
  | 0, _, s => (s, [], false)
  | _ + 1, none, s => ({ s with pc := .nullRead }, [], true)
  | len + 1, some conn, s =>
      let s := s.update conn (chargeConn toutSec)
      if (s.conn conn).timeout ≤ 0 then
        let s := if (s.conn conn).state = .tty then ttyReinit s io else s
        let closed := connClose s conn io.scrap
        ({ closed.1 with pc := .returned }, [.closed conn (s.conn conn).sd], true)
      else expireWalk io toutSec len (queueNextElem s.queue conn) s

/-- `tval` in an `unsigned long` of `longBits` bits. -/
def elapsed (longBits : Nat) (ts tts : TimeVal) : Nat :=
  ((1000000 * (tts.sec - ts.sec) + (tts.usec - ts.usec)) % 2 ^ longBits).toNat

/-- The expiry part of a pass: nothing without a timeout setting, otherwise the
elapsed time is added up and whole seconds are charged. -/
def expireStaled (longBits : Nat) (s : State) (io : HeadAnswers) : State × List Event × Bool :=
  if s.cfg.conntimeout = 0 then (s, [], false)
  else
    let tout := (s.tout + elapsed longBits io.ts io.tts) % 2 ^ longBits
    let s := { s with tout := tout }
    if tout / 1000000 = 0 then (s, [], false)
    else
      let walked := expireWalk io (tout / 1000000) s.queue.len s.queue.beg s
      if walked.2.2 then walked
      else ({ walked.1 with tout := tout % 1000000 }, walked.2.1, false)

def acceptPending (s : State) (io : OpenAnswers) : State × List Event :=
  if s.serverSd ∈ s.sdsetrd then connOpen s io else (s, [])

/-- The serving walk begins unless nothing was ready or nobody is queued. -/
def startServing (s : State) (rc : Nat) : State :=
  if s.pc = .exited ∨ rc = 0 then s
  else
    match s.queue.len with
    | 0 => s
    | len + 1 => { s with pc := .serving len s.queue.beg }

/-- A pass after a successful `select`. -/
def passAfterSelect (longBits : Nat) (s : State) (io : HeadAnswers) (rc : Nat) :
    State × List Event :=
  let expired := expireStaled longBits s io
  if expired.2.2 then (expired.1, expired.2.1)
  else
    let opened := acceptPending expired.1 io.opening
    (startServing opened.1 rc, expired.2.1 ++ opened.2)

def headStep (longBits : Nat) (s : State) (io : HeadAnswers) : State × List Event :=
  match queueWalk s.queue s.queue.len s.queue.beg with
  | none => ({ s with pc := .nullRead }, [])
  | some conns =>
      let rd := s.serverSd :: (conns.filter fun c => readsRequests (s.conn c).state).map fun c =>
        (s.conn c).sd
      let wr := (conns.filter fun c => (s.conn c).state = .resp).map fun c => (s.conn c).sd
      let maxSd := (rd ++ wr).foldl (fun largest d => if largest < d then d else largest) s.serverSd
      let minTimeout := conns.foldl
        (fun least c => if least < (s.conn c).timeout then least else (s.conn c).timeout)
        s.cfg.conntimeout
      let asked := Event.selected (maxSd + 1) rd wr (if s.cfg.conntimeout = 0 then 10 else minTimeout)
      match io.select with
      | .interrupted => (s, [asked])
      | .failed => ({ s with pc := .returned }, [asked])
      | .ready readable writable =>
          let rd := rd.filter readable
          let wr := wr.filter writable
          let passed := passAfterSelect longBits { s with sdsetrd := rd, sdsetwr := wr } io
            (rd.length + wr.length)
          (passed.1, asked :: passed.2)

def step (longBits : Nat) : StepFunction State Answers Event := fun s answers =>
  match s.pc, answers with
  | .head, .head io => some (headStep longBits s io)
  | .serving more curconn, .visit io => some (visitStep s more curconn io)
  | _, _ => none

def RecvResult.size : RecvResult → Nat
  | .data bytes _ => bytes.length
  | _ => 0

/-- What the kernel promises of its answers: a descriptor it hands out is free,
`malloc` returns a block that is not live, and reads stay within their sizes. -/
def Admissible (s : State) : Answers → Prop
  | .head io =>
      (∀ sd ∈ io.opening.sd, 0 ≤ sd ∧ s.fds sd = none) ∧
        (∀ conn ∈ io.opening.block, conn ∉ s.queue.live) ∧
          (0 ≤ io.reopened → s.fds io.reopened = none ∨ io.reopened = s.tty.fd)
  | .visit io => (∀ answer ∈ io.recv, answer.size ≤ 256) ∧ ∀ result ∈ io.received, result.size ≤ 200

instance (s : State) : (answers : Answers) → Decidable (Admissible s answers)
  | .head _ => inferInstanceAs (Decidable (_ ∧ _ ∧ _))
  | .visit _ => inferInstanceAs (Decidable (_ ∧ _))

structure InitAnswers where
  cfg : Cfg
  queue : QueueMem
  fds : FdTable
  ttyFd : Int
  serverSd : Int

def initialState (io : InitAnswers) : State :=
  { cfg := io.cfg
    queue := queueInit io.queue
    tty := ⟨io.ttyFd, 0, 0, fun _ => 0, fun _ => 0, fun _ => 0⟩
    serverSd := io.serverSd
    fds := (io.fds.openAt io.ttyFd (.serial 0)).openAt io.serverSd .listener
    openings := 1
    oneTime := true
    actconn := none
    caddr := 0
    tout := 0
    sdsetrd := []
    sdsetwr := []
    pc := .head }

def connInit (io : InitAnswers) : Option State :=
  if io.ttyFd < 0 then none
  else if io.serverSd < 0 then none
  else some (initialState io)

/-- A state in which `conn_init` can leave the daemon: both descriptors were
free when they were handed out, and no connection exists yet. -/
def Started (s : State) : Prop :=
  ∃ io : InitAnswers, connInit io = some s ∧ io.queue.live = [] ∧ io.fds io.ttyFd = none ∧
    io.serverSd ≠ io.ttyFd ∧ io.fds io.serverSd = none

def freshInit (cfg : Cfg) : InitAnswers :=
  { cfg := cfg
    queue := ⟨fun _ => blankConn, [], none, none, 0⟩
    fds := fun fd => if fd < 3 then some .other else none
    ttyFd := 3
    serverSd := 4 }

def freshDaemon (cfg : Cfg) : State := initialState (freshInit cfg)

theorem fresh_daemon_started (cfg : Cfg) : Started (freshDaemon cfg) :=
  ⟨freshInit cfg, rfl, rfl, rfl, (by decide : (4 : Int) ≠ 3), rfl⟩

def hexOverTcp (conntimeout : Int) : Cfg := ⟨conntimeout, 32, 0, 0, ascii "hex", ascii "tcps"⟩

def headAfter (sec : Int) (rd wr : List Int) (sd : Int) (block : Ptr) : HeadAnswers :=
  { select := .ready (· ∈ rd) (· ∈ wr)
    ts := ⟨0, 0⟩
    tts := ⟨sec, 0⟩
    opening := ⟨some sd, true, true, some block⟩
    reloaded := ⟨0, 0, 0, 0, [], []⟩
    reopened := -1
    scrap := blankConn }

def passAfter (sec : Int) (rd wr : List Int) (sd : Int) (block : Ptr) : Answers :=
  .head (headAfter sec rd wr sd block)

def passWith (rd wr : List Int) (sd : Int) (block : Ptr) : Answers := passAfter 0 rd wr sd block

def visitWith (request : List Byte) (lockFails : Nat) (received : List RxResult) (sends : Nat) :
    Answers :=
  .visit
    { recv := [.data request 0]
      lockFails := lockFails
      written := [request.length]
      received := received
      send := [.accepted sends]
      scrap := blankConn }

end GlRs485.SocketBridge
