import GlRs485.LoopActions

/-!
# How the socket bridge starts: `conn_init` and `sock.c`

`conn_init` opens the port and then makes the server socket call by call. Either every call
succeeds, and what is left is the state all runs of the daemon start from with a socket made
for its mode, or the first refusal ends the start and leaves open what was opened by then.
-/

namespace GlRs485.ServerStart

open CBytes BridgeSettings ConnectionQueue SocketBridge LoopActions TracedSystem

set_option autoImplicit false

/-- `!strncmp(cfg.connmode, "tcpc", 4)`. -/
def isTcpc (cfg : Cfg) : Bool := cfg.connmode.take 4 == ascii "tcpc"

inductive Family
  | inet
  | inet6
  deriving DecidableEq

structure Address where
  family : Family
  port : Nat
  deriving DecidableEq

structure Endpoint where
  stream : Bool
  family : Family
  nonblocking : Bool
  closeOnExec : Bool
  reuseAddr : Bool
  sndbuf : Option Nat
  rcvbuf : Option Nat
  bound : Option Address
  peer : Option Address
  backlog : Option Nat
  deriving DecidableEq

def Endpoint.fresh (cfg : Cfg) (family : Family) : Endpoint :=
  { stream := !cfg.isUdp
    family := family
    nonblocking := false
    closeOnExec := false
    reuseAddr := false
    sndbuf := none
    rcvbuf := none
    bound := none
    peer := none
    backlog := none }

def sockbufsize : Nat := 512

def backlogSize : Nat := 5

/-- The results of the calls in their order; those that a mode leaves out are not read. -/
structure SocketAnswers where
  inet6 : Int
  inet : Int
  socket : Int
  blkmode : Int × Int
  cloexec : Int
  reuseaddr : Int
  sndbuf : Int
  rcvbuf : Int
  bind : Int
  connect : Int
  unblock : Int × Int
  listen : Int

/-- The end of a start: `RC_ERR` or the `exit` of a refused `listen`, and the descriptors
that are not closed. -/
structure Failure where
  exits : Bool
  left : List Int
  deriving DecidableEq

section Checks

variable {α β : Type}

def require (granted : Prop) [Decidable granted] (failure : Failure) : Except Failure Unit :=
  if granted then .ok () else .error failure

def orFail (result : Option α) (failure : Failure) : Except Failure α :=
  result.elim (.error failure) .ok

theorem map_error_eq_ok_iff (result : Except Failure α) (f : Failure → Failure) (value : α) :
    result.mapError f = .ok value ↔ result = .ok value := by
  cases result <;> simp [Except.mapError]

theorem bind_eq_ok_iff (first : Except Failure α) (next : α → Except Failure β) (result : β) :
    (first >>= next) = .ok result ↔ ∃ value, first = .ok value ∧ next value = .ok result := by
  cases first <;> simp [Bind.bind, Except.bind]

theorem bind_eq_error_iff (first : Except Failure α) (next : α → Except Failure β)
    (failure : Failure) :
      (first >>= next) = .error failure ↔
        first = .error failure ∨ ∃ value, first = .ok value ∧ next value = .error failure := by
  cases first <;> simp [Bind.bind, Except.bind]

theorem require_eq_ok_iff (granted : Prop) [Decidable granted] (failure : Failure) (u : Unit) :
    require granted failure = .ok u ↔ granted := by
  by_cases holds : granted <;> simp [require, holds]

theorem require_eq_error_iff (granted : Prop) [Decidable granted] (failure found : Failure) :
    require granted failure = .error found ↔ ¬granted ∧ failure = found := by
  by_cases holds : granted <;> simp [require, holds]

theorem or_fail_eq_ok_iff (result : Option α) (failure : Failure) (value : α) :
    orFail result failure = .ok value ↔ result = some value := by
  cases result <;> simp [orFail]

theorem or_fail_eq_error_iff (result : Option α) (failure found : Failure) :
    orFail result failure = .error found ↔ result = none ∧ failure = found := by
  cases result <;> simp [orFail]

theorem none_iff_of_some_iff {result : Option α} {granted : Prop} {value : α}
    (some_iff : ∀ found, result = some found ↔ granted ∧ found = value) :
      result = none ↔ ¬granted := by
  simp [Option.eq_none_iff_forall_ne_some, some_iff]

end Checks

/-! ## The functions -/

/-- The flags are read and written back with or without `O_NONBLOCK`. -/
def sockSetBlkmode (flags : Int × Int) (blkmode : Bool) (endpoint : Endpoint) : Option Endpoint :=
  if flags.1 = -1 then none
  else if flags.2 = -1 then none
  else some { endpoint with nonblocking := blkmode }

/-- A socket that is to connect is left blocking. -/
def sockCreate (cfg : Cfg) (io : SocketAnswers) (blkmode : Bool) (family : Family) :
    Except Failure (Int × Endpoint) := do
  require (io.socket ≠ -1) ⟨false, []⟩
  let endpoint ←
    if !isTcpc cfg then
      orFail (sockSetBlkmode io.blkmode blkmode (.fresh cfg family)) ⟨false, [io.socket]⟩
    else
      orFail (sockSetBlkmode io.blkmode false (.fresh cfg family)) ⟨false, [io.socket]⟩
  .ok (io.socket, endpoint)

/-- `inet_pton` is asked for IPv6 first; whatever it returns but 0 counts. -/
def parseAddress (io : SocketAnswers) : Option Family :=
  if io.inet6 ≠ 0 then some .inet6
  else if io.inet ≠ 0 then some .inet
  else none

/-- The port is handed over as an `unsigned short`. -/
def portNumber (serverport : Int) : Nat := (serverport % 2 ^ 16).toNat

/-- `bind` or `connect`, or neither for a mode that is none of the three. -/
def attach (cfg : Cfg) (io : SocketAnswers) (address : Address) (endpoint : Endpoint) :
    Option Endpoint :=
  if cfg.isUdp || cfg.isTcps then
    if io.bind = -1 then none else some { endpoint with bound := some address }
  else if isTcpc cfg then
    if io.connect = -1 then none else some { endpoint with peer := some address }
  else some endpoint

def sockCreateServer (cfg : Cfg) (serverport : Int) (io : SocketAnswers) (blkmode : Bool) :
    Except Failure (Int × Endpoint) := do
  let family ← orFail (parseAddress io) ⟨false, []⟩
  let (serverS, created) ← sockCreate cfg io blkmode family
  require (0 ≤ serverS) ⟨false, []⟩
  require (io.cloexec ≠ -1) ⟨false, [serverS]⟩
  require (io.reuseaddr ≠ -1) ⟨false, [serverS]⟩
  require (io.sndbuf ≠ -1 ∧ io.rcvbuf ≠ -1) ⟨false, [serverS]⟩
  let adjusted : Endpoint :=
    { created with
      closeOnExec := true
      reuseAddr := true
      sndbuf := some sockbufsize
      rcvbuf := some sockbufsize }
  let attached ←
    orFail (attach cfg io ⟨family, portNumber serverport⟩ adjusted) ⟨false, [serverS]⟩
  let unblocked ← orFail (sockSetBlkmode io.unblock true attached) ⟨false, [serverS]⟩
  if cfg.isTcps then
    require (io.listen ≠ -1) ⟨true, [serverS]⟩
    .ok (serverS, { unblocked with backlog := some backlogSize })
  else .ok (serverS, unblocked)

/-- What `conn_init` is answered: the configuration with the port `tty_open` opens, and the
calls of the socket. -/
structure StartAnswers where
  cfg : Cfg
  serverport : Int
  queue : QueueMem
  fds : FdTable
  ttyFd : Int
  socket : SocketAnswers

def StartAnswers.opened (io : StartAnswers) : InitAnswers :=
  ⟨io.cfg, io.queue, io.fds, io.ttyFd, io.socket.socket⟩

/-- Nothing is closed on the way out. -/
def Failure.withPort (ttyFd : Int) (failure : Failure) : Failure :=
  { failure with left := ttyFd :: failure.left }

def connInit (io : StartAnswers) : Except Failure (State × Endpoint) := do
  require (0 ≤ io.ttyFd) ⟨false, []⟩
  let (serverSd, endpoint) ←
    (sockCreateServer io.cfg io.serverport io.socket true).mapError (.withPort io.ttyFd)
  .ok (initialState { io.opened with serverSd := serverSd }, endpoint)

/-! ## The calls that have to succeed -/

def Granted (flags : Int × Int) : Prop := flags.1 ≠ -1 ∧ flags.2 ≠ -1

/-- The address is understood and every call that the mode makes up to `listen` succeeds. -/
structure SocketGranted (cfg : Cfg) (io : SocketAnswers) : Prop where
  address : io.inet6 ≠ 0 ∨ io.inet ≠ 0
  socket : 0 ≤ io.socket
  blkmode : Granted io.blkmode
  cloexec : io.cloexec ≠ -1
  reuseaddr : io.reuseaddr ≠ -1
  buffers : io.sndbuf ≠ -1 ∧ io.rcvbuf ≠ -1
  bind : (cfg.isUdp || cfg.isTcps) = true → io.bind ≠ -1
  connect : isTcpc cfg = true → io.connect ≠ -1
  unblock : Granted io.unblock

def endpointFamily (io : SocketAnswers) : Family := if io.inet6 ≠ 0 then .inet6 else .inet

/-- A socket made for the mode: a server listens at its address, a client is connected to
it, a datagram socket is bound to it, and none of them blocks. -/
def madeFor (cfg : Cfg) (serverport : Int) (io : SocketAnswers) : Endpoint :=
  let address : Address := ⟨endpointFamily io, portNumber serverport⟩
  { stream := !cfg.isUdp
    family := endpointFamily io
    nonblocking := true
    closeOnExec := true
    reuseAddr := true
    sndbuf := some sockbufsize
    rcvbuf := some sockbufsize
    bound := if cfg.isUdp || cfg.isTcps then some address else none
    peer := if isTcpc cfg then some address else none
    backlog := if cfg.isTcps then some backlogSize else none }

theorem modes_apart (cfg : Cfg) (tcpc : isTcpc cfg = true) :
    (cfg.isUdp || cfg.isTcps) = false := by
  have mode : cfg.connmode.take 4 = ascii "tcpc" := by simpa [isTcpc] using tcpc
  have three : cfg.connmode.take 3 = (ascii "tcpc").take 3 := by
    rw [← mode, List.take_take]
    rfl
  rw [Cfg.isUdp, Cfg.isTcps, three, mode]
  decide

theorem set_blkmode_iff (flags : Int × Int) (blkmode : Bool) (endpoint result : Endpoint) :
    sockSetBlkmode flags blkmode endpoint = some result ↔
      Granted flags ∧ result = { endpoint with nonblocking := blkmode } := by
  unfold sockSetBlkmode Granted
  split
  · next failed => simp [failed]
  · next read =>
      split
      · next failed => simp [failed]
      · next written => simp [read, written, eq_comm]

theorem sock_create_iff (cfg : Cfg) (io : SocketAnswers) (blkmode : Bool) (family : Family)
    (made : Int × Endpoint) :
      sockCreate cfg io blkmode family = .ok made ↔
        io.socket ≠ -1 ∧ Granted io.blkmode ∧
          made = (io.socket,
            { Endpoint.fresh cfg family with nonblocking := blkmode && !isTcpc cfg }) := by
  unfold sockCreate
  cases isTcpc cfg <;>
    simp only [Bool.not_false, Bool.not_true, Bool.and_true, Bool.and_false, Bool.false_eq_true,
      if_true, if_false, bind_eq_ok_iff, require_eq_ok_iff, or_fail_eq_ok_iff, set_blkmode_iff,
      exists_const, Except.ok.injEq, and_assoc, exists_and_left, exists_eq_left,
      eq_comm (a := made)]

theorem parse_address_iff (io : SocketAnswers) (family : Family) :
    parseAddress io = some family ↔
      (io.inet6 ≠ 0 ∨ io.inet ≠ 0) ∧ family = endpointFamily io := by
  unfold parseAddress endpointFamily
  by_cases six : io.inet6 = 0 <;> by_cases four : io.inet = 0 <;> simp [six, four, eq_comm]

def attachedTo (cfg : Cfg) (address : Address) (endpoint : Endpoint) : Endpoint :=
  { endpoint with
    bound := if cfg.isUdp || cfg.isTcps then some address else endpoint.bound
    peer := if isTcpc cfg then some address else endpoint.peer }

theorem attach_iff (cfg : Cfg) (io : SocketAnswers) (address : Address)
    (endpoint result : Endpoint) :
      attach cfg io address endpoint = some result ↔
        ((cfg.isUdp || cfg.isTcps) = true → io.bind ≠ -1) ∧
          (isTcpc cfg = true → io.connect ≠ -1) ∧ result = attachedTo cfg address endpoint := by
  unfold attach attachedTo
  cases served : cfg.isUdp || cfg.isTcps with
  | true =>
      have other : isTcpc cfg = false := by
        by_contra client
        rw [modes_apart cfg (by simpa using client)] at served
        cases served
      by_cases refused : io.bind = -1 <;> simp [other, refused, eq_comm]
  | false =>
      cases isTcpc cfg with
      | true => by_cases refused : io.connect = -1 <;> simp [refused, eq_comm]
      | false => simpa using eq_comm

theorem listen_iff (cfg : Cfg) (io : SocketAnswers) (sd : Int) (endpoint : Endpoint)
    (made : Int × Endpoint) :
      (if cfg.isTcps then do
          require (io.listen ≠ -1) ⟨true, [sd]⟩
          .ok (sd, { endpoint with backlog := some backlogSize })
        else .ok (sd, endpoint) : Except Failure (Int × Endpoint)) = .ok made ↔
        (cfg.isTcps = true → io.listen ≠ -1) ∧
          made = (sd, { endpoint with
            backlog := if cfg.isTcps then some backlogSize else endpoint.backlog }) := by
  cases cfg.isTcps with
  | true =>
      simp only [if_true, bind_eq_ok_iff, require_eq_ok_iff, exists_const, Except.ok.injEq,
        true_implies, eq_comm (a := made)]
  | false =>
      simp only [Bool.false_eq_true, if_false, false_implies, true_and, Except.ok.injEq,
        eq_comm (a := made)]

theorem sock_create_server_iff (cfg : Cfg) (serverport : Int) (io : SocketAnswers)
    (made : Int × Endpoint) :
      sockCreateServer cfg serverport io true = .ok made ↔
        SocketGranted cfg io ∧ (cfg.isTcps = true → io.listen ≠ -1) ∧
          made = (io.socket, madeFor cfg serverport io) := by
  unfold sockCreateServer
  simp only [bind_eq_ok_iff, require_eq_ok_iff, or_fail_eq_ok_iff, set_blkmode_iff,
    parse_address_iff, sock_create_iff, attach_iff, listen_iff]
  constructor
  · rintro ⟨_, ⟨address, rfl⟩, _, ⟨_, blkmode, rfl⟩, _, socket, _, cloexec, _, reuseaddr, _,
      buffers, _, ⟨bind, connect, rfl⟩, _, ⟨unblock, rfl⟩, listen, rfl⟩
    exact ⟨⟨address, socket, blkmode, cloexec, reuseaddr, buffers, bind, connect, unblock⟩,
      listen, rfl⟩
  · rintro ⟨granted, listen, rfl⟩
    have made : io.socket ≠ -1 := fun refused => absurd granted.socket (by rw [refused]; decide)
    exact ⟨_, ⟨granted.address, rfl⟩, _, ⟨made, granted.blkmode, rfl⟩, (), granted.socket, (),
      granted.cloexec, (), granted.reuseaddr, (), granted.buffers, _,
      ⟨granted.bind, granted.connect, rfl⟩, _, ⟨granted.unblock, rfl⟩, listen, rfl⟩

/-! ## What a refused start leaves open -/

theorem set_blkmode_none_iff (flags : Int × Int) (blkmode : Bool) (endpoint : Endpoint) :
    sockSetBlkmode flags blkmode endpoint = none ↔ ¬Granted flags :=
  none_iff_of_some_iff (set_blkmode_iff flags blkmode endpoint)

theorem attach_none_iff (cfg : Cfg) (io : SocketAnswers) (address : Address)
    (endpoint : Endpoint) :
      attach cfg io address endpoint = none ↔
        ¬(((cfg.isUdp || cfg.isTcps) = true → io.bind ≠ -1) ∧
          (isTcpc cfg = true → io.connect ≠ -1)) :=
  none_iff_of_some_iff fun found => by rw [attach_iff, and_assoc]

theorem parse_address_none_iff (io : SocketAnswers) :
    parseAddress io = none ↔ ¬(io.inet6 ≠ 0 ∨ io.inet ≠ 0) :=
  none_iff_of_some_iff (parse_address_iff io)

theorem sock_create_error_iff (cfg : Cfg) (io : SocketAnswers) (blkmode : Bool) (family : Family)
    (failure : Failure) :
      sockCreate cfg io blkmode family = .error failure ↔
        (io.socket = -1 ∧ failure = ⟨false, []⟩) ∨
          (io.socket ≠ -1 ∧ ¬Granted io.blkmode ∧ failure = ⟨false, [io.socket]⟩) := by
  unfold sockCreate
  cases isTcpc cfg <;>
    simp only [Bool.not_false, Bool.not_true, Bool.false_eq_true, if_true, if_false,
      bind_eq_error_iff, require_eq_error_iff, require_eq_ok_iff, or_fail_eq_error_iff,
      set_blkmode_none_iff, exists_const, reduceCtorEq, and_false, exists_false, or_false, not_not,
      ne_eq, eq_comm (a := failure)]

/-- The socket stays open from the moment it is made. -/
def leftOpen (io : SocketAnswers) : List Int :=
  if (io.inet6 ≠ 0 ∨ io.inet ≠ 0) ∧ 0 ≤ io.socket then [io.socket] else []

theorem listen_error_iff (cfg : Cfg) (io : SocketAnswers) (sd : Int) (endpoint : Endpoint)
    (failure : Failure) :
      (if cfg.isTcps then do
          require (io.listen ≠ -1) ⟨true, [sd]⟩
          .ok (sd, { endpoint with backlog := some backlogSize })
        else .ok (sd, endpoint) : Except Failure (Int × Endpoint)) = .error failure ↔
        cfg.isTcps = true ∧ io.listen = -1 ∧ failure = ⟨true, [sd]⟩ := by
  cases cfg.isTcps <;>
    simp [bind_eq_error_iff, require_eq_error_iff, eq_comm (a := failure)]

theorem sock_create_server_error (cfg : Cfg) (serverport : Int) (io : SocketAnswers)
    (failure : Failure) (descriptor : -1 ≤ io.socket)
    (failed : sockCreateServer cfg serverport io true = .error failure) :
      failure.left = leftOpen io ∧ (failure.exits = true ↔ SocketGranted cfg io) := by
  unfold sockCreateServer at failed
  simp only [bind_eq_error_iff, require_eq_error_iff, or_fail_eq_error_iff, require_eq_ok_iff,
    or_fail_eq_ok_iff, set_blkmode_iff, set_blkmode_none_iff, parse_address_iff,
    parse_address_none_iff, sock_create_iff, sock_create_error_iff, attach_iff, attach_none_iff,
    listen_error_iff] at failed
  have early : ∀ left : List Int, ¬SocketGranted cfg io → failure = ⟨false, left⟩ →
      left = leftOpen io → failure.left = leftOpen io ∧
        (failure.exits = true ↔ SocketGranted cfg io) := by
    rintro left missing rfl same
    exact ⟨same, ⟨nofun, fun granted => absurd granted missing⟩⟩
  rcases failed with ⟨missing, ended⟩ | ⟨_, ⟨address, rfl⟩, failed⟩
  · exact early [] (fun granted => missing granted.address) ended.symm
      (by rw [leftOpen, if_neg fun made => missing made.1])
  rcases failed with (⟨missing, ended⟩ | ⟨made, missing, ended⟩) |
    ⟨_, ⟨made, blkmode, rfl⟩, failed⟩
  · exact early [] (fun granted => by have := granted.socket; omega) ended
      (by rw [leftOpen, if_neg]; omega)
  · exact early [io.socket] (fun granted => missing granted.blkmode) ended
      (by rw [leftOpen, if_pos ⟨address, by omega⟩])
  have socket : 0 ≤ io.socket := by omega
  have open_left : [io.socket] = leftOpen io := by rw [leftOpen, if_pos ⟨address, socket⟩]
  rcases failed with ⟨missing, ended⟩ | ⟨_, -, failed⟩
  · exact absurd socket missing
  rcases failed with ⟨missing, ended⟩ | ⟨_, cloexec, failed⟩
  · exact early _ (fun granted => missing granted.cloexec) ended.symm open_left
  rcases failed with ⟨missing, ended⟩ | ⟨_, reuseaddr, failed⟩
  · exact early _ (fun granted => missing granted.reuseaddr) ended.symm open_left
  rcases failed with ⟨missing, ended⟩ | ⟨_, buffers, failed⟩
  · exact early _ (fun granted => missing granted.buffers) ended.symm open_left
  rcases failed with ⟨missing, ended⟩ | ⟨_, ⟨bind, connect, rfl⟩, failed⟩
  · exact early _ (fun granted => missing ⟨granted.bind, granted.connect⟩) ended.symm open_left
  rcases failed with ⟨missing, ended⟩ | ⟨_, ⟨unblock, rfl⟩, -, -, rfl⟩
  · exact early _ (fun granted => missing granted.unblock) ended.symm open_left
  exact ⟨open_left, fun _ => ⟨address, socket, blkmode, cloexec, reuseaddr, buffers, bind,
    connect, unblock⟩, fun _ => rfl⟩

/-! ## `conn_init` -/

/-- What the kernel promises of the descriptors it hands out. -/
structure FreshDescriptors (io : StartAnswers) : Prop where
  tty : io.fds io.ttyFd = none
  answer : -1 ≤ io.socket.socket
  socket : io.fds io.socket.socket = none
  apart : io.socket.socket ≠ io.ttyFd
  queue : io.queue.live = []

def AllGranted (io : StartAnswers) : Prop :=
  SocketGranted io.cfg io.socket ∧ (io.cfg.isTcps = true → io.socket.listen ≠ -1)

theorem conn_init_iff (io : StartAnswers) (port : 0 ≤ io.ttyFd) (started : State × Endpoint) :
    connInit io = .ok started ↔
      AllGranted io ∧
        started = (initialState io.opened, madeFor io.cfg io.serverport io.socket) := by
  unfold connInit
  simp only [bind_eq_ok_iff, require_eq_ok_iff, map_error_eq_ok_iff, sock_create_server_iff]
  constructor
  · rintro ⟨_, -, _, ⟨granted, listen, rfl⟩, started⟩
    exact ⟨⟨granted, listen⟩, (Except.ok.inj started).symm⟩
  · rintro ⟨⟨granted, listen⟩, rfl⟩
    exact ⟨(), port, _, ⟨granted, listen, rfl⟩, rfl⟩

/-- A start that fails with an open port leaves the port and the socket open. -/
theorem conn_init_leaves (io : StartAnswers) (port : 0 ≤ io.ttyFd)
    (answer : -1 ≤ io.socket.socket) (missing : ¬AllGranted io) :
      ∃ failure, connInit io = .error failure ∧
        failure.left = io.ttyFd :: leftOpen io.socket ∧
          (failure.exits = true ↔ SocketGranted io.cfg io.socket) := by
  cases failed : sockCreateServer io.cfg io.serverport io.socket true with
  | ok made =>
      have granted := (sock_create_server_iff _ _ _ _).mp failed
      exact absurd ⟨granted.1, granted.2.1⟩ missing
  | error failure =>
      obtain ⟨left, exits⟩ := sock_create_server_error _ _ _ failure answer failed
      refine ⟨failure.withPort io.ttyFd, ?_, congrArg (io.ttyFd :: ·) left, exits⟩
      simp [connInit, require, port, failed, Except.mapError, Bind.bind, Except.bind]

theorem initial_started (io : StartAnswers) (fresh : FreshDescriptors io) (port : 0 ≤ io.ttyFd)
    (granted : AllGranted io) : Started (initialState io.opened) := by
  refine ⟨io.opened, ?_, fresh.queue, fresh.tty, fresh.apart, fresh.socket⟩
  have socket : ¬io.opened.serverSd < 0 := Int.not_lt.mpr granted.1.socket
  have tty : ¬io.opened.ttyFd < 0 := Int.not_lt.mpr port
  rw [SocketBridge.connInit, if_neg tty, if_neg socket]

end GlRs485.ServerStart
