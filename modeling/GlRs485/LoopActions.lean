import GlRs485.HeadPasses

/-!
# A step of `conn_loop` as a sequence of actions

Every step that starts in a sound state is a sequence of a few kinds of actions:
a connection comes, goes, has a request answered or a reply sent, or nothing
that concerns a connection happens. A property kept by every action is kept by
every run, whatever the answers of the environment.
-/

namespace GlRs485.LoopActions

open CBytes ConnectionQueue BridgeSettings SocketBridge ServingVisits HeadPasses TracedSystem

set_option autoImplicit false

/-- The states of the serving loop are those of a well-formed queue whose
connections wait for a request or for their reply to go out. -/
structure Stable (s : State) : Prop where
  formed : WellFormed s.queue
  phases : ∀ conn ∈ s.queue.live, (s.conn conn).state = .header ∨ (s.conn conn).state = .resp

/-- The loop never stands on NULL, and between two visits it stands on a queued
connection with fewer visits to come than there are connections. -/
def Placed (s : State) : Prop :=
  match s.pc with
  | .serving more curconn =>
      more < s.queue.live.length ∧ ∃ conn ∈ s.queue.live, curconn = some conn
  | .nullRead => False
  | _ => True

structure Sound (s : State) : Prop extends Stable s where
  placed : Placed s

structure Fixed (s s' : State) : Prop where
  cfg : s'.cfg = s.cfg
  serverSd : s'.serverSd = s.serverSd
  ttyFd : s'.tty.fd = s.tty.fd

structure Kept (s s' : State) (conn : Ptr) : Prop where
  sd : (s'.conn conn).sd = (s.conn conn).sd
  state : (s'.conn conn).state = (s.conn conn).state
  reply : (s.conn conn).state = .resp → (s'.conn conn).buf = (s.conn conn).buf

def Silent : Event → Prop
  | .selected _ _ _ _ => True
  | .staleRead _ => True
  | _ => False

def Visited (s : State) (conn : Ptr) : Prop := ∃ more, s.pc = .serving more (some conn)

/-- The actions of the step taken from `s₀` on `answers`. Requests are only read
in the state the step starts from. -/
inductive Action (s₀ : State) (answers : Answers) : State → List Event → State → Prop
  | quiet {s s' : State} {events : List Event} (fixed : Fixed s s')
      (live : s'.queue.live = s.queue.live) (fds : s'.fds = s.fds)
      (rxlen : s'.tty.rxlen = s.tty.rxlen) (kept : ∀ conn ∈ s.queue.live, Kept s s' conn)
      (silent : ∀ event ∈ events, Silent event) : Action s₀ answers s events s'
  | refused {s : State} {sd : Int} (free : s.fds sd = none) :
      Action s₀ answers s [.accepted sd, .dropped sd]
        { s with fds := (s.fds.openAt sd .client).closeAt sd }
  | leaked {s : State} {sd : Int} (free : s.fds sd = none) :
      Action s₀ answers s [.accepted sd] { s with fds := s.fds.openAt sd .client }
  | opened {s s' : State} {conn : Ptr} {sd : Int} (tcps : s.cfg.isTcps = true)
      (free : s.fds sd = none) (small : sd < fdSetsize)
      (room : (s.queue.len : Int) ≠ s.cfg.maxconn) (fixed : Fixed s s')
      (added : Opened s s' conn sd) (fds : s'.fds = s.fds.openAt sd .client)
      (rxlen : s'.tty.rxlen = s.tty.rxlen) :
      Action s₀ answers s [.accepted sd, .opened conn sd] s'
  | attached {s s' : State} {conn : Ptr} (once : s.oneTime = true) (fixed : Fixed s s')
      (added : Opened s s' conn s.serverSd) (fds : s'.fds = s.fds)
      (rxlen : s'.tty.rxlen = s.tty.rxlen) :
      Action s₀ answers s [.opened conn s.serverSd] s'
  | closed {s s' : State} {conn : Ptr} (listed : conn ∈ s.queue.live) (fixed : Fixed s s')
      (gone : Closed s s' conn) (rxlen : s'.tty.rxlen = s.tty.rxlen) :
      Action s₀ answers s [.closed conn (s.conn conn).sd] s'
  | answered {s' : State} {io : VisitAnswers} {conn : Ptr} {bytes : List Byte} {peer : Nat}
      {lines : List SerialLine.LineEvent} {events : List Event} {flow : Flow}
      (visit : answers = .visit io) (visited : Visited s₀ conn) (listed : conn ∈ s₀.queue.live)
      (reads : Reads s₀ conn io bytes peer)
      (answered : Answered conn io.lockFails (heardFrom s₀ peer) s' lines events)
      (computed : dispatchRequest (loadRequest (heardState s₀ conn peer) conn bytes) conn io =
        (s', events, flow)) :
      Action s₀ answers s₀ (.request conn bytes :: events) s'
  | sent {s : State} {io : VisitAnswers} {conn : Ptr} (visit : answers = .visit io)
      (listed : conn ∈ s.queue.live) (owing : (s.conn conn).state = .resp)
      (accepted : 0 < connWrite io.send) :
      Action s₀ answers s [replyCall s conn io] (stateConnSet s conn .header)
  | lost {s s' : State} {io : VisitAnswers} {conn : Ptr} (visit : answers = .visit io)
      (listed : conn ∈ s.queue.live) (owing : (s.conn conn).state = .resp)
      (failed : connWrite io.send ≤ 0) (fixed : Fixed s s') (gone : Closed s s' conn)
      (rxlen : s'.tty.rxlen = s.tty.rxlen) :
      Action s₀ answers s [replyCall s conn io, .closed conn (s.conn conn).sd] s'

/-- The step in which a decoder loop does not end: a request has been read, and
nothing happens any more. -/
inductive Stuck (s₀ : State) (answers : Answers) : List Event → State → Prop
  | intro {s' : State} {io : VisitAnswers} {conn : Ptr} {bytes : List Byte} {peer : Nat}
      (visit : answers = .visit io) (visited : Visited s₀ conn) (listed : conn ∈ s₀.queue.live)
      (reads : Reads s₀ conn io bytes peer) (untouched : Untouched conn s₀ s') :
      Stuck s₀ answers [.request conn bytes] { s' with pc := .endless }

inductive Actions (s₀ : State) (answers : Answers) : List Event → State → Prop
  | start : Actions s₀ answers [] s₀
  | next {s s' : State} {done events : List Event} (earlier : Actions s₀ answers done s)
      (stable : Stable s) (action : Action s₀ answers s events s') :
      Actions s₀ answers (done ++ events) s'

structure Going (s₀ : State) (answers : Answers) (events : List Event) (s : State) : Prop where
  actions : Actions s₀ answers events s
  stable : Stable s

theorem Going.next {s₀ s s' : State} {answers : Answers} {done events : List Event}
    (going : Going s₀ answers done s) (stable : Stable s')
    (action : Action s₀ answers s events s') :
      Going s₀ answers (done ++ events) s' :=
  ⟨.next going.actions going.stable action, stable⟩

theorem closed_stable {s s' : State} {conn : Ptr} (gone : Closed s s' conn) (stable : Stable s) :
    Stable s' := by
  refine ⟨gone.formed, ?_⟩
  intro other member
  obtain ⟨listed, content⟩ := gone.remaining stable.formed member
  rw [content.state]
  exact stable.phases other listed

theorem opened_stable {s s' : State} {conn : Ptr} {sd : Int} (added : Opened s s' conn sd)
    (stable : Stable s) : Stable s' := by
  refine ⟨added.formed, ?_⟩
  intro other member
  rw [added.live, List.mem_append, List.mem_singleton] at member
  rcases member with listed | new
  · rw [(added.others other listed).state]
    exact stable.phases other listed
  · subst new
    exact Or.inl added.state

theorem frame_stable {s s' : State} {conn : Ptr} (frame : Frame conn s s')
    (phase : (s'.conn conn).state = .header ∨ (s'.conn conn).state = .resp) (stable : Stable s) :
      Stable s' := by
  refine ⟨frame.wellFormed stable.formed, ?_⟩
  intro other member
  rw [frame.live] at member
  by_cases same : other = conn
  · subst same
    exact phase
  · rw [frame.others other same]
    exact stable.phases other member

theorem frame_fixed {s s' : State} {conn : Ptr} (frame : Frame conn s s') : Fixed s s' :=
  ⟨frame.cfg, frame.serverSd, frame.ttyFd⟩

theorem untouched_kept {s s' : State} {conn other : Ptr} (untouched : Untouched conn s s')
    (idle : (s.conn conn).state ≠ .resp) : Kept s s' other := by
  by_cases same : other = conn
  · subst same
    exact ⟨untouched.frame.sd, untouched.state, fun owing => absurd owing idle⟩
  · have unchanged := untouched.frame.others other same
    exact ⟨congrArg Conn.sd unchanged, congrArg Conn.state unchanged,
      fun _ => congrArg Conn.buf unchanged⟩

theorem placed_going {s₀ s : State} {answers : Answers} {done events : List Event}
    (going : Going s₀ answers done s) (pc : Pc) (silent : ∀ event ∈ events, Silent event) :
      Going s₀ answers (done ++ events) { s with pc := pc } :=
  going.next ⟨going.stable.formed, going.stable.phases⟩
    (.quiet ⟨rfl, rfl, rfl⟩ rfl rfl rfl (fun _ _ => ⟨rfl, rfl, fun _ => rfl⟩) silent)

theorem asked_idle {state : ConnState} (asked : readsRequests state = true) : state ≠ .resp := by
  intro owing
  rw [owing] at asked
  simp [readsRequests] at asked

theorem conn_close_fixed (s : State) (conn : Ptr) (scrap : Conn) :
    Fixed s (connClose s conn scrap).1 := ⟨rfl, rfl, rfl⟩

/-- What a visit leaves behind for the walk to go on from. -/
def Leaves (s s' : State) (conn : Ptr) (flow : Flow) : Prop :=
  match flow with
  | .closed nextconn =>
      s'.queue.live = s.queue.live.erase conn ∧ ∃ following, nextconn = some following ∧
        (following ∈ s.queue.live.erase conn ∨ s.queue.live = [conn])
  | .send => False
  | _ => s'.queue.live = s.queue.live

theorem conn_close_leaves (s : State) (conn : Ptr) (scrap : Conn) (formed : WellFormed s.queue)
    (listed : conn ∈ s.queue.live) :
      Leaves s (connClose s conn scrap).1 conn (.closed (connClose s conn scrap).2) := by
  obtain ⟨following, answer, place⟩ := conn_close_next s conn scrap formed listed
  exact ⟨(conn_close_closed s conn scrap formed listed).live, following, answer,
    place.imp_right And.left⟩

theorem socket_send_going {s₀ s : State} {io : VisitAnswers} {done : List Event} {conn : Ptr}
    (going : Going s₀ (.visit io) done s) (listed : conn ∈ s.queue.live)
    (owing : (s.conn conn).state = .resp) :
      Going s₀ (.visit io) (done ++ (socketSend s conn io).2.1) (socketSend s conn io).1 ∧
        Leaves s (socketSend s conn io).1 conn (socketSend s conn io).2.2 := by
  have formed := going.stable.formed
  rcases socket_send_cases s conn io with ⟨_, held⟩ | ⟨accepted, sent⟩ | ⟨failed, lost⟩
  · rw [held]
    exact ⟨by simpa using going, rfl⟩
  · rw [sent]
    have frame := state_conn_set_frame s conn .header
    have phase := state_conn_set_state s conn .header
    exact ⟨going.next (frame_stable frame (Or.inl phase) going.stable)
      (.sent rfl listed owing accepted), rfl⟩
  · rw [lost]
    have gone := conn_close_closed s conn io.scrap formed listed
    exact ⟨going.next (closed_stable gone going.stable)
      (.lost rfl listed owing failed (conn_close_fixed s conn io.scrap) gone rfl),
      conn_close_leaves s conn io.scrap formed listed⟩

theorem untouched_going {s s' : State} {conn : Ptr} {answers : Answers} (stable : Stable s)
    (listed : conn ∈ s.queue.live) (asked : readsRequests (s.conn conn).state = true)
    (untouched : Untouched conn s s') : Going s answers [] s' := by
  have start : Going s answers [] s := ⟨.start, stable⟩
  have phase : (s'.conn conn).state = .header ∨ (s'.conn conn).state = .resp := by
    rw [untouched.state]
    exact stable.phases conn listed
  exact start.next (frame_stable untouched.frame phase stable)
    (.quiet (frame_fixed untouched.frame) untouched.frame.live untouched.fds untouched.rxlen
      (fun _ _ => untouched_kept untouched (asked_idle asked)) (by simp))

theorem close_going {s₀ s : State} {answers : Answers} {done : List Event} {conn : Ptr}
    (scrap : Conn) (going : Going s₀ answers done s) (listed : conn ∈ s.queue.live) :
      Going s₀ answers (done ++ [.closed conn (s.conn conn).sd]) (connClose s conn scrap).1 := by
  have gone := conn_close_closed s conn scrap going.stable.formed listed
  exact going.next (closed_stable gone going.stable)
    (.closed listed (conn_close_fixed s conn scrap) gone rfl)

theorem outcome_going {s s' : State} {conn : Ptr} {io : VisitAnswers} {events : List Event}
    {flow : Flow} (outcome : Outcome conn io s s' events flow) (stable : Stable s)
    (visited : Visited s conn) (listed : conn ∈ s.queue.live) (ends : flow ≠ .endless) :
      Going s (.visit io) events s' ∧ Leaves s s' conn flow := by
  have start : Going s (.visit io) [] s := ⟨.start, stable⟩
  have answeredGoing : ∀ {s' bytes peer lines events flow}, Reads s conn io bytes peer →
      Answered conn io.lockFails (heardFrom s peer) s' lines events →
      dispatchRequest (loadRequest (heardState s conn peer) conn bytes) conn io =
        (s', events, flow) → Going s (.visit io) (.request conn bytes :: events) s' := by
    intro s' bytes peer lines events flow reads answered computed
    have after : Stable s' := frame_stable answered.frame (Or.inr answered.state)
      ⟨stable.formed, stable.phases⟩
    exact start.next after (.answered rfl visited listed reads answered computed)
  cases outcome with
  | passed => exact ⟨start, rfl⟩
  | unread asked untouched =>
      exact ⟨untouched_going stable listed asked untouched, untouched.frame.live⟩
  | @ended middle asked untouched =>
      have still : conn ∈ middle.queue.live := untouched.frame.live ▸ listed
      have going : Going s (.visit io) _ _ :=
        close_going io.scrap (untouched_going stable listed asked untouched) still
      have leaves := conn_close_leaves middle conn io.scrap
        (untouched.frame.wellFormed stable.formed) still
      rw [untouched.frame.sd] at going
      unfold Leaves at leaves ⊢
      rw [untouched.frame.live] at leaves
      exact ⟨going, leaves⟩
  | stuck reads untouched => exact absurd rfl ends
  | answered reads answered computed =>
      exact ⟨answeredGoing reads answered computed, answered.frame.live⟩
  | @answeredAtOnce middle bytes peer lines events reads answered computed =>
      have live : middle.queue.live = s.queue.live := answered.frame.live
      have still : conn ∈ middle.queue.live := live ▸ listed
      obtain ⟨going, leaves⟩ := socket_send_going (answeredGoing reads answered computed) still
        answered.state
      unfold Leaves at leaves ⊢
      rw [live] at leaves
      exact ⟨going, leaves⟩
  | owed owing =>
      have sending := socket_send_going start listed owing
      exact sending

theorem advance_going {s₀ s : State} {answers : Answers} {done : List Event} (more : Nat)
    (conn : Ptr) (going : Going s₀ answers done s)
    (within : ∀ less, more = less + 1 → conn ∈ s.queue.live ∧ less < s.queue.live.length) :
      Going s₀ answers (done ++ (advance s more (some conn)).2) (advance s more (some conn)).1 ∧
        Placed (advance s more (some conn)).1 := by
  have silent : ∀ event ∈ (if conn ∈ s.queue.live then [] else [Event.staleRead conn]),
      Silent event := by
    intro event member
    split at member
    · simp at member
    · rw [List.mem_singleton.mp member]
      trivial
  cases more with
  | zero => exact ⟨placed_going going .head silent, trivial⟩
  | succ less =>
      obtain ⟨listed, bound⟩ := within less rfl
      obtain ⟨after, successor, afterListed⟩ :=
        queue_next_elem_live s.queue conn going.stable.formed listed
      exact ⟨placed_going going (.serving less (queueNextElem s.queue conn)) silent,
        bound, after, afterListed, successor⟩

theorem socket_send_stays (s : State) (conn : Ptr) (io : VisitAnswers) :
    ¬((socketSend s conn io).2.2 = .sele ∨ (socketSend s conn io).2.2 = .endless) := by
  rcases socket_send_cases s conn io with ⟨_, held⟩ | ⟨_, sent⟩ | ⟨_, lost⟩
  · simp [held]
  · simp [sent]
  · simp [lost]

theorem socket_send_ends (s : State) (conn : Ptr) (io : VisitAnswers) :
    (socketSend s conn io).2.2 ≠ .endless :=
  fun endless => socket_send_stays s conn io (Or.inr endless)

theorem outcome_stuck {s s' : State} {conn : Ptr} {io : VisitAnswers} {events : List Event}
    {flow : Flow} (outcome : Outcome conn io s s' events flow) (endless : flow = .endless)
    (stable : Stable s) (visited : Visited s conn) (listed : conn ∈ s.queue.live) :
      Stuck s (.visit io) events { s' with pc := .endless } ∧ Stable s' := by
  cases outcome with
  | stuck reads untouched =>
      have phase : (s'.conn conn).state = .header ∨ (s'.conn conn).state = .resp := by
        rw [untouched.state]
        exact stable.phases conn listed
      exact ⟨.intro rfl visited listed reads untouched,
        frame_stable untouched.frame phase stable⟩
  | answeredAtOnce reads answered computed => exact absurd endless (socket_send_ends _ conn io)
  | owed owing => exact absurd endless (socket_send_ends s conn io)
  | _ => simp at endless

theorem visit_going (s : State) (more : Nat) (conn : Ptr) (io : VisitAnswers) (stable : Stable s)
    (pc : s.pc = .serving more (some conn)) (listed : conn ∈ s.queue.live)
    (bound : more < s.queue.live.length) :
      Sound (visitStep s more (some conn) io).1 ∧
        (Actions s (.visit io) (visitStep s more (some conn) io).2
            (visitStep s more (some conn) io).1 ∨
          Stuck s (.visit io) (visitStep s more (some conn) io).2
            (visitStep s more (some conn) io).1) := by
  have outcome := serve_conn_outcome s conn io
  have done : ∀ {events s'}, Going s (.visit io) events s' ∧ Placed s' →
      Sound s' ∧ (Actions s (.visit io) events s' ∨ Stuck s (.visit io) events s') :=
    fun reached => ⟨⟨reached.1.stable, reached.2⟩, Or.inl reached.1.actions⟩
  unfold visitStep
  dsimp only
  cases flow : (serveConn s conn io).2.2 with
  | endless =>
      obtain ⟨stuck, after⟩ := outcome_stuck outcome flow stable ⟨more, pc⟩ listed
      exact ⟨⟨⟨after.formed, after.phases⟩, trivial⟩, Or.inr stuck⟩
  | sele =>
      obtain ⟨going, leaves⟩ := outcome_going outcome stable ⟨more, pc⟩ listed (by simp [flow])
      have still := placed_going going .head (List.forall_mem_nil Silent)
      rw [List.append_nil] at still
      exact done ⟨still, trivial⟩
  | send =>
      obtain ⟨going, leaves⟩ := outcome_going outcome stable ⟨more, pc⟩ listed (by simp [flow])
      rw [flow] at leaves
      exact leaves.elim
  | done =>
      obtain ⟨going, leaves⟩ := outcome_going outcome stable ⟨more, pc⟩ listed (by simp [flow])
      rw [flow] at leaves
      have live : (serveConn s conn io).1.queue.live = s.queue.live := leaves
      apply done
      apply advance_going more conn going
      intro less successor
      rw [live]
      exact ⟨listed, by omega⟩
  | closed nextconn =>
      obtain ⟨going, leaves⟩ := outcome_going outcome stable ⟨more, pc⟩ listed (by simp [flow])
      rw [flow] at leaves
      obtain ⟨live, following, answer, place⟩ := leaves
      subst answer
      apply done
      apply advance_going more following going
      intro less successor
      rw [live, List.length_erase_of_mem listed]
      rcases place with inside | sole
      · exact ⟨inside, by omega⟩
      · rw [sole, List.length_singleton] at bound
        omega

theorem quiet_going {s₀ s s' : State} {answers : Answers} {done events : List Event}
    (going : Going s₀ answers done s) (formed : WellFormed s'.queue) (fixed : Fixed s s')
    (live : s'.queue.live = s.queue.live) (fds : s'.fds = s.fds)
    (rxlen : s'.tty.rxlen = s.tty.rxlen) (kept : ∀ conn ∈ s.queue.live, Kept s s' conn)
    (silent : ∀ event ∈ events, Silent event) : Going s₀ answers (done ++ events) s' := by
  apply going.next _ (.quiet fixed live fds rxlen kept silent)
  refine ⟨formed, ?_⟩
  intro conn member
  rw [live] at member
  rw [(kept conn member).state]
  exact going.stable.phases conn member

theorem charged_going {s₀ s : State} {answers : Answers} {done : List Event}
    (going : Going s₀ answers done s) (toutSec : Nat) (conns : List Ptr) (tout : Nat) :
      Going s₀ answers done { charged s toutSec conns with tout := tout } := by
  have kept : ∀ conn ∈ s.queue.live,
      Kept s { charged s toutSec conns with tout := tout } conn := fun conn _ =>
    ⟨charged_sd s toutSec conns conn, charged_state s toutSec conns conn,
      fun _ => charged_buf s toutSec conns conn⟩
  have formed : WellFormed ({ charged s toutSec conns with tout := tout } : State).queue :=
    charged_well_formed s toutSec conns going.stable.formed
  have next :=
    quiet_going going formed ⟨rfl, rfl, rfl⟩ rfl rfl rfl kept (List.forall_mem_nil Silent)
  rwa [List.append_nil] at next

theorem conn_open_going {s₀ s s' : State} {answers : Answers} {done events : List Event}
    {io : OpenAnswers} (opening : Opening s io s' events) (going : Going s₀ answers done s)
    (free : ∀ sd ∈ io.sd, s.fds sd = none) (fresh : ∀ conn ∈ io.block, conn ∉ s.queue.live)
    (head : s.pc = .head) :
      Going s₀ answers (done ++ events) s' ∧ (s'.pc = .head ∨ s'.pc = .exited) := by
  have formed := going.stable.formed
  have shape : ∀ fds : FdTable, Stable { s with fds := fds } := fun _ =>
    ⟨formed, going.stable.phases⟩
  cases opening with
  | nothing => exact ⟨by rwa [List.append_nil], Or.inl head⟩
  | refused tcps answer => exact ⟨going.next (shape _) (.refused (free _ answer)), Or.inl head⟩
  | leaked tcps answer => exact ⟨going.next (shape _) (.leaked (free _ answer)), Or.inl head⟩
  | exited tcps answer =>
      have leaked := going.next (shape _) (.leaked (free _ answer))
      have exited := placed_going leaked .exited (List.forall_mem_nil Silent)
      rw [List.append_nil] at exited
      exact ⟨exited, Or.inr rfl⟩
  | @opened sd conn tcps answer block small room =>
      have added := enqueue_opened { s with fds := s.fds.openAt sd .client } conn sd formed
        (fresh conn block)
      have opened : Opened s _ conn sd :=
        ⟨added.fresh, added.live, added.formed, added.others, added.sd, added.state, added.timeout⟩
      exact ⟨going.next (opened_stable opened going.stable)
        (.opened tcps (free sd answer) small room ⟨rfl, rfl, rfl⟩ opened rfl rfl), Or.inl head⟩
  | unattached once =>
      have exited : Going s₀ answers (done ++ []) { s with oneTime := false, pc := .exited } :=
        quiet_going going formed ⟨rfl, rfl, rfl⟩ rfl rfl rfl (fun _ _ => ⟨rfl, rfl, fun _ => rfl⟩)
          (List.forall_mem_nil Silent)
      exact ⟨exited, Or.inr rfl⟩
  | @attached conn once block =>
      have added := enqueue_opened { s with oneTime := false } conn s.serverSd formed
        (fresh conn block)
      have opened : Opened s _ conn s.serverSd :=
        ⟨added.fresh, added.live, added.formed, added.others, added.sd, added.state, added.timeout⟩
      exact ⟨going.next (opened_stable opened going.stable)
        (.attached once ⟨rfl, rfl, rfl⟩ opened rfl rfl), Or.inl head⟩

theorem start_serving_going {s₀ s : State} {answers : Answers} {done : List Event} (rc : Nat)
    (going : Going s₀ answers done s) (place : s.pc = .head ∨ s.pc = .exited) :
      Going s₀ answers done (startServing s rc) ∧ Placed (startServing s rc) := by
  have settled : Placed s := by
    unfold Placed
    rcases place with atHead | exited
    · rw [atHead]
      trivial
    · rw [exited]
      trivial
  unfold startServing
  split
  · exact ⟨going, settled⟩
  · cases lenEq : s.queue.len with
    | zero => exact ⟨going, settled⟩
    | succ len =>
        have next := placed_going going (.serving len s.queue.beg) (List.forall_mem_nil Silent)
        rw [List.append_nil] at next
        have counted : s.queue.live.length = len + 1 := going.stable.formed.counted ▸ lenEq
        have begins := going.stable.formed.linked.first_eq
        refine ⟨next, show len < s.queue.live.length by omega, ?_⟩
        cases live : s.queue.live with
        | nil =>
            rw [live] at counted
            simp at counted
        | cons conn rest =>
            rw [live] at begins
            exact ⟨conn, by simp, begins⟩

/-- No connection is ever put into `CONN_TTY`, so the port is never re-opened. -/
theorem never_tty {s : State} (stable : Stable s) (conn : Ptr) (listed : conn ∈ s.queue.live) :
    (s.conn conn).state ≠ .tty := by
  rcases stable.phases conn listed with waiting | owing
  · rw [waiting]
    decide
  · rw [owing]
    decide

theorem pass_going {s₀ s : State} {answers : Answers} {done : List Event} (longBits : Nat)
    (io : HeadAnswers) (rc : Nat) (going : Going s₀ answers done s)
    (free : ∀ sd ∈ io.opening.sd, s.fds sd = none)
    (fresh : ∀ conn ∈ io.opening.block, conn ∉ s.queue.live) (head : s.pc = .head) :
      Going s₀ answers (done ++ (passAfterSelect longBits s io rc).2)
          (passAfterSelect longBits s io rc).1 ∧
        Placed (passAfterSelect longBits s io rc).1 := by
  have passing := pass_after_select_passing longBits s io rc going.stable.formed
    (never_tty going.stable)
  generalize (passAfterSelect longBits s io rc).1 = s',
    (passAfterSelect longBits s io rc).2 = events at passing ⊢
  cases passing with
  | @spared toutSec tout conns middle _ none opening =>
      have timed := charged_going going toutSec conns tout
      obtain ⟨reached, place⟩ := conn_open_going opening timed free fresh head
      exact start_serving_going rc reached place
  | @purged toutSec tout conns conn listed out =>
      have timed := charged_going going toutSec conns tout
      have closed := placed_going (close_going io.scrap timed listed) .returned
        (List.forall_mem_nil Silent)
      rw [List.append_nil] at closed
      have sameSd : (({ charged s toutSec conns with tout := tout } : State).conn conn).sd =
          (s.conn conn).sd := charged_sd s toutSec conns conn
      rw [sameSd] at closed
      exact ⟨closed, trivial⟩

theorem head_going (longBits : Nat) (s : State) (io : HeadAnswers) (stable : Stable s)
    (head : s.pc = .head) (admissible : Admissible s (.head io)) :
      Going s (.head io) (headStep longBits s io).2 (headStep longBits s io).1 ∧
        Placed (headStep longBits s io).1 := by
  have start : Going s (.head io) [] s := ⟨.start, stable⟩
  have asking : ∀ (nfds tvSec : Int) (rd wr : List Int),
      ∀ event ∈ [Event.selected nfds rd wr tvSec], Silent event := by
    intro nfds tvSec rd wr event member
    rw [List.mem_singleton.mp member]
    trivial
  have atHead : Placed s := by
    unfold Placed
    rw [head]
    trivial
  unfold headStep
  rw [queue_walk_live s.queue stable.formed]
  dsimp only
  cases io.select with
  | interrupted => exact ⟨placed_going start s.pc (asking _ _ _ _), atHead⟩
  | failed => exact ⟨placed_going start .returned (asking _ _ _ _), trivial⟩
  | ready readable writable =>
      dsimp only
      have selected : ∀ rd wr events, (∀ event ∈ events, Silent event) →
          Going s (.head io) ([] ++ events) { s with sdsetrd := rd, sdsetwr := wr } :=
        fun rd wr events silent => quiet_going start stable.formed ⟨rfl, rfl, rfl⟩ rfl rfl rfl
          (fun _ _ => ⟨rfl, rfl, fun _ => rfl⟩) silent
      exact pass_going longBits io _ (selected _ _ _ (asking _ _ _ _))
        (fun sd answer => (admissible.1 sd answer).2) admissible.2.1 head

/-- The step lemma: a step from a sound state is a sequence of actions, or stuck. -/
theorem step_going {longBits : Nat} {s s' : State} {answers : Answers} {events : List Event}
    (sound : Sound s) (admissible : Admissible s answers)
    (taken : step longBits s answers = some (s', events)) :
      Sound s' ∧ (Actions s answers events s' ∨ Stuck s answers events s') := by
  have stable := sound.toStable
  have placed := sound.placed
  unfold Placed at placed
  unfold step at taken
  cases pc : s.pc with
  | head =>
      rw [pc] at taken
      cases answers with
      | head io =>
          have outcome := head_going longBits s io stable pc admissible
          rw [Option.some.inj taken] at outcome
          exact ⟨⟨outcome.1.stable, outcome.2⟩, Or.inl outcome.1.actions⟩
      | visit io => simp at taken
  | serving more curconn =>
      rw [pc] at taken placed
      obtain ⟨bound, conn, listed, stands⟩ := placed
      subst stands
      cases answers with
      | head io => simp at taken
      | visit io =>
          have outcome := visit_going s more conn io stable pc listed bound
          rw [Option.some.inj taken] at outcome
          exact outcome
  | _ =>
      rw [pc] at taken
      simp at taken

theorem started_initial {s : State} (started : Started s) :
    ∃ io : InitAnswers, s = initialState io ∧ 0 ≤ io.ttyFd ∧ io.queue.live = [] ∧
      io.serverSd ≠ io.ttyFd := by
  obtain ⟨io, init, empty, _, apart, _⟩ := started
  unfold connInit at init
  split at init
  · simp at init
  · next port =>
      split at init
      · simp at init
      · exact ⟨io, (Option.some.inj init).symm, Int.not_lt.mp port, empty, apart⟩

theorem started_empty {s : State} (started : Started s) : s.queue.live = [] ∧ s.pc = .head := by
  obtain ⟨io, rfl, _, empty, _⟩ := started_initial started
  exact ⟨empty, rfl⟩

theorem started_port {initial : State} (started : Started initial) : 0 ≤ initial.tty.fd := by
  obtain ⟨io, rfl, port, _, _⟩ := started_initial started
  exact port

theorem started_tout {s : State} (started : Started s) : s.tout = 0 := by
  obtain ⟨io, rfl, _, _, _⟩ := started_initial started
  rfl

theorem started_sound {s : State} (started : Started s) : Sound s := by
  obtain ⟨empty, head⟩ := started_empty started
  have formed : WellFormed s.queue := by
    obtain ⟨io, rfl, _, emptyBefore, _⟩ := started_initial started
    exact queue_init_well_formed io.queue emptyBefore
  refine ⟨⟨formed, ?_⟩, ?_⟩
  · intro conn listed
    rw [empty] at listed
    simp at listed
  · unfold Placed
    rw [head]
    trivial

/-- The run lemma: every reachable state is sound. A property of the trace and
the state that every action keeps holds in it; where a decoder loop does not
end, what the last read leaves of the property holds for ever. -/
theorem run_actions_invariant {longBits : Nat} {allowed : State → Answers → Prop} {initial : State}
    (admits : ∀ s answers, allowed s answers → Admissible s answers)
    (invariant remains : List Event → State → Prop) (sound : Sound initial)
    (holds : invariant [] initial)
    (kept : ∀ s₀ answers, allowed s₀ answers → ∀ trace s events s', Stable s → invariant trace s →
      Action s₀ answers s events s' → invariant (trace ++ events) s')
    (left : ∀ s₀ answers, allowed s₀ answers → ∀ trace events s', Stable s₀ → invariant trace s₀ →
      Stuck s₀ answers events s' → remains (trace ++ events) s')
    {trace : List Event} {s : State} (run : Run (step longBits) allowed initial trace s) :
      Sound s ∧ (invariant trace s ∨ s.pc = .endless ∧ remains trace s) := by
  apply run_invariant
    (fun trace s => Sound s ∧ (invariant trace s ∨ s.pc = .endless ∧ remains trace s))
    ⟨sound, Or.inl holds⟩ _ run
  intro trace s answers s' events earlier admitted taken
  obtain ⟨soundBefore, running | ⟨endless, _⟩⟩ := earlier
  · obtain ⟨after, actions | stuck⟩ := step_going soundBefore (admits s answers admitted) taken
    · refine ⟨after, Or.inl ?_⟩
      clear taken after
      induction actions with
      | start => simpa using running
      | next _ stable action ih =>
          rw [← List.append_assoc]
          exact kept s answers admitted _ _ _ _ stable ih action
    · refine ⟨after, Or.inr ⟨?_, left s answers admitted trace events s' soundBefore.toStable
        running stuck⟩⟩
      cases stuck
      rfl
  · simp [step, endless] at taken

theorem run_sound {longBits : Nat} {allowed : State → Answers → Prop} {initial s : State}
    {trace : List Event} (admits : ∀ s answers, allowed s answers → Admissible s answers)
    (started : Started initial) (run : Run (step longBits) allowed initial trace s) : Sound s :=
  (run_actions_invariant admits (fun _ _ => True) (fun _ _ => True) (started_sound started) trivial
    (fun _ _ _ _ _ _ _ _ _ _ => trivial) (fun _ _ _ _ _ _ _ _ _ => trivial) run).1

end GlRs485.LoopActions
