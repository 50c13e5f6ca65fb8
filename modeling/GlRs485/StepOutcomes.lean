import GlRs485.LoopActions

/-!
# The outcomes of a step

A step from a sound state is a visit, or it is the head of the loop, which
waits, purges one connection or goes on to accept. What holds in one mode of the
bridge only is derived from this inversion of `step`.
-/

namespace GlRs485.StepOutcomes

open ConnectionQueue SocketBridge ServingVisits HeadPasses LoopActions

set_option autoImplicit false

/-- The read set that `select` is given, the listener first. -/
def askedToRead (s : State) : List Int :=
  s.serverSd :: (s.queue.live.filter fun conn => readsRequests (s.conn conn).state).map fun conn =>
    (s.conn conn).sd

def askedToWrite (s : State) : List Int :=
  (s.queue.live.filter fun conn => (s.conn conn).state = .resp).map fun conn => (s.conn conn).sd

def afterSelect (s : State) (readable writable : Int → Bool) : State :=
  { s with
    sdsetrd := (askedToRead s).filter readable
    sdsetwr := (askedToWrite s).filter writable }

def afterExpiry (s : State) (readable writable : Int → Bool) (toutSec : Nat) (conns : List Ptr)
    (tout : Nat) : State :=
  { charged (afterSelect s readable writable) toutSec conns with tout := tout }

inductive HeadOutcome (longBits : Nat) (s : State) (io : HeadAnswers) : State → List Event → Prop
  | waited {nfds tvSec : Int} {pc : Pc} (place : pc = .head ∨ pc = .returned)
      (unready : ∀ readable writable, io.select ≠ .ready readable writable) :
      HeadOutcome longBits s io { s with pc := pc }
        [.selected nfds (askedToRead s) (askedToWrite s) tvSec]
  | purged {nfds tvSec : Int} {readable writable : Int → Bool} {toutSec tout : Nat}
      {conns : List Ptr} {conn : Ptr} (selected : io.select = .ready readable writable)
      (listed : conn ∈ s.queue.live)
      (out : runsOut longBits (afterSelect s readable writable) io conn = true) :
      HeadOutcome longBits s io
        { (connClose (afterExpiry s readable writable toutSec conns tout) conn io.scrap).1 with
          pc := .returned }
        [.selected nfds (askedToRead s) (askedToWrite s) tvSec, .closed conn (s.conn conn).sd]
  | spared {nfds tvSec : Int} {readable writable : Int → Bool} {toutSec tout rc : Nat}
      {conns : List Ptr} (selected : io.select = .ready readable writable) :
      HeadOutcome longBits s io
        (startServing
          (acceptPending (afterExpiry s readable writable toutSec conns tout) io.opening).1 rc)
        (.selected nfds (askedToRead s) (askedToWrite s) tvSec ::
          (acceptPending (afterExpiry s readable writable toutSec conns tout) io.opening).2)

theorem head_step_outcome (longBits : Nat) (s : State) (io : HeadAnswers) (stable : Stable s)
    (head : s.pc = .head) :
      HeadOutcome longBits s io (headStep longBits s io).1 (headStep longBits s io).2 := by
  unfold headStep
  rw [queue_walk_live s.queue stable.formed]
  dsimp only
  cases selected : io.select with
  | interrupted =>
      exact @HeadOutcome.waited longBits s io _ _ s.pc (Or.inl head) (by simp [selected])
  | failed => exact .waited (Or.inr rfl) (by simp [selected])
  | ready readable writable =>
      dsimp only
      have expiry := expire_staled_expiry longBits (afterSelect s readable writable) io
        stable.formed fun conn listed => never_tty stable conn listed
      unfold passAfterSelect
      unfold afterSelect askedToRead askedToWrite at expiry
      generalize expireStaled longBits _ io = expired at expiry ⊢
      cases expiry with
      | spared none => exact .spared selected
      | purged listed out => exact .purged selected listed out

structure VisitOutcome (s : State) (more : Nat) (conn : Ptr) (io : VisitAnswers) (s' : State)
    (events : List Event) : Prop where
  pc : s.pc = .serving more (some conn)
  listed : conn ∈ s.queue.live
  bound : more < s.queue.live.length
  after : s' = { (serveConn s conn io).1 with pc := s'.pc }
  shown : ∃ stale, events = (serveConn s conn io).2.1 ++ stale ∧
    ∀ event ∈ stale, ∃ gone, event = .staleRead gone

theorem visit_step_outcome (s : State) (more : Nat) (conn : Ptr) (io : VisitAnswers) :
    (visitStep s more (some conn) io).1 =
        { (serveConn s conn io).1 with pc := (visitStep s more (some conn) io).1.pc } ∧
      ∃ stale, (visitStep s more (some conn) io).2 = (serveConn s conn io).2.1 ++ stale ∧
        ∀ event ∈ stale, ∃ gone, event = .staleRead gone := by
  unfold visitStep
  dsimp only
  split
  · exact ⟨rfl, [], by simp, by simp⟩
  · exact ⟨rfl, [], by simp, by simp⟩
  · next nextconn flow =>
      obtain ⟨same, _, stale⟩ := advance_outcome (serveConn s conn io).1 more nextconn
      exact ⟨same, _, rfl, stale⟩
  · obtain ⟨same, _, stale⟩ := advance_outcome (serveConn s conn io).1 more (some conn)
    exact ⟨same, _, rfl, stale⟩

inductive StepOutcome (longBits : Nat) (s : State) (s' : State) (events : List Event) :
    Answers → Prop
  | head {io : HeadAnswers} (pc : s.pc = .head) (outcome : HeadOutcome longBits s io s' events) :
      StepOutcome longBits s s' events (.head io)
  | visit {io : VisitAnswers} {more : Nat} {conn : Ptr}
      (outcome : VisitOutcome s more conn io s' events) :
      StepOutcome longBits s s' events (.visit io)

/-- The inversion of `step`. -/
theorem step_outcome {longBits : Nat} {s s' : State} {answers : Answers} {events : List Event}
    (sound : Sound s) (taken : step longBits s answers = some (s', events)) :
      StepOutcome longBits s s' events answers := by
  have placed := sound.placed
  unfold Placed at placed
  unfold step at taken
  cases pc : s.pc with
  | head =>
      rw [pc] at taken
      cases answers with
      | visit io => simp at taken
      | head io =>
          have outcome := head_step_outcome longBits s io sound.toStable pc
          rw [Option.some.inj taken] at outcome
          exact .head pc outcome
  | serving more curconn =>
      rw [pc] at taken placed
      obtain ⟨bound, conn, listed, stands⟩ := placed
      subst stands
      cases answers with
      | head io => simp at taken
      | visit io =>
          obtain ⟨after, shown⟩ := visit_step_outcome s more conn io
          rw [Option.some.inj taken] at after shown
          exact .visit ⟨pc, listed, bound, after, shown⟩
  | _ =>
      rw [pc] at taken
      simp at taken

theorem outcome_shows {holds : Event → Prop} {s s' : State} {conn : Ptr} {io : VisitAnswers}
    {events : List Event} {flow : Flow} (outcome : Outcome conn io s s' events flow)
    (request : ∀ bytes, holds (.request conn bytes)) (line : ∀ call, holds (.line call))
    (formed : ∀ bytes, holds (.formed conn bytes))
    (reply : ∀ s, holds (replyCall s conn io)) (closed : ∀ sd, holds (.closed conn sd)) :
      ∀ event ∈ events, holds event := by
  have sends : ∀ s, ∀ event ∈ (socketSend s conn io).2.1, holds event := fun s =>
    socket_send_shows s conn io (reply s) (closed _)
  intro event member
  cases outcome with
  | passed => simp at member
  | unread _ _ => simp at member
  | ended _ _ =>
      rw [List.mem_singleton.mp member]
      exact closed _
  | stuck _ _ =>
      rw [List.mem_singleton.mp member]
      exact request _
  | answered _ answered _ =>
      rcases List.mem_cons.mp member with asked | later
      · rw [asked]
        exact request _
      · exact answered.shows line formed event later
  | answeredAtOnce _ answered _ =>
      rcases List.mem_append.mp member with earlier | later
      · rcases List.mem_cons.mp earlier with asked | formedNow
        · rw [asked]
          exact request _
        · exact answered.shows line formed event formedNow
      · exact sends _ event later
  | owed _ => exact sends _ event member

theorem opening_shows {holds : Event → Prop} {s s' : State} {io : OpenAnswers}
    {events : List Event} (opening : Opening s io s' events)
    (accepted : ∀ sd, holds (.accepted sd)) (dropped : ∀ sd, holds (.dropped sd))
    (opened : ∀ conn sd, holds (.opened conn sd)) : ∀ event ∈ events, holds event := by
  intro event member
  cases opening <;> simp only [List.mem_cons, List.not_mem_nil, or_false] at member
  case refused => rcases member with rfl | rfl <;> apply_assumption
  case leaked => exact member ▸ accepted _
  case exited => exact member ▸ accepted _
  case opened => rcases member with rfl | rfl <;> apply_assumption
  case attached => exact member ▸ opened _ _

theorem head_shows {longBits : Nat} {holds : Event → Prop} {s s' : State} {io : HeadAnswers}
    {events : List Event} (outcome : HeadOutcome longBits s io s' events)
    (selected : ∀ nfds tvSec, holds (.selected nfds (askedToRead s) (askedToWrite s) tvSec))
    (accepted : ∀ sd, holds (.accepted sd)) (dropped : ∀ sd, holds (.dropped sd))
    (opened : ∀ conn sd, holds (.opened conn sd)) (closed : ∀ conn sd, holds (.closed conn sd)) :
      ∀ event ∈ events, holds event := by
  intro event member
  cases outcome with
  | waited _ _ => exact List.mem_singleton.mp member ▸ selected _ _
  | purged _ _ _ =>
      simp only [List.mem_cons, List.not_mem_nil, or_false] at member
      rcases member with rfl | rfl
      · exact selected _ _
      · exact closed _ _
  | spared _ =>
      rcases List.mem_cons.mp member with rfl | later
      · exact selected _ _
      · exact opening_shows (accept_pending_opening _ io.opening) accepted dropped opened event
          later

/-- What `tty_write` and the switch leave of the descriptor table: a lock that is
given up closes the number in `tty.fd`. -/
def FdsAfterServing (s s' : State) (conn : Ptr) (io : VisitAnswers) : Prop :=
  s'.fds = s.fds ∨
    30 < io.lockFails ∧ readsRequest s conn io = true ∧ s'.fds = s.fds.closeAt s.tty.fd

/-- The visited connection is changed within its frame, and then perhaps closed. -/
inductive Served (s : State) (conn : Ptr) (io : VisitAnswers) : State → Flow → Prop
  | kept {middle : State} {flow : Flow} (frame : Frame conn s middle)
      (fds : FdsAfterServing s middle conn io) (stays : ∀ nextconn, flow ≠ .closed nextconn) :
      Served s conn io middle flow
  | closed {middle : State} (frame : Frame conn s middle)
      (fds : FdsAfterServing s middle conn io) :
      Served s conn io (connClose middle conn io.scrap).1
        (.closed (connClose middle conn io.scrap).2)

theorem socket_send_served {s middle : State} {conn : Ptr} {io : VisitAnswers}
    (frame : Frame conn s middle) (fds : FdsAfterServing s middle conn io) :
      Served s conn io (socketSend middle conn io).1 (socketSend middle conn io).2.2 := by
  rcases socket_send_cases middle conn io with ⟨_, held⟩ | ⟨_, sent⟩ | ⟨_, lost⟩
  · rw [held]
    exact .kept frame fds (by simp)
  · rw [sent]
    exact .kept (frame.trans (state_conn_set_frame middle conn .header)) fds (by simp)
  · rw [lost]
    exact .closed frame fds

theorem serve_conn_served (s : State) (conn : Ptr) (io : VisitAnswers) :
    Served s conn io (serveConn s conn io).1 (serveConn s conn io).2.2 := by
  have answeredFds : ∀ {s' : State} {bytes lines events} {peer : Nat},
      Reads s conn io bytes peer →
        Answered conn io.lockFails (heardFrom s peer) s' lines events →
          FdsAfterServing s s' conn io := by
    intro s' bytes lines events peer reads answered
    rcases answered.fds with same | ⟨refused, closed⟩
    · exact Or.inl same
    · exact Or.inr ⟨refused, reads_request s conn io bytes peer reads, closed⟩
  have outcome := serve_conn_outcome s conn io
  generalize serveConn s conn io = served at outcome ⊢
  obtain ⟨s', events, flow⟩ := served
  cases outcome with
  | passed => exact .kept (.refl conn _) (Or.inl rfl) (by simp)
  | unread _ untouched => exact .kept untouched.frame (Or.inl untouched.fds) (by simp)
  | ended _ untouched => exact .closed untouched.frame (Or.inl untouched.fds)
  | stuck _ untouched => exact .kept untouched.frame (Or.inl untouched.fds) (by simp)
  | answered reads answered _ =>
      exact .kept (answered_frame answered) (answeredFds reads answered) (by simp)
  | answeredAtOnce reads answered _ =>
      exact socket_send_served (answered_frame answered) (answeredFds reads answered)
  | owed _ => exact socket_send_served (.refl conn s) (Or.inl rfl)

theorem served_fixed {s s' : State} {conn : Ptr} {io : VisitAnswers} {flow : Flow}
    (served : Served s conn io s' flow) : Fixed s s' := by
  cases served with
  | kept frame _ _ => exact frame_fixed frame
  | closed frame _ => exact ⟨frame.cfg, frame.serverSd, frame.ttyFd⟩

theorem accept_pending_fixed (s : State) (io : OpenAnswers) :
    Fixed s (acceptPending s io).1 := by
  have opening := accept_pending_opening s io
  generalize acceptPending s io = opened at opening ⊢
  obtain ⟨after, events⟩ := opened
  cases opening <;> exact ⟨rfl, rfl, rfl⟩

theorem start_serving_eq (s : State) (rc : Nat) :
    startServing s rc = { s with pc := (startServing s rc).pc } := by
  unfold startServing
  split
  · rfl
  · split <;> rfl

theorem start_serving_place (s : State) (rc : Nat) :
    (startServing s rc).pc = s.pc ∨ ∃ more, (startServing s rc).pc = .serving more s.queue.beg := by
  unfold startServing
  split
  · exact Or.inl rfl
  · split
    · exact Or.inl rfl
    · exact Or.inr ⟨_, rfl⟩

theorem step_fixed {longBits : Nat} {s s' : State} {answers : Answers} {events : List Event}
    (outcome : StepOutcome longBits s s' events answers) : Fixed s s' := by
  cases outcome with
  | @visit io more conn outcome =>
      have fixed := served_fixed (serve_conn_served s conn io)
      rw [outcome.after]
      exact ⟨fixed.cfg, fixed.serverSd, fixed.ttyFd⟩
  | @head io _ outcome =>
      cases outcome with
      | waited _ _ => exact ⟨rfl, rfl, rfl⟩
      | purged _ _ _ => exact ⟨rfl, rfl, rfl⟩
      | @spared nfds tvSec readable writable toutSec tout rc conns _ =>
          have fixed := accept_pending_fixed
            (afterExpiry s readable writable toutSec conns tout) io.opening
          rw [start_serving_eq]
          exact ⟨fixed.cfg, fixed.serverSd, fixed.ttyFd⟩

end GlRs485.StepOutcomes
