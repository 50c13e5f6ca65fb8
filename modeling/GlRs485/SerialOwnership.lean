import GlRs485.LoopActions

/-!
# Whose descriptor the port is

`tty_write` closes the port when its lock stays refused, and nobody tells
`tty.fd`. While no write gives up on the lock, `tty.fd` is the port opened at
the start, and neither the listener nor a client can come to have its number.
-/

namespace GlRs485.SerialOwnership

open CBytes ConnectionQueue SerialLine SocketBridge ServingVisits HeadPasses LoopActions
open TracedSystem

set_option autoImplicit false

/-- `tty.fd` is the port that `conn_init` opened and nobody else's descriptor,
and all calls on the line went to it. -/
structure OwnsPort (initial : State) (trace : List Event) (s : State) : Prop where
  number : s.tty.fd = initial.tty.fd
  port : s.fds s.tty.fd = some (.serial 0)
  notListener : s.tty.fd ≠ s.serverSd
  notClient : ∀ conn ∈ s.queue.live, (s.conn conn).sd ≠ s.tty.fd
  onPort : ∀ event, .line event ∈ trace → lineFd event = initial.tty.fd
  keptOpen : .line (.closed initial.tty.fd) ∉ trace

/-- No write is refused the lock more than thirty times. -/
def LockComes : Answers → Prop
  | .head _ => True
  | .visit io => io.lockFails ≤ 30

instance : (answers : Answers) → Decidable (LockComes answers)
  | .head _ => isTrue trivial
  | .visit io => inferInstanceAs (Decidable (io.lockFails ≤ 30))

theorem owns_port_kept {initial s s' : State} {trace events : List Event}
    (before : OwnsPort initial trace s) (fixed : Fixed s s')
    (port : s'.fds s.tty.fd = s.fds s.tty.fd)
    (clients : ∀ conn ∈ s'.queue.live, (s'.conn conn).sd ≠ s.tty.fd)
    (calls : ∀ event, .line event ∈ events →
      lineFd event = s.tty.fd ∧ event ≠ .closed s.tty.fd) :
      OwnsPort initial (trace ++ events) s' where
  number := fixed.ttyFd.trans before.number
  port := by rw [fixed.ttyFd, port, before.port]
  notListener := by rw [fixed.ttyFd, fixed.serverSd]; exact before.notListener
  notClient := by rw [fixed.ttyFd]; exact clients
  onPort := by
    intro event member
    rcases List.mem_append.mp member with earlier | now
    · exact before.onPort event earlier
    · exact (calls event now).1.trans before.number
  keptOpen := by
    intro member
    rcases List.mem_append.mp member with earlier | now
    · exact before.keptOpen earlier
    · exact (calls _ now).2 (by rw [before.number])

theorem free_not_port {initial s : State} {trace : List Event} {sd : Int}
    (before : OwnsPort initial trace s) (free : s.fds sd = none) : s.tty.fd ≠ sd := by
  intro same
  have port := before.port
  rw [same, free] at port
  simp at port

theorem closed_clients {s s' : State} {conn : Ptr} (formed : WellFormed s.queue)
    (gone : Closed s s' conn) (clients : ∀ other ∈ s.queue.live, (s.conn other).sd ≠ s.tty.fd) :
      ∀ other ∈ s'.queue.live, (s'.conn other).sd ≠ s.tty.fd := by
  intro other listed
  obtain ⟨listedBefore, content⟩ := gone.remaining formed listed
  rw [content.sd]
  exact clients other listedBefore

theorem opened_clients {s s' : State} {conn : Ptr} {sd : Int} (added : Opened s s' conn sd)
    (apart : sd ≠ s.tty.fd) (clients : ∀ other ∈ s.queue.live, (s.conn other).sd ≠ s.tty.fd) :
      ∀ other ∈ s'.queue.live, (s'.conn other).sd ≠ s.tty.fd := by
  intro other listed
  rw [added.live, List.mem_append, List.mem_singleton] at listed
  rcases listed with listedBefore | new
  · rw [(added.others other listedBefore).sd]
    exact clients other listedBefore
  · rw [new, added.sd]
    exact apart

theorem frame_clients {s s' : State} {conn : Ptr} (frame : Frame conn s s')
    (clients : ∀ other ∈ s.queue.live, (s.conn other).sd ≠ s.tty.fd) :
      ∀ other ∈ s'.queue.live, (s'.conn other).sd ≠ s.tty.fd := by
  intro other listed
  rw [frame.sdEq other]
  exact clients other (frame.live ▸ listed)

theorem reply_not_line (s : State) (conn : Ptr) (io : VisitAnswers) (event : LineEvent) :
    .line event ≠ replyCall s conn io := by
  unfold replyCall
  split <;> simp

/-- The step lemma: while the lock comes, every action leaves the port alone. -/
theorem owns_port_step {initial s₀ s s' : State} {answers : Answers} {trace events : List Event}
    (lock : LockComes answers) (stable : Stable s) (before : OwnsPort initial trace s)
    (action : Action s₀ answers s events s') : OwnsPort initial (trace ++ events) s' := by
  have clients := before.notClient
  cases action with
  | quiet fixed live fds rxlen kept silent =>
      apply owns_port_kept before fixed (by rw [fds])
      · intro conn listed
        rw [live] at listed
        rw [(kept conn listed).sd]
        exact clients conn listed
      · intro event member
        exact (silent _ member).elim
  | @refused _ sd free =>
      have apart := free_not_port before free
      have port : (s.fds.openAt sd .client).closeAt sd s.tty.fd = s.fds s.tty.fd := by
        rw [closeAt_other _ _ _ apart, openAt_other _ _ _ _ apart]
      exact owns_port_kept before ⟨rfl, rfl, rfl⟩ port clients (by simp)
  | @leaked _ sd free =>
      have apart := free_not_port before free
      exact owns_port_kept before ⟨rfl, rfl, rfl⟩ (openAt_other _ _ _ _ apart) clients (by simp)
  | @opened _ _ conn sd tcps free small room fixed added fds rxlen =>
      have apart := free_not_port before free
      apply owns_port_kept before fixed _ (opened_clients added apart.symm clients) (by simp)
      rw [fds, openAt_other _ _ _ _ apart]
  | attached once fixed added fds rxlen =>
      exact owns_port_kept before fixed (by rw [fds])
        (opened_clients added before.notListener.symm clients) (by simp)
  | @closed _ _ conn listed fixed gone rxlen =>
      have apart : s.tty.fd ≠ (s.conn conn).sd := (clients conn listed).symm
      apply owns_port_kept before fixed _ (closed_clients stable.formed gone clients) (by simp)
      rw [gone.fds, closeAt_other _ _ _ apart]
  | @answered _ io reader bytes peer lines events flow visit visited listed reads answered
      computed =>
      subst visit
      have frame := answered_frame answered
      apply owns_port_kept before (frame_fixed frame) _ (frame_clients frame clients)
      · intro event member
        have call : event ∈ lines := by
          rw [answered.shown] at member
          simpa using member
        exact ⟨answered.onTty event call, answered.keptOpen lock event call⟩
      · rcases answered.fds with same | ⟨refused, _⟩
        · rw [same]
          rfl
        · exact absurd (show io.lockFails ≤ 30 from lock) (by omega)
  | @sent _ io writer visit listed owing accepted =>
      have frame := state_conn_set_frame s writer .header
      apply owns_port_kept before (frame_fixed frame) rfl (frame_clients frame clients)
      intro event member
      exact absurd (List.mem_singleton.mp member) (reply_not_line s writer io event)
  | @lost _ _ io writer visit listed owing failed fixed gone rxlen =>
      have apart : s.tty.fd ≠ (s.conn writer).sd := (clients writer listed).symm
      apply owns_port_kept before fixed _ (closed_clients stable.formed gone clients)
      · intro event member
        rcases List.mem_cons.mp member with reply | closing
        · exact absurd reply (reply_not_line s writer io event)
        · simp at closing
      · rw [gone.fds, closeAt_other _ _ _ apart]

theorem owns_port_stuck {initial s s' : State} {answers : Answers} {trace events : List Event}
    (before : OwnsPort initial trace s) (stuck : Stuck s answers events s') :
      OwnsPort initial (trace ++ events) s' := by
  cases stuck with
  | @intro reached io conn bytes peer visit visited listed reads untouched =>
      have read : OwnsPort initial (trace ++ [.request conn bytes]) reached :=
        owns_port_kept before (frame_fixed untouched.frame) (congrFun untouched.fds _)
          (frame_clients untouched.frame before.notClient) (by simp)
      exact ⟨read.number, read.port, read.notListener, read.notClient, read.onPort, read.keptOpen⟩

theorem started_owns_port {initial : State} (started : Started initial) :
    OwnsPort initial [] initial := by
  have empty := (started_empty started).1
  obtain ⟨io, rfl, _, _, apart⟩ := started_initial started
  refine ⟨rfl, ?_, apart.symm, ?_, by simp, by simp⟩
  · exact (openAt_other _ _ _ _ apart.symm).trans (openAt_same _ _ _)
  · intro conn listed
    rw [empty] at listed
    simp at listed

theorem port_stays_own {longBits : Nat} {initial s : State} {trace : List Event}
    (started : Started initial)
    (run : Run (step longBits) (fun s answers => Admissible s answers ∧ LockComes answers) initial
      trace s) :
      OwnsPort initial trace s := by
  have reached := run_actions_invariant (fun _ _ allowed => allowed.1) (OwnsPort initial)
    (OwnsPort initial) (started_sound started) (started_owns_port started)
    (fun _ _ allowed _ _ _ _ stable before action => owns_port_step allowed.2 stable before action)
    (fun _ _ _ _ _ _ _ before stuck => owns_port_stuck before stuck) run
  rcases reached.2 with running | ⟨_, left⟩
  · exact running
  · exact left

def twoRequests : List Answers :=
  [passWith [4] [] 5 1, visitWith [] 0 [] 0,
    passWith [5] [] 6 2, visitWith [1, 2] 30 [.data [7]] 0,
    passWith [] [5] 6 2, visitWith [] 0 [] 1,
    passWith [5] [] 6 2, visitWith [3] 0 [.data [8]] 0]

theorem port_stays_own_through_thirty_refusals :
    ∃ trace s, .line (.sent 3 [3] [3]) ∈ trace ∧
      OwnsPort (freshDaemon (hexOverTcp 0)) trace s := by
  obtain ⟨final, trace, run, shown⟩ := run_of_replay_view (step 64)
    (fun s answers => Admissible s answers ∧ LockComes answers)
    (fun reached => decide (Event.line (.sent 3 [3] [3]) ∈ reached.2))
    twoRequests (freshDaemon (hexOverTcp 0)) true (by decide +kernel)
  exact ⟨trace, final, of_decide_eq_true shown, port_stays_own (fresh_daemon_started _) run⟩

def AcceptsLowest (s : State) : Answers → Prop
  | .head io => ∀ sd ∈ io.opening.sd, s.fds sd = none ∧ ∀ fd ∈ List.range sd.toNat, s.fds fd ≠ none
  | .visit _ => True

instance (s : State) : (answers : Answers) → Decidable (AcceptsLowest s answers)
  | .head io => inferInstanceAs (Decidable (∀ sd ∈ io.opening.sd,
      s.fds sd = none ∧ ∀ fd ∈ List.range sd.toNat, s.fds fd ≠ none))
  | .visit _ => isTrue trivial

/-- The first client's request finds the port locked for good; the next client is
given the number of the closed port, and then gets the first one's request. -/
def lockoutThenClient : List Answers :=
  [passWith [4] [] 5 1, visitWith [] 0 [] 0,
    passWith [5] [] 6 2, visitWith [1, 2] 31 [] 15,
    passWith [4] [] 3 2, visitWith [] 0 [] 0, visitWith [] 0 [] 0,
    passWith [5] [] 6 3, visitWith [1, 2] 0 [] 0]

theorem lockout_gives_port_to_client :
    ∃ trace s, Run (step 64) (fun s answers => Admissible s answers ∧ AcceptsLowest s answers)
        (freshDaemon (hexOverTcp 0)) trace s ∧
      ¬ OwnsPort (freshDaemon (hexOverTcp 0)) trace s ∧
        s.fds s.tty.fd = some .client ∧ .line (.sent 3 [1, 2] [1, 2]) ∈ trace := by
  obtain ⟨final, trace, run, shown⟩ := run_of_replay_view (step 64)
    (fun s answers => Admissible s answers ∧ AcceptsLowest s answers)
    (fun reached => (reached.1.fds reached.1.tty.fd,
      decide (Event.line (.sent 3 [1, 2] [1, 2]) ∈ reached.2)))
    lockoutThenClient (freshDaemon (hexOverTcp 0)) (some .client, true)
    (by decide +kernel)
  obtain ⟨client, sent⟩ := Prod.mk.inj shown
  refine ⟨trace, final, run, ?_, client, of_decide_eq_true sent⟩
  intro own
  rw [own.port] at client
  exact absurd client (by decide)

end GlRs485.SerialOwnership
