import GlRs485.LostConnections

/-!
# Connections that have been freed

`conn_close` takes the successor before it removes the element. In a queue of one
that successor is the element itself, and `conn_loop` goes on from it: a visit
that closes the only connection is followed by a read of the freed block.
-/

namespace GlRs485.FreedConnections

open CBytes ConnectionQueue BridgeSettings SocketBridge ServingVisits HeadPasses LoopActions
open StepOutcomes LostConnections TracedSystem

set_option autoImplicit false

/-- `conn_close` answers NULL for an empty queue and a queued element otherwise. -/
def AnswersQueued (s : State) (conn : Ptr) (scrap : Conn) : Prop :=
  let closed := connClose s conn scrap
  if closed.1.queue.live = [] then closed.2 = none
  else ∃ nextconn ∈ closed.1.queue.live, closed.2 = some nextconn

/-- `queue_next_elem` has not been applied to a freed block, and the next visit
looks at a queued connection. -/
structure ReadsLive (trace : List Event) (s : State) : Prop where
  successors : ∀ gone, .staleRead gone ∉ trace
  fields : ∀ more curconn, s.pc = .serving more curconn →
    ∃ conn ∈ s.queue.live, curconn = some conn

def LosesLast (s : State) : Answers → Prop
  | .head _ => False
  | .visit io => ∃ conn ∈ curconn s, s.queue.live = [conn] ∧ losesConnection s conn io

instance (s : State) : (answers : Answers) → Decidable (LosesLast s answers)
  | .head _ => isFalse not_false
  | .visit io =>
      decidable_of_iff ((curconn s).any (fun conn =>
        decide (s.queue.live = [conn] ∧ losesConnection s conn io)) = true) (by
          cases here : curconn s <;> simp [LosesLast, here])

theorem conn_close_answers_queued_iff (s : State) (conn : Ptr) (scrap : Conn)
    (formed : WellFormed s.queue) (listed : conn ∈ s.queue.live) :
      AnswersQueued s conn scrap ↔ s.queue.live ≠ [conn] := by
  have gone := (conn_close_closed s conn scrap formed listed).live
  obtain ⟨nextconn, answer, place⟩ := conn_close_next s conn scrap formed listed
  unfold AnswersQueued
  dsimp only
  rw [answer, gone]
  constructor
  · intro queued alone
    rw [alone] at queued
    simp at queued
  · intro others
    rcases place with inside | ⟨alone, _⟩
    · rw [if_neg (List.ne_nil_of_mem inside)]
      exact ⟨nextconn, inside, rfl⟩
    · exact absurd alone others

theorem advance_stale (s : State) (more : Nat) (conn : Ptr) :
    (∃ gone, .staleRead gone ∈ (advance s more (some conn)).2) ↔ conn ∉ s.queue.live := by
  by_cases listed : conn ∈ s.queue.live
  · cases more <;> simp [advance, listed]
  · cases more <;> simp [advance, listed]

theorem outcome_not_stale {s s' : State} {conn : Ptr} {io : VisitAnswers} {events : List Event}
    {flow : Flow} (outcome : Outcome conn io s s' events flow) (gone : Ptr) :
      .staleRead gone ∉ events := by
  intro member
  have shown := @outcome_shows (fun event => event ≠ .staleRead gone) s s' conn io events flow
    outcome (by simp) (by simp) (by simp) ?_ (by simp)
  · exact shown _ member rfl
  · intro s
    unfold replyCall
    split <;> simp

theorem visit_stale_iff {s : State} {more : Nat} {conn : Ptr} {io : VisitAnswers}
    (sound : Sound s) (pc : s.pc = .serving more (some conn)) (listed : conn ∈ s.queue.live)
    (sizes : ∀ answer ∈ io.recv, answer.size ≤ 256) :
      (∃ gone, .staleRead gone ∈ (visitStep s more (some conn) io).2) ↔
        s.queue.live = [conn] ∧ losesConnection s conn io := by
  have outcome := serve_conn_outcome s conn io
  have plain := outcome_not_stale outcome
  have loses := serve_conn_loses s conn io sizes
  have left : ∀ flow, (serveConn s conn io).2.2 = flow → flow ≠ .endless →
      Leaves s (serveConn s conn io).1 conn flow := by
    intro flow same ends
    rw [← same] at ends ⊢
    exact (outcome_going outcome sound.toStable ⟨more, pc⟩ listed ends).2
  unfold visitStep
  dsimp only
  cases flow : (serveConn s conn io).2.2 with
  | sele => simpa [flow, plain] using fun _ => loses.not.mp (by simp [flow])
  | endless => simpa [flow, plain] using fun _ => loses.not.mp (by simp [flow])
  | send => exact (left .send flow (by simp)).elim
  | done =>
      have live : (serveConn s conn io).1.queue.live = s.queue.live := left .done flow (by simp)
      have stale := advance_stale (serveConn s conn io).1 more conn
      rw [live] at stale
      simp only [List.mem_append, plain, false_or]
      rw [stale]
      exact iff_of_false (fun gone => gone listed) fun both => loses.not.mp (by simp [flow]) both.2
  | closed nextconn =>
      obtain ⟨live, following, answer, place⟩ := left _ flow (by simp)
      have lost := loses.mp ⟨nextconn, flow⟩
      have stale := advance_stale (serveConn s conn io).1 more following
      subst answer
      simp only [List.mem_append, plain, false_or]
      rw [stale, live, and_iff_left lost]
      rcases place with inside | alone
      · apply iff_of_false (fun gone => gone inside)
        intro alone
        rw [alone] at inside
        simp at inside
      · rw [alone]
        simp

theorem step_stale_iff {longBits : Nat} {s s' : State} {answers : Answers} {events : List Event}
    (sound : Sound s) (admissible : Admissible s answers)
    (taken : step longBits s answers = some (s', events)) :
      (∃ gone, .staleRead gone ∈ events) ↔ LosesLast s answers := by
  cases step_outcome sound taken with
  | @visit io more conn outcome =>
      have stale := visit_stale_iff sound outcome.pc outcome.listed admissible.1
      simp only [step, outcome.pc, Option.some.injEq] at taken
      rw [taken] at stale
      rw [stale]
      simp [LosesLast, curconn, outcome.pc]
  | @head io _ outcome =>
      apply iff_of_false _ not_false
      rintro ⟨gone, member⟩
      exact @head_shows longBits (fun event => event ≠ .staleRead gone) s s' io events outcome
        (by simp) (by simp) (by simp) (by simp) (by simp) _ member rfl

def KeepsOne (s : State) (answers : Answers) : Prop := Admissible s answers ∧ ¬LosesLast s answers

instance (s : State) (answers : Answers) : Decidable (KeepsOne s answers) :=
  inferInstanceAs (Decidable (_ ∧ _))

theorem placed_fields {s : State} (sound : Sound s) (more : Nat) (curconn : Option Ptr)
    (pc : s.pc = .serving more curconn) : ∃ conn ∈ s.queue.live, curconn = some conn := by
  have placed := sound.placed
  unfold Placed at placed
  rw [pc] at placed
  exact placed.2

/-- `conn_close` answers as it should exactly when the queue holds another
element. A run whose visits all leave one reads queued connections only, and any
next step still does exactly when it is no such visit. -/
theorem freed_connections_unread_iff {longBits : Nat} {initial s : State} {trace : List Event}
    (started : Started initial) (run : Run (step longBits) KeepsOne initial trace s) :
      (∀ (before : State) (conn : Ptr) (scrap : Conn), WellFormed before.queue →
        conn ∈ before.queue.live → (AnswersQueued before conn scrap ↔ before.queue.live ≠ [conn])) ∧
      ReadsLive trace s ∧
        ∀ answers s' events, Admissible s answers → step longBits s answers = some (s', events) →
          (ReadsLive (trace ++ events) s' ↔ ¬LosesLast s answers) := by
  refine ⟨conn_close_answers_queued_iff, ?_⟩
  have held := run_invariant (fun trace s => Sound s ∧ ∀ gone, .staleRead gone ∉ trace)
    ⟨started_sound started, by simp⟩
    (by
      intro trace s answers s' events ⟨sound, unread⟩ ⟨admissible, keeps⟩ taken
      refine ⟨(step_going sound admissible taken).1, ?_⟩
      intro gone member
      rcases List.mem_append.mp member with earlier | now
      · exact unread gone earlier
      · exact keeps ((step_stale_iff sound admissible taken).mp ⟨gone, now⟩))
    run
  obtain ⟨sound, unread⟩ := held
  refine ⟨⟨unread, placed_fields sound⟩, ?_⟩
  intro answers s' events admissible taken
  have stale := step_stale_iff sound admissible taken
  constructor
  · intro reads loses
    obtain ⟨gone, member⟩ := stale.mpr loses
    exact reads.successors gone (List.mem_append_right trace member)
  · intro keeps
    refine ⟨?_, placed_fields (step_going sound admissible taken).1⟩
    intro gone member
    rcases List.mem_append.mp member with earlier | now
    · exact unread gone earlier
    · exact keeps (stale.mp ⟨gone, now⟩)

def twoClientsOneReady : List Answers :=
  [passWith [4] [] 5 1, visitWith [] 0 [] 0,
    passWith [4] [] 6 2, visitWith [] 0 [] 0, visitWith [] 0 [] 0,
    passWith [5] [] 7 3]

theorem freed_connections_unread_iff_first_of_two_leaves :
    ∃ trace s s' events, step 64 s (visitWith [] 0 [] 0) = some (s', events) ∧
      .closed 1 5 ∈ events ∧ s'.queue.live = [2] ∧ ReadsLive trace s ∧
        ReadsLive (trace ++ events) s' := by
  obtain ⟨s, trace, run, shown⟩ := run_of_replay_view (step 64) KeepsOne
    (fun reached => ((step 64 reached.1 (visitWith [] 0 [] 0)).map
        fun taken : State × List Event =>
          (taken.1.queue.live, decide (Event.closed 1 5 ∈ taken.2)),
      decide (LosesLast reached.1 (visitWith [] 0 [] 0)),
      decide (Admissible reached.1 (visitWith [] 0 [] 0))))
    twoClientsOneReady (freshDaemon (hexOverTcp 0)) (some ([2], true), false, true)
    (by decide +kernel)
  simp only [Prod.mk.injEq, decide_eq_true_eq, decide_eq_false_iff_not,
    Option.map_eq_some_iff] at shown
  obtain ⟨⟨⟨s', events⟩, taken, live, closed⟩, keeps, admissible⟩ := shown
  obtain ⟨_, reads, next⟩ := freed_connections_unread_iff (fresh_daemon_started _) run
  exact ⟨trace, s, s', events, taken, closed, live, reads,
    (next _ s' events admissible taken).mpr keeps⟩

def onlyClientLeaves : List Answers :=
  [passWith [4] [] 5 1, visitWith [] 0 [] 0, passWith [5] [] 6 2]

theorem only_connection_read_after_free :
    ∃ trace s s' events, Run (step 64) Admissible (freshDaemon (hexOverTcp 0)) trace s ∧
      s.queue.live = [1] ∧ WellFormed s.queue ∧ ¬AnswersQueued s 1 blankConn ∧
        Admissible s (visitWith [] 0 [] 0) ∧
          step 64 s (visitWith [] 0 [] 0) = some (s', events) ∧
            events = [.closed 1 5, .staleRead 1] ∧ s'.queue.live = [] := by
  obtain ⟨s, trace, run, shown⟩ := run_of_replay_view (step 64) Admissible
    (fun reached => (reached.1.queue.live,
      (step 64 reached.1 (visitWith [] 0 [] 0)).map
        fun taken : State × List Event => (taken.1.queue.live, taken.2),
      decide (Admissible reached.1 (visitWith [] 0 [] 0))))
    onlyClientLeaves (freshDaemon (hexOverTcp 0))
    ([1], some ([], [.closed 1 5, .staleRead 1]), true) (by decide +kernel)
  simp only [Prod.mk.injEq, decide_eq_true_eq, Option.map_eq_some_iff] at shown
  obtain ⟨alone, ⟨⟨s', events⟩, taken, live, read⟩, admissible⟩ := shown
  have formed := (run_sound (fun _ _ admits => admits) (fresh_daemon_started _) run).formed
  refine ⟨trace, s, s', events, run, alone, formed, ?_, admissible, taken, read, live⟩
  rw [conn_close_answers_queued_iff s 1 blankConn formed (by simp [alone])]
  exact fun others => others alone

end GlRs485.FreedConnections
