import GlRs485.LoopActions

/-!
# Replies that wait

For a reply that waits to go out an action does one of three things: it leaves
the reply alone, it makes the reply call, or it answers a new request, which
sets `tty.rxlen`.
-/

namespace GlRs485.WaitingReplies

open CBytes ConnectionQueue SocketBridge ServingVisits HeadPasses LoopActions TracedSystem

set_option autoImplicit false

/-- Whoever waits afterwards waited before, with the same bytes. -/
structure WaitingKept (s s' : State) : Prop where
  fixed : Fixed s s'
  rxlen : s'.tty.rxlen = s.tty.rxlen
  waiting : ∀ conn ∈ s'.queue.live, (s'.conn conn).state = .resp →
    conn ∈ s.queue.live ∧ (s.conn conn).state = .resp ∧ (s'.conn conn).buf = (s.conn conn).buf

def Plain : Event → Prop
  | .request _ _ => False
  | .formed _ _ => False
  | .replied _ _ _ _ _ => False
  | .line _ => False
  | _ => True

def NoReplyCall : Event → Prop
  | .replied _ _ _ _ _ => False
  | _ => True

theorem plain_no_reply (event : Event) (plain : Plain event) : NoReplyCall event := by
  cases event <;> trivial

theorem answered_no_reply {s s' : State} {conn : Ptr} {lockFails : Nat} {bytes : List Byte}
    {lines : List SerialLine.LineEvent} {events : List Event}
    (answered : Answered conn lockFails s s' lines events) :
      ∀ event ∈ .request conn bytes :: events, NoReplyCall event := by
  intro event member
  rcases List.mem_cons.mp member with request | later
  · rw [request]
    trivial
  · exact answered.shows (fun _ => trivial) (fun _ => trivial) event later

inductive Waits (s₀ : State) (answers : Answers) : State → List Event → State → Prop
  | kept {s s' : State} {events : List Event} (waiting : WaitingKept s s')
      (plain : ∀ event ∈ events, Plain event) : Waits s₀ answers s events s'
  | replied {s s' : State} {io : VisitAnswers} {conn : Ptr} {rest : List Event}
      (listed : conn ∈ s.queue.live) (owing : (s.conn conn).state = .resp)
      (waiting : WaitingKept s s') (plain : ∀ event ∈ rest, Plain event) :
      Waits s₀ answers s (replyCall s conn io :: rest) s'
  | answered {s' : State} {io : VisitAnswers} {conn : Ptr} {bytes : List Byte} {peer : Nat}
      {lines : List SerialLine.LineEvent} {events : List Event} {flow : Flow}
      (visit : answers = .visit io) (stands : curconn s₀ = some conn)
      (listed : conn ∈ s₀.queue.live)
      (reads : Reads s₀ conn io bytes peer)
      (answered : Answered conn io.lockFails (heardFrom s₀ peer) s' lines events)
      (computed : dispatchRequest (loadRequest (heardState s₀ conn peer) conn bytes) conn io =
        (s', events, flow)) :
      Waits s₀ answers s₀ (.request conn bytes :: events) s'

theorem closed_keeps_waiting {s s' : State} {conn : Ptr} (formed : WellFormed s.queue)
    (fixed : Fixed s s') (rxlen : s'.tty.rxlen = s.tty.rxlen) (gone : Closed s s' conn) :
      WaitingKept s s' := by
  refine ⟨fixed, rxlen, ?_⟩
  intro other listed owing
  obtain ⟨listedBefore, content⟩ := gone.remaining formed listed
  exact ⟨listedBefore, content.state ▸ owing, content.buf⟩

theorem opened_keeps_waiting {s s' : State} {conn : Ptr} {sd : Int} (fixed : Fixed s s')
    (rxlen : s'.tty.rxlen = s.tty.rxlen) (added : Opened s s' conn sd) : WaitingKept s s' := by
  refine ⟨fixed, rxlen, ?_⟩
  intro other listed owing
  rw [added.live, List.mem_append, List.mem_singleton] at listed
  rcases listed with listedBefore | new
  · have content := added.others other listedBefore
    exact ⟨listedBefore, content.state ▸ owing, content.buf⟩
  · rw [new, added.state] at owing
    simp at owing

theorem sent_keeps_waiting (s : State) (conn : Ptr) :
    WaitingKept s (stateConnSet s conn .header) := by
  refine ⟨⟨rfl, rfl, rfl⟩, rfl, ?_⟩
  intro other listed owing
  by_cases same : other = conn
  · subst same
    rw [state_conn_set_state] at owing
    simp at owing
  · have unchanged : (stateConnSet s conn .header).conn other = s.conn other :=
      update_conn_other s conn _ other same
    rw [unchanged] at owing ⊢
    exact ⟨listed, owing, rfl⟩

theorem action_waits {s₀ s s' : State} {answers : Answers} {events : List Event}
    (stable : Stable s) (action : Action s₀ answers s events s') :
      Waits s₀ answers s events s' := by
  have formed := stable.formed
  cases action with
  | quiet fixed live fds rxlen kept silent =>
      apply Waits.kept
      · refine ⟨fixed, rxlen, ?_⟩
        intro conn listed owing
        rw [live] at listed
        have same := kept conn listed
        rw [same.state] at owing
        exact ⟨listed, owing, same.reply owing⟩
      · intro event member
        have quiet := silent event member
        cases event <;> trivial
  | refused free =>
      exact .kept ⟨⟨rfl, rfl, rfl⟩, rfl, fun _ listed owing => ⟨listed, owing, rfl⟩⟩
        (by simp [Plain])
  | leaked free =>
      exact .kept ⟨⟨rfl, rfl, rfl⟩, rfl, fun _ listed owing => ⟨listed, owing, rfl⟩⟩
        (by simp [Plain])
  | opened tcps free small room fixed added fds rxlen =>
      exact .kept (opened_keeps_waiting fixed rxlen added) (by simp [Plain])
  | attached once fixed added fds rxlen =>
      exact .kept (opened_keeps_waiting fixed rxlen added) (by simp [Plain])
  | closed listed fixed gone rxlen =>
      exact .kept (closed_keeps_waiting formed fixed rxlen gone) (by simp [Plain])
  | @answered _ io reader bytes peer lines events flow visit visited listed reads answered
      computed =>
      obtain ⟨more, pc⟩ := visited
      exact .answered visit (by simp [curconn, pc]) listed reads answered computed
  | @sent _ io writer visit listed owing accepted =>
      exact .replied listed owing (sent_keeps_waiting s writer) (by simp)
  | @lost _ _ io writer visit listed owing failed fixed gone rxlen =>
      exact .replied listed owing (closed_keeps_waiting formed fixed rxlen gone) (by simp [Plain])

end GlRs485.WaitingReplies
