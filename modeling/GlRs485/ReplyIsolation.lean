import GlRs485.WaitingReplies

/-!
# Whose reply goes out

A reply waits in the buffer of its connection, its length in the one `tty.rxlen`
of the process. As long as no request is read while the reply of another client
waits, every reply call offers what was formed for that client.
-/

namespace GlRs485.ReplyIsolation

open CBytes ConnectionQueue BridgeSettings SerialLine SocketBridge ServingVisits HeadPasses
open LoopActions WaitingReplies TracedSystem

set_option autoImplicit false

def noteReply (conn : Ptr) (latest : Option (List Byte)) : Event → Option (List Byte)
  | .request reader _ => if reader = conn then none else latest
  | .formed owner reply => if owner = conn then some reply else latest
  | _ => latest

def latestReply (conn : Ptr) (trace : List Event) : Option (List Byte) :=
  trace.foldl (noteReply conn) none

/-- A reply call offers the reply formed for the latest request of its client. -/
def OffersOwnReply (before : List Event) : Event → Prop
  | .replied conn _ _ bytes _ => latestReply conn before = some bytes
  | _ => True

/-- Device answers short enough for the buffer of a connection. -/
def AnswerFits (s : State) : Answers → Prop
  | .head _ => True
  | .visit io =>
      (ttyRead s.tty.fd io.received s.tty.rxbuf).count * (if s.cfg.isStr then 2 else 1) ≤ bufSize

/-- No request is read while the reply of another queued client waits. -/
def NoneWaitsElsewhere (s : State) : Answers → Prop
  | .head _ => True
  | .visit io => ∀ conn ∈ curconn s, readsRequest s conn io = true →
      ∀ other ∈ s.queue.live, other ≠ conn → (s.conn other).state ≠ .resp

def OneReplyAtATime (s : State) (answers : Answers) : Prop :=
  Admissible s answers ∧ AnswerFits s answers ∧ NoneWaitsElsewhere s answers

instance (s : State) : (answers : Answers) → Decidable (AnswerFits s answers)
  | .head _ => isTrue trivial
  | .visit _ => inferInstanceAs (Decidable (_ ≤ _))

instance (s : State) : (answers : Answers) → Decidable (NoneWaitsElsewhere s answers)
  | .head _ => isTrue trivial
  | .visit io => inferInstanceAs (Decidable (∀ conn ∈ curconn s, readsRequest s conn io = true →
      ∀ other ∈ s.queue.live, other ≠ conn → (s.conn other).state ≠ .resp))

instance (s : State) (answers : Answers) : Decidable (OneReplyAtATime s answers) :=
  inferInstanceAs (Decidable (_ ∧ _ ∧ _))

/-- Every reply that waits is the latest of its connection, with its length in
`tty.rxlen`, and every reply call so far was right. -/
structure RepliesInPlace (trace : List Event) (s : State) : Prop where
  waiting : ∀ conn ∈ s.queue.live, (s.conn conn).state = .resp →
    latestReply conn trace = some (cells (s.conn conn).buf s.tty.rxlen)
  offered : Judged OffersOwnReply trace

theorem latestReply_append (conn : Ptr) (trace events : List Event) :
    latestReply conn (trace ++ events) =
      events.foldl (noteReply conn) (latestReply conn trace) := by
  rw [latestReply, List.foldl_append]
  rfl

theorem latestReply_plain (conn : Ptr) (trace events : List Event)
    (plain : ∀ event ∈ events, Plain event) :
      latestReply conn (trace ++ events) = latestReply conn trace := by
  rw [latestReply_append]
  apply notes_unchanged
  intro event member
  have silent := plain event member
  cases event <;> first | rfl | exact silent.elim

theorem latestReply_replyCall (conn : Ptr) (trace : List Event) (s : State) (writer : Ptr)
    (io : VisitAnswers) :
      latestReply conn (trace ++ [replyCall s writer io]) = latestReply conn trace := by
  rw [latestReply_append]
  unfold replyCall
  split <;> rfl

theorem offersOwnReply_silent (before : List Event) (event : Event) (silent : NoReplyCall event) :
    OffersOwnReply before event := by
  cases event <;> trivial

/-- The step lemma: every action keeps the replies in place, a request being
read only while nobody else waits. -/
theorem replies_in_place_step {s₀ s s' : State} {answers : Answers} {trace events : List Event}
    (alone : NoneWaitsElsewhere s₀ answers) (before : RepliesInPlace trace s)
    (waits : Waits s₀ answers s events s') : RepliesInPlace (trace ++ events) s' := by
  cases waits with
  | kept waiting plain =>
      constructor
      · intro conn listed owing
        obtain ⟨listedBefore, owingBefore, buf⟩ := waiting.waiting conn listed owing
        rw [latestReply_plain conn trace events plain, buf, waiting.rxlen]
        exact before.waiting conn listedBefore owingBefore
      · exact judged_append before.offered fun earlier event member =>
          offersOwnReply_silent earlier event (plain_no_reply event (plain event member))
  | @replied _ _ io writer rest listed owing waiting plain =>
      have own := before.waiting writer listed owing
      rw [← List.singleton_append, ← List.append_assoc]
      constructor
      · intro conn listedAfter owingAfter
        obtain ⟨listedBefore, owingBefore, buf⟩ := waiting.waiting conn listedAfter owingAfter
        rw [latestReply_plain conn _ rest plain, latestReply_replyCall, buf, waiting.rxlen]
        exact before.waiting conn listedBefore owingBefore
      · apply judged_append
        · apply judged_snoc before.offered
          unfold replyCall
          split <;> exact own
        · exact fun earlier event member =>
            offersOwnReply_silent earlier event (plain_no_reply event (plain event member))
  | @answered _ io reader bytes peer lines events flow visit stands listed reads answered
      computed =>
      subst visit
      have frame := answered_frame answered
      constructor
      · intro conn listedAfter owing
        by_cases same : conn = reader
        · subst same
          rw [answered.shown, ← List.cons_append, ← List.append_assoc, latestReply_append]
          simp [noteReply]
        · -- nobody else waits, so nobody else owes a reply now
          have quiet := alone reader stands (reads_request _ _ _ _ _ reads) conn
            (frame.live ▸ listedAfter) same
          rw [frame.others conn same] at owing
          exact absurd owing quiet
      · exact judged_append before.offered fun earlier event member =>
          offersOwnReply_silent earlier event (answered_no_reply answered event member)

theorem replies_reach_their_clients {longBits : Nat} {initial s : State} {trace : List Event}
    (started : Started initial) (run : Run (step longBits) OneReplyAtATime initial trace s) :
      Judged OffersOwnReply trace := by
  have empty : RepliesInPlace [] initial := by
    refine ⟨?_, judged_nil OffersOwnReply⟩
    intro conn listed
    rw [(started_empty started).1] at listed
    simp at listed
  have reached := run_actions_invariant (fun _ _ allowed => allowed.1) RepliesInPlace
    (fun trace _ => Judged OffersOwnReply trace) (started_sound started) empty
    (fun _ _ allowed _ _ _ _ stable before action =>
      replies_in_place_step allowed.2.2 before (action_waits stable action))
    (fun _ _ _ _ _ _ _ before stuck => by
      apply judged_append before.offered
      cases stuck
      simp [OffersOwnReply])
    run
  rcases reached.2 with running | ⟨_, left⟩
  · exact running.offered
  · exact left

def oneAfterTheOther : List Answers :=
  [passWith [4] [] 5 1, visitWith [] 0 [] 0,
    passWith [4] [] 6 2, visitWith [] 0 [] 0, visitWith [] 0 [] 0,
    passWith [5] [] 7 3, visitWith [1] 0 [.data [10, 11, 12]] 0, visitWith [] 0 [] 0,
    passWith [] [5] 7 3, visitWith [] 0 [] 3, visitWith [] 0 [] 0,
    passWith [6] [] 7 3, visitWith [] 0 [] 0, visitWith [2] 0 [.data [20]] 0,
    passWith [] [6] 7 3, visitWith [] 0 [] 0, visitWith [] 0 [] 1]

theorem replies_reach_their_clients_one_after_the_other :
    ∃ trace, (.replied 1 5 none [10, 11, 12] 3 ∈ trace ∧ .replied 2 6 none [20] 1 ∈ trace) ∧
      Judged OffersOwnReply trace := by
  obtain ⟨final, trace, run, shown⟩ := run_of_replay_view (step 64) OneReplyAtATime
    (fun reached => decide (Event.replied 1 5 none [10, 11, 12] 3 ∈ reached.2 ∧
      Event.replied 2 6 none [20] 1 ∈ reached.2))
    oneAfterTheOther (freshDaemon (hexOverTcp 0)) true (by decide +kernel)
  exact ⟨trace, of_decide_eq_true shown,
    replies_reach_their_clients (fresh_daemon_started _) run⟩

/-- The second request is served while the first client still waits: that client
is sent one byte of its three. -/
def oneDuringTheOther : List Answers :=
  [passWith [4] [] 5 1, visitWith [] 0 [] 0,
    passWith [4] [] 6 2, visitWith [] 0 [] 0, visitWith [] 0 [] 0,
    passWith [5, 6] [] 7 3, visitWith [1] 0 [.data [10, 11, 12]] 0, visitWith [2] 0 [.data [20]] 0,
    passWith [] [5] 7 3, visitWith [] 0 [] 1]

theorem waiting_reply_cut_short :
    ∃ trace final, Run (step 64) (fun s answers => Admissible s answers ∧ AnswerFits s answers)
      (freshDaemon (hexOverTcp 0)) trace final ∧ ¬ Judged OffersOwnReply trace := by
  obtain ⟨final, trace, run, shown⟩ := run_of_replay_view (step 64)
    (fun s answers => Admissible s answers ∧ AnswerFits s answers)
    (fun reached => (reached.2.getLast?, latestReply 1 reached.2.dropLast))
    oneDuringTheOther (freshDaemon (hexOverTcp 0))
    (some (.replied 1 5 none [10] 1), some [10, 11, 12]) (by decide +kernel)
  refine ⟨trace, final, run, ?_⟩
  intro judged
  obtain ⟨last, latest⟩ := Prod.mk.inj shown
  have offered := judged trace.dropLast _ [] (List.dropLast_append_getLast? _ last).symm
  have own : latestReply 1 trace.dropLast = some [10] := offered
  rw [latest] at own
  exact absurd own (by decide)

end GlRs485.ReplyIsolation
