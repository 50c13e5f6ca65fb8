import GlRs485.HexRequests
import GlRs485.ReplyIsolation
import GlRs485.RequestTurns
import GlRs485.StepOutcomes
import Mathlib.Data.List.Infix

/-!
# How much of a reply goes out

`conn_loop` looks at the result of `conn_write` for its sign only: after any
successful write the connection expects its next request, and what was not taken
is forgotten. While every write takes all it is offered, a client is written the
replies formed for it, one after the other.
-/

namespace GlRs485.WholeReplies

open CBytes ConnectionQueue BridgeSettings SerialLine SocketBridge ServingVisits HeadPasses
open LoopActions StepOutcomes WaitingReplies ReplyIsolation RequestTurns HexRequests TracedSystem

set_option autoImplicit false

/-- The replies formed for a connection since it was opened, and the bytes
written to it. -/
structure Account where
  formed : List (List Byte)
  written : List Byte
  deriving DecidableEq

def noteAccount (conn : Ptr) (account : Account) : Event → Account
  | .opened block _ => if block = conn then ⟨[], []⟩ else account
  | .formed owner reply =>
      if owner = conn then { account with formed := account.formed ++ [reply] } else account
  | .replied writer _ _ bytes rc =>
      if writer = conn then { account with written := account.written ++ bytes.take rc.toNat }
      else account
  | _ => account

def accountOf (conn : Ptr) (trace : List Event) : Account :=
  trace.foldl (noteAccount conn) ⟨[], []⟩

/-- All replies but the last went out, and of the last at most a front part. -/
structure InOrder (account : Account) : Prop where
  earlier : account.formed.dropLast.flatten <+: account.written
  genuine : account.written <+: account.formed.flatten

instance (account : Account) : Decidable (InOrder account) :=
  decidable_of_iff (_ ∧ _) ⟨fun both => ⟨both.1, both.2⟩, fun order => ⟨order.1, order.2⟩⟩

/-- Every client is written its replies in order, and a client from whom the next
request is expected has been written all of them. -/
structure RepliesWhole (trace : List Event) (s : State) : Prop where
  inOrder : ∀ conn, InOrder (accountOf conn trace)
  complete : ∀ conn ∈ s.queue.live, (s.conn conn).state ≠ .resp →
    (accountOf conn trace).written = (accountOf conn trace).formed.flatten

def offeredSize (s : State) (conn : Ptr) (io : VisitAnswers) : Nat :=
  if (s.conn conn).state = .resp then s.tty.rxlen
  else
    match connRead io.recv with
    | none => 0
    | some (bytes, _) =>
        if s.cfg.isStr ∧ (textBeforeNul bytes).length % 2 = 1 then
          (ascii "data format error").length
        else (ascii "tty write error").length

/-- A write on the socket that succeeds takes all it is offered. -/
def TakesAllOffered (s : State) : Answers → Prop
  | .head _ => True
  | .visit io =>
      ∀ conn ∈ curconn s, 0 < connWrite io.send → offeredSize s conn io ≤ connWrite io.send

/-- One reply at a time, and no short write. -/
def WritesWhole (s : State) (answers : Answers) : Prop :=
  OneReplyAtATime s answers ∧ TakesAllOffered s answers

instance (s : State) : (answers : Answers) → Decidable (TakesAllOffered s answers)
  | .head _ => isTrue trivial
  | .visit io => inferInstanceAs (Decidable (∀ conn ∈ curconn s,
      0 < connWrite io.send → offeredSize s conn io ≤ connWrite io.send))

instance (s : State) (answers : Answers) : Decidable (WritesWhole s answers) :=
  inferInstanceAs (Decidable (_ ∧ _))

def TakenWhole : Event → Prop
  | .replied _ _ _ bytes rc => 0 < rc → bytes.length ≤ rc
  | _ => True

theorem taken_whole_silent (event : Event) (silent : NoReplyCall event) : TakenWhole event := by
  cases event <;> trivial

theorem tty_request_error_size (s : State) (conn : Ptr) (io : VisitAnswers)
    (failed : (ttyRequest s conn io).2.2 = .send) :
      (ttyRequest s conn io).1.tty.rxlen = (ascii "tty write error").length := by
  by_cases ready : s.tty.fd ∈ s.sdsetwr
  · rw [tty_request_eq s conn io ready] at failed ⊢
    split at failed
    · next refused =>
        rw [if_pos refused]
        rfl
    · obtain ⟨events, formed, shown, done⟩ := tty_answer_formed (afterWrite s io) conn io
      rw [done] at failed
      simp at failed
  · simp [ttyRequest, ready] at failed

theorem error_size {s s' : State} {conn : Ptr} {io : VisitAnswers} {bytes : List Byte}
    {peer : Nat} {events : List Event} (reads : Reads s conn io bytes peer)
    (size : bytes.length ≤ 256)
    (computed : dispatchRequest (loadRequest (heardState s conn peer) conn bytes) conn io =
      (s', events, .send)) : s'.tty.rxlen = offeredSize s conn io := by
  have cfg := (loaded_frame s conn peer bytes).cfg
  have length := (loaded_text (heardState s conn peer) conn bytes size).1
  have idle := asked_idle reads.asked
  rw [offeredSize, if_neg idle, reads.heard]
  dsimp only
  generalize loadRequest (heardState s conn peer) conn bytes = loaded at *
  unfold dispatchRequest at computed
  by_cases text : s.cfg.isStr = true
  · rw [if_pos (cfg ▸ text)] at computed
    dsimp only at computed
    rw [length] at computed
    by_cases odd : (textBeforeNul bytes).length % 2 = 1
    · rw [if_pos odd] at computed
      have state : _ = s' := congrArg Prod.fst computed
      rw [if_pos ⟨text, odd⟩, ← state]
      rfl
    · rw [if_neg odd] at computed
      rw [if_neg (fun both => odd both.2)]
      split at computed
      · exact absurd (congrArg (fun result => result.2.2) computed) (by simp)
      · have state : _ = s' := congrArg Prod.fst computed
        rw [← state]
        exact tty_request_error_size _ conn io (congrArg (fun result => result.2.2) computed)
  · rw [if_neg (cfg ▸ text)] at computed
    have state : _ = s' := congrArg Prod.fst computed
    rw [if_neg (fun both => text both.1), ← state]
    exact tty_request_error_size _ conn io (congrArg (fun result => result.2.2) computed)

theorem socket_send_taken (s : State) (conn : Ptr) (io : VisitAnswers)
    (takes : 0 < connWrite io.send → s.tty.rxlen ≤ connWrite io.send) :
      ∀ event ∈ (socketSend s conn io).2.1, TakenWhole event := by
  have call : TakenWhole (replyCall s conn io) := by
    unfold replyCall
    split
    · simpa [TakenWhole] using takes
    · simpa [TakenWhole] using takes
  exact socket_send_shows s conn io call trivial

theorem visit_taken {s s' : State} {conn : Ptr} {io : VisitAnswers} {events : List Event}
    {flow : Flow} (outcome : Outcome conn io s s' events flow)
    (sizes : ∀ answer ∈ io.recv, answer.size ≤ 256)
    (takes : 0 < connWrite io.send → offeredSize s conn io ≤ connWrite io.send) :
      ∀ event ∈ events, TakenWhole event := by
  intro event member
  cases outcome with
  | passed => simp at member
  | unread asked untouched => simp at member
  | ended asked untouched =>
      rw [List.mem_singleton.mp member]
      trivial
  | stuck reads untouched =>
      rw [List.mem_singleton.mp member]
      trivial
  | answered reads answered computed =>
      exact taken_whole_silent event (answered_no_reply answered event member)
  | answeredAtOnce reads answered computed =>
      rcases List.mem_append.mp member with asked | sent
      · exact taken_whole_silent event (answered_no_reply answered event asked)
      · have size := conn_read_size io.recv _ _ sizes reads.heard
        apply socket_send_taken _ conn io _ event sent
        rw [error_size reads size computed]
        exact takes
  | owed owing =>
      rw [offeredSize, if_pos owing] at takes
      exact socket_send_taken s conn io takes event member

theorem head_replies_nothing {longBits : Nat} {s s' : State} {io : HeadAnswers}
    {events : List Event} (sound : Sound s)
    (taken : step longBits s (.head io) = some (s', events)) :
      ∀ event ∈ events, NoReplyCall event := by
  cases step_outcome sound taken with
  | head _ outcome =>
      exact head_shows outcome (fun _ _ => trivial) (fun _ => trivial) (fun _ => trivial)
        (fun _ _ => trivial) fun _ _ => trivial

theorem step_taken {longBits : Nat} {s s' : State} {answers : Answers} {events : List Event}
    (sound : Sound s) (admissible : Admissible s answers) (takes : TakesAllOffered s answers)
    (taken : step longBits s answers = some (s', events)) : ∀ event ∈ events, TakenWhole event := by
  cases answers with
  | head io =>
      intro event member
      exact taken_whole_silent event (head_replies_nothing sound taken event member)
  | visit io =>
      cases step_outcome sound taken with
      | @visit _ _ conn outcome =>
          refine stale_shows outcome.shown (fun _ => trivial) ?_
          exact visit_taken (serve_conn_outcome s conn io) admissible.1
            (takes conn (by simp [curconn, outcome.pc]))

theorem run_taken {longBits : Nat} {initial s : State} {trace : List Event}
    (started : Started initial) (run : Run (step longBits) WritesWhole initial trace s) :
      ∀ event ∈ trace, TakenWhole event := by
  have held := run_invariant
    (fun trace s => Sound s ∧ ∀ event ∈ trace, TakenWhole event)
    ⟨started_sound started, by simp⟩
    (by
      intro trace s answers s' events earlier allowed taken
      refine ⟨(step_going earlier.1 allowed.1.1 taken).1, ?_⟩
      intro event member
      rcases List.mem_append.mp member with before | now
      · exact earlier.2 event before
      · exact step_taken earlier.1 allowed.1.1 allowed.2 taken event now)
    run
  exact held.2

/-! The account of a connection follows its phase. -/

/-- Between two requests everything formed was written; while a reply waits, it
is the last one formed and nothing of it was written. -/
def AccountStands (s : State) (conn : Ptr) (account : Account) : Prop :=
  match phaseIn s conn with
  | .gone => InOrder account
  | .expects .read => account.written = account.formed.flatten
  | .expects .reply => ∃ sent, account.formed = sent ++ [cells (s.conn conn).buf s.tty.rxlen] ∧
      account.written = sent.flatten

theorem accountOf_append (conn : Ptr) (trace events : List Event) :
    accountOf conn (trace ++ events) = events.foldl (noteAccount conn) (accountOf conn trace) := by
  rw [accountOf, List.foldl_append]
  rfl

theorem in_order_complete (account : Account)
    (complete : account.written = account.formed.flatten) :
    InOrder account := by
  refine ⟨?_, complete ▸ List.prefix_refl _⟩
  rw [complete]
  exact List.IsPrefix.flatten (List.dropLast_prefix account.formed)

theorem in_order_owed (account : Account) (sent : List (List Byte)) (reply : List Byte)
    (formed : account.formed = sent ++ [reply]) (written : account.written = sent.flatten) :
      InOrder account := by
  constructor
  · rw [formed, written, List.dropLast_concat]
  · rw [formed, written, List.flatten_append]
    exact List.prefix_append _ _

theorem account_stands_in_order {s : State} {conn : Ptr} {account : Account}
    (stands : AccountStands s conn account) : InOrder account := by
  unfold AccountStands at stands
  split at stands
  · exact stands
  · exact in_order_complete account stands
  · obtain ⟨sent, formed, written⟩ := stands
    exact in_order_owed account sent _ formed written

theorem account_stands_congr {s s' : State} {conn : Ptr} {account : Account}
    (phase : phaseIn s' conn = phaseIn s conn)
    (reply : phaseIn s conn = .expects .reply →
      cells (s'.conn conn).buf s'.tty.rxlen = cells (s.conn conn).buf s.tty.rxlen)
    (stands : AccountStands s conn account) : AccountStands s' conn account := by
  unfold AccountStands at stands ⊢
  rw [phase]
  split at stands
  · exact stands
  · exact stands
  · next owing =>
      rw [reply owing]
      exact stands

theorem closed_stands {s s' : State} {conn other : Ptr} {account : Account}
    (formed : WellFormed s.queue) (gone : Closed s s' conn) (rxlen : s'.tty.rxlen = s.tty.rxlen)
    (stands : AccountStands s other account) : AccountStands s' other account := by
  have phase := closed_phaseIn formed gone other
  by_cases same : other = conn
  · rw [if_pos same] at phase
    rw [AccountStands, phase]
    exact account_stands_in_order stands
  · rw [if_neg same] at phase
    apply account_stands_congr phase _ stands
    intro owing
    have listed : other ∈ s.queue.live := by
      by_contra absent
      simp [phaseIn, absent] at owing
    rw [(gone.others other listed same).buf, rxlen]

theorem opened_stands {s s' : State} {conn other : Ptr} {sd : Int} {account : Account}
    (added : Opened s s' conn sd) (rxlen : s'.tty.rxlen = s.tty.rxlen)
    (stands : AccountStands s other account) :
      AccountStands s' other (noteAccount other account (.opened conn sd)) := by
  have phase := opened_phaseIn added other
  by_cases same : other = conn
  · subst same
    rw [if_pos rfl] at phase
    simp [AccountStands, phase, noteAccount]
  · rw [if_neg same] at phase
    have apart : ¬conn = other := fun equal => same equal.symm
    simp only [noteAccount, if_neg apart]
    apply account_stands_congr phase _ stands
    intro owing
    have listed : other ∈ s.queue.live := by
      by_contra absent
      simp [phaseIn, absent] at owing
    rw [(added.others other listed).buf, rxlen]

theorem note_reply_call (conn : Ptr) (account : Account) (s : State) (writer : Ptr)
    (io : VisitAnswers) :
      noteAccount conn account (replyCall s writer io) =
        if writer = conn then
          { account with written := account.written ++
              (cells (s.conn writer).buf s.tty.rxlen).take (connWrite io.send).toNat }
        else account := by
  unfold replyCall
  split <;> rfl

theorem reply_call_taken {s : State} {conn : Ptr} {io : VisitAnswers}
    (whole : TakenWhole (replyCall s conn io)) (accepted : 0 < connWrite io.send) :
      (cells (s.conn conn).buf s.tty.rxlen).take (connWrite io.send).toNat =
        cells (s.conn conn).buf s.tty.rxlen := by
  apply List.take_of_length_le
  unfold replyCall at whole
  split at whole
  · have all := whole accepted
    omega
  · have all := whole accepted
    omega

theorem answered_stands {s heard s' : State} {reader conn : Ptr} {lockFails peer : Nat}
    {io : VisitAnswers} {bytes : List Byte} {lines : List LineEvent} {events : List Event}
    {account : Account} (answered : Answered reader lockFails heard s' lines events)
    (frame : Frame reader s s') (listed : reader ∈ s.queue.live)
    (reads : Reads s reader io bytes peer)
    (alone : conn ≠ reader → phaseIn s conn ≠ .expects .reply)
    (stands : AccountStands s conn account) :
      AccountStands s' conn ((.request reader bytes :: events).foldl (noteAccount conn) account) := by
  have phase := frame_phaseIn frame listed conn
  have noted : (lines.map Event.line).foldl (noteAccount conn) account = account := by
    apply notes_unchanged
    intro event member
    obtain ⟨line, _, same⟩ := List.mem_map.mp member
    rw [← same]
    rfl
  rw [answered.shown, List.foldl_cons, List.foldl_append,
    show noteAccount conn account (.request reader bytes) = account from rfl, noted]
  by_cases same : conn = reader
  · subst same
    rw [if_pos rfl, if_pos answered.state] at phase
    rw [AccountStands, idle_phase listed reads rfl] at stands
    rw [AccountStands, phase]
    simp [noteAccount, stands]
  · rw [if_neg same] at phase
    have apart : ¬reader = conn := fun equal => same equal.symm
    simp only [List.foldl_cons, List.foldl_nil, noteAccount, if_neg apart]
    exact account_stands_congr phase (fun owing => absurd owing (alone same)) stands

theorem sent_stands {s : State} {writer conn : Ptr} {io : VisitAnswers} {account : Account}
    (whole : TakenWhole (replyCall s writer io)) (accepted : 0 < connWrite io.send)
    (listed : writer ∈ s.queue.live) (owing : (s.conn writer).state = .resp)
    (stands : AccountStands s conn account) :
      AccountStands (stateConnSet s writer .header) conn
        (noteAccount conn account (replyCall s writer io)) := by
  have frame := state_conn_set_frame s writer .header
  have phase := frame_phaseIn frame listed conn
  rw [note_reply_call, reply_call_taken whole accepted]
  by_cases same : conn = writer
  · subst same
    rw [if_pos rfl, state_conn_set_state] at phase
    rw [AccountStands, owing_phase listed owing rfl] at stands
    obtain ⟨sent, formed, written⟩ := stands
    rw [AccountStands, phase]
    simp [formed, written]
  · have apart : ¬writer = conn := fun equal => same equal.symm
    rw [if_neg same] at phase
    rw [if_neg apart]
    apply account_stands_congr phase _ stands
    intro _
    rw [frame.others conn same]
    rfl

/-- The step lemma: without short writes every account stands after an action,
a request being read only while nobody else waits. -/
theorem accounts_stand_step {s₀ s s' : State} {answers : Answers} {trace events : List Event}
    (stable : Stable s) (alone : NoneWaitsElsewhere s₀ answers)
    (whole : ∀ event ∈ events, TakenWhole event)
    (before : ∀ conn, AccountStands s conn (accountOf conn trace))
    (action : Action s₀ answers s events s') (conn : Ptr) :
      AccountStands s' conn (accountOf conn (trace ++ events)) := by
  have stands := before conn
  rw [accountOf_append]
  cases action with
  | quiet fixed live fds rxlen kept silent =>
      rw [notes_unchanged]
      · have phase : phaseIn s' conn = phaseIn s conn :=
          phaseIn_congr (by rw [live]) fun listed => (kept conn listed).state
        apply account_stands_congr phase _ stands
        intro owing
        by_cases listed : conn ∈ s.queue.live
        · rw [phaseIn_listed listed] at owing
          have waits : (s.conn conn).state = .resp := by
            by_contra idle
            simp [idle] at owing
          rw [(kept conn listed).reply waits, rxlen]
        · simp [phaseIn, listed] at owing
      · intro event member
        have quiet := silent event member
        cases event <;> first | rfl | exact quiet.elim
  | refused free => exact stands
  | leaked free => exact stands
  | opened tcps free small room fixed added fds rxlen => exact opened_stands added rxlen stands
  | attached once fixed added fds rxlen => exact opened_stands added rxlen stands
  | closed listed fixed gone rxlen => exact closed_stands stable.formed gone rxlen stands
  | @answered _ io reader bytes peer lines events flow visit visited listed reads answered
      computed =>
      apply answered_stands answered (answered_frame answered) listed reads _ stands
      intro apart owing
      subst visit
      obtain ⟨more, pc⟩ := visited
      have standing : reader ∈ curconn s₀ := by simp [curconn, pc]
      by_cases queued : conn ∈ s₀.queue.live
      · have quiet := alone reader standing (reads_request _ _ _ _ _ reads) conn queued apart
        simp [phaseIn, queued, quiet] at owing
      · simp [phaseIn, queued] at owing
  | @sent _ io writer visit listed owing accepted =>
      exact sent_stands (whole _ (by simp)) accepted listed owing stands
  | @lost _ _ io writer visit listed owing failed fixed gone rxlen =>
      have nothing : (connWrite io.send).toNat = 0 := by omega
      rw [List.foldl_cons, note_reply_call, nothing, List.take_zero, List.append_nil, ite_self]
      exact closed_stands stable.formed gone rxlen stands

theorem accounts_whole {trace : List Event} {s : State}
    (stands : ∀ conn, AccountStands s conn (accountOf conn trace)) : RepliesWhole trace s := by
  refine ⟨fun conn => account_stands_in_order (stands conn), ?_⟩
  intro conn listed idle
  have here := stands conn
  rwa [AccountStands, phaseIn_listed listed, if_neg idle] at here

theorem stuck_keeps_whole {s s' : State} {answers : Answers} {trace events : List Event}
    (before : RepliesWhole trace s) (stuck : Stuck s answers events s') :
      RepliesWhole (trace ++ events) s' := by
  cases stuck with
  | @intro after io reader bytes peer visit visited listed reads untouched =>
      have same : ∀ conn, accountOf conn (trace ++ [.request reader bytes]) =
          accountOf conn trace := fun conn => accountOf_append conn trace _
      constructor
      · intro conn
        rw [same]
        exact before.inOrder conn
      · intro conn queued idle
        have listedBefore : conn ∈ s.queue.live := untouched.frame.live ▸ queued
        rw [same]
        apply before.complete conn listedBefore
        by_cases here : conn = reader
        · rw [here]
          exact asked_idle reads.asked
        · rw [← untouched.frame.others conn here]
          exact idle

/-- While no write on a socket is short and one reply at a time is under way,
every client is written its replies whole. -/
theorem replies_delivered_whole {longBits : Nat} {initial s : State} {trace : List Event}
    (started : Started initial) (run : Run (step longBits) WritesWhole initial trace s) :
      RepliesWhole trace s := by
  have taken := run_taken started run
  have empty : ∀ conn, AccountStands initial conn (accountOf conn []) := by
    intro conn
    have absent : conn ∉ initial.queue.live := by
      rw [(started_empty started).1]
      simp
    rw [AccountStands, phaseIn, if_neg absent]
    exact in_order_complete _ rfl
  have reached := run_actions_invariant (fun _ _ allowed => allowed.1.1)
    (fun trace s => (∀ event ∈ trace, TakenWhole event) →
      ∀ conn, AccountStands s conn (accountOf conn trace))
    (fun trace s => (∀ event ∈ trace, TakenWhole event) → RepliesWhole trace s)
    (started_sound started) (fun _ => empty)
    (by
      intro s₀ answers allowed trace s events s' stable before action whole
      have front := before fun event member => whole event (List.mem_append_left _ member)
      exact accounts_stand_step stable allowed.1.2.2
        (fun event member => whole event (List.mem_append_right _ member)) front action)
    (by
      intro s₀ answers allowed trace events s' stable before stuck whole
      have front := before fun event member => whole event (List.mem_append_left _ member)
      exact stuck_keeps_whole (accounts_whole front) stuck)
    run
  rcases reached.2 with running | ⟨_, left⟩
  · exact accounts_whole (running taken)
  · exact left taken

def twoRepliesTaken : List Answers :=
  [passWith [4] [] 5 1, visitWith [] 0 [] 0,
    passWith [5] [] 6 2, visitWith [1] 0 [.data [10, 11, 12]] 0,
    passWith [] [5] 6 2, visitWith [] 0 [] 3,
    passWith [5] [] 6 2, visitWith [2] 31 [] 15]

theorem replies_delivered_whole_two_taken :
    ∃ trace s, accountOf 1 trace = ⟨[[10, 11, 12], ascii "tty write error"],
      [10, 11, 12] ++ ascii "tty write error"⟩ ∧ RepliesWhole trace s := by
  obtain ⟨final, trace, run, shown⟩ := run_of_replay_view (step 64) WritesWhole
    (fun reached => accountOf 1 reached.2) twoRepliesTaken (freshDaemon (hexOverTcp 0))
    ⟨[[10, 11, 12], ascii "tty write error"], [10, 11, 12] ++ ascii "tty write error"⟩
    (by decide +kernel)
  exact ⟨trace, final, shown, replies_delivered_whole (fresh_daemon_started _) run⟩

/-- The socket takes two bytes of a reply of three: the third is never written,
and the next request is expected. -/
def replyTakenShort : List Answers :=
  [passWith [4] [] 5 1, visitWith [] 0 [] 0,
    passWith [5] [] 6 2, visitWith [1] 0 [.data [10, 11, 12]] 0,
    passWith [] [5] 6 2, visitWith [] 0 [] 2,
    passWith [5] [] 6 2, visitWith [2] 0 [.data [20]] 0]

theorem short_write_drops_the_rest :
    ∃ trace final, Run (step 64) OneReplyAtATime (freshDaemon (hexOverTcp 0)) trace final ∧
      .replied 1 5 none [10, 11, 12] 2 ∈ trace ∧
      accountOf 1 trace = ⟨[[10, 11, 12], [20]], [10, 11]⟩ ∧ ¬ RepliesWhole trace final := by
  obtain ⟨final, trace, run, shown⟩ := run_of_replay_view (step 64) OneReplyAtATime
    (fun reached => (decide (Event.replied 1 5 none [10, 11, 12] 2 ∈ reached.2),
      accountOf 1 reached.2)) replyTakenShort (freshDaemon (hexOverTcp 0))
    (true, ⟨[[10, 11, 12], [20]], [10, 11]⟩) (by decide +kernel)
  obtain ⟨called, account⟩ := Prod.mk.inj shown
  refine ⟨trace, final, run, of_decide_eq_true called, account, ?_⟩
  intro whole
  have order := whole.inOrder 1
  rw [account] at order
  exact absurd order (by decide)

end GlRs485.WholeReplies
