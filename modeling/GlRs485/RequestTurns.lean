import GlRs485.LoopActions

/-!
# One reply for each request

The reads and the reply calls of a connection take turns from its opening to
its closing. What is expected next is a function of the trace, and the state of
the connection in the queue agrees with it in every reachable state.
-/

namespace GlRs485.RequestTurns

open CBytes ConnectionQueue BridgeSettings SocketBridge ServingVisits HeadPasses LoopActions
open TracedSystem

set_option autoImplicit false

inductive Turn
  | read
  | reply
  deriving DecidableEq

def Turn.other : Turn → Turn
  | .read => .reply
  | .reply => .read

def turnOf (conn : Ptr) : Event → Option Turn
  | .request reader _ => if reader = conn then some .read else none
  | .replied writer _ _ _ _ => if writer = conn then some .reply else none
  | _ => none

def turns (conn : Ptr) (trace : List Event) : List Turn := trace.filterMap (turnOf conn)

def Alternates : Turn → List Turn → Prop
  | _, [] => True
  | expected, turn :: rest => turn = expected ∧ Alternates expected.other rest

inductive Phase
  | gone
  | expects (turn : Turn)
  deriving DecidableEq

/-- Follows one connection; `none` once a turn was taken out of order. -/
def track (conn : Ptr) (phase : Option Phase) (event : Event) : Option Phase :=
  match event with
  | .opened block _ => if block = conn then phase.map fun _ => .expects .read else phase
  | .closed block _ => if block = conn then phase.map fun _ => .gone else phase
  | event =>
      match turnOf conn event with
      | none => phase
      | some turn =>
          match phase with
          | some (.expects expected) => if turn = expected then some (.expects turn.other) else none
          | _ => none

def phaseOf (conn : Ptr) (trace : List Event) : Option Phase :=
  trace.foldl (track conn) (some .gone)

def phaseIn (s : State) (conn : Ptr) : Phase :=
  if conn ∈ s.queue.live then
    .expects (if (s.conn conn).state = .resp then .reply else .read)
  else .gone

def OnTurn (trace : List Event) (s : State) : Prop :=
  ∀ conn, phaseOf conn trace = some (phaseIn s conn)

theorem phaseOf_append (conn : Ptr) (trace events : List Event) :
    phaseOf conn (trace ++ events) = events.foldl (track conn) (phaseOf conn trace) := by
  rw [phaseOf, List.foldl_append]
  rfl

theorem track_silent (conn : Ptr) (phase : Option Phase) (event : Event) (silent : Silent event) :
    track conn phase event = phase := by
  cases event <;> first | rfl | exact silent.elim

theorem phaseIn_congr {s s' : State} {conn : Ptr}
    (live : conn ∈ s'.queue.live ↔ conn ∈ s.queue.live)
    (state : conn ∈ s.queue.live → (s'.conn conn).state = (s.conn conn).state) :
      phaseIn s' conn = phaseIn s conn := by
  unfold phaseIn
  by_cases listed : conn ∈ s.queue.live
  · rw [if_pos listed, if_pos (live.mpr listed), state listed]
  · rw [if_neg listed, if_neg (fun member => listed (live.mp member))]

theorem phaseIn_listed {s : State} {conn : Ptr} (listed : conn ∈ s.queue.live) :
    phaseIn s conn = .expects (if (s.conn conn).state = .resp then .reply else .read) :=
  if_pos listed

theorem closed_phaseIn {s s' : State} {conn : Ptr} (formed : WellFormed s.queue)
    (gone : Closed s s' conn) (other : Ptr) :
      phaseIn s' other = if other = conn then .gone else phaseIn s other := by
  split
  · next same =>
      subst same
      have left : other ∉ s'.queue.live := by
        rw [gone.live]
        exact formed.linked.distinct.not_mem_erase
      exact if_neg left
  · next different =>
      apply phaseIn_congr
      · rw [gone.live, List.mem_erase_of_ne different]
      · intro listed
        exact (gone.others other listed different).state

theorem opened_phaseIn {s s' : State} {conn : Ptr} {sd : Int} (added : Opened s s' conn sd)
    (other : Ptr) :
      phaseIn s' other = if other = conn then .expects .read else phaseIn s other := by
  split
  · next same =>
      subst same
      have listed : other ∈ s'.queue.live := by
        rw [added.live]
        simp
      rw [phaseIn_listed listed, added.state]
      rfl
  · next different =>
      apply phaseIn_congr
      · rw [added.live, List.mem_append, List.mem_singleton, or_iff_left different]
      · intro listed
        exact (added.others other listed).state

theorem frame_phaseIn {s s' : State} {conn : Ptr} (frame : Frame conn s s')
    (listed : conn ∈ s.queue.live) (other : Ptr) :
      phaseIn s' other =
        if other = conn then .expects (if (s'.conn conn).state = .resp then .reply else .read)
        else phaseIn s other := by
  split
  · next same =>
      subst same
      exact phaseIn_listed (frame.live.symm ▸ listed)
  · next different =>
      apply phaseIn_congr
      · rw [frame.live]
      · intro _
        rw [frame.others other different]

theorem track_request (conn reader : Ptr) (bytes : List Byte) (phase : Phase)
    (idle : reader = conn → phase = .expects .read) :
      track conn (some phase) (.request reader bytes) =
        some (if conn = reader then .expects .reply else phase) := by
  by_cases same : reader = conn
  · rw [idle same]
    simp [track, turnOf, same, Turn.other]
  · have apart : conn ≠ reader := fun equal => same equal.symm
    rw [if_neg apart]
    simp [track, turnOf, same]

theorem track_reply (conn : Ptr) (s : State) (writer : Ptr) (io : VisitAnswers) (phase : Phase)
    (owing : writer = conn → phase = .expects .reply) :
      track conn (some phase) (replyCall s writer io) =
        some (if conn = writer then .expects .read else phase) := by
  by_cases same : writer = conn
  · rw [owing same]
    unfold replyCall
    split <;> simp [track, turnOf, same, Turn.other]
  · have apart : conn ≠ writer := fun equal => same equal.symm
    rw [if_neg apart]
    unfold replyCall
    split <;> simp [track, turnOf, same]

theorem track_closed (conn block : Ptr) (sd : Int) (phase : Phase) :
    track conn (some phase) (.closed block sd) = some (if conn = block then .gone else phase) := by
  by_cases same : block = conn
  · simp [track, same]
  · have apart : conn ≠ block := fun equal => same equal.symm
    simp [track, same, apart]

theorem track_opened (conn block : Ptr) (sd : Int) (phase : Phase) :
    track conn (some phase) (.opened block sd) =
      some (if conn = block then .expects .read else phase) := by
  by_cases same : block = conn
  · simp [track, same]
  · have apart : conn ≠ block := fun equal => same equal.symm
    simp [track, same, apart]

theorem idle_phase {s : State} {conn reader : Ptr} {io : VisitAnswers} {bytes : List Byte}
    {peer : Nat} (listed : reader ∈ s.queue.live) (reads : Reads s reader io bytes peer)
    (same : reader = conn) : phaseIn s conn = .expects .read := by
  subst same
  rw [phaseIn_listed listed, if_neg (asked_idle reads.asked)]

theorem owing_phase {s : State} {conn writer : Ptr} (listed : writer ∈ s.queue.live)
    (owing : (s.conn writer).state = .resp) (same : writer = conn) :
      phaseIn s conn = .expects .reply := by
  subst same
  rw [phaseIn_listed listed, if_pos owing]

/-- The step lemma: every action keeps the turns. -/
theorem on_turn_kept {s₀ s s' : State} {answers : Answers} {trace events : List Event}
    (stable : Stable s) (before : OnTurn trace s) (action : Action s₀ answers s events s') :
      OnTurn (trace ++ events) s' := by
  intro conn
  rw [phaseOf_append, before conn]
  cases action with
  | quiet fixed live fds rxlen kept silent =>
      rw [notes_unchanged (track conn) _ events fun event member => track_silent conn _ event
        (silent event member)]
      rw [phaseIn_congr (by rw [live]) fun listed => (kept conn listed).state]
  | refused free => rfl
  | leaked free => rfl
  | @opened _ _ block sd tcps free small room fixed added fds rxlen =>
      rw [opened_phaseIn added]
      exact track_opened conn block sd _
  | @attached _ _ block once fixed added fds rxlen =>
      rw [opened_phaseIn added]
      exact track_opened conn block s.serverSd _
  | @closed _ _ block listed fixed gone rxlen =>
      rw [closed_phaseIn stable.formed gone]
      exact track_closed conn block (s.conn block).sd _
  | @answered _ io reader bytes peer lines events flow visit visited listed reads answered
      computed =>
      rw [frame_phaseIn answered.frame listed, if_pos answered.state]
      rw [List.foldl_cons, track_request conn reader bytes _ (idle_phase listed reads)]
      rw [answered.shown, notes_unchanged]
      · rfl
      · intro event member
        rcases List.mem_append.mp member with call | shown
        · obtain ⟨line, _, same⟩ := List.mem_map.mp call
          subst same
          rfl
        · rw [List.mem_singleton.mp shown]
          rfl
  | @sent _ io writer visit listed owing accepted =>
      rw [frame_phaseIn (state_conn_set_frame s writer .header) listed, state_conn_set_state]
      exact track_reply conn s writer io _ (owing_phase listed owing)
  | @lost _ _ io writer visit listed owing failed fixed gone rxlen =>
      rw [closed_phaseIn stable.formed gone _, List.foldl_cons,
        track_reply conn s writer io _ (owing_phase listed owing), List.foldl_cons, track_closed]
      by_cases same : conn = writer
      · rw [if_pos same, if_pos same]
        rfl
      · rw [if_neg same, if_neg same, if_neg same]
        rfl

theorem track_from_none (conn : Ptr) (events : List Event) :
    events.foldl (track conn) none = none := by
  apply notes_unchanged
  intro event _
  unfold track
  cases event with
  | opened block sd => simp
  | closed block sd => simp
  | _ =>
      dsimp only
      split <;> rfl

/-- What is owed to the property by the events after a phase. -/
def TurnsFrom (phase : Phase) (taken : List Turn) : Prop :=
  match phase with
  | .gone => taken = []
  | .expects turn => Alternates turn taken

theorem turns_from_nothing (phase : Phase) : TurnsFrom phase [] := by
  cases phase with
  | gone => rfl
  | expects turn => trivial

theorem track_turn (conn : Ptr) (phase : Phase) (event : Event) (turn : Turn)
    (takes : turnOf conn event = some turn) :
      track conn (some phase) event =
        if phase = .expects turn then some (.expects turn.other) else none := by
  cases event with
  | request reader bytes =>
      cases phase with
      | gone => simp [track, takes]
      | expects expected => simp [track, takes, eq_comm]
  | replied writer sd peer bytes rc =>
      cases phase with
      | gone => simp [track, takes]
      | expects expected => simp [track, takes, eq_comm]
  | _ => simp [turnOf] at takes

/-- Between two openings the turns of a tracked connection alternate. -/
theorem turns_while_tracked (conn : Ptr) (events : List Event) (phase : Phase)
    (noOpening : ∀ sd, .opened conn sd ∉ events)
    (tracked : events.foldl (track conn) (some phase) ≠ none) :
      TurnsFrom phase (turns conn events) := by
  induction events generalizing phase with
  | nil => exact turns_from_nothing phase
  | cons event rest ih =>
      have noLater : ∀ sd, .opened conn sd ∉ rest :=
        fun sd member => noOpening sd (by simp [member])
      rw [List.foldl_cons] at tracked
      cases takes : turnOf conn event with
      | some turn =>
          have taken : turns conn (event :: rest) = turn :: turns conn rest := by
            simp [turns, takes]
          rw [track_turn conn phase event turn takes] at tracked
          by_cases expected : phase = .expects turn
          · rw [if_pos expected] at tracked
            rw [taken, expected]
            exact ⟨rfl, ih (.expects turn.other) noLater tracked⟩
          · rw [if_neg expected, track_from_none] at tracked
            exact absurd rfl tracked
      | none =>
          have skipped : turns conn (event :: rest) = turns conn rest := by
            simp [turns, takes]
          rw [skipped]
          by_cases closes : ∃ sd, event = .closed conn sd
          · obtain ⟨sd, same⟩ := closes
            subst same
            rw [track_closed, if_pos rfl] at tracked
            have silent : turns conn rest = [] := ih .gone noLater tracked
            rw [silent]
            exact turns_from_nothing phase
          · have unmoved : track conn (some phase) event = some phase := by
              cases event with
              | opened block sd =>
                  have apart : conn ≠ block := fun same => noOpening sd (by simp [same])
                  rw [track_opened, if_neg apart]
              | closed block sd =>
                  have apart : conn ≠ block := fun same => closes ⟨sd, by rw [same]⟩
                  rw [track_closed, if_neg apart]
              | _ => simp [track, takes]
            rw [unmoved] at tracked
            exact ih phase noLater tracked

/-- The turns of every connection alternate, beginning with a read, from its
opening to its closing, and there are none outside. -/
structure TakesTurns (conn : Ptr) (trace : List Event) : Prop where
  unopened : (∀ sd, .opened conn sd ∉ trace) → turns conn trace = []
  whileOpen : ∀ before sd during, trace = before ++ .opened conn sd :: during →
    (∀ again, .opened conn again ∉ during) → Alternates .read (turns conn during)
  onceClosed : ∀ before sd after, trace = before ++ .closed conn sd :: after →
    (∀ again, .opened conn again ∉ after) → turns conn after = []

theorem takes_turns_of_tracked (conn : Ptr) (trace : List Event)
    (tracked : phaseOf conn trace ≠ none) : TakesTurns conn trace := by
  have reached : ∀ before event after, trace = before ++ event :: after →
      ∃ phase, after.foldl (track conn) (track conn (some phase) event) ≠ none := by
    intro before event after split
    rw [split, phaseOf_append, List.foldl_cons] at tracked
    cases earlier : phaseOf conn before with
    | none =>
        have lost := track_from_none conn (event :: after)
        rw [List.foldl_cons] at lost
        rw [earlier, lost] at tracked
        exact absurd rfl tracked
    | some phase => exact ⟨phase, earlier ▸ tracked⟩
  constructor
  · intro noOpening
    exact turns_while_tracked conn trace .gone noOpening tracked
  · intro before sd during split noOpening
    obtain ⟨phase, later⟩ := reached before _ during split
    rw [track_opened, if_pos rfl] at later
    exact turns_while_tracked conn during (.expects .read) noOpening later
  · intro before sd after split noOpening
    obtain ⟨phase, later⟩ := reached before _ after split
    rw [track_closed, if_pos rfl] at later
    exact turns_while_tracked conn after .gone noOpening later

theorem started_on_turn {initial : State} (started : Started initial) : OnTurn [] initial := by
  intro conn
  have absent : conn ∉ initial.queue.live := by
    rw [(started_empty started).1]
    simp
  exact congrArg some (if_neg absent).symm

theorem stuck_tracked {s s' : State} {answers : Answers} {trace events : List Event}
    (before : OnTurn trace s) (stuck : Stuck s answers events s') (conn : Ptr) :
      phaseOf conn (trace ++ events) ≠ none := by
  rw [phaseOf_append, before conn]
  cases stuck with
  | @intro _ io reader bytes peer visit visited listed reads untouched =>
      rw [List.foldl_cons, track_request conn reader bytes _ (idle_phase listed reads)]
      simp

theorem requests_and_replies_alternate {longBits : Nat} {initial s : State} {trace : List Event}
    (started : Started initial) (run : Run (step longBits) Admissible initial trace s)
    (conn : Ptr) :
      TakesTurns conn trace := by
  have reached := run_actions_invariant (fun _ _ admitted => admitted) OnTurn
    (fun trace _ => ∀ conn, phaseOf conn trace ≠ none) (started_sound started)
    (started_on_turn started)
    (fun _ _ _ _ _ _ _ stable before action => on_turn_kept stable before action)
    (fun _ _ _ _ _ _ _ before stuck => stuck_tracked before stuck) run
  apply takes_turns_of_tracked
  rcases reached.2 with turn | ⟨_, tracked⟩
  · rw [turn conn]
    simp
  · exact tracked conn

def answerThenLockout : List Answers :=
  [passWith [4] [] 5 1, visitWith [] 0 [] 0,
    passWith [5] [] 6 2, visitWith [1, 2] 0 [.data [7]] 0,
    passWith [] [5] 6 2, visitWith [] 0 [] 1,
    passWith [5] [] 6 2, visitWith [9] 31 [] 15]

theorem requests_and_replies_alternate_through_a_lockout :
    ∃ trace, turns 1 trace = [.read, .reply, .read, .reply] ∧ TakesTurns 1 trace := by
  obtain ⟨final, trace, run, taken⟩ := run_of_replay_view (step 64) Admissible
    (fun reached => turns 1 reached.2) answerThenLockout
    (freshDaemon (hexOverTcp 0)) [.read, .reply, .read, .reply] (by decide +kernel)
  exact ⟨trace, taken, requests_and_replies_alternate (fresh_daemon_started _) run 1⟩

end GlRs485.RequestTurns
