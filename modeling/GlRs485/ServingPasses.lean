import GlRs485.Foundation.SkippingWalk
import GlRs485.LostConnections

/-!
# The walk of a serving pass

The walk makes as many visits as the queue was long when it began. `conn_close`
answers the successor of the element it removes, and the walk steps on from there
once more, so a closed connection takes the turn of the one behind it. A read
that fails, and a text that the decoder never finishes, end the pass.
-/

namespace GlRs485.ServingPasses

open CBytes LinkedChain ConnectionQueue BridgeSettings SocketBridge ServingVisits HexRequests
open HeadPasses
open LoopActions StepOutcomes LostConnections SkippingWalk TracedSystem

set_option autoImplicit false

def leavesPass (s : State) (conn : Ptr) (io : VisitAnswers) : Prop :=
  readsRequests (s.conn conn).state = true ∧ (s.conn conn).sd ∈ s.sdsetrd ∧
    ∀ received ∈ connRead io.recv, received.1 ≠ [] ∧ requestFlow s io received.1 = .endless

instance (s : State) (conn : Ptr) (io : VisitAnswers) : Decidable (leavesPass s conn io) :=
  inferInstanceAs (Decidable (_ ∧ _ ∧ _))

theorem request_flow_reads (s : State) (io : VisitAnswers) (bytes : List Byte) :
    requestFlow s io bytes ≠ .sele := by
  unfold requestFlow
  repeat' split
  all_goals simp

theorem serve_request_leaves (s : State) (conn : Ptr) (io : VisitAnswers)
    (sizes : ∀ answer ∈ io.recv, answer.size ≤ 256) :
      ((followSend (serveRequest s conn io) conn io).2.2 = .sele ∨
          (followSend (serveRequest s conn io) conn io).2.2 = .endless) ↔
        ∀ received ∈ connRead io.recv,
          received.1 ≠ [] ∧ requestFlow s io received.1 = .endless := by
  cases heard : connRead io.recv with
  | none => simp [serveRequest, heard, followSend]
  | some received =>
      obtain ⟨bytes, peer⟩ := received
      have size := conn_read_size io.recv bytes peer sizes heard
      by_cases ended : bytes = []
      · rw [serve_request_heard s conn io bytes peer heard, if_pos ended]
        simp [followSend, ended]
      · obtain ⟨refused, kept⟩ := followed_flow s conn io bytes peer heard size ended
        by_cases send : requestFlow s io bytes = .send
        · obtain ⟨before, text, flow⟩ := refused send
          rw [flow]
          simp [ended, send, socket_send_stays]
        · rw [kept send]
          simpa [ended] using fun reads => absurd reads (request_flow_reads s io bytes)

theorem serve_conn_leaves (s : State) (conn : Ptr) (io : VisitAnswers)
    (sizes : ∀ answer ∈ io.recv, answer.size ≤ 256) :
      ((serveConn s conn io).2.2 = .sele ∨ (serveConn s conn io).2.2 = .endless) ↔
        leavesPass s conn io := by
  unfold serveConn leavesPass
  cases phase : (s.conn conn).state with
  | tty => simp [readsRequests]
  | resp => simpa [readsRequests] using socket_send_stays s conn io
  | _ =>
      dsimp only
      by_cases readable : (s.conn conn).sd ∈ s.sdsetrd
      · rw [if_pos readable, serve_request_leaves s conn io sizes]
        simp [readsRequests, readable]
      · simp [readable]

/-- A visit of the pass: whom it visits, whether it closes the connection and
whether it leaves the pass. -/
structure Visit where
  conn : Ptr
  closes : Bool
  leaves : Bool
  deriving DecidableEq

def visitOf (s : State) (conn : Ptr) (io : VisitAnswers) : Visit :=
  ⟨conn, decide (losesConnection s conn io), decide (leavesPass s conn io)⟩

def observeVisits (s : State) (answers : Answers) (_ : List Event) : List Visit :=
  match answers with
  | .head _ => []
  | .visit io => (curconn s).toList.map fun conn => visitOf s conn io

def passStep (longBits : Nat) : StepFunction State Answers Visit :=
  observing (step longBits) observeVisits

def InPass (s : State) (answers : Answers) : Prop :=
  Admissible s answers ∧
    match answers with
    | .head _ => False
    | .visit _ => True

instance (s : State) : (answers : Answers) → Decidable (InPass s answers)
  | .head _ => .isFalse fun pass => pass.2
  | .visit io => inferInstanceAs (Decidable (Admissible s (.visit io) ∧ True))

/-- The walk stands on the first connection and has as many visits to make as
there are connections. -/
def PassBegins (s : State) : Prop :=
  ∃ more, s.queue.len = more + 1 ∧ s.pc = .serving more s.queue.beg

def PassOver (s : State) : Prop := ∀ more curconn, s.pc ≠ .serving more curconn

/-- No visit leaves the pass, unless it is the last. -/
def StaysInPass (count : Nat) (seen : List Visit) : Prop :=
  ∀ index visit, seen[index]? = some visit → visit.leaves = true → index + 1 = count

/-- The queue as a ring from the visited connection on. -/
def Stands (s : State) (ring : List Ptr) : Prop :=
  ring.IsRotated s.queue.live ∧ ∀ more curconn, s.pc = .serving more curconn → curconn = ring.head?

theorem advance_stands (s : State) (more : Nat) (conn : Ptr) (rest : List Ptr)
    (formed : WellFormed s.queue) (rotated : (conn :: rest).IsRotated s.queue.live) :
      Stands (advance s more (some conn)).1 ((conn :: rest).rotate 1) ∧
        (advance s more (some conn)).1.pc = match more with
          | 0 => .head
          | more + 1 => .serving more ((conn :: rest).rotate 1).head? := by
  have successor := formed.linked.circular_rotated rotated
  have turned : (conn :: rest).rotate 1 = rest ++ [conn] := by simp
  have again : ((conn :: rest).rotate 1).IsRotated s.queue.live :=
    (List.IsRotated.forall (conn :: rest) 1).trans rotated
  rw [turned] at again ⊢
  cases more with
  | zero => exact ⟨⟨again, by simp [advance]⟩, rfl⟩
  | succ more =>
      refine ⟨⟨again, ?_⟩, ?_⟩
      · intro less curconn pc
        simp only [advance, Pc.serving.injEq] at pc
        rw [← pc.2]
        exact successor
      · exact congrArg (Pc.serving more) successor

structure Turns (more : Nat) (ring : List Ptr) (s' : State) : Prop where
  stands : Stands s' ring
  last : more = 0 → PassOver s'
  further : ∀ less, more = less + 1 → ∃ curconn, s'.pc = .serving less curconn

theorem advance_turns (s : State) (more : Nat) (conn : Ptr) (rest : List Ptr)
    (formed : WellFormed s.queue) (rotated : (conn :: rest).IsRotated s.queue.live) :
      Turns more ((conn :: rest).rotate 1) (advance s more (some conn)).1 := by
  obtain ⟨stands, pc⟩ := advance_stands s more conn rest formed rotated
  refine ⟨stands, ?_, ?_⟩
  · rintro rfl less curconn serving
    rw [pc] at serving
    simp at serving
  · rintro less rfl
    exact ⟨_, pc⟩

/-- After a close the walk steps on from the successor of the closed element. -/
theorem close_turns (middle : State) (more : Nat) (conn : Ptr) (scrap : Conn) (rest : List Ptr)
    (formed : WellFormed middle.queue) (rotated : (conn :: rest).IsRotated middle.queue.live)
    (bound : more < middle.queue.live.length) :
      Turns more (turned true conn rest)
        (advance (connClose middle conn scrap).1 more (connClose middle conn scrap).2).1 := by
  have answer : (connClose middle conn scrap).2 = (rest ++ [conn]).head? :=
    formed.linked.circular_rotated rotated
  obtain ⟨front, back, split, behind⟩ := rotated_split rotated
  have live : (connClose middle conn scrap).1.queue.live = front ++ back :=
    queue_delete_elem_live middle.queue front back conn scrap formed split
  have after : WellFormed (connClose middle conn scrap).1.queue :=
    queue_delete_elem_well_formed middle.queue front back conn scrap formed split
  rw [answer]
  cases rest with
  | nil =>
      have none : front ++ back = [] := by
        rw [List.append_eq_nil_iff]
        exact (List.append_eq_nil_iff.mp behind.symm).symm
      have length := rotated.perm.length_eq
      have alone : more = 0 := by
        simp only [List.length_singleton] at length
        omega
      subst alone
      refine ⟨⟨?_, by simp [advance]⟩, ?_, by simp⟩
      · show [].IsRotated (connClose middle conn scrap).1.queue.live
        rw [live, none]
      · intro _ less curconn serving
        simp [advance] at serving
  | cons next rest =>
      apply advance_turns _ more next rest after
      rw [live, behind]
      exact List.isRotated_append

/-- The step lemma: a visit leaves the pass or turns the ring. -/
theorem visit_turns {s : State} {more : Nat} {conn : Ptr} {rest : List Ptr} {io : VisitAnswers}
    (sound : Sound s) (bound : more < s.queue.live.length)
    (rotated : (conn :: rest).IsRotated s.queue.live)
    (sizes : ∀ answer ∈ io.recv, answer.size ≤ 256) :
      (leavesPass s conn io → PassOver (visitStep s more (some conn) io).1) ∧
        (¬leavesPass s conn io → Turns more (turned (decide (losesConnection s conn io)) conn rest)
          (visitStep s more (some conn) io).1) := by
  have served := serve_conn_served s conn io
  have loses := serve_conn_loses s conn io sizes
  have leaves := serve_conn_leaves s conn io sizes
  unfold visitStep
  dsimp only
  generalize serveConn s conn io = left at served loses leaves ⊢
  obtain ⟨after, events, flow⟩ := left
  dsimp only at served loses leaves ⊢
  cases served with
  | closed frame fds =>
      have stays : ¬leavesPass s conn io := leaves.not.mp (by simp)
      have lost : losesConnection s conn io := loses.mp ⟨_, rfl⟩
      refine ⟨fun left => absurd left stays, fun _ => ?_⟩
      rw [decide_eq_true lost]
      exact close_turns _ more conn io.scrap rest (frame.wellFormed sound.formed)
        (frame.live ▸ rotated) (frame.live ▸ bound)
  | kept frame fds stays =>
      have kept : ¬losesConnection s conn io := loses.not.mp (by simpa using stays)
      have turns := advance_turns after more conn rest (frame.wellFormed sound.formed)
        (frame.live ▸ rotated)
      rw [decide_eq_false kept]
      cases flow with
      | closed nextconn => exact absurd rfl (stays nextconn)
      | sele =>
          have left : leavesPass s conn io := leaves.mp (Or.inl rfl)
          exact ⟨fun _ => by simp [PassOver], fun other => absurd left other⟩
      | endless =>
          have left : leavesPass s conn io := leaves.mp (Or.inr rfl)
          exact ⟨fun _ => by simp [PassOver], fun other => absurd left other⟩
      | done =>
          have other : ¬leavesPass s conn io := leaves.not.mp (by simp)
          exact ⟨fun left => absurd left other, fun _ => turns⟩
      | send =>
          have other : ¬leavesPass s conn io := leaves.not.mp (by simp)
          exact ⟨fun left => absurd left other, fun _ => turns⟩

def walked (s₀ : State) (seen : List Visit) : Walk Ptr :=
  walk s₀.queue.live (seen.map Visit.closes)

/-- The visits so far are the abstract walk over the queue at the start. -/
structure Passing (s₀ : State) (seen : List Visit) (s : State) : Prop where
  sound : Sound s
  met : (walked s₀ seen).met = seen.map Visit.conn
  within : seen.length ≤ s₀.queue.live.length
  counted : ∀ more curconn, s.pc = .serving more curconn →
    more + 1 + seen.length = s₀.queue.live.length ∧ (∀ visit ∈ seen, visit.leaves = false) ∧
      Stands s (walked s₀ seen).ring
  isOver : PassOver s → (∀ visit ∈ seen.dropLast, visit.leaves = false) ∧
    ((∀ visit ∈ seen.getLast?, visit.leaves = false) → seen.length = s₀.queue.live.length)

theorem passing_start {s₀ : State} (sound : Sound s₀) (begins : PassBegins s₀) :
    Passing s₀ [] s₀ := by
  obtain ⟨more, len, pc⟩ := begins
  have counted := sound.formed.counted
  have stands : Stands s₀ s₀.queue.live := by
    refine ⟨List.IsRotated.refl _, ?_⟩
    intro less curconn serving
    rw [pc, Pc.serving.injEq] at serving
    rw [← serving.2]
    exact sound.formed.linked.first_eq
  refine ⟨sound, rfl, Nat.zero_le _, ?_, ?_⟩
  · intro less curconn serving
    rw [pc, Pc.serving.injEq] at serving
    refine ⟨?_, by simp, stands⟩
    rw [← serving.1, List.length_nil]
    omega
  · intro isOver
    exact absurd pc (isOver _ _)

theorem stands_first {s : State} {ring : List Ptr} {more : Nat} {conn : Ptr}
    (stands : Stands s ring) (pc : s.pc = .serving more (some conn)) :
      ∃ rest, ring = conn :: rest := by
  have here := stands.2 more (some conn) pc
  cases ring with
  | nil => simp at here
  | cons first rest =>
      rw [List.head?_cons, Option.some.injEq] at here
      exact ⟨rest, by rw [here]⟩

theorem walked_visit {s₀ : State} {seen : List Visit} {conn : Ptr} {rest : List Ptr} (s : State)
    (io : VisitAnswers) (ring : (walked s₀ seen).ring = conn :: rest) :
      walked s₀ (seen ++ [visitOf s conn io]) =
        ⟨turned (decide (losesConnection s conn io)) conn rest,
          (walked s₀ seen).met ++ [conn]⟩ := by
  unfold walked at ring ⊢
  rw [List.map_append, List.map_singleton, walk_snoc, Walk.visit, ring]
  rfl

theorem passing_left {s₀ s' : State} {seen : List Visit} {visit : Visit} (sound : Sound s')
    (met : (walked s₀ (seen ++ [visit])).met = (seen ++ [visit]).map Visit.conn)
    (within : (seen ++ [visit]).length ≤ s₀.queue.live.length)
    (none : ∀ earlier ∈ seen, earlier.leaves = false) (leaves : visit.leaves = true)
    (isOver : PassOver s') : Passing s₀ (seen ++ [visit]) s' := by
  refine ⟨sound, met, within, fun less curconn serving => absurd serving (isOver _ _), ?_⟩
  intro _
  rw [List.dropLast_concat, List.getLast?_concat]
  exact ⟨none, fun stays => by simp [leaves] at stays⟩

theorem passing_turned {s₀ s' : State} {seen : List Visit} {visit : Visit} {more : Nat}
    (sound : Sound s')
    (met : (walked s₀ (seen ++ [visit])).met = (seen ++ [visit]).map Visit.conn)
    (counted : more + 1 + seen.length = s₀.queue.live.length)
    (none : ∀ earlier ∈ seen, earlier.leaves = false) (stays : visit.leaves = false)
    (turns : Turns more (walked s₀ (seen ++ [visit])).ring s') :
      Passing s₀ (seen ++ [visit]) s' := by
  have length : (seen ++ [visit]).length = seen.length + 1 := by simp
  have all : ∀ each ∈ seen ++ [visit], each.leaves = false := by
    intro each member
    rcases List.mem_append.mp member with earlier | now
    · exact none each earlier
    · rwa [List.mem_singleton.mp now]
  refine ⟨sound, met, by omega, ?_, ?_⟩
  · intro less curconn serving
    cases more with
    | zero => exact absurd serving (turns.last rfl _ _)
    | succ more =>
        obtain ⟨next, pc⟩ := turns.further more rfl
        rw [pc, Pc.serving.injEq] at serving
        exact ⟨by omega, all, turns.stands⟩
  · intro isOver
    rw [List.dropLast_concat]
    refine ⟨none, fun _ => ?_⟩
    cases more with
    | zero => omega
    | succ more =>
        obtain ⟨next, pc⟩ := turns.further more rfl
        exact absurd pc (isOver _ _)

theorem passing_step {longBits : Nat} {s₀ s s' : State} {answers : Answers}
    {seen later : List Visit} (before : Passing s₀ seen s) (inPass : InPass s answers)
    (taken : passStep longBits s answers = some (s', later)) :
      Passing s₀ (seen ++ later) s' := by
  obtain ⟨events, stepped, shown⟩ := observing_taken taken
  obtain ⟨admissible, visits⟩ := inPass
  have sound := (step_going before.sound admissible stepped).1
  cases step_outcome before.sound stepped with
  | head _ _ => exact visits.elim
  | @visit io more conn outcome =>
      obtain ⟨counted, none, stands⟩ := before.counted more (some conn) outcome.pc
      obtain ⟨rest, ring⟩ := stands_first stands outcome.pc
      have rotated : (conn :: rest).IsRotated s.queue.live := ring ▸ stands.1
      have single : later = [visitOf s conn io] := by
        rw [shown]
        simp [observeVisits, curconn, outcome.pc]
      obtain ⟨left, turns⟩ := visit_turns before.sound outcome.bound rotated admissible.1
      have reached : s' = (visitStep s more (some conn) io).1 := by
        simp only [step, outcome.pc, Option.some.injEq] at stepped
        rw [stepped]
      rw [← reached] at left turns
      subst single
      have walkedOn := walked_visit s io ring
      have met : (walked s₀ (seen ++ [visitOf s conn io])).met =
          (seen ++ [visitOf s conn io]).map Visit.conn := by
        rw [walkedOn, before.met, List.map_append]
        rfl
      by_cases leaves : leavesPass s conn io
      · have within : (seen ++ [visitOf s conn io]).length ≤ s₀.queue.live.length := by
          rw [List.length_append, List.length_singleton]
          omega
        exact passing_left sound met within none (decide_eq_true leaves) (left leaves)
      · refine passing_turned sound met counted none (decide_eq_false leaves) ?_
        rw [walkedOn]
        exact turns leaves

theorem stays_iff_all_made {s₀ s : State} {seen : List Visit} (passing : Passing s₀ seen s)
    (isOver : PassOver s) :
      StaysInPass s₀.queue.live.length seen ↔ seen.length = s₀.queue.live.length := by
  obtain ⟨earlier, made⟩ := passing.isOver isOver
  constructor
  · intro stays
    by_contra fewer
    apply fewer
    apply made
    intro last ends
    by_contra leaves
    rw [List.getLast?_eq_getElem?] at ends
    have index := stays _ last ends (by simpa using leaves)
    have bound := (List.getElem?_eq_some_iff.mp ends).1
    omega
  · intro all index visit listed leaves
    by_contra early
    have bound := (List.getElem?_eq_some_iff.mp listed).1
    have member : visit ∈ seen.dropLast := by
      rw [List.mem_iff_getElem?]
      exact ⟨index, by rw [List.getElem?_dropLast, if_pos (by omega), listed]⟩
    rw [earlier visit member] at leaves
    exact Bool.false_ne_true leaves

/-- A pass visits every connection of its queue exactly once if and only if no
visit but the last leaves it and every visit stands on a place where none has
been: among the first, or where a closing visit has put the one it skipped. -/
theorem pass_visits_each_once_iff {longBits : Nat} {initial s₀ s : State} {trace : List Event}
    {seen : List Visit} (started : Started initial)
    (reached : Run (step longBits) Admissible initial trace s₀) (begins : PassBegins s₀)
    (pass : Run (passStep longBits) InPass s₀ seen s) (isOver : PassOver s) :
      (∀ conn ∈ s₀.queue.live, (seen.map Visit.conn).count conn = 1) ↔
        StaysInPass s₀.queue.live.length seen ∧
          ∀ visit < seen.length, Spared s₀.queue.live.length (seen.map Visit.closes)
            (placeOf (seen.map Visit.closes) visit) := by
  have sound := run_sound (fun _ _ admits => admits) started reached
  have passing := run_invariant (Passing s₀) (passing_start sound begins)
    (fun _ _ _ _ _ before inPass taken => passing_step before inPass taken) pass
  have once := walk_meets_each_once_iff (seen.map Visit.closes) sound.formed.linked.distinct
    (by rw [List.length_map]; exact passing.within)
  rw [List.length_map] at once
  rw [stays_iff_all_made passing isOver, ← once, ← passing.met]
  rfl

def threeClients (readable : Int) : List Answers :=
  [passWith [4] [] 5 1, visitWith [] 0 [] 0,
    passWith [4] [] 6 2, visitWith [] 0 [] 0, visitWith [] 0 [] 0,
    passWith [4] [] 7 3, visitWith [] 0 [] 0, visitWith [] 0 [] 0, visitWith [] 0 [] 0,
    passWith [readable] [] 8 4]

def threeVisits : List Answers := [visitWith [] 0 [] 0, visitWith [] 0 [] 0, visitWith [] 0 [] 0]

def passView (reached : State × List Event) : List Ptr × Bool × Option (Pc × List Visit) :=
  (reached.1.queue.live,
    decide (reached.1.queue.len = 3 ∧ reached.1.pc = .serving 2 reached.1.queue.beg),
    (replay (passStep 64) InPass reached.1 threeVisits).map fun passed => (passed.1.pc, passed.2))

theorem pass_viewed {s₀ : State} {trace : List Event} {live : List Ptr} {seen : List Visit}
    (shown : passView (s₀, trace) = (live, true, some (.head, seen))) :
      s₀.queue.live = live ∧ PassBegins s₀ ∧
        ∃ s, Run (passStep 64) InPass s₀ seen s ∧ PassOver s := by
  simp only [passView, Prod.mk.injEq, decide_eq_true_eq, Option.map_eq_some_iff] at shown
  obtain ⟨queued, begins, ⟨s, made⟩, replayed, isOver, rfl⟩ := shown
  refine ⟨queued, ⟨2, begins⟩, s, run_of_replay _ _ threeVisits s₀ s _ replayed, ?_⟩
  dsimp only at isOver
  simp [PassOver, isOver]

theorem pass_visits_each_once_iff_first_leaves :
    ∃ s₀ s seen, Run (passStep 64) InPass s₀ seen s ∧ s₀.queue.live = [1, 2, 3] ∧
      seen.map Visit.closes = [true, false, false] ∧
        ∀ conn ∈ s₀.queue.live, (seen.map Visit.conn).count conn = 1 := by
  obtain ⟨s₀, trace, reached, shown⟩ := run_of_replay_view (step 64) Admissible passView
    (threeClients 5) (freshDaemon (hexOverTcp 0))
    ([1, 2, 3], true, some (.head, [⟨1, true, false⟩, ⟨3, false, false⟩, ⟨2, false, false⟩]))
    (by decide +kernel)
  obtain ⟨live, begins, s, pass, isOver⟩ := pass_viewed shown
  have spared := leading_closures_spared s₀.queue.live.length 1 2 (by rw [live]; decide)
  refine ⟨s₀, s, _, pass, live, rfl, (pass_visits_each_once_iff (fresh_daemon_started _) reached
    begins pass isOver).mpr ⟨?_, spared⟩⟩
  intro index visit listed leaves
  have member := List.mem_of_getElem? listed
  simp only [List.mem_cons, List.not_mem_nil, or_false] at member
  rcases member with rfl | rfl | rfl <;> exact absurd leaves (by decide)

/-- The second of three leaves: the third is skipped and the first visited again. -/
theorem closure_skips_the_next :
    ∃ trace s₀ s seen, Run (step 64) Admissible (freshDaemon (hexOverTcp 0)) trace s₀ ∧
      PassBegins s₀ ∧ s₀.queue.live = [1, 2, 3] ∧
        Run (passStep 64) InPass s₀ seen s ∧ PassOver s ∧ seen.map Visit.conn = [1, 2, 1] := by
  obtain ⟨s₀, trace, reached, shown⟩ := run_of_replay_view (step 64) Admissible passView
    (threeClients 6) (freshDaemon (hexOverTcp 0))
    ([1, 2, 3], true, some (.head, [⟨1, false, false⟩, ⟨2, true, false⟩, ⟨1, false, false⟩]))
    (by decide +kernel)
  obtain ⟨live, begins, s, pass, isOver⟩ := pass_viewed shown
  exact ⟨trace, s₀, s, _, reached, begins, live, pass, isOver, rfl⟩

end GlRs485.ServingPasses
