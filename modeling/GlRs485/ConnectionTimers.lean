import GlRs485.StepOutcomes

/-!
# The timers of the connections

A visit resets the timer of a connection whenever it forms or sends a reply for
it and touches no other timer. A pass takes the same whole seconds off every
timer, and what is not yet a second is carried to the next one.
-/

namespace GlRs485.ConnectionTimers

open ConnectionQueue BridgeSettings SocketBridge ServingVisits HeadPasses LoopActions StepOutcomes
open TracedSystem

set_option autoImplicit false

/-- The calls of `state_conn_set` seen in the events: the connection is opened,
its reply is formed, or its reply has gone out. -/
def setsTimer (conn : Ptr) : Event → Bool
  | .opened other _ => other = conn
  | .formed other _ => other = conn
  | .replied other _ _ _ rc => other = conn && decide (0 < rc)
  | _ => false

/-- A visit: who is still queued was queued before, with its timer reset or untouched. -/
structure TimersAfter (s s' : State) (events : List Event) : Prop where
  cfg : s'.cfg = s.cfg
  tout : s'.tout = s.tout
  timers : ∀ conn ∈ s'.queue.live, conn ∈ s.queue.live ∧
    (s'.conn conn).timeout =
      if events.any (setsTimer conn) then s.cfg.conntimeout else (s.conn conn).timeout

theorem TimersAfter.refl (s : State) : TimersAfter s s [] :=
  ⟨rfl, rfl, fun _ listed => ⟨listed, rfl⟩⟩

theorem TimersAfter.trans {first second third : State} {front back : List Event}
    (left : TimersAfter first second front) (right : TimersAfter second third back) :
      TimersAfter first third (front ++ back) where
  cfg := right.cfg.trans left.cfg
  tout := right.tout.trans left.tout
  timers := by
    intro conn listed
    obtain ⟨between, last⟩ := right.timers conn listed
    obtain ⟨before, earlier⟩ := left.timers conn between
    refine ⟨before, ?_⟩
    rw [last, earlier, left.cfg, List.any_append]
    cases back.any (setsTimer conn) <;> cases front.any (setsTimer conn) <;> rfl

theorem timers_of_frame {s s' : State} {conn : Ptr} {events : List Event}
    (frame : Frame conn s s')
    (own : (s'.conn conn).timeout =
      if events.any (setsTimer conn) then s.cfg.conntimeout else (s.conn conn).timeout)
    (others : ∀ other, other ≠ conn → events.any (setsTimer other) = false) :
      TimersAfter s s' events where
  cfg := frame.cfg
  tout := frame.tout
  timers := by
    intro other listed
    refine ⟨frame.live ▸ listed, ?_⟩
    by_cases same : other = conn
    · rw [same, own]
    · rw [others other same, frame.others other same]
      rfl

theorem untouched_timers {s s' : State} {conn : Ptr} {events : List Event}
    (untouched : Untouched conn s s') (silent : ∀ other, events.any (setsTimer other) = false) :
      TimersAfter s s' events := by
  apply timers_of_frame untouched.frame
  · rw [silent conn, untouched.timeout]
    rfl
  · exact fun other _ => silent other

theorem conn_close_timers {s : State} {conn : Ptr} (scrap : Conn) (formed : WellFormed s.queue)
    (listed : conn ∈ s.queue.live) (events : List Event)
    (others : ∀ other, other ≠ conn → events.any (setsTimer other) = false) :
      TimersAfter s (connClose s conn scrap).1 events where
  cfg := rfl
  tout := rfl
  timers := by
    have closed := conn_close_closed s conn scrap formed listed
    intro other remaining
    rw [closed.live] at remaining
    obtain ⟨different, before⟩ := (formed.linked.distinct.mem_erase_iff).mp remaining
    refine ⟨before, ?_⟩
    rw [others other different, (closed.others other before different).timeout]
    rfl

theorem reply_call_sets (s : State) (conn other : Ptr) (io : VisitAnswers) :
    setsTimer other (replyCall s conn io) = (conn = other && decide (0 < connWrite io.send)) := by
  unfold replyCall
  split <;> rfl

theorem socket_send_timers {s : State} {conn : Ptr} (io : VisitAnswers)
    (formed : WellFormed s.queue) (listed : conn ∈ s.queue.live) :
      TimersAfter s (socketSend s conn io).1 (socketSend s conn io).2.1 := by
  rcases socket_send_cases s conn io with ⟨_, held⟩ | ⟨accepted, sent⟩ | ⟨_, lost⟩
  · rw [held]
    exact .refl s
  · rw [sent]
    apply timers_of_frame (state_conn_set_frame s conn .header)
    · rw [List.any_cons, reply_call_sets]
      simp [accepted, stateConnSet]
    · intro other different
      simp [reply_call_sets, Ne.symm different]
  · rw [lost]
    apply conn_close_timers io.scrap formed listed
    intro other different
    rw [List.any_cons, reply_call_sets]
    simp [Ne.symm different, setsTimer]

theorem answered_timers {s s' : State} {conn : Ptr} {peer lockFails : Nat}
    {bytes : List CBytes.Byte}
    {lines : List SerialLine.LineEvent} {events : List Event}
    (answered : Answered conn lockFails (heardFrom s peer) s' lines events) :
      TimersAfter s s' (.request conn bytes :: events) := by
  have lineSilent : ∀ other, (lines.map Event.line).any (setsTimer other) = false := by
    intro other
    rw [List.any_eq_false]
    intro event member
    obtain ⟨call, _, rfl⟩ := List.mem_map.mp member
    simp [setsTimer]
  have sets : ∀ other, (Event.request conn bytes :: events).any (setsTimer other) =
      decide (conn = other) := by
    intro other
    rw [answered.shown, List.any_cons, List.any_append, lineSilent]
    simp [setsTimer]
  apply timers_of_frame (answered_frame answered)
  · rw [sets, answered.timeout]
    simp [heardFrom]
  · intro other different
    rw [sets]
    simpa using Ne.symm different

theorem outcome_timers {s s' : State} {conn : Ptr} {io : VisitAnswers} {events : List Event}
    {flow : Flow} (formed : WellFormed s.queue) (listed : conn ∈ s.queue.live)
    (outcome : Outcome conn io s s' events flow) : TimersAfter s s' events := by
  cases outcome with
  | passed => exact .refl s
  | unread _ untouched => exact untouched_timers untouched fun _ => rfl
  | @ended between _ untouched =>
      have kept : TimersAfter s between [] := untouched_timers untouched fun _ => rfl
      have closed := conn_close_timers io.scrap (untouched.frame.wellFormed formed)
        (by rw [untouched.frame.live]; exact listed)
        [.closed conn (s.conn conn).sd] fun _ _ => rfl
      exact kept.trans closed
  | stuck _ untouched => exact untouched_timers untouched fun _ => rfl
  | answered _ answered _ => exact answered_timers answered
  | @answeredAtOnce between bytes peer lines earlier _ answered _ =>
      have frame := answered_frame answered
      have sent := socket_send_timers io (frame.wellFormed formed)
        (by rw [frame.live]; exact listed)
      exact (answered_timers answered).trans sent
  | owed _ => exact socket_send_timers io formed listed

theorem advance_timers (s : State) (more : Nat) (from_ : Option Ptr) :
    TimersAfter s (advance s more from_).1 (advance s more from_).2 := by
  cases from_ with
  | none => exact ⟨rfl, rfl, fun _ listed => ⟨listed, rfl⟩⟩
  | some here =>
      by_cases known : here ∈ s.queue.live <;> cases more <;> simp only [advance, known] <;>
        exact ⟨rfl, rfl, fun _ listed => ⟨listed, rfl⟩⟩

theorem visit_timers {longBits : Nat} {s s' : State} {more : Nat} {conn : Ptr} {io : VisitAnswers}
    {events : List Event} (formed : WellFormed s.queue) (listed : conn ∈ s.queue.live)
    (pc : s.pc = .serving more (some conn))
    (taken : step longBits s (.visit io) = some (s', events)) : TimersAfter s s' events := by
  have served := outcome_timers formed listed (serve_conn_outcome s conn io)
  simp only [step, pc, visitStep, Option.some.injEq] at taken
  split at taken
  · obtain ⟨rfl, rfl⟩ := Prod.mk.inj taken
    exact ⟨served.cfg, served.tout, served.timers⟩
  · obtain ⟨rfl, rfl⟩ := Prod.mk.inj taken
    exact ⟨served.cfg, served.tout, served.timers⟩
  · obtain ⟨rfl, rfl⟩ := Prod.mk.inj taken
    exact served.trans (advance_timers _ _ _)
  · obtain ⟨rfl, rfl⟩ := Prod.mk.inj taken
    exact served.trans (advance_timers _ _ _)

/-- A pass: who is queued afterwards was queued before and has the given timer, or
has just been opened. -/
def Joins (s s' : State) (timeout : Ptr → Int) (events : List Event) : Prop :=
  ∀ conn ∈ s'.queue.live,
    (conn ∈ s.queue.live ∧ events.any (setsTimer conn) = false ∧
      (s'.conn conn).timeout = timeout conn) ∨
    (events.any (setsTimer conn) = true ∧ (s'.conn conn).timeout = s.cfg.conntimeout)

def summed (longBits : Nat) (s : State) (io : HeadAnswers) : Nat :=
  (s.tout + elapsed longBits io.ts io.tts) % 2 ^ longBits

def NoneClosed (events : List Event) : Prop := ∀ conn sd, .closed conn sd ∉ events

def isReady : SelectResult → Bool
  | .ready _ _ => true
  | _ => false

inductive PassTimers (longBits : Nat) (s : State) (io : HeadAnswers) (s' : State)
    (events : List Event) : Prop
  | waited (cfg : s'.cfg = s.cfg) (unclosed : NoneClosed events) (tout : s'.tout = s.tout)
      (joins : Joins s s' (fun conn => (s.conn conn).timeout) events)
  | early (selected : isReady io.select = true) (cfg : s'.cfg = s.cfg)
      (unclosed : NoneClosed events) (nothing : passSec longBits s io = 0)
      (tout : s'.tout = summed longBits s io)
      (joins : Joins s s' (fun conn => (s.conn conn).timeout) events)
  | everybody (selected : isReady io.select = true) (cfg : s'.cfg = s.cfg)
      (unclosed : NoneClosed events) (tout : s'.tout = summed longBits s io % 1000000)
      (positive : ∀ conn ∈ s.queue.live,
        0 < chargeTimeout (s.conn conn).timeout (passSec longBits s io))
      (joins : Joins s s'
        (fun conn => chargeTimeout (s.conn conn).timeout (passSec longBits s io)) events)
  | purging {conn : Ptr} (cfg : s'.cfg = s.cfg) (left : s'.pc = .returned)
      (listed : conn ∈ s.queue.live)
      (expired : chargeTimeout (s.conn conn).timeout (passSec longBits s io) ≤ 0)
      (only : ∀ other sd, .closed other sd ∈ events → other = conn)

theorem opening_joins {s s' : State} {io : OpenAnswers} {events : List Event}
    (opening : Opening s io s' events) (formed : WellFormed s.queue)
    (fresh : ∀ conn ∈ io.block, conn ∉ s.queue.live) :
      s'.cfg = s.cfg ∧ s'.tout = s.tout ∧ NoneClosed events ∧
        Joins s s' (fun conn => (s.conn conn).timeout) events := by
  have added : ∀ {before after : State} {conn : Ptr} {sd : Int} {events : List Event},
      Opened before after conn sd → before.queue = s.queue → before.cfg = s.cfg →
      (∀ other, events.any (setsTimer other) = decide (conn = other)) →
        Joins s after (fun conn => (s.conn conn).timeout) events := by
    intro before after conn sd events opened queue cfg sets other listed
    rw [opened.live, queue, List.mem_append, List.mem_singleton] at listed
    rcases listed with old | new
    · have apart : conn ≠ other := fun same => opened.fresh (by rw [queue, same]; exact old)
      have kept := opened.others other (by rw [queue]; exact old)
      exact Or.inl ⟨old, by simp [sets, apart], by rw [kept.timeout, State.conn, queue]; rfl⟩
    · subst new
      exact Or.inr ⟨by simp [sets], by rw [opened.timeout, cfg]⟩
  have same : Joins s s (fun conn => (s.conn conn).timeout) [] :=
    fun conn listed => Or.inl ⟨listed, rfl, rfl⟩
  cases opening with
  | nothing => exact ⟨rfl, rfl, by simp [NoneClosed], same⟩
  | refused _ _ => exact ⟨rfl, rfl, by simp [NoneClosed], same⟩
  | leaked _ _ => exact ⟨rfl, rfl, by simp [NoneClosed], same⟩
  | exited _ _ => exact ⟨rfl, rfl, by simp [NoneClosed], same⟩
  | @opened sd conn _ _ block _ _ =>
      have opened := enqueue_opened { s with fds := s.fds.openAt sd .client } conn sd formed
        (fresh conn block)
      exact ⟨rfl, rfl, by simp [NoneClosed], added opened rfl rfl fun other => by simp [setsTimer]⟩
  | unattached _ => exact ⟨rfl, rfl, by simp [NoneClosed], same⟩
  | @attached conn _ block =>
      have opened := enqueue_opened { s with oneTime := false } conn s.serverSd formed
        (fresh conn block)
      exact ⟨rfl, rfl, by simp [NoneClosed], added opened rfl rfl fun other => by simp [setsTimer]⟩

theorem opened_joins (s s' : State) (io : OpenAnswers) (rc : Nat) (timeout : Ptr → Int)
    (formed : WellFormed s'.queue) (fresh : ∀ conn ∈ io.block, conn ∉ s'.queue.live)
    (live : s'.queue.live = s.queue.live) (cfg : s'.cfg = s.cfg)
    (timeouts : ∀ conn ∈ s.queue.live, (s'.conn conn).timeout = timeout conn) :
      (startServing (acceptPending s' io).1 rc).cfg = s.cfg ∧
        (startServing (acceptPending s' io).1 rc).tout = s'.tout ∧
        NoneClosed (acceptPending s' io).2 ∧
        Joins s (startServing (acceptPending s' io).1 rc) timeout (acceptPending s' io).2 := by
  obtain ⟨cfgAfter, toutAfter, unclosed, joins⟩ :=
    opening_joins (accept_pending_opening s' io) formed fresh
  rw [start_serving_eq]
  refine ⟨cfgAfter.trans cfg, toutAfter, unclosed, ?_⟩
  intro conn listed
  rcases joins conn listed with ⟨old, silent, kept⟩ | ⟨sets, reset⟩
  · rw [live] at old
    exact Or.inl ⟨old, silent, kept.trans (timeouts conn old)⟩
  · exact Or.inr ⟨sets, reset.trans (by rw [cfg])⟩

theorem pass_timers (longBits : Nat) (s : State) (io : HeadAnswers) (rc : Nat)
    (selected : isReady io.select = true) (timed : s.cfg.conntimeout ≠ 0)
    (formed : WellFormed s.queue) (notTty : ∀ conn ∈ s.queue.live, (s.conn conn).state ≠ .tty)
    (fresh : ∀ conn ∈ io.opening.block, conn ∉ s.queue.live) :
      PassTimers longBits s io (passAfterSelect longBits s io rc).1
        (passAfterSelect longBits s io rc).2 := by
  have charging := expire_staled_charging longBits s io timed formed notTty
  unfold passAfterSelect
  generalize expireStaled longBits s io = expired at charging ⊢
  cases charging with
  | early nothing =>
      obtain ⟨cfg, tout, unclosed, joins⟩ := opened_joins s
        { s with tout := summed longBits s io } io.opening rc
        (fun conn => (s.conn conn).timeout) formed fresh rfl rfl fun _ _ => rfl
      exact .early selected cfg unclosed nothing tout joins
  | everybody late positive =>
      let after : State := { charged s (passSec longBits s io) s.queue.live with
        tout := summed longBits s io % 1000000 }
      have charges : ∀ conn ∈ s.queue.live, (after.conn conn).timeout =
          chargeTimeout (s.conn conn).timeout (passSec longBits s io) := by
        intro conn listed
        show ((charged _ _ _).conn conn).timeout = _
        rw [charged_conn, if_pos listed]
        rfl
      obtain ⟨cfg, tout, unclosed, joins⟩ := opened_joins s after io.opening rc _
        (charged_well_formed _ _ _ formed) fresh rfl rfl charges
      exact .everybody selected cfg unclosed tout positive joins
  | purging late listed expired =>
      refine .purging rfl rfl listed expired ?_
      intro other sd member
      simp only [if_true, List.mem_singleton, Event.closed.injEq] at member
      exact member.1

theorem head_timers {longBits : Nat} {s s' : State} {io : HeadAnswers} {events : List Event}
    (timed : s.cfg.conntimeout ≠ 0) (stable : Stable s) (head : s.pc = .head)
    (admissible : Admissible s (.head io))
    (taken : step longBits s (.head io) = some (s', events)) :
      PassTimers longBits s io s' events := by
  have steps : step longBits s (.head io) = some (headStep longBits s io) := by
    simp only [step, head]
  rw [steps, Option.some.injEq] at taken
  have still : Joins s s (fun conn => (s.conn conn).timeout) [] :=
    fun conn listed => Or.inl ⟨listed, rfl, rfl⟩
  cases selected : io.select with
  | interrupted =>
      rw [headStep, queue_walk_live s.queue stable.formed, selected] at taken
      obtain ⟨rfl, rfl⟩ := Prod.mk.inj taken
      exact .waited rfl (by simp [NoneClosed]) rfl still
  | failed =>
      rw [headStep, queue_walk_live s.queue stable.formed, selected] at taken
      obtain ⟨rfl, rfl⟩ := Prod.mk.inj taken
      exact .waited rfl (by simp [NoneClosed]) rfl still
  | ready readable writable =>
      obtain ⟨nfds, askedRd, askedWr, tvSec, rd, wr, rc, passes⟩ :=
        head_step_ready longBits s io readable writable stable.formed selected
      rw [passes] at taken
      obtain ⟨rfl, rfl⟩ := Prod.mk.inj taken
      have passed := pass_timers longBits { s with sdsetrd := rd, sdsetwr := wr } io rc
        (by rw [selected]; rfl) timed stable.formed
        (fun conn listed => never_tty stable conn listed) admissible.2.1
      have alsoUnclosed : ∀ {events : List Event}, NoneClosed events →
          NoneClosed (.selected nfds askedRd askedWr tvSec :: events) := by
        intro events unclosed conn sd
        simpa using unclosed conn sd
      cases passed with
      | waited cfg unclosed tout joins => exact .waited cfg (alsoUnclosed unclosed) tout joins
      | early ready cfg unclosed nothing tout joins =>
          exact .early ready cfg (alsoUnclosed unclosed) nothing tout joins
      | everybody ready cfg unclosed tout positive joins =>
          exact .everybody ready cfg (alsoUnclosed unclosed) tout positive joins
      | purging cfg left listed expired only =>
          refine .purging cfg left listed expired ?_
          intro other sd member
          exact only other sd (by simpa using member)

/-- Whole seconds below the range of an `int` come off a timer as they are. -/
theorem charge_timeout_in_range (timeout : Int) (toutSec : Nat) (positive : 1 ≤ timeout)
    (bounded : timeout < 2 ^ 31) (small : toutSec < 2 ^ 31) :
      chargeTimeout timeout toutSec = timeout - toutSec := by
  rw [chargeTimeout, Int.bmod_eq_of_le] <;> omega

def ChargesInInt (longBits : Nat) (s : State) : Answers → Prop
  | .head io => isReady io.select = true → passSec longBits s io < 2 ^ 31
  | .visit _ => True

instance (longBits : Nat) (s : State) :
    (answers : Answers) → Decidable (ChargesInInt longBits s answers)
  | .head _ => inferInstanceAs (Decidable (_ → _))
  | .visit _ => isTrue trivial

def TimedSteps (longBits : Nat) (s : State) (answers : Answers) : Prop :=
  Admissible s answers ∧ ChargesInInt longBits s answers

instance (longBits : Nat) (s : State) (answers : Answers) :
    Decidable (TimedSteps longBits s answers) := inferInstanceAs (Decidable (_ ∧ _))

def InRange (conntimeout timeout : Int) : Prop := 1 ≤ timeout ∧ timeout ≤ conntimeout

/-- A `select` asked for between one second and the setting. -/
def WaitsInRange (conntimeout : Int) : Event → Prop
  | .selected _ _ _ tvSec => InRange conntimeout tvSec
  | _ => True

theorem least_in_range (conntimeout : Int) (timeout : Ptr → Int) (conns : List Ptr) (least : Int)
    (within : InRange conntimeout least)
    (timers : ∀ conn ∈ conns, InRange conntimeout (timeout conn)) :
      InRange conntimeout
        (conns.foldl (fun least c => if least < timeout c then least else timeout c) least) := by
  induction conns generalizing least with
  | nil => exact within
  | cons conn rest ih =>
      rw [List.foldl_cons]
      apply ih
      · split
        · exact within
        · exact timers conn (by simp)
      · exact fun other member => timers other (by simp [member])

theorem visit_never_selects {s s' : State} {conn : Ptr} {io : VisitAnswers} {events : List Event}
    {flow : Flow} (conntimeout : Int) (outcome : Outcome conn io s s' events flow) :
      ∀ event ∈ events, WaitsInRange conntimeout event := by
  refine outcome_shows outcome (fun _ => trivial) (fun _ => trivial) (fun _ => trivial) ?_
    fun _ => trivial
  intro before
  unfold replyCall
  split <;> trivial

structure TimersInRange (conntimeout : Int) (trace : List Event) (s : State) : Prop where
  sound : Sound s
  cfg : s.cfg.conntimeout = conntimeout
  timers : s.pc ≠ .returned → ∀ conn ∈ s.queue.live, InRange conntimeout (s.conn conn).timeout
  asked : Judged (fun _ event => WaitsInRange conntimeout event) trace

theorem visit_keeps_range {longBits : Nat} {conntimeout : Int} {s s' : State} {io : VisitAnswers}
    {trace events : List Event} (positive : 1 ≤ conntimeout)
    (before : TimersInRange conntimeout trace s)
    (taken : step longBits s (.visit io) = some (s', events)) (after : Sound s') :
      TimersInRange conntimeout (trace ++ events) s' := by
  have placed := before.sound.placed
  unfold Placed at placed
  cases pc : s.pc with
  | serving more curconn =>
      rw [pc] at placed
      obtain ⟨_, conn, listed, rfl⟩ := placed
      have timers := visit_timers before.sound.formed listed pc taken
      refine ⟨after, timers.cfg ▸ before.cfg, ?_, ?_⟩
      · intro _ other remaining
        obtain ⟨old, timeout⟩ := timers.timers other remaining
        rw [timeout]
        split
        · rw [before.cfg]
          exact ⟨positive, Int.le_refl _⟩
        · exact before.timers (by simp [pc]) other old
      · apply judged_append before.asked
        intro _
        exact stale_shows (visit_step_served pc taken).2 (fun _ => trivial)
          (visit_never_selects conntimeout (serve_conn_outcome s conn io))
  | _ => simp [step, pc] at taken

theorem pass_never_selects {longBits : Nat} {s : State} {io : HeadAnswers} {rc : Nat}
    (conntimeout : Int) (formed : WellFormed s.queue)
    (notTty : ∀ conn ∈ s.queue.live, (s.conn conn).state ≠ .tty) :
      ∀ event ∈ (passAfterSelect longBits s io rc).2, WaitsInRange conntimeout event := by
  have passing := pass_after_select_passing longBits s io rc formed notTty
  generalize (passAfterSelect longBits s io rc).1 = s',
    (passAfterSelect longBits s io rc).2 = events at passing ⊢
  intro event member
  cases passing with
  | spared _ opening =>
      exact opening_shows opening (fun _ => trivial) (fun _ => trivial) (fun _ _ => trivial) event
        member
  | purged _ _ =>
      rw [List.mem_singleton.mp member]
      trivial

theorem least_asked {longBits : Nat} {conntimeout : Int} {s s' : State} {io : HeadAnswers}
    {events : List Event} (timed : s.cfg.conntimeout ≠ 0) (stable : Stable s) (head : s.pc = .head)
    (least : InRange conntimeout s.cfg.conntimeout)
    (timers : ∀ conn ∈ s.queue.live, InRange conntimeout (s.conn conn).timeout)
    (taken : step longBits s (.head io) = some (s', events)) :
      ∀ event ∈ events, WaitsInRange conntimeout event := by
  have steps : step longBits s (.head io) = some (headStep longBits s io) := by
    simp only [step, head]
  have asked := least_in_range conntimeout (fun conn => (s.conn conn).timeout) s.queue.live _ least
    timers
  rw [steps, Option.some.injEq, headStep, queue_walk_live s.queue stable.formed] at taken
  dsimp only at taken
  rw [if_neg timed] at taken
  intro event member
  cases selected : io.select with
  | interrupted =>
      rw [selected] at taken
      obtain ⟨_, rfl⟩ := Prod.mk.inj taken
      rw [List.mem_singleton.mp member]
      exact asked
  | failed =>
      rw [selected] at taken
      obtain ⟨_, rfl⟩ := Prod.mk.inj taken
      rw [List.mem_singleton.mp member]
      exact asked
  | ready readable writable =>
      rw [selected] at taken
      obtain ⟨_, rfl⟩ := Prod.mk.inj taken
      rcases List.mem_cons.mp member with first | later
      · rw [first]
        exact asked
      · refine pass_never_selects conntimeout ?_ ?_ event later
        · exact stable.formed
        · exact fun conn listed => never_tty stable conn listed

theorem head_keeps_range {longBits : Nat} {conntimeout : Int} {s s' : State} {io : HeadAnswers}
    {trace events : List Event} (positive : 1 ≤ conntimeout) (bounded : conntimeout < 2 ^ 31)
    (before : TimersInRange conntimeout trace s) (head : s.pc = .head)
    (allowed : TimedSteps longBits s (.head io))
    (taken : step longBits s (.head io) = some (s', events)) (after : Sound s') :
      TimersInRange conntimeout (trace ++ events) s' := by
  have timed : s.cfg.conntimeout ≠ 0 := by
    rw [before.cfg]
    omega
  have stable := before.sound.toStable
  have setting : InRange conntimeout s.cfg.conntimeout := by
    rw [before.cfg]
    exact ⟨positive, Int.le_refl _⟩
  have timers := before.timers (by simp [head])
  have asked : Judged (fun _ event => WaitsInRange conntimeout event) (trace ++ events) :=
    judged_append before.asked fun _ event member =>
      least_asked timed stable head setting timers taken event member
  have joined : ∀ timeout, Joins s s' timeout events →
      (∀ conn ∈ s.queue.live, InRange conntimeout (timeout conn)) →
        ∀ conn ∈ s'.queue.live, InRange conntimeout (s'.conn conn).timeout := by
    intro timeout joins kept conn listed
    rcases joins conn listed with ⟨old, _, same⟩ | ⟨_, reset⟩
    · rw [same]
      exact kept conn old
    · rw [reset]
      exact setting
  cases head_timers timed stable head allowed.1 taken with
  | waited cfg _ _ joins => exact ⟨after, cfg ▸ before.cfg, fun _ => joined _ joins timers, asked⟩
  | early _ cfg _ _ _ joins =>
      exact ⟨after, cfg ▸ before.cfg, fun _ => joined _ joins timers, asked⟩
  | everybody ready cfg _ _ remaining joins =>
      refine ⟨after, cfg ▸ before.cfg, fun _ => joined _ joins ?_, asked⟩
      intro conn listed
      have own := timers conn listed
      have left := remaining conn listed
      have most := own.2
      rw [charge_timeout_in_range _ _ own.1 (by omega) (allowed.2 ready)] at left ⊢
      exact ⟨by omega, by omega⟩
  | purging cfg left _ _ _ =>
      exact ⟨after, cfg ▸ before.cfg, fun running => absurd left running, asked⟩

/-- The run lemma. -/
theorem run_timers_in_range {longBits : Nat} {conntimeout : Int} {initial s : State}
    {trace : List Event} (started : Started initial)
    (setting : initial.cfg.conntimeout = conntimeout)
    (positive : 1 ≤ conntimeout) (bounded : conntimeout < 2 ^ 31)
    (run : Run (step longBits) (TimedSteps longBits) initial trace s) :
      TimersInRange conntimeout trace s := by
  have empty : TimersInRange conntimeout [] initial := by
    refine ⟨started_sound started, setting, ?_, judged_nil _⟩
    intro _ conn listed
    rw [(started_empty started).1] at listed
    simp at listed
  apply run_invariant (TimersInRange conntimeout) empty _ run
  intro trace s answers s' events before allowed taken
  have after := (step_going before.sound allowed.1 taken).1
  cases answers with
  | head io =>
      have head : s.pc = .head := by
        cases pc : s.pc <;> simp [step, pc] at taken ⊢
      exact head_keeps_range positive bounded before head allowed taken after
  | visit io => exact visit_keeps_range positive before taken after

theorem timers_stay_in_range {longBits : Nat} {conntimeout : Int} {initial s : State}
    {trace : List Event} (started : Started initial)
    (setting : initial.cfg.conntimeout = conntimeout)
    (positive : 1 ≤ conntimeout) (bounded : conntimeout ≤ 86400)
    (run : Run (step longBits) (TimedSteps longBits) initial trace s) :
      (s.pc = .head → ∀ conn ∈ s.queue.live, 1 ≤ (s.conn conn).timeout ∧
        (s.conn conn).timeout ≤ conntimeout) ∧
      ∀ nfds rd wr tvSec, .selected nfds rd wr tvSec ∈ trace → 1 ≤ tvSec ∧ tvSec ≤ conntimeout := by
  have range := run_timers_in_range started setting positive (by omega) run
  refine ⟨fun head => range.timers (by simp [head]), ?_⟩
  intro nfds rd wr tvSec member
  obtain ⟨before, after, split⟩ := List.append_of_mem member
  exact range.asked before _ after split

theorem timers_stay_in_range_four_seconds_apart :
    ∃ (s : State) (trace : List Event), (s.queue.live = [1, 2] ∧ (s.conn 1).timeout = 6) ∧
      (∀ conn ∈ s.queue.live, 1 ≤ (s.conn conn).timeout ∧ (s.conn conn).timeout ≤ 10) ∧
      ∀ nfds rd wr tvSec, .selected nfds rd wr tvSec ∈ trace → 1 ≤ tvSec ∧ tvSec ≤ 10 := by
  obtain ⟨s, trace, run, shown⟩ := run_of_replay_view (step 64) (TimedSteps 64)
    (fun reached => (reached.1.pc, reached.1.queue.live, (reached.1.conn 1).timeout))
    [passAfter 0 [4] [] 5 1, visitWith [] 0 [] 0,
      passAfter 4 [4] [] 6 2, visitWith [] 0 [] 0, visitWith [] 0 [] 0]
    (freshDaemon (hexOverTcp 10)) (.head, [1, 2], 6) (by decide +kernel)
  simp only [Prod.mk.injEq] at shown
  have range :=
    timers_stay_in_range (fresh_daemon_started (hexOverTcp 10)) rfl (by decide) (by decide)
    run
  exact ⟨s, trace, shown.2, range.1 shown.1, range.2⟩

end GlRs485.ConnectionTimers
