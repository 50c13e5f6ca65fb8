import GlRs485.ClientSockets

/-!
# The limits of the TCP server

The limit on connections is tested by equality before one is queued, so it
rests on the count never passing it. Every descriptor in the queue fits into the
sets of `select`.
-/

namespace GlRs485.ConnectionLimits

open ConnectionQueue BridgeSettings SocketBridge ServingVisits HeadPasses LoopActions StepOutcomes
open ClientSockets TracedSystem

set_option autoImplicit false

def FitsFdSet (fd : Int) : Prop := 0 ≤ fd ∧ fd < fdSetsize

/-- Beside the listener `select` is asked about descriptors that fit only. -/
def SetsFit (serverSd : Int) : Event → Prop
  | .selected _ rd wr _ => ∀ fd ∈ rd ++ wr, fd = serverSd ∨ FitsFdSet fd
  | _ => True

structure WithinLimits (initial : State) (trace : List Event) (s : State) : Prop where
  counted : s.queue.len = s.queue.live.length
  limited : (s.queue.len : Int) ≤ initial.cfg.maxconn
  fits : ∀ conn ∈ s.queue.live, FitsFdSet (s.conn conn).sd
  sets : ∀ event ∈ trace, SetsFit initial.serverSd event

/-- The limits of the queue, on the descriptors it holds. -/
structure Limited (maxconn : Int) (table : Sockets) : Prop where
  limited : (table.queued.length : Int) ≤ maxconn
  fits : ∀ sd ∈ table.queued, FitsFdSet sd

theorem change_limited {maxconn ttyFd : Int} {leaks givesAway : Prop} {table table' : Sockets}
    (change : Change maxconn ttyFd leaks givesAway table table') (before : Limited maxconn table) :
      Limited maxconn table' := by
  obtain ⟨limited, fits⟩ := before
  cases change with
  | refused _ => exact ⟨limited, fits⟩
  | leaked _ _ => exact ⟨limited, fits⟩
  | gaveUp _ => exact ⟨limited, fits⟩
  | queued _ valid small room =>
      constructor
      · -- at most the limit and not equal to it leaves room for one more
        simp only [List.length_append, List.length_singleton]
        omega
      · intro fd member
        rcases List.mem_append.mp member with earlier | new
        · exact fits fd earlier
        · rw [List.mem_singleton.mp new]
          exact ⟨valid, small⟩
  | @closed front back sd fds =>
      constructor
      · simp only [List.length_append, List.length_cons] at limited ⊢
        omega
      · intro fd member
        apply fits fd
        simp only [List.mem_append, List.mem_cons] at member ⊢
        tauto

theorem changes_limited {maxconn ttyFd : Int} {leaks givesAway : Prop} {table table' : Sockets}
    (changes : Changes maxconn ttyFd leaks givesAway table table')
    (before : Limited maxconn table) : Limited maxconn table' := by
  induction changes with
  | refl => exact before
  | tail _ change ih => exact change_limited change ih

theorem asked_sets_fit {s : State} (fits : ∀ conn ∈ s.queue.live, FitsFdSet (s.conn conn).sd) :
    ∀ fd ∈ askedToRead s ++ askedToWrite s, fd = s.serverSd ∨ FitsFdSet fd := by
  intro fd member
  simp only [askedToRead, askedToWrite, List.mem_append, List.mem_cons, List.mem_map,
    List.mem_filter] at member
  rcases member with (listener | ⟨conn, ⟨listed, _⟩, rfl⟩) | ⟨conn, ⟨listed, _⟩, rfl⟩
  · exact Or.inl listener
  · exact Or.inr (fits conn listed)
  · exact Or.inr (fits conn listed)

theorem step_sets_fit {longBits : Nat} {s s' : State} {answers : Answers} {events : List Event}
    (outcome : StepOutcome longBits s s' events answers)
    (fits : ∀ conn ∈ s.queue.live, FitsFdSet (s.conn conn).sd) :
      ∀ event ∈ events, SetsFit s.serverSd event := by
  have asked := asked_sets_fit fits
  intro event member
  cases outcome with
  | @visit io more conn outcome =>
      refine stale_shows outcome.shown (fun _ => trivial) ?_ event member
      refine outcome_shows (serve_conn_outcome s conn io) (fun _ => trivial) (fun _ => trivial)
        (fun _ => trivial) ?_ fun _ => trivial
      intro before
      unfold replyCall
      split <;> trivial
  | head _ outcome =>
      exact head_shows outcome (fun _ _ => asked) (fun _ => trivial) (fun _ => trivial)
        (fun _ _ => trivial) (fun _ _ => trivial) event member

theorem connection_limits_hold {longBits : Nat} {initial s : State} {trace : List Event}
    (started : Started initial) (tcps : initial.cfg.isTcps = true)
    (positive : 1 ≤ initial.cfg.maxconn)
    (run : Run (step longBits) Admissible initial trace s) : WithinLimits initial trace s := by
  have empty : (sockets initial).queued = [] := by
    unfold sockets
    rw [(started_empty started).1]
    rfl
  have held := run_invariant
    (fun trace s => Sound s ∧ Fixed initial s ∧ Limited initial.cfg.maxconn (sockets s) ∧
      ∀ event ∈ trace, SetsFit initial.serverSd event)
    ⟨started_sound started, ⟨rfl, rfl, rfl⟩,
      ⟨by rw [empty]; simp only [List.length_nil]; omega, by simp [empty]⟩, by simp⟩
    (by
      intro trace s answers s' events ⟨sound, fixed, limited, sets⟩ admissible taken
      have outcome := step_outcome sound taken
      have next := step_fixed outcome
      have changes := step_changes sound (fixed.cfg ▸ tcps) admissible taken
      rw [fixed.cfg] at changes
      have fits : ∀ conn ∈ s.queue.live, FitsFdSet (s.conn conn).sd :=
        fun conn listed => limited.fits _ (List.mem_map_of_mem listed)
      have setsNow := step_sets_fit outcome fits
      rw [fixed.serverSd] at setsNow
      refine ⟨(step_going sound admissible taken).1,
        ⟨next.cfg.trans fixed.cfg, next.serverSd.trans fixed.serverSd,
          next.ttyFd.trans fixed.ttyFd⟩, changes_limited changes limited, ?_⟩
      intro event member
      exact (List.mem_append.mp member).elim (sets event) (setsNow event))
    run
  obtain ⟨sound, _, limited, sets⟩ := held
  have counted := sound.formed.counted
  refine ⟨counted, ?_, fun conn listed => limited.fits _ (List.mem_map_of_mem listed), sets⟩
  have length : (sockets s).queued.length = s.queue.len := by
    rw [counted]
    exact List.length_map _
  rw [← length]
  exact limited.limited

def twoClientsForOnePlace : List Answers :=
  [passWith [4] [] 5 1, visitWith [] 0 [] 0,
    passWith [4] [] 6 2, visitWith [] 0 [] 0,
    passWith [5] [] 7 2, visitWith [] 0 [] 0,
    passWith [4] [] 1023 2, visitWith [] 0 [] 0]

theorem connection_limits_hold_for_one_place :
    ∃ trace s, (Event.dropped 6 ∈ trace ∧ (sockets s).queued = [1023]) ∧
      WithinLimits (freshDaemon ⟨0, 1, 0, 0, CBytes.ascii "hex", CBytes.ascii "tcps"⟩) trace s := by
  obtain ⟨final, trace, run, shown⟩ := run_of_replay_view (step 64) Admissible
    (fun reached => (decide (Event.dropped 6 ∈ reached.2), (sockets reached.1).queued))
    twoClientsForOnePlace (freshDaemon ⟨0, 1, 0, 0, CBytes.ascii "hex", CBytes.ascii "tcps"⟩)
    (true, [1023]) (by decide +kernel)
  obtain ⟨dropped, queued⟩ := Prod.mk.inj shown
  exact ⟨trace, final, ⟨of_decide_eq_true dropped, queued⟩,
    connection_limits_hold (fresh_daemon_started _) (by decide) (by decide) run⟩

end GlRs485.ConnectionLimits
