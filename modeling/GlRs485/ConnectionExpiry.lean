import GlRs485.StepOutcomes

/-!
# The expiry of connections

The walk that charges the elapsed seconds leaves `conn_loop` at the first
connection that has run out. A pass does what an expiry is for exactly when
there is nothing to expire.
-/

namespace GlRs485.ConnectionExpiry

open ConnectionQueue BridgeSettings SocketBridge ServingVisits HeadPasses LoopActions StepOutcomes
open TracedSystem

set_option autoImplicit false

def closedConns (events : List Event) : List Ptr :=
  events.filterMap fun event =>
    match event with
    | .closed conn _ => some conn
    | _ => none

/-- The pass closes the connections that run out and no others, keeps the others
queued in their order with their sockets open, and does not leave `conn_loop`. -/
structure ExpiresCleanly (longBits : Nat) (s : State) (io : HeadAnswers) (s' : State)
    (events : List Event) : Prop where
  closed : closedConns events = s.queue.live.filter (runsOut longBits s io)
  kept : s.queue.live.filter (fun conn => !runsOut longBits s io conn) <+: s'.queue.live
  socketsOpen : ∀ conn ∈ s.queue.live, runsOut longBits s io conn = false →
    (s'.conn conn).sd = (s.conn conn).sd ∧
      ∀ object, s.fds (s.conn conn).sd = some object → s'.fds (s.conn conn).sd = some object
  serving : s'.pc ≠ .returned

theorem opening_adds {s s' : State} {io : OpenAnswers} {events : List Event}
    (opening : Opening s io s' events) (formed : WellFormed s.queue)
    (free : ∀ sd ∈ io.sd, s.fds sd = none) (fresh : ∀ conn ∈ io.block, conn ∉ s.queue.live) :
      closedConns events = [] ∧ s.queue.live <+: s'.queue.live ∧
        (∀ conn ∈ s.queue.live, (s'.conn conn).sd = (s.conn conn).sd) ∧
        (∀ fd object, s.fds fd = some object → s'.fds fd = some object) ∧
        (s'.pc = s.pc ∨ s'.pc = .exited) := by
  have kept : ∀ sd ∈ io.sd, ∀ fd object, s.fds fd = some object → fd ≠ sd := by
    intro sd answer fd object used same
    rw [same, free sd answer] at used
    simp at used
  cases opening with
  | nothing => exact ⟨rfl, List.prefix_rfl, fun _ _ => rfl, fun _ _ used => used, Or.inl rfl⟩
  | @refused sd tcps answer =>
      refine ⟨rfl, List.prefix_rfl, fun _ _ => rfl, fun fd object used => ?_, Or.inl rfl⟩
      have apart := kept sd answer fd object used
      exact (closeAt_other _ _ _ apart).trans ((openAt_other _ _ _ _ apart).trans used)
  | @leaked sd tcps answer =>
      refine ⟨rfl, List.prefix_rfl, fun _ _ => rfl, fun fd object used => ?_, Or.inl rfl⟩
      exact (openAt_other _ _ _ _ (kept sd answer fd object used)).trans used
  | @exited sd tcps answer =>
      refine ⟨rfl, List.prefix_rfl, fun _ _ => rfl, fun fd object used => ?_, Or.inr rfl⟩
      exact (openAt_other _ _ _ _ (kept sd answer fd object used)).trans used
  | @opened sd conn tcps answer block small room =>
      have added := enqueue_opened { s with fds := s.fds.openAt sd .client } conn sd formed
        (fresh conn block)
      refine ⟨rfl, ⟨[conn], added.live.symm⟩, fun other listed => (added.others other listed).sd,
        fun fd object used => ?_, Or.inl rfl⟩
      exact (openAt_other _ _ _ _ (kept sd answer fd object used)).trans used
  | unattached once =>
      exact ⟨rfl, List.prefix_rfl, fun _ _ => rfl, fun _ _ used => used, Or.inr rfl⟩
  | @attached conn once block =>
      have added := enqueue_opened { s with oneTime := false } conn s.serverSd formed
        (fresh conn block)
      exact ⟨rfl, ⟨[conn], added.live.symm⟩, fun other listed => (added.others other listed).sd,
        fun _ _ used => used, Or.inl rfl⟩

theorem spared_expires_cleanly {longBits rc toutSec tout : Nat} {conns : List Ptr}
    {s middle : State} {io : HeadAnswers} {events : List Event}
    (none : ∀ conn ∈ s.queue.live, runsOut longBits s io conn = false)
    (opening : Opening { charged s toutSec conns with tout := tout } io.opening middle events)
    (formed : WellFormed s.queue) (free : ∀ sd ∈ io.opening.sd, s.fds sd = .none)
    (fresh : ∀ conn ∈ io.opening.block, conn ∉ s.queue.live) (head : s.pc = .head) :
      ExpiresCleanly longBits s io (startServing middle rc) events := by
  have timed : WellFormed ({ charged s toutSec conns with tout := tout } : State).queue :=
    charged_well_formed s toutSec conns formed
  obtain ⟨closed, kept, sds, open_, place⟩ := opening_adds opening timed free fresh
  have nobody : s.queue.live.filter (runsOut longBits s io) = [] := by
    rw [List.filter_eq_nil_iff]
    intro conn listed
    simp [none conn listed]
  have everybody : s.queue.live.filter (fun conn => !runsOut longBits s io conn) =
      s.queue.live := by
    rw [List.filter_eq_self]
    intro conn listed
    simp [none conn listed]
  have running : middle.pc ≠ .returned := by
    rcases place with same | exited
    · rw [same.trans head]
      simp
    · rw [exited]
      simp
  constructor
  · rw [closed, nobody]
  · rw [everybody, start_serving_eq]
    exact kept
  · intro conn listed _
    constructor
    · rw [start_serving_eq]
      exact (sds conn listed).trans (charged_sd s toutSec conns conn)
    · intro object used
      rw [start_serving_eq]
      exact open_ _ object used
  · rcases start_serving_place middle rc with same | ⟨more, walks⟩
    · rw [same]
      exact running
    · simp [walks]

theorem passing_expires_cleanly_iff {longBits rc : Nat} {s s' : State} {io : HeadAnswers}
    {events : List Event} (passing : Passing longBits s io rc s' events)
    (formed : WellFormed s.queue)
    (free : ∀ sd ∈ io.opening.sd, s.fds sd = none)
    (fresh : ∀ conn ∈ io.opening.block, conn ∉ s.queue.live) (head : s.pc = .head) :
      ExpiresCleanly longBits s io s' events ↔
        ∀ conn ∈ s.queue.live, runsOut longBits s io conn = false := by
  cases passing with
  | spared none opening =>
      exact iff_of_true (spared_expires_cleanly none opening formed free fresh head) none
  | purged listed out =>
      apply iff_of_false
      · intro clean
        exact clean.serving rfl
      · intro none
        rw [none _ listed] at out
        simp at out

theorem expires_cleanly_iff_nobody_runs_out {longBits : Nat} {initial s s' : State}
    {trace events : List Event} {io : HeadAnswers} {readable writable : Int → Bool}
    (started : Started initial) (run : Run (step longBits) Admissible initial trace s)
    (admissible : Admissible s (.head io)) (selected : io.select = .ready readable writable)
    (taken : step longBits s (.head io) = some (s', events)) :
      ExpiresCleanly longBits s io s' events ↔
        ∀ conn ∈ s.queue.live, runsOut longBits s io conn = false := by
  have sound := run_sound (fun _ _ admitted => admitted) started run
  have head : s.pc = .head := by
    cases pc : s.pc <;> simp [step, pc] at taken ⊢
  obtain ⟨nfds, askedRd, askedWr, tvSec, rd, wr, rc, passes⟩ :=
    head_step_ready longBits s io readable writable sound.formed selected
  have steps : step longBits s (.head io) = some (headStep longBits s io) := by
    simp [step, head]
  rw [steps, passes] at taken
  obtain ⟨sameState, sameEvents⟩ := Prod.mk.inj (Option.some.inj taken)
  rw [← sameState, ← sameEvents]
  have passing := pass_after_select_passing longBits { s with sdsetrd := rd, sdsetwr := wr } io rc
    sound.formed (fun conn listed => never_tty sound.toStable conn listed)
  have clean := passing_expires_cleanly_iff passing sound.formed
    (fun sd answer => (admissible.1 sd answer).2) admissible.2.1 head
  constructor
  · intro expires
    exact clean.mp ⟨expires.closed, expires.kept, expires.socketsOpen, expires.serving⟩
  · intro none
    have expires := clean.mpr none
    exact ⟨expires.closed, expires.kept, expires.socketsOpen, expires.serving⟩

/-- The timeout is ten seconds; the first client has been silent for four when
the second one comes. -/
def silentThenNew : List Answers :=
  [passAfter 0 [4] [] 5 1, visitWith [] 0 [] 0,
    passAfter 4 [4] [] 6 2, visitWith [] 0 [] 0, visitWith [] 0 [] 0]

def beforePass (io : HeadAnswers) (reached : State × List Event) :
    Pc × List Ptr × Bool × List Bool :=
  (reached.1.pc, reached.1.queue.live, decide (Admissible reached.1 (.head io)),
    reached.1.queue.live.map (runsOut 64 reached.1 io))

theorem expires_cleanly_five_seconds_later :
    ∃ s, s.queue.live = [1, 2] ∧
      ExpiresCleanly 64 s (headAfter 5 [] [] 7 3) (headStep 64 s (headAfter 5 [] [] 7 3)).1
        (headStep 64 s (headAfter 5 [] [] 7 3)).2 := by
  obtain ⟨s, trace, run, shown⟩ := run_of_replay_view (step 64) Admissible
    (beforePass (headAfter 5 [] [] 7 3)) silentThenNew (freshDaemon (hexOverTcp 10))
    (.head, [1, 2], true, [false, false]) (by decide +kernel)
  simp only [beforePass, Prod.mk.injEq, decide_eq_true_eq] at shown
  obtain ⟨head, live, admissible, spared⟩ := shown
  have taken : step 64 s (.head (headAfter 5 [] [] 7 3)) =
      some ((headStep 64 s (headAfter 5 [] [] 7 3)).1,
        (headStep 64 s (headAfter 5 [] [] 7 3)).2) := by
    simp [step, head]
  refine ⟨s, live, (expires_cleanly_iff_nobody_runs_out (fresh_daemon_started _) run admissible rfl
    taken).mpr ?_⟩
  rw [live] at spared ⊢
  simpa using spared

theorem expiry_ends_the_service :
    ∃ trace s, Run (step 64) Admissible (freshDaemon (hexOverTcp 10)) trace s ∧
      s.queue.live = [1, 2] ∧ runsOut 64 s (headAfter 6 [] [] 7 3) 2 = false ∧
        Admissible s (.head (headAfter 6 [] [] 7 3)) ∧
          step 64 s (.head (headAfter 6 [] [] 7 3)) = some (headStep 64 s (headAfter 6 [] [] 7 3)) ∧
            ¬ ExpiresCleanly 64 s (headAfter 6 [] [] 7 3) (headStep 64 s (headAfter 6 [] [] 7 3)).1
              (headStep 64 s (headAfter 6 [] [] 7 3)).2 := by
  obtain ⟨s, trace, run, shown⟩ := run_of_replay_view (step 64) Admissible
    (fun reached => (beforePass (headAfter 6 [] [] 7 3) reached,
      (headStep 64 reached.1 (headAfter 6 [] [] 7 3)).1.pc))
    silentThenNew (freshDaemon (hexOverTcp 10)) ((.head, [1, 2], true, [true, false]), .returned)
    (by decide +kernel)
  simp only [beforePass, Prod.mk.injEq, decide_eq_true_eq] at shown
  obtain ⟨⟨head, live, admissible, spared⟩, returned⟩ := shown
  rw [live] at spared
  refine ⟨trace, s, run, live, ?_, admissible, by simp [step, head], fun clean => ?_⟩
  · have both : runsOut 64 s (headAfter 6 [] [] 7 3) 1 = true ∧
        runsOut 64 s (headAfter 6 [] [] 7 3) 2 = false := by
      simpa using spared
    exact both.2
  · exact clean.serving returned

end GlRs485.ConnectionExpiry
