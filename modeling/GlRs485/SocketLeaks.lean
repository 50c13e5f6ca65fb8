import GlRs485.ClientSockets

/-!
# Who owns a client's socket

A socket that `accept` gave is closed or handed to one connection, except where
its buffer sizes are refused. A queued connection keeps its socket until it is
closed, unless `tty_write` gives up the lock of a port that is no longer its own.
-/

namespace GlRs485.SocketLeaks

open ConnectionQueue BridgeSettings SocketBridge LoopActions StepOutcomes ClientSockets
open TracedSystem

set_option autoImplicit false

/-- Every open socket of a client belongs to exactly one queued connection, and
every queued connection's socket is open. -/
structure ClientsOwned (s : State) : Prop where
  owned : ∀ sd, s.fds sd = some .client → ∃! conn, conn ∈ s.queue.live ∧ (s.conn conn).sd = sd
  held : ∀ conn ∈ s.queue.live, s.fds (s.conn conn).sd = some .client

structure Owned (table : Sockets) : Prop where
  once : table.queued.Nodup
  client : ∀ sd, table.fds sd = some .client ↔ sd ∈ table.queued

theorem free_not_queued {table : Sockets} {sd : Int} (owned : Owned table)
    (free : table.fds sd = none) : sd ∉ table.queued := by
  intro member
  rw [(owned.client sd).mpr member] at free
  simp at free

theorem change_owned {maxconn ttyFd : Int} {leaks givesAway : Prop} {table table' : Sockets}
    (change : Change maxconn ttyFd leaks givesAway table table') (kept : ¬leaks)
    (own : ¬givesAway) (before : Owned table) : Owned table' := by
  have fresh := fun sd (free : table.fds sd = none) => free_not_queued before free
  obtain ⟨once, client⟩ := before
  cases change with
  | @refused _ sd free =>
      refine ⟨once, ?_⟩
      intro other
      dsimp only
      rw [closed_is_iff, opened_is_iff, client other]
      constructor
      · rintro ⟨apart, opened | queued⟩
        · exact absurd opened apart
        · exact queued
      · intro queued
        exact ⟨fun same => fresh sd free (same ▸ queued), Or.inr queued⟩
  | leaked _ leak => exact absurd leak kept
  | @queued _ sd free _ _ _ =>
      refine ⟨List.nodup_append.mpr ⟨once, List.nodup_singleton sd, ?_⟩, ?_⟩
      · intro fd member other new same
        exact fresh sd free (List.mem_singleton.mp new ▸ same ▸ member)
      · intro other
        dsimp only
        rw [opened_is_iff, client other, List.mem_append, List.mem_singleton, or_comm]
  | @closed front back sd fds =>
      have distinct := List.nodup_middle.mp once
      have gone := (List.nodup_cons.mp distinct).1
      refine ⟨(List.nodup_cons.mp distinct).2, ?_⟩
      intro other
      dsimp only at client ⊢
      rw [closed_is_iff, client other]
      constructor
      · rintro ⟨apart, queued⟩
        simpa [apart] using queued
      · intro queued
        refine ⟨fun same => gone (same ▸ queued), ?_⟩
        rw [List.mem_append] at queued ⊢
        exact queued.imp_right (List.mem_cons_of_mem sd)
  | gaveUp wrong =>
      refine ⟨once, ?_⟩
      intro other
      dsimp only
      rw [closed_is_iff, client other]
      -- the number in `tty.fd` is no client's, so the table loses none
      apply and_iff_right_of_imp
      intro queued same
      exact own (wrong (same ▸ (client other).mpr queued))

theorem changes_owned {maxconn ttyFd : Int} {leaks givesAway : Prop} {table table' : Sockets}
    (changes : Changes maxconn ttyFd leaks givesAway table table') (kept : ¬leaks)
    (own : ¬givesAway) (before : Owned table) : Owned table' := by
  induction changes with
  | refl => exact before
  | tail _ change ih => exact change_owned change kept own ih

theorem owned_clients {s : State} (owned : Owned (sockets s)) : ClientsOwned s := by
  constructor
  · intro sd client
    obtain ⟨conn, listed, same⟩ := List.mem_map.mp ((owned.client sd).mp client)
    refine ⟨conn, ⟨listed, same⟩, ?_⟩
    rintro other ⟨otherListed, otherSame⟩
    exact List.inj_on_of_nodup_map owned.once otherListed listed (otherSame.trans same.symm)
  · intro conn listed
    exact (owned.client _).mpr (List.mem_map_of_mem listed)

/-- The steps in which no accepted socket is left without an owner and no lock
is given up that closes a client's socket. -/
def KeepsSockets (s : State) (answers : Answers) : Prop :=
  Admissible s answers ∧ ¬Leaks s answers ∧ ¬GivesAway s answers

instance (s : State) (answers : Answers) : Decidable (KeepsSockets s answers) :=
  inferInstanceAs (Decidable (_ ∧ _ ∧ _))

theorem client_sockets_stay_owned {longBits : Nat} {initial s : State} {trace : List Event}
    (started : Started initial) (tcps : initial.cfg.isTcps = true)
    (unaccepted : ∀ sd, initial.fds sd ≠ some .client)
    (run : Run (step longBits) KeepsSockets initial trace s) (running : s.pc ≠ .exited) :
      ClientsOwned s := by
  have empty : (sockets initial).queued = [] := by
    unfold sockets
    rw [(started_empty started).1]
    rfl
  have fresh : Owned (sockets initial) := by
    refine ⟨by simp [empty], ?_⟩
    intro sd
    rw [empty]
    exact iff_of_false (unaccepted sd) (List.not_mem_nil)
  have held := run_invariant
    (fun _ s => Sound s ∧ Fixed initial s ∧ (s.pc ≠ .exited → Owned (sockets s)))
    ⟨started_sound started, ⟨rfl, rfl, rfl⟩, fun _ => fresh⟩
    (by
      intro trace s answers s' events ⟨sound, fixed, owned⟩ ⟨admissible, kept, own⟩ taken
      have next := step_fixed (step_outcome sound taken)
      refine ⟨(step_going sound admissible taken).1,
        ⟨next.cfg.trans fixed.cfg, next.serverSd.trans fixed.serverSd,
          next.ttyFd.trans fixed.ttyFd⟩, ?_⟩
      intro running
      have before : s.pc ≠ .exited := by
        intro exited
        simp [step, exited] at taken
      have changes := step_changes sound (fixed.cfg ▸ tcps) admissible taken
      exact changes_owned changes (by simp [kept, running]) own (owned before))
    run
  exact owned_clients (held.2.2 running)

theorem fresh_daemon_unaccepted (cfg : Cfg) (sd : Int) :
    (freshDaemon cfg).fds sd ≠ some .client := by
  simp only [freshDaemon, initialState, freshInit, FdTable.openAt]
  repeat' split
  all_goals simp

def clientsComeAndGo : List Answers :=
  [passWith [4] [] 5 1, visitWith [] 0 [] 0,
    passWith [4] [] 6 2, visitWith [] 0 [] 0, visitWith [] 0 [] 0,
    passWith [5] [] 7 3, visitWith [] 0 [] 0, visitWith [] 0 [] 0,
    passWith [4] [] 5 1, visitWith [] 0 [] 0, visitWith [] 0 [] 0]

theorem client_sockets_stay_owned_as_clients_come_and_go :
    ∃ s, (sockets s).queued = [6, 5] ∧ ClientsOwned s := by
  obtain ⟨final, trace, run, shown⟩ := run_of_replay_view (step 64) KeepsSockets
    (fun reached => ((sockets reached.1).queued, decide (reached.1.pc = .exited)))
    clientsComeAndGo (freshDaemon (hexOverTcp 0)) ([6, 5], false) (by decide +kernel)
  obtain ⟨queued, running⟩ := Prod.mk.inj shown
  exact ⟨final, queued, client_sockets_stay_owned (fresh_daemon_started _) (by decide)
    (fresh_daemon_unaccepted _) run (of_decide_eq_false running)⟩

def sizesRefused : List Answers :=
  [.head { headAfter 0 [4] [] 5 1 with opening := ⟨some 5, true, false, some 1⟩ }]

theorem refused_sizes_leak_the_socket :
    ∃ trace s, Run (step 64) Admissible (freshDaemon (hexOverTcp 0)) trace s ∧
      s.pc = .head ∧ s.queue.live = [] ∧ .accepted 5 ∈ trace ∧ s.fds 5 = some .client ∧
        ¬ClientsOwned s := by
  obtain ⟨final, trace, run, shown⟩ := run_of_replay_view (step 64) Admissible
    (fun reached => (reached.1.pc, reached.1.queue.live, decide (Event.accepted 5 ∈ reached.2),
      reached.1.fds 5))
    sizesRefused (freshDaemon (hexOverTcp 0)) (.head, [], true, some .client) (by decide +kernel)
  simp only [Prod.mk.injEq] at shown
  obtain ⟨head, empty, accepted, client⟩ := shown
  refine ⟨trace, final, run, head, empty, of_decide_eq_true accepted, client, ?_⟩
  intro owned
  obtain ⟨conn, ⟨listed, _⟩, _⟩ := owned.owned 5 client
  rw [empty] at listed
  simp at listed

end GlRs485.SocketLeaks
