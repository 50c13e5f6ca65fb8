import GlRs485.StepOutcomes
import Mathlib.Logic.Relation

/-!
# The sockets of the TCP server

All that matters of the daemon here is which descriptors its queue holds, in
order, and the descriptor table. A step is a sequence of a few changes of these
two; the limits of the server and the ownership of its sockets are invariants of
the changes.
-/

namespace GlRs485.ClientSockets

open ConnectionQueue BridgeSettings SocketBridge ServingVisits HeadPasses LoopActions StepOutcomes
open LinkedChain
open Relation (ReflTransGen)

set_option autoImplicit false

structure Sockets where
  queued : List Int
  fds : FdTable

def sockets (s : State) : Sockets := ⟨s.queue.live.map fun conn => (s.conn conn).sd, s.fds⟩

/-- A descriptor that is accepted is turned away, queued or, where `leaks`, left
open without an owner; a queued one is closed. The close of a lock that is given
up hits a client's socket only where `givesAway`. -/
inductive Change (maxconn ttyFd : Int) (leaks givesAway : Prop) : Sockets → Sockets → Prop
  | refused {table : Sockets} {sd : Int} (free : table.fds sd = none) :
      Change maxconn ttyFd leaks givesAway table
        { table with fds := (table.fds.openAt sd .client).closeAt sd }
  | queued {table : Sockets} {sd : Int} (free : table.fds sd = none) (valid : 0 ≤ sd)
      (small : sd < fdSetsize) (room : (table.queued.length : Int) ≠ maxconn) :
      Change maxconn ttyFd leaks givesAway table
        ⟨table.queued ++ [sd], table.fds.openAt sd .client⟩
  | leaked {table : Sockets} {sd : Int} (free : table.fds sd = none) (leak : leaks) :
      Change maxconn ttyFd leaks givesAway table { table with fds := table.fds.openAt sd .client }
  | closed {front back : List Int} {sd : Int} {fds : FdTable} :
      Change maxconn ttyFd leaks givesAway ⟨front ++ sd :: back, fds⟩
        ⟨front ++ back, fds.closeAt sd⟩
  | gaveUp {table : Sockets} (wrong : table.fds ttyFd = some .client → givesAway) :
      Change maxconn ttyFd leaks givesAway table { table with fds := table.fds.closeAt ttyFd }

abbrev Changes (maxconn ttyFd : Int) (leaks givesAway : Prop) : Sockets → Sockets → Prop :=
  ReflTransGen (Change maxconn ttyFd leaks givesAway)

variable {maxconn ttyFd : Int} {leaks givesAway : Prop}

theorem sockets_frame {s s' : State} {conn : Ptr} (frame : Frame conn s s') :
    sockets s' = ⟨(sockets s).queued, s'.fds⟩ := by
  unfold sockets
  rw [frame.live]
  simp only [frame.sdEq]

theorem close_change (s : State) (conn : Ptr) (scrap : Conn) (formed : WellFormed s.queue)
    (listed : conn ∈ s.queue.live) :
      Change maxconn ttyFd leaks givesAway (sockets s) (sockets (connClose s conn scrap).1) := by
  obtain ⟨front, back, split⟩ := List.append_of_mem listed
  have distinct := formed.linked.distinct
  rw [split] at distinct
  have gone := conn_close_closed s conn scrap formed listed
  have live : (connClose s conn scrap).1.queue.live = front ++ back := by
    rw [gone.live, split, erase_middle distinct]
  have sds : ∀ other ∈ front ++ back,
      ((connClose s conn scrap).1.conn other).sd = (s.conn other).sd := by
    intro other member
    exact (gone.remaining formed (live ▸ member)).2.sd
  have before : sockets s = ⟨(front.map fun conn => (s.conn conn).sd) ++ (s.conn conn).sd ::
      back.map fun conn => (s.conn conn).sd, s.fds⟩ := by
    unfold sockets
    rw [split, List.map_append, List.map_cons]
  have after : sockets (connClose s conn scrap).1 = ⟨(front.map fun conn => (s.conn conn).sd) ++
      back.map fun conn => (s.conn conn).sd, s.fds.closeAt (s.conn conn).sd⟩ := by
    unfold sockets
    rw [live, gone.fds, List.map_congr_left sds, List.map_append]
  rw [before, after]
  exact .closed

def Unowned (io : OpenAnswers) : Prop :=
  io.sd ≠ none ∧ io.blkmode = true ∧ io.sockopt = false

theorem enqueue_sockets (s : State) (conn : Ptr) (sd : Int) (formed : WellFormed s.queue)
    (fresh : conn ∉ s.queue.live) :
      sockets (enqueue s sd (some conn)).1 = ⟨(sockets s).queued ++ [sd], s.fds⟩ := by
  have added := enqueue_opened s conn sd formed fresh
  have fds : (enqueue s sd (some conn)).1.fds = s.fds := rfl
  have kept : ∀ other ∈ s.queue.live,
      ((enqueue s sd (some conn)).1.conn other).sd = (s.conn other).sd :=
    fun other listed => (added.others other listed).sd
  unfold sockets
  rw [added.live, fds, List.map_append, List.map_congr_left kept, List.map_singleton, added.sd]

theorem conn_open_changes (s : State) (io : OpenAnswers) (tcps : s.cfg.isTcps = true)
    (formed : WellFormed s.queue) (free : ∀ sd ∈ io.sd, 0 ≤ sd ∧ s.fds sd = none)
    (fresh : ∀ conn ∈ io.block, conn ∉ s.queue.live)
    (leak : Unowned io ∨ (connOpen s io).1.pc = .exited → leaks) :
      Changes s.cfg.maxconn ttyFd leaks givesAway (sockets s) (sockets (connOpen s io).1) := by
  have length : (sockets s).queued.length = s.queue.len := by
    rw [formed.counted]
    exact List.length_map _
  unfold connOpen at leak ⊢
  rw [if_pos tcps] at leak ⊢
  cases answer : io.sd with
  | none => exact .refl
  | some sd =>
      obtain ⟨valid, unused⟩ := free sd answer
      rw [answer] at leak
      dsimp only at leak ⊢
      by_cases blkmode : io.blkmode = true
      · rw [blkmode, Bool.not_true, if_neg (by decide)] at leak ⊢
        by_cases sockopt : io.sockopt = true
        · rw [sockopt, Bool.not_true, if_neg (by decide)] at leak ⊢
          by_cases large : fdSetsize ≤ sd
          · rw [if_pos large]
            exact .single (.refused unused)
          · rw [if_neg large] at leak ⊢
            by_cases full : (s.queue.len : Int) = s.cfg.maxconn
            · rw [if_pos full]
              exact .single (.refused unused)
            · rw [if_neg full] at leak ⊢
              cases block : io.block with
              | none =>
                  rw [block] at leak
                  exact .single (.leaked unused (leak (Or.inr rfl)))
              | some conn =>
                  have queued := enqueue_sockets { s with fds := s.fds.openAt sd .client } conn sd
                    formed (fresh conn block)
                  dsimp only
                  rw [queued]
                  exact .single (.queued unused valid (by omega) (by rw [length]; exact full))
        · rw [Bool.not_eq_true] at sockopt
          rw [sockopt]
          exact .single (.leaked unused
            (leak (Or.inl ⟨by simp [answer], blkmode, sockopt⟩)))
      · rw [Bool.not_eq_true] at blkmode
        rw [blkmode]
        exact .single (.refused unused)

theorem accept_pending_changes (s : State) (io : OpenAnswers) (tcps : s.cfg.isTcps = true)
    (formed : WellFormed s.queue) (free : ∀ sd ∈ io.sd, 0 ≤ sd ∧ s.fds sd = none)
    (fresh : ∀ conn ∈ io.block, conn ∉ s.queue.live)
    (leak : (s.serverSd ∈ s.sdsetrd ∧ Unowned io) ∨ (acceptPending s io).1.pc = .exited →
      leaks) :
      Changes s.cfg.maxconn ttyFd leaks givesAway (sockets s) (sockets (acceptPending s io).1) := by
  unfold acceptPending at leak ⊢
  by_cases pending : s.serverSd ∈ s.sdsetrd
  · rw [if_pos pending] at leak ⊢
    apply conn_open_changes s io tcps formed free fresh
    rintro (unowned | exited)
    · exact leak (Or.inl ⟨pending, unowned⟩)
    · exact leak (Or.inr exited)
  · rw [if_neg pending]

def acceptsPending (s : State) (io : HeadAnswers) : Bool :=
  match io.select with
  | .ready readable _ => readable s.serverSd
  | _ => false

/-- The step takes a descriptor from `accept` and leaves it open without an owner. -/
def Leaks (s : State) : Answers → Prop
  | .head io => acceptsPending s io = true ∧ Unowned io.opening
  | .visit _ => False

/-- The step gives up the lock of a port whose number is a client's by now. -/
def GivesAway (s : State) : Answers → Prop
  | .head _ => False
  | .visit io => (curconn s).any (readsRequest s · io) = true ∧ 30 < io.lockFails ∧
      s.fds s.tty.fd = some .client

instance (io : OpenAnswers) : Decidable (Unowned io) := inferInstanceAs (Decidable (_ ∧ _ ∧ _))

instance (s : State) : (answers : Answers) → Decidable (Leaks s answers)
  | .head _ => inferInstanceAs (Decidable (_ ∧ _))
  | .visit _ => isFalse not_false

instance (s : State) : (answers : Answers) → Decidable (GivesAway s answers)
  | .head _ => isFalse not_false
  | .visit _ => inferInstanceAs (Decidable (_ ∧ _ ∧ _))

theorem served_changes {s s' : State} {conn : Ptr} {io : VisitAnswers} {flow : Flow}
    (served : Served s conn io s' flow) (formed : WellFormed s.queue)
    (listed : conn ∈ s.queue.live)
    (away : readsRequest s conn io = true → 30 < io.lockFails → s.fds s.tty.fd = some .client →
      givesAway) :
      Changes maxconn s.tty.fd leaks givesAway (sockets s) (sockets s') := by
  have framed : ∀ {middle : State}, Frame conn s middle → FdsAfterServing s middle conn io →
      Changes maxconn s.tty.fd leaks givesAway (sockets s) (sockets middle) := by
    intro middle frame fds
    rw [sockets_frame frame]
    rcases fds with same | ⟨refused, reads, closed⟩
    · rw [same]
      exact .refl
    · rw [closed]
      exact .single (.gaveUp fun client => away reads refused client)
  cases served with
  | kept frame fds _ => exact framed frame fds
  | closed frame fds =>
      exact .tail (framed frame fds)
        (close_change _ conn io.scrap (frame.wellFormed formed) (frame.live ▸ listed))

theorem after_expiry_sockets (s : State) (readable writable : Int → Bool) (toutSec : Nat)
    (conns : List Ptr) (tout : Nat) :
      sockets (afterExpiry s readable writable toutSec conns tout) = sockets s :=
  congrArg (Sockets.mk · s.fds) (List.map_congr_left fun conn _ =>
    charged_sd (afterSelect s readable writable) toutSec conns conn)

theorem start_serving_exited (s : State) (rc : Nat) (exited : s.pc = .exited) :
    startServing s rc = s := by
  rw [startServing, if_pos (Or.inl exited)]

/-- The refinement: a step of the TCP server is a sequence of changes. -/
theorem step_changes {longBits : Nat} {s s' : State} {answers : Answers} {events : List Event}
    (sound : Sound s) (tcps : s.cfg.isTcps = true) (admissible : Admissible s answers)
    (taken : step longBits s answers = some (s', events)) :
      Changes s.cfg.maxconn s.tty.fd (Leaks s answers ∨ s'.pc = .exited) (GivesAway s answers)
        (sockets s) (sockets s') := by
  cases step_outcome sound taken with
  | @visit io more conn outcome =>
      have sameSockets : sockets s' = sockets (serveConn s conn io).1 := by
        rw [outcome.after]
        rfl
      rw [sameSockets]
      apply served_changes (serve_conn_served s conn io) sound.formed outcome.listed
      intro reads refused client
      exact ⟨by simpa [curconn, outcome.pc] using reads, refused, client⟩
  | @head io head outcome =>
      cases outcome with
      | waited place unready => exact .refl
      | @purged nfds tvSec readable writable toutSec tout conns conn selected listed out =>
          apply ReflTransGen.single
          rw [← after_expiry_sockets s readable writable toutSec conns tout]
          exact close_change _ conn io.scrap (charged_well_formed _ _ _ sound.formed) listed
      | @spared nfds tvSec readable writable toutSec tout rc conns selected =>
          let timed := afterExpiry s readable writable toutSec conns tout
          have begun : sockets (startServing (acceptPending timed io.opening).1 rc) =
              sockets (acceptPending timed io.opening).1 := by
            rw [start_serving_eq]
            rfl
          rw [begun, ← after_expiry_sockets s readable writable toutSec conns tout]
          apply accept_pending_changes timed io.opening tcps
            (charged_well_formed _ _ _ sound.formed) admissible.1 admissible.2.1
          rintro (⟨pending, unowned⟩ | exited)
          · have reported : acceptsPending s io = true := by
              rw [acceptsPending, selected]
              exact (List.mem_filter.mp pending).2
            exact Or.inl ⟨reported, unowned⟩
          · exact Or.inr ((congrArg State.pc (start_serving_exited _ rc exited)).trans exited)

end GlRs485.ClientSockets
