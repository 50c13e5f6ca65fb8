import GlRs485.PortLoss
import GlRs485.ServerStart
import GlRs485.StepOutcomes

/-!
# The server socket from its start on

`conn_loop` never asks whether its server socket is still there. Only the close of an element
that shares its descriptor takes it away, and over `tcps` no element ever does: an accepted
descriptor was free, and the socket's is not while it is open.
-/

namespace GlRs485.ServerSocket

open CBytes ConnectionQueue BridgeSettings HexCodec SerialLine SocketBridge ServingVisits
open HeadPasses LoopActions StepOutcomes SerialOwnership PortLoss ServerStart TracedSystem

set_option autoImplicit false

def SocketClosed (initial : State) (trace : List Event) : Prop :=
  ∃ conn, .closed conn initial.serverSd ∈ trace

def SocketShared (initial : State) (trace : List Event) : Prop :=
  ∃ conn, .opened conn initial.serverSd ∈ trace

def Listening (s : State) : Prop := s.fds s.serverSd = some .listener

/-- The socket listens until an element with its descriptor is closed, and there is none
unless one was opened so. -/
structure ListensUntilClosed (initial : State) (trace : List Event) (s : State) : Prop where
  fixed : Fixed initial s
  apart : s.tty.fd ≠ s.serverSd
  listening : Listening s ↔ ¬SocketClosed initial trace
  closed : SocketClosed initial trace → SocketShared initial trace
  clients : ¬SocketShared initial trace → ∀ conn ∈ s.queue.live, (s.conn conn).sd ≠ s.serverSd

theorem listening_congr {s s' : State} (fixed : Fixed s s')
    (fds : s'.fds s.serverSd = s.fds s.serverSd) : Listening s' ↔ Listening s := by
  rw [Listening, Listening, fixed.serverSd, fds]

theorem listening_accepted {s s' : State} {sd : Int} (free : s.fds sd = none)
    (fixed : Fixed s s') (fds : s'.fds sd ≠ some .listener)
    (others : ∀ other, other ≠ sd → s'.fds other = s.fds other) : Listening s' ↔ Listening s := by
  by_cases same : s.serverSd = sd
  · rw [Listening, Listening, fixed.serverSd, same, free]
    simp [fds]
  · exact listening_congr fixed (others _ same)

theorem listens_kept {initial s s' : State} {trace events : List Event}
    (before : ListensUntilClosed initial trace s) (fixed : Fixed s s')
    (listening : Listening s' ↔ Listening s) (unclosed : ¬SocketClosed initial events)
    (clients : ¬SocketShared initial (trace ++ events) →
      ∀ conn ∈ s'.queue.live, (s'.conn conn).sd ≠ s.serverSd) :
      ListensUntilClosed initial (trace ++ events) s' := by
  have same : SocketClosed initial (trace ++ events) ↔ SocketClosed initial trace := by
    simp only [SocketClosed, not_exists] at unclosed ⊢
    simp [unclosed]
  refine ⟨⟨fixed.cfg.trans before.fixed.cfg, fixed.serverSd.trans before.fixed.serverSd,
    fixed.ttyFd.trans before.fixed.ttyFd⟩, ?_, ?_, ?_, ?_⟩
  · rw [fixed.ttyFd, fixed.serverSd]
    exact before.apart
  · rw [same, listening, before.listening]
  · intro closed
    obtain ⟨conn, opened⟩ := before.closed (same.mp closed)
    exact ⟨conn, List.mem_append_left _ opened⟩
  · rw [fixed.serverSd]
    exact clients

theorem unshared_before {initial : State} {trace events : List Event}
    (unshared : ¬SocketShared initial (trace ++ events)) : ¬SocketShared initial trace :=
  fun ⟨conn, opened⟩ => unshared ⟨conn, List.mem_append_left _ opened⟩

theorem listens_unqueued {initial s : State} {trace events : List Event} {sd : Int}
    {fds : FdTable} (before : ListensUntilClosed initial trace s) (free : s.fds sd = none)
    (accepted : fds sd ≠ some .listener) (others : ∀ other, other ≠ sd → fds other = s.fds other)
    (unclosed : ¬SocketClosed initial events) :
      ListensUntilClosed initial (trace ++ events) { s with fds := fds } :=
  listens_kept before ⟨rfl, rfl, rfl⟩ (listening_accepted free ⟨rfl, rfl, rfl⟩ accepted others)
    unclosed fun unshared => before.clients (unshared_before unshared)

theorem listens_closed {initial s s' : State} {trace events : List Event} {conn : Ptr}
    (stable : Stable s) (before : ListensUntilClosed initial trace s) (fixed : Fixed s s')
    (listed : conn ∈ s.queue.live) (gone : Closed s s' conn)
    (shown : ∀ other sd, .closed other sd ∈ events ↔ other = conn ∧ sd = (s.conn conn).sd) :
      ListensUntilClosed initial (trace ++ events) s' := by
  have remaining : ¬SocketShared initial (trace ++ events) →
      ∀ other ∈ s'.queue.live, (s'.conn other).sd ≠ s.serverSd := by
    intro unshared other left
    obtain ⟨listedBefore, content⟩ := gone.remaining stable.formed left
    rw [content.sd]
    exact before.clients (unshared_before unshared) other listedBefore
  by_cases same : s.serverSd = (s.conn conn).sd
  · have number : initial.serverSd = (s.conn conn).sd := before.fixed.serverSd ▸ same
    have closed : SocketClosed initial (trace ++ events) :=
      ⟨conn, List.mem_append_right _ ((shown _ _).mpr ⟨rfl, number⟩)⟩
    have shared : SocketShared initial trace := by
      by_contra unshared
      exact before.clients unshared conn listed same.symm
    refine ⟨⟨fixed.cfg.trans before.fixed.cfg, fixed.serverSd.trans before.fixed.serverSd,
      fixed.ttyFd.trans before.fixed.ttyFd⟩, ?_, ?_, ?_, ?_⟩
    · rw [fixed.ttyFd, fixed.serverSd]
      exact before.apart
    · rw [Listening, fixed.serverSd, gone.fds, same, closeAt_same]
      simp [closed]
    · exact fun _ => ⟨shared.choose, List.mem_append_left _ shared.choose_spec⟩
    · rw [fixed.serverSd]
      exact remaining
  · apply listens_kept before fixed _ _ remaining
    · exact listening_congr fixed (by rw [gone.fds, closeAt_other _ _ _ same])
    · rintro ⟨other, closing⟩
      rw [← before.fixed.serverSd] at closing
      exact same ((shown _ _).mp closing).2

/-- The step lemma. -/
theorem listens_step {initial s₀ s s' : State} {answers : Answers} {trace events : List Event}
    (stable : Stable s) (before : ListensUntilClosed initial trace s)
    (action : Action s₀ answers s events s') :
      ListensUntilClosed initial (trace ++ events) s' := by
  cases action with
  | quiet fixed live fds rxlen kept silent =>
      apply listens_kept before fixed (listening_congr fixed (congrFun fds _))
      · rintro ⟨conn, closing⟩
        exact silent _ closing
      · intro unshared conn listed
        rw [live] at listed
        rw [(kept conn listed).sd]
        exact before.clients (unshared_before unshared) conn listed
  | @refused _ sd free =>
      apply listens_unqueued before free (by simp) _ (by simp [SocketClosed])
      intro other different
      exact (closeAt_other _ _ _ different).trans (openAt_other _ _ _ _ different)
  | @leaked _ sd free =>
      exact listens_unqueued before free (by simp)
        (fun other different => openAt_other _ _ _ _ different) (by simp [SocketClosed])
  | @opened _ _ conn sd tcps free small room fixed added fds rxlen =>
      apply listens_kept before fixed _ (by simp [SocketClosed])
      · intro unshared other listed
        rw [added.live, List.mem_append, List.mem_singleton] at listed
        rcases listed with listedBefore | new
        · rw [(added.others other listedBefore).sd]
          exact before.clients (unshared_before unshared) other listedBefore
        · rw [new, added.sd]
          rintro rfl
          exact unshared ⟨conn, by simp [before.fixed.serverSd]⟩
      · refine listening_accepted free fixed (by simp [fds]) fun other different => ?_
        rw [fds, openAt_other _ _ _ _ different]
  | @attached _ _ conn once fixed added fds rxlen =>
      apply listens_kept before fixed (listening_congr fixed (congrFun fds _))
        (by simp [SocketClosed])
      intro unshared
      exact absurd ⟨conn, by simp [before.fixed.serverSd]⟩ unshared
  | closed listed fixed gone rxlen =>
      exact listens_closed stable before fixed listed gone (by simp)
  | @answered _ io conn bytes peer lines events flow visit visited listed reads answered
      computed =>
      have frame := answered_frame answered
      apply listens_kept before (frame_fixed frame)
      · apply listening_congr (frame_fixed frame)
        rcases answered.fds with same | ⟨_, closed⟩
        · exact congrFun same _
        · rw [closed]
          exact closeAt_other _ _ _ before.apart.symm
      · rintro ⟨other, closing⟩
        simp [answered.shown] at closing
      · intro unshared other listed
        rw [frame.sdEq other]
        exact before.clients (unshared_before unshared) other (frame.live ▸ listed)
  | @sent _ io conn visit listed owing accepted =>
      have frame := state_conn_set_frame s conn .header
      apply listens_kept before (frame_fixed frame) Iff.rfl
      · rintro ⟨other, closing⟩
        unfold replyCall at closing
        split at closing <;> simp at closing
      · intro unshared other listed
        rw [frame.sdEq other]
        exact before.clients (unshared_before unshared) other (frame.live ▸ listed)
  | @lost _ _ io conn visit listed owing failed fixed gone rxlen =>
      apply listens_closed stable before fixed listed gone
      intro other sd
      unfold replyCall
      split <;> simp

theorem listens_stuck {initial s s' : State} {answers : Answers} {trace events : List Event}
    (before : ListensUntilClosed initial trace s) (stuck : Stuck s answers events s') :
      ListensUntilClosed initial (trace ++ events) s' := by
  cases stuck with
  | @intro reached io conn bytes peer visit visited listed reads untouched =>
      have fixed := frame_fixed untouched.frame
      have read : ListensUntilClosed initial (trace ++ [.request conn bytes]) reached := by
        apply listens_kept before fixed (listening_congr fixed (congrFun untouched.fds _))
          (by simp [SocketClosed])
        intro unshared other listedAfter
        rw [untouched.frame.sdEq other]
        exact before.clients (unshared_before unshared) other
          (untouched.frame.live ▸ listedAfter)
      exact ⟨⟨read.fixed.cfg, read.fixed.serverSd, read.fixed.ttyFd⟩, read.apart, read.listening,
        read.closed, read.clients⟩

theorem started_listens {initial : State} (started : Started initial) :
    ListensUntilClosed initial [] initial := by
  obtain ⟨empty, _⟩ := started_empty started
  obtain ⟨io, rfl, _, _, apart⟩ := started_initial started
  refine ⟨⟨rfl, rfl, rfl⟩, apart.symm, ?_, by simp [SocketClosed], fun _ conn listed => ?_⟩
  · exact iff_of_true (openAt_same _ _ _) (by simp [SocketClosed])
  · rw [empty] at listed
    simp at listed

theorem run_listens {longBits : Nat} {initial s : State} {trace : List Event}
    (started : Started initial) (run : Run (step longBits) Admissible initial trace s) :
      Sound s ∧ ListensUntilClosed initial trace s := by
  have reached := run_actions_invariant (fun _ _ admitted => admitted)
    (ListensUntilClosed initial) (ListensUntilClosed initial) (started_sound started)
    (started_listens started)
    (fun _ _ _ _ _ _ _ stable before action => listens_step stable before action)
    (fun _ _ _ _ _ _ _ before stuck => listens_stuck before stuck) run
  refine ⟨reached.1, ?_⟩
  rcases reached.2 with running | ⟨_, left⟩
  · exact running
  · exact left

/-! ## Over `tcps` nobody shares the socket -/

theorem opened_accepted (s : State) (io : OpenAnswers) (tcps : s.cfg.isTcps = true) (conn : Ptr)
    (sd : Int) (opened : .opened conn sd ∈ (acceptPending s io).2) : io.sd = some sd := by
  unfold acceptPending at opened
  split at opened
  · rw [connOpen, if_pos tcps] at opened
    cases answer : io.sd with
    | none => simp [answer] at opened
    | some accepted =>
        have queued : ∀ later : State,
            .opened conn sd ∈ Event.accepted accepted :: (enqueue later accepted io.block).2 →
              accepted = sd := by
          intro later member
          cases block : io.block <;> simp [enqueue, block] at member
          exact member.2.symm
        simp only [answer] at opened
        split_ifs at opened
        all_goals first
          | exact congrArg some (queued _ opened)
          | simp [dropClient] at opened
  · simp at opened

theorem visit_opens_nothing {s s' : State} {more : Nat} {conn other : Ptr} {io : VisitAnswers}
    {events : List Event} {sd : Int} (outcome : VisitOutcome s more conn io s' events) :
      .opened other sd ∉ events := by
  have reply : ∀ s, replyCall s conn io ≠ .opened other sd := by
    intro s
    unfold replyCall
    split <;> simp
  have silent := @outcome_shows (· ≠ .opened other sd) _ _ _ _ _ _ (serve_conn_outcome s conn io)
    (by simp) (by simp) (by simp) reply (by simp)
  obtain ⟨stale, shown, gone⟩ := outcome.shown
  intro member
  rw [shown, List.mem_append] at member
  rcases member with served | after
  · exact silent _ served rfl
  · obtain ⟨conn, same⟩ := gone _ after
    simp at same

/-- Over `tcps` every element that a step queues has a descriptor that was free before. -/
theorem opened_was_free {longBits : Nat} {s s' : State} {answers : Answers} {events : List Event}
    {conn : Ptr} {sd : Int} (sound : Sound s) (tcps : s.cfg.isTcps = true)
    (admissible : Admissible s answers) (taken : step longBits s answers = some (s', events))
    (opened : .opened conn sd ∈ events) : s.fds sd = none := by
  cases step_outcome sound taken with
  | visit outcome => exact absurd opened (visit_opens_nothing outcome)
  | head pc outcome =>
      cases outcome with
      | waited place unready => simp at opened
      | purged selected listed out => simp at opened
      | spared selected =>
          rcases List.mem_cons.mp opened with selected | accepted
          · simp at selected
          · have answer := opened_accepted _ _ (show (afterExpiry _ _ _ _ _ _).cfg.isTcps = true
              from tcps) conn sd accepted
            exact (admissible.1 sd answer).2

theorem tcps_unshared {longBits : Nat} {initial s : State} {trace : List Event}
    (started : Started initial) (tcps : initial.cfg.isTcps = true)
    (run : Run (step longBits) Admissible initial trace s) : ¬SocketShared initial trace := by
  induction run with
  | start => simp [SocketShared]
  | @next trace events state after input earlier admitted taken ih =>
      obtain ⟨sound, listens⟩ := run_listens started earlier
      have open_ : Listening state := listens.listening.mpr fun closed => ih (listens.closed closed)
      rintro ⟨conn, opened⟩
      rcases List.mem_append.mp opened with before | now
      · exact ih ⟨conn, before⟩
      · have free := opened_was_free sound (listens.fixed.cfg ▸ tcps) admitted taken now
        rw [← listens.fixed.serverSd] at free
        rw [Listening, free] at open_
        simp at open_

structure KeepsSocket (io : StartAnswers) (initial : State) (trace : List Event) (s : State) :
    Prop where
  number : s.serverSd = io.socket.socket
  listening : Listening s ↔ ¬SocketClosed initial trace
  server : io.cfg.isTcps = true →
    Listening s ∧ ∀ conn ∈ s.queue.live, (s.conn conn).sd ≠ s.serverSd

theorem run_keeps_socket {longBits : Nat} {io : StartAnswers} {s : State} {trace : List Event}
    (started : Started (initialState io.opened))
    (run : Run (step longBits) Admissible (initialState io.opened) trace s) :
      KeepsSocket io (initialState io.opened) trace s := by
  obtain ⟨_, listens⟩ := run_listens started run
  refine ⟨listens.fixed.serverSd, listens.listening, fun tcps => ?_⟩
  have unshared := tcps_unshared started tcps run
  exact ⟨listens.listening.mpr fun closed => unshared (listens.closed closed),
    listens.clients unshared⟩

/-- With the port open `conn_init` succeeds exactly when every call on the socket does. The
socket is then made for its mode and listens, in every run, until an element with its
descriptor is closed, which never happens over `tcps`. Otherwise the port stays open, and so
does a socket that was made; the process ends at once only for a refused `listen`. -/
theorem start_serves_or_leaves_open (io : StartAnswers) (fresh : FreshDescriptors io)
    (port : 0 ≤ io.ttyFd) :
      (AllGranted io → ∃ initial,
        connInit io = .ok (initial, madeFor io.cfg io.serverport io.socket) ∧
          ∀ longBits trace s, Run (step longBits) Admissible initial trace s →
            KeepsSocket io initial trace s) ∧
        (¬AllGranted io → ∃ failure, connInit io = .error failure ∧
          failure.left = io.ttyFd :: leftOpen io.socket ∧
            (failure.exits = true ↔ SocketGranted io.cfg io.socket)) := by
  refine ⟨fun granted => ?_, conn_init_leaves io port fresh.answer⟩
  have started := initial_started io fresh port granted
  exact ⟨initialState io.opened, (conn_init_iff io port _).mpr ⟨granted, rfl⟩,
    fun longBits trace s run => run_keeps_socket started run⟩

/-- A start as `freshInit`'s, the socket listening on port 8899 or refused that. -/
def startOverTcp (listen : Int) : StartAnswers :=
  { cfg := hexOverTcp 0
    serverport := 8899
    queue := (freshInit (hexOverTcp 0)).queue
    fds := (freshInit (hexOverTcp 0)).fds
    ttyFd := 3
    socket := ⟨0, 1, 4, (2, 0), 0, 0, 0, 0, 0, 0, (2050, 0), listen⟩ }

theorem start_over_tcp_granted : SocketGranted (hexOverTcp 0) (startOverTcp 0).socket :=
  ⟨by decide, by decide, by simp [Granted, startOverTcp], by decide, by decide, by decide,
    by decide, by decide, by simp [Granted, startOverTcp]⟩

theorem start_serves_or_leaves_open_listening :
    (∃ initial, connInit (startOverTcp 0) =
      .ok (initial, madeFor (hexOverTcp 0) 8899 (startOverTcp 0).socket) ∧
        ∀ longBits trace s, Run (step longBits) Admissible initial trace s →
          KeepsSocket (startOverTcp 0) initial trace s) ∧
      ∃ failure, connInit (startOverTcp (-1)) = .error failure ∧ failure.left = [3, 4] := by
  constructor
  · exact (start_serves_or_leaves_open (startOverTcp 0) ⟨rfl, by decide, rfl, by decide, rfl⟩
      (by decide)).1 ⟨start_over_tcp_granted, by decide⟩
  · obtain ⟨failure, ended, left, _⟩ := (start_serves_or_leaves_open (startOverTcp (-1))
      ⟨rfl, by decide, rfl, by decide, rfl⟩ (by decide)).2
        fun granted => granted.2 (by decide) rfl
    exact ⟨failure, ended, left.trans (by decide)⟩

end GlRs485.ServerSocket
