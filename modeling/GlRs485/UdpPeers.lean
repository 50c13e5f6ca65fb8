import GlRs485.UdpBridge

/-!
# Whose datagram a UDP reply answers

The address a reply goes to is one global that every `recvfrom` overwrites, and
so is the length of the reply. There is one element in the queue at most, and
nothing is read while its reply waits, so both are still those of the datagram
the reply was formed for.
-/

namespace GlRs485.UdpPeers

open CBytes ConnectionQueue BridgeSettings SerialLine SocketBridge ServingVisits HeadPasses
open LoopActions StepOutcomes ClientSockets UdpBridge TracedSystem

set_option autoImplicit false

structure Exchange where
  heard : Option Nat
  reply : Option (List Byte)
  deriving DecidableEq

def noteExchange (exchange : Exchange) : Observed → Exchange
  | .datagram peer _ => ⟨some peer, none⟩
  | .shown (.formed _ reply) => { exchange with reply := some reply }
  | _ => exchange

def latestExchange (seen : List Observed) : Exchange := seen.foldl noteExchange ⟨none, none⟩

/-- A reply call goes through the bridge's socket to the peer of the latest
datagram, with the bytes of the reply formed for that datagram. -/
def AnswersItsPeer (serverSd : Int) (before : List Observed) : Observed → Prop
  | .shown (.replied _ sd peer bytes _) => sd = serverSd ∧ peer ≠ none ∧
      latestExchange before = ⟨peer, some bytes⟩
  | _ => True

/-- A reply that waits is the one of the latest exchange. -/
def Waiting (exchange : Exchange) (s : State) : Prop :=
  ∀ conn ∈ s.queue.live, (s.conn conn).state = .resp →
    exchange = ⟨some s.caddr, some (cells (s.conn conn).buf s.tty.rxlen)⟩

structure AtMostOne (s : State) : Prop where
  few : s.queue.live.length ≤ 1
  unused : s.oneTime = true → s.queue.live = []

theorem latestExchange_append (seen later : List Observed) :
    latestExchange (seen ++ later) = later.foldl noteExchange (latestExchange seen) :=
  List.foldl_append

def Plain : Observed → Prop
  | .datagram _ _ => False
  | .shown (.formed _ _) => False
  | .shown (.replied _ _ _ _ _) => False
  | _ => True

theorem plain_note (later : List Observed) (plain : ∀ observed ∈ later, Plain observed)
    (seen : List Observed) : latestExchange (seen ++ later) = latestExchange seen := by
  rw [latestExchange_append]
  apply notes_unchanged
  intro observed member
  have quiet := plain observed member
  cases observed with
  | reported => rfl
  | datagram _ _ => exact quiet.elim
  | shown event => cases event <;> first | rfl | exact quiet.elim

theorem plain_judged {serverSd : Int} {seen later : List Observed}
    (earlier : Judged (AnswersItsPeer serverSd) seen)
    (plain : ∀ observed ∈ later, Plain observed) :
      Judged (AnswersItsPeer serverSd) (seen ++ later) := by
  apply judged_append earlier
  intro before observed member
  have quiet := plain observed member
  cases observed with
  | reported => trivial
  | datagram _ _ => trivial
  | shown event => cases event <;> trivial

/-- What stands after some observations: the replies so far were right, the
waiting one is the latest, and there is one connection at most. -/
structure PeersInPlace (initial : State) (seen : List Observed) (s : State) : Prop where
  judged : Judged (AnswersItsPeer initial.serverSd) seen
  waiting : Waiting (latestExchange seen) s
  few : AtMostOne s
  cfg : s.cfg = initial.cfg
  serverSd : s.serverSd = initial.serverSd

theorem idle_waiting {s : State} {conn : Ptr} (exchange : Exchange)
    (only : ∀ other ∈ s.queue.live, other = conn) (idle : (s.conn conn).state ≠ .resp) :
      Waiting exchange s := by
  intro other listed owing
  rw [only other listed] at owing
  exact absurd owing idle

theorem plain_peers {initial s s' : State} {seen later : List Observed}
    (before : PeersInPlace initial seen s) (plain : ∀ observed ∈ later, Plain observed)
    (waiting : Waiting (latestExchange seen) s') (few : AtMostOne s') (fixed : Fixed s s') :
      PeersInPlace initial (seen ++ later) s' :=
  ⟨plain_judged before.judged plain, by rwa [plain_note later plain], few,
    fixed.cfg.trans before.cfg, fixed.serverSd.trans before.serverSd⟩

theorem sole_connection {s : State} {conn : Ptr} (few : AtMostOne s)
    (listed : conn ∈ s.queue.live) : ∀ other ∈ s.queue.live, other = conn := by
  intro other member
  have bound := few.few
  cases live : s.queue.live with
  | nil => simp [live] at listed
  | cons first rest =>
      rw [live, List.length_cons] at bound
      have none : rest = [] := List.length_eq_zero_iff.mp (by omega)
      subst none
      rw [live, List.mem_singleton] at listed member
      rw [member, listed]

theorem closed_at_most_one {s s' : State} {conn : Ptr} (few : AtMostOne s)
    (listed : conn ∈ s.queue.live)
    (live : s'.queue.live = s.queue.live.erase conn) :
      s'.queue.live = [] ∧ AtMostOne s' := by
  have bound := few.few
  have shorter := List.length_erase_of_mem listed
  have empty : s'.queue.live = [] := by
    rw [← List.length_eq_zero_iff, live, shorter]
    omega
  exact ⟨empty, by simp [empty], fun _ => empty⟩

theorem frame_at_most_one {s s' : State} {conn : Ptr} (frame : Frame conn s s')
    (few : AtMostOne s) : AtMostOne s' :=
  ⟨frame.live ▸ few.few, fun unused => by
    rw [frame.live]
    exact few.unused (frame.oneTime ▸ unused)⟩

theorem closed_peers {initial s s' : State} {conn : Ptr} {seen : List Observed} {sd : Int}
    (before : PeersInPlace initial seen s) (fixed : Fixed s s')
    (listed : conn ∈ s.queue.live) (live : s'.queue.live = s.queue.live.erase conn) :
      PeersInPlace initial (seen ++ [.shown (.closed conn sd)]) s' := by
  obtain ⟨empty, few⟩ := closed_at_most_one before.few listed live
  refine plain_peers before (by simp [Plain]) ?_ few fixed
  intro other member
  simp [empty] at member

theorem socket_send_peers {initial s : State} {conn : Ptr} {io : VisitAnswers}
    {seen : List Observed} (udp : initial.cfg.isUdp = true) (before : PeersInPlace initial seen s)
    (formed : WellFormed s.queue) (listed : conn ∈ s.queue.live)
    (owing : (s.conn conn).state = .resp) :
      PeersInPlace initial (seen ++ (socketSend s conn io).2.1.flatMap (observeVisit io))
        (socketSend s conn io).1 := by
  have called : Judged (AnswersItsPeer initial.serverSd)
      (seen ++ [.shown (replyCall s conn io)]) := by
    apply judged_snoc before.judged
    rw [replyCall, if_pos (before.cfg ▸ udp)]
    exact ⟨before.serverSd, by simp, before.waiting conn listed owing⟩
  have unnoted : latestExchange (seen ++ [.shown (replyCall s conn io)]) =
      latestExchange seen := by
    rw [latestExchange_append]
    unfold replyCall
    split <;> rfl
  have observed : observeVisit io (replyCall s conn io) = [.shown (replyCall s conn io)] := by
    unfold replyCall
    split <;> rfl
  rcases socket_send_cases s conn io with ⟨_, held⟩ | ⟨_, sent⟩ | ⟨_, lost⟩
  · rw [held]
    simpa using before
  · rw [sent, List.flatMap_singleton, observed]
    have frame := state_conn_set_frame s conn .header
    refine ⟨called, ?_, frame_at_most_one frame before.few, before.cfg, before.serverSd⟩
    have only := sole_connection (frame_at_most_one frame before.few) (frame.live.symm ▸ listed)
    apply idle_waiting _ only
    rw [state_conn_set_state]
    decide
  · rw [lost, List.flatMap_cons, observed, List.flatMap_singleton, ← List.append_assoc]
    have after : PeersInPlace initial (seen ++ [.shown (replyCall s conn io)]) s :=
      ⟨called, by rw [unnoted]; exact before.waiting, before.few, before.cfg, before.serverSd⟩
    exact closed_peers after (conn_close_fixed s conn io.scrap) listed
      (conn_close_closed s conn io.scrap formed listed).live

theorem observe_lines (io : VisitAnswers) (lines : List LineEvent) :
    (lines.map Event.line).flatMap (observeVisit io) = lines.map (.shown ∘ .line) := by
  induction lines with
  | nil => rfl
  | cons call rest ih =>
      rw [List.map_cons, List.flatMap_cons, ih]
      rfl

theorem observe_answered {s s' : State} {conn : Ptr} {lockFails peer : Nat} {io : VisitAnswers}
    {bytes : List Byte} {lines : List LineEvent} {events : List Event}
    (heard : connRead io.recv = some (bytes, peer))
    (answered : Answered conn lockFails s s' lines events) :
      (.request conn bytes :: events).flatMap (observeVisit io) =
        [.datagram peer bytes, .shown (.request conn bytes)] ++
          lines.map (.shown ∘ .line) ++
            [.shown (.formed conn (cells (s'.conn conn).buf s'.tty.rxlen))] := by
  rw [answered.shown, List.flatMap_cons, List.flatMap_append, observe_lines,
    List.flatMap_singleton]
  simp [observeVisit, peerOf, heard]

theorem answered_peers {initial s s' : State} {conn : Ptr} {io : VisitAnswers} {peer : Nat}
    {bytes : List Byte} {lines : List LineEvent} {events : List Event} {seen : List Observed}
    (udp : initial.cfg.isUdp = true) (before : PeersInPlace initial seen s)
    (listed : conn ∈ s.queue.live) (reads : Reads s conn io bytes peer)
    (answered : Answered conn io.lockFails (heardFrom s peer) s' lines events) :
      PeersInPlace initial (seen ++ (.request conn bytes :: events).flatMap (observeVisit io))
        s' := by
  have frame := answered_frame answered
  have caddr : s'.caddr = peer := by
    rw [answered.caddr, heardFrom, if_pos (before.cfg ▸ udp)]
  rw [observe_answered reads.heard answered]
  refine ⟨?_, ?_, frame_at_most_one frame before.few, frame.cfg.trans before.cfg,
    frame.serverSd.trans before.serverSd⟩
  · apply judged_append before.judged
    intro earlier observed member
    simp only [List.mem_append, List.mem_cons, List.mem_map, List.not_mem_nil, or_false] at member
    rcases member with ((rfl | rfl) | ⟨call, _, rfl⟩) | rfl
    all_goals trivial
  · intro other member _
    have same := sole_connection before.few listed other (frame.live ▸ member)
    have calls : ∀ observed ∈ lines.map (Observed.shown ∘ .line), Plain observed := by
      intro observed member
      obtain ⟨call, _, rfl⟩ := List.mem_map.mp member
      trivial
    rw [same, caddr, ← List.append_assoc, latestExchange_append, ← List.append_assoc,
      plain_note _ calls, latestExchange_append]
    rfl

theorem untouched_peers {initial s s' : State} {conn : Ptr} {seen later : List Observed}
    (before : PeersInPlace initial seen s) (listed : conn ∈ s.queue.live)
    (asked : readsRequests (s.conn conn).state = true) (untouched : Untouched conn s s')
    (judged : Judged (AnswersItsPeer initial.serverSd) (seen ++ later)) :
      PeersInPlace initial (seen ++ later) s' := by
  have frame := untouched.frame
  have few := frame_at_most_one frame before.few
  refine ⟨judged, ?_, few, frame.cfg.trans before.cfg, frame.serverSd.trans before.serverSd⟩
  apply idle_waiting _ (sole_connection few (frame.live.symm ▸ listed))
  rw [untouched.state]
  exact asked_idle asked

theorem serve_conn_peers {initial s : State} {conn : Ptr} (io : VisitAnswers)
    {seen : List Observed} (udp : initial.cfg.isUdp = true) (before : PeersInPlace initial seen s)
    (formed : WellFormed s.queue) (listed : conn ∈ s.queue.live) :
      PeersInPlace initial (seen ++ (serveConn s conn io).2.1.flatMap (observeVisit io))
        (serveConn s conn io).1 := by
  have outcome := serve_conn_outcome s conn io
  have quiet : Judged (AnswersItsPeer initial.serverSd) (seen ++ []) := by
    simpa using before.judged
  generalize serveConn s conn io = served at outcome ⊢
  obtain ⟨s', events, flow⟩ := served
  cases outcome with
  | passed => simpa using before
  | unread asked untouched => exact untouched_peers before listed asked untouched quiet
  | @ended middle asked untouched =>
      have ended := untouched_peers before listed asked untouched quiet
      rw [List.append_nil] at ended
      have still : conn ∈ middle.queue.live := untouched.frame.live ▸ listed
      exact closed_peers ended (conn_close_fixed middle conn io.scrap) still
        (conn_close_closed middle conn io.scrap (untouched.frame.wellFormed formed) still).live
  | stuck reads untouched =>
      apply untouched_peers before listed reads.asked untouched
      apply judged_append before.judged
      intro earlier observed member
      simp only [List.flatMap_singleton, observeVisit, List.mem_cons, List.not_mem_nil,
        or_false] at member
      rcases member with rfl | rfl
      all_goals trivial
  | answered reads answered _ => exact answered_peers udp before listed reads answered
  | @answeredAtOnce middle bytes peer lines events reads answered _ =>
      have frame := answered_frame answered
      have after := answered_peers udp before listed reads answered
      have sent := @socket_send_peers _ _ _ io _ udp after (frame.wellFormed formed)
        (frame.live.symm ▸ listed) answered.state
      rwa [List.append_assoc, ← List.flatMap_append] at sent
  | owed owing => exact socket_send_peers udp before formed listed owing

theorem moved_peers {initial s : State} {seen later : List Observed} (pc : Pc)
    (before : PeersInPlace initial seen s) (plain : ∀ observed ∈ later, Plain observed) :
      PeersInPlace initial (seen ++ later) { s with pc := pc } :=
  plain_peers before plain before.waiting ⟨before.few.few, before.few.unused⟩ ⟨rfl, rfl, rfl⟩

theorem visit_peers {initial s s' : State} {more : Nat} {conn : Ptr} {io : VisitAnswers}
    {seen : List Observed} {events : List Event} (udp : initial.cfg.isUdp = true)
    (before : PeersInPlace initial seen s) (formed : WellFormed s.queue)
    (outcome : VisitOutcome s more conn io s' events) :
      PeersInPlace initial (seen ++ observe s (.visit io) events) s' := by
  obtain ⟨stale, shown, stales⟩ := outcome.shown
  have served := serve_conn_peers io udp before formed outcome.listed
  have plain : ∀ observed ∈ stale.flatMap (observeVisit io), Plain observed := by
    intro observed member
    obtain ⟨event, listed, seenNow⟩ := List.mem_flatMap.mp member
    obtain ⟨gone, rfl⟩ := stales event listed
    rw [List.mem_singleton.mp seenNow]
    trivial
  have moved := moved_peers s'.pc served plain
  rw [outcome.after, shown]
  rwa [List.append_assoc, ← List.flatMap_append] at moved

theorem head_plain {longBits : Nat} {s s' : State} {io : HeadAnswers} {events : List Event}
    (outcome : HeadOutcome longBits s io s' events) :
      ∀ observed ∈ observe s (.head io) events, Plain observed := by
  have plain := @head_shows longBits (fun event => Plain (.shown event)) s s' io events outcome
    (fun _ _ => trivial) (fun _ => trivial) (fun _ => trivial) (fun _ _ => trivial)
    (fun _ _ => trivial)
  intro observed member
  simp only [observe, List.mem_append, List.mem_map] at member
  rcases member with reported | ⟨event, listed, rfl⟩
  · split at reported
    · rw [List.mem_singleton.mp reported]
      trivial
    · simp at reported
  · exact plain event listed

theorem accept_pending_peers {exchange : Exchange} (s : State) (io : OpenAnswers)
    (udp : s.cfg.isTcps = false) (formed : WellFormed s.queue)
    (fresh : ∀ conn ∈ io.block, conn ∉ s.queue.live) (waiting : Waiting exchange s)
    (few : AtMostOne s) :
      Waiting exchange (acceptPending s io).1 ∧ AtMostOne (acceptPending s io).1 := by
  unfold acceptPending
  split
  · rw [conn_open_udp s io udp]
    split
    · next once =>
        cases block : io.block with
        | none => exact ⟨waiting, few.few, fun _ => few.unused once⟩
        | some conn =>
            have added := enqueue_opened { s with oneTime := false } conn s.serverSd formed
              (fresh conn block)
            have live : (enqueue { s with oneTime := false } s.serverSd (some conn)).1.queue.live =
                [conn] :=
              added.live.trans (congrArg (· ++ [conn]) (few.unused once))
            refine ⟨?_, by simp [live], fun unused => absurd unused Bool.false_ne_true⟩
            apply idle_waiting exchange
            · intro other member
              rw [live] at member
              exact List.mem_singleton.mp member
            · rw [added.state]
              decide
    · exact ⟨waiting, few⟩
  · exact ⟨waiting, few⟩

theorem head_peers {longBits : Nat} {initial s s' : State} {io : HeadAnswers}
    {seen : List Observed} {events : List Event} (udp : initial.cfg.isUdp = true)
    (before : PeersInPlace initial seen s) (sound : Sound s)
    (admissible : Admissible s (.head io))
    (outcome : HeadOutcome longBits s io s' events) :
      PeersInPlace initial (seen ++ observe s (.head io) events) s' := by
  have plain := head_plain outcome
  cases outcome with
  | waited place unready => exact moved_peers _ before plain
  | @purged nfds tvSec readable writable toutSec tout conns conn selected listed out =>
      let timed := afterExpiry s readable writable toutSec conns tout
      have gone := conn_close_closed timed conn io.scrap (charged_well_formed _ _ _ sound.formed)
        listed
      obtain ⟨empty, few⟩ := closed_at_most_one before.few listed gone.live
      refine plain_peers before plain ?_ ⟨few.few, few.unused⟩ ⟨rfl, rfl, rfl⟩
      intro other member
      rw [show ({ (connClose timed conn io.scrap).1 with pc := Pc.returned } : State).queue.live =
        [] from empty] at member
      simp at member
  | @spared nfds tvSec readable writable toutSec tout rc conns selected =>
      let timed := afterExpiry s readable writable toutSec conns tout
      have waiting : Waiting (latestExchange seen) timed := by
        intro conn listed owing
        have sameBuf : (timed.conn conn).buf = (s.conn conn).buf :=
          charged_buf (afterSelect s readable writable) toutSec conns conn
        rw [sameBuf]
        exact before.waiting conn listed
          ((charged_state (afterSelect s readable writable) toutSec conns conn).symm.trans owing)
      obtain ⟨waits, few⟩ := accept_pending_peers timed io.opening
        (udp_not_tcps (before.cfg ▸ udp)) (charged_well_formed _ _ _ sound.formed)
        admissible.2.1 waiting ⟨before.few.few, before.few.unused⟩
      have fixed := accept_pending_fixed timed io.opening
      rw [start_serving_eq]
      exact plain_peers before plain waits ⟨few.few, few.unused⟩
        ⟨fixed.cfg, fixed.serverSd, fixed.ttyFd⟩

/-- Whatever datagrams and device answers come, and whenever they come, every
reply goes to the peer of the datagram it was formed for, byte for byte. -/
theorem udp_replies_reach_their_peers {longBits : Nat} {initial s : State}
    {seen : List Observed} (started : Started initial) (udp : initial.cfg.isUdp = true)
    (run : Run (udpStep longBits) Admissible initial seen s) :
      Judged (AnswersItsPeer initial.serverSd) seen := by
  obtain ⟨empty, _⟩ := started_empty started
  have start : PeersInPlace initial [] initial := by
    refine ⟨judged_nil _, ?_, ⟨by simp [empty], fun _ => empty⟩, rfl, rfl⟩
    intro conn listed
    simp [empty] at listed
  have held := run_invariant (fun seen s => Sound s ∧ PeersInPlace initial seen s)
    ⟨started_sound started, start⟩
    (by
      intro seen s answers s' later ⟨sound, before⟩ admissible taken
      obtain ⟨events, stepped, rfl⟩ := observing_taken taken
      refine ⟨(step_going sound admissible stepped).1, ?_⟩
      cases step_outcome sound stepped with
      | visit outcome => exact visit_peers udp before sound.formed outcome
      | head _ outcome => exact head_peers udp before sound admissible outcome)
    run
  exact held.2.judged

theorem udp_replies_reach_their_peers_two_peers :
    ∃ seen, (.shown (.replied 1 4 (some 70) [9] 1) ∈ seen ∧
        .shown (.replied 1 4 (some 80) [8, 7] 2) ∈ seen) ∧ Judged (AnswersItsPeer 4) seen := by
  obtain ⟨s, seen, run, shown⟩ := run_of_replay_view (udpStep 64) Admissible
    (fun reached => (decide (Observed.shown (.replied 1 4 (some 70) [9] 1) ∈ reached.2),
      decide (Observed.shown (.replied 1 4 (some 80) [8, 7] 2) ∈ reached.2)))
    twoPeers (freshDaemon hexOverUdp) (true, true) (by decide +kernel)
  simp only [Prod.mk.injEq, decide_eq_true_eq] at shown
  exact ⟨seen, shown, udp_replies_reach_their_peers (fresh_daemon_started _) (by decide) run⟩

end GlRs485.UdpPeers
