import GlRs485.Foundation.Transactions
import GlRs485.SequentialServer
import GlRs485.HexRequests
import GlRs485.ReplyIsolation
import GlRs485.SocketTransparency

/-!
# The socket bridge serves one request after the other

Whatever clients come and go, what `conn_loop` does about requests is a sequence of
whole transactions of the abstract server: a request is read, the line is used for
it and for nothing else, and its reply is formed before the next request is read.
-/

namespace GlRs485.ServedRequests

open CBytes ConnectionQueue BridgeSettings HexText HexCodec HexDecoder SpacedHex SerialLine
open SequentialServer SocketBridge ServingVisits LoopActions HexRequests SocketTransparency
open TracedSystem

set_option autoImplicit false

/-- The calls on the line for one request, and its reply. -/
inductive LineExchange (text : Bool) (port : Int) (payload : List Byte) :
    List LineEvent → List Byte → Prop
  | lockedOut : LineExchange text port payload (.flushed port :: lockoutCalls port)
      (ascii "tty write error")
  | answered {calls : List LineEvent} {results : List RxResult} (writes : Writes port payload calls)
      (collected : Collected results) :
      LineExchange text port payload (.flushed port :: (calls ++ results.map (.received port)))
        (replyOf text (heardOf results))

/-- A request is refused as malformed, or its bytes are exchanged for a reply. -/
inductive Transaction (text : Bool) (port : Int) : List Event → Prop
  | refused {conn : Ptr} {request : List Byte} (malformed : Denotes text request none) :
      Transaction text port [.request conn request, .formed conn (ascii "data format error")]
  | served {conn : Ptr} {request payload reply : List Byte} {calls : List LineEvent}
      (asked : Denotes text request (some payload))
      (exchange : LineExchange text port payload calls reply) :
      Transaction text port (.request conn request :: (calls.map .line ++ [.formed conn reply]))

def shows : Event → Bool
  | .request _ _ => true
  | .line _ => true
  | .formed _ _ => true
  | _ => false

theorem tty_answer_reply (s : State) (conn : Ptr) (io : VisitAnswers) :
    ∃ results,
      (ttyRead s.tty.fd io.received s.tty.rxbuf).events = results.map (.received s.tty.fd) ∧
      Collected results ∧
        cells ((ttyAnswer s conn io).1.conn conn).buf (ttyAnswer s conn io).1.tty.rxlen =
          replyOf s.cfg.isStr (heardOf results) := by
  obtain ⟨results, events, collected, counts, stored, silent⟩ :=
    tty_read_hears s.tty.fd io.received s.tty.rxbuf
  refine ⟨results, events, collected, ?_⟩
  unfold ttyAnswer replyOf
  dsimp only
  by_cases nothing : heardOf results = []
  · rw [if_pos (silent.mpr nothing), if_pos nothing]
    exact text_reply_content _ conn (ascii "no data") (by decide +kernel)
  · rw [if_neg fun none => nothing (silent.mp none), if_neg nothing, counts]
    split
    · show cells ((finishReply _ conn _).1.conn conn).buf _ = _
      rw [finish_reply_buf, update_conn_same]
      show cells (glHex2str _ (heardOf results).length _) ((heardOf results).length * 2) = _
      rw [Nat.mul_comm, gl_hex2str_text, stored]
    · show cells ((finishReply _ conn _).1.conn conn).buf _ = _
      rw [finish_reply_buf, update_conn_same]
      show cells (strncpy _ _ (heardOf results).length) (heardOf results).length = _
      rw [cells_strncpy_cut, stored]

theorem error_reply_shown (s : State) (conn : Ptr) (text : List Byte) (ends : NulsAtEnd text) :
    (errorReply s conn text).2.1 = [.formed conn text] := by
  have content : cells ((errorReply s conn text).1.conn conn).buf
      (errorReply s conn text).1.tty.rxlen = text := text_reply_content s conn text ends
  rw [(error_reply_formed s conn text).shown, content]

theorem tty_request_served (s : State) (conn : Ptr) (io : VisitAnswers)
    (ready : s.tty.fd ∈ s.sdsetwr) (port : 0 ≤ s.tty.fd) :
      ∃ calls reply, (ttyRequest s conn io).2.1 = calls.map .line ++ [.formed conn reply] ∧
        LineExchange s.cfg.isStr s.tty.fd (cells s.tty.writebuf s.tty.txlen) calls reply := by
  have written := tty_write_written s.tty.fd io.lockFails io.written
    (cells s.tty.writebuf s.tty.txlen) port
  rw [tty_request_eq s conn io ready]
  dsimp only at written ⊢
  rcases written with ⟨positive, writes⟩ | ⟨negative, calls⟩
  · obtain ⟨results, events, collected, reply⟩ := tty_answer_reply (afterWrite s io) conn io
    obtain ⟨formedEvents, formed, shown, _⟩ := tty_answer_formed (afterWrite s io) conn io
    have frame := after_write_frame s conn io
    rw [if_neg (by omega), shown, formed.shown, reply, events, frame.ttyFd, frame.cfg]
    exact ⟨_, _, by simp [writeCalls], .answered writes collected⟩
  · rw [if_pos negative, error_reply_shown _ _ _ (by decide +kernel), writeCalls, calls]
    exact ⟨_, _, rfl, .lockedOut⟩

theorem decoded_payload {s : State} {conn : Ptr} {bytes : List Byte} (size : bytes.length ≤ 256)
    (even : (textBeforeNul bytes).length % 2 = 0) :
      let decoded := decodedRequest (loadRequest s conn bytes) (textBeforeNul bytes).length
      Denotes true bytes (some (cells decoded.tty.writebuf decoded.tty.txlen)) := by
  obtain ⟨_, content⟩ := loaded_text s conn bytes size
  by_cases hex : ∀ digit ∈ textBeforeNul bytes, IsHexDigit digit
  · have pairs := packed_cells_of_hex _ _ (loadRequest s conn bytes).tty.writebuf content hex
    dsimp only [decodedRequest]
    rw [pairs]
    exact .digits rfl even hex
  · push Not at hex
    exact .garbled rfl even hex (cells_length _ _)

/-- A loaded request is a transaction, unless its decoding does not end. -/
theorem dispatch_served {s s' : State} {conn : Ptr} {io : VisitAnswers} {bytes : List Byte}
    {events : List Event} {flow : Flow} (size : bytes.length ≤ 256) (port : 0 ≤ s.tty.fd)
    (computed : dispatchRequest (loadRequest s conn bytes) conn io = (s', events, flow))
    (answers : events ≠ []) :
      Transaction s.cfg.isStr s.tty.fd (.request conn bytes :: events) := by
  have ready : (loadRequest s conn bytes).tty.fd ∈ (loadRequest s conn bytes).sdsetwr := by
    simp [loadRequest]
  have shown : (dispatchRequest (loadRequest s conn bytes) conn io).2.1 = events :=
    congrArg (fun result => result.2.1) computed
  rw [dispatchRequest] at shown
  by_cases typed : s.cfg.isStr = true
  · have loadedTyped : (loadRequest s conn bytes).cfg.isStr = true := typed
    obtain ⟨length, _⟩ := loaded_text s conn bytes size
    rw [if_pos loadedTyped] at shown
    dsimp only at shown
    rw [length] at shown
    by_cases odd : (textBeforeNul bytes).length % 2 = 1
    · rw [if_pos odd, error_reply_shown _ _ _ (by decide +kernel)] at shown
      rw [← shown]
      exact .refused (.refused typed odd)
    · rw [if_neg odd, str2acsll_eq] at shown
      by_cases short : (textBeforeNul bytes).length < 254
      · rw [if_pos short] at shown
        obtain ⟨calls, reply, served, exchange⟩ := tty_request_served
          (decodedRequest (loadRequest s conn bytes) (textBeforeNul bytes).length) conn io ready
          port
        have asked := @decoded_payload s conn bytes size (by omega)
        rw [← typed] at asked
        rw [← shown]
        show Transaction _ _ (_ :: (ttyRequest
          (decodedRequest (loadRequest s conn bytes) (textBeforeNul bytes).length) conn io).2.1)
        rw [served]
        exact .served asked exchange
      · rw [if_neg short] at shown
        exact absurd shown.symm answers
  · have untyped : s.cfg.isStr = false := by simpa using typed
    have loadedUntyped : ¬(loadRequest s conn bytes).cfg.isStr = true := typed
    rw [if_neg loadedUntyped] at shown
    obtain ⟨calls, reply, served, exchange⟩ :=
      tty_request_served (loadRequest s conn bytes) conn io ready port
    rw [load_request_writebuf] at exchange
    rw [← shown, served]
    exact .served (.untyped untyped) exchange

/-! ## Along a run -/

/-- So far whole transactions have been served, by the configuration of the start. -/
structure ServedSoFar (initial : State) (trace : List Event) (s : State) : Prop where
  cfg : s.cfg = initial.cfg
  ttyFd : s.tty.fd = initial.tty.fd
  serial : Serial (Transaction initial.cfg.isStr initial.tty.fd) (trace.filter shows)

theorem served_kept {initial s s' : State} {trace events : List Event}
    (before : ServedSoFar initial trace s) (fixed : Fixed s s')
    (hidden : ∀ event ∈ events, shows event = false) :
      ServedSoFar initial (trace ++ events) s' := by
  refine ⟨fixed.cfg.trans before.cfg, fixed.ttyFd.trans before.ttyFd, ?_⟩
  have none : events.filter shows = [] := by
    rw [List.filter_eq_nil_iff]
    intro event member
    simp [hidden event member]
  rw [List.filter_append, none, List.append_nil]
  exact before.serial

theorem reply_call_hidden (s : State) (conn : Ptr) (io : VisitAnswers) :
    shows (replyCall s conn io) = false := by
  unfold replyCall
  split <;> rfl

theorem transaction_shown {text : Bool} {port : Int} {block : List Event}
    (whole : Transaction text port block) : block.filter shows = block := by
  rw [List.filter_eq_self]
  cases whole with
  | refused malformed => simp [shows]
  | served asked exchange =>
      intro event member
      simp only [List.mem_cons, List.mem_append, List.mem_map, List.not_mem_nil, or_false] at member
      rcases member with rfl | ⟨call, _, rfl⟩ | rfl <;> rfl

/-- The step lemma. -/
theorem served_step {initial s₀ s s' : State} {answers : Answers} {trace events : List Event}
    (port : 0 ≤ initial.tty.fd) (admitted : Admissible s₀ answers)
    (before : ServedSoFar initial trace s) (action : Action s₀ answers s events s') :
      ServedSoFar initial (trace ++ events) s' := by
  cases action with
  | quiet fixed live fds rxlen kept silent =>
      apply served_kept before fixed
      intro event member
      have quiet := silent event member
      cases event <;> first | rfl | exact quiet.elim
  | @refused _ sd free =>
      have fixed : Fixed s { s with fds := (s.fds.openAt sd .client).closeAt sd } :=
        ⟨rfl, rfl, rfl⟩
      exact served_kept before fixed (by simp [shows])
  | @leaked _ sd free =>
      have fixed : Fixed s { s with fds := s.fds.openAt sd .client } := ⟨rfl, rfl, rfl⟩
      exact served_kept before fixed (by simp [shows])
  | opened tcps free small room fixed added fds rxlen =>
      exact served_kept before fixed (by simp [shows])
  | attached once fixed added fds rxlen => exact served_kept before fixed (by simp [shows])
  | closed listed fixed gone rxlen => exact served_kept before fixed (by simp [shows])
  | @answered _ io reader bytes peer lines events flow visit visited listed reads answered
      computed =>
      subst visit
      have size := conn_read_size io.recv bytes peer admitted.1 reads.heard
      have frame := answered_frame answered
      have heard := (heard_state_untouched s₀ reader peer).1
      have answers : events ≠ [] := by simp [answered.shown]
      have cfg : (heardState s₀ reader peer).cfg = initial.cfg :=
        heard.frame.cfg.trans before.cfg
      have ttyFd : (heardState s₀ reader peer).tty.fd = initial.tty.fd :=
        heard.frame.ttyFd.trans before.ttyFd
      have whole := dispatch_served size (ttyFd.symm ▸ port) computed answers
      rw [cfg, ttyFd] at whole
      refine ⟨frame.cfg.trans before.cfg, frame.ttyFd.trans before.ttyFd, ?_⟩
      rw [List.filter_append, transaction_shown whole]
      exact .next before.serial whole
  | @sent _ io writer visit listed owing accepted =>
      have frame := state_conn_set_frame s writer .header
      apply served_kept before (frame_fixed frame)
      intro event member
      rw [List.mem_singleton.mp member]
      exact reply_call_hidden _ _ _
  | @lost _ _ io writer visit listed owing failed fixed gone rxlen =>
      apply served_kept before fixed
      intro event member
      simp only [List.mem_cons, List.not_mem_nil, or_false] at member
      rcases member with rfl | rfl
      · exact reply_call_hidden _ _ _
      · rfl

/-- What is shown of any run is a sequence of whole transactions of the abstract server,
each on the one port of the start; only a request whose decoding never ends stays without
its rest, and it is the last one. -/
theorem requests_served_one_by_one {longBits : Nat} {initial s : State} {trace : List Event}
    (started : Started initial) (run : Run (step longBits) Admissible initial trace s) :
      ∃ done rest, trace.filter shows = done ++ rest ∧
        Serial (Transaction initial.cfg.isStr initial.tty.fd) done ∧
          (rest = [] ∨ s.pc = .endless ∧ ∃ conn bytes, rest = [.request conn bytes]) := by
  have port := started_port started
  have reached := run_actions_invariant (fun _ _ admitted => admitted) (ServedSoFar initial)
    (fun trace _ => ∃ done conn bytes, trace.filter shows = done ++ [.request conn bytes] ∧
      Serial (Transaction initial.cfg.isStr initial.tty.fd) done)
    (started_sound started) ⟨rfl, rfl, .start⟩
    (fun _ _ admitted _ _ _ _ _ before action => served_step port admitted before action)
    (fun _ _ _ trace events _ _ before stuck => by
      obtain @⟨_, _, conn, bytes, _, _, _, _, _, _⟩ := stuck
      exact ⟨_, conn, bytes, by rw [List.filter_append]; rfl, before.serial⟩)
    run
  rcases reached.2 with running | ⟨endless, done, conn, bytes, shown, serial⟩
  · exact ⟨_, [], (List.append_nil _).symm, running.serial, Or.inl rfl⟩
  · exact ⟨done, _, shown, serial, Or.inr ⟨endless, conn, bytes, rfl⟩⟩

theorem requests_served_one_by_one_with_two_clients :
    ∃ (trace : List Event) (done rest : List Event), .request 2 [2] ∈ trace ∧
      trace.filter shows = done ++ rest ∧ Serial (Transaction false 3) done := by
  obtain ⟨final, trace, run, shown⟩ := run_of_replay_view (step 64) Admissible
    (fun reached => decide (Event.request 2 [2] ∈ reached.2))
    ReplyIsolation.oneDuringTheOther (freshDaemon (hexOverTcp 0)) true (by decide +kernel)
  obtain ⟨done, rest, split, serial, _⟩ :=
    requests_served_one_by_one (fresh_daemon_started _) run
  exact ⟨trace, done, rest, of_decide_eq_true shown, split, serial⟩

/-! ## Nothing is written twice or out of order -/

def requestBytes (events : List Event) : List (List Byte) :=
  events.filterMap fun event => match event with
    | .request _ bytes => some bytes
    | _ => none

/-- The byte sequences are what some of the requests denote, in the order of these. -/
def ComesFrom (text : Bool) (requests sent : List (List Byte)) : Prop :=
  ∃ served : List (List Byte), served.Sublist requests ∧
    List.Forall₂ (fun request payload => Denotes text request (some payload)) served sent

theorem requestBytes_append (front back : List Event) :
    requestBytes (front ++ back) = requestBytes front ++ requestBytes back := List.filterMap_append

theorem requestBytes_shown (trace : List Event) :
    requestBytes (trace.filter shows) = requestBytes trace := by
  rw [requestBytes, List.filterMap_filter]
  congr 1
  funext event
  cases event <;> rfl

theorem sentBytes_shown (trace : List Event) :
    sentBytes (trace.filter shows) = sentBytes trace := by
  rw [sentBytes, List.filterMap_filter]
  congr 1
  funext event
  cases event <;> rfl

theorem comes_from_append {text : Bool} {requests sent more others : List (List Byte)}
    (first : ComesFrom text requests sent) (second : ComesFrom text more others) :
      ComesFrom text (requests ++ more) (sent ++ others) := by
  obtain ⟨served, listed, denoted⟩ := first
  obtain ⟨later, listedLater, denotedLater⟩ := second
  exact ⟨served ++ later, listed.append listedLater, List.rel_append denoted denotedLater⟩

theorem comes_from_none (text : Bool) (requests : List (List Byte)) : ComesFrom text requests [] :=
  ⟨[], List.nil_sublist _, .nil⟩

theorem lock_calls_send_nothing (port : Int) (refusals : Nat) :
    sentBytes ((lockCalls port refusals).map .line) = [] := by
  rw [sentBytes, List.filterMap_eq_nil_iff]
  intro event member
  obtain ⟨call, listed, rfl⟩ := List.mem_map.mp member
  rcases List.mem_append.mp listed with refused | obtained
  · rw [List.eq_of_mem_replicate refused]
  · rw [List.mem_singleton.mp obtained]

theorem exchange_sends {text : Bool} {port : Int} {payload reply : List Byte}
    {calls : List LineEvent} (exchange : LineExchange text port payload calls reply) :
      sentBytes (calls.map .line) = [] ∨ sentBytes (calls.map .line) = [payload] := by
  cases exchange with
  | lockedOut => exact Or.inl rfl
  | @answered calls results writes collected =>
      obtain @⟨refusals, accepted, within, front⟩ := writes
      have reads : sentBytes ((results.map (LineEvent.received port)).map .line) = [] := by
        rw [sentBytes, List.filterMap_eq_nil_iff]
        intro event member
        obtain ⟨call, listed, rfl⟩ := List.mem_map.mp member
        obtain ⟨result, _, rfl⟩ := List.mem_map.mp listed
        rfl
      right
      rw [List.map_cons, List.map_append, List.map_append, ← List.singleton_append,
        sentBytes_append, sentBytes_append, sentBytes_append, lock_calls_send_nothing, reads]
      rfl

theorem transaction_comes_from {text : Bool} {port : Int} {block : List Event}
    (whole : Transaction text port block) :
      ComesFrom text (requestBytes block) (sentBytes block) := by
  cases whole with
  | refused malformed => exact comes_from_none _ _
  | @served conn request payload reply calls asked exchange =>
      have none : requestBytes (calls.map .line ++ [.formed conn reply]) = [] := by
        rw [requestBytes, List.filterMap_eq_nil_iff]
        intro event member
        rcases List.mem_append.mp member with line | formed
        · obtain ⟨call, _, rfl⟩ := List.mem_map.mp line
          rfl
        · rw [List.mem_singleton.mp formed]
      have requests : requestBytes (.request conn request ::
          (calls.map .line ++ [.formed conn reply])) = [request] := by
        rw [← List.singleton_append, requestBytes_append, none]
        rfl
      have sent : sentBytes (.request conn request ::
          (calls.map .line ++ [.formed conn reply])) = sentBytes (calls.map .line) := by
        rw [← List.singleton_append, sentBytes_append, sentBytes_append]
        exact List.append_nil _
      rw [requests, sent]
      rcases exchange_sends exchange with silent | handed
      · rw [silent]
        exact comes_from_none _ _
      · rw [handed]
        exact ⟨[request], List.Sublist.refl _, .cons asked .nil⟩

/-- In every run the byte sequences handed to the line are what the requests denote, in the
order in which they were read, each request at most once. -/
theorem line_writes_come_from_requests {longBits : Nat} {initial s : State} {trace : List Event}
    (started : Started initial) (run : Run (step longBits) Admissible initial trace s) :
      ComesFrom initial.cfg.isStr (requestBytes trace) (sentBytes trace) := by
  obtain ⟨done, rest, split, serial, unfinished⟩ := requests_served_one_by_one started run
  have whole : ComesFrom initial.cfg.isStr (requestBytes done) (sentBytes done) := by
    apply serial_invariant (fun trace => ComesFrom initial.cfg.isStr (requestBytes trace)
      (sentBytes trace)) (comes_from_none _ _) _ serial
    intro trace block before whole
    rw [requestBytes_append, sentBytes_append]
    exact comes_from_append before (transaction_comes_from whole)
  have silent : sentBytes rest = [] := by
    rcases unfinished with rfl | ⟨_, conn, bytes, rfl⟩
    · rfl
    · rfl
  rw [← requestBytes_shown, ← sentBytes_shown, split, requestBytes_append, sentBytes_append, silent]
  exact comes_from_append whole (comes_from_none _ _)

theorem line_writes_come_from_two_requests :
    ∃ trace, ComesFrom false (requestBytes trace) [[1], [2]] := by
  obtain ⟨final, trace, run, shown⟩ := run_of_replay_view (step 64) Admissible
    (fun reached => sentBytes reached.2)
    ReplyIsolation.oneDuringTheOther (freshDaemon (hexOverTcp 0)) [[1], [2]] (by decide +kernel)
  have comes := line_writes_come_from_requests (fresh_daemon_started _) run
  exact ⟨trace, shown ▸ comes⟩

end GlRs485.ServedRequests
