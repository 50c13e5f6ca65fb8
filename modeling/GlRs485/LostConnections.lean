import GlRs485.HexRequests
import GlRs485.StepOutcomes

/-!
# When a visit closes its connection

A visit closes its connection at the end of the peer's stream and when a reply
is not written. Which of the jumps of the switch a request takes is decided by
its text and by the port.
-/

namespace GlRs485.LostConnections

open CBytes ConnectionQueue BridgeSettings SerialLine SocketBridge ServingVisits HeadPasses
open HexRequests LoopActions StepOutcomes

set_option autoImplicit false

def requestFlow (s : State) (io : VisitAnswers) (bytes : List Byte) : Flow :=
  if s.cfg.isStr = true ∧ (textBeforeNul bytes).length % 2 = 1 then .send
  else if s.cfg.isStr = true ∧ 254 ≤ (textBeforeNul bytes).length then .endless
  else if s.tty.fd < 0 ∨ 30 < io.lockFails then .send
  else .done

/-- The visit reads the end of the stream, or fails to write the reply it owes. -/
def losesConnection (s : State) (conn : Ptr) (io : VisitAnswers) : Prop :=
  match (s.conn conn).state with
  | .tty => False
  | .resp => (s.conn conn).sd ∈ s.sdsetwr ∧ connWrite io.send ≤ 0
  | _ => (s.conn conn).sd ∈ s.sdsetrd ∧ ∃ received ∈ connRead io.recv,
      received.1 = [] ∨ requestFlow s io received.1 = .send ∧ connWrite io.send ≤ 0

instance (s : State) (conn : Ptr) (io : VisitAnswers) : Decidable (losesConnection s conn io) := by
  unfold losesConnection
  split <;> infer_instance

theorem request_flow_stays (s : State) (io : VisitAnswers) (bytes : List Byte)
    (nextconn : Option Ptr) : requestFlow s io bytes ≠ .closed nextconn := by
  unfold requestFlow
  repeat' split
  all_goals simp

theorem tty_request_flow (s : State) (conn : Ptr) (io : VisitAnswers)
    (ready : s.tty.fd ∈ s.sdsetwr) :
      (s.tty.fd < 0 ∨ 30 < io.lockFails → ∃ before text,
        (ttyRequest s conn io).1 = (errorReply before conn text).1 ∧
          (ttyRequest s conn io).2.2 = .send) ∧
      (¬(s.tty.fd < 0 ∨ 30 < io.lockFails) → (ttyRequest s conn io).2.2 = .done) := by
  rw [tty_request_eq s conn io ready]
  dsimp only
  have written := tty_write_cases s.tty.fd io.lockFails io.written
    (cells s.tty.writebuf s.tty.txlen)
  constructor
  · intro refused
    have negative : (ttyWrite s.tty.fd io.lockFails io.written
        (cells s.tty.writebuf s.tty.txlen)).1 < 0 := by
      rcases written with ⟨_, outcome⟩ | ⟨_, _, outcome⟩ | ⟨port, locked, _⟩
      · simp [outcome]
      · simp [outcome]
      · omega
    rw [if_pos negative]
    exact ⟨_, _, rfl, rfl⟩
  · intro obtained
    rcases written with ⟨missing, _⟩ | ⟨_, busy, _⟩ | ⟨_, _, outcome⟩
    · omega
    · omega
    · rw [outcome, if_neg (by simp)]
      obtain ⟨_, _, _, done⟩ := tty_answer_formed (afterWrite s io) conn io
      exact done

theorem dispatch_request_flow (s : State) (conn : Ptr) (io : VisitAnswers) (bytes : List Byte)
    (size : bytes.length ≤ 256) :
      (dispatchRequest (loadRequest s conn bytes) conn io).2.2 = requestFlow s io bytes ∧
        (requestFlow s io bytes = .send → ∃ before text,
          (dispatchRequest (loadRequest s conn bytes) conn io).1 =
            (errorReply before conn text).1) := by
  obtain ⟨counted, _⟩ := loaded_text s conn bytes size
  have ready : (loadRequest s conn bytes).tty.fd ∈ (loadRequest s conn bytes).sdsetwr := by
    simp [loadRequest]
  have portFlow : ∀ loaded : State, loaded.tty.fd = s.tty.fd → loaded.tty.fd ∈ loaded.sdsetwr →
      ∀ flow, flow = (if s.tty.fd < 0 ∨ 30 < io.lockFails then Flow.send else .done) →
        (ttyRequest loaded conn io).2.2 = flow ∧ (flow = .send → ∃ before text,
          (ttyRequest loaded conn io).1 = (errorReply before conn text).1) := by
    intro loaded sameFd writable flow decided
    obtain ⟨refused, obtained⟩ := tty_request_flow loaded conn io writable
    rw [sameFd] at refused obtained
    subst decided
    by_cases lost : s.tty.fd < 0 ∨ 30 < io.lockFails
    · obtain ⟨before, text, state, flow⟩ := refused lost
      rw [if_pos lost]
      exact ⟨flow, fun _ => ⟨before, text, state⟩⟩
    · rw [if_neg lost]
      exact ⟨obtained lost, by simp⟩
  unfold requestFlow
  by_cases text : s.cfg.isStr = true
  · have stillText : (loadRequest s conn bytes).cfg.isStr = true := text
    by_cases odd : (textBeforeNul bytes).length % 2 = 1
    · rw [if_pos ⟨text, odd⟩, dispatchRequest, if_pos stillText]
      dsimp only
      rw [counted, if_pos odd]
      exact ⟨rfl, fun _ => ⟨_, _, rfl⟩⟩
    · obtain ⟨decodes, endless⟩ := even_text_dispatched stillText counted (by omega) conn io
      rw [if_neg (fun both => odd both.2)]
      by_cases long : 254 ≤ (textBeforeNul bytes).length
      · rw [if_pos ⟨text, long⟩, endless long]
        exact ⟨rfl, by simp⟩
      · rw [if_neg (fun both => long both.2), decodes (by omega)]
        exact portFlow (decodedRequest (loadRequest s conn bytes) _) rfl ready _ rfl
  · have raw : dispatchRequest (loadRequest s conn bytes) conn io =
        ttyRequest (loadRequest s conn bytes) conn io := by
      rw [dispatchRequest, if_neg (show ¬(loadRequest s conn bytes).cfg.isStr = true from text)]
    rw [if_neg (fun both => text both.1), if_neg (fun both => text both.1), raw]
    exact portFlow (loadRequest s conn bytes) rfl ready _ rfl

theorem socket_send_loses (s : State) (conn : Ptr) (io : VisitAnswers) :
    (∃ nextconn, (socketSend s conn io).2.2 = .closed nextconn) ↔
      (s.conn conn).sd ∈ s.sdsetwr ∧ connWrite io.send ≤ 0 := by
  rcases socket_send_cases s conn io with ⟨held, kept⟩ | ⟨accepted, sent⟩ | ⟨failed, lost⟩
  · simp [kept, held]
  · have taken : ¬connWrite io.send ≤ 0 := by omega
    simp [sent, taken]
  · have writable : (s.conn conn).sd ∈ s.sdsetwr := by
      by_contra held
      simp [socketSend, held] at lost
    simp [lost, failed, writable]

theorem error_reply_loses (before : State) (conn : Ptr) (io : VisitAnswers) (text : List Byte) :
    (∃ nextconn, (socketSend (errorReply before conn text).1 conn io).2.2 = .closed nextconn) ↔
      connWrite io.send ≤ 0 := by
  have writable : ((errorReply before conn text).1.conn conn).sd ∈
      (errorReply before conn text).1.sdsetwr := by
    rw [(error_reply_formed before conn text).frame.sd]
    simp [errorReply]
  rw [socket_send_loses]
  exact and_iff_right writable

/-- A request jumps as its text and the port decide, and the jump to `socketsend`
is followed in a state with a refusal to write. -/
theorem followed_flow (s : State) (conn : Ptr) (io : VisitAnswers) (bytes : List Byte) (peer : Nat)
    (heard : connRead io.recv = some (bytes, peer)) (size : bytes.length ≤ 256)
    (nonempty : bytes ≠ []) :
      (requestFlow s io bytes = .send → ∃ before text,
        (followSend (serveRequest s conn io) conn io).2.2 =
          (socketSend (errorReply before conn text).1 conn io).2.2) ∧
      (requestFlow s io bytes ≠ .send →
        (followSend (serveRequest s conn io) conn io).2.2 = requestFlow s io bytes) := by
  have untouched := (heard_from_untouched s conn peer).frame.trans
    (heard_state_untouched s conn peer).1.frame
  have sameFlow : requestFlow (heardState s conn peer) io bytes = requestFlow s io bytes := by
    unfold requestFlow
    rw [untouched.cfg, untouched.ttyFd]
  obtain ⟨flow, refused⟩ := dispatch_request_flow (heardState s conn peer) conn io bytes size
  rw [serve_request_heard s conn io bytes peer heard, if_neg nonempty]
  dsimp only
  rw [flow, sameFlow] at *
  constructor
  · intro send
    obtain ⟨before, text, state⟩ := refused send
    rw [state, send]
    exact ⟨before, text, rfl⟩
  · intro kept
    unfold followSend
    dsimp only
    split
    · next send => exact absurd send kept
    · rfl

theorem followed_loses (s : State) (conn : Ptr) (io : VisitAnswers) (bytes : List Byte) (peer : Nat)
    (heard : connRead io.recv = some (bytes, peer)) (size : bytes.length ≤ 256) :
      (∃ nextconn, (followSend (serveRequest s conn io) conn io).2.2 = .closed nextconn) ↔
        bytes = [] ∨ requestFlow s io bytes = .send ∧ connWrite io.send ≤ 0 := by
  by_cases ended : bytes = []
  · rw [serve_request_heard s conn io bytes peer heard, if_pos ended]
    simp [followSend, ended]
  · obtain ⟨refused, kept⟩ := followed_flow s conn io bytes peer heard size ended
    by_cases send : requestFlow s io bytes = .send
    · obtain ⟨before, text, flow⟩ := refused send
      rw [flow]
      simp [ended, send, error_reply_loses before conn io text]
    · rw [kept send]
      simp [ended, send, request_flow_stays s io bytes]

theorem serve_conn_loses (s : State) (conn : Ptr) (io : VisitAnswers)
    (sizes : ∀ answer ∈ io.recv, answer.size ≤ 256) :
      (∃ nextconn, (serveConn s conn io).2.2 = .closed nextconn) ↔ losesConnection s conn io := by
  unfold serveConn losesConnection
  cases phase : (s.conn conn).state with
  | tty => simp
  | resp => exact socket_send_loses s conn io
  | _ =>
      dsimp only
      by_cases readable : (s.conn conn).sd ∈ s.sdsetrd
      · rw [if_pos readable]
        cases heard : connRead io.recv with
        | none => simp [serveRequest, heard, followSend]
        | some received =>
            have size := conn_read_size io.recv received.1 received.2 sizes heard
            rw [followed_loses s conn io received.1 received.2 heard size]
            simp [readable]
      · simp [readable]

theorem lost_connection_closed (s : State) (conn : Ptr) (io : VisitAnswers)
    (sizes : ∀ answer ∈ io.recv, answer.size ≤ 256) (lost : losesConnection s conn io) :
      (serveConn s conn io).1.fds (s.conn conn).sd = none := by
  obtain ⟨nextconn, flow⟩ := (serve_conn_loses s conn io sizes).mpr lost
  have served := serve_conn_served s conn io
  generalize (serveConn s conn io).1 = after, (serveConn s conn io).2.2 = way at served flow ⊢
  cases served with
  | kept _ _ stays => exact absurd flow (stays nextconn)
  | @closed middle frame _ =>
      rw [← frame.sd]
      exact closeAt_same middle.fds (middle.conn conn).sd

end GlRs485.LostConnections
