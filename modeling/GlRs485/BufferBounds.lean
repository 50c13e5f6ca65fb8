import GlRs485.Foundation.Footprint
import GlRs485.TransmissionType

/-!
# The buffers of the two bridges

A connection's buffer has 262 bytes, the MQTT bridge's arrays 1024, 512 and 1024.
The text of an answer is twice as long as the answer, the copies of a payload are
as long as the payload, and nothing compares these with the arrays.
-/

namespace GlRs485.BufferBounds

open CBytes Footprint HexText HexCodec HexDecoder SpacedHex ConnectionQueue BridgeSettings
open SerialLine ServingVisits TransmissionType

set_option autoImplicit false

/-! ## What the text functions write -/

theorem gl_hex2str_inside (input output : Buf) (count index : Nat) (inside : index < 2 * count) :
    glHex2str input count output index = (hexTextOf (cells input count)).getD index 0 := by
  rw [← gl_hex2str_text input output count,
    List.getD_eq_getElem _ _ (by rw [cells_length]; exact inside), cells_getElem]

theorem gl_hex2str_writes_within (size count : Nat) (input : Buf) (room : 2 * count ≤ size) :
    WritesWithin (· < size) (fun output => glHex2str input count output) := by
  intro output index outside
  exact gl_hex2str_beyond input output count index (by omega)

theorem memset_writes_within (size : Nat) (value : Byte) :
    WritesWithin (· < size) (fun buf => memset buf value size) := by
  intro buf index outside
  exact if_neg outside

/-! ## The buffer of a connection -/

section Connection

open SocketBridge

def answeredBuf (s : State) (conn : Ptr) (io : VisitAnswers) (memory : Buf) : Buf :=
  ((ttyAnswer (s.update conn fun c => { c with buf := memory }) conn io).1.conn conn).buf

def writtenFrom (s : State) (conn : Ptr) (io : VisitAnswers) (memory : Buf) : List Event :=
  (socketSend (s.update conn fun c => { c with buf := memory }) conn io).2.1

/-- The answer is stored inside the buffer, and the reply is read inside it in
every state that still has its length. -/
structure AnswerFits (s : State) (conn : Ptr) (io : VisitAnswers) : Prop where
  stores : WritesWithin (· < bufSize) (answeredBuf s conn io)
  reads : ∀ later : State, later.tty.rxlen = (ttyAnswer s conn io).1.tty.rxlen →
    ∀ sending, ReadsWithin (· < bufSize) (writtenFrom later conn sending)

def replySize (isStr : Bool) (length : Nat) : Nat := if isStr then 2 * length else length

theorem answered_buf_eq {s : State} {conn : Ptr} {io : VisitAnswers} {length : Nat}
    (some : 0 < length) (returned : (ttyRead s.tty.fd io.received s.tty.rxbuf).count = length) :
      answeredBuf s conn io = fun memory =>
          if s.cfg.isStr then
            glHex2str (ttyRead s.tty.fd io.received s.tty.rxbuf).buf length
              (memset memory 0 bufSize)
          else strncpy (memset memory 0 bufSize)
            (ttyRead s.tty.fd io.received s.tty.rxbuf).buf length := by
  have reads : ¬(ttyRead s.tty.fd io.received s.tty.rxbuf).count ≤ 0 := by omega
  have counted : (ttyRead s.tty.fd io.received s.tty.rxbuf).count.toNat = length := by omega
  funext memory
  unfold answeredBuf ttyAnswer
  dsimp only [State.update]
  rw [if_neg reads]
  split <;> rw [counted, finish_reply_buf] <;> simp [State.conn]

theorem answered_rxlen {s : State} {conn : Ptr} {io : VisitAnswers} {length : Nat}
    (some : 0 < length) (returned : (ttyRead s.tty.fd io.received s.tty.rxbuf).count = length) :
      (ttyAnswer s conn io).1.tty.rxlen = replySize s.cfg.isStr length := by
  have reads : ¬(ttyRead s.tty.fd io.received s.tty.rxbuf).count ≤ 0 := by omega
  have counted : (ttyRead s.tty.fd io.received s.tty.rxbuf).count.toNat = length := by omega
  unfold ttyAnswer replySize
  dsimp only
  rw [if_neg reads, counted]
  split
  · rw [Nat.mul_comm]
    rfl
  · rfl

theorem answer_stores_iff {s : State} {conn : Ptr} {io : VisitAnswers} {length : Nat}
    (some : 0 < length) (returned : (ttyRead s.tty.fd io.received s.tty.rxbuf).count = length) :
      WritesWithin (· < bufSize) (answeredBuf s conn io) ↔
        replySize s.cfg.isStr length ≤ bufSize := by
  rw [answered_buf_eq some returned, replySize]
  have cleared := memset_writes_within bufSize 0
  cases s.cfg.isStr with
  | true =>
      simp only [if_true]
      constructor
      · intro within
        by_contra long
        have written := overwritten_inside within bufSize _ fun memory =>
          gl_hex2str_inside _ _ length bufSize (by omega)
        exact Nat.lt_irrefl _ written
      · intro room
        exact (gl_hex2str_writes_within bufSize length _ room).comp cleared
  | false =>
      simp only [Bool.false_eq_true, if_false]
      constructor
      · intro within
        by_contra long
        have written := overwritten_inside within bufSize _ fun memory =>
          strncpy_inside _ _ length bufSize (by omega)
        exact Nat.lt_irrefl _ written
      · intro room
        exact ((strncpy_writes_within_iff bufSize length _).mpr room).comp cleared

theorem written_from_eq (later : State) (conn : Ptr) (sending : VisitAnswers) (memory : Buf) :
    writtenFrom later conn sending memory =
      if (later.conn conn).sd ∈ later.sdsetwr then
        replyCall (later.update conn fun c => { c with buf := memory }) conn sending ::
          if connWrite sending.send ≤ 0 then [.closed conn (later.conn conn).sd] else []
      else [] := by
  have same : ((later.update conn fun c => { c with buf := memory }).conn conn).sd =
      (later.conn conn).sd := by
    rw [update_conn_same]
  have ready : (later.update conn fun c => { c with buf := memory }).sdsetwr = later.sdsetwr := rfl
  unfold writtenFrom socketSend replyCall
  dsimp only
  rw [same, ready]
  split
  · split <;> rfl
  · rfl

theorem reply_call_eq_iff (later : State) (conn : Ptr) (sending : VisitAnswers)
    (left right : Buf) :
      replyCall (later.update conn fun c => { c with buf := left }) conn sending =
          replyCall (later.update conn fun c => { c with buf := right }) conn sending ↔
        cells left later.tty.rxlen = cells right later.tty.rxlen := by
  have cfg : ∀ memory : Buf,
      (later.update conn fun c => { c with buf := memory }).cfg = later.cfg := fun _ => rfl
  have size : ∀ memory : Buf,
      (later.update conn fun c => { c with buf := memory }).tty = later.tty := fun _ => rfl
  simp only [replyCall, cfg, size, update_conn_same]
  cases later.cfg.isUdp with
  | true => simp [State.update]
  | false => simp

theorem written_from_reads_iff {later : State} {conn : Ptr} (sending : VisitAnswers)
    (writable : (later.conn conn).sd ∈ later.sdsetwr) :
      ReadsWithin (· < bufSize) (writtenFrom later conn sending) ↔ later.tty.rxlen ≤ bufSize := by
  have seen : ∀ left right, writtenFrom later conn sending left =
      writtenFrom later conn sending right ↔
        cells left later.tty.rxlen = cells right later.tty.rxlen := by
    intro left right
    rw [written_from_eq, written_from_eq, if_pos writable, if_pos writable, List.cons.injEq,
      and_iff_left rfl, reply_call_eq_iff]
  rw [← cells_reads_within_iff]
  constructor
  · intro within left right agree
    exact (seen left right).mp (within left right agree)
  · intro within left right agree
    exact (seen left right).mpr (within left right agree)

theorem answer_reads_iff {s : State} {conn : Ptr} {io : VisitAnswers} {length : Nat}
    (some : 0 < length) (returned : (ttyRead s.tty.fd io.received s.tty.rxbuf).count = length) :
      (∀ later : State, later.tty.rxlen = (ttyAnswer s conn io).1.tty.rxlen →
        ∀ sending, ReadsWithin (· < bufSize) (writtenFrom later conn sending)) ↔
        replySize s.cfg.isStr length ≤ bufSize := by
  rw [answered_rxlen some returned]
  constructor
  · intro within
    let later : State :=
      { s with
        tty := { s.tty with rxlen := replySize s.cfg.isStr length }
        sdsetwr := [(s.conn conn).sd] }
    have writable : (later.conn conn).sd ∈ later.sdsetwr := List.mem_singleton.mpr rfl
    exact (written_from_reads_iff io writable).mp (within later rfl io)
  · intro room later length sending
    by_cases writable : (later.conn conn).sd ∈ later.sdsetwr
    · exact (written_from_reads_iff sending writable).mpr (by omega)
    · intro left right _
      rw [written_from_eq, written_from_eq, if_neg writable, if_neg writable]

/-- An answer fits exactly when its reply, doubled as hex text, has 262 bytes at most. -/
theorem answer_fits_iff {s : State} {conn : Ptr} {io : VisitAnswers} {length : Nat}
    (some : 0 < length) (returned : (ttyRead s.tty.fd io.received s.tty.rxbuf).count = length) :
      AnswerFits s conn io ↔ replySize s.cfg.isStr length ≤ bufSize := by
  constructor
  · intro fits
    exact (answer_stores_iff some returned).mp fits.stores
  · intro room
    exact ⟨(answer_stores_iff some returned).mpr room, (answer_reads_iff some returned).mpr room⟩

theorem answer_fits_iff_131_bytes :
    AnswerFits (freshDaemon HexRequests.strOverTcp) 1 (textVisit [] (List.replicate 131 1)) := by
  have returned : (ttyRead (freshDaemon HexRequests.strOverTcp).tty.fd
      (textVisit [] (List.replicate 131 1)).received
      (freshDaemon HexRequests.strOverTcp).tty.rxbuf).count = (131 : Nat) := by
    decide +kernel
  exact (answer_fits_iff (by decide) returned).mpr (by decide)

/-- Two characters of the text of one read of 132 bytes lie behind the buffer. -/
theorem hex_text_leaves_connection :
    ¬AnswerFits (freshDaemon HexRequests.strOverTcp) 1 (textVisit [] (List.replicate 132 1)) := by
  have returned : (ttyRead (freshDaemon HexRequests.strOverTcp).tty.fd
      (textVisit [] (List.replicate 132 1)).received
      (freshDaemon HexRequests.strOverTcp).tty.rxbuf).count = (132 : Nat) := by
    decide +kernel
  intro fits
  exact absurd ((answer_stores_iff (by decide) returned).mp fits.stores) (by decide)

end Connection

/-! ## The arrays of the MQTT bridge -/

section Mqtt

open MqttBridge

def copiedPayload (payload : List Byte) (memory : Buf) : Buf :=
  put (strncpy memory (ofBytes payload) payload.length) payload.length 0

/-- What `gl_str2acsll` is given under `str`. -/
def payloadText (payload : List Byte) (memory : Buf) : Buf :=
  removeBlank1 (copiedPayload payload memory) payload.length

def payloadBytes (payload : List Byte) (memory : Buf) : Nat :=
  strlen (payloadText payload memory) 1025

theorem copied_payload_at_end (payload : List Byte) (memory : Buf) :
    copiedPayload payload memory payload.length = 0 := put_same _ _ _

end Mqtt

end GlRs485.BufferBounds
