import GlRs485.ServingVisits
import GlRs485.SpacedHex

/-!
# Requests in hex text

With `str` the bridge decodes a request before it writes. The only test is on the
length up to the first NUL: an odd length is refused, an even one is decoded
whatever its characters are. So the bridge does what hex text asks for exactly on
texts of odd length and on hex text that the decoder can finish.
-/

namespace GlRs485.HexRequests

open CBytes HexText HexCodec HexDecoder SpacedHex ConnectionQueue BridgeSettings SerialLine
open SocketBridge ServingVisits TracedSystem

set_option autoImplicit false

/-- An even number of hex digits once the blanks are gone. -/
def IsHexRequest (bytes : List Byte) : Prop :=
  (unblanked bytes).length % 2 = 0 ∧ ∀ digit ∈ unblanked bytes, IsHexDigit digit

instance (bytes : List Byte) : Decidable (IsHexRequest bytes) :=
  inferInstanceAs (Decidable (_ ∧ _))

/-- The part of a request that `strlen` sees after `remove_blank1`. -/
def textBeforeNul (bytes : List Byte) : List Byte :=
  (unblanked bytes).takeWhile fun c => c ≠ 0

def sentBytes (events : List Event) : List (List Byte) :=
  events.filterMap fun event => match event with
    | .line (.sent _ offered _) => some offered
    | _ => none

def AnsweredWith (conn : Ptr) (text : List Byte) (events : List Event) : Prop :=
  ∃ sd peer rc, .replied conn sd peer text rc ∈ events

/-- What a visit should do with a request: hex text is decoded and, on a line that
can be locked, its bytes are written; anything else is refused. -/
structure Handled (s : State) (conn : Ptr) (io : VisitAnswers) (bytes : List Byte) (s' : State)
    (events : List Event) : Prop where
  accepted : IsHexRequest bytes → s'.pc ≠ .endless ∧
    (0 ≤ s.tty.fd → io.lockFails ≤ 30 → sentBytes events = [pairValues (unblanked bytes)])
  refused : ¬IsHexRequest bytes →
    sentBytes events = [] ∧ AnsweredWith conn (ascii "data format error") events

/-- An odd length is refused, and the decoder ends on up to 252 digits. -/
def HandledRight (bytes : List Byte) : Prop :=
  (textBeforeNul bytes).length % 2 = 1 ∨
    IsHexRequest bytes ∧ (unblanked bytes).length ≤ 252

instance (bytes : List Byte) : Decidable (HandledRight bytes) := inferInstanceAs (Decidable (_ ∨ _))

theorem hex_text_before_nul (bytes : List Byte) (hex : IsHexRequest bytes) :
    textBeforeNul bytes = unblanked bytes := by
  exact takeWhile_zero_free _ fun zero => nonzero_of_hex 0 (hex.2 0 zero) rfl

theorem loaded_text (s : State) (conn : Ptr) (bytes : List Byte) (size : bytes.length ≤ 256) :
    let tty := (loadRequest s conn bytes).tty
    strlen (removeBlank1 tty.txbuf tty.txlen) ttyBufsize = (textBeforeNul bytes).length ∧
      cells (removeBlank1 tty.txbuf tty.txlen) (textBeforeNul bytes).length =
        textBeforeNul bytes := by
  have stored := cells_store (s.conn conn).buf 0 bytes
  rw [Nat.zero_add, show cells (s.conn conn).buf 0 = [] from rfl, List.nil_append] at stored
  have holds : cells (loadRequest s conn bytes).tty.txbuf bytes.length = bytes := by
    simp only [loadRequest, update_conn_same, cells_memcpy, stored]
  have ends : (loadRequest s conn bytes).tty.txbuf bytes.length = 0 := by
    simp only [loadRequest, memcpy, memset, ttyBufsize]
    rw [if_neg (by omega), if_pos (by omega)]
  obtain ⟨front, nul⟩ := remove_blank1_text _ bytes.length ends
  rw [holds] at front nul
  have fewer : (unblanked bytes).length ≤ bytes.length := List.length_filter_le _ _
  exact ⟨strlen_text _ _ _ (by simp only [ttyBufsize]; omega) front nul,
    cells_takeWhile _ _ _ front⟩

theorem text_reply_content (s : State) (conn : Ptr) (text : List Byte) (ends : NulsAtEnd text) :
    cells ((textReply s conn text).1.conn conn).buf (textReply s conn text).1.tty.rxlen = text := by
  have copied := (cells_strncpy_eq_iff (s.conn conn).buf (ofBytes text) text.length).mpr
    (by rwa [cells_ofBytes])
  rw [cells_ofBytes] at copied
  have buf := finish_reply_buf (s.update conn fun c =>
    { c with buf := strncpy c.buf (ofBytes text) text.length }) conn text.length
  rw [update_conn_same] at buf
  show cells ((finishReply _ conn text.length).1.conn conn).buf text.length = text
  rw [buf, copied]

theorem error_reply_followed (s : State) (conn : Ptr) (io : VisitAnswers) (text : List Byte)
    (before : List Event) (ends : NulsAtEnd text) :
      let replied := errorReply s conn text
      let sent := followSend (replied.1, before ++ replied.2.1, .send) conn io
      sent.2.2 ≠ .endless ∧ ∃ sd peer rc closing,
        sent.2.1 = before ++ .formed conn text :: .replied conn sd peer text rc :: closing ∧
          ∀ event ∈ closing, ∃ gone, event = .closed conn gone := by
  have formed := (error_reply_formed s conn text).shown
  have content : cells ((errorReply s conn text).1.conn conn).buf
      (errorReply s conn text).1.tty.rxlen = text := text_reply_content s conn text ends
  have writable :
      ((errorReply s conn text).1.conn conn).sd ∈ (errorReply s conn text).1.sdsetwr := by
    rw [(error_reply_formed s conn text).frame.sd]
    simp [errorReply]
  rw [content] at formed
  have call : ∃ sd peer rc, replyCall (errorReply s conn text).1 conn io =
      .replied conn sd peer text rc := by
    unfold replyCall
    rw [content]
    split
    · exact ⟨_, _, _, rfl⟩
    · exact ⟨_, _, _, rfl⟩
  obtain ⟨sd, peer, rc, called⟩ := call
  rcases socket_send_cases (errorReply s conn text).1 conn io with ⟨held, _⟩ | ⟨_, sent⟩ | ⟨_, lost⟩
  · exact absurd writable held
  · refine ⟨?_, sd, peer, rc, [], ?_, by simp⟩
    · simp [followSend, sent]
    · simp [followSend, sent, formed, called]
  · refine ⟨?_, sd, peer, rc, [.closed conn ((errorReply s conn text).1.conn conn).sd], ?_, ?_⟩
    · simp [followSend, lost]
    · simp [followSend, lost, formed, called]
    · intro event member
      exact ⟨_, List.mem_singleton.mp member⟩

theorem reads_send_nothing (fd : Int) (results : List RxResult) (buf : Buf) :
    sentBytes ((ttyRead fd results buf).events.map .line) = [] := by
  rw [sentBytes, List.filterMap_map]
  exact reads_filterMap _ (fun _ _ => rfl) fd results buf 0

theorem locks_send_nothing (fd : Int) (fails : Nat) :
    sentBytes ((flockLoop fd fails 0).2.map .line) = [] := by
  rw [sentBytes, List.filterMap_map]
  exact locks_filterMap _ (fun _ _ => rfl) fd fails 0

theorem sentBytes_append (front back : List Event) :
    sentBytes (front ++ back) = sentBytes front ++ sentBytes back := by
  rw [sentBytes, List.filterMap_append]
  rfl

theorem tty_request_hands_over (s : State) (conn : Ptr) (io : VisitAnswers)
    (ready : s.tty.fd ∈ s.sdsetwr) (port : 0 ≤ s.tty.fd) (locked : io.lockFails ≤ 30) :
      sentBytes (ttyRequest s conn io).2.1 = [cells s.tty.writebuf s.tty.txlen] ∧
        (ttyRequest s conn io).2.2 = .done := by
  have written := tty_write_obtained s.tty.fd io.lockFails io.written
    (cells s.tty.writebuf s.tty.txlen) port locked
  obtain ⟨events, formed, shown, done⟩ := tty_answer_formed (afterWrite s io) conn io
  rw [tty_request_eq s conn io ready, written]
  dsimp only
  rw [if_neg (by simp), shown, formed.shown, writeCalls, written]
  refine ⟨?_, done⟩
  rw [sentBytes_append, sentBytes_append, reads_send_nothing, List.map_cons, List.map_append,
    ← List.singleton_append, sentBytes_append, sentBytes_append, locks_send_nothing]
  rfl

theorem tty_request_format_kept (s : State) (conn : Ptr) (io : VisitAnswers) (bytes : List Byte)
    (ready : s.tty.fd ∈ s.sdsetwr) :
      let request := ttyRequest s conn io
      let served := followSend (request.1, .request conn bytes :: request.2.1, request.2.2) conn io
      served.2.2 ≠ .endless ∧ ¬AnsweredWith conn (ascii "data format error") served.2.1 := by
  dsimp only
  rw [tty_request_eq s conn io ready]
  dsimp only
  split
  · obtain ⟨ended, sd, peer, rc, closing, shown, closes⟩ :=
      error_reply_followed (afterWrite s io) conn io (ascii "tty write error")
        (.request conn bytes :: (writeCalls s io).map .line) (by decide +kernel)
    refine ⟨ended, ?_⟩
    intro answered
    obtain ⟨sd', peer', rc', member⟩ := answered
    have listed : Event.replied conn sd' peer' (ascii "data format error") rc' ∈
        .request conn bytes :: (writeCalls s io).map .line ++
          .formed conn (ascii "tty write error") ::
          .replied conn sd peer (ascii "tty write error") rc :: closing := shown ▸ member
    simp only [List.cons_append, List.mem_cons, List.mem_append, List.mem_map, reduceCtorEq,
      and_false, exists_false, false_or, Event.replied.injEq] at listed
    rcases listed with same | closed
    · exact absurd same.2.2.2.1 (by decide)
    · obtain ⟨gone, event⟩ := closes _ closed
      exact absurd event (by simp)
  · obtain ⟨events, formed, shown, done⟩ := tty_answer_formed (afterWrite s io) conn io
    rw [done, shown, formed.shown]
    simp [followSend, AnsweredWith]

theorem refusal_sends_nothing {conn : Ptr} {bytes text : List Byte} {sd rc : Int}
    {peer : Option Nat} {closing : List Event}
    (closes : ∀ event ∈ closing, ∃ gone, event = .closed conn gone) :
      sentBytes (.request conn bytes :: .formed conn text :: .replied conn sd peer text rc ::
        closing) = [] := by
  rw [sentBytes, List.filterMap_eq_nil_iff]
  intro event member
  simp only [List.mem_cons] at member
  rcases member with asked | formed | replied | closed
  · rw [asked]
  · rw [formed]
  · rw [replied]
  · obtain ⟨gone, closing⟩ := closes event closed
    rw [closing]

theorem locked_out_sends_nothing (s : State) (conn : Ptr) (io : VisitAnswers) (bytes : List Byte)
    (ready : s.tty.fd ∈ s.sdsetwr) (busy : 30 < io.lockFails) :
      let request := ttyRequest s conn io
      sentBytes (followSend (request.1, .request conn bytes :: request.2.1, request.2.2)
        conn io).2.1 = [] := by
  have refused : (ttyWrite s.tty.fd io.lockFails io.written
        (cells s.tty.writebuf s.tty.txlen)).1 < 0 ∧
      sentBytes ((ttyWrite s.tty.fd io.lockFails io.written
        (cells s.tty.writebuf s.tty.txlen)).2.map .line) = [] := by
    rcases tty_write_cases s.tty.fd io.lockFails io.written (cells s.tty.writebuf s.tty.txlen) with
      ⟨_, outcome⟩ | ⟨_, _, outcome⟩ | ⟨_, free, _⟩
    · rw [outcome]
      exact ⟨by simp, rfl⟩
    · rw [outcome]
      refine ⟨by simp, ?_⟩
      rw [List.map_append, sentBytes_append, locks_send_nothing]
      rfl
    · omega
  obtain ⟨_, sd, peer, rc, closing, shown, closes⟩ :=
    error_reply_followed (afterWrite s io) conn io (ascii "tty write error")
      (.request conn bytes :: (writeCalls s io).map .line) (by decide +kernel)
  have calls : sentBytes (.request conn bytes :: (writeCalls s io).map .line) = [] := refused.2
  dsimp only
  rw [tty_request_eq s conn io ready]
  dsimp only
  rw [if_pos refused.1]
  refine (congrArg sentBytes shown).trans ?_
  rw [sentBytes_append, calls, List.nil_append]
  exact @refusal_sends_nothing conn bytes (ascii "tty write error") sd rc peer closing closes

def decodedRequest (s : State) (length : Nat) : State :=
  let txbuf := removeBlank1 s.tty.txbuf s.tty.txlen
  { s with tty := { s.tty with
      txbuf := txbuf
      txlen := length / 2
      writebuf := packedCells length (digitCells txbuf length s.tty.writebuf) } }

theorem odd_text_refused {s : State} {length : Nat} (text : s.cfg.isStr = true)
    (counted : strlen (removeBlank1 s.tty.txbuf s.tty.txlen) ttyBufsize = length)
    (odd : length % 2 = 1) (conn : Ptr) (io : VisitAnswers) (bytes : List Byte) :
      let dispatched := dispatchRequest s conn io
      let served :=
        followSend (dispatched.1, .request conn bytes :: dispatched.2.1, dispatched.2.2) conn io
      served.2.2 ≠ .endless ∧ sentBytes served.2.1 = [] ∧
        AnsweredWith conn (ascii "data format error") served.2.1 := by
  rw [dispatchRequest, if_pos text]
  dsimp only
  rw [counted, if_pos odd]
  obtain ⟨ended, sd, peer, rc, closing, shown, closes⟩ := error_reply_followed
    { s with tty := { s.tty with
        txbuf := removeBlank1 s.tty.txbuf s.tty.txlen
        txlen := length } }
    conn io (ascii "data format error") [.request conn bytes] (by decide +kernel)
  rw [List.singleton_append] at ended shown
  refine ⟨ended, (congrArg sentBytes shown).trans (refusal_sends_nothing closes), sd, peer, rc, ?_⟩
  exact shown.symm ▸ by simp

theorem even_text_dispatched {s : State} {length : Nat} (text : s.cfg.isStr = true)
    (counted : strlen (removeBlank1 s.tty.txbuf s.tty.txlen) ttyBufsize = length)
    (even : length % 2 = 0) (conn : Ptr) (io : VisitAnswers) :
      (length < 254 → dispatchRequest s conn io = ttyRequest (decodedRequest s length) conn io) ∧
        (254 ≤ length → (dispatchRequest s conn io).2 = ([], .endless)) := by
  rw [dispatchRequest, if_pos text]
  dsimp only
  rw [counted, if_neg (by omega), str2acsll_eq]
  constructor
  · intro short
    rw [if_pos short]
    rfl
  · intro long
    rw [if_neg (by omega)]

/-- The three ways a text goes: refused by its length, decoded, or never decoded. -/
theorem text_served (s : State) (conn : Ptr) (io : VisitAnswers) (bytes : List Byte) (peer : Nat)
    (text : s.cfg.isStr = true) (reads : Reads s conn io bytes peer) (size : bytes.length ≤ 256) :
      let served := serveConn s conn io
      let length := (textBeforeNul bytes).length
      (length % 2 = 1 → served.2.2 ≠ .endless ∧ sentBytes served.2.1 = [] ∧
        AnsweredWith conn (ascii "data format error") served.2.1) ∧
      (length % 2 = 0 → ¬AnsweredWith conn (ascii "data format error") served.2.1 ∧
        (served.2.2 = .endless ↔ 254 ≤ length) ∧
        (length < 254 → 0 ≤ s.tty.fd → io.lockFails ≤ 30 →
          ∃ strIn out, cells strIn length = textBeforeNul bytes ∧
            sentBytes served.2.1 =
              [cells (packedCells length (digitCells strIn length out)) (length / 2)]) ∧
        (30 < io.lockFails → sentBytes served.2.1 = [])) := by
  have frame := loaded_frame s conn peer bytes
  obtain ⟨counted, content⟩ := loaded_text (heardState s conn peer) conn bytes size
  have ready : (loadRequest (heardState s conn peer) conn bytes).tty.fd ∈
      (loadRequest (heardState s conn peer) conn bytes).sdsetwr := by
    simp [loadRequest]
  have stillText : (loadRequest (heardState s conn peer) conn bytes).cfg.isStr = true := by
    rw [frame.cfg, text]
  have ttyFd := frame.ttyFd
  dsimp only
  rw [serve_conn_heard reads]
  generalize loadRequest (heardState s conn peer) conn bytes = loaded at *
  constructor
  · intro odd
    exact odd_text_refused stillText counted odd conn io bytes
  · intro even
    dsimp only
    obtain ⟨decodes, endless⟩ := even_text_dispatched stillText counted even conn io
    by_cases short : (textBeforeNul bytes).length < 254
    · rw [decodes short]
      have writable : (decodedRequest loaded (textBeforeNul bytes).length).tty.fd ∈
          (decodedRequest loaded (textBeforeNul bytes).length).sdsetwr := ready
      obtain ⟨ended, kept⟩ := tty_request_format_kept _ conn io bytes writable
      refine ⟨kept, ⟨fun endless => absurd endless ended, by omega⟩, ?_,
        locked_out_sends_nothing _ conn io bytes writable⟩
      intro _ port locked
      obtain ⟨handed, done⟩ := tty_request_hands_over _ conn io writable
        (show 0 ≤ loaded.tty.fd by rw [ttyFd]; exact port) locked
      refine ⟨_, loaded.tty.writebuf, content, ?_⟩
      rw [done]
      exact handed
    · rw [endless (by omega)]
      exact ⟨by simp [followSend, AnsweredWith], ⟨fun _ => by omega, fun _ => rfl⟩,
        fun below => absurd below short, fun _ => rfl⟩

theorem stale_answers_nothing {conn : Ptr} {text : List Byte} {served events : List Event}
    (shown : ∃ stale, events = served ++ stale ∧ ∀ event ∈ stale, ∃ gone, event = .staleRead gone) :
      AnsweredWith conn text events ↔ AnsweredWith conn text served := by
  obtain ⟨stale, rfl, stales⟩ := shown
  have noAnswer : ¬AnsweredWith conn text stale := by
    intro answered
    obtain ⟨sd, peer, rc, member⟩ := answered
    obtain ⟨gone, event⟩ := stales _ member
    exact absurd event (by simp)
  simp only [AnsweredWith] at noAnswer ⊢
  simp only [List.mem_append, exists_or]
  exact or_iff_left noAnswer

/-- A visit does what hex text asks for exactly on texts of odd length and on hex
text of at most 252 digits. -/
theorem hex_request_handled_iff {longBits : Nat} {s s' : State} {more : Nat} {conn : Ptr}
    {io : VisitAnswers} {bytes : List Byte} {peer : Nat} {events : List Event}
    (text : s.cfg.isStr = true) (pc : s.pc = .serving more (some conn))
    (reads : Reads s conn io bytes peer) (size : bytes.length ≤ 256)
    (stepped : step longBits s (.visit io) = some (s', events)) :
      Handled s conn io bytes s' events ↔ HandledRight bytes := by
  obtain ⟨endless, shown⟩ := visit_step_served pc stepped
  obtain ⟨oddServed, evenServed⟩ := text_served s conn io bytes peer text reads size
  have sent : sentBytes events = sentBytes (serveConn s conn io).2.1 :=
    stale_hidden _ shown fun _ => rfl
  have answered : AnsweredWith conn (ascii "data format error") events ↔
      AnsweredWith conn (ascii "data format error") (serveConn s conn io).2.1 :=
    stale_answers_nothing shown
  constructor
  · intro handled
    by_cases odd : (textBeforeNul bytes).length % 2 = 1
    · exact Or.inl odd
    · obtain ⟨kept, ended, _⟩ := evenServed (by omega)
      have hex : IsHexRequest bytes := by
        by_contra other
        exact kept (answered.mp (handled.refused other).2)
      refine Or.inr ⟨hex, ?_⟩
      have finished := (handled.accepted hex).1
      rw [Ne, endless, ended, hex_text_before_nul bytes hex] at finished
      have even := hex.1
      omega
  · intro right
    rcases right with odd | ⟨hex, short⟩
    · have noHex : ¬IsHexRequest bytes := by
        intro hex
        rw [hex_text_before_nul bytes hex] at odd
        have even := hex.1
        omega
      obtain ⟨_, none, refused⟩ := oddServed odd
      exact ⟨fun hex => absurd hex noHex, fun _ => ⟨sent.trans none, answered.mpr refused⟩⟩
    · have whole := hex_text_before_nul bytes hex
      obtain ⟨_, ended, decoded, _⟩ := evenServed (by rw [whole]; exact hex.1)
      rw [whole] at ended decoded
      refine ⟨fun _ => ⟨?_, ?_⟩, fun other => absurd hex other⟩
      · rw [Ne, endless, ended]
        omega
      · intro port locked
        obtain ⟨strIn, out, content, handed⟩ := decoded (by omega) port locked
        rw [sent, handed, packed_cells_of_hex _ strIn out content hex.2]

def strOverTcp : Cfg := ⟨0, 32, 0, 0, ascii "str", ascii "tcps"⟩

def clientAsks : List Answers := [passWith [4] [] 5 1, visitWith [] 0 [] 0, passWith [5] [] 6 2]

def askedText (request : List Byte) : VisitAnswers :=
  { recv := [.data request 0]
    lockFails := 0
    written := [request.length]
    received := []
    send := [.accepted 17]
    scrap := blankConn }

theorem client_asks_reached (request : List Byte) (nonempty : request ≠ []) :
    ∃ s trace, Run (step 64) Admissible (freshDaemon strOverTcp) trace s ∧
      s.cfg.isStr = true ∧ s.pc = .serving 0 (some 1) ∧
        Reads s 1 (askedText request) request 0 := by
  obtain ⟨s, trace, run, shown⟩ := run_of_replay_view (step 64) Admissible
    (fun reached => (reached.1.cfg.isStr, reached.1.pc, readsRequests (reached.1.conn 1).state,
      decide ((reached.1.conn 1).sd ∈ reached.1.sdsetrd)))
    clientAsks (freshDaemon strOverTcp) (true, .serving 0 (some 1), true, true) (by decide +kernel)
  simp only [Prod.mk.injEq, decide_eq_true_eq] at shown
  exact ⟨s, trace, run, shown.1, shown.2.1, shown.2.2.1, shown.2.2.2, rfl, nonempty⟩

theorem hex_request_handled_iff_on_text :
    ∃ s s' events, step 64 s (.visit (askedText (ascii "0a 1F"))) = some (s', events) ∧
      (Handled s 1 (askedText (ascii "0a 1F")) (ascii "0a 1F") s' events ↔
        HandledRight (ascii "0a 1F")) := by
  obtain ⟨s, trace, run, text, pc, reads⟩ := client_asks_reached (ascii "0a 1F") (by decide)
  have stepped : step 64 s (.visit (askedText (ascii "0a 1F"))) =
      some (visitStep s 0 (some 1) (askedText (ascii "0a 1F"))) := by
    simp only [step, pc]
  exact ⟨s, _, _, stepped, hex_request_handled_iff text pc reads (by decide) stepped⟩

/-- `G` stores nothing, so its place in the output still holds the raw request. -/
theorem stray_letter_is_sent :
    ∃ s trace s' events, Run (step 64) Admissible (freshDaemon strOverTcp) trace s ∧
      Reads s 1 (askedText (ascii "1G")) (ascii "1G") 0 ∧
        step 64 s (.visit (askedText (ascii "1G"))) = some (s', events) ∧
          sentBytes events = [[87]] ∧
            ¬Handled s 1 (askedText (ascii "1G")) (ascii "1G") s' events := by
  obtain ⟨s, trace, run, shown⟩ := run_of_replay_view (step 64) Admissible
    (fun reached => ((step 64 reached.1 (.visit (askedText (ascii "1G")))).map fun taken =>
      sentBytes taken.2, readsRequests (reached.1.conn 1).state,
      decide ((reached.1.conn 1).sd ∈ reached.1.sdsetrd)))
    clientAsks (freshDaemon strOverTcp) (some [[87]], true, true) (by decide +kernel)
  simp only [Prod.mk.injEq, decide_eq_true_eq, Option.map_eq_some_iff] at shown
  obtain ⟨⟨⟨s', events⟩, stepped, sent⟩, asked, readable⟩ := shown
  refine ⟨s, trace, s', events, run, ⟨asked, readable, rfl, by decide⟩, stepped, sent, ?_⟩
  intro handled
  have nothing := (handled.refused (by decide)).1
  rw [sent] at nothing
  exact absurd nothing (by decide)

end GlRs485.HexRequests
