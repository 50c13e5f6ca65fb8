import GlRs485.HexRequests
import GlRs485.MqttTransparency
import GlRs485.SocketTransparency
import GlRs485.TerminalApi

/-!
# The transmission type

`str` and `hex` decide whether a payload is hex text that is decoded on its way
to the line and an answer is given back as hex text, or both pass as they are.
The two bridges translate under `str`, the terminal call under `hex`.
-/

namespace GlRs485.TransmissionType

open CBytes HexText HexCodec HexDecoder SpacedHex ConnectionQueue BridgeSettings SerialLine
open RegisterApi TerminalApi SocketBridge ServingVisits HexRequests MqttTransparency
open SocketTransparency TracedSystem

set_option autoImplicit false

/-! ## What a transmission is -/

/-- The bytes on the line for a payload, hex text where `translates`. -/
def lineBytes (translates : Bool) (payload : List Byte) : List Byte :=
  if translates then pairValues (unblanked payload) else payload

/-- The text for the user of the bytes that the device answered. -/
def userText (translates : Bool) (answer : List Byte) : List Byte :=
  if translates then hexTextOf answer else answer

/-- A bridge says so when there was no answer. -/
def bridgeReply (translates : Bool) (answer : List Byte) : List Byte :=
  if answer = [] then ascii "no data" else userText translates answer

structure Transmission where
  written : List Byte
  given : List (List Byte)
  deriving DecidableEq

/-- An even number of hex digits, as many as the decoder takes. -/
structure HexPayload (payload : List Byte) : Prop where
  hex : IsHexRequest payload
  digits : (unblanked payload).length ≤ 252
  size : payload.length ≤ 256

theorem HexPayload.zero_free {payload : List Byte} (plain : HexPayload payload) :
    (0 : Byte) ∉ payload := by
  intro zero
  have kept : (0 : Byte) ∈ unblanked payload := List.mem_filter.mpr ⟨zero, by decide⟩
  exact nonzero_of_hex 0 (plain.hex.2 0 kept) rfl

theorem HexPayload.digits_zero_free {payload : List Byte} (plain : HexPayload payload) :
    (0 : Byte) ∉ unblanked payload := fun zero => plain.zero_free (List.mem_of_mem_filter zero)

theorem HexPayload.decoded {payload : List Byte} (plain : HexPayload payload) (strIn out : Buf)
    (text : cells strIn (unblanked payload).length = unblanked payload) :
      ∃ result, glStr2acsll strIn (unblanked payload).length out = some result ∧
        cells result ((unblanked payload).length / 2) = pairValues (unblanked payload) := by
  have digits := plain.digits
  rw [str2acsll_eq, if_pos (by omega)]
  exact ⟨_, rfl, packed_cells_of_hex _ strIn out text plain.hex.2⟩

/-- What the receive loop takes of the results of its reads. -/
def gathered : List RxResult → List Byte
  | [] => []
  | .failed _ :: _ => []
  | .data bytes :: rest => if bytes.length = 8 then bytes ++ gathered rest else bytes

def storedBytes : List RxResult → List Byte
  | [] => []
  | .failed stored :: _ => stored
  | .data bytes :: rest => if bytes.length = 8 then bytes ++ storedBytes rest else bytes

theorem storedBytes_gathered {results : List RxResult}
    (noneFailed : ∀ result ∈ results, result.fails = false) :
      storedBytes results = gathered results := by
  induction results with
  | nil => rfl
  | cons first rest ih =>
      cases first with
      | failed stored => simp [RxResult.fails] at noneFailed
      | data bytes => rw [storedBytes, gathered, ih (List.forall_mem_cons.mp noneFailed).2]

/-- The device answers, without zeros and with 100 bytes at most. -/
structure DeviceAnswers (results : List RxResult) (answer : List Byte) : Prop where
  noneFailed : ∀ result ∈ results, result.fails = false
  gathers : gathered results = answer
  zeroFree : (0 : Byte) ∉ answer
  short : answer.length ≤ 100

theorem receive_loop_gathers (fd : Int) (results : List RxResult) (buf : Buf) (count : Nat) :
    (receiveLoop fd results buf count).events.flatMap lineData = gathered results := by
  induction results generalizing buf count with
  | nil => rfl
  | cons first rest ih =>
      cases first with
      | failed stored => rfl
      | data bytes =>
          by_cases eight : bytes.length = 8
          · simp [receiveLoop, gathered, eight, lineData, ih]
          · simp [receiveLoop, gathered, eight, lineData]

theorem receive_loop_beyond (fd : Int) (results : List RxResult) (buf : Buf) (count index : Nat)
    (beyond : count + (storedBytes results).length ≤ index) :
      (receiveLoop fd results buf count).buf index = buf index := by
  induction results generalizing buf count with
  | nil => rfl
  | cons first rest ih =>
      cases first with
      | failed stored => exact if_neg (by simp only [storedBytes] at beyond; omega)
      | data bytes =>
          by_cases eight : bytes.length = 8
          · simp only [storedBytes, if_pos eight, List.length_append] at beyond
            have later := ih (store buf count bytes) (count + 8) (by omega)
            simp only [receiveLoop, if_pos eight, later]
            rw [store, if_neg (by omega)]
          · simp only [storedBytes, if_neg eight] at beyond
            simp only [receiveLoop, if_neg eight]
            rw [store, if_neg (by omega)]

theorem tty_read_answer {results : List RxResult} {answer : List Byte}
    (answers : DeviceAnswers results answer) (fd : Int) (buf : Buf) :
      (ttyRead fd results buf).count = answer.length ∧
        cells (ttyRead fd results buf).buf answer.length = answer := by
  obtain ⟨counted, stored⟩ := receive_loop_stores fd results buf 0 answers.noneFailed
  rw [receive_loop_gathers, answers.gathers] at counted stored
  rw [Nat.zero_add] at stored
  exact ⟨by rw [ttyRead, counted, Nat.cast_zero, Int.zero_add], stored⟩

theorem gl_hex2str_beyond (input output : Buf) (count index : Nat) (beyond : 2 * count ≤ index) :
    glHex2str input count output index = output index := by
  induction count with
  | zero => rfl
  | succ count ih =>
      have step : glHex2str input (count + 1) output =
          glHex2strStep input (glHex2str input count output) count := by
        simp [glHex2str, List.range_succ]
      rw [step, glHex2strStep, put_other _ _ _ _ (by omega), put_other _ _ _ _ (by omega),
        ih (by omega)]

theorem hex_text_string (input : Buf) (count size : Nat) (room : 2 * count < size) :
    cString (glHex2str input count fun _ => 0) size = hexTextOf (cells input count) := by
  have text := gl_hex2str_text input (fun _ => 0) count
  have length : (hexTextOf (cells input count)).length = 2 * count := by
    rw [hex_text_length, cells_length]
  have zeroFree : (0 : Byte) ∉ hexTextOf (cells input count) := fun zero =>
    nonzero_of_hex 0 (hex_text_digits _ 0 zero) rfl
  have ends := gl_hex2str_beyond input (fun _ => 0) count (2 * count) (Nat.le_refl _)
  apply cString_zero_free _ _ _ zeroFree
  · omega
  · rw [length, text]
  · rw [length, ends]

/-! ## The terminal call -/

def lineWrites (calls : List LineEvent) : List (List Byte) :=
  calls.filterMap fun call => match call with
    | .sent _ offered _ => some offered
    | _ => none

def alldataTexts (fields : List JsonLeaf) : List (List Byte) :=
  fields.filterMap fun field => match field with
    | .string key value => if key = "alldata" then some value else none
    | _ => none

def terminalTransmission (result : ApiResult) : Transmission :=
  ⟨(lineWrites result.events).flatten, result.output.flatMap fun field => match field with
    | .object _ fields => alldataTexts fields
    | _ => []⟩

theorem locks_write_nothing (fd : Int) (fails : Nat) :
    lineWrites (flockLoop fd fails 0).2 = [] :=
  locks_filterMap _ (fun _ _ => rfl) fd fails 0

theorem reads_write_nothing (fd : Int) (results : List RxResult) (buf : Buf) :
    lineWrites (ttyRead fd results buf).events = [] :=
  reads_filterMap _ (fun _ _ => rfl) fd results buf 0

theorem lineWrites_append (front back : List LineEvent) :
    lineWrites (front ++ back) = lineWrites front ++ lineWrites back :=
  List.filterMap_append

theorem send_and_receive_obtained (line : LineAnswers) (data : List Byte) (port : 0 ≤ line.fd)
    (locked : line.lockFails ≤ 30) :
      lineWrites (sendAndReceive line data).events = [data] ∧
        (sendAndReceive line data).buf = (ttyRead line.fd line.received fun _ => 0).buf ∧
          (sendAndReceive line data).count = (ttyRead line.fd line.received fun _ => 0).count := by
  have written := tty_write_obtained line.fd line.lockFails line.written data port locked
  unfold sendAndReceive
  rw [written]
  dsimp only
  rw [if_neg (by omega)]
  refine ⟨?_, rfl, rfl⟩
  rw [lineWrites_append, lineWrites_append, lineWrites_append, reads_write_nothing,
    locks_write_nothing]
  rfl

/-- The decoder on the text that `remove_blank` leaves. -/
theorem remove_blank_decoded (payload : List Byte) (plain : HexPayload payload) :
    let size := payload.length + 1
    let sData := removeBlank (ofBytes payload) size
    strlen sData size = (unblanked payload).length ∧
      ∃ writeData, glStr2acsll sData (unblanked payload).length (fun _ => 0) = some writeData ∧
        cells writeData ((unblanked payload).length / 2) = pairValues (unblanked payload) := by
  dsimp only
  have fewer : (unblanked payload).length ≤ payload.length := List.length_filter_le _ _
  have ends := ofBytes_beyond payload payload.length (Nat.le_refl _)
  have length := strlen_zero_free payload (ofBytes payload) (payload.length + 1) plain.zero_free
    (Nat.lt_succ_self _) (cells_ofBytes payload) ends
  obtain ⟨text, ended⟩ := remove_blank1_text (ofBytes payload) payload.length ends
  rw [cells_ofBytes] at text ended
  rw [remove_blank_eq _ _ (by omega), length]
  exact ⟨strlen_zero_free _ _ _ plain.digits_zero_free (by omega) text ended,
    plain.decoded _ _ text⟩

theorem terminal_report_alldata (input : TerminalInput) (around : TerminalSurroundings)
    (reception : Reception) (answer : List Byte) (short : answer.length ≤ 100)
    (zeroFree : (0 : Byte) ∉ answer) (counted : reception.count = answer.length)
    (stored : cells reception.buf answer.length = answer)
    (ends : reception.buf answer.length = 0) :
      alldataTexts (terminalReport input around reception) =
        [userText (around.ttytype = ascii "hex") answer] := by
  have text : (if around.ttytype = ascii "hex" then hexAlldata reception.buf reception.count
      else cells reception.buf (strlen reception.buf 512)) =
        userText (around.ttytype = ascii "hex") answer := by
    unfold userText
    by_cases hex : around.ttytype = ascii "hex"
    · have encoded := hex_text_string reception.buf answer.length 1024 (by omega)
      rw [stored] at encoded
      simp only [hex, if_true, decide_true]
      rw [hexAlldata, counted, Int.toNat_natCast]
      exact encoded
    · simp only [hex, if_false, decide_false, Bool.false_eq_true]
      exact cString_zero_free answer reception.buf 512 zeroFree (by omega) stored ends
  unfold terminalReport
  rw [text]
  cases input.showSend <;> cases input.showDate <;> rfl

theorem terminal_call_returns (input : TerminalInput) (around : TerminalSurroundings)
    (line : LineAnswers) (answer : List Byte) (plain : HexPayload input.data)
    (answers : DeviceAnswers line.received answer) (port : 0 ≤ line.fd)
    (locked : line.lockFails ≤ 30) :
      ∃ result, terminalSendRead input around line = some result ∧
        terminalTransmission result = ⟨lineBytes (around.ttytype = ascii "hex") input.data,
          [userText (around.ttytype = ascii "hex") answer]⟩ := by
  have transmits : ∀ data, terminalTransmission
      ⟨0, [.object "rs485_data" (terminalReport input around (sendAndReceive line data))],
        openedPort line.fd ++ (sendAndReceive line data).events⟩ =
          ⟨data, [userText (around.ttytype = ascii "hex") answer]⟩ := by
    intro data
    obtain ⟨writes, buf, count⟩ := send_and_receive_obtained line data port locked
    obtain ⟨counted, stored⟩ := tty_read_answer answers line.fd fun _ => 0
    have beyond := receive_loop_beyond line.fd line.received (fun _ => 0) 0 answer.length
      (by rw [storedBytes_gathered answers.noneFailed, answers.gathers]; omega)
    have given := terminal_report_alldata input around (sendAndReceive line data) answer
      answers.short answers.zeroFree (by rw [count, counted]) (by rw [buf, stored])
      (by rw [buf]; exact beyond)
    have opening : lineWrites (openedPort line.fd) = [] := by
      unfold openedPort
      split <;> rfl
    rw [terminalTransmission, lineWrites_append, opening, writes]
    simp [given]
  unfold terminalSendRead lineBytes
  dsimp only
  by_cases hex : around.ttytype = ascii "hex"
  · obtain ⟨length, writeData, decoded, values⟩ := remove_blank_decoded input.data plain
    have even := plain.hex.1
    rw [if_pos hex, length, if_neg (by omega), decoded]
    refine ⟨_, rfl, ?_⟩
    rw [transmits, values]
    simp [hex]
  · rw [if_neg hex]
    refine ⟨_, rfl, ?_⟩
    rw [transmits, strlen_zero_free input.data _ _ plain.zero_free (Nat.lt_succ_self _)
      (cells_ofBytes _) (ofBytes_beyond _ _ (Nat.le_refl _)), cells_ofBytes]
    simp [hex]

/-- A call with the payload on a port that can be locked, answered by the device. -/
structure TerminalCall (input : TerminalInput) (around : TerminalSurroundings) (line : LineAnswers)
    (payload answer : List Byte) (result : ApiResult) : Prop where
  data : input.data = payload
  answers : DeviceAnswers line.received answer
  port : 0 ≤ line.fd
  locked : line.lockFails ≤ 30
  returned : terminalSendRead input around line = some result

theorem terminal_transmits {input : TerminalInput} {around : TerminalSurroundings}
    {line : LineAnswers} {payload answer : List Byte} {result : ApiResult}
    (plain : HexPayload payload)
    (call : TerminalCall input around line payload answer result) :
      terminalTransmission result = ⟨lineBytes (around.ttytype = ascii "hex") payload,
        [userText (around.ttytype = ascii "hex") answer]⟩ := by
  obtain ⟨data, answers, port, locked, returned⟩ := call
  subst data
  obtain ⟨other, same, transmits⟩ :=
    terminal_call_returns input around line answer plain answers port locked
  rw [returned] at same
  rw [Option.some.inj same]
  exact transmits

/-! ## The MQTT bridge -/

def mqttTransmission (events : List MqttBridge.Event) : Transmission :=
  ⟨(handed events).flatten, publications events⟩

theorem forward_replies (s : MqttBridge.State) (io : MqttBridge.ReceiveAnswers) (nbytes : Nat)
    (answer : List Byte) (answers : DeviceAnswers io.received answer) :
      (MqttBridge.forward s io nbytes).2.2 = bridgeReply s.cfg.isStr answer := by
  obtain ⟨counted, stored⟩ := tty_read_answer answers s.fd s.recBuff
  have short := answers.short
  unfold MqttBridge.forward bridgeReply
  dsimp only
  rw [counted]
  by_cases empty : answer = []
  · rw [if_pos empty, if_pos (by simp [empty])]
  · have positive := List.length_pos_iff.mpr empty
    rw [if_neg (by omega), if_neg empty, Int.toNat_natCast]
    unfold userText
    have encoded := hex_text_string (ttyRead s.fd io.received s.recBuff).buf answer.length 1025
      (by omega)
    rw [stored] at encoded
    rw [MqttBridge.State.calls_cfg]
    cases text : s.cfg.isStr with
    | true => exact encoded
    | false => exact stored

theorem forward_transmits (s : MqttBridge.State) (io : MqttBridge.ReceiveAnswers) (nbytes : Nat)
    (answer : List Byte) (answers : DeviceAnswers io.received answer) (port : 0 ≤ s.fd)
    (locked : io.lockFails ≤ 30) (events : List MqttBridge.Event)
    (before : handed events = [] ∧ publications events = []) :
      mqttTransmission (events ++ ((MqttBridge.forward s io nbytes).2.1.map .line ++
        [.published (MqttBridge.forward s io nbytes).2.2])) =
          ⟨cells s.writeBuff nbytes, [bridgeReply s.cfg.isStr answer]⟩ := by
  have hands := forward_handed s io nbytes port locked
  rw [mqttTransmission, handed_append, handed_append, publications_append, publications_append,
    before.1, before.2, hands, publications_calls, forward_replies s io nbytes answer answers]
  simp [handed, publications]

structure MqttTurn (s : MqttBridge.State) (io : MqttBridge.ReceiveAnswers)
    (payload answer : List Byte) (s' : MqttBridge.State) (events : List MqttBridge.Event) :
    Prop where
  receiving : s.pc = .receiving
  connected : io.rc ≠ -3
  message : io.message = some payload
  answers : DeviceAnswers io.received answer
  port : 0 ≤ s.fd
  locked : io.lockFails ≤ 30
  taken : MqttBridge.step s (.receive io) = some (s', events)

theorem mqtt_transmits {s s' : MqttBridge.State} {io : MqttBridge.ReceiveAnswers}
    {events : List MqttBridge.Event} {payload answer : List Byte} (plain : HexPayload payload)
    (turn : MqttTurn s io payload answer s' events) :
      mqttTransmission events =
        ⟨lineBytes s.cfg.isStr payload, [bridgeReply s.cfg.isStr answer]⟩ := by
  obtain ⟨receiving, connected, message, answers, port, locked, taken⟩ := turn
  have size := plain.size
  rw [message_handled receiving connected message taken]
  have copied := (copied_once_iff s.write485data payload).mpr
    (nulsAtEnd_zero_free payload plain.zero_free)
  have transmits := fun (loaded : MqttBridge.State) nbytes (sameFd : loaded.fd = s.fd) =>
    forward_transmits loaded io nbytes answer answers (sameFd ▸ port) locked
      [.received io.rc, .message payload] ⟨rfl, rfl⟩
  unfold lineBytes
  cases text : s.cfg.isStr with
  | true =>
      obtain ⟨front, ended⟩ := remove_blank1_text _ payload.length
        (put_same (strncpy s.write485data (ofBytes payload) payload.length) payload.length 0)
      rw [copied] at front ended
      have fewer : (unblanked payload).length ≤ payload.length := List.length_filter_le _ _
      have length := strlen_zero_free _ _ 1025 plain.digits_zero_free (by omega) front ended
      obtain ⟨writeBuff, decoded, values⟩ := plain.decoded _ s.writeBuff front
      have even := plain.hex.1
      rw [MqttBridge.handleMessage, if_neg (by omega)]
      dsimp only
      rw [if_pos text, length, if_neg (by omega), decoded, if_pos rfl, ← values]
      exact (transmits _ _ (by rfl)).trans (by rw [text])
  | false =>
      have twice := (copied_twice_iff s.write485data s.writeBuff payload).mpr
        (nulsAtEnd_zero_free payload plain.zero_free)
      rw [untyped_forwarded { s with mqttautoconntime := 0 } payload io text (by omega),
        if_neg (by decide)]
      refine (transmits _ _ (by rfl)).trans ?_
      dsimp only [copiedMessage]
      rw [twice, text]

/-! ## The socket bridge -/

def formedTexts (events : List Event) : List (List Byte) :=
  events.filterMap fun event => match event with
    | .formed _ bytes => some bytes
    | _ => none

def socketTransmission (events : List Event) : Transmission :=
  ⟨(sentBytes events).flatten, formedTexts events⟩

theorem formedTexts_append (front back : List Event) :
    formedTexts (front ++ back) = formedTexts front ++ formedTexts back :=
  List.filterMap_append

theorem calls_form_nothing (calls : List LineEvent) : formedTexts (calls.map .line) = [] := by
  rw [formedTexts, List.filterMap_eq_nil_iff]
  intro event member
  obtain ⟨call, _, rfl⟩ := List.mem_map.mp member
  rfl

theorem tty_answer_replies (s : State) (conn : Ptr) (io : VisitAnswers) (answer : List Byte)
    (answers : DeviceAnswers io.received answer) :
      cells ((ttyAnswer s conn io).1.conn conn).buf (ttyAnswer s conn io).1.tty.rxlen =
        bridgeReply s.cfg.isStr answer := by
  obtain ⟨counted, stored⟩ := tty_read_answer answers s.tty.fd s.tty.rxbuf
  unfold bridgeReply
  by_cases empty : answer = []
  · have none : (ttyRead s.tty.fd io.received s.tty.rxbuf).count ≤ 0 := by simp [counted, empty]
    unfold ttyAnswer
    dsimp only
    rw [if_pos none, if_pos empty]
    exact text_reply_content _ conn (ascii "no data") (by decide +kernel)
  · have positive := List.length_pos_iff.mpr empty
    rw [if_neg empty]
    cases text : s.cfg.isStr with
    | true =>
        have reads : ¬(ttyRead s.tty.fd io.received s.tty.rxbuf).count ≤ 0 := by omega
        unfold ttyAnswer
        dsimp only
        rw [if_neg reads, if_pos text, counted, Int.toNat_natCast, finish_reply_buf,
          update_conn_same]
        show cells (glHex2str _ answer.length _) (answer.length * 2) = hexTextOf answer
        rw [Nat.mul_comm, gl_hex2str_text, stored]
    | false =>
        have carried := tty_answer_carried s conn io text answers.noneFailed (by omega)
        unfold ttyRead at carried
        rw [receive_loop_gathers, answers.gathers] at carried
        exact carried.mpr (nulsAtEnd_zero_free answer answers.zeroFree)

theorem tty_request_transmits (s : State) (conn : Ptr) (io : VisitAnswers) (answer : List Byte)
    (answers : DeviceAnswers io.received answer) (ready : s.tty.fd ∈ s.sdsetwr)
    (port : 0 ≤ s.tty.fd) (locked : io.lockFails ≤ 30) :
      socketTransmission (ttyRequest s conn io).2.1 =
          ⟨cells s.tty.writebuf s.tty.txlen, [bridgeReply s.cfg.isStr answer]⟩ ∧
        (ttyRequest s conn io).2.2 = .done := by
  obtain ⟨handed, done⟩ := tty_request_hands_over s conn io ready port locked
  have written := tty_write_obtained s.tty.fd io.lockFails io.written
    (cells s.tty.writebuf s.tty.txlen) port locked
  obtain ⟨events, formed, shown, _⟩ := tty_answer_formed (afterWrite s io) conn io
  have replies := tty_answer_replies (afterWrite s io) conn io answer answers
  have cfg : (afterWrite s io).cfg = s.cfg := (after_write_frame s conn io).cfg
  have texts : formedTexts (ttyRequest s conn io).2.1 = [bridgeReply s.cfg.isStr answer] := by
    rw [tty_request_eq s conn io ready, written]
    dsimp only
    rw [if_neg (by omega), shown, formed.shown, replies, formedTexts_append, formedTexts_append,
      calls_form_nothing, calls_form_nothing, cfg]
    rfl
  refine ⟨?_, done⟩
  rw [socketTransmission, handed, texts, List.flatten_singleton]

/-- A loaded request goes out as hex text or as it is, and so does its answer. -/
theorem dispatched_transmits (loaded : State) (conn : Ptr) (io : VisitAnswers)
    (payload answer : List Byte) (plain : HexPayload payload)
    (raw : cells loaded.tty.writebuf loaded.tty.txlen = payload)
    (counted : strlen (removeBlank1 loaded.tty.txbuf loaded.tty.txlen) ttyBufsize =
      (unblanked payload).length)
    (content : cells (removeBlank1 loaded.tty.txbuf loaded.tty.txlen) (unblanked payload).length =
      unblanked payload)
    (answers : DeviceAnswers io.received answer) (ready : loaded.tty.fd ∈ loaded.sdsetwr)
    (port : 0 ≤ loaded.tty.fd) (locked : io.lockFails ≤ 30) :
      socketTransmission (dispatchRequest loaded conn io).2.1 =
          ⟨lineBytes loaded.cfg.isStr payload, [bridgeReply loaded.cfg.isStr answer]⟩ ∧
        (dispatchRequest loaded conn io).2.2 = .done := by
  unfold lineBytes
  cases text : loaded.cfg.isStr with
  | true =>
      have digits := plain.digits
      obtain ⟨decodes, _⟩ := even_text_dispatched text counted plain.hex.1 conn io
      have transmits := tty_request_transmits (decodedRequest loaded (unblanked payload).length)
        conn io answer answers ready port locked
      rw [show (decodedRequest loaded (unblanked payload).length).cfg.isStr = true from text]
        at transmits
      rw [decodes (by omega), if_pos rfl, ← packed_cells_of_hex _ _ loaded.tty.writebuf content
        plain.hex.2]
      exact transmits
  | false =>
      have untyped : dispatchRequest loaded conn io = ttyRequest loaded conn io :=
        if_neg (by simp [text])
      have transmits := tty_request_transmits loaded conn io answer answers ready port locked
      rw [raw, text] at transmits
      rw [untyped, if_neg (by decide)]
      exact transmits

theorem served_transmits {s : State} {conn : Ptr} {io : VisitAnswers} {payload answer : List Byte}
    {peer : Nat} (reads : Reads s conn io payload peer) (plain : HexPayload payload)
    (answers : DeviceAnswers io.received answer) (port : 0 ≤ s.tty.fd)
    (locked : io.lockFails ≤ 30) :
      socketTransmission (serveConn s conn io).2.1 =
        ⟨lineBytes s.cfg.isStr payload, [bridgeReply s.cfg.isStr answer]⟩ := by
  have frame := loaded_frame s conn peer payload
  have raw := load_request_writebuf (heardState s conn peer) conn payload
  obtain ⟨counted, content⟩ := loaded_text (heardState s conn peer) conn payload plain.size
  rw [hex_text_before_nul payload plain.hex] at counted content
  have ready : (loadRequest (heardState s conn peer) conn payload).tty.fd ∈
      (loadRequest (heardState s conn peer) conn payload).sdsetwr := by
    simp [loadRequest]
  have portLoaded : 0 ≤ (loadRequest (heardState s conn peer) conn payload).tty.fd := by
    rw [frame.ttyFd]
    exact port
  obtain ⟨transmits, done⟩ := dispatched_transmits _ conn io payload answer plain raw counted
    content answers ready portLoaded locked
  rw [serve_conn_heard reads, ← frame.cfg]
  generalize loadRequest (heardState s conn peer) conn payload = loaded at transmits done ⊢
  dsimp only
  rw [done]
  exact transmits

theorem empty_read_transmits {s : State} {conn : Ptr} {io : VisitAnswers} {peer : Nat}
    (asked : readsRequests (s.conn conn).state = true) (readable : (s.conn conn).sd ∈ s.sdsetrd)
    (heard : connRead io.recv = some ([], peer)) :
      socketTransmission (serveConn s conn io).2.1 = ⟨[], []⟩ := by
  have served := serve_request_heard s conn io [] peer heard
  rw [if_pos rfl] at served
  unfold serveConn
  cases state : (s.conn conn).state with
  | tty => simp [state, readsRequests] at asked
  | resp => simp [state, readsRequests] at asked
  | _ =>
      dsimp only
      rw [if_pos readable, served]
      rfl

structure SocketVisit (longBits more : Nat) (conn : Ptr) (s : State) (io : VisitAnswers)
    (payload answer : List Byte) (s' : State) (events : List Event) : Prop where
  pc : s.pc = .serving more (some conn)
  asked : readsRequests (s.conn conn).state = true
  readable : (s.conn conn).sd ∈ s.sdsetrd
  heard : ∃ peer, connRead io.recv = some (payload, peer)
  answers : DeviceAnswers io.received answer
  port : 0 ≤ s.tty.fd
  locked : io.lockFails ≤ 30
  taken : step longBits s (.visit io) = some (s', events)

theorem socket_transmits {longBits more : Nat} {conn : Ptr} {s s' : State} {io : VisitAnswers}
    {payload answer : List Byte} {events : List Event} (plain : HexPayload payload)
    (visit : SocketVisit longBits more conn s io payload answer s' events) :
      socketTransmission events =
        if payload = [] then ⟨[], []⟩
        else ⟨lineBytes s.cfg.isStr payload, [bridgeReply s.cfg.isStr answer]⟩ := by
  obtain ⟨pc, asked, readable, ⟨peer, heard⟩, answers, port, locked, taken⟩ := visit
  have shown := (visit_step_served pc taken).2
  have sent : sentBytes events = sentBytes (serveConn s conn io).2.1 :=
    stale_hidden _ shown fun _ => rfl
  have formed : formedTexts events = formedTexts (serveConn s conn io).2.1 :=
    stale_hidden _ shown fun _ => rfl
  have served : socketTransmission events = socketTransmission (serveConn s conn io).2.1 := by
    rw [socketTransmission, sent, formed]
    rfl
  rw [served]
  split
  · next empty =>
      rw [empty] at heard
      exact empty_read_transmits asked readable heard
  · next nonempty =>
      exact served_transmits ⟨asked, readable, heard, nonempty⟩ plain answers port locked

/-! ## The three together -/

theorem lineBytes_agree_iff (translates : Bool) (payload : List Byte) :
    lineBytes translates payload = lineBytes (!translates) payload ↔ payload = [] := by
  have fewer : (unblanked payload).length ≤ payload.length := List.length_filter_le _ _
  have counted := pairValues_length (unblanked payload)
  constructor
  · intro same
    have lengths := congrArg List.length same
    cases translates <;> simp only [lineBytes, Bool.not_true, Bool.not_false, if_true,
      Bool.false_eq_true, if_false] at lengths <;> exact List.length_eq_zero_iff.mp (by omega)
  · rintro rfl
    cases translates <;> rfl

theorem replies_differ (translates : Bool) (answer : List Byte) :
    bridgeReply translates answer ≠ userText (!translates) answer := by
  intro same
  have lengths := congrArg List.length same
  have counted := hex_text_length answer
  unfold bridgeReply at lengths
  split at lengths
  · next empty =>
      rw [empty] at lengths
      cases translates <;> simp [userText, hexTextOf, ascii] at lengths
  · next nonempty =>
      have positive := List.length_pos_iff.mpr nonempty
      cases translates <;> simp only [userText, Bool.not_true, Bool.not_false, if_true,
        Bool.false_eq_true, if_false] at lengths <;> omega

/-- The same bytes on the line, and the same text for the user. -/
def Agree (socket mqtt terminal : Transmission) : Prop := socket = mqtt ∧ mqtt = terminal

/-- The three never agree on both. The bridges agree with each other on every
payload that a client can send; the terminal call agrees with them on the line
for the empty payload only, and on no answer. -/
theorem transmission_types_never_agree {longBits more : Nat} {conn : Ptr} {s s' : State}
    {io : VisitAnswers} {events : List Event} {m m' : MqttBridge.State}
    {turnIo : MqttBridge.ReceiveAnswers} {mqttEvents : List MqttBridge.Event}
    {input : TerminalInput} {around : TerminalSurroundings} {line : LineAnswers}
    {result : ApiResult} {ttytype payload answer : List Byte}
    (type : ttytype = ascii "str" ∨ ttytype = ascii "hex") (plain : HexPayload payload)
    (visit : SocketVisit longBits more conn s io payload answer s' events)
    (socketType : s.cfg.ttytype = ttytype)
    (turn : MqttTurn m turnIo payload answer m' mqttEvents) (mqttType : m.cfg.ttytype = ttytype)
    (call : TerminalCall input around line payload answer result)
    (terminalType : around.ttytype = ttytype) :
      ¬Agree (socketTransmission events) (mqttTransmission mqttEvents)
          (terminalTransmission result) ∧
        (payload ≠ [] → socketTransmission events = mqttTransmission mqttEvents) ∧
        ((mqttTransmission mqttEvents).written = (terminalTransmission result).written ↔
          payload = []) ∧
        (mqttTransmission mqttEvents).given ≠ (terminalTransmission result).given := by
  have socket := socket_transmits plain visit
  have mqtt := mqtt_transmits plain turn
  have terminal := terminal_transmits plain call
  have opposite : decide (around.ttytype = ascii "hex") = !(s.cfg.isStr) := by
    rw [terminalType, Cfg.isStr, socketType]
    rcases type with rfl | rfl <;> decide
  have same : m.cfg.isStr = s.cfg.isStr := by rw [Cfg.isStr, Cfg.isStr, mqttType, socketType]
  rw [opposite] at terminal
  rw [same] at mqtt
  rw [socket, mqtt, terminal]
  have given : [bridgeReply s.cfg.isStr answer] ≠ [userText (!s.cfg.isStr) answer] := fun equal =>
    replies_differ s.cfg.isStr answer (List.singleton_inj.mp equal)
  refine ⟨fun agree => given (congrArg Transmission.given agree.2), fun some => if_neg some,
    lineBytes_agree_iff s.cfg.isStr payload, given⟩

def textOpened : MqttBridge.State :=
  (MqttBridge.startStep (MqttBridge.initialState ⟨0, 32, 1, 5, ascii "str", ascii "tcps"⟩)
    ⟨0, 3⟩).1

def textVisit (request answer : List Byte) : VisitAnswers :=
  { askedText request with received := [.data answer] }

def textCall (request answer : List Byte) : Option ApiResult :=
  terminalSendRead ⟨false, false, request⟩ ⟨ascii "str", []⟩
    ⟨3, 0, [request.length], [.data answer]⟩

theorem transmission_types_never_agree_on_text :
    ∃ s s' m' events mqttEvents result,
      step 64 s (.visit (textVisit (ascii "0a 1F") [1, 2])) = some (s', events) ∧
      MqttBridge.step textOpened (.receive (exchange (ascii "0a 1F") [1, 2])) =
        some (m', mqttEvents) ∧
      textCall (ascii "0a 1F") [1, 2] = some result ∧
        ¬Agree (socketTransmission events) (mqttTransmission mqttEvents)
          (terminalTransmission result) := by
  have plain : HexPayload (ascii "0a 1F") :=
    ⟨by decide +kernel, by decide +kernel, by decide +kernel⟩
  have answers : DeviceAnswers [.data [1, 2]] [1, 2] := ⟨by decide, rfl, by decide, by decide⟩
  obtain ⟨s, trace, run, shown⟩ := run_of_replay_view (step 64) Admissible
    (fun reached => (reached.1.cfg.ttytype, reached.1.pc, readsRequests (reached.1.conn 1).state,
      decide ((reached.1.conn 1).sd ∈ reached.1.sdsetrd), reached.1.tty.fd))
    clientAsks (freshDaemon strOverTcp) (ascii "str", .serving 0 (some 1), true, true, 3)
    (by decide +kernel)
  simp only [Prod.mk.injEq, decide_eq_true_eq] at shown
  obtain ⟨type, pc, asked, readable, port⟩ := shown
  have visit : SocketVisit 64 0 1 s (textVisit (ascii "0a 1F") [1, 2]) (ascii "0a 1F") [1, 2]
      (visitStep s 0 (some 1) (textVisit (ascii "0a 1F") [1, 2])).1
      (visitStep s 0 (some 1) (textVisit (ascii "0a 1F") [1, 2])).2 :=
    ⟨pc, asked, readable, ⟨0, rfl⟩, answers, by omega, by decide, by simp only [step, pc]⟩
  have turn : MqttTurn textOpened (exchange (ascii "0a 1F") [1, 2]) (ascii "0a 1F") [1, 2]
      (MqttBridge.receiveStep textOpened (exchange (ascii "0a 1F") [1, 2])).1
      (MqttBridge.receiveStep textOpened (exchange (ascii "0a 1F") [1, 2])).2 :=
    ⟨rfl, by decide, rfl, answers, by decide, by decide, rfl⟩
  obtain ⟨result, returned, _⟩ := terminal_call_returns ⟨false, false, ascii "0a 1F"⟩
    ⟨ascii "str", []⟩ ⟨3, 0, [5], [.data [1, 2]]⟩ [1, 2] plain answers (by decide) (by decide)
  have call : TerminalCall ⟨false, false, ascii "0a 1F"⟩ ⟨ascii "str", []⟩
      ⟨3, 0, [5], [.data [1, 2]]⟩ (ascii "0a 1F") [1, 2] result :=
    ⟨rfl, answers, by decide, by decide, returned⟩
  exact ⟨s, _, _, _, _, result, visit.taken, turn.taken, returned,
    (transmission_types_never_agree (Or.inl rfl) plain visit type turn rfl call rfl).1⟩

/-- Under `str` the text is decoded by the bridges and sent as it is by the call. -/
theorem text_sent_as_it_is :
    ∃ s trace, Run (step 64) Admissible (freshDaemon strOverTcp) trace s ∧
      (step 64 s (.visit (textVisit (ascii "0a1F") [1, 2]))).map
          (fun taken => socketTransmission taken.2) = some ⟨[10, 31], [ascii "0102"]⟩ ∧
      (MqttBridge.step textOpened (.receive (exchange (ascii "0a1F") [1, 2]))).map
          (fun taken => mqttTransmission taken.2) = some ⟨[10, 31], [ascii "0102"]⟩ ∧
      (textCall (ascii "0a1F") [1, 2]).map terminalTransmission =
        some ⟨ascii "0a1F", [[1, 2]]⟩ := by
  obtain ⟨s, trace, run, shown⟩ := run_of_replay_view (step 64) Admissible
    (fun reached => (step 64 reached.1 (.visit (textVisit (ascii "0a1F") [1, 2]))).map
      fun taken => socketTransmission taken.2)
    clientAsks (freshDaemon strOverTcp) (some ⟨[10, 31], [ascii "0102"]⟩) (by decide +kernel)
  exact ⟨s, trace, run, shown, by decide +kernel, by decide +kernel⟩

end GlRs485.TransmissionType
