import GlRs485.Foundation.Footprint
import GlRs485.TransmissionType

/-!
# What gets through the line

Seven functions receive by the same loop, which goes on after exactly eight bytes
and has no other bound. `tty_write` reports the length it was given, whatever
`write` accepted.
-/

namespace GlRs485.LineTransfers

open CBytes Footprint HexCodec SerialLine RegisterApi TerminalApi MqttBridge TransmissionType

set_option autoImplicit false

/-! ## The loop as one store -/

theorem store_nil (buf : Buf) (offset : Nat) : store buf offset [] = buf := by
  funext index
  exact if_neg (by simp)

theorem store_store (buf : Buf) (offset : Nat) (front back : List Byte) :
    store (store buf offset front) (offset + front.length) back =
      store buf offset (front ++ back) := by
  funext index
  have joined : (front ++ back).length = front.length + back.length := List.length_append
  by_cases before : index < offset
  · rw [store, if_neg (by omega), store, if_neg (by omega), store, if_neg (by omega)]
  · by_cases first : index < offset + front.length
    · rw [store, if_neg (by omega), store, if_pos (by omega), store, if_pos (by omega),
        List.getD_append _ _ _ _ (by omega)]
    · by_cases second : index < offset + front.length + back.length
      · rw [store, if_pos (by omega), store, if_pos (by omega),
          List.getD_append_right _ _ _ _ (by omega), Nat.sub_sub]
      · rw [store, if_neg (by omega), store, if_neg (by omega), store, if_neg (by omega)]

theorem receive_loop_buf (fd : Int) (results : List RxResult) (buf : Buf) (count : Nat) :
    (receiveLoop fd results buf count).buf = store buf count (storedBytes results) := by
  induction results generalizing buf count with
  | nil => exact (store_nil buf count).symm
  | cons first rest ih =>
      cases first with
      | failed stored => rfl
      | data bytes =>
          by_cases eight : bytes.length = 8
          · have later := ih (store buf count bytes) (count + bytes.length)
            rw [store_store, eight] at later
            simp only [receiveLoop, storedBytes, if_pos eight, later]
          · simp only [receiveLoop, storedBytes, if_neg eight]

/-- The reads of eight bytes in front of the first other one. -/
def fullReads (results : List RxResult) : Nat :=
  (results.takeWhile RxResult.goesOn).length

/-- What the first read that does not give eight bytes stores, and be it one that fails. -/
def lastRead (results : List RxResult) : Nat :=
  ((results.dropWhile RxResult.goesOn).head?.map RxResult.size).getD 0

theorem storedBytes_length (results : List RxResult) :
    (storedBytes results).length = 8 * fullReads results + lastRead results := by
  induction results with
  | nil => rfl
  | cons first rest ih =>
      cases first with
      | failed stored =>
          simp [storedBytes, fullReads, lastRead, RxResult.goesOn, RxResult.size, RxResult.stored]
      | data bytes =>
          by_cases eight : bytes.length = 8
          · have goesOn : RxResult.goesOn (.data bytes) = true := decide_eq_true eight
            simp only [fullReads, lastRead] at ih
            simp only [storedBytes, if_pos eight, List.length_append, fullReads, lastRead,
              List.takeWhile_cons, List.dropWhile_cons, goesOn, if_true,
              List.length_cons, ih]
            omega
          · simp [storedBytes, eight, fullReads, lastRead, RxResult.goesOn, RxResult.size,
              RxResult.stored]

/-! ## Splitting an answer -/

/-- The driver hands out the answer in these pieces. -/
structure Splits (chunks : List (List Byte)) (answer : List Byte) : Prop where
  joined : chunks.flatten = answer
  nonempty : ∀ chunk ∈ chunks, chunk ≠ []

def readsOf (chunks : List (List Byte)) : List RxResult := chunks.map .data ++ [.data []]

def WholeAnswer (reception : Reception) (answer : List Byte) : Prop :=
  reception.count = answer.length ∧ cells reception.buf answer.length = answer

def AlikeAndWhole (answer : List Byte) (first second : Reception) : Prop :=
  first.buf = second.buf ∧ first.count = second.count ∧
    WholeAnswer first answer ∧ WholeAnswer second answer

theorem gathered_timeout (chunks : List (List Byte)) :
    gathered (readsOf chunks) = gathered (chunks.map .data) := by
  induction chunks with
  | nil => rfl
  | cons chunk rest ih =>
      by_cases eight : chunk.length = 8
      · simp only [readsOf] at ih
        simp only [readsOf, List.map_cons, List.cons_append, gathered, if_pos eight, ih]
      · simp only [readsOf, List.map_cons, List.cons_append, gathered, if_neg eight]

theorem tty_read_gathered (fd : Int) (buf : Buf) (chunks : List (List Byte)) :
    (ttyRead fd (readsOf chunks) buf).buf = store buf 0 (gathered (chunks.map .data)) ∧
      (ttyRead fd (readsOf chunks) buf).count = (gathered (chunks.map .data)).length := by
  have noneFailed : ∀ result ∈ readsOf chunks, result.fails = false := by
    simp [readsOf, or_imp, forall_and, RxResult.fails]
  have counted := (receive_loop_stores fd (readsOf chunks) buf 0 noneFailed).1
  rw [receive_loop_gathers, gathered_timeout] at counted
  refine ⟨?_, by simpa [ttyRead] using counted⟩
  rw [ttyRead, receive_loop_buf, storedBytes_gathered noneFailed, gathered_timeout]

theorem gathered_whole_iff {chunks : List (List Byte)} {answer : List Byte}
    (splits : Splits chunks answer) :
      gathered (chunks.map .data) = answer ↔ ∀ chunk ∈ chunks.dropLast, chunk.length = 8 := by
  have whole := MqttTransparency.receive_loop_whole_iff 0 chunks (fun _ => 0) 0 splits.nonempty
  rwa [receive_loop_gathers, splits.joined] at whole

theorem whole_answer_iff (fd : Int) (buf : Buf) {chunks : List (List Byte)} {answer : List Byte}
    (splits : Splits chunks answer) :
      WholeAnswer (ttyRead fd (readsOf chunks) buf) answer ↔
        ∀ chunk ∈ chunks.dropLast, chunk.length = 8 := by
  obtain ⟨stored, counted⟩ := tty_read_gathered fd buf chunks
  have front := cells_store buf 0 (gathered (chunks.map .data))
  rw [Nat.zero_add] at front
  rw [WholeAnswer, stored, counted, ← gathered_whole_iff splits]
  constructor
  · rintro ⟨length, content⟩
    rw [← Int.ofNat.inj length, front] at content
    exact content
  · intro same
    rw [same] at front ⊢
    exact ⟨rfl, front⟩

/-- Two ways of splitting an answer are received alike, as the whole answer,
exactly when in both every piece but the last is eight bytes long. -/
theorem splittings_received_alike_iff (fd : Int) (buf : Buf) (answer : List Byte)
    (first second : List (List Byte)) (splitsFirst : Splits first answer)
    (splitsSecond : Splits second answer) :
      AlikeAndWhole answer (ttyRead fd (readsOf first) buf) (ttyRead fd (readsOf second) buf) ↔
        (∀ chunk ∈ first.dropLast, chunk.length = 8) ∧
          ∀ chunk ∈ second.dropLast, chunk.length = 8 := by
  have wholeFirst := whole_answer_iff fd buf splitsFirst
  have wholeSecond := whole_answer_iff fd buf splitsSecond
  constructor
  · rintro ⟨_, _, one, other⟩
    exact ⟨wholeFirst.mp one, wholeSecond.mp other⟩
  · rintro ⟨eightFirst, eightSecond⟩
    obtain ⟨storedFirst, countedFirst⟩ := tty_read_gathered fd buf first
    obtain ⟨storedSecond, countedSecond⟩ := tty_read_gathered fd buf second
    have takenFirst := (gathered_whole_iff splitsFirst).mpr eightFirst
    have takenSecond := (gathered_whole_iff splitsSecond).mpr eightSecond
    refine ⟨?_, ?_, wholeFirst.mpr eightFirst, wholeSecond.mpr eightSecond⟩
    · rw [storedFirst, storedSecond, takenFirst, takenSecond]
    · rw [countedFirst, countedSecond, takenFirst, takenSecond]

theorem splittings_received_alike_iff_eight :
    AlikeAndWhole (ascii "0123456789") (ttyRead 3 (readsOf [ascii "0123456789"]) fun _ => 0)
      (ttyRead 3 (readsOf [ascii "01234567", ascii "89"]) fun _ => 0) :=
  (splittings_received_alike_iff 3 (fun _ => 0) (ascii "0123456789") [ascii "0123456789"]
    [ascii "01234567", ascii "89"] ⟨by decide, by decide⟩ ⟨by decide, by decide⟩).mpr
    ⟨by decide, by decide⟩

/-- Two bytes in two reads: the second is left on the line. -/
theorem second_byte_left_behind :
    Splits [[1, 2]] [1, 2] ∧ Splits [[1], [2]] [1, 2] ∧
      (ttyRead 3 (readsOf [[1, 2]]) fun _ => 0).count = 2 ∧
      (ttyRead 3 (readsOf [[1], [2]]) fun _ => 0).count = 1 ∧
      ¬AlikeAndWhole [1, 2] (ttyRead 3 (readsOf [[1, 2]]) fun _ => 0)
        (ttyRead 3 (readsOf [[1], [2]]) fun _ => 0) := by
  refine ⟨⟨by decide, by decide⟩, ⟨by decide, by decide⟩, by decide, by decide, ?_⟩
  intro alike
  exact absurd alike.2.1 (by decide)

/-- Every answer can be handed out so that it is received as a whole. -/
theorem splits_into_eights (answer : List Byte) :
    ∃ chunks, Splits chunks answer ∧ ∀ chunk ∈ chunks.dropLast, chunk.length = 8 := by
  induction size : answer.length using Nat.strong_induction_on generalizing answer with
  | h length ih =>
      by_cases empty : answer = []
      · exact ⟨[], ⟨by rw [empty]; rfl, by simp⟩, by simp⟩
      · by_cases short : length ≤ 8
        · exact ⟨[answer], ⟨by simp, by simpa using empty⟩, by simp⟩
        · obtain ⟨chunks, splits, eights⟩ :=
            ih (answer.drop 8).length (by rw [List.length_drop]; omega) (answer.drop 8) rfl
          have front : (answer.take 8).length = 8 := by
            rw [List.length_take]
            omega
          have some : chunks ≠ [] := by
            intro none
            have joined := congrArg List.length splits.joined
            rw [none, List.length_drop] at joined
            simp only [List.flatten_nil, List.length_nil] at joined
            omega
          refine ⟨answer.take 8 :: chunks, ⟨?_, ?_⟩, ?_⟩
          · rw [List.flatten_cons, splits.joined, List.take_append_drop]
          · intro chunk member nothing
            rcases List.mem_cons.mp member with first | later
            · rw [← first, nothing] at front
              simp at front
            · exact splits.nonempty chunk later nothing
          · intro chunk member
            rw [List.dropLast_cons_of_ne_nil some] at member
            rcases List.mem_cons.mp member with first | later
            · rw [first, front]
            · exact eights chunk later

/-! ## The bound of the loop -/

structure PrintedResult where
  code : Int
  printed : List Byte
  events : List LineEvent
  deriving DecidableEq

/-- `tty_write_read`, the options `-S` and `-H` of the command line. An odd hex
text is refused with the port open. -/
def ttyWriteRead (buf : List Byte) (type : Byte) (line : LineAnswers) : Option PrintedResult :=
  let answered := fun (text : Reception → List Byte) (data : List Byte) =>
    let reception := sendAndReceive line data
    PrintedResult.mk reception.count (ascii "rec:" ++ text reception ++ [10])
      (openedPort line.fd ++ reception.events)
  if type = 72 then
    let text := removeBlank1 (ofBytes buf) buf.length
    let nbytes := strlen text (buf.length + 1)
    if nbytes % 2 = 1 then some ⟨-1, ascii "date len err" ++ [10], openedPort line.fd⟩
    else
      (glStr2acsll text nbytes fun _ => 0).map fun writeBuff =>
        answered (fun reception => hexAlldata reception.buf reception.count)
          (cells writeBuff (nbytes / 2))
  else some (answered (fun reception => cString reception.buf 512) buf)

def lineStored : LineEvent → List Byte
  | .received _ result => result.stored
  | _ => []

/-- Every byte that a read stores stands behind the bytes of the reads before it. -/
def storedIndexes (count : Nat) : List LineEvent → List Nat
  | [] => []
  | event :: rest =>
      List.range' count (lineStored event).length ++
        storedIndexes (count + (lineStored event).length) rest

/-- `rec_buff` and `tty.rxbuf` have 512 bytes. -/
def StaysInside (events : List LineEvent) : Prop := ∀ index ∈ storedIndexes 0 events, index < 512

def Wrote (events : List LineEvent) : Prop :=
  ∃ fd offered accepted, .sent fd offered accepted ∈ events

/-- The calls that run the receive loop, each with the results of its reads and
the calls it makes on the line. -/
inductive ReceivingCall : List RxResult → List LineEvent → Prop
  | ttyRead (fd : Int) (received : List RxResult) (buf : Buf) :
      ReceivingCall received (ttyRead fd received buf).events
  | readRs485Data {input : ReadInput} {line : LineAnswers} {result : ApiResult}
      (returned : readRs485Data input line = some result) (wrote : Wrote result.events) :
      ReceivingCall line.received result.events
  | writeRs485Data {input : WriteInput} {line : LineAnswers} {result : ApiResult}
      (returned : writeRs485Data input line = some result) (wrote : Wrote result.events) :
      ReceivingCall line.received result.events
  | terminalSendRead {input : TerminalInput} {around : TerminalSurroundings} {line : LineAnswers}
      {result : ApiResult} (returned : terminalSendRead input around line = some result)
      (wrote : Wrote result.events) : ReceivingCall line.received result.events
  | getRs485DataToGlMqtt {cmd : List Byte} {line : LineAnswers} {result : ApiResult}
      (returned : getRs485DataToGlMqtt cmd line = some result) (wrote : Wrote result.events) :
      ReceivingCall line.received result.events
  | ttyWriteRead {buf : List Byte} {type : Byte} {line : LineAnswers} {result : PrintedResult}
      (returned : ttyWriteRead buf type line = some result) (wrote : Wrote result.events) :
      ReceivingCall line.received result.events
  | mqttLoop (s : State) (io : ReceiveAnswers) (nbytes : Nat) :
      ReceivingCall io.received (forward s io nbytes).2.1

theorem storedIndexes_eq (count : Nat) (events : List LineEvent) :
    storedIndexes count events = List.range' count (events.flatMap lineStored).length := by
  induction events generalizing count with
  | nil => rfl
  | cons event rest ih =>
      rw [storedIndexes, ih, List.flatMap_cons, List.length_append, List.range'_append_1]

theorem stays_inside_iff_length (events : List LineEvent) :
    StaysInside events ↔ (events.flatMap lineStored).length ≤ 512 := by
  rw [StaysInside, storedIndexes_eq]
  simp only [List.mem_range'_1]
  constructor
  · intro inside
    by_contra long
    have last := inside 512 (by omega)
    omega
  · intro short index member
    omega

theorem receive_loop_stored (fd : Int) (results : List RxResult) (buf : Buf) (count : Nat) :
    (receiveLoop fd results buf count).events.flatMap lineStored = storedBytes results := by
  induction results generalizing buf count with
  | nil => rfl
  | cons first rest ih =>
      cases first with
      | failed stored => simp [receiveLoop, storedBytes, lineStored, RxResult.stored]
      | data bytes =>
          by_cases eight : bytes.length = 8
          · simp [receiveLoop, storedBytes, eight, lineStored, RxResult.stored, ih]
          · simp [receiveLoop, storedBytes, eight, lineStored, RxResult.stored]

/-- The indexes are those the loop of `tty_read` writes. -/
theorem tty_read_footprint (fd : Int) (received : List RxResult) (buf : Buf) :
    WritesWithin (· < 512) (fun memory => (ttyRead fd received memory).buf) ↔
      StaysInside (ttyRead fd received buf).events := by
  have stored : (fun memory => (ttyRead fd received memory).buf) =
      fun memory => store memory 0 (storedBytes received) := by
    funext memory
    exact receive_loop_buf fd received memory 0
  rw [stored, store_writes_within_iff, stays_inside_iff_length, ttyRead, receive_loop_stored,
    Nat.zero_add, or_iff_right_of_imp]
  intro nothing
  simp [nothing]

theorem locks_store_nothing (fd : Int) (fails : Nat) :
    (flockLoop fd fails 0).2.flatMap lineStored = [] := by
  exact locks_flatMap _ (fun _ _ => rfl) fd fails 0

theorem not_wrote_of_unsent {events : List LineEvent} (unsent : lineWrites events = []) :
    ¬Wrote events := by
  rintro ⟨fd, offered, accepted, member⟩
  have seen : offered ∈ lineWrites events := List.mem_filterMap.mpr ⟨_, member, rfl⟩
  rw [unsent] at seen
  exact List.not_mem_nil seen

theorem write_stores_nothing (fd : Int) (lockFails : Nat) (written : List Int) (data : List Byte) :
    (ttyWrite fd lockFails written data).2.flatMap lineStored = [] := by
  rcases tty_write_cases fd lockFails written data with
    ⟨_, outcome⟩ | ⟨_, _, outcome⟩ | ⟨_, _, outcome⟩
  · rw [outcome]
    rfl
  · rw [outcome, List.flatMap_append, locks_store_nothing]
    rfl
  · rw [outcome, List.flatMap_append, locks_store_nothing]
    rfl

theorem exchange_reads {line : LineAnswers} {command failure : List Byte} {asked : Bool}
    (wrote : Wrote (exchange line command asked failure).events) :
      (exchange line command asked failure).events.flatMap lineStored =
        storedBytes line.received := by
  unfold exchange at wrote ⊢
  dsimp only at wrote ⊢
  split at wrote
  · exact absurd wrote (not_wrote_of_unsent rfl)
  · next open_ =>
      rw [if_neg open_]
      split at wrote
      · next locked =>
          rw [if_pos locked]
          simp only [List.flatMap_cons, List.flatMap_append, locks_store_nothing,
            receive_loop_stored]
          simp [lineStored, myuartTxNonBlocking]
      · apply absurd wrote
        apply not_wrote_of_unsent
        rw [← List.singleton_append, lineWrites_append, lineWrites_append, locks_write_nothing]
        rfl

theorem send_and_receive_reads {line : LineAnswers} {data : List Byte}
    (wrote : Wrote (sendAndReceive line data).events) :
      (sendAndReceive line data).events.flatMap lineStored = storedBytes line.received := by
  unfold sendAndReceive at wrote ⊢
  dsimp only at wrote ⊢
  rw [List.flatMap_append, List.flatMap_append, write_stores_nothing, ttyRead, receive_loop_stored]
  rcases tty_write_cases line.fd line.lockFails line.written data with
    ⟨_, outcome⟩ | ⟨_, _, outcome⟩ | ⟨_, _, outcome⟩
  · rw [outcome] at wrote
    apply absurd wrote
    apply not_wrote_of_unsent
    rw [lineWrites_append, lineWrites_append, reads_write_nothing]
    rfl
  · rw [outcome] at wrote
    apply absurd wrote
    apply not_wrote_of_unsent
    rw [lineWrites_append, lineWrites_append, reads_write_nothing, lineWrites_append,
      locks_write_nothing]
    rfl
  · rw [outcome, if_neg (by simp)]
    simp [lineStored]

theorem opened_nothing (fd : Int) :
    (openedPort fd).flatMap lineStored = [] ∧ lineWrites (openedPort fd) = [] := by
  unfold openedPort
  split
  · exact ⟨rfl, rfl⟩
  · exact ⟨rfl, rfl⟩

theorem opened_not_wrote (fd : Int) : ¬Wrote (openedPort fd) :=
  not_wrote_of_unsent (opened_nothing fd).2

theorem opened_reads {fd : Int} {line : LineAnswers} {data : List Byte}
    (wrote : Wrote (openedPort fd ++ (sendAndReceive line data).events)) :
      (openedPort fd ++ (sendAndReceive line data).events).flatMap lineStored =
        storedBytes line.received := by
  rw [List.flatMap_append, (opened_nothing fd).1, List.nil_append]
  apply send_and_receive_reads
  obtain ⟨port, offered, accepted, member⟩ := wrote
  rcases List.mem_append.mp member with opening | later
  · exact absurd ⟨port, offered, accepted, opening⟩ (opened_not_wrote fd)
  · exact ⟨port, offered, accepted, later⟩

theorem terminal_call_reads {input : TerminalInput} {around : TerminalSurroundings}
    {line : LineAnswers} {result : ApiResult}
    (returned : terminalSendRead input around line = some result) (wrote : Wrote result.events) :
      result.events.flatMap lineStored = storedBytes line.received := by
  unfold terminalSendRead at returned
  dsimp only at returned
  split at returned
  · split at returned
    · rw [← Option.some.inj returned] at wrote
      exact absurd wrote (opened_not_wrote line.fd)
    · obtain ⟨writeData, _, rfl⟩ := Option.map_eq_some_iff.mp returned
      exact opened_reads wrote
  · rw [← Option.some.inj returned] at wrote ⊢
    exact opened_reads wrote

theorem mqtt_call_reads {cmd : List Byte} {line : LineAnswers} {result : ApiResult}
    (returned : getRs485DataToGlMqtt cmd line = some result) (wrote : Wrote result.events) :
      result.events.flatMap lineStored = storedBytes line.received := by
  unfold getRs485DataToGlMqtt at returned
  dsimp only at returned
  split at returned
  · rw [← Option.some.inj returned] at wrote
    exact absurd wrote (not_wrote_of_unsent rfl)
  · obtain ⟨rs485Data, _, same⟩ := Option.map_eq_some_iff.mp returned
    split at same
    · rw [← same] at wrote
      exact absurd wrote (not_wrote_of_unsent rfl)
    · next port =>
        have sent : ∃ data, result.events =
            openedPort line.fd ++ (sendAndReceive line data).events := by
          rw [openedPort, if_neg port]
          split at same
          · exact ⟨_, by rw [← same]; rfl⟩
          · exact ⟨_, by rw [← same]; rfl⟩
        obtain ⟨data, events⟩ := sent
        rw [events] at wrote ⊢
        exact opened_reads wrote

theorem tty_write_read_reads {buf : List Byte} {type : Byte} {line : LineAnswers}
    {result : PrintedResult} (returned : ttyWriteRead buf type line = some result)
    (wrote : Wrote result.events) :
      result.events.flatMap lineStored = storedBytes line.received := by
  unfold ttyWriteRead at returned
  dsimp only at returned
  split at returned
  · split at returned
    · rw [← Option.some.inj returned] at wrote
      exact absurd wrote (opened_not_wrote line.fd)
    · obtain ⟨writeBuff, _, rfl⟩ := Option.map_eq_some_iff.mp returned
      exact opened_reads wrote
  · rw [← Option.some.inj returned] at wrote ⊢
    exact opened_reads wrote

/-- Every one of the calls stores what the loop stores. -/
theorem receiving_call_reads {received : List RxResult} {events : List LineEvent}
    (call : ReceivingCall received events) : events.flatMap lineStored = storedBytes received := by
  cases call with
  | ttyRead fd received buf => exact receive_loop_stored fd received buf 0
  | readRs485Data returned wrote =>
      obtain ⟨command, regLen, _, rfl⟩ := read_exchange returned
      exact exchange_reads wrote
  | writeRs485Data returned wrote =>
      rcases write_exchange returned with unused | ⟨command, rfl⟩
      · rw [unused] at wrote
        exact absurd wrote (not_wrote_of_unsent rfl)
      · exact exchange_reads wrote
  | terminalSendRead returned wrote => exact terminal_call_reads returned wrote
  | getRs485DataToGlMqtt returned wrote => exact mqtt_call_reads returned wrote
  | ttyWriteRead returned wrote => exact tty_write_read_reads returned wrote
  | mqttLoop s io nbytes =>
      rw [forward_calls, List.flatMap_append, write_stores_nothing, List.nil_append, ttyRead]
      exact receive_loop_stored s.fd io.received s.recBuff 0

/-- The loop stays inside its buffer exactly when the reads of eight bytes and
the first other one fit it. -/
theorem receive_loops_stay_inside_iff {received : List RxResult} {events : List LineEvent}
    (call : ReceivingCall received events) :
      StaysInside events ↔ 8 * fullReads received + lastRead received ≤ 512 := by
  rw [stays_inside_iff_length, receiving_call_reads call, storedBytes_length]

def eightZeros : RxResult := .data (List.replicate 8 0)

def fullBuffer : List RxResult := List.replicate 64 eightZeros

def terminalCall (received : List RxResult) : Option ApiResult :=
  terminalSendRead ⟨false, false, ascii "0a1F"⟩ ⟨ascii "hex", []⟩ ⟨3, 0, [2], received⟩

theorem receive_loops_stay_inside_iff_full :
    ∃ result, terminalCall fullBuffer = some result ∧ StaysInside result.events := by
  obtain ⟨result, returned, wrote⟩ := Option.map_eq_some_iff.mp
    (show (terminalCall fullBuffer).map
        (fun result => decide (.sent 3 [10, 31] [10, 31] ∈ result.events)) = some true by
      decide +kernel)
  have call : ReceivingCall fullBuffer result.events :=
    .terminalSendRead returned ⟨3, [10, 31], [10, 31], of_decide_eq_true wrote⟩
  exact ⟨result, returned, (receive_loops_stay_inside_iff call).mpr (by decide +kernel)⟩

/-- One byte more falls behind the buffer. -/
theorem one_byte_too_many :
    (∀ result ∈ fullBuffer ++ [.data [0]], result.size ≤ 200) ∧
      ¬StaysInside (ttyRead 3 (fullBuffer ++ [.data [0]]) fun _ => 0).events ∧
      ∃ result, terminalCall (fullBuffer ++ [.data [0]]) = some result ∧
        ¬StaysInside result.events := by
  refine ⟨by decide +kernel, ?_, ?_⟩
  · rw [stays_inside_iff_length, ttyRead, receive_loop_stored, storedBytes_length]
    decide +kernel
  · obtain ⟨result, returned, size⟩ := Option.map_eq_some_iff.mp
      (show (terminalCall (fullBuffer ++ [.data [0]])).map
          (fun result => (result.events.flatMap lineStored).length) = some 513 by decide +kernel)
    refine ⟨result, returned, ?_⟩
    rw [stays_inside_iff_length, size]
    decide

/-! ## The result of a write -/

def acceptedOnLine (events : List LineEvent) : List Byte :=
  events.flatMap fun event => match event with
    | .sent _ _ accepted => accepted
    | _ => []

/-- No negative result without a missing byte, no missing byte without one. -/
structure TellsWhatWasAccepted (outcome : Int × List LineEvent) (data : List Byte) : Prop where
  success : 0 ≤ outcome.1 → acceptedOnLine outcome.2 = data
  failure : acceptedOnLine outcome.2 ≠ data → outcome.1 < 0

/-- What the results of `write` add up to, before the first that is 0 or -1. -/
def takenCount (results : List Int) : Nat :=
  ((results.takeWhile fun written => 0 < written).map Int.toNat).sum

theorem accepted_bytes_eq (results : List Int) (data : List Byte) :
    acceptedBytes results data = data.take (takenCount results) := by
  induction results generalizing data with
  | nil => cases data <;> rfl
  | cons written results ih =>
      cases data with
      | nil => simp [acceptedBytes]
      | cons byte rest =>
          by_cases stops : written ≤ 0
          · have none : ¬0 < written := by omega
            simp [acceptedBytes, stops, takenCount, none]
          · have goesOn : 0 < written := by omega
            have total : takenCount (written :: results) = written.toNat + takenCount results := by
              simp [takenCount, goesOn]
            rw [acceptedBytes, if_neg stops, ih, total, List.take_add]

theorem locks_accept_nothing (fd : Int) (fails : Nat) :
    acceptedOnLine (flockLoop fd fails 0).2 = [] := by
  exact locks_flatMap _ (fun _ _ => rfl) fd fails 0

theorem acceptedOnLine_append (front back : List LineEvent) :
    acceptedOnLine (front ++ back) = acceptedOnLine front ++ acceptedOnLine back :=
  List.flatMap_append

theorem negative_result_tells {outcome : Int × List LineEvent} (data : List Byte)
    (negative : outcome.1 < 0) : TellsWhatWasAccepted outcome data :=
  ⟨fun success => by omega, fun _ => negative⟩

/-- `tty_write` tells what became of the bytes exactly when it does not come to
the line at all or the line takes all of them. -/
theorem tty_write_tells_iff (fd : Int) (lockFails : Nat) (results : List Int) (data : List Byte) :
    TellsWhatWasAccepted (ttyWrite fd lockFails results data) data ↔
      fd < 0 ∨ 30 < lockFails ∨ data.length ≤ takenCount results := by
  rcases tty_write_cases fd lockFails results data with
    ⟨negative, outcome⟩ | ⟨port, busy, outcome⟩ | ⟨port, free, outcome⟩
  · apply iff_of_true
    · exact negative_result_tells data (by simp [outcome])
    · exact Or.inl negative
  · apply iff_of_true
    · exact negative_result_tells data (by simp [outcome])
    · exact Or.inr (Or.inl busy)
  · have accepted : acceptedOnLine (ttyWrite fd lockFails results data).2 =
        data.take (takenCount results) := by
      rw [outcome, acceptedOnLine_append, locks_accept_nothing, accepted_bytes_eq]
      exact List.append_nil _
    have told : (0 : Int) ≤ (ttyWrite fd lockFails results data).1 := by
      rw [outcome]
      exact Int.natCast_nonneg _
    constructor
    · intro tells
      have whole := tells.success told
      rw [accepted, List.take_eq_self_iff] at whole
      exact Or.inr (Or.inr whole)
    · intro reason
      have whole : acceptedOnLine (ttyWrite fd lockFails results data).2 = data := by
        rw [accepted, List.take_eq_self_iff]
        omega
      exact ⟨fun _ => whole, fun missing => absurd whole missing⟩

/-- The line takes one byte of three and then fails. -/
theorem short_write_is_success :
    ttyWrite 3 0 [1, -1] [7, 8, 9] =
        (3, [.locked 3 true, .flushed 3, .sent 3 [7, 8, 9] [7]]) ∧
      ¬TellsWhatWasAccepted (ttyWrite 3 0 [1, -1] [7, 8, 9]) [7, 8, 9] := by
  refine ⟨by decide, ?_⟩
  intro tells
  exact absurd (tells.success (by decide)) (by decide)

end GlRs485.LineTransfers
