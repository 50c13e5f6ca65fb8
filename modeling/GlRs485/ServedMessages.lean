import GlRs485.CommandHistories
import GlRs485.Foundation.Transactions
import GlRs485.SequentialServer

/-!
# The MQTT bridge serves one message after the other

`mqtt_loop` makes a transaction of every message it receives: one write, the answer
collected, one reply published. Between them it opens and closes its port.
-/

namespace GlRs485.ServedMessages

open CBytes BridgeSettings HexText HexCodec HexDecoder SpacedHex SerialLine SequentialServer
open HexRequests BufferBounds MqttBridge MqttTransparency TransmissionType CommandHistories
open TracedSystem

set_option autoImplicit false

/-- The calls of the write. Its result is ignored: the answer is collected all the same. -/
inductive WriteCalls (port : Int) (payload : List Byte) : List LineEvent → Prop
  | unopened (missing : port < 0) : WriteCalls port payload []
  | lockedOut : WriteCalls port payload (lockoutCalls port)
  | written {calls : List LineEvent} (writes : Writes port payload calls) :
      WriteCalls port payload calls

def publishedText (text : Bool) (heard : List Byte) : List Byte :=
  if heard = [] then ascii "no data" else if text then hexTextOf heard else heard

/-- A message is taken as a C string, which ends at its first NUL. -/
inductive Transaction (text : Bool) : List Event → Prop
  | opened {fd : Int} (port : 0 ≤ fd) : Transaction text [.line (.opened fd)]
  | closed {fd : Int} : Transaction text [.line (.closed fd)]
  | tooLong {message : List Byte} (long : 1024 < message.length) :
      Transaction text [.message message, .published (ascii "out len")]
  | refused {message : List Byte} (small : message.length ≤ 1024)
      (malformed : Denotes text (cutAtNul message) none) :
      Transaction text [.message message, .published (ascii "data format error")]
  | served {message payload : List Byte} {port : Int} {calls : List LineEvent}
      {results : List RxResult} (small : message.length ≤ 1024)
      (asked : Denotes text (cutAtNul message) (some payload))
      (writes : WriteCalls port payload calls) (collected : Collected results) :
      Transaction text (.message message ::
        ((calls ++ results.map (LineEvent.received port)).map .line ++
          [.published (publishedText text (heardOf results))]))

def shows : Event → Bool
  | .message _ => true
  | .line _ => true
  | .published _ => true
  | _ => false

/-- The buffers hold what comes: `write_485data` a message with a NUL behind it, `write_buff`
an untyped one, `rec_buff` the answer and `alldata` its digits with their NUL. -/
def BuffersHold (s : State) : Answers → Prop
  | .start _ => True
  | .receive io => (gathered io.received).length ≤ 511 ∧
      ∀ message ∈ io.message, 1024 < message.length ∨
        message.length ≤ if s.cfg.isStr then 1023 else 512

instance : DecidableRel BuffersHold := fun s answers =>
  match answers with
  | .start _ => isTrue trivial
  | .receive io => inferInstanceAs (Decidable ((gathered io.received).length ≤ 511 ∧
      ∀ message ∈ io.message, 1024 < message.length ∨
        message.length ≤ if s.cfg.isStr then 1023 else 512))

theorem cut_text (message : List Byte) : textOf (cutAtNul message) = textBeforeNul message := by
  have copied := cells_strncpy_cut (fun _ => 0) (ofBytes message) message.length
  have front := strncpy_takeWhile (fun _ => 0) message
  rw [copied, cells_ofBytes] at front
  show textBeforeNul (cutAtNul message) = _
  rw [text_before_nul_eq, front, text_before_nul_eq]

theorem tty_write_calls (fd : Int) (lockFails : Nat) (results : List Int) (data : List Byte) :
    WriteCalls fd data (ttyWrite fd lockFails results data).2 := by
  by_cases port : 0 ≤ fd
  · rcases tty_write_written fd lockFails results data port with ⟨_, writes⟩ | ⟨_, refused⟩
    · exact .written writes
    · rw [refused]
      exact .lockedOut
  · have none : (ttyWrite fd lockFails results data).2 = [] := by
      simp [ttyWrite, show fd < 0 by omega]
    rw [none]
    exact .unopened (by omega)

theorem forward_served (s : State) (io : ReceiveAnswers) (nbytes : Nat)
    (fits : (gathered io.received).length ≤ 511) :
      ∃ calls results, WriteCalls s.fd (cells s.writeBuff nbytes) calls ∧ Collected results ∧
        (forward s io nbytes).2.1 = calls ++ results.map (.received s.fd) ∧
          (forward s io nbytes).2.2 = publishedText s.cfg.isStr (heardOf results) := by
  obtain ⟨results, events, collected, counts, stored, silent⟩ :=
    tty_read_hears s.fd io.received s.recBuff
  refine ⟨_, results, tty_write_calls s.fd io.lockFails io.written (cells s.writeBuff nbytes),
    collected, by rw [forward_calls, events], ?_⟩
  unfold forward publishedText
  dsimp only
  by_cases nothing : heardOf results = []
  · rw [if_pos (silent.mpr nothing), if_pos nothing]
  · rw [if_neg fun none => nothing (silent.mp none), if_neg nothing, counts]
    by_cases typed : s.cfg.isStr = true
    · have short : (heardOf results).length ≤ 511 := by
        have answer := receive_loop_gathers s.fd io.received s.recBuff 0
        rw [← ttyRead, events, List.flatMap_map] at answer
        have same : (fun result => lineData (.received s.fd result)) = resultBytes := by
          funext result
          cases result <;> rfl
        have taken : answerOf results = gathered io.received := by rw [← answer, same, answerOf]
        have front := (heard_begins results).length_le
        rw [taken] at front
        exact front.trans fits
      have text := hex_text_string (ttyRead s.fd io.received s.recBuff).buf
        (heardOf results).length 1025 (by omega)
      rw [stored] at text
      rw [if_pos typed, if_pos (show (s.calls _).cfg.isStr = true from typed)]
      exact text
    · rw [if_neg typed, if_neg (show ¬(s.calls _).cfg.isStr = true from typed)]
      exact stored

theorem copied_twice (first second : Buf) (message : List Byte) :
    cells (strncpy second (put (strncpy first (ofBytes message) message.length) message.length 0)
      message.length) message.length = cutAtNul message := by
  have copied : cells (put (strncpy first (ofBytes message) message.length) message.length 0)
      message.length = cells (strncpy first (ofBytes message) message.length) message.length :=
    cells_put_behind _ _ _ _ (le_refl _)
  have again : cells (strncpy second
      (put (strncpy first (ofBytes message) message.length) message.length 0) message.length)
        message.length =
          cells (put (strncpy first (ofBytes message) message.length) message.length 0)
            message.length := by
    rw [cells_strncpy_eq_iff, copied]
    exact nulsAtEnd_strncpy _ _ _
  rw [again, copied, cells_strncpy_cut, cells_ofBytes]

theorem decoded_payload (s : State) (message : List Byte) (small : message.length ≤ 1024)
    (even : (textBeforeNul message).length % 2 = 0) :
      Denotes true (cutAtNul message)
        (some (cells (decodedBuff s message) ((textBeforeNul message).length / 2))) := by
  have content := (payload_text message s.write485data small).2
  by_cases hex : ∀ digit ∈ textBeforeNul message, IsHexDigit digit
  · have pairs := packed_cells_of_hex _ _ s.writeBuff content hex
    rw [decodedBuff, pairs, ← cut_text]
    exact .digits rfl (by rwa [cut_text]) (by rwa [cut_text])
  · push Not at hex
    exact .garbled rfl (by rwa [cut_text]) (by rwa [cut_text]) (by rw [cells_length, cut_text])

/-- A message is a transaction, unless its decoding does not end. -/
theorem message_served (s : State) (message : List Byte) (io : ReceiveAnswers)
    (fits : (gathered io.received).length ≤ 511) :
      Transaction s.cfg.isStr (.message message :: (handleMessage s message io).2) ∨
        ((handleMessage s message io).1.pc = .endless ∧ (handleMessage s message io).2 = []) := by
  have forwards : ∀ loaded : State, loaded.cfg = s.cfg → ∀ nbytes, message.length ≤ 1024 →
      Denotes s.cfg.isStr (cutAtNul message) (some (cells loaded.writeBuff nbytes)) →
        Transaction s.cfg.isStr (.message message ::
          ((forward loaded io nbytes).2.1.map .line ++
            [.published (forward loaded io nbytes).2.2])) := by
    intro loaded cfg nbytes small asked
    obtain ⟨calls, results, writes, collected, shown, reply⟩ :=
      forward_served loaded io nbytes fits
    rw [shown, reply, cfg]
    exact .served small asked writes collected
  unfold handleMessage
  by_cases long : 1024 < message.length
  · rw [if_pos long]
    exact Or.inl (.tooLong long)
  · rw [if_neg long]
    dsimp only
    by_cases typed : s.cfg.isStr = true
    · obtain ⟨length, _⟩ := payload_text message s.write485data (by omega)
      rw [payloadBytes, payloadText, copiedPayload] at length
      rw [if_pos typed, length]
      by_cases odd : (textBeforeNul message).length % 2 = 1
      · rw [if_pos odd]
        exact Or.inl (.refused (by omega) (.refused typed (by rwa [cut_text])))
      · rw [if_neg odd, str2acsll_eq]
        by_cases short : (textBeforeNul message).length < 254
        · rw [if_pos short]
          have asked := decoded_payload s message (by omega) (by omega)
          rw [← typed] at asked
          exact Or.inl (forwards { s with
            write485data := payloadText message s.write485data
            writeBuff := decodedBuff s message } rfl _ (by omega) asked)
        · rw [if_neg short]
          exact Or.inr ⟨rfl, rfl⟩
    · have untyped : s.cfg.isStr = false := by simpa using typed
      rw [if_neg typed]
      have copied := copied_twice s.write485data s.writeBuff message
      have asked : Denotes s.cfg.isStr (cutAtNul message) (some (cutAtNul message)) :=
        .untyped untyped
      exact Or.inl (forwards (copiedMessage s message) rfl _ (by omega) (copied.symm ▸ asked))

/-! ## Along a run -/

theorem transaction_shown {text : Bool} {block : List Event} (whole : Transaction text block) :
    block.filter shows = block := by
  rw [List.filter_eq_self]
  intro event member
  cases whole with
  | served small asked writes collected =>
      simp only [List.mem_cons, List.mem_append, List.mem_map, List.not_mem_nil, or_false] at member
      rcases member with rfl | ⟨call, _, rfl⟩ | rfl <;> rfl
  | opened port => rw [List.mem_singleton.mp member]; rfl
  | closed => rw [List.mem_singleton.mp member]; rfl
  | tooLong long => rcases List.mem_pair.mp member with rfl | rfl <;> rfl
  | refused small malformed => rcases List.mem_pair.mp member with rfl | rfl <;> rfl

theorem start_served (text : Bool) (s : State) (io : StartAnswers) :
    Serial (Transaction text) ((startStep s io).2.filter shows) := by
  unfold startStep
  split
  · exact .start
  · dsimp only
    split
    · exact .start
    · next port => exact serial_block (.opened (by omega))

theorem receive_served (s : State) (io : ReceiveAnswers)
    (fits : (gathered io.received).length ≤ 511) :
      Serial (Transaction s.cfg.isStr) ((receiveStep s io).2.filter shows) ∨
        (receiveStep s io).1.pc = .endless ∧
          ∃ message, (receiveStep s io).2.filter shows = [.message message] := by
  have leaves : Serial (Transaction s.cfg.isStr)
      ([Event.received io.rc, .line (.closed s.fd)].filter shows) := serial_block .closed
  have nothing : Serial (Transaction s.cfg.isStr) ([] : List Event) := .start
  unfold receiveStep
  split
  · split
    · dsimp only
      split
      · exact Or.inl leaves
      · exact Or.inl nothing
    · exact Or.inl leaves
  · dsimp only
    split
    · exact Or.inl nothing
    · next message _ =>
        rcases message_served { s with mqttautoconntime := 0 } message io fits with
          whole | ⟨endless, none⟩
        · left
          have shown := transaction_shown whole
          rw [List.filter_cons_of_neg (by simp [shows]), shown]
          exact serial_block whole
        · right
          refine ⟨endless, message, ?_⟩
          rw [none]
          rfl

structure ServedSoFar (cfg : Cfg) (trace : List Event) (s : State) : Prop where
  same : s.cfg = cfg
  serial : Serial (Transaction cfg.isStr) (trace.filter shows) ∨
    s.pc = .endless ∧ ∃ done message, trace.filter shows = done ++ [.message message] ∧
      Serial (Transaction cfg.isStr) done

/-- What is shown of any run is a sequence of whole transactions: the port opened or closed,
or a message with the one write, the one answer and the one publication it leads to. Only
a message whose decoding never ends stays without its rest, and it is the last one. -/
theorem messages_served_one_by_one {cfg : Cfg} {trace : List Event} {s : State}
    (run : Run step BuffersHold (initialState cfg) trace s) :
      ∃ done rest, trace.filter shows = done ++ rest ∧ Serial (Transaction cfg.isStr) done ∧
        (rest = [] ∨ s.pc = .endless ∧ ∃ message, rest = [.message message]) := by
  have reached : ServedSoFar cfg trace s := by
    apply run_invariant (ServedSoFar cfg) ⟨rfl, Or.inl .start⟩ _ run
    intro trace s answers s' events before held taken
    have sameCfg := (step_cfg taken).trans before.same
    have going : s.pc ≠ .endless := by
      intro endless
      simp [step, endless] at taken
    have serial := before.serial.resolve_right fun stuck => going stuck.1
    refine ⟨sameCfg, ?_⟩
    rw [List.filter_append]
    unfold step at taken
    split at taken
    · next io pc =>
        have shown : (startStep s io).2 = events := congrArg Prod.snd (Option.some.inj taken)
        rw [← shown]
        exact Or.inl (serial_append serial (start_served cfg.isStr s io))
    · next io pc =>
        have state : (receiveStep s io).1 = s' := congrArg Prod.fst (Option.some.inj taken)
        have shown : (receiveStep s io).2 = events := congrArg Prod.snd (Option.some.inj taken)
        have served := receive_served s io held.1
        rw [before.same] at served
        rw [← shown, ← state]
        rcases served with whole | ⟨endless, message, unfinished⟩
        · exact Or.inl (serial_append serial whole)
        · exact Or.inr ⟨endless, _, message, by rw [unfinished], serial⟩
    · simp at taken
  rcases reached.serial with serial | ⟨endless, done, message, shown, serial⟩
  · exact ⟨_, [], (List.append_nil _).symm, serial, Or.inl rfl⟩
  · exact ⟨done, _, shown, serial, Or.inr ⟨endless, message, rfl⟩⟩

def twoMessages : List Answers :=
  [.start ⟨0, 3⟩, .receive ⟨0, some (ascii "01 A2"), 0, [2], [.data [9, 255]]⟩,
    .receive ⟨0, some (ascii "012"), 0, [], []⟩]

def twoTransactions : List Event :=
  [.line (.opened 3), .message (ascii "01 A2"), .line (.locked 3 true), .line (.flushed 3),
    .line (.sent 3 [1, 162] [1, 162]), .line (.received 3 (.data [9, 255])),
    .published (ascii "09FF"), .message (ascii "012"), .published (ascii "data format error")]

theorem messages_served_one_by_one_with_two_messages :
    ∃ trace : List Event, trace.filter shows = twoTransactions ∧
      Serial (Transaction true) (trace.filter shows) := by
  obtain ⟨s, trace, run, shown⟩ := run_of_replay_view step BuffersHold
    (fun reached => (reached.2.filter shows, decide (reached.1.pc = .endless))) twoMessages
    (initialState ⟨0, 32, 0, 0, ascii "str", ascii "mqtt"⟩) (twoTransactions, false)
    (by decide +kernel)
  obtain ⟨seen, finished⟩ := Prod.mk.inj shown
  obtain ⟨done, rest, split, serial, unfinished⟩ := messages_served_one_by_one run
  have whole : rest = [] := unfinished.resolve_right fun stuck =>
    of_decide_eq_false finished stuck.1
  rw [whole, List.append_nil] at split
  exact ⟨trace, seen, split ▸ serial⟩

end GlRs485.ServedMessages
