import GlRs485.BufferBounds
import GlRs485.MqttRetries

/-!
# What an MQTT command depends on

The decoder stores nothing for a character that is no digit, and the array it
packs outlives the message. So the bytes handed to the line are the command's own
exactly when every character of its text is a digit, or the text is refused.
-/

namespace GlRs485.CommandHistories

open CBytes HexText HexCodec HexDecoder SpacedHex BridgeSettings SerialLine MqttBridge TracedSystem
open HexRequests BufferBounds MqttRetries

set_option autoImplicit false

inductive Command
  | refused (reply : List Byte)
  | written (bytes : List Byte)
  deriving DecidableEq

/-- What a message comes to: a reply without a write, or the bytes `tty_write` is
given. A decoder that does not end has neither. -/
def command (s : State) (payload : List Byte) : Option Command :=
  if 1024 < payload.length then some (.refused (ascii "out len"))
  else if s.cfg.isStr then
    let text := payloadText payload s.write485data
    let nbytes := payloadBytes payload s.write485data
    if nbytes % 2 = 1 then some (.refused (ascii "data format error"))
    else (glStr2acsll text nbytes s.writeBuff).map fun writeBuff =>
      .written (cells writeBuff (nbytes / 2))
  else
    let copied := copiedPayload payload s.write485data
    some (.written (cells (strncpy s.writeBuff copied payload.length) payload.length))

def Follows (s : State) (io : ReceiveAnswers) (events : List Event) : Command → Prop
  | .refused reply => events = [.published reply]
  | .written bytes => ∃ text, events =
      ((ttyWrite s.fd io.lockFails io.written bytes).2 ++
        (ttyRead s.fd io.received s.recBuff).events).map .line ++ [.published text]

theorem forward_follows (s : State) (io : ReceiveAnswers) (text writeBuff : Buf) (nbytes : Nat) :
    let loaded := { s with write485data := text, writeBuff := writeBuff }
    Follows s io ((forward loaded io nbytes).2.1.map .line ++
      [.published (forward loaded io nbytes).2.2]) (.written (cells writeBuff nbytes)) := by
  intro loaded
  rw [forward_calls]
  exact ⟨_, rfl⟩

theorem message_follows (s : State) (payload : List Byte) (io : ReceiveAnswers) :
    match command s payload with
    | some does => Follows s io (handleMessage s payload io).2 does
    | none => (handleMessage s payload io).1.pc = .endless := by
  unfold command handleMessage
  by_cases large : 1024 < payload.length
  · rw [if_pos large, if_pos large]
    rfl
  · rw [if_neg large, if_neg large]
    dsimp only
    cases s.cfg.isStr with
    | true =>
        rw [if_pos rfl, if_pos rfl]
        by_cases odd : payloadBytes payload s.write485data % 2 = 1
        · have refused := odd
          rw [payloadBytes, payloadText, copiedPayload] at refused
          rw [if_pos odd, if_pos refused]
          rfl
        · have taken := odd
          rw [payloadBytes, payloadText, copiedPayload] at taken
          rw [if_neg odd, if_neg taken, payloadBytes, payloadText, copiedPayload]
          cases glStr2acsll _ _ s.writeBuff with
          | none => rfl
          | some writeBuff => exact forward_follows s io _ writeBuff _
    | false =>
        rw [if_neg (by decide), if_neg (by decide)]
        exact forward_follows s io _ _ payload.length

/-! ## The text of a payload -/

theorem text_before_nul_eq (payload : List Byte) :
    textBeforeNul payload = unblanked (payload.takeWhile fun c => c ≠ 0) := by
  induction payload with
  | nil => rfl
  | cons c rest ih =>
      rw [textBeforeNul] at ih
      by_cases nul : c = 0
      · simp [textBeforeNul, unblanked, nul]
      · by_cases blank : c = 32
        · simpa [textBeforeNul, unblanked, nul, blank] using ih
        · simpa [textBeforeNul, unblanked, nul, blank] using ih

theorem copied_text (payload : List Byte) (memory : Buf) :
    textBeforeNul (cells (copiedPayload payload memory) payload.length) =
      textBeforeNul payload := by
  rw [text_before_nul_eq, text_before_nul_eq]
  congr 1
  have copied : cells (copiedPayload payload memory) payload.length =
      cells (strncpy memory (ofBytes payload) payload.length) payload.length := by
    rw [cells_eq_iff]
    intro index bound
    exact put_other _ _ _ _ (by omega)
  rw [copied, strncpy_takeWhile]

theorem payload_text (payload : List Byte) (memory : Buf) (small : payload.length ≤ 1024) :
    payloadBytes payload memory = (textBeforeNul payload).length ∧
      cells (payloadText payload memory) (textBeforeNul payload).length =
        textBeforeNul payload := by
  obtain ⟨front, ended⟩ := remove_blank1_text (copiedPayload payload memory) payload.length
    (copied_payload_at_end payload memory)
  have fewer := List.length_filter_le (fun c : Byte => decide (c ≠ 32))
    (cells (copiedPayload payload memory) payload.length)
  rw [cells_length, ← unblanked] at fewer
  rw [← copied_text payload memory]
  exact ⟨strlen_text _ _ _ (by omega) front ended, cells_takeWhile _ _ _ front⟩

/-! ## What the decoder leaves -/

/-- The cell behind a character: its digit, or what was there before. -/
def decodedCell (s : State) (payload : List Byte) (index : Nat) : Byte :=
  (digitCell ((textBeforeNul payload).getD index 0)).getD (s.writeBuff index)

def decodedByte (s : State) (payload : List Byte) (index : Nat) : Byte :=
  (decodedCell s payload (2 * index) <<< 4) ||| decodedCell s payload (2 * index + 1)

def decodedBuff (s : State) (payload : List Byte) : Buf :=
  packedCells (textBeforeNul payload).length
    (digitCells (payloadText payload s.write485data) (textBeforeNul payload).length s.writeBuff)

theorem text_before_nul_length (payload : List Byte) :
    (textBeforeNul payload).length ≤ payload.length :=
  (List.takeWhile_prefix _).length_le.trans (List.length_filter_le _ _)

theorem digit_cells_decoded (s : State) (payload : List Byte) (small : payload.length ≤ 1024)
    (index : Nat) (inside : index < (textBeforeNul payload).length) :
      digitCells (payloadText payload s.write485data) (textBeforeNul payload).length s.writeBuff
        index = decodedCell s payload index := by
  have text := (cells_eq_bytes_iff _ _).mp (payload_text payload s.write485data small).2
  rw [digitCells, if_pos inside, text index inside, decodedCell, List.getD_eq_getElem _ _ inside]

theorem decoded_buff_cell (s : State) (payload : List Byte) (small : payload.length ≤ 1024)
    (index : Nat) (inside : index < (textBeforeNul payload).length / 2) :
      decodedBuff s payload index = decodedByte s payload index := by
  rw [decodedBuff, packedCells, if_pos (by omega), digit_cells_decoded s payload small _ (by omega),
    digit_cells_decoded s payload small _ (by omega), decodedByte]

theorem typed_command (s : State) (payload : List Byte) (typed : s.cfg.isStr = true)
    (short : payload.length ≤ 252) :
      command s payload = some
        (if (textBeforeNul payload).length % 2 = 1 then .refused (ascii "data format error")
        else .written (cells (decodedBuff s payload) ((textBeforeNul payload).length / 2))) := by
  have length := text_before_nul_length payload
  rw [command, if_neg (by omega), if_pos typed]
  dsimp only
  rw [(payload_text payload s.write485data (by omega)).1]
  split
  · rfl
  · rw [str2acsll_eq, if_pos (by omega)]
    rfl

theorem commands_eq_iff (s s' : State) (payload : List Byte) (typed : s.cfg.isStr = true)
    (typed' : s'.cfg.isStr = true) (short : payload.length ≤ 252)
    (even : ¬(textBeforeNul payload).length % 2 = 1) :
      command s payload = command s' payload ↔
        ∀ index < (textBeforeNul payload).length / 2,
          decodedByte s payload index = decodedByte s' payload index := by
  rw [typed_command s payload typed short, typed_command s' payload typed' short, if_neg even,
    if_neg even, Option.some.injEq, Command.written.injEq, cells_eq_iff]
  constructor
  · intro same index inside
    rw [← decoded_buff_cell s payload (by omega) index inside,
      ← decoded_buff_cell s' payload (by omega) index inside]
    exact same index inside
  · intro same index inside
    rw [decoded_buff_cell s payload (by omega) index inside,
      decoded_buff_cell s' payload (by omega) index inside]
    exact same index inside

/-! ## Histories -/

def Awaiting (cfg : Cfg) : State → Prop :=
  Reached step Anything (initialState cfg) fun s => s.pc = .receiving

/-- The command does the same after every history. -/
def CommandFree (cfg : Cfg) (payload : List Byte) : Prop :=
  HistoryFree (Awaiting cfg) fun s => command s payload

/-- A text that is refused, or that consists of digits only. -/
def Determined (payload : List Byte) : Prop :=
  (textBeforeNul payload).length % 2 = 1 ∨ ∀ c ∈ textBeforeNul payload, IsHexDigit c

instance (payload : List Byte) : Decidable (Determined payload) :=
  inferInstanceAs (Decidable (_ ∨ _))

theorem determined_commands_eq {s s' : State} {payload : List Byte} (typed : s.cfg.isStr = true)
    (typed' : s'.cfg.isStr = true) (short : payload.length ≤ 252)
    (determined : Determined payload) : command s payload = command s' payload := by
  by_cases odd : (textBeforeNul payload).length % 2 = 1
  · rw [typed_command s payload typed short, typed_command s' payload typed' short, if_pos odd,
      if_pos odd]
  · have hex := determined.resolve_left odd
    have cell : ∀ index < (textBeforeNul payload).length,
        decodedCell s payload index = decodedCell s' payload index := by
      intro index inside
      rw [decodedCell, decodedCell, List.getD_eq_getElem _ _ inside,
        digit_cell_of_hex _ (hex _ (List.getElem_mem inside)), Option.getD_some, Option.getD_some]
    apply (commands_eq_iff s s' payload typed typed' short odd).mpr
    intro index inside
    rw [decodedByte, decodedByte, cell _ (by omega), cell _ (by omega)]

theorem receive_step_cfg (s : State) (io : ReceiveAnswers) :
    (receiveStep s io).1.cfg = s.cfg := by
  unfold receiveStep
  split
  · split
    · dsimp only
      split
      · rfl
      · rfl
    · rfl
  · dsimp only
    split
    · rfl
    · exact (message_handled _ _ io).cfg

theorem start_step_cfg (s : State) (io : StartAnswers) : (startStep s io).1.cfg = s.cfg := by
  unfold startStep
  split
  · rfl
  · rfl

theorem step_cfg {s s' : State} {answers : Answers} {events : List Event}
    (taken : step s answers = some (s', events)) : s'.cfg = s.cfg := by
  unfold step at taken
  split at taken
  · next io _ =>
      obtain ⟨rfl, rfl⟩ := Prod.mk.inj (Option.some.inj taken)
      exact start_step_cfg s _
  · next io _ =>
      obtain ⟨rfl, rfl⟩ := Prod.mk.inj (Option.some.inj taken)
      exact receive_step_cfg s _
  · simp at taken

theorem awaiting_cfg {cfg : Cfg} {s : State} (awaiting : Awaiting cfg s) : s.cfg = cfg := by
  apply reached_invariant (fun s => s.cfg = cfg) rfl ?_ awaiting
  intro s answers after events same _ taken
  exact (step_cfg taken).trans same

/-! ## A history that shows -/

theorem packed_low_bit (high low : Byte) :
    ((high <<< 4) ||| low).toNat.testBit 0 = low.toNat.testBit 0 := by
  have table : ∀ value < 256, (UInt8.ofNat value <<< 4).toNat.testBit 0 = false := by
    decide +kernel
  have shifted := table high.toNat high.toNat_lt
  rw [UInt8.ofNat_toNat] at shifted
  rw [UInt8.toNat_or, Nat.testBit_or, shifted, Bool.false_or]

theorem packed_high_bit (high low : Byte) :
    ((high <<< 4) ||| low).toNat.testBit 4 = (high.toNat.testBit 0 || low.toNat.testBit 4) := by
  have table : ∀ value < 256, (UInt8.ofNat value <<< 4).toNat.testBit 4 =
      (UInt8.ofNat value).toNat.testBit 0 := by
    decide +kernel
  have shifted := table high.toNat high.toNat_lt
  rw [UInt8.ofNat_toNat] at shifted
  rw [UInt8.toNat_or, Nat.testBit_or, shifted]

theorem digit_below_sixteen (c : Byte) : ((digitCell c).getD 0).toNat.testBit 4 = false := by
  have table : ∀ value < 256,
      ((digitCell (UInt8.ofNat value)).getD 0).toNat.testBit 4 = false := by
    decide +kernel
  have entry := table c.toNat c.toNat_lt
  rwa [UInt8.ofNat_toNat] at entry

theorem digit_cell_of_other (c : Byte) (other : ¬IsHexDigit c) : digitCell c = none := by
  have table : ∀ value < 256, ¬IsHexDigit (UInt8.ofNat value) →
      digitCell (UInt8.ofNat value) = none := by
    decide +kernel
  have entry := table c.toNat c.toNat_lt
  rw [UInt8.ofNat_toNat] at entry
  exact entry other

/-- A character that is no digit shows the lowest bit of what was there before: as
the high half of a byte in its bit 4, as the low half in its bit 0. -/
theorem other_character_shows (s s' : State) (payload : List Byte) (index : Nat)
    (other : ¬IsHexDigit ((textBeforeNul payload).getD index 0))
    (fresh : s.writeBuff = fun _ => 0)
    (used : (s'.writeBuff index).toNat.testBit 0 = true) :
      decodedByte s payload (index / 2) ≠ decodedByte s' payload (index / 2) := by
  intro same
  have left : decodedCell s payload index = 0 := by
    rw [decodedCell, digit_cell_of_other _ other, fresh]
    rfl
  have right : decodedCell s' payload index = s'.writeBuff index := by
    rw [decodedCell, digit_cell_of_other _ other]
    rfl
  rw [decodedByte, decodedByte] at same
  rcases Nat.mod_two_eq_zero_or_one index with even | odd
  · have high : 2 * (index / 2) = index := by omega
    have clear : (decodedCell s payload (index + 1)).toNat.testBit 4 = false := by
      rw [decodedCell, fresh]
      exact digit_below_sixteen _
    have bits := congrArg (fun byte : Byte => byte.toNat.testBit 4) same
    simp only [packed_high_bit, high, left, right, clear, used] at bits
    simp at bits
  · have low : 2 * (index / 2) + 1 = index := by omega
    have bits := congrArg (fun byte : Byte => byte.toNat.testBit 0) same
    simp only [packed_low_bit, low, left, right, used] at bits
    simp at bits

theorem typed_message (s : State) (payload : List Byte) (io : ReceiveAnswers)
    (typed : s.cfg.isStr = true) (short : payload.length ≤ 252)
    (even : ¬(textBeforeNul payload).length % 2 = 1) :
      (handleMessage s payload io).1.writeBuff = decodedBuff s payload ∧
        (handleMessage s payload io).1.pc = s.pc := by
  have length := text_before_nul_length payload
  have counted := (payload_text payload s.write485data (by omega)).1
  rw [payloadBytes, payloadText, copiedPayload] at counted
  rw [handleMessage, if_neg (by omega)]
  dsimp only
  rw [if_pos typed, counted, if_neg even, str2acsll_eq, if_pos (by omega)]
  dsimp only
  rw [forward_state]
  exact ⟨rfl, rfl⟩

def ones (pairs : Nat) : List Byte := List.replicate (2 * pairs) 49

theorem ones_text (pairs : Nat) : textBeforeNul (ones pairs) = ones pairs := by
  have kept : unblanked (ones pairs) = ones pairs := by
    rw [unblanked, List.filter_eq_self]
    intro c member
    rw [List.eq_of_mem_replicate member]
    decide
  rw [textBeforeNul, kept]
  apply takeWhile_zero_free
  intro nul
  exact absurd (List.eq_of_mem_replicate nul) (by decide)

def afterOnes (cfg : Cfg) (pairs : Nat) : State :=
  (receiveStep (connected cfg 0) ⟨0, some (ones pairs), 0, [], []⟩).1

theorem connected_awaiting (cfg : Cfg) : Awaiting cfg (connected cfg 0) := by
  have taken : step (initialState cfg) (.start ⟨0, 0⟩) =
      some (startStep (initialState cfg) ⟨0, 0⟩) := rfl
  refine ⟨_, .next .start trivial taken, ?_⟩
  simp [connected, startStep]

theorem after_ones_eq (cfg : Cfg) (pairs : Nat) (typed : cfg.isStr = true) (small : pairs ≤ 126) :
    (afterOnes cfg pairs).writeBuff = decodedBuff (connected cfg 0) (ones pairs) ∧
      (afterOnes cfg pairs).pc = .receiving := by
  have length : (ones pairs).length = 2 * pairs := List.length_replicate
  have handled := typed_message { connected cfg 0 with mqttautoconntime := 0 } (ones pairs)
    ⟨0, some (ones pairs), 0, [], []⟩ typed (by omega) (by rw [ones_text]; omega)
  exact handled

theorem after_ones_awaiting (cfg : Cfg) (pairs : Nat) (typed : cfg.isStr = true)
    (small : pairs ≤ 126) : Awaiting cfg (afterOnes cfg pairs) := by
  obtain ⟨trace, run, receiving⟩ := connected_awaiting cfg
  have taken : step (connected cfg 0) (.receive ⟨0, some (ones pairs), 0, [], []⟩) =
      some (receiveStep (connected cfg 0) ⟨0, some (ones pairs), 0, [], []⟩) := by
    simp only [step, receiving]
  exact ⟨_, .next run trivial taken, (after_ones_eq cfg pairs typed small).2⟩

theorem after_ones_low_bit (cfg : Cfg) (pairs index : Nat) (typed : cfg.isStr = true)
    (small : pairs ≤ 126) (inside : index < 2 * pairs) (apart : index ≠ pairs) :
      ((afterOnes cfg pairs).writeBuff index).toNat.testBit 0 = true := by
  have length : (textBeforeNul (ones pairs)).length = 2 * pairs := by
    rw [ones_text, ones, List.length_replicate]
  have room : (ones pairs).length ≤ 1024 := by
    rw [ones, List.length_replicate]
    omega
  have digit : ∀ j < 2 * pairs, decodedCell (connected cfg 0) (ones pairs) j = 1 := by
    intro j bound
    rw [decodedCell, ones_text, ones, List.getD_replicate _ bound]
    rfl
  rw [(after_ones_eq cfg pairs typed small).1]
  rcases Nat.lt_or_ge index pairs with front | behind
  · rw [decoded_buff_cell _ _ room index (by omega), decodedByte, digit _ (by omega),
      digit _ (by omega)]
    rfl
  · rw [decodedBuff, packedCells, length, if_neg (by omega), ← length,
      digit_cells_decoded _ _ room index (by omega), digit _ inside]
    rfl

/-- Every cell that a command can read has been set by some history. -/
theorem some_history_sets (cfg : Cfg) (index : Nat) (typed : cfg.isStr = true)
    (bound : index < 252) : ∃ s, Awaiting cfg s ∧ (s.writeBuff index).toNat.testBit 0 = true := by
  by_cases front : index < 126
  · exact ⟨_, after_ones_awaiting cfg (index + 1) typed (by omega),
      after_ones_low_bit cfg (index + 1) index typed (by omega) (by omega) (by omega)⟩
  · exact ⟨_, after_ones_awaiting cfg (index / 2 + 1) typed (by omega),
      after_ones_low_bit cfg (index / 2 + 1) index typed (by omega) (by omega) (by omega)⟩

/-- A command of up to 252 bytes does the same after every history exactly when its
text, up to the first NUL and without blanks, has an odd length or only digits. -/
theorem command_history_free_iff {cfg : Cfg} {payload : List Byte} (typed : cfg.isStr = true)
    (short : payload.length ≤ 252) : CommandFree cfg payload ↔ Determined payload := by
  have length := text_before_nul_length payload
  have typedAll : ∀ s, Awaiting cfg s → s.cfg.isStr = true := by
    intro s awaiting
    rw [awaiting_cfg awaiting, typed]
  rw [CommandFree, historyFree_iff (connected_awaiting cfg)]
  constructor
  · intro same
    by_contra undetermined
    obtain ⟨even, others⟩ := not_or.mp undetermined
    obtain ⟨c, found⟩ := not_forall.mp others
    obtain ⟨member, other⟩ := Classical.not_imp.mp found
    obtain ⟨index, inside, rfl⟩ := List.getElem_of_mem member
    obtain ⟨s, awaiting, used⟩ := some_history_sets cfg index typed (by omega)
    have bytes := (commands_eq_iff (connected cfg 0) s payload typed (typedAll s awaiting) short
      even).mp (same s awaiting)
    apply other_character_shows (connected cfg 0) s payload index _ rfl used
      (bytes (index / 2) (by omega))
    rwa [List.getD_eq_getElem _ _ inside]
  · intro determined s awaiting
    exact determined_commands_eq typed (typedAll s awaiting) short determined

theorem command_history_free_iff_spelled :
    CommandFree strOverTcp (ascii "0a 1F") ∧ CommandFree strOverTcp (ascii "xyz") :=
  ⟨(command_history_free_iff (by decide +kernel) (by decide +kernel)).mpr (by decide +kernel),
    (command_history_free_iff (by decide +kernel) (by decide +kernel)).mpr (by decide +kernel)⟩

/-- Two letters that are no digits write a zero at first, and 0x11 after `"1111"`. -/
theorem letters_repeat_history :
    command (connected strOverTcp 0) (ascii "zz") = some (.written [0]) ∧
      command (afterOnes strOverTcp 2) (ascii "zz") = some (.written [17]) ∧
      ¬CommandFree strOverTcp (ascii "zz") := by
  have first : command (connected strOverTcp 0) (ascii "zz") = some (.written [0]) := by
    decide +kernel
  have later : command (afterOnes strOverTcp 2) (ascii "zz") = some (.written [17]) := by
    decide +kernel
  refine ⟨first, later, ?_⟩
  intro free
  have same := free (connected strOverTcp 0) (afterOnes strOverTcp 2)
    (connected_awaiting strOverTcp)
    (after_ones_awaiting strOverTcp 2 (by decide +kernel) (by decide))
  exact absurd (first.symm.trans (same.trans later)) (by decide)

end GlRs485.CommandHistories
