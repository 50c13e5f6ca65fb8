import GlRs485.ServingVisits
import GlRs485.SpacedHex
import GlRs485.TerminalApi

/-!
# The serial descriptor of one call

The register calls close what they opened on every path. The text calls do not
look at what `tty_write` says: after a lock timeout they read from and close a
descriptor that is closed already, and `terminal_send_read` returns without
closing when its hex text is odd.
-/

namespace GlRs485.DescriptorUse

open CBytes HexCodec HexDecoder SpacedHex SerialLine RegisterApi TerminalApi ServingVisits

set_option autoImplicit false

/-- Every descriptor opened is closed once, and after that no call is made on it. -/
def ClosesOnce (events : List LineEvent) : Prop :=
  ∀ fd, .opened fd ∈ events → ∃ front back, events = front ++ .closed fd :: back ∧
    .closed fd ∉ front ∧ ∀ event ∈ back, lineFd event ≠ fd

theorem closes_once_count {events : List LineEvent} (fd : Int) (closes : ClosesOnce events)
    (opened : .opened fd ∈ events) : events.count (.closed fd) = 1 := by
  obtain ⟨front, back, split, first, quiet⟩ := closes fd opened
  have none : back.count (.closed fd) = 0 := by
    rw [List.count_eq_zero]
    intro member
    exact quiet _ member rfl
  rw [split, List.count_append, List.count_cons_self, none, List.count_eq_zero.mpr first]

def Uses (fd : Int) (events : List LineEvent) : Prop :=
  ∀ event ∈ events, lineFd event = fd ∧ event ≠ .opened fd ∧ event ≠ .closed fd

theorem uses_append {fd : Int} {front back : List LineEvent} (first : Uses fd front)
    (second : Uses fd back) : Uses fd (front ++ back) := by
  intro event member
  rcases List.mem_append.mp member with left | right
  · exact first event left
  · exact second event right

theorem flock_loop_uses (fd : Int) (fails : Nat) : Uses fd (flockLoop fd fails 0).2 := by
  intro event member
  obtain ⟨obtained, rfl⟩ := flock_loop_events fd fails 0 event member
  simp [lineFd]

theorem receive_loop_uses (fd : Int) (results : List RxResult) (buf : Buf) :
    Uses fd (receiveLoop fd results buf 0).events := by
  intro event member
  obtain ⟨result, rfl⟩ := receive_loop_events fd results buf 0 event member
  simp [lineFd]

theorem write_uses (fd : Int) (offered accepted : List Byte) :
    Uses fd [.flushed fd, .sent fd offered accepted] := by
  intro event member
  simp only [List.mem_cons, List.not_mem_nil, or_false] at member
  rcases member with rfl | rfl <;> simp [lineFd]

theorem uses_closes_nothing {fd : Int} {events : List LineEvent} (uses : Uses fd events)
    (other : Int) : events.count (.closed other) = 0 := by
  rw [List.count_eq_zero]
  intro member
  have used := uses _ member
  exact used.2.2 (by rw [← show other = fd from used.1])

theorem closes_once_of_uses (fd : Int) (events : List LineEvent) (uses : Uses fd events) :
    ClosesOnce (.opened fd :: (events ++ [.closed fd])) := by
  have unopened : ∀ other, .opened other ∉ events := by
    intro other member
    have used := uses _ member
    exact used.2.1 (by rw [← show other = fd from used.1])
  intro other opened
  have same : other = fd := by simpa [unopened] using opened
  subst same
  refine ⟨.opened other :: events, [], rfl, ?_, by simp⟩
  rw [List.mem_cons, not_or]
  exact ⟨by simp, List.count_eq_zero.mp (uses_closes_nothing uses other)⟩

theorem exchange_closes_once (line : LineAnswers) (command failure : List Byte) (asked : Bool) :
    ClosesOnce (exchange line command asked failure).events := by
  unfold exchange
  split
  · intro fd opened
    simp at opened
  · dsimp only
    have locks := flock_loop_uses line.fd line.lockFails
    split
    · have reads := receive_loop_uses line.fd line.received fun _ => 0
      have writes := write_uses line.fd command (acceptedBytes line.written command)
      have uses := uses_append locks (uses_append writes reads)
      have closes := closes_once_of_uses line.fd _ uses
      simpa [myuartTxNonBlocking] using closes
    · exact closes_once_of_uses line.fd _ locks

theorem send_and_receive_closes_once_iff (line : LineAnswers) (data : List Byte)
    (port : 0 ≤ line.fd) :
      ClosesOnce (.opened line.fd :: (sendAndReceive line data).events) ↔ line.lockFails ≤ 30 := by
  rcases tty_write_cases line.fd line.lockFails line.written data with
    ⟨negative, _⟩ | ⟨_, busy, refused⟩ | ⟨_, free, obtained⟩
  · omega
  · constructor
    · intro closes
      have once := closes_once_count line.fd closes (by simp)
      have locks := uses_closes_nothing (flock_loop_uses line.fd line.lockFails) line.fd
      simp [sendAndReceive, refused, locks] at once
    · intro few
      omega
  · have locks := flock_loop_uses line.fd line.lockFails
    have writes := write_uses line.fd data (acceptedBytes line.written data)
    have reads := receive_loop_uses line.fd line.received fun _ => 0
    have closes := closes_once_of_uses line.fd _ (uses_append locks (uses_append writes reads))
    have events : (sendAndReceive line data).events =
        (flockLoop line.fd line.lockFails 0).2 ++
          ([.flushed line.fd, .sent line.fd data (acceptedBytes line.written data)] ++
            (receiveLoop line.fd line.received (fun _ => 0) 0).events) ++ [.closed line.fd] := by
      have written : ¬(data.length : Int) < 0 := by omega
      simp [sendAndReceive, obtained, ttyRead, written]
    rw [events]
    exact ⟨fun _ => free, fun _ => closes⟩

theorem send_and_receive_unopened (line : LineAnswers) (data : List Byte) (missing : line.fd < 0) :
    ClosesOnce (sendAndReceive line data).events := by
  have reads := receive_loop_uses line.fd [.failed []] fun _ => 0
  have events : (sendAndReceive line data).events =
      (receiveLoop line.fd [.failed []] (fun _ => 0) 0).events ++ [.closed line.fd] := by
    simp [sendAndReceive, ttyWrite, missing, ttyRead]
  intro fd opened
  rw [events] at opened
  simp [receiveLoop] at opened

def keptText (data : List Byte) : List Byte := unblanked (data.takeWhile fun c => c ≠ 0)

theorem c_string_ends (data : List Byte) :
    strlen (ofBytes data) (data.length + 1) = (data.takeWhile fun c => c ≠ 0).length ∧
      strlen (ofBytes data) (data.length + 1) < data.length + 1 := by
  have length := strlen_text data (ofBytes data) (data.length + 1) (by omega) (cells_ofBytes data)
    (by simp [ofBytes])
  have front : (data.takeWhile fun c => c ≠ 0) <+: data := List.takeWhile_prefix _
  have shorter := front.length_le
  exact ⟨length, by omega⟩

theorem kept_text_length (data : List Byte) :
    strlen (removeBlank1 (ofBytes data) (strlen (ofBytes data) (data.length + 1)))
      (data.length + 1) = (keptText data).length := by
  obtain ⟨length, inside⟩ := c_string_ends data
  have nul := strlen_cell (ofBytes data) (data.length + 1) inside
  obtain ⟨text, ended⟩ := remove_blank1_text (ofBytes data) _ nul
  rw [length] at inside text ended ⊢
  rw [cells_takeWhile data (ofBytes data) _ (cells_ofBytes data)] at text ended
  have fewer : (keptText data).length ≤ (data.takeWhile fun c => c ≠ 0).length :=
    List.length_filter_le _ _
  rw [strlen_text (keptText data) _ _ (by omega) text ended, List.takeWhile_eq_self_iff.mpr]
  intro c member
  have before := (List.mem_filter.mp member).1
  have nonzero := List.mem_takeWhile_imp before
  exact nonzero

/-- `terminal_send_read` closes what it opens unless its hex text is odd or, with
a text it can decode, it does not get the lock. -/
def TerminalCloses (input : TerminalInput) (around : TerminalSurroundings) (line : LineAnswers) :
    Prop :=
  0 ≤ line.fd →
    (around.ttytype = ascii "hex" → (keptText input.data).length % 2 = 0) ∧
      (around.ttytype = ascii "hex" ∧ 254 ≤ (keptText input.data).length ∨ line.lockFails ≤ 30)

/-- `get_rs485_data_to_gl_mqtt` opens nothing for text it refuses or never decodes. -/
def ToMqttCloses (cmd : List Byte) (line : LineAnswers) : Prop :=
  0 ≤ line.fd → (keptText cmd).length % 2 = 0 → (keptText cmd).length < 254 → line.lockFails ≤ 30

theorem opened_port (fd : Int) : openedPort fd = if fd < 0 then [] else [.opened fd] := rfl

theorem text_call_closes_iff (line : LineAnswers) (data : List Byte) :
    ClosesOnce (openedPort line.fd ++ (sendAndReceive line data).events) ↔
      (0 ≤ line.fd → line.lockFails ≤ 30) := by
  by_cases missing : line.fd < 0
  · rw [opened_port, if_pos missing, List.nil_append]
    exact ⟨fun _ port => by omega, fun _ => send_and_receive_unopened line data missing⟩
  · rw [opened_port, if_neg missing, List.singleton_append,
      send_and_receive_closes_once_iff line data (by omega)]
    exact ⟨fun free _ => free, fun free => free (by omega)⟩

theorem opened_only_closes_iff (fd : Int) : ClosesOnce (openedPort fd) ↔ fd < 0 := by
  constructor
  · intro closes
    by_contra port
    rw [opened_port, if_neg port] at closes
    have once := closes_once_count fd closes (by simp)
    simp at once
  · intro missing
    rw [opened_port, if_pos missing]
    intro fd opened
    simp at opened

theorem terminal_events (input : TerminalInput) (around : TerminalSurroundings)
    (line : LineAnswers) :
      let length := (keptText input.data).length
      let events := (terminalSendRead input around line).map ApiResult.events
      (around.ttytype = ascii "hex" → length % 2 = 1 → events = some (openedPort line.fd)) ∧
      (around.ttytype = ascii "hex" → length % 2 = 0 → 254 ≤ length → events = none) ∧
      (¬(around.ttytype = ascii "hex" ∧ (length % 2 = 1 ∨ 254 ≤ length)) →
        ∃ data, events = some (openedPort line.fd ++ (sendAndReceive line data).events)) := by
  have kept := kept_text_length input.data
  rw [← remove_blank_eq _ _ (c_string_ends input.data).2] at kept
  dsimp only
  unfold terminalSendRead
  dsimp only
  rw [kept, str2acsll_eq]
  refine ⟨?_, ?_, ?_⟩
  · intro hex odd
    simp [hex, odd]
  · intro hex even long
    simp [hex, even, Nat.not_lt.mpr long]
  · intro reaches
    by_cases hex : around.ttytype = ascii "hex"
    · have even : (keptText input.data).length % 2 = 0 := by
        by_contra odd
        exact reaches ⟨hex, Or.inl (by omega)⟩
      have short : (keptText input.data).length < 254 := by
        by_contra long
        exact reaches ⟨hex, Or.inr (by omega)⟩
      simp only [hex, even, short, if_true, Nat.zero_ne_one, if_false, Option.map_some]
      exact ⟨_, rfl⟩
    · simp only [hex, if_false, Option.map_some]
      exact ⟨_, rfl⟩

theorem closes_of_events {call : Option ApiResult} :
    (∀ result, call = some result → ClosesOnce result.events) ↔
      ∀ events ∈ call.map ApiResult.events, ClosesOnce events := by
  cases call <;> simp

theorem terminal_closes_iff (input : TerminalInput) (around : TerminalSurroundings)
    (line : LineAnswers) :
      (∀ result, terminalSendRead input around line = some result → ClosesOnce result.events) ↔
        TerminalCloses input around line := by
  obtain ⟨odd, endless, reaches⟩ := terminal_events input around line
  rw [closes_of_events]
  unfold TerminalCloses
  by_cases hex : around.ttytype = ascii "hex"
  · by_cases even : (keptText input.data).length % 2 = 0
    · by_cases long : 254 ≤ (keptText input.data).length
      · rw [endless hex even long]
        simp [even, hex, long]
      · obtain ⟨data, events⟩ := reaches (by simp [even, long])
        rw [events]
        simp [text_call_closes_iff, even, long]
    · rw [odd hex (by omega)]
      simp only [Option.mem_def, Option.some.injEq, forall_eq', opened_only_closes_iff]
      constructor
      · intro missing port
        omega
      · intro closes
        by_contra port
        exact even ((closes (by omega)).1 hex)
  · obtain ⟨data, events⟩ := reaches (by simp [hex])
    rw [events]
    simp [text_call_closes_iff, hex]

theorem to_mqtt_events (cmd : List Byte) (line : LineAnswers) :
    let length := (keptText cmd).length
    let events := (getRs485DataToGlMqtt cmd line).map ApiResult.events
    (length % 2 = 1 → events = some []) ∧
    (length % 2 = 0 → 254 ≤ length → events = none) ∧
    (length % 2 = 0 → length < 254 → line.fd < 0 → events = some []) ∧
    (length % 2 = 0 → length < 254 → 0 ≤ line.fd →
      ∃ data, events = some (openedPort line.fd ++ (sendAndReceive line data).events)) := by
  dsimp only
  unfold getRs485DataToGlMqtt
  dsimp only
  rw [kept_text_length, str2acsll_eq]
  refine ⟨?_, ?_, ?_, ?_⟩
  · intro odd
    simp [odd]
  · intro even long
    simp [even, Nat.not_lt.mpr long]
  · intro even short missing
    simp [even, short, missing]
  · intro even short port
    have open_ : ¬line.fd < 0 := by omega
    simp only [even, short, if_true, Nat.zero_ne_one, if_false, Option.map_some, open_,
      opened_port]
    let rs485Cmd := removeBlank1 (ofBytes cmd) (strlen (ofBytes cmd) (cmd.length + 1))
    let length := (keptText cmd).length
    refine ⟨cells (packedCells length (digitCells rs485Cmd length fun _ => 0)) (length / 2), ?_⟩
    split <;> rfl

theorem to_mqtt_closes_iff (cmd : List Byte) (line : LineAnswers) :
    (∀ result, getRs485DataToGlMqtt cmd line = some result → ClosesOnce result.events) ↔
      ToMqttCloses cmd line := by
  obtain ⟨odd, endless, unopened, reaches⟩ := to_mqtt_events cmd line
  have nothing : ClosesOnce [] := by
    intro fd opened
    simp at opened
  rw [closes_of_events]
  unfold ToMqttCloses
  by_cases even : (keptText cmd).length % 2 = 0
  · by_cases short : (keptText cmd).length < 254
    · by_cases missing : line.fd < 0
      · rw [unopened even short missing]
        simp [nothing, Int.not_le.mpr missing]
      · obtain ⟨data, events⟩ := reaches even short (by omega)
        rw [events]
        simp [text_call_closes_iff, even, short]
    · rw [endless even (by omega)]
      simp [short]
  · rw [odd (by omega)]
    simp [nothing, even]

inductive ApiCall
  | readRs485Data (input : ReadInput)
  | writeRs485Data (input : WriteInput)
  | terminalSendRead (input : TerminalInput) (around : TerminalSurroundings)
  | getRs485DataToGlMqtt (cmd : List Byte)

def ApiCall.result (line : LineAnswers) : ApiCall → Option ApiResult
  | .readRs485Data input => RegisterApi.readRs485Data input line
  | .writeRs485Data input => RegisterApi.writeRs485Data input line
  | .terminalSendRead input around => TerminalApi.terminalSendRead input around line
  | .getRs485DataToGlMqtt cmd => TerminalApi.getRs485DataToGlMqtt cmd line

/-- The calls after which no descriptor is left open or closed twice. -/
def ApiCall.Closes (line : LineAnswers) : ApiCall → Prop
  | .readRs485Data _ => True
  | .writeRs485Data _ => True
  | .terminalSendRead input around => TerminalCloses input around line
  | .getRs485DataToGlMqtt cmd => ToMqttCloses cmd line

theorem api_descriptors_closed_iff (call : ApiCall) (line : LineAnswers) :
    (∀ result, call.result line = some result → ClosesOnce result.events) ↔ call.Closes line := by
  cases call with
  | readRs485Data input =>
      apply iff_of_true _ trivial
      intro result returned
      obtain ⟨command, regLen, _, rfl⟩ := read_exchange returned
      exact exchange_closes_once line command _ _
  | writeRs485Data input =>
      apply iff_of_true _ trivial
      intro result returned
      rcases write_exchange returned with unused | ⟨command, rfl⟩
      · intro fd opened
        simp [unused] at opened
      · exact exchange_closes_once line command _ _
  | terminalSendRead input around => exact terminal_closes_iff input around line
  | getRs485DataToGlMqtt cmd => exact to_mqtt_closes_iff cmd line

/-- Three digits leave the port open; a lock that is never free gets it closed,
read and closed again. -/
theorem terminal_descriptor_lost_or_closed_twice :
    let hex : TerminalSurroundings := ⟨ascii "hex", []⟩
    (∃ result, terminalSendRead ⟨false, false, ascii "1 23"⟩ hex ⟨3, 0, [], []⟩ = some result ∧
      result.code = 1 ∧ result.events = [.opened 3] ∧ ¬ClosesOnce result.events) ∧
    ∃ result, terminalSendRead ⟨false, false, ascii "0a"⟩ hex ⟨3, 31, [], []⟩ = some result ∧
      result.code = 0 ∧ result.events.drop 32 = [.closed 3, .received 3 (.failed []), .closed 3] ∧
        ¬ClosesOnce result.events := by
  constructor
  · refine ⟨⟨1, [], [.opened 3]⟩, by decide +kernel, rfl, rfl, ?_⟩
    intro closes
    have once := closes_once_count 3 closes (by simp)
    revert once
    decide
  · have returned : ((terminalSendRead ⟨false, false, ascii "0a"⟩ ⟨ascii "hex", []⟩
        ⟨3, 31, [], []⟩).map fun result => (result.code, result.events)) =
          some (0, .opened 3 :: List.replicate 31 (.locked 3 false) ++
            [.closed 3, .received 3 (.failed []), .closed 3]) := by
      decide +kernel
    obtain ⟨result, called, shown⟩ := Option.map_eq_some_iff.mp returned
    obtain ⟨code, events⟩ := Prod.mk.inj shown
    refine ⟨result, called, code, by rw [events]; rfl, ?_⟩
    intro closes
    have once := closes_once_count 3 closes (by rw [events]; simp)
    rw [events] at once
    revert once
    decide

end GlRs485.DescriptorUse
