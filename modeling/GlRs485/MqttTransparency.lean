import GlRs485.MqttBridge

/-!
# What a message becomes on its way through the MQTT bridge

The payload is copied twice with `strncpy`; the second copy can lose nothing
that the first one left. The answer is published as it was received, as far as
the receive loop reads it.
-/

namespace GlRs485.MqttTransparency

open CBytes BridgeSettings SerialLine MqttBridge TracedSystem

set_option autoImplicit false

def handed (events : List Event) : List (List Byte) :=
  events.filterMap fun event =>
    match event with
    | .line (.sent _ offered _) => some offered
    | _ => none

def publications (events : List Event) : List (List Byte) :=
  events.filterMap fun event =>
    match event with
    | .published payload => some payload
    | _ => none

theorem terminated_copy (first : Buf) (payload : List Byte) :
    cells (put (strncpy first (ofBytes payload) payload.length) payload.length 0)
      payload.length = cells (strncpy first (ofBytes payload) payload.length) payload.length := by
  rw [cells_eq_iff]
  intro index bound
  exact put_other _ _ _ _ (by omega)

theorem copied_once_iff (first : Buf) (payload : List Byte) :
    cells (put (strncpy first (ofBytes payload) payload.length) payload.length 0)
      payload.length = payload ↔ NulsAtEnd payload := by
  have once := cells_strncpy_eq_iff first (ofBytes payload) payload.length
  rw [cells_ofBytes] at once
  rw [terminated_copy, once]

/-- The copy that reaches `write_buff` is the payload exactly when the zeros of
the payload all stand at its end. -/
theorem copied_twice_iff (first second : Buf) (payload : List Byte) :
    cells (strncpy second (put (strncpy first (ofBytes payload) payload.length) payload.length 0)
        payload.length) payload.length = payload ↔ NulsAtEnd payload := by
  have again : cells (strncpy second
        (put (strncpy first (ofBytes payload) payload.length) payload.length 0) payload.length)
      payload.length = cells (put (strncpy first (ofBytes payload) payload.length) payload.length 0)
        payload.length := by
    rw [cells_strncpy_eq_iff, terminated_copy]
    exact nulsAtEnd_strncpy first (ofBytes payload) payload.length
  rw [again, copied_once_iff]

/-- The loop reads a whole answer exactly when every piece but the last is eight
bytes long. -/
theorem receive_loop_whole_iff (fd : Int) (chunks : List (List Byte)) (buf : Buf) (count : Nat)
    (nonempty : ∀ chunk ∈ chunks, chunk ≠ []) :
      (receiveLoop fd (chunks.map .data) buf count).events.flatMap lineData = chunks.flatten ↔
        ∀ chunk ∈ chunks.dropLast, chunk.length = 8 := by
  induction chunks generalizing buf count with
  | nil => simp [receiveLoop, lineData]
  | cons chunk rest ih =>
      have later := ih (store buf count chunk) (count + 8)
        fun other member => nonempty other (by simp [member])
      by_cases eight : chunk.length = 8
      · have goesOn :
            (receiveLoop fd ((chunk :: rest).map .data) buf count).events.flatMap lineData =
              chunk ++ (receiveLoop fd (rest.map .data) (store buf count chunk)
                (count + 8)).events.flatMap lineData := by
          simp [receiveLoop, eight, lineData]
        rw [goesOn, List.flatten_cons, List.append_cancel_left_eq, later]
        cases rest with
        | nil => simp
        | cons next others => simp [eight]
      · have stops :
            (receiveLoop fd ((chunk :: rest).map .data) buf count).events.flatMap lineData =
              chunk := by
          simp [receiveLoop, eight, lineData]
        rw [stops, List.flatten_cons]
        cases rest with
        | nil => simp
        | cons next others =>
            apply iff_of_false
            · intro same
              have none := List.self_eq_append_right.mp same
              simp [nonempty next (by simp)] at none
            · intro all
              exact eight (all chunk (by simp))

theorem handed_locks (fd : Int) (fails timeOut : Nat) :
    handed ((flockLoop fd fails timeOut).2.map .line) = [] := by
  rw [handed, List.filterMap_map]
  exact locks_filterMap _ (fun _ _ => rfl) fd fails timeOut

theorem handed_reads (fd : Int) (results : List RxResult) (buf : Buf) :
    handed ((ttyRead fd results buf).events.map .line) = [] := by
  rw [handed, List.filterMap_map]
  exact reads_filterMap _ (fun _ _ => rfl) fd results buf 0

theorem publications_calls (calls : List LineEvent) : publications (calls.map .line) = [] := by
  rw [publications, List.filterMap_eq_nil_iff]
  intro event member
  obtain ⟨call, _, same⟩ := List.mem_map.mp member
  rw [← same]

theorem handed_append (left right : List Event) :
    handed (left ++ right) = handed left ++ handed right :=
  List.filterMap_append

theorem publications_append (left right : List Event) :
    publications (left ++ right) = publications left ++ publications right :=
  List.filterMap_append

theorem forward_handed (s : State) (io : ReceiveAnswers) (nbytes : Nat) (port : 0 ≤ s.fd)
    (locked : io.lockFails ≤ 30) :
      handed ((forward s io nbytes).2.1.map .line) = [cells s.writeBuff nbytes] := by
  have written :=
    tty_write_obtained s.fd io.lockFails io.written (cells s.writeBuff nbytes) port locked
  rw [forward_calls, written, List.map_append, handed_append, handed_reads, List.map_append,
    handed_append, handed_locks]
  rfl

theorem forward_published (s : State) (io : ReceiveAnswers) (nbytes : Nat)
    (untyped : s.cfg.isStr = false) (noneFailed : ∀ result ∈ io.received, result.fails = false)
    (nonempty : (ttyRead s.fd io.received s.recBuff).events.flatMap lineData ≠ []) :
      (forward s io nbytes).2.2 = (ttyRead s.fd io.received s.recBuff).events.flatMap lineData := by
  obtain ⟨counted, stored⟩ := receive_loop_stores s.fd io.received s.recBuff 0 noneFailed
  have length := List.length_pos_iff.mpr nonempty
  unfold ttyRead at length
  have some : ¬ (ttyRead s.fd io.received s.recBuff).count ≤ 0 := by
    unfold ttyRead
    omega
  have count : (ttyRead s.fd io.received s.recBuff).count.toNat =
      0 + ((receiveLoop s.fd io.received s.recBuff 0).events.flatMap lineData).length := by
    unfold ttyRead
    omega
  have whole : (forward s io nbytes).2.2 = cells (ttyRead s.fd io.received s.recBuff).buf
      (ttyRead s.fd io.received s.recBuff).count.toNat := by
    simp only [forward, if_neg some, State.calls_cfg, untyped, Bool.false_eq_true, if_false]
  rw [whole, count]
  exact stored

theorem receive_loop_nonempty (fd : Int) (chunks : List (List Byte)) (buf : Buf) (count : Nat)
    (some : chunks ≠ []) (nonempty : ∀ chunk ∈ chunks, chunk ≠ []) :
      (receiveLoop fd (chunks.map .data) buf count).events.flatMap lineData ≠ [] := by
  cases chunks with
  | nil => exact absurd rfl some
  | cons chunk rest =>
      have first := nonempty chunk (by simp)
      by_cases eight : chunk.length = 8
      · simp [receiveLoop, eight, lineData, first]
      · simp [receiveLoop, eight, lineData, first]

theorem message_handled {s s' : State} {events : List Event} {io : ReceiveAnswers}
    {payload : List Byte} (receiving : s.pc = .receiving) (connected : io.rc ≠ -3)
    (message : io.message = some payload) (taken : step s (.receive io) = some (s', events)) :
      events = .received io.rc :: .message payload ::
        (handleMessage { s with mqttautoconntime := 0 } payload io).2 := by
  have received : step s (.receive io) = some (receiveStep s io) := by simp [step, receiving]
  rw [received, receiveStep, if_neg connected, message] at taken
  exact (Prod.mk.inj (Option.some.inj taken)).2.symm

def copiedMessage (s : State) (payload : List Byte) : State :=
  let copied := put (strncpy s.write485data (ofBytes payload) payload.length) payload.length 0
  { s with write485data := copied, writeBuff := strncpy s.writeBuff copied payload.length }

theorem untyped_forwarded (s : State) (payload : List Byte) (io : ReceiveAnswers)
    (untyped : s.cfg.isStr = false) (small : payload.length ≤ 1024) :
      (handleMessage s payload io).2 =
        (forward (copiedMessage s payload) io payload.length).2.1.map .line ++
          [.published (forward (copiedMessage s payload) io payload.length).2.2] := by
  have hex : ¬s.cfg.isStr = true := by simp [untyped]
  rw [handleMessage, if_neg (by omega)]
  dsimp only
  rw [if_neg hex]
  rfl

/-- The MQTT bridge is transparent for a payload and an answer, given as the
pieces the driver hands out, exactly when the zeros of the payload all stand at
its end and every piece but the last is eight bytes long. -/
theorem mqtt_bridge_transparent_iff {s s' : State} {events : List Event} {io : ReceiveAnswers}
    {payload : List Byte} {chunks : List (List Byte)} (receiving : s.pc = .receiving)
    (untyped : s.cfg.isStr = false) (port : 0 ≤ s.fd) (connected : io.rc ≠ -3)
    (message : io.message = some payload) (small : payload.length ≤ 512)
    (locked : io.lockFails ≤ 30) (answer : io.received = chunks.map .data)
    (answered : chunks ≠ [])
    (nonempty : ∀ chunk ∈ chunks, chunk ≠ [])
    (taken : step s (.receive io) = some (s', events)) :
      (handed events = [payload] ∧ publications events = [chunks.flatten]) ↔
        NulsAtEnd payload ∧ ∀ chunk ∈ chunks.dropLast, chunk.length = 8 := by
  let loaded := copiedMessage { s with mqttautoconntime := 0 } payload
  have shown : events = .received io.rc :: .message payload ::
      ((forward loaded io payload.length).2.1.map .line ++
        [.published (forward loaded io payload.length).2.2]) := by
    rw [message_handled receiving connected message taken,
      untyped_forwarded { s with mqttautoconntime := 0 } payload io untyped (by omega)]
  have noneFailed : ∀ result ∈ io.received, result.fails = false := by
    rw [answer]
    simp [RxResult.fails]
  have reads : (ttyRead s.fd io.received s.recBuff).events.flatMap lineData ≠ [] := by
    rw [answer]
    exact receive_loop_nonempty s.fd chunks s.recBuff 0 answered nonempty
  have published := forward_published loaded io payload.length untyped noneFailed reads
  have handing := forward_handed loaded io payload.length port locked
  have toLine : handed events = [cells loaded.writeBuff payload.length] := by
    have parts := handed_append ((forward loaded io payload.length).2.1.map .line)
      [.published (forward loaded io payload.length).2.2]
    rw [shown, ← handing]
    exact parts.trans (List.append_nil _)
  have toTopic : publications events =
      [(ttyRead s.fd io.received s.recBuff).events.flatMap lineData] := by
    have parts := publications_append ((forward loaded io payload.length).2.1.map .line)
      [.published (forward loaded io payload.length).2.2]
    rw [publications_calls, published] at parts
    rw [shown, published]
    exact parts
  rw [toLine, toTopic, List.singleton_inj, List.singleton_inj]
  apply and_congr
  · exact copied_twice_iff s.write485data s.writeBuff payload
  · rw [answer]
    exact receive_loop_whole_iff s.fd chunks s.recBuff 0 nonempty

def opened : State :=
  (startStep (initialState ⟨0, 32, 1, 5, ascii "hex", ascii "tcps"⟩) ⟨0, 3⟩).1

def exchange (payload answer : List Byte) : ReceiveAnswers :=
  ⟨0, some payload, 0, [payload.length], [.data answer]⟩

def bridged (payload answer : List Byte) : Option (List (List Byte) × List (List Byte)) :=
  (step opened (.receive (exchange payload answer))).map fun result =>
    (handed result.2, publications result.2)

theorem mqtt_bridge_transparent_without_zeros :
    bridged [1, 3, 7, 9] [1, 3, 2, 5] = some ([[1, 3, 7, 9]], [[1, 3, 2, 5]]) := by
  have taken : step opened (.receive (exchange [1, 3, 7, 9] [1, 3, 2, 5])) =
      some (receiveStep opened (exchange [1, 3, 7, 9] [1, 3, 2, 5])) := rfl
  have chunks : (exchange [1, 3, 7, 9] [1, 3, 2, 5]).received = [[1, 3, 2, 5]].map .data := rfl
  have transparent : handed (receiveStep opened (exchange [1, 3, 7, 9] [1, 3, 2, 5])).2 =
        [[1, 3, 7, 9]] ∧
      publications (receiveStep opened (exchange [1, 3, 7, 9] [1, 3, 2, 5])).2 =
        [[[1, 3, 2, 5]].flatten] :=
    (mqtt_bridge_transparent_iff (by decide) (by decide) (by decide) (by decide) rfl (by decide)
      (by decide) chunks (by decide) (by decide) taken).mpr ⟨by decide, by decide⟩
  rw [bridged, taken, Option.map_some, transparent.1, transparent.2]
  rfl

/-- A read of one register of device 1: the address and the rest of the frame
are lost at the zero. -/
theorem zero_inside_message_cuts_it :
    bridged [1, 3, 0, 0, 0, 1, 132, 10] [7] = some ([[1, 3, 0, 0, 0, 0, 0, 0]], [[7]]) := by
  decide +kernel

end GlRs485.MqttTransparency
