import GlRs485.DaemonEnd
import GlRs485.MqttRetries
import GlRs485.ServedMessages

/-!
# What ends the MQTT daemon

`mqtt_loop` returns when its first connect is refused and when a lost connection is not
tried again, and it decodes for ever when a text is too long for the counters.
-/

namespace GlRs485.MqttEnd

open CBytes BridgeSettings HexDecoder HexRequests SerialLine MqttBridge MqttTransparency
open BufferBounds CommandHistories MqttRetries ServedMessages DaemonEnd TracedSystem FinalSteps

set_option autoImplicit false

def DecodedForEver (cfg : Cfg) (message : List Byte) : Prop :=
  message.length ≤ 1024 ∧ DecodesEndlessly cfg message

/-- What ends the bridge after `lost` results -3 in a row. -/
def EndsAfter (cfg : Cfg) (lost : Int) (first : Prop) : Answers → Prop
  | .start io => first ∧ io.connect ≠ 0
  | .receive io =>
      if io.rc = -3 then cfg.mqttautoconn = 1 → cfg.mqttautoconnmaxtime ≤ lost
      else ∃ message ∈ io.message, DecodedForEver cfg message

def EndsCounted (s : State) : Answers → Prop :=
  EndsAfter s.cfg s.mqttautoconntime (s.mqttautoconntime = 0)

def Final (pc : Pc) : Prop := pc ≠ .start ∧ pc ≠ .receiving

theorem stopped_iff_final (s : State) : Stopped step s ↔ Final s.pc := by
  unfold Final
  cases pc : s.pc with
  | start =>
      simp only [ne_eq, not_true_eq_false, false_and, iff_false]
      intro stopped
      have none := stopped (.start ⟨0, 0⟩)
      simp [step, pc] at none
  | receiving =>
      simp only [ne_eq, not_true_eq_false, and_false, iff_false]
      intro stopped
      have none := stopped (.receive ⟨0, none, 0, [], []⟩)
      simp [step, pc] at none
  | _ => simp [Stopped, step, pc]

/-! ## One step -/

theorem start_final_iff (s : State) (io : StartAnswers) :
    Final (startStep s io).1.pc ↔ EndsCounted s (.start io) := by
  unfold startStep EndsCounted EndsAfter
  by_cases refused : io.connect ≠ 0 ∧ s.mqttautoconntime = 0
  · rw [if_pos refused]
    simp [Final, refused.1, refused.2]
  · rw [if_neg refused]
    simpa [Final, and_comm] using refused

theorem message_final_iff (s : State) (message : List Byte) (io : ReceiveAnswers)
    (pc : s.pc = .receiving) :
      Final (handleMessage s message io).1.pc ↔ DecodedForEver s.cfg message := by
  have forwarded : ∀ (loaded : State) (nbytes : Nat), loaded.pc = .receiving →
      ¬Final (forward loaded io nbytes).1.pc := by
    intro loaded nbytes receiving
    rw [forward_state]
    simp [Final, State.calls, receiving]
  unfold handleMessage DecodedForEver DecodesEndlessly
  by_cases long : 1024 < message.length
  · rw [if_pos long]
    exact iff_of_false (by simp [Final, pc]) (by omega)
  · rw [if_neg long]
    have small : message.length ≤ 1024 := by omega
    dsimp only
    by_cases typed : s.cfg.isStr = true
    · obtain ⟨length, _⟩ := payload_text message s.write485data small
      rw [payloadBytes, payloadText, copiedPayload] at length
      rw [if_pos typed, length]
      by_cases odd : (textBeforeNul message).length % 2 = 1
      · rw [if_pos odd]
        exact iff_of_false (by simp [Final, pc]) (by omega)
      · rw [if_neg odd, str2acsll_eq]
        by_cases short : (textBeforeNul message).length < 254
        · rw [if_pos short]
          exact iff_of_false (forwarded _ _ pc) (by omega)
        · rw [if_neg short]
          exact iff_of_true (by simp [Final]) ⟨small, typed, by omega, by omega⟩
    · rw [if_neg typed]
      exact iff_of_false (forwarded _ _ pc) fun ends => typed ends.2.1

theorem receive_final_iff (s : State) (io : ReceiveAnswers) (pc : s.pc = .receiving) :
    Final (receiveStep s io).1.pc ↔ EndsCounted s (.receive io) := by
  unfold receiveStep EndsCounted EndsAfter
  dsimp only
  by_cases lost : io.rc = -3
  · rw [if_pos lost, if_pos lost]
    by_cases retried : s.cfg.mqttautoconn = 1
    · by_cases spent : s.mqttautoconntime + 1 > s.cfg.mqttautoconnmaxtime
      · simp only [if_pos retried, if_pos spent]
        exact iff_of_true (by simp [Final, leave]) fun _ => by omega
      · simp only [if_pos retried, if_neg spent]
        exact iff_of_false (by simp [Final]) fun ends => by
          have reached := ends retried
          omega
    · simp only [if_neg retried]
      exact iff_of_true (by simp [Final, leave]) fun on => absurd on retried
  · rw [if_neg lost, if_neg lost]
    cases came : io.message with
    | none => simp [Final, pc]
    | some message =>
        have handled := message_final_iff { s with mqttautoconntime := 0 } message io pc
        simpa using handled

theorem step_final_iff {s s' : State} {answers : Answers} {events : List Event}
    (taken : step s answers = some (s', events)) : Final s'.pc ↔ EndsCounted s answers := by
  unfold step at taken
  split at taken
  · next io pc =>
      obtain ⟨rfl, rfl⟩ := Prod.mk.inj (Option.some.inj taken)
      exact start_final_iff s io
  · next io pc =>
      obtain ⟨rfl, rfl⟩ := Prod.mk.inj (Option.some.inj taken)
      exact receive_final_iff s io pc
  · simp at taken

end GlRs485.MqttEnd
