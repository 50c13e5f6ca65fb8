import GlRs485.MqttBridge
import Mathlib.Algebra.Ring.Int.Defs

/-!
# How often the MQTT bridge connects again

`mqttautoconntime` counts the results -3 in a row across `goto start`. It is
zero at the first connect only, so a failed connect ends the function then and
never later.
-/

namespace GlRs485.MqttRetries

open CBytes BridgeSettings HexCodec SerialLine MqttBridge TracedSystem

set_option autoImplicit false

def noteLost (lost : Nat) : Event → Nat
  | .received rc => if rc = -3 then lost + 1 else 0
  | _ => lost

/-- The results -3 of `MQTTClient_receive` since the last other one. -/
def lostInRow (trace : List Event) : Nat := trace.foldl noteLost 0

def noteAttempt (attempts : Nat) : Event → Nat
  | .reconnecting => attempts + 1
  | .received rc => if rc = -3 then attempts else 0
  | _ => attempts

/-- The reconnect attempts since the last result other than -3. -/
def attemptsInRow (trace : List Event) : Nat := trace.foldl noteAttempt 0

theorem lostInRow_append (trace events : List Event) :
    lostInRow (trace ++ events) = events.foldl noteLost (lostInRow trace) := List.foldl_append

theorem attemptsInRow_append (trace events : List Event) :
    attemptsInRow (trace ++ events) = events.foldl noteAttempt (attemptsInRow trace) :=
  List.foldl_append

def connected (cfg : Cfg) (opened : Int) : State := (startStep (initialState cfg) ⟨0, opened⟩).1

def Anything (_ : State) (_ : Answers) : Prop := True

instance (s : State) (answers : Answers) : Decidable (Anything s answers) := .isTrue trivial

def Silent : Event → Prop
  | .received _ => False
  | .reconnecting => False
  | _ => True

theorem silent_notes (events : List Event) (silent : ∀ event ∈ events, Silent event) (note : Nat) :
    events.foldl noteLost note = note ∧ events.foldl noteAttempt note = note := by
  constructor
  · apply notes_unchanged
    intro event member
    have quiet := silent event member
    cases event <;> simp_all [Silent, noteLost]
  · apply notes_unchanged
    intro event member
    have quiet := silent event member
    cases event <;> simp_all [Silent, noteAttempt]

structure Handled (s s' : State) (events : List Event) : Prop where
  cfg : s'.cfg = s.cfg
  counter : s'.mqttautoconntime = s.mqttautoconntime
  stays : s'.pc = s.pc ∨ s'.pc = .endless
  silent : ∀ event ∈ events, Silent event

theorem forward_handled (s : State) (io : ReceiveAnswers) (nbytes : Nat) :
    Handled s (forward s io nbytes).1
      ((forward s io nbytes).2.1.map .line ++ [.published (forward s io nbytes).2.2]) := by
  refine ⟨by rw [forward_state]; rfl, by rw [forward_state]; rfl,
    Or.inl (by rw [forward_state]; rfl), ?_⟩
  intro event member
  rcases List.mem_append.mp member with line | published
  · obtain ⟨call, _, rfl⟩ := List.mem_map.mp line
    trivial
  · rw [List.mem_singleton.mp published]
    trivial

theorem message_handled (s : State) (payload : List Byte) (io : ReceiveAnswers) :
    Handled s (handleMessage s payload io).1 (handleMessage s payload io).2 := by
  have replied : ∀ (loaded : State) (text : List Byte), loaded.cfg = s.cfg →
      loaded.mqttautoconntime = s.mqttautoconntime → loaded.pc = s.pc →
        Handled s loaded [.published text] := by
    intro loaded text cfg counter pc
    exact ⟨cfg, counter, Or.inl pc, fun event member => by
      rw [List.mem_singleton.mp member]
      trivial⟩
  have forwarded : ∀ (loaded : State) (nbytes : Nat), loaded.cfg = s.cfg →
      loaded.mqttautoconntime = s.mqttautoconntime → loaded.pc = s.pc →
        Handled s (forward loaded io nbytes).1
          ((forward loaded io nbytes).2.1.map .line ++
            [.published (forward loaded io nbytes).2.2]) := by
    intro loaded nbytes cfg counter pc
    have handled := forward_handled loaded io nbytes
    exact ⟨handled.cfg.trans cfg, handled.counter.trans counter,
      handled.stays.imp_left fun same => same.trans pc, handled.silent⟩
  unfold handleMessage
  dsimp only
  split
  · exact replied _ _ rfl rfl rfl
  · split
    · split
      · exact replied _ _ rfl rfl rfl
      · split
        · exact ⟨rfl, rfl, Or.inr rfl, by simp⟩
        · exact forwarded _ _ rfl rfl rfl
    · exact forwarded _ _ rfl rfl rfl

/-- The counter is the number of results -3 in a row, and where the function
stands says how many there can be. -/
structure Counts (cfg : Cfg) (trace : List Event) (s : State) : Prop where
  same : s.cfg = cfg
  counter : s.mqttautoconntime = lostInRow trace
  receiving : s.pc = .receiving →
    attemptsInRow trace = lostInRow trace ∧ (lostInRow trace : Int) ≤ cfg.mqttautoconnmaxtime
  start : s.pc = .start → 0 < lostInRow trace ∧
    attemptsInRow trace = lostInRow trace ∧ (lostInRow trace : Int) ≤ cfg.mqttautoconnmaxtime
  returned : ∀ rc, s.pc = .returned rc → rc = -3 ∧
    attemptsInRow trace + 1 = lostInRow trace ∧
      (lostInRow trace : Int) = cfg.mqttautoconnmaxtime + 1
  endless : s.pc = .endless → attemptsInRow trace = 0 ∧ lostInRow trace = 0

theorem connected_counts (cfg : Cfg) (opened : Int) (nonneg : 0 ≤ cfg.mqttautoconnmaxtime) :
    Counts cfg [] (connected cfg opened) := by
  have receiving : (connected cfg opened).pc = .receiving := by
    simp [connected, startStep]
  constructor
  · simp [connected, startStep, initialState]
  · simp [connected, startStep, initialState, State.calls, lostInRow]
  · exact fun _ => ⟨rfl, nonneg⟩
  · simp [receiving]
  · simp [receiving]
  · simp [receiving]

theorem start_counts {cfg : Cfg} {trace : List Event} {s : State} (io : StartAnswers)
    (pc : s.pc = .start) (before : Counts cfg trace s) :
      Counts cfg (trace ++ (startStep s io).2) (startStep s io).1 := by
  obtain ⟨lost, attempts, bound⟩ := before.start pc
  have counter := before.counter
  have later : ¬(io.connect ≠ 0 ∧ s.mqttautoconntime = 0) := by omega
  have silent : ∀ event ∈ (startStep s io).2, Silent event := by
    intro event member
    simp only [startStep, if_neg later, List.mem_cons, List.mem_map] at member
    rcases member with rfl | ⟨call, _, rfl⟩ <;> trivial
  have receiving : (startStep s io).1.pc = .receiving := by simp only [startStep, if_neg later]
  obtain ⟨keepsLost, _⟩ := silent_notes _ silent (lostInRow trace)
  obtain ⟨_, keepsAttempts⟩ := silent_notes _ silent (attemptsInRow trace)
  rw [← lostInRow_append] at keepsLost
  rw [← attemptsInRow_append] at keepsAttempts
  constructor
  · simp only [startStep, if_neg later]
    exact before.same
  · rw [keepsLost, ← counter]
    simp only [startStep, if_neg later]
    rfl
  · exact fun _ => by rw [keepsLost, keepsAttempts]; exact ⟨attempts, bound⟩
  · simp [receiving]
  · simp [receiving]
  · simp [receiving]

theorem spent_counts {cfg : Cfg} {trace : List Event} {s : State} {io : ReceiveAnswers}
    (autoconn : cfg.mqttautoconn = 1) (pc : s.pc = .receiving) (lost : io.rc = -3)
    (before : Counts cfg trace s) (spent : s.mqttautoconntime + 1 > s.cfg.mqttautoconnmaxtime) :
      Counts cfg (trace ++ (receiveStep s io).2) (receiveStep s io).1 := by
  obtain ⟨attempts, bound⟩ := before.receiving pc
  have same := before.same
  have on : s.cfg.mqttautoconn = 1 := by rw [same, autoconn]
  have counter := before.counter
  have step : receiveStep s io = ((leave { s with mqttautoconntime := s.mqttautoconntime + 1 }
      io.rc).1, .received io.rc :: [.line (.closed s.fd)]) := by
    simp only [receiveStep, if_pos lost, if_pos on, if_pos spent]
    rfl
  have one : lostInRow (trace ++ [.received io.rc, .line (.closed s.fd)]) =
      lostInRow trace + 1 := by
    simp [lostInRow_append, noteLost, lost]
  have none : attemptsInRow (trace ++ [.received io.rc, .line (.closed s.fd)]) =
      attemptsInRow trace := by
    simp [attemptsInRow_append, noteAttempt, lost]
  rw [step]
  rw [same] at spent
  constructor
  · exact same
  · rw [one, Int.natCast_add, ← counter]
    rfl
  · simp [leave]
  · simp [leave]
  · intro rc returned
    rw [one, none]
    refine ⟨?_, by omega, by omega⟩
    simp only [leave, Pc.returned.injEq] at returned
    rw [← returned, lost]
  · simp [leave]

theorem retry_counts {cfg : Cfg} {trace : List Event} {s : State} {io : ReceiveAnswers}
    (autoconn : cfg.mqttautoconn = 1) (pc : s.pc = .receiving) (lost : io.rc = -3)
    (before : Counts cfg trace s) (left : ¬s.mqttautoconntime + 1 > s.cfg.mqttautoconnmaxtime) :
      Counts cfg (trace ++ (receiveStep s io).2) (receiveStep s io).1 := by
  obtain ⟨attempts, bound⟩ := before.receiving pc
  have same := before.same
  have on : s.cfg.mqttautoconn = 1 := by rw [same, autoconn]
  have counter := before.counter
  have step : receiveStep s io =
      ({ s with mqttautoconntime := s.mqttautoconntime + 1, pc := .start },
        [.received io.rc, .reconnecting]) := by
    simp only [receiveStep, if_pos lost, if_pos on, if_neg left]
  have one : lostInRow (trace ++ [.received io.rc, .reconnecting]) = lostInRow trace + 1 := by
    simp [lostInRow_append, noteLost, lost]
  have another : attemptsInRow (trace ++ [.received io.rc, .reconnecting]) =
      attemptsInRow trace + 1 := by
    simp [attemptsInRow_append, noteAttempt, lost]
  rw [step]
  rw [same] at left
  constructor
  · exact same
  · rw [one, Int.natCast_add, ← counter]
    rfl
  · simp
  · intro _
    rw [one, another]
    omega
  · simp
  · simp

theorem other_counts {cfg : Cfg} {trace : List Event} {s : State} {io : ReceiveAnswers}
    (nonneg : 0 ≤ cfg.mqttautoconnmaxtime) (pc : s.pc = .receiving) (other : io.rc ≠ -3)
    (before : Counts cfg trace s) :
      Counts cfg (trace ++ (receiveStep s io).2) (receiveStep s io).1 := by
  have goesOn : ∃ later, (receiveStep s io).2 = .received io.rc :: later ∧
      Handled { s with mqttautoconntime := 0 } (receiveStep s io).1 later := by
    unfold receiveStep
    rw [if_neg other]
    dsimp only
    split
    · exact ⟨[], rfl, rfl, rfl, Or.inl rfl, by simp⟩
    · next payload _ =>
        have handled := message_handled { s with mqttautoconntime := 0 } payload io
        refine ⟨_, rfl, handled.cfg, handled.counter, handled.stays, ?_⟩
        intro event member
        rcases List.mem_cons.mp member with message | later
        · rw [message]
          trivial
        · exact handled.silent event later
  obtain ⟨later, shown, handled⟩ := goesOn
  have noneLost : lostInRow (trace ++ (receiveStep s io).2) = 0 := by
    rw [shown, lostInRow_append, List.foldl_cons, (silent_notes later handled.silent _).1]
    exact if_neg other
  have noneTried : attemptsInRow (trace ++ (receiveStep s io).2) = 0 := by
    rw [shown, attemptsInRow_append, List.foldl_cons, (silent_notes later handled.silent _).2]
    exact if_neg other
  have stays : (receiveStep s io).1.pc = .receiving ∨ (receiveStep s io).1.pc = .endless :=
    handled.stays.imp_left fun same => same.trans pc
  constructor
  · exact handled.cfg.trans before.same
  · rw [noneLost]
    exact handled.counter
  · exact fun _ => by rw [noneLost, noneTried]; exact ⟨rfl, nonneg⟩
  · intro start
    rcases stays with on | on <;> simp [on] at start
  · intro rc returned
    rcases stays with on | on <;> simp [on] at returned
  · exact fun _ => ⟨noneTried, noneLost⟩

theorem counts_step {cfg : Cfg} {trace events : List Event} {s s' : State} {answers : Answers}
    (autoconn : cfg.mqttautoconn = 1) (nonneg : 0 ≤ cfg.mqttautoconnmaxtime)
    (before : Counts cfg trace s) (taken : step s answers = some (s', events)) :
      Counts cfg (trace ++ events) s' := by
  unfold step at taken
  split at taken
  · next io pc =>
      obtain ⟨rfl, rfl⟩ := Prod.mk.inj (Option.some.inj taken)
      exact start_counts io pc before
  · next io pc =>
      obtain ⟨rfl, rfl⟩ := Prod.mk.inj (Option.some.inj taken)
      by_cases lost : io.rc = -3
      · by_cases spent : s.mqttautoconntime + 1 > s.cfg.mqttautoconnmaxtime
        · exact spent_counts autoconn pc lost before spent
        · exact retry_counts autoconn pc lost before spent
      · exact other_counts nonneg pc lost before
  · simp at taken

/-- After a first connect: no more attempts in a row than allowed, an end exactly
with the result -3 that is one too many, no end by a failed connect, and a
counter that an `int` holds. -/
theorem reconnection_is_bounded {cfg : Cfg} {opened : Int} {trace : List Event} {s : State}
    (autoconn : cfg.mqttautoconn = 1) (nonneg : 0 ≤ cfg.mqttautoconnmaxtime)
    (small : cfg.mqttautoconnmaxtime < 2 ^ 31 - 1)
    (run : Run step Anything (connected cfg opened) trace s) :
      (attemptsInRow trace : Int) ≤ cfg.mqttautoconnmaxtime ∧
        ((∃ rc, s.pc = .returned rc) ↔
          (lostInRow trace : Int) = cfg.mqttautoconnmaxtime + 1) ∧
        s.pc ≠ .returned (-1) ∧ 0 ≤ s.mqttautoconntime ∧ s.mqttautoconntime < 2 ^ 31 := by
  have counts := run_invariant (Counts cfg) (connected_counts cfg opened nonneg)
    (fun _ _ _ _ _ before _ taken => counts_step autoconn nonneg before taken) run
  have counter := counts.counter
  cases pc : s.pc with
  | start =>
      obtain ⟨_, attempts, bound⟩ := counts.start pc
      refine ⟨by omega, ⟨by simp, by omega⟩, by simp, by omega, by omega⟩
  | receiving =>
      obtain ⟨attempts, bound⟩ := counts.receiving pc
      refine ⟨by omega, ⟨by simp, by omega⟩, by simp, by omega, by omega⟩
  | returned rc =>
      obtain ⟨lost, attempts, spent⟩ := counts.returned rc pc
      refine ⟨by omega, ⟨fun _ => spent, fun _ => ⟨rc, rfl⟩⟩, ?_, by omega, by omega⟩
      simp [lost]
  | endless =>
      obtain ⟨attempts, none⟩ := counts.endless pc
      refine ⟨by omega, ⟨by simp, by omega⟩, by simp, by omega, by omega⟩

def oneRetry : Cfg := ⟨0, 32, 1, 1, ascii "hex", ascii "tcps"⟩

def lostTwice : List Answers :=
  [.receive ⟨-3, none, 0, [], []⟩, .start ⟨-1, 4⟩, .receive ⟨-3, none, 0, [], []⟩]

theorem reconnection_is_bounded_lost_twice :
    ∃ s trace, Run step Anything (connected oneRetry 3) trace s ∧ s.pc = .returned (-3) ∧
      (lostInRow trace : Int) = 2 ∧ (attemptsInRow trace : Int) ≤ 1 := by
  obtain ⟨s, trace, run, returned⟩ := run_of_replay_view step Anything
    (fun reached => reached.1.pc) lostTwice (connected oneRetry 3) (.returned (-3))
    (by decide +kernel)
  have autoconn : oneRetry.mqttautoconn = 1 := rfl
  have bounded := reconnection_is_bounded autoconn (by decide) (by decide) run
  exact ⟨s, trace, run, returned, bounded.2.1.mp ⟨-3, returned⟩, bounded.1⟩

end GlRs485.MqttRetries
