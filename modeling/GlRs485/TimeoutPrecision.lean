import GlRs485.ConnectionTimers

/-!
# How early a connection can be timed out

The fraction of a second that is carried from pass to pass belongs to nobody: a
timer set while it is almost a second long is charged that second at once. So a
connection lives for more than its timeout less one second, and not always for
longer.
-/

namespace GlRs485.TimeoutPrecision

open ConnectionQueue BridgeSettings SocketBridge HeadPasses LoopActions ConnectionTimers
open TracedSystem

set_option autoImplicit false

def micros (time : TimeVal) : Int := 1000000 * time.sec + time.usec

/-- The daemon with the clock and the moment each timer was last set. -/
structure Clocked where
  state : State
  now : Int
  lastSet : Ptr → Int

structure ClockedAnswers where
  answers : Answers
  clock : Int

def clockedStep (longBits : Nat) : StepFunction Clocked ClockedAnswers Event := fun clocked input =>
  (step longBits clocked.state input.answers).map fun taken =>
    (⟨taken.1, input.clock, fun conn =>
      if taken.2.any (setsTimer conn) then input.clock else clocked.lastSet conn⟩, taken.2)

def ClockRuns (clocked : Clocked) (input : ClockedAnswers) : Prop :=
  Admissible clocked.state input.answers ∧
    match input.answers with
    | .head io => clocked.now ≤ micros io.ts ∧ micros io.ts ≤ micros io.tts ∧
        micros io.tts ≤ input.clock
    | .visit _ => clocked.now ≤ input.clock

instance (clocked : Clocked) (input : ClockedAnswers) : Decidable (ClockRuns clocked input) := by
  unfold ClockRuns
  cases input.answers <;> infer_instance

/-- What has been charged to a timer, and the carry with it, is at most what has
passed since it was set and one second less a microsecond. -/
structure Precise (conntimeout : Int) (clocked : Clocked) : Prop where
  sound : Sound clocked.state
  cfg : clocked.state.cfg.conntimeout = conntimeout
  carry : clocked.state.pc ≠ .returned → clocked.state.tout < 1000000
  range : clocked.state.pc ≠ .returned → ∀ conn ∈ clocked.state.queue.live,
    (clocked.state.conn conn).timeout < 2 ^ 31
  charged : clocked.state.pc ≠ .returned → ∀ conn ∈ clocked.state.queue.live,
    1000000 * (conntimeout - (clocked.state.conn conn).timeout) + clocked.state.tout ≤
      999999 + (clocked.now - clocked.lastSet conn)

theorem elapsed_le (longBits : Nat) (ts tts : TimeVal) (forward : micros ts ≤ micros tts) :
    (elapsed longBits ts tts : Int) ≤ micros tts - micros ts := by
  have positive : (0 : Int) < 2 ^ longBits := Int.pow_pos (by decide)
  have difference : 1000000 * (tts.sec - ts.sec) + (tts.usec - ts.usec) =
      micros tts - micros ts := by
    unfold micros
    omega
  have whole := Int.mul_ediv_add_emod (micros tts - micros ts) (2 ^ longBits)
  have quotient : 0 ≤ (micros tts - micros ts) / 2 ^ longBits :=
    Int.ediv_nonneg (by omega) (Int.le_of_lt positive)
  have product := Int.mul_nonneg (Int.le_of_lt positive) quotient
  rw [elapsed, difference, Int.toNat_of_nonneg (Int.emod_nonneg _ (by omega))]
  omega

/-- A charge takes no more than it says off a timer, even where the `int` wraps. -/
theorem charge_timeout_bounds (timeout : Int) (toutSec : Nat) (bounded : timeout < 2 ^ 31) :
    timeout - toutSec ≤ chargeTimeout timeout toutSec ∧ chargeTimeout timeout toutSec < 2 ^ 31 := by
  have low : -((2 ^ 32 : Nat) / 2 : Int) ≤ (timeout - toutSec).bmod (2 ^ 32) :=
    Int.le_bmod (by decide)
  have high : (timeout - toutSec).bmod (2 ^ 32) < (((2 ^ 32 : Nat) : Int) + 1) / 2 :=
    Int.bmod_lt (by decide)
  have multiple : ((2 ^ 32 : Nat) : Int) ∣ (timeout - toutSec).bmod (2 ^ 32) - (timeout - toutSec) :=
    Int.dvd_bmod_sub_self
  obtain ⟨wraps, difference⟩ := multiple
  unfold chargeTimeout
  omega

theorem pass_time (longBits : Nat) (s : State) (io : HeadAnswers)
    (forward : micros io.ts ≤ micros io.tts) :
      1000000 * (passSec longBits s io : Int) + (summed longBits s io % 1000000 : Nat) ≤
        s.tout + (micros io.tts - micros io.ts) := by
  have elapsed := elapsed_le longBits io.ts io.tts forward
  have wrapped : summed longBits s io ≤ s.tout + SocketBridge.elapsed longBits io.ts io.tts :=
    Nat.mod_le _ _
  have seconds : passSec longBits s io = summed longBits s io / 1000000 := rfl
  omega

theorem visit_keeps_precision {longBits : Nat} {conntimeout : Int} {clocked : Clocked} {s' : State}
    {io : VisitAnswers} {clock : Int} {events : List Event} (bounded : conntimeout < 2 ^ 31)
    (before : Precise conntimeout clocked)
    (later : clocked.now ≤ clock)
    (taken : step longBits clocked.state (.visit io) = some (s', events)) (after : Sound s') :
      Precise conntimeout ⟨s', clock, fun conn =>
        if events.any (setsTimer conn) then clock else clocked.lastSet conn⟩ := by
  have placed := before.sound.placed
  unfold Placed at placed
  cases pc : clocked.state.pc with
  | serving more curconn =>
      rw [pc] at placed
      obtain ⟨_, conn, listed, rfl⟩ := placed
      have running : clocked.state.pc ≠ .returned := by simp [pc]
      have timers := visit_timers before.sound.formed listed pc taken
      have carry := before.carry running
      refine ⟨after, timers.cfg ▸ before.cfg, fun _ => timers.tout ▸ carry, ?_, ?_⟩
      · intro _ other remaining
        obtain ⟨old, timeout⟩ := timers.timers other remaining
        rw [timeout]
        split
        · rw [before.cfg]
          exact bounded
        · exact before.range running other old
      · intro _ other remaining
        obtain ⟨old, timeout⟩ := timers.timers other remaining
        have charged := before.charged running other old
        dsimp only
        rw [timeout, timers.tout]
        split
        · rw [before.cfg]
          omega
        · omega
  | _ => simp [step, pc] at taken

theorem joins_keep_precision {conntimeout : Int} {clocked : Clocked} {s' : State} {clock : Int}
    {events : List Event} {timeout : Ptr → Int} (bounded : conntimeout < 2 ^ 31)
    (cfg : clocked.state.cfg.conntimeout = conntimeout) (sound : Sound s')
    (sameCfg : s'.cfg = clocked.state.cfg) (carry : s'.tout < 1000000)
    (joins : Joins clocked.state s' timeout events)
    (range : ∀ conn ∈ clocked.state.queue.live, timeout conn < 2 ^ 31)
    (charged : ∀ conn ∈ clocked.state.queue.live,
      1000000 * (conntimeout - timeout conn) + s'.tout ≤
        999999 + (clock - clocked.lastSet conn)) :
      Precise conntimeout ⟨s', clock, fun conn =>
        if events.any (setsTimer conn) then clock else clocked.lastSet conn⟩ := by
  refine ⟨sound, sameCfg ▸ cfg, fun _ => carry, ?_, ?_⟩
  · intro _ conn listed
    rcases joins conn listed with ⟨old, _, kept⟩ | ⟨_, reset⟩
    · exact kept ▸ range conn old
    · rw [reset, cfg]
      exact bounded
  · intro _ conn listed
    dsimp only
    rcases joins conn listed with ⟨old, silent, kept⟩ | ⟨sets, reset⟩
    · rw [kept, silent]
      exact charged conn old
    · rw [reset, sets, cfg]
      simp only [if_true]
      omega

theorem head_keeps_precision {longBits : Nat} {conntimeout : Int} {clocked : Clocked} {s' : State}
    {io : HeadAnswers} {clock : Int} {events : List Event} (positive : 0 < conntimeout)
    (bounded : conntimeout < 2 ^ 31) (before : Precise conntimeout clocked)
    (head : clocked.state.pc = .head) (allowed : ClockRuns clocked ⟨.head io, clock⟩)
    (taken : step longBits clocked.state (.head io) = some (s', events)) (after : Sound s') :
      Precise conntimeout ⟨s', clock, fun conn =>
        if events.any (setsTimer conn) then clock else clocked.lastSet conn⟩ := by
  obtain ⟨admissible, begun, forward, ended⟩ := allowed
  change micros io.tts ≤ clock at ended
  have running : clocked.state.pc ≠ .returned := by simp [head]
  have timed : clocked.state.cfg.conntimeout ≠ 0 := by
    rw [before.cfg]
    omega
  have carry := before.carry running
  have range := before.range running
  have charged := before.charged running
  have time := pass_time longBits clocked.state io forward
  have seconds :
      passSec longBits clocked.state io = summed longBits clocked.state io / 1000000 := rfl
  cases head_timers timed before.sound.toStable head admissible taken with
  | waited cfg _ tout joins =>
      apply joins_keep_precision bounded before.cfg after cfg (tout ▸ carry) joins range
      intro conn listed
      have own := charged conn listed
      omega
  | early _ cfg _ nothing tout joins =>
      apply joins_keep_precision bounded before.cfg after cfg (by omega) joins range
      intro conn listed
      have own := charged conn listed
      omega
  | everybody _ cfg _ tout remaining joins =>
      apply joins_keep_precision bounded before.cfg after cfg (by omega) joins
      · intro conn listed
        exact (charge_timeout_bounds _ _ (range conn listed)).2
      · intro conn listed
        have own := charged conn listed
        have taken := (charge_timeout_bounds (clocked.state.conn conn).timeout
          (passSec longBits clocked.state io) (range conn listed)).1
        omega
  | purging cfg left _ _ _ =>
      refine ⟨after, cfg ▸ before.cfg, ?_, ?_, ?_⟩ <;> intro running <;> exact absurd left running

def startClock (s : State) (now : Int) : Clocked := ⟨s, now, fun _ => now⟩

/-- The run lemma. -/
theorem run_precise {longBits : Nat} {conntimeout now : Int} {initial : State} {clocked : Clocked}
    {trace : List Event} (started : Started initial)
    (setting : initial.cfg.conntimeout = conntimeout)
    (positive : 0 < conntimeout) (bounded : conntimeout < 2 ^ 31)
    (run : Run (clockedStep longBits) ClockRuns (startClock initial now) trace clocked) :
      Precise conntimeout clocked := by
  have nobody := (started_empty started).1
  have fresh := started_tout started
  have empty : Precise conntimeout (startClock initial now) := by
    refine ⟨started_sound started, setting, fun _ => ?_, ?_, ?_⟩
    · simp [startClock, fresh]
    · simp [startClock, nobody]
    · simp [startClock, nobody]
  apply run_invariant (fun _ clocked => Precise conntimeout clocked) empty _ run
  intro trace clocked input clocked' events before allowed taken
  obtain ⟨⟨s', emitted⟩, stepped, same⟩ := Option.map_eq_some_iff.mp taken
  obtain ⟨rfl, rfl⟩ := Prod.mk.inj same
  have after := (step_going before.sound allowed.1 stepped).1
  obtain ⟨answers, clock⟩ := input
  cases answers with
  | head io =>
      have head : clocked.state.pc = .head := by
        cases pc : clocked.state.pc <;> simp [step, pc] at stepped ⊢
      exact head_keeps_precision positive bounded before head allowed stepped after
  | visit io => exact visit_keeps_precision bounded before allowed.2 stepped after

/-- A connection is purged more than its timeout less one second after its timer
was last set. -/
theorem purged_after_conntimeout_less_a_second {longBits : Nat} {conntimeout now clock : Int}
    {initial s' : State} {clocked : Clocked} {trace events : List Event} {io : HeadAnswers}
    {conn : Ptr} {sd : Int} (started : Started initial)
    (setting : initial.cfg.conntimeout = conntimeout) (positive : 0 < conntimeout)
    (bounded : conntimeout < 2 ^ 31)
    (run : Run (clockedStep longBits) ClockRuns (startClock initial now) trace clocked)
    (allowed : ClockRuns clocked ⟨.head io, clock⟩)
    (taken : step longBits clocked.state (.head io) = some (s', events))
    (purged : .closed conn sd ∈ events) :
      1000000 * (conntimeout - 1) + 1 ≤ micros io.tts - clocked.lastSet conn := by
  have before := run_precise started setting positive bounded run
  have head : clocked.state.pc = .head := by
    cases pc : clocked.state.pc <;> simp [step, pc] at taken ⊢
  have running : clocked.state.pc ≠ .returned := by simp [head]
  have timed : clocked.state.cfg.conntimeout ≠ 0 := by
    rw [before.cfg]
    omega
  obtain ⟨admissible, begun, forward, _⟩ := allowed
  cases head_timers timed before.sound.toStable head admissible taken with
  | waited _ unclosed _ _ => exact absurd purged (unclosed conn sd)
  | early _ _ unclosed _ _ _ => exact absurd purged (unclosed conn sd)
  | everybody _ _ unclosed _ _ _ => exact absurd purged (unclosed conn sd)
  | purging _ _ listed expired only =>
      have own := only conn sd purged
      subst own
      have charged := before.charged running conn listed
      have taken := (charge_timeout_bounds (clocked.state.conn conn).timeout
        (passSec longBits clocked.state io) (before.range running conn listed)).1
      have time := pass_time longBits clocked.state io forward
      omega

def selectUntil (ts tts : Int) (rd : List Int) (sd : Int) (block : Ptr) : HeadAnswers :=
  { headAfter 0 rd [] sd block with ts := ⟨0, ts⟩, tts := ⟨0, tts⟩ }

def clientAtTheCarry : List ClockedAnswers :=
  [⟨.head (selectUntil 0 999999 [4] 5 1), 999999⟩, ⟨visitWith [] 0 [] 0, 999999⟩]

/-- The client is readable a microsecond later. -/
def oneMoreMicrosecond : HeadAnswers := selectUntil 999999 1000000 [5] 6 2

theorem client_at_the_carry_purged :
    ∃ clocked trace s' events,
      Run (clockedStep 64) ClockRuns (startClock (freshDaemon (hexOverTcp 1)) 0) trace clocked ∧
        ClockRuns clocked ⟨.head oneMoreMicrosecond, 1000000⟩ ∧
        step 64 clocked.state (.head oneMoreMicrosecond) = some (s', events) ∧
        .closed 1 5 ∈ events ∧ clocked.lastSet 1 = 999999 := by
  obtain ⟨clocked, trace, run, shown⟩ := run_of_replay_view (clockedStep 64) ClockRuns
    (fun reached => (decide (ClockRuns reached.1 ⟨.head oneMoreMicrosecond, 1000000⟩),
      (step 64 reached.1.state (.head oneMoreMicrosecond)).map
        fun taken : State × List Event => decide (Event.closed 1 5 ∈ taken.2),
      reached.1.lastSet 1))
    clientAtTheCarry (startClock (freshDaemon (hexOverTcp 1)) 0) (true, some true, 999999)
    (by decide +kernel)
  simp only [Prod.mk.injEq, decide_eq_true_eq, Option.map_eq_some_iff] at shown
  obtain ⟨allowed, ⟨⟨s', events⟩, taken, purged⟩, lastSet⟩ := shown
  exact ⟨clocked, trace, s', events, run, allowed, taken, purged, lastSet⟩

theorem purged_after_conntimeout_less_a_second_at_the_carry :
    ∃ clocked trace s' events,
      Run (clockedStep 64) ClockRuns (startClock (freshDaemon (hexOverTcp 1)) 0) trace clocked ∧
        step 64 clocked.state (.head oneMoreMicrosecond) = some (s', events) ∧
        .closed 1 5 ∈ events ∧
          1000000 * (1 - 1) + 1 ≤ micros oneMoreMicrosecond.tts - clocked.lastSet 1 := by
  obtain ⟨clocked, trace, s', events, run, allowed, taken, purged, _⟩ := client_at_the_carry_purged
  exact ⟨clocked, trace, s', events, run, taken, purged,
    purged_after_conntimeout_less_a_second (fresh_daemon_started (hexOverTcp 1)) rfl
      (by decide) (by decide) run allowed taken purged⟩

/-- With a timeout of one second the client is purged after one microsecond. -/
theorem purged_after_a_microsecond :
    ∃ clocked trace s' events, Started (freshDaemon (hexOverTcp 1)) ∧
      Run (clockedStep 64) ClockRuns (startClock (freshDaemon (hexOverTcp 1)) 0) trace clocked ∧
        ClockRuns clocked ⟨.head oneMoreMicrosecond, 1000000⟩ ∧
        step 64 clocked.state (.head oneMoreMicrosecond) = some (s', events) ∧
        .closed 1 5 ∈ events ∧
          ¬1 * 1000000 ≤ micros oneMoreMicrosecond.tts - clocked.lastSet 1 := by
  obtain ⟨clocked, trace, s', events, run, allowed, taken, purged, lastSet⟩ :=
    client_at_the_carry_purged
  refine ⟨clocked, trace, s', events, fresh_daemon_started _, run, allowed, taken, purged, ?_⟩
  rw [lastSet]
  decide

end GlRs485.TimeoutPrecision
