import GlRs485.Foundation.WordTally
import GlRs485.StepOutcomes
import GlRs485.TimeoutPrecision

/-!
# The elapsed time of a run

Every `select` that returns adds its time to a sum in an `unsigned long`, from
which whole seconds are charged. On a target with 64 bits the sum never reaches
the word size; with 32 bits it holds little more than 71 minutes, while a timeout
may be set to a day.
-/

namespace GlRs485.ElapsedTime

open ConnectionQueue BridgeSettings SocketBridge ServingVisits HeadPasses LoopActions StepOutcomes
open ConnectionTimers TimeoutPrecision WordTally TracedSystem

set_option autoImplicit false

/-- What a pass computes from its two time stamps: the time between them, `tval`
and `tout_sec`. -/
structure Timing where
  gap : Int
  tval : Nat
  toutSec : Nat
  deriving DecidableEq

def timingOf (longBits : Nat) (s : State) (io : HeadAnswers) : Timing :=
  ⟨micros io.tts - micros io.ts, elapsed longBits io.ts io.tts, passSec longBits s io⟩

def observeTimes (longBits : Nat) (s : State) (answers : Answers) (_ : List Event) :
    List Timing :=
  match answers with
  | .head io => if isReady io.select then [timingOf longBits s io] else []
  | .visit _ => []

def timedStep (longBits : Nat) : StepFunction State Answers Timing :=
  observing (step longBits) (observeTimes longBits)

def minTimeout (s : State) : Int :=
  s.queue.live.foldl
    (fun least conn => if least < (s.conn conn).timeout then least else (s.conn conn).timeout)
    s.cfg.conntimeout

/-- The clock does not run backwards, and `select` blocks no longer than it may. -/
def WaitsBriefly (s : State) (answers : Answers) : Prop :=
  Admissible s answers ∧
    match answers with
    | .head io => micros io.ts ≤ micros io.tts ∧
        micros io.tts - micros io.ts ≤ 1000000 * (minTimeout s + 1)
    | .visit _ => True

instance (s : State) : (answers : Answers) → Decidable (WaitsBriefly s answers)
  | .head _ => @instDecidableAnd _ _ _ (@instDecidableAnd _ _ (Int.decLe _ _) (Int.decLe _ _))
  | .visit io => inferInstanceAs (Decidable (Admissible s (.visit io) ∧ True))

/-- `tval` is the time that passed, and the seconds charged together with the
carry are all of it. When a purge ends the loop `tout` still holds the seconds
that were charged last. -/
structure TimesExact (seen : List Timing) (s : State) : Prop where
  elapsed : ∀ timing ∈ seen, (timing.tval : Int) = timing.gap
  charged : (seen.map Timing.gap).sum =
    1000000 * (seen.map Timing.toutSec).sum + (s.tout % 1000000 : Nat)
  carried : s.pc ≠ .returned → s.tout < 1000000

/-- No gap takes the sum of the run, less its whole seconds, to the word size. -/
def FitsWord (longBits : Nat) (seen : List Timing) : Prop :=
  NeverWraps (2 ^ longBits) 1000000 (seen.map Timing.gap)

theorem least_le (conns : List Ptr) (timeout : Ptr → Int) (bound : Int) :
    conns.foldl (fun least conn => if least < timeout conn then least else timeout conn) bound ≤
      bound := by
  induction conns generalizing bound with
  | nil => exact Int.le_refl _
  | cons conn rest ih =>
      rw [List.foldl_cons]
      have first := ih (if bound < timeout conn then bound else timeout conn)
      split at first <;> split <;> omega

theorem expire_walk_tout (io : HeadAnswers) (toutSec len : Nat) (curconn : Option Ptr) (s : State) :
    (expireWalk io toutSec len curconn s).1.tout = s.tout := by
  induction len generalizing curconn s with
  | zero => rfl
  | succ len ih =>
      cases curconn with
      | none => rfl
      | some conn =>
          unfold expireWalk
          dsimp only
          split
          · split
            · unfold ttyReinit
              dsimp only
              split <;> rfl
            · rfl
          · exact ih _ _

theorem expire_staled_tout (longBits : Nat) (s : State) (io : HeadAnswers)
    (timed : s.cfg.conntimeout ≠ 0) :
      (expireStaled longBits s io).1.tout % 1000000 = summed longBits s io % 1000000 ∧
        ((expireStaled longBits s io).2.2 = false →
          (expireStaled longBits s io).1.tout < 1000000) := by
  have walked := expire_walk_tout io (summed longBits s io / 1000000) s.queue.len s.queue.beg
    { s with tout := summed longBits s io }
  unfold expireStaled
  rw [if_neg timed]
  unfold summed at walked ⊢
  dsimp only
  split
  · next early => exact ⟨rfl, fun _ => by dsimp only; omega⟩
  · split
    · next purged =>
        rw [walked]
        exact ⟨rfl, fun spared => absurd purged (by simp [spared])⟩
    · exact ⟨Nat.mod_mod _ _, fun _ => Nat.mod_lt _ (by decide)⟩

theorem accept_pending_tout (s : State) (io : OpenAnswers) :
    (acceptPending s io).1.tout = s.tout := by
  have opening := accept_pending_opening s io
  generalize acceptPending s io = opened at opening ⊢
  obtain ⟨after, events⟩ := opened
  cases opening <;> rfl

theorem pass_tout (longBits : Nat) (s : State) (io : HeadAnswers) (rc : Nat) (stable : Stable s)
    (timed : s.cfg.conntimeout ≠ 0) :
      (passAfterSelect longBits s io rc).1.tout % 1000000 = summed longBits s io % 1000000 ∧
        ((passAfterSelect longBits s io rc).1.pc ≠ .returned →
          (passAfterSelect longBits s io rc).1.tout < 1000000) := by
  obtain ⟨rest, carried⟩ := expire_staled_tout longBits s io timed
  have expiry := expire_staled_expiry longBits s io stable.formed fun conn listed =>
    never_tty stable conn listed
  unfold passAfterSelect
  generalize expireStaled longBits s io = expired at rest carried expiry ⊢
  cases expiry with
  | spared _ =>
      dsimp only
      rw [if_neg (by decide), start_serving_eq]
      dsimp only
      rw [accept_pending_tout]
      exact ⟨rest, fun _ => carried rfl⟩
  | purged _ _ => exact ⟨rest, fun running => absurd rfl running⟩

theorem head_tout {longBits : Nat} {s s' : State} {io : HeadAnswers} {events : List Event}
    (stable : Stable s) (pc : s.pc = .head) (timed : s.cfg.conntimeout ≠ 0)
    (taken : step longBits s (.head io) = some (s', events)) :
      if isReady io.select then
        s'.tout % 1000000 = summed longBits s io % 1000000 ∧
          (s'.pc ≠ .returned → s'.tout < 1000000)
      else s'.tout = s.tout := by
  have steps : step longBits s (.head io) = some (headStep longBits s io) := by
    simp only [step, pc]
  rw [steps, Option.some.injEq] at taken
  cases selected : io.select with
  | ready readable writable =>
      obtain ⟨nfds, askedRd, askedWr, tvSec, rd, wr, rc, passes⟩ :=
        head_step_ready longBits s io readable writable stable.formed selected
      rw [passes] at taken
      obtain ⟨rfl, rfl⟩ := Prod.mk.inj taken
      exact pass_tout longBits { s with sdsetrd := rd, sdsetwr := wr } io rc
        ⟨stable.formed, stable.phases⟩ timed
  | _ =>
      rw [headStep, queue_walk_live s.queue stable.formed, selected] at taken
      obtain ⟨rfl, rfl⟩ := Prod.mk.inj taken
      rfl

theorem visit_tout {s s' : State} {more : Nat} {conn : Ptr} {io : VisitAnswers}
    {events : List Event} (outcome : VisitOutcome s more conn io s' events) :
      s'.tout = s.tout := by
  have served := serve_conn_served s conn io
  rw [outcome.after]
  generalize serveConn s conn io = left at served ⊢
  obtain ⟨middle, shown, flow⟩ := left
  cases served with
  | kept frame _ _ => exact frame.tout
  | closed frame _ => exact frame.tout

structure Tallied (longBits : Nat) (conntimeout : Int) (seen : List Timing) (s : State) :
    Prop where
  sound : Sound s
  setting : s.cfg.conntimeout = conntimeout
  gaps : ∀ timing ∈ seen, 0 ≤ timing.gap ∧ timing.gap ≤ 1000000 * (conntimeout + 1) ∧
    (timing.tval : Int) = timing.gap % (2 ^ longBits : Nat)
  seconds : (seen.map Timing.toutSec).sum =
    (tally (2 ^ longBits) 1000000 (seen.map Timing.gap)).units
  carry : s.tout % 1000000 = (tally (2 ^ longBits) 1000000 (seen.map Timing.gap)).carry
  carried : s.pc ≠ .returned → s.tout < 1000000

theorem elapsed_gap (longBits : Nat) (ts tts : TimeVal) :
    elapsed longBits ts tts = ((micros tts - micros ts) % (2 ^ longBits : Nat)).toNat := by
  have same : 1000000 * (tts.sec - ts.sec) + (tts.usec - ts.usec) = micros tts - micros ts := by
    unfold micros
    omega
  rw [elapsed, same, Nat.cast_pow, Nat.cast_ofNat]

theorem summed_word (longBits : Nat) (s : State) (io : HeadAnswers) (carried : s.tout < 1000000) :
    summed longBits s io =
      wordSum (2 ^ longBits) (s.tout % 1000000) (micros io.tts - micros io.ts) := by
  rw [summed, wordSum, elapsed_gap, Nat.mod_eq_of_lt carried]

theorem ready_pass_tallied {longBits : Nat} {conntimeout : Int} {s s' : State} {io : HeadAnswers}
    {seen : List Timing} (before : Tallied longBits conntimeout seen s) (pc : s.pc = .head)
    (waits : micros io.ts ≤ micros io.tts ∧
      micros io.tts - micros io.ts ≤ 1000000 * (minTimeout s + 1))
    (sound : Sound s') (setting : s'.cfg.conntimeout = conntimeout)
    (rest : s'.tout % 1000000 = summed longBits s io % 1000000)
    (carried : s'.pc ≠ .returned → s'.tout < 1000000) :
      Tallied longBits conntimeout (seen ++ [timingOf longBits s io]) s' := by
  have within := before.carried (by simp [pc])
  have least := least_le s.queue.live (fun conn => (s.conn conn).timeout) s.cfg.conntimeout
  have word := summed_word longBits s io within
  have seconds : passSec longBits s io = summed longBits s io / 1000000 := rfl
  refine ⟨sound, setting, ?_, ?_, ?_, carried⟩
  · intro timing member
    rcases List.mem_append.mp member with earlier | now
    · exact before.gaps timing earlier
    · rw [List.mem_singleton.mp now]
      have bound : minTimeout s ≤ conntimeout := before.setting ▸ least
      obtain ⟨forward, brief⟩ := waits
      refine ⟨by simp only [timingOf]; omega, by simp only [timingOf]; omega, ?_⟩
      simp only [timingOf]
      rw [elapsed_gap]
      exact Int.toNat_of_nonneg (Int.emod_nonneg _ (by exact_mod_cast (Nat.two_pow_pos _).ne'))
  · rw [List.map_append, List.map_append, List.sum_append, List.map_singleton, List.map_singleton,
      List.sum_singleton, tally_snoc, before.seconds]
    simp only [timingOf, Tally.add]
    rw [seconds, word, before.carry]
  · rw [List.map_append, List.map_singleton, tally_snoc, rest, word, before.carry]
    rfl

theorem step_tallied {longBits : Nat} {conntimeout : Int} {s s' : State} {answers : Answers}
    {seen later : List Timing} (positive : 1 ≤ conntimeout)
    (before : Tallied longBits conntimeout seen s) (waits : WaitsBriefly s answers)
    (taken : timedStep longBits s answers = some (s', later)) :
      Tallied longBits conntimeout (seen ++ later) s' := by
  obtain ⟨events, stepped, rfl⟩ := observing_taken taken
  have outcome := step_outcome before.sound stepped
  have sound := (step_going before.sound waits.1 stepped).1
  have setting : s'.cfg.conntimeout = conntimeout := by
    rw [(step_fixed outcome).cfg]
    exact before.setting
  have unseen : s'.tout = s.tout → (s'.pc ≠ .returned → s.pc ≠ .returned) →
      Tallied longBits conntimeout (seen ++ []) s' := by
    intro tout running
    rw [List.append_nil]
    exact ⟨sound, setting, before.gaps, before.seconds, tout ▸ before.carry,
      fun still => tout ▸ before.carried (running still)⟩
  cases outcome with
  | visit outcome =>
      have inLoop : s.pc ≠ .returned := by simp [outcome.pc]
      exact unseen (visit_tout outcome) fun _ => inLoop
  | @head io pc outcome =>
      have inLoop : s.pc ≠ .returned := by simp [pc]
      have timed : s.cfg.conntimeout ≠ 0 := by
        rw [before.setting]
        omega
      have tout := head_tout before.sound.toStable pc timed stepped
      unfold observeTimes
      dsimp only
      split at tout
      · next ready =>
          rw [if_pos ready]
          exact ready_pass_tallied before pc waits.2 sound setting tout.1 tout.2
      · next unready =>
          rw [if_neg unready]
          exact unseen tout fun _ => inLoop

theorem brief_fits (gaps : List Int) (valid : ∀ gap ∈ gaps, gap ≤ 1000000 * (86400 + 1)) :
    NeverWraps (2 ^ 64) 1000000 gaps := by
  induction gaps using List.reverseRecOn with
  | nil => exact judged_nil _
  | append_singleton gaps gap ih =>
      apply judged_snoc (ih fun other member => valid other (by simp [member]))
      have brief := valid gap (by simp)
      omega

theorem tallied_exact {longBits : Nat} {conntimeout : Int} {s : State} {seen : List Timing}
    (tallied : Tallied longBits conntimeout seen s) :
      TimesExact seen s ↔ Exact (2 ^ longBits) 1000000 (seen.map Timing.gap) := by
  constructor
  · intro times
    constructor
    · intro gap member
      obtain ⟨timing, seenIt, rfl⟩ := List.mem_map.mp member
      rw [← (tallied.gaps timing seenIt).2.2]
      exact times.elapsed timing seenIt
    · rw [times.charged, tallied.seconds, tallied.carry]
      rfl
  · intro exact_
    refine ⟨?_, ?_, tallied.carried⟩
    · intro timing member
      rw [(tallied.gaps timing member).2.2]
      exact exact_.whole timing.gap (List.mem_map_of_mem member)
    · rw [exact_.total, tallied.seconds, tallied.carry]
      rfl

/-- The times of a run are exact if and only if its sums stay inside the word,
which they always do where it has 64 bits. -/
theorem elapsed_time_exact_iff {longBits : Nat} {conntimeout : Int} {initial s : State}
    {seen : List Timing} (started : Started initial)
    (setting : initial.cfg.conntimeout = conntimeout) (positive : 1 ≤ conntimeout)
    (bounded : conntimeout ≤ 86400)
    (run : Run (timedStep longBits) WaitsBriefly initial seen s) :
      (TimesExact seen s ↔ FitsWord longBits seen) ∧ (longBits = 64 → FitsWord longBits seen) := by
  have fresh : Tallied longBits conntimeout [] initial := by
    have nothing := started_tout started
    refine ⟨started_sound started, setting, by simp, rfl, by simp [nothing, tally], ?_⟩
    intro _
    omega
  have tallied : Tallied longBits conntimeout seen s :=
    run_invariant (Tallied longBits conntimeout) fresh
      (fun _ _ _ _ _ before waits taken => step_tallied positive before waits taken) run
  have forward : ∀ gap ∈ seen.map Timing.gap, 0 ≤ gap := by
    intro gap member
    obtain ⟨timing, seenIt, rfl⟩ := List.mem_map.mp member
    exact (tallied.gaps timing seenIt).1
  constructor
  · rw [tallied_exact tallied]
    exact tally_exact_iff _ (by decide) (Nat.two_pow_pos _) forward
  · rintro rfl
    apply brief_fits
    intro gap member
    obtain ⟨timing, seenIt, rfl⟩ := List.mem_map.mp member
    have brief := (tallied.gaps timing seenIt).2.1
    omega

/-- A client comes after an hour, then nothing for a minute. -/
def anHourAndAMinute : List Answers :=
  [passAfter 3600 [4] [] 5 1, visitWith [] 0 [] 0, passAfter 60 [] [] 6 2]

theorem elapsed_time_exact_iff_an_hour_and_a_minute :
    ∃ seen s, Run (timedStep 32) WaitsBriefly (freshDaemon (hexOverTcp 86400)) seen s ∧
      seen.map Timing.gap = [3600000000, 60000000] ∧ TimesExact seen s := by
  obtain ⟨s, seen, run, shown⟩ := run_of_replay_view (timedStep 32) WaitsBriefly
    (fun reached => reached.2.map Timing.gap) anHourAndAMinute (freshDaemon (hexOverTcp 86400))
    [3600000000, 60000000] (by decide +kernel)
  have fits : FitsWord 32 seen := by
    unfold FitsWord
    rw [shown]
    exact judged_of_positions (by decide)
  exact ⟨seen, s, run, shown, (elapsed_time_exact_iff (fresh_daemon_started _) rfl (by decide)
    (by decide) run).1.mpr fits⟩

/-- With 32 bits a client that comes 4295 seconds after the start is charged none
of them. -/
theorem elapsed_time_wraps :
    ∃ seen s, Started (freshDaemon (hexOverTcp 86400)) ∧
      Run (timedStep 32) WaitsBriefly (freshDaemon (hexOverTcp 86400)) seen s ∧
        seen = [⟨4295000000, 32704, 0⟩] ∧ ¬TimesExact seen s := by
  obtain ⟨s, seen, run, shown⟩ := run_of_replay_view (timedStep 32) WaitsBriefly Prod.snd
    [.head (headAfter 4295 [4] [] 5 1)] (freshDaemon (hexOverTcp 86400)) [⟨4295000000, 32704, 0⟩]
    (by decide +kernel)
  dsimp only at shown
  refine ⟨seen, s, fresh_daemon_started _, run, shown, fun times => ?_⟩
  exact absurd (times.elapsed ⟨4295000000, 32704, 0⟩ (by rw [shown]; simp)) (by decide)

end GlRs485.ElapsedTime
