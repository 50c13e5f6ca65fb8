import GlRs485.ElapsedTime

/-!
# How late a connection can be timed out

`select` is given the least timer in whole seconds, and not a fraction of a second less for
what is carried from earlier passes. So a silent client is purged once it has waited for its
timeout, at most a second early for a carry that was there when its timer was set, and at
most a second late for one that was added afterwards. Only the time in a `select` that
returned counts.
-/

namespace GlRs485.PunctualExpiry

open ConnectionQueue BridgeSettings SocketBridge ServingVisits HeadPasses LoopActions
open ConnectionTimers TimeoutPrecision ElapsedTime TracedSystem

set_option autoImplicit false

/-- The daemon with the microseconds each connection has waited, in every `select` that
returned, since its timer was last set. -/
structure Waiting where
  state : State
  waited : Ptr → Int

def waitedIn : Answers → Int
  | .head io => if isReady io.select then micros io.tts - micros io.ts else 0
  | .visit _ => 0

def waitStep (longBits : Nat) : StepFunction Waiting Answers Event := fun w answers =>
  (step longBits w.state answers).map fun taken =>
    (⟨taken.1, fun conn =>
      if taken.2.any (setsTimer conn) then 0 else w.waited conn + waitedIn answers⟩, taken.2)

/-- The clock does not run backwards, and `select` returns at most `late` microseconds after
the time it was given. -/
def ReturnsBy (late : Nat) (w : Waiting) (answers : Answers) : Prop :=
  Admissible w.state answers ∧
    match answers with
    | .head io => micros io.ts ≤ micros io.tts ∧
        micros io.tts - micros io.ts ≤ 1000000 * minTimeout w.state + late
    | .visit _ => True

instance (late : Nat) (w : Waiting) : (answers : Answers) → Decidable (ReturnsBy late w answers)
  | .head _ => @instDecidableAnd _ _ _ (@instDecidableAnd _ _ (Int.decLe _ _) (Int.decLe _ _))
  | .visit io => inferInstanceAs (Decidable (Admissible w.state (.visit io) ∧ True))

/-- What the timer has been charged, and the carry with it, is what the connection has
waited and the carry of the moment its timer was set. -/
def Accounted (conntimeout : Int) (w : Waiting) (conn : Ptr) : Prop :=
  w.waited conn ≤ 1000000 * (conntimeout - (w.state.conn conn).timeout) + w.state.tout ∧
    1000000 * (conntimeout - (w.state.conn conn).timeout) + w.state.tout ≤
      w.waited conn + 999999

structure OnTime (conntimeout : Int) (w : Waiting) : Prop where
  sound : Sound w.state
  cfg : w.state.cfg.conntimeout = conntimeout
  carry : w.state.pc ≠ .returned → w.state.tout < 1000000
  range : w.state.pc ≠ .returned → ∀ conn ∈ w.state.queue.live,
    InRange conntimeout (w.state.conn conn).timeout
  accounted : w.state.pc ≠ .returned → ∀ conn ∈ w.state.queue.live, Accounted conntimeout w conn

/-! ## A pass whose `select` returned -/

inductive ReadyPass (seconds : Nat) (s s' : State) (events : List Event) : Prop
  | spared (cfg : s'.cfg = s.cfg) (unclosed : NoneClosed events)
      (within : ∀ conn ∈ s.queue.live, seconds < (s.conn conn).timeout)
      (joins : Joins s s' (fun conn => (s.conn conn).timeout - seconds) events) :
      ReadyPass seconds s s' events
  | purged {conn : Ptr} (cfg : s'.cfg = s.cfg) (left : s'.pc = .returned)
      (listed : conn ∈ s.queue.live) (spent : (s.conn conn).timeout ≤ seconds)
      (only : ∀ other sd, .closed other sd ∈ events → other = conn) :
      ReadyPass seconds s s' events

theorem ready_pass {longBits : Nat} {conntimeout : Int} {s : State} {io : HeadAnswers} (rc : Nat)
    (bounded : conntimeout < 2 ^ 31) (timed : s.cfg.conntimeout ≠ 0) (stable : Stable s)
    (fresh : ∀ conn ∈ io.opening.block, conn ∉ s.queue.live)
    (range : ∀ conn ∈ s.queue.live, InRange conntimeout (s.conn conn).timeout)
    (inInt : passSec longBits s io < 2 ^ 31) :
      ReadyPass (passSec longBits s io) s (passAfterSelect longBits s io rc).1
        (passAfterSelect longBits s io rc).2 := by
  have exact_ : ∀ conn ∈ s.queue.live,
      (chargeConn (passSec longBits s io) (s.conn conn)).timeout =
        (s.conn conn).timeout - passSec longBits s io := by
    intro conn listed
    have own := range conn listed
    have most := own.2
    exact charge_timeout_in_range _ _ own.1 (by omega) inInt
  have charging := expire_staled_charging longBits s io timed stable.formed
    fun conn listed => never_tty stable conn listed
  unfold passAfterSelect
  generalize expireStaled longBits s io = expired at charging ⊢
  cases charging with
  | early nothing =>
      obtain ⟨cfg, _, unclosed, joins⟩ := opened_joins s
        { s with tout := (s.tout + elapsed longBits io.ts io.tts) % 2 ^ longBits } io.opening rc
        (fun conn => (s.conn conn).timeout - passSec longBits s io) stable.formed fresh rfl rfl
        fun _ _ => by simp [nothing, State.conn]
      exact .spared cfg unclosed (fun conn listed => by rw [nothing]; exact (range conn listed).1)
        joins
  | everybody late positive =>
      let after : State := { charged s (passSec longBits s io) s.queue.live with
        tout := (s.tout + elapsed longBits io.ts io.tts) % 2 ^ longBits % 1000000 }
      have charges : ∀ conn ∈ s.queue.live,
          (after.conn conn).timeout = (s.conn conn).timeout - passSec longBits s io := by
        intro conn listed
        rw [← exact_ conn listed]
        show ((charged _ _ _).conn conn).timeout = _
        rw [charged_conn, if_pos listed]
      obtain ⟨cfg, _, unclosed, joins⟩ := opened_joins s after io.opening rc _
        (charged_well_formed _ _ _ stable.formed) fresh rfl rfl charges
      refine .spared cfg unclosed (fun conn listed => ?_) joins
      have left := positive conn listed
      rw [exact_ conn listed] at left
      omega
  | purging late listed expired =>
      rw [exact_ _ listed] at expired
      refine .purged rfl rfl listed (by omega) ?_
      intro other sd member
      simp only [if_true, List.mem_singleton, Event.closed.injEq] at member
      exact member.1

theorem ready_head {longBits : Nat} {conntimeout : Int} {s s' : State} {io : HeadAnswers}
    {events : List Event} (bounded : conntimeout < 2 ^ 31) (timed : s.cfg.conntimeout ≠ 0)
    (stable : Stable s) (head : s.pc = .head) (admissible : Admissible s (.head io))
    (range : ∀ conn ∈ s.queue.live, InRange conntimeout (s.conn conn).timeout)
    (inInt : passSec longBits s io < 2 ^ 31) (ready : isReady io.select = true)
    (taken : step longBits s (.head io) = some (s', events)) :
      ReadyPass (passSec longBits s io) s s' events := by
  have steps : step longBits s (.head io) = some (headStep longBits s io) := by
    simp only [step, head]
  rw [steps, Option.some.injEq] at taken
  cases selected : io.select with
  | interrupted => simp [selected, isReady] at ready
  | failed => simp [selected, isReady] at ready
  | ready readable writable =>
      obtain ⟨nfds, askedRd, askedWr, tvSec, rd, wr, rc, passes⟩ :=
        head_step_ready longBits s io readable writable stable.formed selected
      rw [passes] at taken
      obtain ⟨rfl, rfl⟩ := Prod.mk.inj taken
      have passed := @ready_pass longBits conntimeout { s with sdsetrd := rd, sdsetwr := wr } io rc
        bounded timed ⟨stable.formed, stable.phases⟩ admissible.2.1 range inInt
      cases passed with
      | spared cfg unclosed within joins =>
          refine .spared cfg (fun conn sd => ?_) within joins
          simpa using unclosed conn sd
      | purged cfg left listed spent only =>
          exact .purged cfg left listed spent fun other sd member =>
            only other sd (by simpa using member)

theorem unready_head {longBits : Nat} {s s' : State} {io : HeadAnswers} {events : List Event}
    (stable : Stable s) (head : s.pc = .head) (unready : isReady io.select ≠ true)
    (taken : step longBits s (.head io) = some (s', events)) :
      s'.cfg = s.cfg ∧ s'.tout = s.tout ∧ NoneClosed events ∧
        Joins s s' (fun conn => (s.conn conn).timeout) events := by
  have steps : step longBits s (.head io) = some (headStep longBits s io) := by
    simp only [step, head]
  rw [steps, Option.some.injEq] at taken
  cases selected : io.select with
  | ready readable writable => simp [selected, isReady] at unready
  | _ =>
      rw [headStep, queue_walk_live s.queue stable.formed, selected] at taken
      obtain ⟨rfl, rfl⟩ := Prod.mk.inj taken
      exact ⟨rfl, rfl, by simp [NoneClosed], fun conn listed => Or.inl ⟨listed, rfl, rfl⟩⟩

/-! ## The account along a run -/

theorem least_le_each (conns : List Ptr) (timeout : Ptr → Int) (bound : Int) {conn : Ptr}
    (listed : conn ∈ conns) :
      conns.foldl (fun least conn => if least < timeout conn then least else timeout conn) bound ≤
        timeout conn := by
  induction conns generalizing bound with
  | nil => simp at listed
  | cons first rest ih =>
      rw [List.foldl_cons]
      rcases List.mem_cons.mp listed with rfl | later
      · refine (least_le rest timeout _).trans ?_
        split <;> omega
      · exact ih _ later

theorem summed_exact {longBits : Nat} {s : State} {io : HeadAnswers} (carry : s.tout < 1000000)
    (forward : micros io.ts ≤ micros io.tts)
    (fits : s.tout + (micros io.tts - micros io.ts) < (2 ^ longBits : Nat)) :
      (summed longBits s io : Int) = s.tout + (micros io.tts - micros io.ts) := by
  have whole : (micros io.tts - micros io.ts) % (2 ^ longBits : Nat) =
      micros io.tts - micros io.ts := Int.emod_eq_of_lt (by omega) (by omega)
  have word : s.tout + elapsed longBits io.ts io.tts < 2 ^ longBits := by
    rw [elapsed_gap, whole]
    omega
  rw [summed, Nat.mod_eq_of_lt word, elapsed_gap, whole]
  omega

section Timed

variable {longBits late : Nat} {conntimeout : Int}

theorem pass_within {w : Waiting} {io : HeadAnswers}
    (inWord : 1000000 * (conntimeout + 1) + late ≤ (2 ^ longBits : Nat))
    (inInt : 1000000 * (conntimeout + 1) + late < 1000000 * 2 ^ 31)
    (before : OnTime conntimeout w) (head : w.state.pc = .head)
    (allowed : ReturnsBy late w (.head io)) :
      (summed longBits w.state io : Int) =
          w.state.tout + (micros io.tts - micros io.ts) ∧
        passSec longBits w.state io < 2 ^ 31 := by
  obtain ⟨_, forward, brief⟩ := allowed
  have carry := before.carry (by simp [head])
  have most : minTimeout w.state ≤ conntimeout := before.cfg ▸ least_le _ _ _
  have sum := @summed_exact longBits w.state io carry forward (by omega)
  have seconds : passSec longBits w.state io = summed longBits w.state io / 1000000 := rfl
  exact ⟨sum, by omega⟩

theorem joins_accounted {w : Waiting} {s' : State} {events : List Event} {timeout : Ptr → Int}
    (gap : Int) (positive : 1 ≤ conntimeout) (setting : w.state.cfg.conntimeout = conntimeout)
    (carry : s'.tout < 1000000) (joins : Joins w.state s' timeout events)
    (range : ∀ conn ∈ w.state.queue.live, InRange conntimeout (timeout conn))
    (accounted : ∀ conn ∈ w.state.queue.live,
      w.waited conn + gap ≤ 1000000 * (conntimeout - timeout conn) + s'.tout ∧
        1000000 * (conntimeout - timeout conn) + s'.tout ≤ w.waited conn + gap + 999999) :
      ∀ conn ∈ s'.queue.live, InRange conntimeout (s'.conn conn).timeout ∧
        Accounted conntimeout ⟨s', fun conn =>
          if events.any (setsTimer conn) then 0 else w.waited conn + gap⟩ conn := by
  intro conn listed
  unfold Accounted
  dsimp only
  rcases joins conn listed with ⟨old, silent, kept⟩ | ⟨sets, reset⟩
  · rw [kept, silent]
    exact ⟨range conn old, accounted conn old⟩
  · rw [reset, sets, setting]
    exact ⟨⟨positive, Int.le_refl _⟩, by simp, by simp only [if_true]; omega⟩

theorem visit_on_time {w : Waiting} {s' : State} {io : VisitAnswers} {events : List Event}
    (positive : 1 ≤ conntimeout) (before : OnTime conntimeout w)
    (taken : step longBits w.state (.visit io) = some (s', events)) (after : Sound s') :
      OnTime conntimeout ⟨s', fun conn =>
        if events.any (setsTimer conn) then 0 else w.waited conn + waitedIn (.visit io)⟩ := by
  have placed := before.sound.placed
  unfold Placed at placed
  cases pc : w.state.pc with
  | serving more curconn =>
      rw [pc] at placed
      obtain ⟨_, conn, listed, rfl⟩ := placed
      have running : w.state.pc ≠ .returned := by simp [pc]
      have timers := visit_timers before.sound.formed listed pc taken
      have carry := before.carry running
      have each : ∀ other ∈ s'.queue.live, InRange conntimeout (s'.conn other).timeout ∧
          Accounted conntimeout ⟨s', fun conn =>
            if events.any (setsTimer conn) then 0 else w.waited conn + waitedIn (.visit io)⟩
              other := by
        intro other remaining
        obtain ⟨old, timeout⟩ := timers.timers other remaining
        have own := before.accounted running other old
        unfold Accounted at own ⊢
        dsimp only [waitedIn]
        rw [timeout, timers.tout]
        split
        · rw [before.cfg]
          exact ⟨⟨positive, Int.le_refl _⟩, by omega, by omega⟩
        · exact ⟨before.range running other old, by omega, by omega⟩
      exact ⟨after, timers.cfg ▸ before.cfg, fun _ => timers.tout ▸ carry,
        fun _ other remaining => (each other remaining).1,
        fun _ other remaining => (each other remaining).2⟩
  | _ => simp [step, pc] at taken

theorem head_on_time {w : Waiting} {s' : State} {io : HeadAnswers} {events : List Event}
    (positive : 1 ≤ conntimeout)
    (inWord : 1000000 * (conntimeout + 1) + late ≤ (2 ^ longBits : Nat))
    (inInt : 1000000 * (conntimeout + 1) + late < 1000000 * 2 ^ 31)
    (before : OnTime conntimeout w) (head : w.state.pc = .head)
    (allowed : ReturnsBy late w (.head io))
    (taken : step longBits w.state (.head io) = some (s', events)) (after : Sound s') :
      OnTime conntimeout ⟨s', fun conn =>
        if events.any (setsTimer conn) then 0 else w.waited conn + waitedIn (.head io)⟩ := by
  have running : w.state.pc ≠ .returned := by simp [head]
  have timed : w.state.cfg.conntimeout ≠ 0 := by
    rw [before.cfg]
    omega
  have stable := before.sound.toStable
  have range := before.range running
  have account := before.accounted running
  have carried := head_tout stable head timed taken
  by_cases ready : isReady io.select = true
  · rw [if_pos ready] at carried
    obtain ⟨sum, small⟩ := pass_within inWord inInt before head allowed
    have seconds :
        passSec longBits w.state io = summed longBits w.state io / 1000000 := rfl
    have gap : waitedIn (.head io) = micros io.tts - micros io.ts := if_pos ready
    cases ready_head (by omega) timed stable head allowed.1 range small ready taken with
    | spared cfg _ within joins =>
        have sets : ∀ conn ∈ s'.queue.live, s'.pc ≠ .returned →
            InRange conntimeout (s'.conn conn).timeout ∧ Accounted conntimeout ⟨s', fun conn =>
              if events.any (setsTimer conn) then 0 else w.waited conn + waitedIn (.head io)⟩
                conn := by
          intro conn listed still
          have carry := carried.2 still
          refine joins_accounted _ positive before.cfg carry joins ?_ ?_ conn listed
          · intro other old
            have own := range other old
            have left := within other old
            exact ⟨by omega, by have most := own.2; omega⟩
          · intro other old
            have own := account other old
            unfold Accounted at own
            omega
        exact ⟨after, cfg ▸ before.cfg, carried.2, fun still conn listed =>
          (sets conn listed still).1, fun still conn listed => (sets conn listed still).2⟩
    | purged cfg left _ _ _ =>
        refine ⟨after, cfg ▸ before.cfg, ?_, ?_, ?_⟩ <;> intro still <;> exact absurd left still
  · obtain ⟨cfg, tout, _, joins⟩ := unready_head stable head ready taken
    have carry := before.carry running
    have gap : waitedIn (.head io) = 0 := if_neg ready
    have sets := joins_accounted (waitedIn (.head io)) positive before.cfg (by omega) joins
      range fun conn listed => by
        have own := account conn listed
        unfold Accounted at own
        omega
    exact ⟨after, cfg ▸ before.cfg, fun _ => by dsimp only; omega,
      fun _ conn listed => (sets conn listed).1, fun _ conn listed => (sets conn listed).2⟩

def startWaiting (s : State) : Waiting := ⟨s, fun _ => 0⟩

/-- The run lemma. -/
theorem run_on_time {initial : State} {w : Waiting} {trace : List Event}
    (started : Started initial) (setting : initial.cfg.conntimeout = conntimeout)
    (positive : 1 ≤ conntimeout)
    (inWord : 1000000 * (conntimeout + 1) + late ≤ (2 ^ longBits : Nat))
    (inInt : 1000000 * (conntimeout + 1) + late < 1000000 * 2 ^ 31)
    (run : Run (waitStep longBits) (ReturnsBy late) (startWaiting initial) trace w) :
      OnTime conntimeout w := by
  have nobody := (started_empty started).1
  have fresh := started_tout started
  have empty : OnTime conntimeout (startWaiting initial) :=
    ⟨started_sound started, setting, fun _ => by simp [startWaiting, fresh],
      by simp [startWaiting, nobody], by simp [startWaiting, nobody]⟩
  apply run_invariant (fun _ w => OnTime conntimeout w) empty _ run
  intro trace w answers w' events before allowed taken
  obtain ⟨⟨s', emitted⟩, stepped, same⟩ := Option.map_eq_some_iff.mp taken
  obtain ⟨rfl, rfl⟩ := Prod.mk.inj same
  have after := (step_going before.sound allowed.1 stepped).1
  cases answers with
  | head io =>
      have head : w.state.pc = .head := by
        cases pc : w.state.pc <;> simp [step, pc] at stepped ⊢
      exact head_on_time positive inWord inInt before head allowed stepped after
  | visit io => exact visit_on_time positive before stepped after

/-- Nobody who is still connected has waited for the timeout, and whoever is timed out by a
pass has waited for it, less a second, and at most for a second and the delay of the last
`select` beyond it. -/
theorem timed_out_around_conntimeout {initial : State} {w : Waiting} {trace : List Event}
    (started : Started initial) (setting : initial.cfg.conntimeout = conntimeout)
    (positive : 1 ≤ conntimeout)
    (inWord : 1000000 * (conntimeout + 1) + late ≤ (2 ^ longBits : Nat))
    (inInt : 1000000 * (conntimeout + 1) + late < 1000000 * 2 ^ 31)
    (run : Run (waitStep longBits) (ReturnsBy late) (startWaiting initial) trace w) :
      (w.state.pc ≠ .returned → ∀ conn ∈ w.state.queue.live,
        w.waited conn < 1000000 * conntimeout) ∧
      ∀ {io s' events conn sd}, ReturnsBy late w (.head io) →
        step longBits w.state (.head io) = some (s', events) → .closed conn sd ∈ events →
          1000000 * (conntimeout - 1) < w.waited conn + waitedIn (.head io) ∧
            w.waited conn + waitedIn (.head io) < 1000000 * (conntimeout + 1) + late := by
  have before := run_on_time started setting positive inWord inInt run
  constructor
  · intro running conn listed
    have carry := before.carry running
    have left := (before.range running conn listed).1
    have account := (before.accounted running conn listed).1
    omega
  · intro io s' events conn sd allowed taken closed
    have head : w.state.pc = .head := by
      cases pc : w.state.pc <;> simp [step, pc] at taken ⊢
    have running : w.state.pc ≠ .returned := by simp [head]
    have timed : w.state.cfg.conntimeout ≠ 0 := by
      rw [before.cfg]
      omega
    have stable := before.sound.toStable
    by_cases ready : isReady io.select = true
    · obtain ⟨sum, small⟩ := pass_within inWord inInt before head allowed
      have seconds :
          passSec longBits w.state io = summed longBits w.state io / 1000000 := rfl
      have gap : waitedIn (.head io) = micros io.tts - micros io.ts := if_pos ready
      cases ready_head (by omega) timed stable head allowed.1 (before.range running) small ready
          taken with
      | spared _ unclosed _ _ => exact absurd closed (unclosed conn sd)
      | purged _ _ listed spent only =>
          have own := only conn sd closed
          subst own
          have carry := before.carry running
          have account := before.accounted running conn listed
          unfold Accounted at account
          have least : minTimeout w.state ≤ (w.state.conn conn).timeout :=
            least_le_each _ _ _ listed
          have brief := allowed.2.2
          omega
    · exact absurd closed ((unready_head stable head ready taken).2.2.1 conn sd)

end Timed

/-- A client from the first moment on, another one that comes just before a second is over,
and then a `select` of the second that the first one's timer still shows. -/
def carryAfterTheClient : List Answers :=
  [passWith [4] [] 5 1, visitWith [] 0 [] 0,
    .head { headAfter 0 [4] [] 6 2 with tts := ⟨0, 999999⟩ }, visitWith [] 0 [] 0,
    visitWith [] 0 [] 0]

def aSecondMore : HeadAnswers := headAfter 1 [] [] 7 3

theorem timed_out_around_conntimeout_a_second_late :
    ∃ (w : Waiting) (s' : State) (events : List Event),
      step 64 w.state (.head aSecondMore) = some (s', events) ∧ .closed 1 5 ∈ events ∧
        w.waited 1 + waitedIn (.head aSecondMore) = 1999999 ∧
          w.waited 1 + waitedIn (.head aSecondMore) < 1000000 * (1 + 1) + (0 : Nat) := by
  obtain ⟨w, trace, run, shown⟩ := run_of_replay_view (waitStep 64) (ReturnsBy 0)
    (fun reached => (decide (ReturnsBy 0 reached.1 (.head aSecondMore)),
      (step 64 reached.1.state (.head aSecondMore)).map
        fun taken : State × List Event => decide (Event.closed 1 5 ∈ taken.2),
      reached.1.waited 1))
    carryAfterTheClient (startWaiting (freshDaemon (hexOverTcp 1))) (true, some true, 999999)
    (by decide +kernel)
  simp only [Prod.mk.injEq, decide_eq_true_eq, Option.map_eq_some_iff] at shown
  obtain ⟨allowed, ⟨⟨s', events⟩, taken, closed⟩, waited⟩ := shown
  have around := timed_out_around_conntimeout (fresh_daemon_started (hexOverTcp 1)) rfl (by decide)
    (by decide) (by decide) run
  have total : w.waited 1 + waitedIn (.head aSecondMore) = 1999999 := by
    rw [waited]
    decide
  exact ⟨w, s', events, taken, closed, total, (around.2 allowed taken closed).2⟩

end GlRs485.PunctualExpiry
