import GlRs485.LogFile

/-!
# Logging without a log file

With an empty name `log_init` sets nothing up, since no log file is needed. The
first line that passes its level finds no stream, takes the program's own name
and opens that file.
-/

namespace GlRs485.DisabledLogging

open CBytes NamedFiles TracedSystem GlRs485.Configuration LogFile

set_option autoImplicit false

/-- A line below the level, a file that does not open, or a program that cannot
read its own name while it has none. -/
def Quiet (log : Log) (call : LogCall) : Prop :=
  call.Filtered ∨ call.answers.logfile = false ∨
    log.logfile = [] ∧ call.answers.readlink = false

theorem named_open_quiet_iff (host : Host) (answers : Answers) (log : Log) (outcome : Outcome)
    (named : log.logfile ≠ []) (ran : easylogOpenFile host answers log = some outcome) :
      (outcome.calls = [] ↔ answers.logfile = false) ∧
        (outcome.calls = [] → outcome.log.stream = none) := by
  rw [open_named host answers log named] at ran
  cases answer : answers.logfile with
  | false =>
      have refused : openToAppend false log = ⟨-1, { log with stream := none }, []⟩ := rfl
      rw [answer, refused, if_pos rfl] at ran
      obtain rfl := Option.some.inj ran
      exact ⟨iff_of_true rfl rfl, fun _ => rfl⟩
  | true =>
      rw [answer, open_to_append log named, if_neg (show ¬(0 : Int) = -1 by decide)] at ran
      have opened : outcome.calls ≠ [] := by
        split at ran
        · obtain ⟨moved, _, rfl⟩ := Option.map_eq_some_iff.mp ran
          simp
        · obtain rfl := Option.some.inj ran
          simp
      exact ⟨iff_of_false opened (by simp), fun none => absurd none opened⟩

theorem open_quiet_iff (host : Host) (answers : Answers) (log : Log) (outcome : Outcome)
    (closed : log.stream = none) (ran : easylogOpenFile host answers log = some outcome) :
      (outcome.calls = [] ↔
        answers.logfile = false ∨ log.logfile = [] ∧ answers.readlink = false) ∧
        (outcome.calls = [] → outcome.log.stream = none) := by
  rcases open_cases host answers log with ⟨nameless, gaveUp⟩ | ⟨nameable, targeted⟩
  · obtain rfl := Option.some.inj (gaveUp.symm.trans ran)
    exact ⟨iff_of_true rfl (Or.inr nameless), fun _ => closed⟩
  · rw [targeted] at ran
    rw [or_iff_left nameable]
    exact named_open_quiet_iff host answers _ outcome (target_named host log) ran

theorem logw_quiet_iff (host : Host) (log next : Log) (call : LogCall) (events : List LogEvent)
    (closed : log.stream = none) (taken : easylogWrite host log call = some (next, events)) :
      (events = [] ↔ Quiet log call) ∧ (events = [] → next.stream = none) := by
  rcases logw_cases taken with ⟨filtered, rfl, rfl⟩ | ⟨loud, opened, opens, rest⟩
  · exact ⟨iff_of_true rfl (Or.inl filtered), fun _ => closed⟩
  · have noStream : fileStatOk call.answers.fstat log = false := by simp [fileStatOk, closed]
    rw [ensureOpen, noStream, if_neg (by decide)] at opens
    obtain ⟨quiet, stays⟩ := open_quiet_iff host call.answers log opened closed opens
    rw [Quiet, or_iff_right loud, ← quiet]
    rcases rest with ⟨again, rfl, rfl⟩ | ⟨_, rfl, rfl⟩
    · -- without a stream there would be nothing to print on
      have made : opened.calls ≠ [] := by
        intro none
        simp [fileStatOk, stays none] at again
      have more : opened.calls ++ printed (opened.log.turned host) call.line ≠ [] := by
        simp [made]
      exact ⟨iff_of_false more made, fun none => absurd none more⟩
    · exact ⟨Iff.rfl, stays⟩

/-- A call, the state it was made in, and what it did to files. -/
structure MadeCall where
  log : Log
  call : LogCall
  events : List LogEvent

abbrev CallRun (host : Host) (initial : Log) (made : List MadeCall) (log : Log) : Prop :=
  Run (observing (easylogWrite host) fun log call events => [⟨log, call, events⟩])
    (fun _ _ => True) initial made log

/-- A run without a log file touches no file exactly when each of its calls is quiet in the
state it is made in. -/
theorem disabled_log_untouched_iff (host : Host) (files : LogFiles) (made : List MadeCall)
    (log : Log) (run : CallRun host (logInit host [] (fresh files)) made log) :
      made.flatMap MadeCall.events = [] ↔ ∀ entry ∈ made, Quiet entry.log entry.call := by
  have start := log_init_stream host [] files
  have kept := run_invariant
    (fun made log => (made.flatMap MadeCall.events = [] ↔
        ∀ entry ∈ made, Quiet entry.log entry.call) ∧
      (made.flatMap MadeCall.events = [] → log.stream = none))
    ⟨by simp, fun _ => start⟩ (fun made state call after shown earlier _ taken => ?_) run
  · exact kept.1
  · obtain ⟨events, wrote, rfl⟩ := observing_taken taken
    obtain ⟨quietly, closed⟩ := earlier
    rw [List.flatMap_append, List.append_eq_nil_iff, List.forall_mem_append, ← quietly,
      List.flatMap_singleton, List.forall_mem_singleton]
    have step := fun none => logw_quiet_iff host state after call events (closed none) wrote
    exact ⟨and_congr_right fun none => (step none).1, fun both => (step both.1).2 both.2⟩

def quietCalls : List LogCall :=
  [⟨2, ascii "3", [65], granted⟩, ⟨2, ascii "1", [65], { granted with logfile := false }⟩]

theorem disabled_log_untouched_iff_on_two_lines :
    ∃ made log, CallRun daemonHost (logInit daemonHost [] (fresh fun _ => none)) made log ∧
      made.length = 2 ∧ ∀ entry ∈ made, Quiet entry.log entry.call := by
  obtain ⟨log, made, run, shown⟩ := run_of_replay_view
    (observing (easylogWrite daemonHost) fun log call events => [MadeCall.mk log call events])
    (fun _ _ => True) (fun reached => (reached.2.length, reached.2.flatMap MadeCall.events))
    quietCalls (logInit daemonHost [] (fresh fun _ => none)) (2, []) (by decide +kernel)
  obtain ⟨length, nothing⟩ := Prod.mk.inj shown
  exact ⟨made, log, run, length,
    (disabled_log_untouched_iff daemonHost (fun _ => none) made log run).mp nothing⟩

/-- The line `main` writes when it starts, at level 1, makes a file beside the program. -/
theorem disabled_log_is_written :
    ∃ log, LogRun daemonHost (fun _ _ => True) (logInit daemonHost [] (fresh fun _ => none))
      [.opened (ascii "/usr/bin/gl-rs485.log") .append,
        .wrote (ascii "/usr/bin/gl-rs485.log") (ascii "started")] log := by
  have first := first_line daemonHost (logInit daemonHost [] (fresh fun _ => none))
    ⟨2, ascii "1", ascii "started", granted⟩ (by decide +kernel) rfl (log_init_stream _ _ _) rfl
    (by decide +kernel)
  have own : logTarget daemonHost (logInit daemonHost [] (fresh fun _ => none)) =
      ascii "/usr/bin/gl-rs485.log" := by
    decide +kernel
  rw [own] at first
  exact ⟨_, .next .start trivial first⟩

end GlRs485.DisabledLogging
