import GlRs485.LogFile

/-!
# How large the log file becomes

The size is looked at only while the file is being opened. Every opening leaves
a stream to a file within the limit, or no stream; the lines written through a
stream that stays open are not counted against anything.
-/

namespace GlRs485.LogBounds

open CBytes NamedFiles TracedSystem GlRs485.Configuration LogFile

set_option autoImplicit false

/-- An open stream of a file is one of the log file, whose name is known by then. -/
structure Consistent (log : Log) : Prop where
  named : log.stream ≠ none → log.logfile ≠ []
  follows : ∀ name, log.stream = some (.file name) → name = log.logfile

/-- No stream and at most so many bytes, or a stream to a file within the limit. -/
def JustOpened (most : Nat) (name : List Byte) (log : Log) : Prop :=
  log.stream = none ∧ size log.files name ≤ most ∨
    log.stream = some (.file name) ∧ size log.files name ≤ logFileMaxSize

theorem named_open_bounded (host : Host) (answers : Answers) (log : Log) (outcome : Outcome)
    (named : log.logfile ≠ []) (ran : easylogOpenFile host answers log = some outcome) :
      outcome.log.logfile = log.logfile ∧
        JustOpened (size log.files log.logfile) log.logfile outcome.log := by
  rw [open_named host answers log named] at ran
  rcases open_to_append_cases answers.logfile log with refused | opened
  · rw [refused, if_pos rfl] at ran
    obtain rfl := Option.some.inj ran
    exact ⟨rfl, Or.inl ⟨rfl, le_refl _⟩⟩
  · rw [opened, if_neg (show ¬(0 : Int) = -1 by decide)] at ran
    split at ran
    · obtain ⟨moved, moves, rfl⟩ := Option.map_eq_some_iff.mp ran
      have gone := moved_away answers log.appending moved moves
      have emptied : size (log.appending.did moved).files log.logfile = 0 := by
        rw [size, content]
        simp only [did_files]
        rw [show after log.appending.files moved log.logfile = none from gone]
        rfl
      rcases open_to_append_cases answers.newLogfile (log.appending.did moved) with
        refused | anew
      · rw [refused]
        refine ⟨rfl, Or.inl ⟨rfl, ?_⟩⟩
        show size (log.appending.did moved).files log.logfile ≤ _
        omega
      · rw [anew]
        refine ⟨rfl, Or.inr ⟨rfl, ?_⟩⟩
        show size (FileCall.apply (log.appending.did moved).files (.opened log.logfile .append))
          log.logfile ≤ _
        rw [size_appending, emptied]
        omega
    · next within =>
        obtain rfl := Option.some.inj ran
        exact ⟨rfl, Or.inr ⟨rfl, by simpa using within⟩⟩

theorem open_bounded (host : Host) (answers : Answers) (log : Log) (outcome : Outcome)
    (consistent : Consistent log) (ran : easylogOpenFile host answers log = some outcome) :
      logTarget host outcome.log = logTarget host log ∧ Consistent outcome.log ∧
        JustOpened (size log.files (logTarget host log)) (logTarget host log) outcome.log := by
  rcases open_cases host answers log with ⟨⟨unnamed, _⟩, gaveUp⟩ | ⟨_, targeted⟩
  · obtain rfl := Option.some.inj (gaveUp.symm.trans ran)
    have closed : log.stream = none := by
      by_contra streamed
      exact consistent.named streamed unnamed
    exact ⟨rfl, consistent, Or.inl ⟨closed, le_refl _⟩⟩
  · rw [targeted] at ran
    have named := target_named host log
    obtain ⟨name, opened⟩ := named_open_bounded host answers _ outcome named ran
    have target : logTarget host outcome.log = logTarget host log := by
      rw [target_of_named host outcome.log (by rw [name]; exact named), name]
    refine ⟨target, ⟨fun _ => by rw [name]; exact named, ?_⟩, opened⟩
    intro other streamed
    rcases opened with ⟨none, _⟩ | ⟨file, _⟩
    · rw [none] at streamed
      cases streamed
    · rw [file] at streamed
      rw [name]
      exact (Stream.file.inj (Option.some.inj streamed)).symm

/-- The call writes to the log file through a stream that was open before. -/
def WritesOn (host : Host) (log : Log) (call : LogCall) : Prop :=
  ¬call.Filtered ∧ host.isdaemon = true ∧ (∃ name, log.stream = some (.file name)) ∧
    call.answers.fstat = true ∧ call.answers.fstatAgain = true

/-- Such a call finds a file that is within the limit. -/
def InTime (host : Host) (log : Log) (call : LogCall) : Prop :=
  WritesOn host log call → size log.files (logTarget host log) ≤ logFileMaxSize

/-- The log keeps to one file, which is within the limit and one line. -/
structure Bounded (host : Host) (name : List Byte) (bytes : Nat) (log : Log) : Prop where
  consistent : Consistent log
  target : logTarget host log = name
  bounded : size log.files name ≤ logFileMaxSize + bytes

theorem print_bounded (host : Host) (name : List Byte) (bytes : Nat) (log : Log) (line : List Byte)
    (before : Bounded host name bytes log) (short : line.length ≤ bytes)
    (within : ∀ other, log.stream = some (.file other) → size log.files name ≤ logFileMaxSize) :
      Bounded host name bytes (log.did (printed log line)) := by
  constructor
  · exact ⟨before.consistent.named, before.consistent.follows⟩
  · exact before.target
  · cases streamed : log.stream with
    | none => simpa [printed, streamed] using before.bounded
    | some stream =>
        cases stream with
        | standardError => simpa [printed, streamed] using before.bounded
        | file other =>
            have fits := within other streamed
            have grown := size_written log.files name other line
            simp only [printed, streamed, did_files, after_cons, after_nil]
            omega

theorem ready_bounded (host : Host) (name : List Byte) (bytes : Nat) (log : Log)
    (call : LogCall) (opened : Outcome) (before : Bounded host name bytes log)
    (inTime : InTime host log call) (loud : ¬call.Filtered)
    (opens : ensureOpen host call.answers log = some opened) :
      Bounded host name bytes opened.log ∧
        (fileStatOk call.answers.fstatAgain opened.log = true → host.isdaemon = true →
          ∀ other, opened.log.stream = some (.file other) →
            size opened.log.files name ≤ logFileMaxSize) := by
  unfold ensureOpen at opens
  split at opens
  · next stat =>
      obtain rfl := Option.some.inj opens
      refine ⟨before, ?_⟩
      intro again daemon other streamed
      simp only [fileStatOk, Bool.and_eq_true] at stat again
      have found := inTime ⟨loud, daemon, ⟨other, streamed⟩, stat.2, again.2⟩
      rwa [before.target] at found
  · obtain ⟨target, consistent, just⟩ :=
      open_bounded host call.answers log opened before.consistent opens
    rw [before.target] at target just
    have most := before.bounded
    rcases just with ⟨none, small⟩ | ⟨_, small⟩
    · refine ⟨⟨consistent, target, by omega⟩, ?_⟩
      intro _ _ other streamed
      rw [none] at streamed
      cases streamed
    · exact ⟨⟨consistent, target, by omega⟩, fun _ _ _ _ => small⟩

theorem turned_bounded (host : Host) (name : List Byte) (bytes : Nat) (log : Log)
    (before : Bounded host name bytes log) (streamed : log.stream ≠ none) :
      Bounded host name bytes { log with stream := some .standardError } := by
  constructor
  · constructor
    · intro _
      exact before.consistent.named streamed
    · intro _ file
      cases file
  · exact before.target
  · exact before.bounded

theorem logw_bounded (host : Host) (name : List Byte) (bytes : Nat) (log next : Log)
    (call : LogCall) (events : List LogEvent) (before : Bounded host name bytes log)
    (short : call.line.length ≤ bytes) (inTime : InTime host log call)
    (taken : easylogWrite host log call = some (next, events)) :
      Bounded host name bytes next := by
  rcases logw_cases taken with ⟨_, rfl, _⟩ | ⟨loud, opened, opens, rest⟩
  · exact before
  · obtain ⟨bounded, within⟩ :=
      ready_bounded host name bytes log call opened before inTime loud opens
    rcases rest with ⟨again, rfl, _⟩ | ⟨_, rfl, _⟩
    · have streamed : opened.log.stream ≠ none := by
        intro closed
        simp [fileStatOk, closed] at again
      unfold Log.turned
      cases daemon : host.isdaemon with
      | true => exact print_bounded host name bytes _ call.line bounded short (within again daemon)
      | false =>
          apply print_bounded host name bytes _ call.line
            (turned_bounded host name bytes opened.log bounded streamed) short
          intro _ file
          cases file
    · exact bounded

theorem line_through_open_stream (host : Host) (log : Log) (name : List Byte) (call : LogCall)
    (writes : WritesOn host log call) (streamed : log.stream = some (.file name)) :
      easylogWrite host log call =
        some (log.did [.wrote name call.line], [.wrote name call.line]) := by
  obtain ⟨loud, daemon, _, stat, again⟩ := writes
  simp [easylogWrite, loud, easylogWriteLog, ensureOpen, fileStatOk, streamed, stat, again,
    Log.turned, daemon, printed]

/-- Lines through an open stream add up without end. -/
theorem lines_add_up (host : Host) (allowed : Log → LogCall → Prop) (log : Log)
    (name old : List Byte) (call : LogCall) (admitted : ∀ log, allowed log call)
    (writes : WritesOn host log call) (streamed : log.stream = some (.file name))
    (present : log.files name = some old) (n : Nat) :
      ∃ trace after, LogRun host allowed log trace after ∧
        after.logfile = log.logfile ∧ after.stream = log.stream ∧
        ∃ grown, after.files name = some grown ∧
          grown.length = old.length + n * call.line.length := by
  induction n with
  | zero => exact ⟨[], log, .start, rfl, rfl, old, present, by omega⟩
  | succ n ih =>
      obtain ⟨trace, after, run, name_, stream, grown, content, length⟩ := ih
      have again : WritesOn host after call := by
        obtain ⟨loud, daemon, _, stats⟩ := writes
        exact ⟨loud, daemon, ⟨name, stream.trans streamed⟩, stats⟩
      have taken := line_through_open_stream host after name call again (stream.trans streamed)
      refine ⟨_, _, .next run (admitted after) taken, name_, stream, grown ++ call.line, ?_, ?_⟩
      · simp [content]
      · rw [List.length_append, length, Nat.succ_mul, Nat.add_assoc]

/-- From a log file within the limit on, every number of lines comes out at its end. -/
theorem log_outgrows (host : Host) (allowed : Log → LogCall → Prop) (log : Log) (old : List Byte)
    (call : LogCall) (admitted : ∀ log, allowed log call) (loud : ¬call.Filtered)
    (daemon : host.isdaemon = true) (answers : call.answers = granted) (closed : log.stream = none)
    (present : log.files (logTarget host log) = some old) (small : old.length ≤ logFileMaxSize)
    (n : Nat) :
      ∃ trace after, LogRun host allowed log trace after ∧
        logTarget host after = logTarget host log ∧
          size after.files (logTarget host log) = old.length + (n + 1) * call.line.length := by
  have first := first_line host log call loud daemon closed answers
    (by rw [size, content, present]; exact small)
  have named := target_named host log
  generalize logTarget host log = target at first named present ⊢
  generalize opened : (Log.appending { log with logfile := target }).did
    [.wrote target call.line] = log1 at first
  have name : log1.logfile = target := by rw [← opened]; rfl
  have streamed : log1.stream = some (.file target) := by rw [← opened]; rfl
  have longer : log1.files target = some (old ++ call.line) := by
    rw [← opened, did_files, after_cons, after_nil, writing_appends, appending_files,
      appending_opens, content, present]
    rfl
  have writes : WritesOn host log1 call := by
    refine ⟨loud, daemon, ⟨target, streamed⟩, ?_⟩
    rw [answers]
    exact ⟨rfl, rfl⟩
  obtain ⟨trace, log2, later, name2, _, grown, content2, length⟩ := lines_add_up host allowed log1
    target (old ++ call.line) call admitted writes streamed longer n
  refine ⟨_, log2, run_trans (.next .start (admitted log) first) later, ?_, ?_⟩
  · rw [target_of_named host log2 (by rw [name2, name]; exact named), name2, name]
  · rw [size, content, content2, Option.getD_some, length, List.length_append, Nat.succ_mul]
    omega

def oneByteLine : LogCall := ⟨2, ascii "1", [65], granted⟩

def defaultLog : List Byte := ascii "/tmp/log/rs485.log"

theorem default_init (files : LogFiles) :
    logInit daemonHost (ascii "rs485.log") (fresh files) =
      ⟨defaultLog, defaultLog ++ tmpSuffix, none, files⟩ := by
  rw [log_init_named daemonHost (ascii "rs485.log") _ (by decide),
    show (logfullname (ascii "rs485.log")).take 127 = defaultLog by decide +kernel,
    show (logfullname (ascii "rs485.log") ++ tmpSuffix).take 127 = defaultLog ++ tmpSuffix by
      decide +kernel]

/-- Where every line that goes out through an open stream finds the file within
the limit, the log file never exceeds the limit by more than one line. -/
theorem log_stays_bounded (host : Host) (logname : List Byte) (files : LogFiles) (bytes : Nat)
    (trace : List LogEvent) (log : Log)
    (starts : size files (logTarget host (logInit host logname (fresh files))) ≤
      logFileMaxSize + bytes)
    (run : LogRun host (fun log call => call.line.length ≤ bytes ∧ InTime host log call)
      (logInit host logname (fresh files)) trace log) :
      logTarget host log = logTarget host (logInit host logname (fresh files)) ∧
        size log.files (logTarget host log) ≤ logFileMaxSize + bytes := by
  have closed := log_init_stream host logname files
  have kept := run_invariant
    (fun _ log => Bounded host (logTarget host (logInit host logname (fresh files))) bytes log)
    ⟨⟨fun streamed => absurd closed streamed, fun _ file => by rw [closed] at file; cases file⟩,
      rfl, by rw [log_init_files]; exact starts⟩
    (fun _ state call after events before admitted taken =>
      logw_bounded host _ bytes state after call events before admitted.1 admitted.2 taken) run
  exact ⟨kept.target, by rw [kept.target]; exact kept.bounded⟩

theorem log_stays_bounded_on_two_lines :
    ∃ trace log, LogRun daemonHost
        (fun log call => call.line.length ≤ 1 ∧ InTime daemonHost log call)
        (logInit daemonHost (ascii "rs485.log") (fresh (holding defaultLog [65]))) trace log ∧
      trace.length = 3 ∧ logTarget daemonHost log = logTarget daemonHost
          (logInit daemonHost (ascii "rs485.log") (fresh (holding defaultLog [65]))) ∧
        size log.files (logTarget daemonHost log) ≤ logFileMaxSize + 1 := by
  have small : size (holding defaultLog [65])
      (logTarget daemonHost (logInit daemonHost (ascii "rs485.log")
        (fresh (holding defaultLog [65])))) ≤ logFileMaxSize + 1 := by
    decide +kernel
  have first := first_line daemonHost (logInit daemonHost (ascii "rs485.log")
    (fresh (holding defaultLog [65]))) oneByteLine (by decide +kernel) rfl
    (log_init_stream _ _ _) rfl (by decide +kernel)
  have run : LogRun daemonHost
      (fun log call => call.line.length ≤ 1 ∧ InTime daemonHost log call) _ _ _ :=
    .next (.next .start
      ⟨le_refl 1, fun writes => absurd writes.2.2.1 (by simp [log_init_stream])⟩ first)
      ⟨le_refl 1, fun _ => by decide +kernel⟩
      (line_through_open_stream daemonHost _ _ oneByteLine
        ⟨by decide +kernel, rfl, ⟨_, rfl⟩, rfl, rfl⟩ rfl)
  exact ⟨_, _, run, rfl, log_stays_bounded daemonHost (ascii "rs485.log")
    (holding defaultLog [65]) 1 _ _ small run⟩

/-- Two lines of one byte on a log file of the full size. -/
theorem open_stream_passes_limit :
    ∃ files trace log,
      size files (logTarget daemonHost (logInit daemonHost (ascii "rs485.log") (fresh files))) ≤
          logFileMaxSize + 1 ∧
        LogRun daemonHost (fun _ call => call.line.length ≤ 1)
          (logInit daemonHost (ascii "rs485.log") (fresh files)) trace log ∧
        ¬size log.files (logTarget daemonHost log) ≤ logFileMaxSize + 1 := by
  have full : (List.replicate logFileMaxSize (65 : Byte)).length = logFileMaxSize :=
    List.length_replicate
  generalize List.replicate logFileMaxSize (65 : Byte) = old at full
  have present := holding_same defaultLog old
  have target : logTarget daemonHost (logInit daemonHost (ascii "rs485.log")
      (fresh (holding defaultLog old))) = defaultLog := by
    rw [default_init]
    exact target_of_named _ _ (show defaultLog ≠ [] by decide +kernel)
  obtain ⟨trace, log, run, same, grown⟩ := log_outgrows daemonHost
    (fun _ call => call.line.length ≤ 1) (logInit daemonHost (ascii "rs485.log")
      (fresh (holding defaultLog old))) old oneByteLine (fun _ => le_refl 1) (by decide +kernel) rfl
    rfl (log_init_stream _ _ _) (by rw [target, log_init_files]; exact present) full.le 1
  refine ⟨holding defaultLog old, trace, log, ?_, run, ?_⟩
  · rw [target, size, content, present, Option.getD_some, full]
    omega
  · have two : oneByteLine.line.length = 1 := rfl
    rw [same, grown, full, two]
    omega

end GlRs485.LogBounds
