import GlRs485.Foundation.OpenStreams
import GlRs485.LogBounds
import GlRs485.LogRotation

/-!
# One log file for several processes

Both daemons and every call of the program with other options log to the same file unless
told otherwise, each through a stream of its own that it opens once. Whoever finds the file
over the limit when it opens it moves it away, and those who opened it earlier write on into
a file without a name. A `logw` is one step here: those of different processes take turns.
-/

namespace GlRs485.SharedLog

open CBytes NamedFiles OpenStreams LogFile LogRotation LogBounds TracedSystem

set_option autoImplicit false

variable {Process : Type} [DecidableEq Process]

structure State (Process : Type) where
  disk : Disk Process (List Byte) Byte
  logs : Process → Log

abbrev SharedEvent (Process : Type) := Process × LogEvent

/-- A `logw` of one process, which finds the files as all have left them. -/
def step (host : Process → Host) :
    StepFunction (State Process) (Process × LogCall) (SharedEvent Process) := fun s input =>
  (easylogWrite (host input.1) { s.logs input.1 with files := s.disk.named } input.2).map
    fun written =>
      let calls : List (SharedEvent Process) := written.2.map fun call => (input.1, call)
      (⟨s.disk.after calls, Function.update s.logs input.1 written.1⟩, calls)

def initialState (host : Process → Host) (logname : Process → List Byte)
    (disk : Disk Process (List Byte) Byte) : State Process :=
  ⟨disk, fun process => logInit (host process) (logname process) (fresh disk.named)⟩

/-- `fstat` tells of a stream that is open. -/
def StreamsTold (_ : State Process) (input : Process × LogCall) : Prop :=
  input.2.answers.fstat = true

/-- The process has its log file open, and since it opened it somebody has removed it. -/
def CutOff (trace : List (SharedEvent Process)) (s : State Process) (process : Process) : Prop :=
  ∃ name, (s.logs process).stream = some (.file name) ∧ attachedAfter trace process name = false

/-! ## One call -/

theorem open_logw {host : Host} {log next : Log} {call : LogCall} {events : List LogEvent}
    (taken : easylogWrite host log call = some (next, events)) (opened : log.stream ≠ none)
    (told : call.answers.fstat = true) :
      (next.stream = log.stream ∨ next.stream = some .standardError) ∧
        ∀ event ∈ events, ∃ name, log.stream = some (.file name) ∧
          event = .wrote name call.line := by
  rcases logw_cases taken with ⟨_, rfl, rfl⟩ | ⟨_, outcome, ensured, rest⟩
  · exact ⟨Or.inl rfl, by simp⟩
  · have answers : fileStatOk call.answers.fstat log = true := by
      simp [fileStatOk, told, Option.isSome_iff_ne_none, opened]
    rw [ensureOpen, if_pos answers] at ensured
    obtain rfl := Option.some.inj ensured
    rcases rest with ⟨_, rfl, rfl⟩ | ⟨_, rfl, rfl⟩
    · unfold Log.turned printed
      split
      · refine ⟨Or.inl rfl, fun event member => ?_⟩
        split at member
        · next name streamed => exact ⟨name, streamed, by simpa using member⟩
        · simp at member
      · exact ⟨Or.inr rfl, by simp⟩
    · exact ⟨Or.inl rfl, by simp⟩

theorem open_removes_large {host : Host} {answers : Answers} {log : Log} {outcome : Outcome}
    {name : List Byte} (ran : easylogOpenFile host answers log = some outcome)
    (removed : .removed name ∈ outcome.calls) : logFileMaxSize < size log.files name := by
  rcases open_cases host answers log with ⟨_, gaveUp⟩ | ⟨_, targeted⟩
  · obtain rfl := Option.some.inj (gaveUp.symm.trans ran)
    simp at removed
  · rw [targeted, open_named host answers _ (target_named host log)] at ran
    have silent : ∀ (answer : Bool) (log : Log),
        .removed name ∉ (openToAppend answer log).calls := by
      intro answer log
      rcases open_to_append_cases answer log with refused | opened
      · simp [refused]
      · simp [opened]
    rcases open_to_append_cases answers.logfile { log with logfile := logTarget host log } with
      refused | opened
    · rw [if_pos (by rw [refused])] at ran
      obtain rfl := Option.some.inj ran
      exact absurd removed (silent _ _)
    · rw [if_neg (by rw [opened]; exact show ¬(0 : Int) = -1 by decide)] at ran
      split at ran
      · next large =>
          obtain ⟨moved, moves, rfl⟩ := Option.map_eq_some_iff.mp ran
          simp only [List.mem_append, silent, or_false, false_or] at removed
          unfold moveAway at moves
          split at moves
          · obtain rfl := Option.some.inj moves
            have own : name = logTarget host log := by
              simpa [copyLoop, opened] using removed
            rw [opened, appending_files, appending_logfile, size_appending] at large
            rw [own]
            exact large
          · cases moves
      · obtain rfl := Option.some.inj ran
        exact absurd removed (silent _ _)

theorem logw_removes_large {host : Host} {log next : Log} {call : LogCall}
    {events : List LogEvent} {name : List Byte}
    (taken : easylogWrite host log call = some (next, events))
    (removed : .removed name ∈ events) : logFileMaxSize < size log.files name := by
  have quiet : ∀ (log : Log) (line : List Byte), .removed name ∉ printed log line := by
    intro log line
    unfold printed
    split <;> simp
  have fromOpen : ∀ outcome, ensureOpen host call.answers log = some outcome →
      .removed name ∈ outcome.calls → logFileMaxSize < size log.files name := by
    intro outcome ensured member
    unfold ensureOpen at ensured
    split at ensured
    · obtain rfl := Option.some.inj ensured
      simp at member
    · exact open_removes_large ensured member
  rcases logw_cases taken with ⟨_, rfl, rfl⟩ | ⟨_, outcome, ensured, rest⟩
  · simp at removed
  · rcases rest with ⟨_, rfl, rfl⟩ | ⟨_, rfl, rfl⟩
    · exact fromOpen outcome ensured
        ((List.mem_append.mp removed).resolve_right (quiet _ _))
    · exact fromOpen outcome ensured removed

/-! ## Runs -/

theorem step_logw {host : Process → Host} {s s' : State Process} {process : Process}
    {call : LogCall} {events : List (SharedEvent Process)}
    (taken : step host s (process, call) = some (s', events)) :
      ∃ next calls, easylogWrite (host process) { s.logs process with files := s.disk.named }
          call = some (next, calls) ∧ events = calls.map (fun call => (process, call)) ∧
        s' = ⟨s.disk.after events, Function.update s.logs process next⟩ := by
  obtain ⟨written, wrote, same⟩ := Option.map_eq_some_iff.mp taken
  obtain ⟨rfl, rfl⟩ := Prod.mk.inj same
  exact ⟨written.1, written.2, wrote, rfl, rfl⟩

/-- A stream that has lost its name does not get it back by what others do, and its owner
does not open it again. -/
structure StaysCut (trace : List (SharedEvent Process)) (process : Process) (name : List Byte)
    (later : List (SharedEvent Process)) (s : State Process) : Prop where
  stream : (s.logs process).stream = some (.file name) ∨
    (s.logs process).stream = some .standardError
  detached : attachedAfter (trace ++ later) process name = false
  lost : Judged (fun before entry => entry.1 = process → reaches (trace ++ before) entry = false)
    later

theorem detached_snoc {trace : List (SharedEvent Process)} {process : Process}
    {name : List Byte} (detached : attachedAfter trace process name = false)
    (entry : SharedEvent Process)
    (harmless : entry.1 ≠ process ∨ ∃ bytes, entry.2 = .wrote name bytes) :
      attachedAfter (trace ++ [entry]) process name = false := by
  rw [attachedAfter, List.foldl_append]
  show noteAttached process name (attachedAfter trace process name) entry = false
  rw [detached]
  obtain ⟨owner, call⟩ := entry
  rcases harmless with other | ⟨bytes, rfl⟩
  · cases call with
    | opened under mode => cases mode <;> simp [noteAttached, show owner ≠ process from other]
    | wrote under bytes => rfl
    | removed under => simp [noteAttached]
  · rfl

theorem stays_cut_append {trace later events : List (SharedEvent Process)} {process : Process}
    {name : List Byte} (detached : attachedAfter (trace ++ later) process name = false)
    (lost : Judged
      (fun before entry => entry.1 = process → reaches (trace ++ before) entry = false) later)
    (harmless : ∀ entry ∈ events, entry.1 ≠ process ∨ ∃ bytes, entry.2 = .wrote name bytes) :
      attachedAfter (trace ++ (later ++ events)) process name = false ∧
        Judged (fun before entry => entry.1 = process → reaches (trace ++ before) entry = false)
          (later ++ events) := by
  induction events generalizing later with
  | nil => simpa using ⟨detached, lost⟩
  | cons entry rest ih =>
      have first := harmless entry (by simp)
      have judged : Judged
          (fun before entry => entry.1 = process → reaches (trace ++ before) entry = false)
          (later ++ [entry]) := by
        refine judged_snoc lost fun own => ?_
        obtain ⟨bytes, line⟩ := first.resolve_left fun other => other own
        obtain ⟨owner, call⟩ := entry
        change owner = process at own
        change call = .wrote name bytes at line
        rw [own, line]
        exact detached
      have next := detached_snoc detached entry first
      rw [List.append_assoc] at next
      have all := ih next judged fun other member => harmless other (by simp [member])
      simpa using all

theorem stays_cut_step {host : Process → Host} {trace later events : List (SharedEvent Process)}
    {process : Process} {name : List Byte} {s s' : State Process}
    {input : Process × LogCall} (before : StaysCut trace process name later s)
    (told : StreamsTold s input) (taken : step host s input = some (s', events)) :
      StaysCut trace process name (later ++ events) s' := by
  obtain ⟨caller, call⟩ := input
  obtain ⟨next, calls, wrote, rfl, rfl⟩ := step_logw taken
  by_cases own : caller = process
  · subst own
    have opened : (s.logs caller).stream ≠ none := by
      rcases before.stream with file | turned
      · simp [file]
      · simp [turned]
    obtain ⟨stays, lines⟩ := open_logw wrote opened told
    have harmless : ∀ entry ∈ calls.map (fun call => (caller, call)),
        entry.1 ≠ caller ∨ ∃ bytes, entry.2 = .wrote name bytes := by
      intro entry member
      obtain ⟨made, listed, rfl⟩ := List.mem_map.mp member
      obtain ⟨under, streamed, rfl⟩ := lines made listed
      refine Or.inr ⟨call.line, ?_⟩
      rcases before.stream with file | turned
      · have same := streamed.symm.trans file
        simp only [Option.some.injEq, Stream.file.injEq] at same
        rw [same]
      · have same := streamed.symm.trans turned
        simp at same
    obtain ⟨detached, lost⟩ := stays_cut_append before.detached before.lost harmless
    refine ⟨?_, detached, lost⟩
    dsimp only
    rw [Function.update_self]
    rcases stays with same | turned
    · rw [same]
      exact before.stream
    · exact Or.inr turned
  · have harmless : ∀ entry ∈ calls.map (fun call => (caller, call)),
        entry.1 ≠ process ∨ ∃ bytes, entry.2 = .wrote name bytes := by
      intro entry member
      obtain ⟨made, _, rfl⟩ := List.mem_map.mp member
      exact Or.inl own
    obtain ⟨detached, lost⟩ := stays_cut_append before.detached before.lost harmless
    refine ⟨?_, detached, lost⟩
    dsimp only
    rw [Function.update_of_ne fun same => own same.symm]
    exact before.stream

/-- The files are what the lines that reach them make of them. A process whose log file was
removed after it had opened it reaches none any more, whatever comes, and a log file is
removed for being over the limit only. -/
theorem lines_reach_log_until_moved {host : Process → Host} {logname : Process → List Byte}
    {disk : Disk Process (List Byte) Byte} (untouched : Untouched disk)
    {trace : List (SharedEvent Process)} {s : State Process}
    (run : Run (step host) StreamsTold (initialState host logname disk) trace s) :
      s.disk.named = NamedFiles.after disk.named (reaching trace) ∧
        (∀ process, CutOff trace s process → ∀ {later s'}, Run (step host) StreamsTold s later s' →
          Judged (fun before entry => entry.1 = process →
            reaches (trace ++ before) entry = false) later) ∧
          ∀ {input s' events process name}, step host s input = some (s', events) →
            (process, .removed name) ∈ events → logFileMaxSize < size s.disk.named name := by
  have made : s.disk = disk.after trace := by
    refine run_invariant (fun trace s => s.disk = disk.after trace) rfl ?_ run
    intro trace s input s' events before _ taken
    obtain ⟨caller, call⟩ := input
    obtain ⟨next, calls, _, _, rfl⟩ := step_logw taken
    dsimp only
    rw [before, Disk.after, Disk.after, Disk.after, List.foldl_append]
  refine ⟨by rw [made]; exact named_after untouched trace, ?_, ?_⟩
  · rintro process ⟨name, stream, detached⟩ later s' continued
    have begins : StaysCut trace process name [] s :=
      ⟨Or.inl stream, by simpa using detached, judged_nil _⟩
    exact (run_invariant (StaysCut trace process name) begins
      (fun _ _ _ _ _ before told taken => stays_cut_step before told taken) continued).lost
  · intro input s' events process name taken removed
    obtain ⟨caller, line⟩ := input
    obtain ⟨next, calls, wrote, rfl, _⟩ := step_logw taken
    obtain ⟨call, member, same⟩ := List.mem_map.mp removed
    obtain ⟨_, rfl⟩ := Prod.mk.inj same
    exact logw_removes_large wrote member

/-! ## A file that outgrows the limit under two daemons -/

/-- Whoever removes a file cuts off everybody else. -/
theorem removal_detaches {trace events : List (SharedEvent Process)} {process : Process}
    {name : List Byte} (others : ∀ entry ∈ events, entry.1 ≠ process)
    (removed : ∃ remover, (remover, .removed name) ∈ events) :
      attachedAfter (trace ++ events) process name = false := by
  obtain ⟨remover, member⟩ := removed
  obtain ⟨front, back, rfl⟩ := List.append_of_mem member
  have gone : attachedAfter (trace ++ (front ++ [(remover, .removed name)])) process name =
      false := by
    rw [attachedAfter, ← List.append_assoc, List.foldl_append]
    simp [noteAttached]
  have kept := @stays_cut_append Process _ (trace ++ (front ++ [(remover, .removed name)])) [] back
    process name (by simpa using gone) (judged_nil _)
    fun entry listed => Or.inl (others entry (by simp [listed]))
  simpa using kept.1

/-- A first line that finds the file over the limit moves it away. -/
theorem first_line_removes {log : Log} {old : List Byte} {call : LogCall}
    (loud : ¬call.Filtered) (answers : call.answers = granted) (closed : log.stream = none)
    (named : log.logfile ≠ []) (backup : log.logfile1 ≠ [])
    (present : log.files log.logfile = some old) (large : logFileMaxSize < old.length) :
      ∃ next events, easylogWrite daemonHost log call = some (next, events) ∧
        .removed log.logfile ∈ events := by
  obtain ⟨moved, moves, _⟩ := rotate_large log old named backup present
  have removed : .removed log.logfile ∈ moved := by
    unfold moveAway at moves
    split at moves
    · obtain rfl := Option.some.inj moves
      simp
    · cases moves
  have ensured : ensureOpen daemonHost granted log = some ⟨0, (log.appending.did moved).appending,
      [.opened log.logfile .append] ++ moved ++ [.opened log.logfile .append]⟩ := by
    rw [ensureOpen, if_neg (by simp [fileStatOk, closed]),
      open_large daemonHost log old named present large, moves]
    rfl
  refine ⟨_, _, by rw [easylogWrite, if_neg loud, easylogWriteLog, answers, ensured]; rfl, ?_⟩
  dsimp only
  split <;> simp [removed]

def emptyDisk : Disk Bool (List Byte) Byte := ⟨fun _ => none, fun _ => [], 0, fun _ _ => none⟩

theorem empty_untouched : Untouched emptyDisk :=
  ⟨⟨by simp [emptyDisk], by simp [emptyDisk], by simp [emptyDisk], by simp [emptyDisk]⟩,
    fun _ _ => rfl⟩

def twoDaemons : State Bool :=
  initialState (fun _ => daemonHost) (fun _ => ascii "rs485.log") emptyDisk

def overfullLine : LogCall := ⟨2, ascii "1", overfull, granted⟩

def fillingCalls : List (SharedEvent Bool) :=
  [(false, .opened defaultLog .append), (false, .wrote defaultLog overfull)]

theorem filled_log : (emptyDisk.after fillingCalls).named defaultLog = some overfull := by
  have all : reaching fillingCalls =
      [.opened defaultLog .append, .wrote defaultLog overfull] := by
    simp [reaching, reachingAfter, fillingCalls, reaches, attachedAfter, noteAttached]
  rw [named_after empty_untouched, all, after_cons, after_cons, after_nil, writing_appends,
    appending_opens]
  rfl

theorem lines_reach_log_until_moved_by_the_other :
    ∃ trace s, CutOff trace s false ∧
      s.disk.named = NamedFiles.after emptyDisk.named (reaching trace) := by
  have loud : ¬overfullLine.Filtered := by
    show ¬LogCall.Filtered ⟨2, ascii "1", overfull, granted⟩
    simp only [LogCall.Filtered, LogCall.dbglvl]
    decide +kernel
  have named : defaultLog ≠ [] := by decide +kernel
  have begins : ∀ files : LogFiles,
      { logInit daemonHost (ascii "rs485.log") (fresh emptyDisk.named) with files := files } =
        (⟨defaultLog, defaultLog ++ tmpSuffix, none, files⟩ : Log) := by
    intro files
    rw [default_init]
  obtain ⟨opened, stream, filling⟩ : ∃ opened : Log, opened.stream = some (.file defaultLog) ∧
      easylogWrite daemonHost ⟨defaultLog, defaultLog ++ tmpSuffix, none, emptyDisk.named⟩
          overfullLine =
        some (opened, [.opened defaultLog .append, .wrote defaultLog overfull]) := by
    have target : logTarget daemonHost
        ⟨defaultLog, defaultLog ++ tmpSuffix, none, emptyDisk.named⟩ = defaultLog :=
      target_of_named _ _ named
    have filling := first_line daemonHost
      ⟨defaultLog, defaultLog ++ tmpSuffix, none, emptyDisk.named⟩ overfullLine loud rfl rfl rfl
      (by rw [target]; exact Nat.zero_le _)
    rw [target] at filling
    exact ⟨_, rfl, filling⟩
  obtain ⟨next, moving, removes, removed⟩ := @first_line_removes
    ⟨defaultLog, defaultLog ++ tmpSuffix, none, (emptyDisk.after fillingCalls).named⟩ overfull
    overfullLine loud rfl rfl named (by simp [named]) filled_log overfull_large
  rw [← begins] at filling removes
  let filled : State Bool :=
    ⟨emptyDisk.after fillingCalls, Function.update twoDaemons.logs false opened⟩
  have first : step (fun _ : Bool => daemonHost) twoDaemons (false, overfullLine) =
      some (filled, fillingCalls) := Option.map_eq_some_iff.mpr ⟨_, filling, rfl⟩
  have second : step (fun _ : Bool => daemonHost) filled (true, overfullLine) = some _ :=
    Option.map_eq_some_iff.mpr ⟨_, removes, rfl⟩
  have run := Run.next (.next .start (show StreamsTold twoDaemons (false, overfullLine) from rfl)
    first) (show StreamsTold filled (true, overfullLine) from rfl) second
  refine ⟨_, _, ⟨defaultLog, stream, ?_⟩, (lines_reach_log_until_moved empty_untouched run).1⟩
  apply removal_detaches
  · intro entry member
    obtain ⟨call, _, rfl⟩ := List.mem_map.mp member
    simp
  · exact ⟨true, List.mem_map.mpr ⟨_, removed, rfl⟩⟩

end GlRs485.SharedLog
