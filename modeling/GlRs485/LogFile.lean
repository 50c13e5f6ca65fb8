import GlRs485.Configuration
import GlRs485.Foundation.NamedFiles
import GlRs485.Foundation.TracedSystem

/-!
# The log file: `log.c`

`log_init` fixes the names, and every `logw` reads the level, opens the file
unless there is an open stream, and writes its line. Whether a call of the
system succeeds is an answer; a stream that did not open and is used all the
same ends the program. An open stream of the log file is known by its name.
-/

namespace GlRs485.LogFile

open CBytes CIntegers NamedFiles TracedSystem GlRs485.Configuration

set_option autoImplicit false

abbrev LogFiles := Files (List Byte) Byte

abbrev LogEvent := FileCall (List Byte) Byte

def logFileMaxSize : Nat := 512000000

def nameSize : Nat := 128

inductive Stream
  | standardError
  | file (name : List Byte)
  deriving DecidableEq

/-- `g_logfile`, `g_logfile1` and `g_master_fp`, and the files of the system. -/
structure Log where
  logfile : List Byte
  logfile1 : List Byte
  stream : Option Stream
  files : LogFiles

def fresh (files : LogFiles) : Log := ⟨[], [], none, files⟩

/-- The program's own path, where its link can be read, and whether it is a daemon. -/
structure Host where
  exe : List Byte
  isdaemon : Bool

/-- Whether the calls of the system succeed: the link, the three files that are
opened before the old log file is removed, the new log file, and both `fstat`s. -/
structure Answers where
  readlink : Bool
  logfile : Bool
  source : Bool
  backup : Bool
  newLogfile : Bool
  fstat : Bool
  fstatAgain : Bool

def granted : Answers := ⟨true, true, true, true, true, true, true⟩

def logSuffix : List Byte := ascii ".log"

def tmpSuffix : List Byte := ascii "tmp"

def slash : Byte := 47

/-- `snprintf` into an array of that size. -/
def snprintf (size : Nat) (text : List Byte) : List Byte := text.take (size - 1)

/-- `readlink` reads no more than the array holds. What the suffix of a path of more
than 123 characters writes past the array is not followed. -/
def getMyName (host : Host) (answers : Answers) (log : Log) : Int × Log :=
  if answers.readlink then (0, { log with logfile := host.exe.take nameSize ++ logSuffix })
  else (-1, log)

def easylogFile (host : Host) (answers : Answers) (logfile : Option (List Byte)) (log : Log) :
    Int × Log :=
  let name := logfile.getD []
  if name = [] then getMyName host answers log
  else
    (0, { log with
      logfile := snprintf nameSize name
      logfile1 := snprintf nameSize (name ++ tmpSuffix) })

/-- What `log_init` makes of the name. -/
def logfullname (logname : List Byte) : List Byte :=
  if logname.head? = some slash then logname.take intbufsize
  else if logname = [] then []
  else logPath ++ logname.take (intbufsize - logPath.length)

/-- For an empty name no file is needed, and the names stay empty. -/
def logInit (host : Host) (logname : List Byte) (log : Log) : Log :=
  if logname = [] then log
  else (easylogFile host granted (some (logfullname logname)) log).2

/-- `fopen`: an empty name never opens, and a file to be read has to be there. -/
def opens (answer : Bool) (files : LogFiles) (name : List Byte) (mode : OpenMode) : Bool :=
  answer && name ≠ [] && (mode ≠ .read || (files name).isSome)

def copyLoop (target source : List Byte) : List LogEvent :=
  source.map fun c => .wrote target [c]

/-- The copy and the removal; the backup is opened before the first byte is read. -/
def moveAway (answers : Answers) (log : Log) : Option (List LogEvent) :=
  if opens answers.source log.files log.logfile .read ∧
      opens answers.backup log.files log.logfile1 .truncate then
    let opened : List LogEvent := [.opened log.logfile .read, .opened log.logfile1 .truncate]
    let source := content (after log.files opened) log.logfile
    some (opened ++ copyLoop log.logfile1 source ++ [.removed log.logfile])
  else none

def Log.did (log : Log) (calls : List LogEvent) : Log :=
  { log with files := after log.files calls }

structure Outcome where
  returned : Int
  log : Log
  calls : List LogEvent

def Log.appending (log : Log) : Log :=
  { log.did [.opened log.logfile .append] with stream := some (.file log.logfile) }

def openToAppend (answer : Bool) (log : Log) : Outcome :=
  if opens answer log.files log.logfile .append then
    ⟨0, log.appending, [.opened log.logfile .append]⟩
  else ⟨-1, { log with stream := none }, []⟩

def easylogOpenFile (host : Host) (answers : Answers) (log : Log) : Option Outcome :=
  let log := if log.logfile = [] then (easylogFile host answers none log).2 else log
  if log.logfile = [] then some ⟨-1, log, []⟩
  else
    let opened := openToAppend answers.logfile log
    if opened.returned = -1 then some opened
    else if logFileMaxSize < size opened.log.files opened.log.logfile then
      (moveAway answers opened.log).map fun moved =>
        let anew := openToAppend answers.newLogfile (opened.log.did moved)
        { anew with calls := opened.calls ++ moved ++ anew.calls }
    else some opened

def fileStatOk (answer : Bool) (log : Log) : Bool := log.stream.isSome && answer

def printed (log : Log) (line : List Byte) : List LogEvent :=
  match log.stream with
  | some (.file name) => [.wrote name line]
  | _ => []

def Log.turned (log : Log) (host : Host) : Log :=
  if host.isdaemon then log else { log with stream := some .standardError }

/-- The file is opened only where the stream does not answer. -/
def ensureOpen (host : Host) (answers : Answers) (log : Log) : Option Outcome :=
  if fileStatOk answers.fstat log then some ⟨0, log, []⟩ else easylogOpenFile host answers log

def easylogWriteLog (host : Host) (answers : Answers) (line : List Byte) (log : Log) :
    Option Outcome :=
  (ensureOpen host answers log).map fun opened =>
    if fileStatOk answers.fstatAgain opened.log then
      let log := opened.log.turned host
      ⟨0, log.did (printed log line), opened.calls ++ printed log line⟩
    else ⟨-1, opened.log, opened.calls⟩

/-- A `logw`: its level, the text found at `rs485.rs485.log`, and the line with all
that is printed in front of it. -/
structure LogCall where
  level : Int
  cfgLog : List Byte
  line : List Byte
  answers : Answers

def LogCall.dbglvl (call : LogCall) : Int := toChar (strToNumber call.cfgLog)

def LogCall.Filtered (call : LogCall) : Prop := call.dbglvl = 0 ∨ call.level < call.dbglvl

instance (call : LogCall) : Decidable call.Filtered := inferInstanceAs (Decidable (_ ∨ _))

def easylogWrite (host : Host) (log : Log) (call : LogCall) : Option (Log × List LogEvent) :=
  if call.Filtered then some (log, [])
  else
    (easylogWriteLog host call.answers call.line log).map fun written =>
      (written.log, written.calls)

/-- A run of the program: `log_init`, then any `logw`s that are allowed. -/
abbrev LogRun (host : Host) (allowed : Log → LogCall → Prop) (initial : Log)
    (trace : List LogEvent) (log : Log) : Prop :=
  Run (easylogWrite host) allowed initial trace log

@[simp] theorem did_logfile (log : Log) (calls : List LogEvent) :
    (log.did calls).logfile = log.logfile := rfl

@[simp] theorem did_logfile1 (log : Log) (calls : List LogEvent) :
    (log.did calls).logfile1 = log.logfile1 := rfl

@[simp] theorem did_stream (log : Log) (calls : List LogEvent) :
    (log.did calls).stream = log.stream := rfl

@[simp] theorem did_files (log : Log) (calls : List LogEvent) :
    (log.did calls).files = after log.files calls := rfl

@[simp] theorem appending_logfile (log : Log) : log.appending.logfile = log.logfile := rfl

@[simp] theorem appending_logfile1 (log : Log) : log.appending.logfile1 = log.logfile1 := rfl

@[simp] theorem appending_stream (log : Log) :
    log.appending.stream = some (.file log.logfile) := rfl

@[simp] theorem appending_files (log : Log) :
    log.appending.files = FileCall.apply log.files (.opened log.logfile .append) := rfl

@[simp] theorem turned_files (log : Log) (host : Host) : (log.turned host).files = log.files := by
  unfold Log.turned
  split <;> rfl

/-- All that a `logw` can do. -/
theorem logw_cases {host : Host} {log next : Log} {call : LogCall} {events : List LogEvent}
    (taken : easylogWrite host log call = some (next, events)) :
      call.Filtered ∧ next = log ∧ events = [] ∨
        ¬call.Filtered ∧ ∃ opened, ensureOpen host call.answers log = some opened ∧
          (fileStatOk call.answers.fstatAgain opened.log = true ∧
              next = (opened.log.turned host).did (printed (opened.log.turned host) call.line) ∧
              events = opened.calls ++ printed (opened.log.turned host) call.line ∨
            fileStatOk call.answers.fstatAgain opened.log = false ∧ next = opened.log ∧
              events = opened.calls) := by
  unfold easylogWrite at taken
  split at taken
  · next filtered =>
      obtain ⟨rfl, rfl⟩ := Prod.mk.inj (Option.some.inj taken)
      exact Or.inl ⟨filtered, rfl, rfl⟩
  · next loud =>
      obtain ⟨outcome, ran, same⟩ := Option.map_eq_some_iff.mp taken
      obtain ⟨rfl, rfl⟩ := Prod.mk.inj same
      obtain ⟨opened, opens, rest⟩ := Option.map_eq_some_iff.mp ran
      refine Or.inr ⟨loud, opened, opens, ?_⟩
      split at rest
      · next again =>
          obtain rfl := rest
          exact Or.inl ⟨again, rfl, rfl⟩
      · next lost =>
          obtain rfl := rest
          exact Or.inr ⟨by simpa using lost, rfl, rfl⟩

theorem open_to_append_cases (answer : Bool) (log : Log) :
    openToAppend answer log = ⟨-1, { log with stream := none }, []⟩ ∨
      openToAppend answer log = ⟨0, log.appending, [.opened log.logfile .append]⟩ := by
  unfold openToAppend
  split
  · exact Or.inr rfl
  · exact Or.inl rfl

theorem open_to_append (log : Log) (named : log.logfile ≠ []) :
    openToAppend true log = ⟨0, log.appending, [.opened log.logfile .append]⟩ := by
  simp [openToAppend, opens, named]

theorem moves_iff (answers : Answers) (log : Log) :
    (∃ calls, moveAway answers log = some calls) ↔
      opens answers.source log.files log.logfile .read = true ∧
        opens answers.backup log.files log.logfile1 .truncate = true := by
  unfold moveAway
  split
  · next both => exact iff_of_true ⟨_, rfl⟩ both
  · next missing => exact iff_of_false (by simp) missing

theorem moved_away (answers : Answers) (log : Log) (calls : List LogEvent)
    (moved : moveAway answers log = some calls) : after log.files calls log.logfile = none := by
  unfold moveAway at moved
  split at moved
  · obtain rfl := Option.some.inj moved
    rw [after_append, after_cons, after_nil, removing_leaves_none]
  · cases moved

theorem moved_content (answers : Answers) (log : Log) (calls : List LogEvent) (old : List Byte)
    (apart : log.logfile1 ≠ log.logfile) (present : log.files log.logfile = some old)
    (moved : moveAway answers log = some calls) :
      after log.files calls log.logfile1 = some old := by
  unfold moveAway at moved
  split at moved
  · obtain rfl := Option.some.inj moved
    generalize prepared : after log.files
      [.opened log.logfile .read, .opened log.logfile1 .truncate] = files
    rw [after_cons, after_cons, after_nil, reading_leaves] at prepared
    have kept : files log.logfile = some old := by
      rw [← prepared, apply_other _ _ _ apart.symm, present]
    have emptied : files log.logfile1 = some [] := by
      rw [← prepared, truncating_empties]
    have copied := bytes_appended files log.logfile1 old [] emptied
    simp only [after_append, after_cons, after_nil, reading_leaves, prepared, content, kept,
      Option.getD_some]
    rw [apply_other _ _ _ apart]
    exact copied
  · cases moved

theorem fullname_named (logname : List Byte) (named : logname ≠ []) :
    logfullname logname ≠ [] := by
  unfold logfullname
  split
  · cases logname with
    | nil => exact absurd rfl named
    | cons c rest => exact List.cons_ne_nil _ _
  · exact List.append_ne_nil_of_left_ne_nil (by decide) _

theorem log_init_named (host : Host) (logname : List Byte) (files : LogFiles)
    (named : logname ≠ []) :
      logInit host logname (fresh files) =
        ⟨(logfullname logname).take 127, (logfullname logname ++ tmpSuffix).take 127, none,
          files⟩ := by
  unfold logInit easylogFile
  rw [if_neg named, if_neg (by simpa using fullname_named logname named)]
  rfl

theorem log_init_stream (host : Host) (logname : List Byte) (files : LogFiles) :
    (logInit host logname (fresh files)).stream = none := by
  by_cases named : logname = []
  · rw [logInit, if_pos named]
    rfl
  · rw [log_init_named host logname files named]

theorem log_init_files (host : Host) (logname : List Byte) (files : LogFiles) :
    (logInit host logname (fresh files)).files = files := by
  by_cases named : logname = []
  · rw [logInit, if_pos named]
    rfl
  · rw [log_init_named host logname files named]

def ownName (host : Host) : List Byte := host.exe.take nameSize ++ logSuffix

theorem own_name_named (host : Host) : ownName host ≠ [] :=
  List.append_ne_nil_of_right_ne_nil _ (by decide)

/-- The file the log goes to: the program's own name if none was given. -/
def logTarget (host : Host) (log : Log) : List Byte :=
  if log.logfile = [] then ownName host else log.logfile

theorem open_named (host : Host) (answers : Answers) (log : Log) (named : log.logfile ≠ []) :
    easylogOpenFile host answers log =
      if (openToAppend answers.logfile log).returned = -1 then
        some (openToAppend answers.logfile log)
      else if logFileMaxSize < size (openToAppend answers.logfile log).log.files
          (openToAppend answers.logfile log).log.logfile then
        (moveAway answers (openToAppend answers.logfile log).log).map fun moved =>
          { openToAppend answers.newLogfile ((openToAppend answers.logfile log).log.did moved) with
            calls := (openToAppend answers.logfile log).calls ++ moved ++
              (openToAppend answers.newLogfile
                ((openToAppend answers.logfile log).log.did moved)).calls }
      else some (openToAppend answers.logfile log) := by
  simp only [easylogOpenFile, if_neg named]

theorem open_unnamed (host : Host) (answers : Answers) (log : Log) (unnamed : log.logfile = []) :
    easylogOpenFile host answers log =
      if answers.readlink then easylogOpenFile host answers { log with logfile := ownName host }
      else some ⟨-1, log, []⟩ := by
  unfold easylogOpenFile easylogFile getMyName
  by_cases link : answers.readlink = true
  · simp [unnamed, link, ownName]
  · simp [unnamed, link]

theorem target_named (host : Host) (log : Log) : logTarget host log ≠ [] := by
  unfold logTarget
  split
  · exact own_name_named host
  · next named => exact named

theorem target_of_named (host : Host) (log : Log) (named : log.logfile ≠ []) :
    logTarget host log = log.logfile := if_neg named

/-- Opening gives up for want of a name, or it opens the target of the log. -/
theorem open_cases (host : Host) (answers : Answers) (log : Log) :
    (log.logfile = [] ∧ answers.readlink = false) ∧
        easylogOpenFile host answers log = some ⟨-1, log, []⟩ ∨
      ¬(log.logfile = [] ∧ answers.readlink = false) ∧
        easylogOpenFile host answers log =
          easylogOpenFile host answers { log with logfile := logTarget host log } := by
  by_cases unnamed : log.logfile = []
  · rw [open_unnamed host answers log unnamed, logTarget, if_pos unnamed]
    cases answers.readlink with
    | false => exact Or.inl ⟨⟨unnamed, rfl⟩, rfl⟩
    | true => exact Or.inr ⟨by simp, rfl⟩
  · rw [target_of_named host log unnamed]
    exact Or.inr ⟨by simp [unnamed], rfl⟩

/-- The first line opens the target and goes to its end, unless it is over the limit. -/
theorem first_line (host : Host) (log : Log) (call : LogCall) (loud : ¬call.Filtered)
    (daemon : host.isdaemon = true) (closed : log.stream = none)
    (answers : call.answers = granted)
    (small : size log.files (logTarget host log) ≤ logFileMaxSize) :
      easylogWrite host log call =
        some ((Log.appending { log with logfile := logTarget host log }).did
            [.wrote (logTarget host log) call.line],
          [.opened (logTarget host log) .append, .wrote (logTarget host log) call.line]) := by
  have granting : granted.logfile = true ∧ granted.readlink = true ∧ granted.fstatAgain = true :=
    ⟨rfl, rfl, rfl⟩
  have named := target_named host log
  have opened : easylogOpenFile host granted log =
      some ⟨0, Log.appending { log with logfile := logTarget host log },
        [.opened (logTarget host log) .append]⟩ := by
    rcases open_cases host granted log with ⟨⟨_, refused⟩, _⟩ | ⟨_, targeted⟩
    · rw [granting.2.1] at refused
      cases refused
    · rw [targeted, open_named host granted _ named, granting.1, open_to_append _ named,
        if_neg (show ¬(0 : Int) = -1 by decide), if_neg]
      rw [appending_files, appending_logfile, size_appending]
      exact Nat.not_lt.mpr small
  simp [easylogWrite, loud, easylogWriteLog, ensureOpen, answers, fileStatOk, closed, opened,
    granting.2.2, Log.turned, daemon, printed]

/-! The files change by the calls that are noted, and by nothing else. -/

theorem open_to_append_files (answer : Bool) (log : Log) :
    (openToAppend answer log).log.files =
      after log.files (openToAppend answer log).calls := by
  rcases open_to_append_cases answer log with refused | opened
  · rw [refused]
    rfl
  · rw [opened]
    rfl

theorem open_files (host : Host) (answers : Answers) (log : Log) (outcome : Outcome)
    (ran : easylogOpenFile host answers log = some outcome) :
      outcome.log.files = after log.files outcome.calls := by
  rcases open_cases host answers log with ⟨_, gaveUp⟩ | ⟨_, targeted⟩
  · obtain rfl := Option.some.inj (gaveUp.symm.trans ran)
    rfl
  · have opened := open_to_append_files answers.logfile
      { log with logfile := logTarget host log }
    rw [targeted, open_named host answers _ (target_named host log)] at ran
    split at ran
    · obtain rfl := Option.some.inj ran
      exact opened
    · split at ran
      · obtain ⟨moved, _, rfl⟩ := Option.map_eq_some_iff.mp ran
        dsimp only
        rw [open_to_append_files, did_files, opened, after_append, after_append]
      · obtain rfl := Option.some.inj ran
        exact opened

theorem logw_files (host : Host) (log next : Log) (call : LogCall) (events : List LogEvent)
    (taken : easylogWrite host log call = some (next, events)) :
      next.files = after log.files events := by
  rcases logw_cases taken with ⟨_, rfl, rfl⟩ | ⟨_, opened, opens, rest⟩
  · rfl
  · have before : opened.log.files = after log.files opened.calls := by
      unfold ensureOpen at opens
      split at opens
      · obtain rfl := Option.some.inj opens
        rfl
      · exact open_files host call.answers log opened opens
    rcases rest with ⟨_, rfl, rfl⟩ | ⟨_, rfl, rfl⟩
    · rw [did_files, turned_files, before, after_append]
    · exact before

theorem log_run_leaves (host : Host) (allowed : Log → LogCall → Prop) (initial log : Log)
    (trace : List LogEvent) (run : LogRun host allowed initial trace log) (name : List Byte)
    (apart : ∀ call ∈ trace, name ≠ call.name) : log.files name = initial.files name := by
  have noted := run_invariant (fun trace log => log.files = after initial.files trace) rfl
    (fun trace state call next events earlier _ taken => by
      rw [logw_files host state next call events taken, earlier, after_append]) run
  rw [noted]
  exact after_others initial.files name trace apart

def holding (name old : List Byte) : LogFiles :=
  fun other => if other = name then some old else none

theorem holding_same (name old : List Byte) : holding name old name = some old := if_pos rfl

def daemonHost : Host := ⟨ascii "/usr/bin/gl-rs485", true⟩

end GlRs485.LogFile
