import GlRs485.LogFile

/-!
# What a rotation of the log keeps

Both names are cut to 127 characters, and the backup is emptied before the log
file is read. A name so long that the two are cut to the same is copied onto
itself, and then removed.
-/

namespace GlRs485.LogRotation

open CBytes NamedFiles GlRs485.Configuration LogFile

set_option autoImplicit false

/-- The old content is in another file, and the log file is open and empty. -/
structure Rotated (old : List Byte) (log : Log) : Prop where
  apart : log.logfile1 ≠ log.logfile
  kept : log.files log.logfile1 = some old
  emptied : log.files log.logfile = some []
  opened : log.stream = some (.file log.logfile)

/-- The names are the same exactly when the cut leaves nothing of the suffix. -/
theorem names_same_iff (name : List Byte) :
    (name ++ tmpSuffix).take 127 = name.take 127 ↔ 127 ≤ name.length := by
  have suffix : tmpSuffix.length = 3 := rfl
  constructor
  · intro same
    have lengths := congrArg List.length same
    simp only [List.length_take, List.length_append, suffix] at lengths
    omega
  · intro long
    exact List.take_append_of_le_length long

theorem open_large (host : Host) (log : Log) (old : List Byte) (named : log.logfile ≠ [])
    (present : log.files log.logfile = some old) (large : logFileMaxSize < old.length) :
      easylogOpenFile host granted log =
        (moveAway granted log.appending).map fun moved =>
          ⟨0, (log.appending.did moved).appending, [.opened log.logfile .append] ++ moved ++
            [.opened log.logfile .append]⟩ := by
  have granting : granted.logfile = true ∧ granted.newLogfile = true := ⟨rfl, rfl⟩
  have measured : logFileMaxSize < size log.appending.files log.appending.logfile := by
    rw [appending_files, appending_logfile, size_appending, size, content, present]
    exact large
  rw [open_named host granted log named, granting.1, granting.2, open_to_append log named,
    if_neg (show ¬(0 : Int) = -1 by decide)]
  dsimp only
  rw [if_pos measured]
  congr 1
  funext moved
  rw [open_to_append (log.appending.did moved) named]
  rfl

theorem rotate_large (log : Log) (old : List Byte) (named : log.logfile ≠ [])
    (backup : log.logfile1 ≠ []) (present : log.files log.logfile = some old) :
      ∃ moved, moveAway granted log.appending = some moved ∧
        (log.logfile1 ≠ log.logfile → Rotated old (log.appending.did moved).appending) := by
  have whole : log.appending.files log.appending.logfile = some old := by
    simp [content, present]
  obtain ⟨moved, moves⟩ := (moves_iff granted log.appending).mpr
    ⟨by simp only [opens, whole]; simp [granted, named], by simp [opens, granted, backup]⟩
  refine ⟨moved, moves, ?_⟩
  intro apart
  constructor
  · exact apart
  · have kept := moved_content granted log.appending moved old apart whole moves
    rw [appending_files, apply_other _ _ _ (by exact apart)]
    exact kept
  · have gone := moved_away granted log.appending moved moves
    rw [appending_files, appending_logfile, appending_opens, content]
    rw [did_files, did_logfile, gone]
    rfl
  · rfl

/-- A rotation leaves the old content in another file exactly when the full name
is not empty and not longer than 126 characters. -/
theorem rotation_keeps_iff (host : Host) (logname old : List Byte) (files : LogFiles)
    (present : files (logTarget host (logInit host logname (fresh files))) = some old)
    (large : logFileMaxSize < old.length) :
      (∃ outcome, easylogOpenFile host granted (logInit host logname (fresh files)) =
          some outcome ∧ outcome.returned = 0 ∧ Rotated old outcome.log) ↔
        logname ≠ [] ∧ (logfullname logname).length ≤ 126 := by
  by_cases named : logname = []
  · have log : logInit host logname (fresh files) = fresh files := if_pos named
    rw [log] at present ⊢
    rw [open_unnamed host granted (fresh files) rfl, if_pos (by rfl),
      open_large host _ old (own_name_named host) present large]
    refine iff_of_false ?_ (by simp [named])
    rintro ⟨outcome, ran, _⟩
    obtain ⟨moved, moves, _⟩ := Option.map_eq_some_iff.mp ran
    have backup := ((moves_iff _ _).mp ⟨moved, moves⟩).2
    simp [opens, fresh] at backup
  · rw [log_init_named host logname files named] at present ⊢
    have full := fullname_named logname named
    have first : (logfullname logname).take 127 ≠ [] := by simp [full]
    have second : (logfullname logname ++ tmpSuffix).take 127 ≠ [] := by simp [full]
    rw [logTarget, if_neg first] at present
    obtain ⟨moved, moves, rotates⟩ := rotate_large ⟨_, _, none, files⟩ old first second present
    have same := names_same_iff (logfullname logname)
    rw [open_large host _ old first present large, moves, Option.map_some]
    constructor
    · rintro ⟨outcome, ran, _, rotated⟩
      obtain rfl := Option.some.inj ran
      have apart : ¬(logfullname logname ++ tmpSuffix).take 127 =
          (logfullname logname).take 127 := rotated.apart
      rw [same] at apart
      exact ⟨named, by omega⟩
    · rintro ⟨_, short⟩
      refine ⟨_, rfl, rfl, rotates ?_⟩
      rw [ne_eq, same]
      omega

def overfull : List Byte := List.replicate 512000001 65

theorem overfull_large : logFileMaxSize < overfull.length := by
  rw [overfull, List.length_replicate, logFileMaxSize]
  omega

theorem rotation_keeps_iff_on_default :
    (∃ outcome, easylogOpenFile daemonHost granted (logInit daemonHost (ascii "rs485.log")
        (fresh (holding (ascii "/tmp/log/rs485.log") overfull))) = some outcome ∧
      outcome.returned = 0 ∧ Rotated overfull outcome.log) ↔
        ascii "rs485.log" ≠ [] ∧ (logfullname (ascii "rs485.log")).length ≤ 126 :=
  rotation_keeps_iff daemonHost (ascii "rs485.log") overfull _ (if_pos (by decide +kernel))
    overfull_large

def longName : List Byte := List.replicate 200 97

/-- A name of 200 letters in the log directory: both names are its first 127 characters. -/
theorem long_name_is_not_kept :
    longName.length ≤ 500 ∧ logFileMaxSize < overfull.length ∧
      ∃ files : LogFiles,
        files (logTarget daemonHost (logInit daemonHost longName (fresh files))) = some overfull ∧
          ¬∃ outcome, easylogOpenFile daemonHost granted
              (logInit daemonHost longName (fresh files)) = some outcome ∧
            outcome.returned = 0 ∧ Rotated overfull outcome.log := by
  have long : 127 ≤ (logfullname longName).length := by decide +kernel
  have first : (logfullname longName).take 127 ≠ [] := by decide +kernel
  have named : longName ≠ [] := by decide +kernel
  have present := holding_same ((logfullname longName).take 127) overfull
  refine ⟨by decide +kernel, overfull_large,
    holding ((logfullname longName).take 127) overfull, ?_⟩
  rw [log_init_named daemonHost _ _ named]
  refine ⟨by rw [logTarget, if_neg first]; exact if_pos rfl, ?_⟩
  rintro ⟨outcome, ran, _, rotated⟩
  rw [open_large daemonHost _ overfull first present overfull_large] at ran
  obtain ⟨moved, _, rfl⟩ := Option.map_eq_some_iff.mp ran
  exact rotated.apart ((names_same_iff _).mpr long)

end GlRs485.LogRotation
