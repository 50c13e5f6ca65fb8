import GlRs485.MainProgram
import GlRs485.StoredSettings

/-!
# Everything that runs on one line

Processes started from any command line and calls of the API share the device. Whoever
writes or reads has the lock, except a process that sends a file: `tty_write_file` takes no
lock, so its blocks and the flush of an open are all that can fall into an exchange.
-/

namespace GlRs485.WholeLine

open CBytes SerialLine RegisterApi TerminalApi GlRs485.Configuration LineDiscipline LineSharing
open MainProgram StoredSettings TracedSystem

set_option autoImplicit false

inductive ApiCalls : List LineEvent → Prop
  | read {input : ReadInput} {line : LineAnswers} {result : ApiResult} {calls : List LineEvent}
      (returned : readRs485Data input line = some result) (front : calls <+: result.events) :
      ApiCalls calls
  | write {input : WriteInput} {line : LineAnswers} {result : ApiResult} {calls : List LineEvent}
      (returned : writeRs485Data input line = some result) (front : calls <+: result.events) :
      ApiCalls calls
  | terminal {input : TerminalInput} {around : TerminalSurroundings} {line : LineAnswers}
      {result : ApiResult} {calls : List LineEvent}
      (returned : terminalSendRead input around line = some result)
      (front : calls <+: result.events) : ApiCalls calls
  | command {cmd : List Byte} {line : LineAnswers} {result : ApiResult} {calls : List LineEvent}
      (returned : getRs485DataToGlMqtt cmd line = some result) (front : calls <+: result.events) :
      ApiCalls calls

/-- What a process is: a call of the API, or `main` with a store and arguments. -/
inductive Role
  | api
  | main (uci : UciStore) (arguments : List Argument)

def RoleCalls (longBits : Nat) : Role → List LineEvent → Prop
  | .api => ApiCalls
  | .main uci arguments => ProcessCalls longBits uci arguments

def RoleSendsFile (longBits : Nat) : Role → Prop
  | .api => False
  | .main uci arguments => SendsFile longBits uci arguments

theorem api_calls_disciplined {calls : List LineEvent} (made : ApiCalls calls) :
    Disciplined calls := by
  cases made with
  | read returned front => exact (read_call_disciplined returned).front front
  | write returned front => exact (write_call_disciplined returned).front front
  | terminal returned front => exact (terminal_call_disciplined returned).front front
  | command returned front => exact (mqtt_call_disciplined returned).front front

variable {Process : Type*}

def usesUnlocked (device : Device Process) (process : Process) : LineEvent → Prop
  | .sent fd _ _ => device.ports process fd ≠ none ∧ device.holder ≠ device.ports process fd
  | .received fd _ => device.ports process fd ≠ none ∧ device.holder ≠ device.ports process fd
  | _ => False

/-- Whoever touches the line flushes or uses it without the lock, or has the lock. -/
theorem touches_cases {device : Device Process} {process : Process} {call : LineEvent}
    (touches : device.touches process call) :
      device.flushesUnlocked process call ∨ usesUnlocked device process call ∨
        ∃ fd, device.holds process fd := by
  have either : ∀ fd, device.ports process fd ≠ none → device.holds process fd ∨
      device.ports process fd ≠ none ∧ device.holder ≠ device.ports process fd := by
    intro fd port
    by_cases held : device.holder = device.ports process fd
    · exact Or.inl ⟨port, held⟩
    · exact Or.inr ⟨port, held⟩
  cases call with
  | opened fd => exact Or.inl trivial
  | flushed fd =>
      rcases either fd touches with held | unlocked
      · exact Or.inr (Or.inr ⟨fd, held⟩)
      · exact Or.inl unlocked
  | sent fd data accepted =>
      rcases either fd touches with held | unlocked
      · exact Or.inr (Or.inr ⟨fd, held⟩)
      · exact Or.inr (Or.inl unlocked)
  | received fd result =>
      rcases either fd touches with held | unlocked
      · exact Or.inr (Or.inr ⟨fd, held⟩)
      · exact Or.inr (Or.inl unlocked)
  | locked fd obtained => exact touches.elim
  | closed fd => exact touches.elim

variable [DecidableEq Process]

/-- An interleaving of processes with their roles, each to its end or until it is ended. -/
structure Shared (longBits : Nat) (role : Process → Role) (trace : List (Process × LineEvent)) :
    Prop where
  programs : ∀ process, Lifetime (RoleCalls longBits (role process)) (callsOf process trace)
  granted : Judged (fun before call => (deviceAfter before).grants call.1 call.2) trace

/-- A write made without the lock falls into nobody else's exchange. -/
def BlocksBetween (before : List (Process × LineEvent)) (call : Process × LineEvent) : Prop :=
  usesUnlocked (deviceAfter before) call.1 call.2 →
    ∀ other, other ≠ call.1 → ¬Exchanging before other

/-- What is used without the lock is a block of a file. -/
def OnlyFiles (longBits : Nat) (role : Process → Role) (before : List (Process × LineEvent))
    (call : Process × LineEvent) : Prop :=
  usesUnlocked (deviceAfter before) call.1 call.2 →
    RoleSendsFile longBits (role call.1) ∧ ∃ fd data accepted, call.2 = .sent fd data accepted

/-- Exchanges are held under a lock that one process has at a time. -/
theorem undisturbed_iff {trace : List (Process × LineEvent)}
    (granted : Judged (fun before call => (deviceAfter before).grants call.1 call.2) trace) :
      Judged Undisturbed trace ↔ Judged FlushesBetween trace ∧ Judged BlocksBetween trace := by
  constructor
  · intro undisturbed
    constructor
    · intro before call after split flushes
      apply undisturbed before call after split
      obtain ⟨process, event⟩ := call
      cases event with
      | opened fd => trivial
      | flushed fd => exact flushes.1
      | _ => exact flushes.elim
    · intro before call after split uses
      apply undisturbed before call after split
      obtain ⟨process, event⟩ := call
      cases event with
      | sent fd data accepted => exact uses.1
      | received fd result => exact uses.1
      | _ => exact uses.elim
  · rintro ⟨flushes, blocks⟩ before call after split touches other apart exchanging
    rcases touches_cases touches with flush | use | ⟨fd, mine⟩
    · exact flushes before call after split flush other apart exchanging
    · exact blocks before call after split use other apart exchanging
    · obtain ⟨number, _, theirs⟩ := exchanging
      exact apart (held_by_one (judged_front (split ▸ granted)) theirs mine)

theorem disciplined_uses_locked {trace : List (Process × LineEvent)} {process : Process}
    {call : LineEvent}
    (granted : Judged (fun before call => (deviceAfter before).grants call.1 call.2) trace)
    (own : Disciplined (callsOf process (trace ++ [(process, call)]))) :
      ¬usesUnlocked (deviceAfter trace) process call := by
  have agrees := trace_agrees trace granted
  have rule := own.underLock
  rw [callsOf_snoc, if_pos rfl] at rule
  have lock := judged_last rule
  have held : ∀ fd, (deviceAfter trace).ports process fd ≠ none →
      tenureOf fd (callsOf process trace) ≠ .unlocked → (deviceAfter trace).holds process fd := by
    intro fd port unlocked
    apply agrees.locked process fd
    cases tenure : tenuresIn trace process fd with
    | closed => exact absurd ((agrees.closed process fd).mp tenure) port
    | unlocked => exact absurd tenure unlocked
    | locked => rfl
  intro uses
  cases call with
  | sent fd data accepted => exact uses.2 (held fd uses.1 lock).2
  | received fd result => exact uses.2 (held fd uses.1 lock).2
  | _ => exact uses

theorem opened_of_tenure {fd : Int} {calls : List LineEvent}
    (opened : tenureOf fd calls ≠ .closed) : .opened fd ∈ calls := by
  induction calls using List.reverseRecOn with
  | nil => exact absurd rfl opened
  | append_singleton calls call ih =>
      rw [tenureOf_snoc] at opened
      rw [List.mem_append, List.mem_singleton]
      cases call with
      | opened port =>
          by_cases same : port = fd
          · exact Or.inr (by rw [same])
          · exact Or.inl (ih (by simpa [noteTenure, same] using opened))
      | locked port obtained =>
          refine Or.inl (ih fun closed => opened ?_)
          cases obtained <;> simp [noteTenure, closed]
      | closed port =>
          refine Or.inl (ih fun closed => opened ?_)
          simp [noteTenure, closed]
      | _ => exact Or.inl (ih opened)

theorem lifetime_calls_disciplined {longBits : Nat} {uci : UciStore} {arguments : List Argument}
    {calls : List LineEvent} (lifetime : Lifetime (ProcessCalls longBits uci arguments) calls) :
      Disciplined calls ∨ SendsFile longBits uci arguments ∧ ∃ fd, ∀ call ∈ calls,
        TransferCall fd call := by
  obtain ⟨made, opened⟩ := lifetime
  obtain own | ⟨sends, fd, kinds⟩ := process_calls_disciplined made
  · exact Or.inl (lifetime_disciplined id (.intro own opened))
  · refine Or.inr ⟨sends, fd, fun call member => ?_⟩
    rcases List.mem_append.mp member with early | late
    · exact kinds call early
    · obtain ⟨port, left, rfl⟩ := List.mem_map.mp late
      exact (kinds _ (opened_of_tenure (opened port left))).1

theorem unlocked_uses_send_files {longBits : Nat} {role : Process → Role}
    {before after : List (Process × LineEvent)} {call : Process × LineEvent}
    (shared : Shared longBits role (before ++ call :: after)) :
      OnlyFiles longBits role before call := by
  obtain ⟨process, event⟩ := call
  have granted := judged_front shared.granted
  have begins : callsOf process (before ++ [(process, event)]) <+:
      callsOf process (before ++ (process, event) :: after) := by
    have front : before ++ [(process, event)] <+: before ++ (process, event) :: after :=
      ⟨after, by simp⟩
    exact (front.filter _).map _
  have lifetime := shared.programs process
  have member : event ∈ callsOf process (before ++ (process, event) :: after) := by simp [callsOf]
  intro uses
  have undisciplined : ¬Disciplined (callsOf process (before ++ (process, event) :: after)) :=
    fun own => disciplined_uses_locked granted (own.front begins) uses
  cases run : role process with
  | api =>
      rw [run] at lifetime
      exact absurd (lifetime_disciplined api_calls_disciplined lifetime) undisciplined
  | main uci arguments =>
      rw [run] at lifetime
      obtain transfer | ⟨sends, fd, kinds⟩ := lifetime_calls_disciplined lifetime
      · exact absurd transfer undisciplined
      · have kind := kinds event member
        refine ⟨sends, ?_⟩
        cases event with
        | sent fd data accepted => exact ⟨fd, data, accepted, rfl⟩
        | received fd result => exact kind.elim
        | _ => exact uses.elim

/-- In any interleaving of API calls and processes with any arguments, the exchanges are
undisturbed exactly when neither a flush nor a write made without the lock falls into one,
and what is written without the lock is a block of a file that a process sends. -/
theorem exchanges_undisturbed_iff {longBits : Nat} {role : Process → Role}
    {trace : List (Process × LineEvent)} (shared : Shared longBits role trace) :
      (Judged Undisturbed trace ↔ Judged FlushesBetween trace ∧ Judged BlocksBetween trace) ∧
        Judged (OnlyFiles longBits role) trace := by
  refine ⟨undisturbed_iff shared.granted, ?_⟩
  intro before call after split
  exact unlocked_uses_send_files (split ▸ shared)

def sendsFirmware : List Argument := [.F ⟨ascii "fw.bin", by decide⟩]

def firmwareCalls : List LineEvent := [.opened 3, .sent 3 [1, 2, 3] [1, 2, 3], .closed 3]

/-- The file is sent while a call of the API waits for its answer. -/
def fileDuringExchange {Process : Type} (caller sender : Process) : List (Process × LineEvent) :=
  (firmwareCalls.take 1).map ((sender, ·)) ++ ((readCalls 0).take 4).map ((caller, ·)) ++
    (firmwareCalls.drop 1).map ((sender, ·)) ++ ((readCalls 0).drop 4).map ((caller, ·))

def apiAndFirmware : Fin 2 → Role :=
  Fin.cases .api fun _ => .main documentedStore sendsFirmware

theorem firmware_calls_process : ProcessCalls 64 documentedStore sendsFirmware firmwareCalls := by
  have init : cfgInit documentedStore zeroed = _ := if_pos (by decide +kernel)
  have written : transferCalls (some [1, 2, 3]) 3 [.accepted 3] = some firmwareCalls := by
    decide +kernel
  refine .file (show mainDuty 64 documentedStore sendsFirmware = some (.file _ (ascii "fw.bin")) by
    rw [mainDuty, init]
    rfl) written (List.prefix_refl _)

theorem file_during_exchange_shared : Shared 64 apiAndFirmware (fileDuringExchange 0 1) := by
  have first : callsOf (0 : Fin 2) (fileDuringExchange 0 1) = readCalls 0 := by decide +kernel
  have second : callsOf (1 : Fin 2) (fileDuringExchange 0 1) = firmwareCalls := by decide +kernel
  constructor
  · intro process
    match process with
    | 0 =>
        have returns : (readRs485Data readOne (answersAfter 0)).isSome = true := by decide +kernel
        obtain ⟨result, returned⟩ := Option.isSome_iff_exists.mp returns
        have calls : readCalls 0 = result.events := by rw [readCalls, returned]; rfl
        rw [first, calls]
        exact .running (ApiCalls.read returned (List.prefix_refl _))
    | 1 =>
        rw [second]
        exact .running firmware_calls_process
  · exact judged_of_positions (by decide +kernel)

theorem exchanges_undisturbed_iff_with_file :
    Judged FlushesBetween (fileDuringExchange (0 : Fin 2) 1) ∧
      ¬Judged Undisturbed (fileDuringExchange (0 : Fin 2) 1) := by
  have settled := exchanges_undisturbed_iff file_during_exchange_shared
  have flushes : Judged FlushesBetween (fileDuringExchange (0 : Fin 2) 1) :=
    judged_of_positions (by unfold FlushesBetween; decide +kernel)
  refine ⟨flushes, fun undisturbed => ?_⟩
  have blocks := (settled.1.mp undisturbed).2
  have alone := blocks ((firmwareCalls.take 1).map ((1, ·)) ++
    ((readCalls 0).take 4).map ((0, ·))) (1, .sent 3 [1, 2, 3] [1, 2, 3]) _ rfl
    ⟨by decide +kernel, by decide +kernel⟩ 0 (by decide)
  exact absurd (show Exchanging ((firmwareCalls.take 1).map ((1, ·)) ++
    ((readCalls 0).take 4).map ((0, ·))) (0 : Fin 2) by decide +kernel) alone

end GlRs485.WholeLine
