import GlRs485.LineDiscipline
import Mathlib.Data.Fintype.Basic

/-!
# Processes that share the line

The daemons and the calls of the API open the device each for itself, so each
has an open file description of its own, and `flock` keeps the descriptions
apart. A process that ends gives back its ports and its lock. While a process is
between its write and the end of its reads, nobody else writes or reads. The
flushes made without the lock, at the end of every `uartOpen` and at the start of
a request of `conn_loop`, are kept apart by nothing.
-/

namespace GlRs485.LineSharing

open CBytes ConnectionQueue BridgeSettings SerialLine RegisterApi TerminalApi SocketBridge
open LineDiscipline TracedSystem

set_option autoImplicit false

/-- The calls a process that runs one of the programs has made so far. -/
inductive Program : List LineEvent → Prop
  | socketDaemon {longBits : Nat} {initial s : State} {trace : List Event}
      {calls : List LineEvent} (started : Started initial)
      (run : Run (step longBits) Admissible initial trace s)
      (front : calls <+: .opened initial.tty.fd :: socketCalls trace) : Program calls
  | mqttDaemon {cfg : Cfg} {trace : List MqttBridge.Event} {s : MqttBridge.State}
      {calls : List LineEvent}
      (run : Run MqttBridge.step (fun _ _ => True) (MqttBridge.initialState cfg) trace s)
      (front : calls <+: mqttCalls trace) : Program calls
  | readCall {input : ReadInput} {line : LineAnswers} {result : ApiResult}
      {calls : List LineEvent} (returned : readRs485Data input line = some result)
      (front : calls <+: result.events) : Program calls
  | writeCall {input : WriteInput} {line : LineAnswers} {result : ApiResult}
      {calls : List LineEvent} (returned : writeRs485Data input line = some result)
      (front : calls <+: result.events) : Program calls
  | terminalCall {input : TerminalInput} {around : TerminalSurroundings} {line : LineAnswers}
      {result : ApiResult} {calls : List LineEvent}
      (returned : terminalSendRead input around line = some result)
      (front : calls <+: result.events) : Program calls
  | mqttCall {cmd : List Byte} {line : LineAnswers} {result : ApiResult}
      {calls : List LineEvent} (returned : getRs485DataToGlMqtt cmd line = some result)
      (front : calls <+: result.events) : Program calls

theorem program_front {calls front : List LineEvent} (program : Program calls)
    (begins : front <+: calls) : Program front := by
  cases program with
  | socketDaemon started run front => exact .socketDaemon started run (begins.trans front)
  | mqttDaemon run front => exact .mqttDaemon run (begins.trans front)
  | readCall returned front => exact .readCall returned (begins.trans front)
  | writeCall returned front => exact .writeCall returned (begins.trans front)
  | terminalCall returned front => exact .terminalCall returned (begins.trans front)
  | mqttCall returned front => exact .mqttCall returned (begins.trans front)

theorem program_disciplined {calls : List LineEvent} (program : Program calls) :
    Disciplined calls := by
  cases program with
  | socketDaemon started run front => exact (socket_daemon_disciplined started run).front front
  | mqttDaemon run front => exact (mqtt_daemon_disciplined run).front front
  | readCall returned front => exact (read_call_disciplined returned).front front
  | writeCall returned front => exact (write_call_disciplined returned).front front
  | terminalCall returned front => exact (terminal_call_disciplined returned).front front
  | mqttCall returned front => exact (mqtt_call_disciplined returned).front front

/-- The calls of a process and, when it has ended, the ports it had left open being closed. -/
inductive Lifetime (made : List LineEvent → Prop) : List LineEvent → Prop
  | intro {calls : List LineEvent} {left : List Int} (program : made calls)
      (opened : ∀ fd ∈ left, tenureOf fd calls ≠ .closed) :
      Lifetime made (calls ++ left.map .closed)

theorem Lifetime.running {made : List LineEvent → Prop} {calls : List LineEvent}
    (program : made calls) : Lifetime made calls := by
  have whole : Lifetime made (calls ++ List.map .closed []) := .intro program (by simp)
  rwa [List.map_nil, List.append_nil] at whole

theorem lifetime_front {made : List LineEvent → Prop}
    (begun : ∀ {calls front : List LineEvent}, made calls → front <+: calls → made front)
    {calls front : List LineEvent} (lifetime : Lifetime made calls) (begins : front <+: calls) :
      Lifetime made front := by
  obtain ⟨program, opened⟩ := lifetime
  rcases List.prefix_or_prefix_of_prefix begins (List.prefix_append _ _) with early | late
  · exact .running (begun program early)
  · obtain ⟨closings, rfl⟩ := late
    obtain ⟨rest, split⟩ := (List.prefix_append_right_inj _).mp begins
    obtain ⟨first, second, rfl, rfl, _⟩ := List.map_eq_append_iff.mp split.symm
    exact .intro program fun fd member => opened fd (List.mem_append_left _ member)

theorem lifetime_disciplined {made : List LineEvent → Prop}
    (disciplined : ∀ {calls : List LineEvent}, made calls → Disciplined calls)
    {calls : List LineEvent} (lifetime : Lifetime made calls) : Disciplined calls := by
  obtain @⟨body, left, program, opened⟩ := lifetime
  have held := disciplined program
  clear program opened
  induction left generalizing body with
  | nil => rwa [List.map_nil, List.append_nil]
  | cons fd left ih =>
      rw [List.map_cons, List.append_cons]
      exact ih (held.closes fd)

variable {Process : Type*} [DecidableEq Process]

/-- The device: who has which open file description of it, and which one has the lock. -/
structure Device (Process : Type*) where
  ports : Process → Int → Option Nat
  openings : Nat
  holder : Option Nat

namespace Device

def unopened : Device Process := ⟨fun _ _ => none, 0, none⟩

def setPort (device : Device Process) (process : Process) (fd : Int) (port : Option Nat) :
    Process → Int → Option Nat :=
  fun other number => if other = process ∧ number = fd then port else device.ports other number

/-- `flock` succeeds on an open port when no other description has the lock. A
number that is no port may be anything else. -/
def grants (device : Device Process) (process : Process) : LineEvent → Prop
  | .opened fd => device.ports process fd = none
  | .locked fd true =>
      device.ports process fd = none ∨ device.holder = none ∨
        device.holder = device.ports process fd
  | _ => True

def apply (device : Device Process) (process : Process) : LineEvent → Device Process
  | .opened fd =>
      { ports := device.setPort process fd (some device.openings)
        openings := device.openings + 1
        holder := device.holder }
  | .locked fd true =>
      if device.ports process fd = none then device
      else { device with holder := device.ports process fd }
  | .closed fd =>
      { device with
        ports := device.setPort process fd none
        holder := if device.ports process fd = device.holder then none else device.holder }
  | _ => device

def holds (device : Device Process) (process : Process) (fd : Int) : Prop :=
  device.ports process fd ≠ none ∧ device.holder = device.ports process fd

/-- Calls that flush the queues of the line, write to it or read from it. Opening
ends with a flush. -/
def touches (device : Device Process) (process : Process) : LineEvent → Prop
  | .opened _ => True
  | .flushed fd => device.ports process fd ≠ none
  | .sent fd _ _ => device.ports process fd ≠ none
  | .received fd _ => device.ports process fd ≠ none
  | _ => False

def flushesUnlocked (device : Device Process) (process : Process) : LineEvent → Prop
  | .opened _ => True
  | .flushed fd => device.ports process fd ≠ none ∧ device.holder ≠ device.ports process fd
  | _ => False

end Device

def deviceAfter (trace : List (Process × LineEvent)) : Device Process :=
  trace.foldl (fun device call => device.apply call.1 call.2) Device.unopened

def callsOf (process : Process) (trace : List (Process × LineEvent)) : List LineEvent :=
  (trace.filter fun call => call.1 = process).map Prod.snd

/-- An interleaving of processes, each running one of the programs on the device to its end or
until it is ended. -/
structure Interleaved (trace : List (Process × LineEvent)) : Prop where
  programs : ∀ process, Lifetime Program (callsOf process trace)
  granted : Judged (fun before call => (deviceAfter before).grants call.1 call.2) trace

/-- How far a process is with an exchange: `writing` from its own flush on, as
`sent` stands for all `write` calls of one transmission, `reading` until a read
gives something else than eight bytes. -/
inductive Stage
  | idle
  | locked (fd : Int)
  | writing (fd : Int)
  | reading (fd : Int)
  deriving DecidableEq

def noteStage (stage : Stage) : LineEvent → Stage
  | .locked fd true => .locked fd
  | .flushed fd => if stage = .locked fd then .writing fd else .idle
  | .sent fd _ _ => if stage = .writing fd then .reading fd else .idle
  | .received fd (.data bytes) =>
      if stage = .reading fd ∧ bytes.length = 8 then .reading fd else .idle
  | _ => .idle

def Stage.exchangeFd : Stage → Option Int
  | .writing fd => some fd
  | .reading fd => some fd
  | _ => none

/-- The process holds the lock between its write and the end of its reads. -/
def Exchanging (trace : List (Process × LineEvent)) (process : Process) : Prop :=
  ∃ fd ∈ ((callsOf process trace).foldl noteStage .idle).exchangeFd,
    (deviceAfter trace).holds process fd

/-- A call that touches the line falls into nobody else's exchange. -/
def Undisturbed (before : List (Process × LineEvent)) (call : Process × LineEvent) : Prop :=
  (deviceAfter before).touches call.1 call.2 →
    ∀ other, other ≠ call.1 → ¬Exchanging before other

/-- A flush made without the lock falls into nobody else's exchange. -/
def FlushesBetween (before : List (Process × LineEvent)) (call : Process × LineEvent) : Prop :=
  (deviceAfter before).flushesUnlocked call.1 call.2 →
    ∀ other, other ≠ call.1 → ¬Exchanging before other

theorem deviceAfter_snoc (trace : List (Process × LineEvent)) (call : Process × LineEvent) :
    deviceAfter (trace ++ [call]) = (deviceAfter trace).apply call.1 call.2 := by
  rw [deviceAfter, List.foldl_append]
  rfl

theorem callsOf_snoc (process : Process) (trace : List (Process × LineEvent))
    (call : Process × LineEvent) :
      callsOf process (trace ++ [call]) =
        callsOf process trace ++ if call.1 = process then [call.2] else [] := by
  rw [callsOf, List.filter_append, List.map_append, callsOf]
  by_cases own : call.1 = process
  · simp [own]
  · simp [own]

/-- The device agrees with what each process did on its own. -/
structure Agrees (device : Device Process) (tenure : Process → Int → Tenure) : Prop where
  closed : ∀ process fd, tenure process fd = .closed ↔ device.ports process fd = none
  locked : ∀ process fd, tenure process fd = .locked → device.holds process fd
  earlier : ∀ process fd description, device.ports process fd = some description →
    description < device.openings
  apart : ∀ process fd other number, device.ports process fd ≠ none →
    device.ports process fd = device.ports other number → process = other ∧ fd = number

def tenuresIn (trace : List (Process × LineEvent)) (process : Process) (fd : Int) : Tenure :=
  tenureOf fd (callsOf process trace)

theorem tenuresIn_snoc (trace : List (Process × LineEvent)) (call : Process × LineEvent)
    (process : Process) (fd : Int) :
      tenuresIn (trace ++ [call]) process fd =
        if call.1 = process then noteTenure fd (tenuresIn trace process fd) call.2
        else tenuresIn trace process fd := by
  rw [tenuresIn, callsOf_snoc]
  split
  · exact tenureOf_snoc fd _ _
  · rw [List.append_nil]
    rfl

theorem Device.setPort_same (device : Device Process) (process : Process) (fd : Int)
    (port : Option Nat) : device.setPort process fd port process fd = port :=
  if_pos ⟨rfl, rfl⟩

theorem Device.setPort_other (device : Device Process) (process other : Process) (fd number : Int)
    (port : Option Nat) (elsewhere : ¬(other = process ∧ number = fd)) :
      device.setPort process fd port other number = device.ports other number :=
  if_neg elsewhere

def noteCall (tenure : Process → Int → Tenure) (process : Process) (call : LineEvent) :
    Process → Int → Tenure :=
  fun other fd => if process = other then noteTenure fd (tenure other fd) call else tenure other fd

theorem noteCall_elsewhere (tenure : Process → Int → Tenure) (process other : Process)
    (fd number : Int) (call : LineEvent) (on : ServingVisits.lineFd call = fd)
    (elsewhere : ¬(other = process ∧ number = fd)) :
      noteCall tenure process call other number = tenure other number := by
  by_cases own : process = other
  · have apart : ¬fd = number := fun same => elsewhere ⟨own.symm, same.symm⟩
    subst on
    rw [noteCall, if_pos own]
    cases call with
    | locked tried obtained =>
        cases obtained
        · rfl
        · exact if_neg fun both => apart both.1
    | opened tried => exact if_neg apart
    | closed tried => exact if_neg apart
    | _ => rfl
  · exact if_neg own

theorem set_port_closed {device : Device Process} {tenure tenure' : Process → Int → Tenure}
    (agrees : Agrees device tenure) {process : Process} {fd : Int} {port : Option Nat}
    (own : tenure' process fd = .closed ↔ port = none)
    (same : ∀ other number, ¬(other = process ∧ number = fd) →
      tenure' other number = tenure other number) (other : Process) (number : Int) :
      tenure' other number = .closed ↔ device.setPort process fd port other number = none := by
  by_cases here : other = process ∧ number = fd
  · obtain ⟨rfl, rfl⟩ := here
    rw [own, Device.setPort_same]
  · rw [same other number here, agrees.closed, Device.setPort_other _ _ _ _ _ _ here]

theorem set_port_apart {device : Device Process} {tenure : Process → Int → Tenure}
    (agrees : Agrees device tenure) {process : Process} {fd : Int} {port : Option Nat}
    (fresh : port ≠ none → ∀ other number, device.ports other number ≠ port)
    (first : Process) (number : Int) (second : Process) (digit : Int)
    (taken : device.setPort process fd port first number ≠ none)
    (equal : device.setPort process fd port first number =
      device.setPort process fd port second digit) : first = second ∧ number = digit := by
  by_cases left : first = process ∧ number = fd
  · rw [left.1, left.2, Device.setPort_same] at taken equal
    by_cases right : second = process ∧ digit = fd
    · exact ⟨left.1.trans right.1.symm, left.2.trans right.2.symm⟩
    · rw [Device.setPort_other _ _ _ _ _ _ right] at equal
      exact absurd equal.symm (fresh taken second digit)
  · rw [Device.setPort_other _ _ _ _ _ _ left] at taken equal
    by_cases right : second = process ∧ digit = fd
    · rw [right.1, right.2, Device.setPort_same] at equal
      exact absurd equal (fresh (equal ▸ taken) first number)
    · rw [Device.setPort_other _ _ _ _ _ _ right] at equal
      exact agrees.apart first number second digit taken equal

theorem agrees_opened {device : Device Process} {tenure : Process → Int → Tenure}
    {process : Process} {fd : Int} (agrees : Agrees device tenure)
    (free : device.ports process fd = none) :
      Agrees (device.apply process (.opened fd)) (noteCall tenure process (.opened fd)) := by
  have kept := fun other number elsewhere =>
    device.setPort_other process other fd number (some device.openings) elsewhere
  have same := fun other number elsewhere =>
    noteCall_elsewhere tenure process other fd number (.opened fd) rfl elsewhere
  have opened : noteCall tenure process (.opened fd) process fd = .unlocked := by
    simp [noteCall, noteTenure]
  have fresh : ∀ other number, device.ports other number ≠ some device.openings := by
    intro other number taken
    have below := agrees.earlier other number _ taken
    omega
  constructor
  · exact set_port_closed agrees (by simp [opened]) same
  · intro other number lock
    by_cases here : other = process ∧ number = fd
    · obtain ⟨rfl, rfl⟩ := here
      simp [opened] at lock
    · rw [same other number here] at lock
      have holds := agrees.locked other number lock
      simpa only [Device.holds, Device.apply, kept other number here] using holds
  · intro other number description port
    by_cases here : other = process ∧ number = fd
    · obtain ⟨rfl, rfl⟩ := here
      simp only [Device.apply, Device.setPort_same, Option.some.injEq] at port ⊢
      omega
    · simp only [Device.apply, kept other number here] at port ⊢
      have below := agrees.earlier other number description port
      omega
  · exact set_port_apart agrees fun _ => fresh

theorem agrees_closed {device : Device Process} {tenure : Process → Int → Tenure}
    {process : Process} {fd : Int} (agrees : Agrees device tenure) :
      Agrees (device.apply process (.closed fd)) (noteCall tenure process (.closed fd)) := by
  have kept := fun other number elsewhere =>
    device.setPort_other process other fd number none elsewhere
  have same := fun other number elsewhere =>
    noteCall_elsewhere tenure process other fd number (.closed fd) rfl elsewhere
  have closed : noteCall tenure process (.closed fd) process fd = .closed := by
    simp [noteCall, noteTenure]
  constructor
  · exact set_port_closed agrees (by simp [closed]) same
  · intro other number lock
    by_cases here : other = process ∧ number = fd
    · obtain ⟨rfl, rfl⟩ := here
      simp [closed] at lock
    · rw [same other number here] at lock
      obtain ⟨port, holder⟩ := agrees.locked other number lock
      have notMine : ¬device.ports process fd = device.holder := by
        intro mine
        have again := agrees.apart other number process fd port (holder.symm.trans mine.symm)
        exact here again
      simp only [Device.holds, Device.apply, kept other number here, if_neg notMine]
      exact ⟨port, holder⟩
  · intro other number description port
    by_cases here : other = process ∧ number = fd
    · obtain ⟨rfl, rfl⟩ := here
      simp [Device.apply, Device.setPort_same] at port
    · simp only [Device.apply, kept other number here] at port
      exact agrees.earlier other number description port
  · exact set_port_apart agrees fun taken => absurd rfl taken

/-- A lock is given only to the description that has it, so nobody else loses it. -/
theorem lock_kept {device : Device Process} {tenure : Process → Int → Tenure}
    {process other : Process} {fd number : Int} (agrees : Agrees device tenure)
    (granted : device.grants process (.locked fd true))
    (elsewhere : ¬(other = process ∧ number = fd)) (lock : tenure other number = .locked) :
      (device.apply process (.locked fd true)).holds other number := by
  obtain ⟨port, holder⟩ := agrees.locked other number lock
  by_cases free : device.ports process fd = none
  · simp only [Device.apply, if_pos free]
    exact ⟨port, holder⟩
  · rcases granted with none | unheld | again
    · exact absurd none free
    · exact absurd (holder.symm.trans unheld) port
    · have equal := agrees.apart other number process fd port (holder.symm.trans again)
      exact absurd equal elsewhere

theorem agrees_locked {device : Device Process} {tenure : Process → Int → Tenure}
    {process : Process} {fd : Int} (agrees : Agrees device tenure)
    (granted : device.grants process (.locked fd true)) :
      Agrees (device.apply process (.locked fd true))
        (noteCall tenure process (.locked fd true)) := by
  have same := fun other number elsewhere =>
    noteCall_elsewhere tenure process other fd number (.locked fd true) rfl elsewhere
  have here : noteCall tenure process (.locked fd true) process fd =
      if tenure process fd = .closed then .closed else .locked := by
    by_cases closed : tenure process fd = .closed
    · simp [noteCall, noteTenure, closed]
    · simp [noteCall, noteTenure, closed]
  have ports : (device.apply process (.locked fd true)).ports = device.ports := by
    simp only [Device.apply]
    split <;> rfl
  have openings : (device.apply process (.locked fd true)).openings = device.openings := by
    simp only [Device.apply]
    split <;> rfl
  constructor
  · intro other number
    rw [ports, ← agrees.closed]
    by_cases mine : other = process ∧ number = fd
    · obtain ⟨rfl, rfl⟩ := mine
      rw [here]
      split
      · next closed => simp [closed]
      · next closed => simp [closed]
    · rw [same other number mine]
  · intro other number lock
    by_cases mine : other = process ∧ number = fd
    · obtain ⟨rfl, rfl⟩ := mine
      rw [here] at lock
      have port : device.ports other number ≠ none := by
        rw [Ne, ← agrees.closed]
        intro closed
        simp [closed] at lock
      simp only [Device.holds, Device.apply, if_neg port]
      exact ⟨port, trivial⟩
    · rw [same other number mine] at lock
      exact lock_kept agrees granted mine lock
  · intro other number description port
    rw [ports] at port
    rw [openings]
    exact agrees.earlier other number description port
  · intro first number second digit port equal
    rw [ports] at port equal
    exact agrees.apart first number second digit port equal

/-- The step lemma. -/
theorem agrees_step {device : Device Process} {tenure : Process → Int → Tenure}
    {process : Process} {call : LineEvent} (agrees : Agrees device tenure)
    (granted : device.grants process call) :
      Agrees (device.apply process call) (noteCall tenure process call) := by
  cases call with
  | opened fd => exact agrees_opened agrees granted
  | closed fd => exact agrees_closed agrees
  | locked fd obtained =>
      cases obtained with
      | true => exact agrees_locked agrees granted
      | false =>
          have same : noteCall tenure process (.locked fd false) = tenure := by
            funext other number
            exact ite_self _
          rw [same]
          exact agrees
  | _ =>
      have same : ∀ silent, (∀ fd noted, noteTenure fd noted silent = noted) →
          noteCall tenure process silent = tenure := by
        intro silent unnoted
        funext other number
        simp [noteCall, unnoted]
      rw [same _ fun _ _ => rfl]
      exact agrees

theorem trace_agrees (trace : List (Process × LineEvent))
    (granted : Judged (fun before call => (deviceAfter before).grants call.1 call.2) trace) :
      Agrees (deviceAfter trace) (tenuresIn trace) := by
  induction trace using List.reverseRecOn with
  | nil =>
      constructor
      · intro process fd
        exact ⟨fun _ => rfl, fun _ => rfl⟩
      · intro process fd lock
        simp [tenuresIn, callsOf, tenureOf] at lock
      · intro process fd description port
        simp [deviceAfter, Device.unopened] at port
      · intro process fd other number port
        exact absurd rfl port
  | append_singleton trace call ih =>
      have before := ih (judged_front granted)
      have noted : tenuresIn (trace ++ [call]) = noteCall (tenuresIn trace) call.1 call.2 := by
        funext process fd
        exact tenuresIn_snoc trace call process fd
      rw [deviceAfter_snoc, noted]
      exact agrees_step before (judged_last granted)

/-- A call on the line that is no bare flush is made by whoever has the lock. -/
theorem touching_holds {trace : List (Process × LineEvent)} {process : Process} {call : LineEvent}
    (interleaved : Interleaved (trace ++ [(process, call)]))
    (touches : (deviceAfter trace).touches process call)
    (guarded : ¬(deviceAfter trace).flushesUnlocked process call) :
      ∃ fd, (deviceAfter trace).holds process fd := by
  have agrees := trace_agrees trace (judged_front interleaved.granted)
  have own := (lifetime_disciplined program_disciplined (interleaved.programs process)).underLock
  rw [callsOf_snoc, if_pos rfl] at own
  have lock := judged_last own
  have tenured : ∀ fd, (deviceAfter trace).ports process fd ≠ none →
      tenureOf fd (callsOf process trace) ≠ .unlocked → (deviceAfter trace).holds process fd := by
    intro fd port held
    apply agrees.locked process fd
    have opened : tenuresIn trace process fd ≠ .closed := fun closed =>
      port ((agrees.closed process fd).mp closed)
    cases tenure : tenuresIn trace process fd with
    | closed => exact absurd tenure opened
    | unlocked => exact absurd tenure held
    | locked => rfl
  cases call with
  | opened fd => exact absurd trivial guarded
  | flushed fd =>
      refine ⟨fd, touches, ?_⟩
      by_contra other
      exact guarded ⟨touches, other⟩
  | sent fd offered accepted => exact ⟨fd, tenured fd touches lock⟩
  | received fd result => exact ⟨fd, tenured fd touches lock⟩
  | locked fd obtained => exact touches.elim
  | closed fd => exact touches.elim

theorem held_by_one {trace : List (Process × LineEvent)} {first second : Process} {fd number : Int}
    (granted : Judged (fun before call => (deviceAfter before).grants call.1 call.2) trace)
    (left : (deviceAfter trace).holds first fd) (right : (deviceAfter trace).holds second number) :
      first = second :=
  ((trace_agrees trace granted).apart first fd second number left.1
    (left.2.symm.trans right.2)).1

theorem interleaved_front {trace rest : List (Process × LineEvent)}
    (interleaved : Interleaved (trace ++ rest)) : Interleaved trace := by
  refine ⟨fun process => ?_, judged_front interleaved.granted⟩
  apply lifetime_front program_front (interleaved.programs process)
  rw [callsOf, callsOf, List.filter_append, List.map_append]
  exact List.prefix_append _ _

/-- In any interleaving the exchanges are undisturbed exactly when no flush made
without the lock falls into one. -/
theorem undisturbed_iff_flushes_between {trace : List (Process × LineEvent)}
    (interleaved : Interleaved trace) :
      Judged Undisturbed trace ↔ Judged FlushesBetween trace := by
  constructor
  · intro undisturbed before call after split flushes
    apply undisturbed before call after split
    obtain ⟨process, event⟩ := call
    cases event with
    | opened fd => trivial
    | flushed fd => exact flushes.1
    | _ => exact flushes.elim
  · intro between before call after split touches other apart exchanging
    obtain ⟨process, event⟩ := call
    by_cases unlocked : (deviceAfter before).flushesUnlocked process event
    · exact between before (process, event) after split unlocked other apart exchanging
    · have reached : Interleaved (before ++ [(process, event)]) := by
        rw [split, List.append_cons] at interleaved
        exact interleaved_front interleaved
      obtain ⟨fd, mine⟩ := touching_holds reached touches unlocked
      obtain ⟨number, _, theirs⟩ := exchanging
      exact apart (held_by_one (judged_front reached.granted) theirs mine)

section Examples

instance (device : Device Process) (process : Process) (fd : Int) :
    Decidable (device.holds process fd) := inferInstanceAs (Decidable (_ ∧ _))

instance (device : Device Process) (process : Process) :
    (call : LineEvent) → Decidable (device.grants process call)
  | .opened fd => inferInstanceAs (Decidable (device.ports process fd = none))
  | .locked fd true => inferInstanceAs (Decidable (device.ports process fd = none ∨
      device.holder = none ∨ device.holder = device.ports process fd))
  | .locked _ false => isTrue trivial
  | .flushed _ => isTrue trivial
  | .sent _ _ _ => isTrue trivial
  | .received _ _ => isTrue trivial
  | .closed _ => isTrue trivial

instance (device : Device Process) (process : Process) :
    (call : LineEvent) → Decidable (device.flushesUnlocked process call)
  | .opened _ => isTrue trivial
  | .flushed fd => inferInstanceAs (Decidable (device.ports process fd ≠ none ∧
      device.holder ≠ device.ports process fd))
  | .locked _ _ => isFalse id
  | .sent _ _ _ => isFalse id
  | .received _ _ => isFalse id
  | .closed _ => isFalse id

instance (trace : List (Process × LineEvent)) (process : Process) :
    Decidable (Exchanging trace process) :=
  decidable_of_iff ((((callsOf process trace).foldl noteStage .idle).exchangeFd.any
      fun fd => decide ((deviceAfter trace).holds process fd)) = true) (by
    simp [Exchanging, Option.any_eq_true])

def readOne : ReadInput := ⟨ascii "1", ascii "3", ascii "0", ascii "0", ascii "1"⟩

def answersAfter (lockFails : Nat) : LineAnswers := ⟨3, lockFails, [8], [.data [1, 2, 3]]⟩

def readCalls (lockFails : Nat) : List LineEvent :=
  ((readRs485Data readOne (answersAfter lockFails)).map fun result => result.events).getD []

theorem read_calls_program (lockFails : Nat) (calls : List LineEvent)
    (returns : (readRs485Data readOne (answersAfter lockFails)).isSome = true)
    (front : calls <+: readCalls lockFails) : Program calls := by
  obtain ⟨result, returned⟩ := Option.isSome_iff_exists.mp returns
  rw [readCalls, returned] at front
  exact .readCall returned front

def waitsForTheLock : List (Fin 2 × LineEvent) :=
  ((readCalls 1).take 1).map ((1, ·)) ++ ((readCalls 0).take 4).map ((0, ·)) ++
    (((readCalls 1).drop 1).take 1).map ((1, ·)) ++ ((readCalls 0).drop 4).map ((0, ·)) ++
    ((readCalls 1).drop 2).map ((1, ·))

theorem undisturbed_iff_flushes_between_waiting :
    callsOf 1 waitsForTheLock = readCalls 1 ∧ Judged Undisturbed waitsForTheLock := by
  have first : callsOf 0 waitsForTheLock = readCalls 0 := by decide +kernel
  have second : callsOf 1 waitsForTheLock = readCalls 1 := by decide +kernel
  have interleaved : Interleaved waitsForTheLock := by
    constructor
    · intro process
      match process with
      | 0 =>
          rw [first]
          exact .running (read_calls_program 0 _ (by decide +kernel) (List.prefix_refl _))
      | 1 =>
          rw [second]
          exact .running (read_calls_program 1 _ (by decide +kernel) (List.prefix_refl _))
    · exact judged_of_positions (by decide +kernel)
  refine ⟨second, (undisturbed_iff_flushes_between interleaved).mpr ?_⟩
  exact judged_of_positions (by unfold FlushesBetween; decide +kernel)

/-- The second process opens while the first waits for its answer. -/
def opensDuringAnExchange : List (Fin 2 × LineEvent) :=
  ((readCalls 0).take 4).map ((0, ·)) ++ (1, .opened 3) :: ((readCalls 0).drop 4).map ((0, ·))

theorem open_flushes_an_exchange :
    Interleaved opensDuringAnExchange ∧ ¬Judged Undisturbed opensDuringAnExchange := by
  have first : callsOf 0 opensDuringAnExchange = readCalls 0 := by decide +kernel
  have second : callsOf 1 opensDuringAnExchange = [.opened 3] := by decide +kernel
  have opening : [LineEvent.opened 3] <+: readCalls 1 := by decide +kernel
  refine ⟨⟨?_, judged_of_positions (by decide +kernel)⟩, ?_⟩
  · intro process
    match process with
    | 0 =>
        rw [first]
        exact .running (read_calls_program 0 _ (by decide +kernel) (List.prefix_refl _))
    | 1 =>
        rw [second]
        exact .running (read_calls_program 1 _ (by decide +kernel) opening)
  · intro undisturbed
    have alone := undisturbed _ _ _ rfl trivial 0 (by decide)
    exact absurd (show Exchanging (((readCalls 0).take 4).map ((0, ·))) (0 : Fin 2) by
      decide +kernel) alone

end Examples

end GlRs485.LineSharing
