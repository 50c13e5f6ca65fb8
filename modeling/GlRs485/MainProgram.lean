import GlRs485.CommandLine
import GlRs485.FirmwareTransfer
import GlRs485.LineSharing
import GlRs485.LineTransfers
import GlRs485.ServerStart

/-!
# What a process does: `main` as a whole

The option loop of `main` ends the process or goes on with it: three options send something
over the line and exit, and behind the loop `conn_type` names the bridge that is run. Each
of these ends makes calls on the line, and the file of `-F` is the only thing that is sent
without its lock.
-/

namespace GlRs485.MainProgram

open CBytes ConnectionQueue BridgeSettings SerialLine RegisterApi TerminalApi SocketBridge
open GlRs485.Configuration CommandLine FirmwareTransfer LineDiscipline LineSharing LineTransfers
open ServerStart TracedSystem

set_option autoImplicit false

/-! ## The option loop -/

structure OptArg where
  bytes : List Byte
  terminated : (0 : Byte) ∉ bytes

/-- What `getopt` finds. It answers `?` for an option without its argument and for a letter that
its list lacks, as it lacks `t`; the switch in its turn lacks `c`. -/
inductive Argument
  | setting (opt : Opt)
  | d
  | unlisted
  | B (optarg : OptArg)
  | F (optarg : OptArg)
  | S (optarg : OptArg)
  | H (optarg : OptArg)
  | h
  | c (optarg : OptArg)

structure Settings where
  cfg : CfgT
  isdaemon : Bool
  connType : List Byte

inductive Duty
  | refused
  | usage
  | undefined
  | file (cfg : CfgT) (name : List Byte)
  | exchange (cfg : CfgT) (text : List Byte) (type : Byte)
  | bridge (settings : Settings)

def ttybufSize : Nat := 256

def connTypeSize : Nat := 10

/-- A text that fills `ttybuf` has no terminator there. -/
def withTtybuf (optarg : OptArg) (duty : List Byte → Duty) : Duty :=
  if optarg.bytes.length < ttybufSize then duty optarg.bytes else .undefined

/-- The switch of the option loop. -/
def parseArgument (longBits : Nat) (settings : Settings) : Argument → Except Duty Settings
  | .setting opt =>
      match parseOption longBits settings.cfg opt with
      | none => .error .refused
      | some cfg => .ok { settings with cfg := cfg }
  | .d => .ok { settings with isdaemon := false }
  | .unlisted => .error .refused
  | .B optarg => .ok { settings with connType := optarg.bytes.take connTypeSize }
  | .F optarg => .error (withTtybuf optarg (.file settings.cfg))
  | .S optarg => .error (withTtybuf optarg fun text => .exchange settings.cfg text 83)
  | .H optarg => .error (withTtybuf optarg fun text => .exchange settings.cfg text 72)
  | .h => .error .usage
  | .c _ => .ok settings

def parseArguments (longBits : Nat) : Settings → List Argument → Duty
  | settings, [] => .bridge settings
  | settings, argument :: rest =>
      match parseArgument longBits settings argument with
      | .error duty => duty
      | .ok settings => parseArguments longBits settings rest

/-- `main` up to the end of the option loop. -/
def mainDuty (longBits : Nat) (uci : UciStore) (arguments : List Argument) : Option Duty :=
  (cfgInit uci zeroed).map fun cfg =>
    parseArguments longBits ⟨cfg, true, ascii "socket"⟩ arguments

/-- With the options of `CommandLine` alone the loop does what is said there. -/
theorem parse_arguments_settings (longBits : Nat) (settings : Settings) (options : List Opt) :
    parseArguments longBits settings (options.map .setting) =
      match parseOptions longBits settings.cfg options with
      | none => .refused
      | some cfg => .bridge { settings with cfg := cfg } := by
  induction options generalizing settings with
  | nil => rfl
  | cons opt rest ih =>
      rw [List.map_cons, parseArguments, parseArgument, parseOptions]
      cases parseOption longBits settings.cfg opt with
      | none => rfl
      | some cfg => exact ih { settings with cfg := cfg }

theorem parse_arguments_end {longBits : Nat} {settings : Settings} {front : List Argument}
    {duty : Duty} (ends : parseArguments longBits settings front = duty)
    (decided : ∀ settings, duty ≠ .bridge settings) (back : List Argument) :
      parseArguments longBits settings (front ++ back) = duty := by
  induction front generalizing settings with
  | nil => exact absurd ends.symm (decided settings)
  | cons argument rest ih =>
      rw [List.cons_append, parseArguments]
      rw [parseArguments] at ends
      cases outcome : parseArgument longBits settings argument with
      | error found => simpa [outcome] using ends
      | ok later =>
          rw [outcome] at ends
          exact ih ends

/-! ## The calls of a file transfer -/

/-- The calls of `MyuartTx`, which makes none without a port or without data. -/
def sentCall (fd : Int) (data accepted : List Byte) : List LineEvent :=
  if fd = -1 ∨ data = [] then [] else [.sent fd data accepted]

def blockCalls (fd : Int) : Nat → List Byte → List WriteResult → Option (List LineEvent)
  | 0, _, _ => none
  | fuel + 1, content, results =>
      let txBuf := content.take blockSize
      (myuartTx fd txBuf results).bind fun transmission =>
        let call := sentCall fd txBuf transmission.accepted
        if txBuf.length = blockSize then
          (blockCalls fd fuel (content.drop blockSize) transmission.left).map (call ++ ·)
        else some call

/-- The calls of `tty_write_file`. Without the file the port is left open. -/
def transferCalls (file : Option (List Byte)) (fd : Int) (results : List WriteResult) :
    Option (List LineEvent) :=
  match file with
  | none => some (openedPort fd)
  | some content =>
      (blockCalls fd (content.length / blockSize + 1) content results).map fun sends =>
        openedPort fd ++ sends ++ [.closed fd]

theorem sent_call_accepts (fd : Int) (data : List Byte) (results : List WriteResult)
    (transmission : Transmission) (returns : myuartTx fd data results = some transmission) :
      acceptedOnLine (sentCall fd data transmission.accepted) = transmission.accepted := by
  unfold myuartTx at returns
  by_cases unopened : fd = -1
  · rw [if_pos unopened] at returns
    rw [sentCall, if_pos (Or.inl unopened), ← Option.some.inj returns]
    rfl
  · rw [if_neg unopened] at returns
    cases data with
    | nil =>
        have done : transmission = ⟨0, [], results⟩ := by
          cases results <;> exact (Option.some.inj returns).symm
        rw [sentCall, if_pos (Or.inr rfl), done]
        rfl
    | cons byte rest =>
        rw [sentCall, if_neg (by simp [unopened])]
        simp [acceptedOnLine]

theorem block_calls_written (fd fileCount : Int) (fuel : Nat) (content : List Byte)
    (progress : Progress) (results : List WriteResult) :
      (blockCalls fd fuel content results).map acceptedOnLine =
        (blockLoop fd fileCount fuel content progress results).map Transfer.written := by
  induction fuel generalizing content progress results with
  | zero => rfl
  | succ fuel ih =>
      rw [blockCalls, blockLoop]
      cases sent : myuartTx fd (content.take blockSize) results with
      | none => rfl
      | some transmission =>
          have accepts := sent_call_accepts fd _ results transmission sent
          simp only [Option.bind_some]
          split
          · have later := ih (content.drop blockSize) (countBlock fileCount progress).1
              transmission.left
            rw [Option.map_map, Option.map_map]
            cases calls : blockCalls fd fuel (content.drop blockSize) transmission.left with
            | none =>
                rw [calls, Option.map_none, eq_comm, Option.map_eq_none_iff] at later
                rw [later]
                rfl
            | some sends =>
                rw [calls, Option.map_some, eq_comm, Option.map_eq_some_iff] at later
                obtain ⟨transfer, looped, written⟩ := later
                rw [looped]
                simp [acceptedOnLine_append, accepts, written]
          · simp [accepts]

/-- Opened, perhaps written to, and closed: a transfer neither locks nor reads. -/
def TransferCall (fd : Int) : LineEvent → Prop
  | .opened port => port = fd ∧ 0 ≤ fd
  | .sent port _ _ => port = fd
  | .closed port => port = fd
  | _ => False

theorem block_calls_kinds {fd : Int} {fuel : Nat} {content : List Byte}
    {results : List WriteResult} {calls : List LineEvent}
    (made : blockCalls fd fuel content results = some calls) :
      ∀ call ∈ calls, TransferCall fd call := by
  induction fuel generalizing content results calls with
  | zero => cases made
  | succ fuel ih =>
      have sent : ∀ data accepted, ∀ call ∈ sentCall fd data accepted, TransferCall fd call := by
        intro data accepted call member
        unfold sentCall at member
        split at member
        · simp at member
        · rw [List.mem_singleton.mp member]
          exact rfl
      rw [blockCalls, Option.bind_eq_some_iff] at made
      obtain ⟨transmission, _, goesOn⟩ := made
      split at goesOn
      · obtain ⟨later, next, rfl⟩ := Option.map_eq_some_iff.mp goesOn
        intro call member
        rcases List.mem_append.mp member with now | after
        · exact sent _ _ call now
        · exact ih next call after
      · obtain rfl := Option.some.inj goesOn
        exact sent _ _

theorem opened_port_kinds (fd : Int) : ∀ call ∈ openedPort fd, TransferCall fd call := by
  intro call member
  unfold openedPort at member
  split at member
  · simp at member
  · next port =>
      rw [List.mem_singleton.mp member]
      exact ⟨rfl, Int.not_lt.mp port⟩

theorem transfer_calls_kinds {file : Option (List Byte)} {fd : Int} {results : List WriteResult}
    {calls : List LineEvent} (made : transferCalls file fd results = some calls) :
      ∀ call ∈ calls, TransferCall fd call := by
  cases file with
  | none =>
      rw [← Option.some.inj made]
      exact opened_port_kinds fd
  | some content =>
      obtain ⟨sends, blocks, rfl⟩ := Option.map_eq_some_iff.mp made
      intro call member
      rcases List.mem_append.mp member with before | last
      · rcases List.mem_append.mp before with opened | sent
        · exact opened_port_kinds fd call opened
        · exact block_calls_kinds blocks call sent
      · rw [List.mem_singleton.mp last]
        exact rfl

/-! ## The calls of a process -/

def bridgeCfg (cfg : CfgT) : Cfg :=
  { conntimeout := cfg.numbers .conntimeout
    maxconn := cfg.numbers .maxconn
    mqttautoconn := cfg.numbers .mqttautoconn
    mqttautoconnmaxtime := cfg.numbers .mqttautoconnmaxtime
    ttytype := cfg.string .ttytype
    connmode := cfg.string .connmode }

/-- `conn_init` goes by what `tty_open` loads. -/
def StartsWith (uci : UciStore) (settings : Settings) (io : StartAnswers) : Prop :=
  ∃ loaded, ttyOpen uci settings.cfg = some loaded ∧ io.cfg = bridgeCfg loaded ∧
    io.serverport = loaded.numbers .serverport

/-- The calls on the line that a process with these arguments has made so far. -/
inductive ProcessCalls (longBits : Nat) (uci : UciStore) (arguments : List Argument) :
    List LineEvent → Prop
  | ended {duty : Duty} (decided : mainDuty longBits uci arguments = some duty)
      (silent : duty = .refused ∨ duty = .usage) : ProcessCalls longBits uci arguments []
  | file {cfg : CfgT} {name : List Byte} {file : Option (List Byte)} {fd : Int}
      {results : List WriteResult} {calls made : List LineEvent}
      (decided : mainDuty longBits uci arguments = some (.file cfg name))
      (sent : transferCalls file fd results = some made) (front : calls <+: made) :
      ProcessCalls longBits uci arguments calls
  | exchange {cfg : CfgT} {text : List Byte} {type : Byte} {line : LineAnswers}
      {result : PrintedResult} {calls : List LineEvent}
      (decided : mainDuty longBits uci arguments = some (.exchange cfg text type))
      (returned : ttyWriteRead text type line = some result) (front : calls <+: result.events) :
      ProcessCalls longBits uci arguments calls
  | unserved {settings : Settings} {io : StartAnswers} {failure : Failure}
      {calls : List LineEvent} (decided : mainDuty longBits uci arguments = some (.bridge settings))
      (socket : settings.connType = ascii "socket") (starts : StartsWith uci settings io)
      (failed : ServerStart.connInit io = .error failure) (front : calls <+: openedPort io.ttyFd) :
      ProcessCalls longBits uci arguments calls
  | socket {settings : Settings} {io : StartAnswers} {initial s : State} {endpoint : Endpoint}
      {trace : List Event} {calls : List LineEvent}
      (decided : mainDuty longBits uci arguments = some (.bridge settings))
      (socket : settings.connType = ascii "socket") (starts : StartsWith uci settings io)
      (fresh : FreshDescriptors io)
      (started : ServerStart.connInit io = .ok (initial, endpoint))
      (run : Run (step longBits) Admissible initial trace s)
      (front : calls <+: .opened io.ttyFd :: socketCalls trace) :
      ProcessCalls longBits uci arguments calls
  | mqtt {settings : Settings} {trace : List MqttBridge.Event} {s : MqttBridge.State}
      {calls : List LineEvent} (decided : mainDuty longBits uci arguments = some (.bridge settings))
      (mqtt : settings.connType = ascii "mqtt")
      (run : Run MqttBridge.step (fun _ _ => True)
        (MqttBridge.initialState (bridgeCfg settings.cfg)) trace s)
      (front : calls <+: mqttCalls trace) : ProcessCalls longBits uci arguments calls
  | nothing {settings : Settings}
      (decided : mainDuty longBits uci arguments = some (.bridge settings))
      (other : settings.connType ≠ ascii "socket" ∧ settings.connType ≠ ascii "mqtt") :
      ProcessCalls longBits uci arguments []

def SendsFile (longBits : Nat) (uci : UciStore) (arguments : List Argument) : Prop :=
  ∃ cfg name, mainDuty longBits uci arguments = some (.file cfg name)

theorem tty_write_read_disciplined {buf : List Byte} {type : Byte} {line : LineAnswers}
    {result : PrintedResult} (returned : ttyWriteRead buf type line = some result) :
      Disciplined result.events := by
  have opened := opened_port_disciplined line.fd
  unfold ttyWriteRead at returned
  dsimp only at returned
  split at returned
  · split at returned
    · rw [← Option.some.inj returned]
      exact opened
    · obtain ⟨writeBuff, _, rfl⟩ := Option.map_eq_some_iff.mp returned
      exact send_and_receive_disciplined line _ opened
  · rw [← Option.some.inj returned]
    exact send_and_receive_disciplined line _ opened

theorem conn_init_started {io : StartAnswers} {initial : State} {endpoint : Endpoint}
    (fresh : FreshDescriptors io) (started : ServerStart.connInit io = .ok (initial, endpoint)) :
      Started initial ∧ initial.tty.fd = io.ttyFd := by
  have port : 0 ≤ io.ttyFd := by
    by_contra closed
    simp [ServerStart.connInit, require, closed, Bind.bind, Except.bind] at started
  obtain ⟨granted, same⟩ := (conn_init_iff io port _).mp started
  obtain ⟨rfl, _⟩ := Prod.mk.inj same
  exact ⟨initial_started io fresh port granted, rfl⟩

/-- Only a file is sent without the lock, whatever the arguments are. -/
theorem process_calls_disciplined {longBits : Nat} {uci : UciStore} {arguments : List Argument}
    {calls : List LineEvent} (made : ProcessCalls longBits uci arguments calls) :
      Disciplined calls ∨ SendsFile longBits uci arguments ∧ ∃ fd, ∀ call ∈ calls,
        TransferCall fd call := by
  cases made with
  | ended _ _ => exact Or.inl disciplined_nil
  | file decided sent front =>
      exact Or.inr ⟨⟨_, _, decided⟩, _, fun call member =>
        transfer_calls_kinds sent call (front.subset member)⟩
  | exchange _ returned front => exact Or.inl ((tty_write_read_disciplined returned).front front)
  | unserved _ _ _ _ front => exact Or.inl ((opened_port_disciplined _).front front)
  | socket _ _ _ fresh started run front =>
      obtain ⟨began, number⟩ := conn_init_started fresh started
      rw [← number] at front
      exact Or.inl ((socket_daemon_disciplined began run).front front)
  | mqtt _ _ run front => exact Or.inl ((mqtt_daemon_disciplined run).front front)
  | nothing _ _ => exact Or.inl disciplined_nil

end GlRs485.MainProgram
