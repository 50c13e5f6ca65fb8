import GlRs485.BridgeSettings
import GlRs485.Foundation.TracedSystem
import GlRs485.HexCodec
import GlRs485.SerialLine

/-!
# The MQTT bridge: `mqtt.c`

`mqtt_loop` as a machine with two kinds of steps: the block after the label
`start`, and one turn of the receive loop. The MQTT client library answers with
return codes and messages; the buffers live as long as the function.
-/

namespace GlRs485.MqttBridge

open CBytes BridgeSettings HexCodec SerialLine TracedSystem

set_option autoImplicit false

/-- `returned` carries the result, `endless` is a decoder loop that does not end. -/
inductive Pc
  | start
  | receiving
  | returned (rc : Int)
  | endless
  deriving DecidableEq

/-- The locals of `mqtt_loop` that outlive a turn, with the ports of the process. -/
structure State where
  cfg : Cfg
  fd : Int
  recBuff : Buf
  write485data : Buf
  writeBuff : Buf
  /-- An `int` there: it counts up to one past `mqttautoconnmaxtime`, which is to be
  less than 2^31 - 1. -/
  mqttautoconntime : Int
  ports : PortTable
  pc : Pc

inductive Event
  | connected (rc : Int)
  | line (event : LineEvent)
  | received (rc : Int)
  | message (payload : List Byte)
  | published (payload : List Byte)
  | reconnecting
  deriving DecidableEq

structure StartAnswers where
  connect : Int
  opened : Int

/-- The result of `MQTTClient_receive` with the message that came, if any, and
the answers of the line while it is forwarded. -/
structure ReceiveAnswers where
  rc : Int
  message : Option (List Byte)
  lockFails : Nat
  written : List Int
  received : List RxResult

inductive Answers
  | start (answers : StartAnswers)
  | receive (answers : ReceiveAnswers)

def State.calls (s : State) (events : List LineEvent) : State :=
  { s with ports := events.foldl PortTable.apply s.ports }

@[simp] theorem State.calls_cfg (s : State) (events : List LineEvent) :
    (s.calls events).cfg = s.cfg := rfl

@[simp] theorem State.calls_ports (s : State) (events : List LineEvent) :
    (s.calls events).ports = events.foldl PortTable.apply s.ports := rfl

def startStep (s : State) (io : StartAnswers) : State × List Event :=
  if io.connect ≠ 0 ∧ s.mqttautoconntime = 0 then
    ({ s with pc := .returned (-1) }, [.connected io.connect])
  else
    let opening : List LineEvent := if io.opened < 0 then [] else [.opened io.opened]
    ({ s.calls opening with fd := io.opened, pc := .receiving },
      .connected io.connect :: opening.map Event.line)

/-- After the loop: the port is closed and the last result returned. -/
def leave (s : State) (rc : Int) : State × List Event :=
  ({ s.calls [.closed s.fd] with pc := .returned rc }, [.line (.closed s.fd)])

/-- From `tty_write` to the text of the answer; the result of the write is ignored. -/
def forward (s : State) (io : ReceiveAnswers) (nbytes : Nat) : State × List LineEvent × List Byte :=
  let writing := ttyWrite s.fd io.lockFails io.written (cells s.writeBuff nbytes)
  let reception := ttyRead s.fd io.received s.recBuff
  let calls := writing.2 ++ reception.events
  let s := { s.calls calls with recBuff := reception.buf }
  if reception.count ≤ 0 then (s, calls, ascii "no data")
  else
    let count := reception.count.toNat
    if s.cfg.isStr then
      let alldata := glHex2str s.recBuff count fun _ => 0
      (s, calls, cells alldata (strlen alldata 1025))
    else (s, calls, cells s.recBuff count)

theorem forward_calls (s : State) (io : ReceiveAnswers) (nbytes : Nat) :
    (forward s io nbytes).2.1 =
      (ttyWrite s.fd io.lockFails io.written (cells s.writeBuff nbytes)).2 ++
        (ttyRead s.fd io.received s.recBuff).events := by
  unfold forward
  dsimp only
  split
  · rfl
  · split <;> rfl

theorem forward_state (s : State) (io : ReceiveAnswers) (nbytes : Nat) :
    (forward s io nbytes).1 =
      { s.calls (forward s io nbytes).2.1 with
        recBuff := (ttyRead s.fd io.received s.recBuff).buf } := by
  rw [forward_calls]
  unfold forward
  dsimp only
  split
  · rfl
  · split <;> rfl

/-- A message: copied, decoded with `str`, forwarded, and the reply published. -/
def handleMessage (s : State) (payload : List Byte) (io : ReceiveAnswers) : State × List Event :=
  if 1024 < payload.length then (s, [.published (ascii "out len")])
  else
    let copied := put (strncpy s.write485data (ofBytes payload) payload.length) payload.length 0
    if s.cfg.isStr then
      let text := removeBlank1 copied payload.length
      let nbytes := strlen text 1025
      let s := { s with write485data := text }
      if nbytes % 2 = 1 then (s, [.published (ascii "data format error")])
      else
        match glStr2acsll text nbytes s.writeBuff with
        | none => ({ s with pc := .endless }, [])
        | some writeBuff =>
            let forwarded := forward { s with writeBuff := writeBuff } io (nbytes / 2)
            (forwarded.1, forwarded.2.1.map Event.line ++ [.published forwarded.2.2])
    else
      let nbytes := payload.length
      let forwarded := forward
        { s with write485data := copied, writeBuff := strncpy s.writeBuff copied nbytes } io nbytes
      (forwarded.1, forwarded.2.1.map Event.line ++ [.published forwarded.2.2])

def receiveStep (s : State) (io : ReceiveAnswers) : State × List Event :=
  if io.rc = -3 then
    if s.cfg.mqttautoconn = 1 then
      let mqttautoconntime := s.mqttautoconntime + 1
      let s := { s with mqttautoconntime := mqttautoconntime }
      if mqttautoconntime > s.cfg.mqttautoconnmaxtime then
        let left := leave s io.rc
        (left.1, .received io.rc :: left.2)
      else ({ s with pc := .start }, [.received io.rc, .reconnecting])
    else
      let left := leave s io.rc
      (left.1, .received io.rc :: left.2)
  else
    let s := { s with mqttautoconntime := 0 }
    match io.message with
    | none => (s, [.received io.rc])
    | some payload =>
        let handled := handleMessage s payload io
        (handled.1, .received io.rc :: .message payload :: handled.2)

def step : StepFunction State Answers Event := fun s answers =>
  match s.pc, answers with
  | .start, .start io => some (startStep s io)
  | .receiving, .receive io => some (receiveStep s io)
  | _, _ => none

/-- `mqtt_loop` is entered with its buffers zero and no port open. -/
def initialState (cfg : Cfg) : State :=
  { cfg := cfg
    fd := 0
    recBuff := fun _ => 0
    write485data := fun _ => 0
    writeBuff := fun _ => 0
    mqttautoconntime := 0
    ports := ⟨fun _ => none, 0, none⟩
    pc := .start }

end GlRs485.MqttBridge
