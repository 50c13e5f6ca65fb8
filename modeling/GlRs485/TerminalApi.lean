import GlRs485.RegisterApi

/-!
# The text calls of `modbus_api.c`

`terminal_send_read` and `get_rs485_data_to_gl_mqtt`: free text or hex text goes
out through `tty_write`, whose result nobody looks at. A call answers `none` when
the hex decoder never returns. Strings are the bytes before their terminator.
-/

namespace GlRs485.TerminalApi

open CBytes HexCodec SerialLine RegisterApi

set_option autoImplicit false

structure TerminalInput where
  showSend : Bool
  showDate : Bool
  data : List Byte

/-- `cfg.ttytype` as `cfg_init` loads it, and the output of `date`. -/
structure TerminalSurroundings where
  ttytype : List Byte
  date : List Byte

/-- `alldata` as the string in a zeroed array of 1024 characters. -/
def hexAlldata (recBuff : Buf) (count : Int) : List Byte :=
  let alldata := glHex2str recBuff count.toNat (fun _ => 0)
  cells alldata (strlen alldata 1024)

/-- Writes, reads and closes. After a lock timeout `tty_write` has closed the
descriptor, and without a descriptor there is nothing to read either: the reads
are made all the same and fail. -/
def sendAndReceive (line : LineAnswers) (data : List Byte) : Reception :=
  let writing := ttyWrite line.fd line.lockFails line.written data
  let answers := if writing.1 < 0 then [.failed []] else line.received
  let reception := ttyRead line.fd answers (fun _ => 0)
  { reception with events := writing.2 ++ reception.events ++ [.closed line.fd] }

def openedPort (fd : Int) : List LineEvent := if fd < 0 then [] else [.opened fd]

def terminalReport (input : TerminalInput) (around : TerminalSurroundings) (reception : Reception) :
    List JsonLeaf :=
  let sent := if input.showSend then [JsonLeaf.string "send" input.data] else []
  let alldata :=
    if around.ttytype = ascii "hex" then hexAlldata reception.buf reception.count
    else cells reception.buf (strlen reception.buf 512)
  let date := if input.showDate then [JsonLeaf.string "date" around.date] else []
  sent ++ .string "alldata" alldata :: date

def terminalSendRead (input : TerminalInput) (around : TerminalSurroundings) (line : LineAnswers) :
    Option ApiResult :=
  let answered := fun reception : Reception =>
    ApiResult.mk 0 [.object "rs485_data" (terminalReport input around reception)]
      (openedPort line.fd ++ reception.events)
  let size := input.data.length + 1
  if around.ttytype = ascii "hex" then
    let sData := removeBlank (ofBytes input.data) size
    let nbytes := strlen sData size
    if nbytes % 2 = 1 then some ⟨1, [], openedPort line.fd⟩
    else
      (glStr2acsll sData nbytes fun _ => 0).map fun writeData =>
        answered (sendAndReceive line (cells writeData (nbytes / 2)))
  else
    let sData := ofBytes input.data
    some (answered (sendAndReceive line (cells sData (strlen sData size))))

def mqttField (key : String) (value : List Byte) : JsonField := .leaf (.string key value)

def toMqttApi : JsonField := mqttField "api" (ascii "/rs485/to/mqtt")

/-- Here a failing read takes nothing off the count. -/
def countedData (reception : Reception) : Nat := (reception.events.flatMap lineData).length

def getRs485DataToGlMqtt (cmd : List Byte) (line : LineAnswers) : Option ApiResult :=
  let size := cmd.length + 1
  let rs485Cmd := removeBlank1 (ofBytes cmd) (strlen (ofBytes cmd) size)
  let nbytes := strlen rs485Cmd size
  if nbytes % 2 = 1 then
    some ⟨-1, [toMqttApi, mqttField "error" (ascii "data format error")], []⟩
  else
    (glStr2acsll rs485Cmd nbytes fun _ => 0).map fun rs485Data =>
      if line.fd < 0 then ⟨-2, [toMqttApi, mqttField "error" (ascii "open dev error")], []⟩
      else
        let reception := sendAndReceive line (cells rs485Data (nbytes / 2))
        let events := .opened line.fd :: reception.events
        let count := countedData reception
        if count = 0 then ⟨-3, [mqttField "error" (ascii "read error"), toMqttApi], events⟩
        else ⟨0, [toMqttApi, mqttField "data" (hexAlldata reception.buf count)], events⟩

end GlRs485.TerminalApi
