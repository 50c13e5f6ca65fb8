import GlRs485.Crc16
import GlRs485.HexDecoder
import GlRs485.SerialLine

/-!
# The register calls of `modbus_api.c`

`read_rs485_data` and `write_rs485_data`: the request frame, the exchange on the
line and the report. A call answers `none` when one of the hex readers never
returns.
-/

namespace GlRs485.RegisterApi

open CBytes HexText HexCodec Crc16 SerialLine

set_option autoImplicit false

inductive JsonLeaf
  | string (key : String) (value : List Byte)
  | boolean (key : String) (value : Bool)
  deriving DecidableEq

inductive JsonField
  | leaf (field : JsonLeaf)
  | object (key : String) (fields : List JsonLeaf)
  deriving DecidableEq

/-- What the kernel and the device answer during one call: the descriptor that
`uartOpen` returns, the refused lock attempts, and the results of `write` and of
the reads. -/
structure LineAnswers where
  fd : Int
  lockFails : Nat
  written : List Int
  received : List RxResult

structure ApiResult where
  code : Int
  output : List JsonField
  events : List LineEvent
  deriving DecidableEq

def crcWay : BitVec 16 := 0xa001#16

def crcBytes (crcV : BitVec 16) : List Byte :=
  [UInt8.ofNat (crcV.toNat % 256), UInt8.ofNat (crcV.toNat / 256)]

/-- `crc_v == (rec_buff[count - 2] + rec_buff[count - 1] * 256)`, with `count - 2`
passed as an `unsigned char`. -/
def crcMatches (recBuff : Buf) (count : Nat) : Bool :=
  (glCrc16 recBuff (UInt8.ofNat (count - 2)) crcWay).toNat ==
    (recBuff (count - 2)).toNat + (recBuff (count - 1)).toNat * 256

/-- The report of both calls: the answer as hex text and the CRC verdict, or the
call's failure text when nothing usable was asked for or received. -/
def report (asked : Bool) (failure : List Byte) (recBuff : Buf) (count : Int) : List JsonLeaf :=
  if 1 < count ∧ asked then
    let alldata := glHex2str recBuff count.toNat (fun _ => 0)
    [.string "alldata" (cells alldata (strlen alldata 1024)),
      .boolean "crc_ok" (crcMatches recBuff count.toNat)]
  else [.string "error" failure]

/-- The exchange both calls make once their frame is built. -/
def exchange (line : LineAnswers) (command : List Byte) (asked : Bool) (failure : List Byte) :
    ApiResult :=
  if line.fd < 0 then ⟨1, [], []⟩
  else
    let lock := flockLoop line.fd line.lockFails 0
    if lock.1 then
      let transmission := myuartTxNonBlocking line.fd line.written command
      let reception := receiveLoop line.fd line.received (fun _ => 0) 0
      ⟨0, [.object "rs485_data" (report asked failure reception.buf reception.count)],
        .opened line.fd :: (lock.2 ++ .flushed line.fd :: transmission.2 ++ reception.events ++
          [.closed line.fd])⟩
    else ⟨-2, [], .opened line.fd :: (lock.2 ++ [.closed line.fd])⟩

structure ReadInput where
  deviceId : List Byte
  funcCode : List Byte
  regAddrH : List Byte
  regAddrL : List Byte
  regLen : List Byte

def readRs485Data (input : ReadInput) (line : LineAnswers) : Option ApiResult := do
  let deviceId ← myHexStrToI input.deviceId
  let funcCode ← myHexStrToI input.funcCode
  let regAddrH ← myHexStrToI input.regAddrH
  let regAddrL ← myHexStrToI input.regAddrL
  let regLen ← myHexStrToI input.regLen
  let readCmd := [deviceId, funcCode, regAddrH, regAddrL, 0, regLen]
  let crcV := glCrc16 (ofBytes readCmd) 6 crcWay
  some (exchange line (readCmd ++ crcBytes crcV) (0 < regLen.toNat) (ascii "read fail"))

/-- The strings of a write request; `dataBeyond` is the memory from the
terminator of `data` on, which the copy loop reads into. -/
structure WriteInput where
  deviceId : List Byte
  funcCode : List Byte
  regAddrH : List Byte
  regAddrL : List Byte
  regLen : List Byte
  dataCount : List Byte
  data : List Byte
  dataBeyond : Buf

def WriteInput.dataMemory (input : WriteInput) : Buf :=
  fun index =>
    if index < input.data.length then input.data.getD index 0
    else if index = input.data.length then 0
    else input.dataBeyond (index - input.data.length)

def writeHeader (deviceId funcCode regAddrH regAddrL regLen dataCount : Byte) : List Byte :=
  [deviceId, funcCode, regAddrH, regAddrL, 0, regLen, dataCount]

/-- `write_cmd[7 + i] = my_hex_str_to_i_l(data, 2, 2 * i)`; the offset is cut to 8 bits. -/
def copyDataStep (data : Buf) (writeCmd : Buf) (i : Nat) : Buf :=
  put writeCmd (7 + i) (myHexStrToIL data 2 (UInt8.ofNat (2 * i)))

/-- The frame handed over: the copy loop runs to the frame length, the CRC is
taken over a length cut to 8 bits and is stored last. -/
def writeFrame (header : List Byte) (data : Buf) (dataCount : Byte) : List Byte :=
  let writeLen := 7 + dataCount.toNat
  let copied := (List.range writeLen).foldl (copyDataStep data) (ofBytes header)
  let crcV := glCrc16 copied (UInt8.ofNat writeLen) crcWay
  let low := put copied writeLen (UInt8.ofNat (crcV.toNat % 256))
  cells (put low (writeLen + 1) (UInt8.ofNat (crcV.toNat / 256))) (2 + writeLen)

def writeRs485Data (input : WriteInput) (line : LineAnswers) : Option ApiResult := do
  let deviceId ← myHexStrToI input.deviceId
  let funcCode ← myHexStrToI input.funcCode
  let regAddrH ← myHexStrToI input.regAddrH
  let regAddrL ← myHexStrToI input.regAddrL
  let regLen ← myHexStrToI input.regLen
  let dataCount ← myHexStrToI input.dataCount
  let dataStrLen := input.data.length
  if 512 < dataStrLen then
    some ⟨0, [.leaf (.string "error" (ascii "data len fail"))], []⟩
  else if dataStrLen % 2 = 1 ∨ dataCount.toNat * 2 ≠ dataStrLen then
    some ⟨0, [.leaf (.string "error" (ascii "data format fail"))], []⟩
  else
    let header := writeHeader deviceId funcCode regAddrH regAddrL regLen dataCount
    some (exchange line (writeFrame header input.dataMemory dataCount) true (ascii "write fail"))

theorem read_exchange {input : ReadInput} {line : LineAnswers} {result : ApiResult}
    (returned : readRs485Data input line = some result) :
      ∃ command regLen, myHexStrToI input.regLen = some regLen ∧
        result = exchange line command (0 < regLen.toNat) (ascii "read fail") := by
  simp only [readRs485Data, Option.bind_eq_bind, Option.bind_eq_some_iff] at returned
  obtain ⟨deviceId, _, funcCode, _, regAddrH, _, regAddrL, _, regLen, length, same⟩ := returned
  exact ⟨_, regLen, length, (Option.some.inj same).symm⟩

theorem write_exchange {input : WriteInput} {line : LineAnswers} {result : ApiResult}
    (returned : writeRs485Data input line = some result) :
      result.events = [] ∨
        ∃ command, result = exchange line command true (ascii "write fail") := by
  simp only [writeRs485Data, Option.bind_eq_bind, Option.bind_eq_some_iff] at returned
  obtain ⟨deviceId, _, funcCode, _, regAddrH, _, regAddrL, _, regLen, _, dataCount, _, same⟩ :=
    returned
  split at same
  · exact Or.inl (by rw [← Option.some.inj same])
  · split at same
    · exact Or.inl (by rw [← Option.some.inj same])
    · exact Or.inr ⟨_, (Option.some.inj same).symm⟩

def handedFrames (events : List LineEvent) : List (List Byte) :=
  events.filterMap fun event => match event with
    | .sent _ offered _ => some offered
    | _ => none

end GlRs485.RegisterApi
