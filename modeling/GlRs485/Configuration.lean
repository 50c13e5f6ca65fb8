import GlRs485.Foundation.CBytes
import GlRs485.Foundation.CIntegers

/-!
# The global configuration: `cfg.c` and `cfg.h`

`cfg_t` with its text arrays one after the other as they are declared, so that a
copy that is longer than its array goes on in the arrays behind it. `cfg_init`
fills it from the UCI store by way of local arrays; a stored value that does not
fit its local array is outside what the source defines.
-/

namespace GlRs485.Configuration

open CBytes CIntegers

set_option autoImplicit false

inductive NumberField
  | dbglvl
  | ttyspeed
  | ttytimeout
  | trxcntl
  | conntimeout
  | serverport
  | maxconn
  | maxtry
  | mqttqos
  | mqttautoconn
  | mqttautoconnmaxtime
  | mqttautoconninteval
  | mqtttimeout
  | mqttinterval
  deriving DecidableEq

inductive TextField
  | ttytype
  | ttymode
  | connmode
  | ttyport
  | logname
  | trxcntlFile
  | serveraddr
  | mqttaddr
  | mqttusername
  | mqttpassword
  | mqttsubscribe
  | mqttpublish
  | mqttclientid
  deriving DecidableEq

def intbufsize : Nat := 512

def TextField.size : TextField → Nat
  | .ttytype => 8
  | .ttymode => 8
  | .connmode => 8
  | .ttyport => 128
  | _ => intbufsize + 1

def TextField.declared : List TextField :=
  [.ttytype, .ttymode, .connmode, .ttyport, .logname, .trxcntlFile, .serveraddr, .mqttaddr,
    .mqttusername, .mqttpassword, .mqttsubscribe, .mqttpublish, .mqttclientid]

def TextField.offset (field : TextField) : Nat :=
  ((declared.takeWhile fun earlier => earlier ≠ field).map size).sum

def textSize : Nat := (TextField.declared.map TextField.size).sum

@[simp] theorem offset_ttytype : TextField.ttytype.offset = 0 := rfl

@[simp] theorem offset_ttymode : TextField.ttymode.offset = 8 := rfl

@[simp] theorem offset_connmode : TextField.connmode.offset = 16 := rfl

@[simp] theorem offset_ttyport : TextField.ttyport.offset = 24 := rfl

@[simp] theorem offset_logname : TextField.logname.offset = 152 := rfl

@[simp] theorem offset_serveraddr : TextField.serveraddr.offset = 1178 := rfl

structure CfgT where
  numbers : NumberField → Int
  text : Buf

namespace CfgT

def set (cfg : CfgT) (field : NumberField) (value : Int) : CfgT :=
  { cfg with numbers := fun other => if other = field then value else cfg.numbers other }

def pointer (cfg : CfgT) (field : TextField) : Buf := fun index => cfg.text (field.offset + index)

def change (cfg : CfgT) (field : TextField) (change : Buf → Buf) : CfgT :=
  { cfg with text := fun place =>
      if place < field.offset then cfg.text place
      else change (cfg.pointer field) (place - field.offset) }

/-- `strncpy(cfg.field, source, count)`. -/
def copy (cfg : CfgT) (field : TextField) (source : Buf) (count : Nat) : CfgT :=
  cfg.change field fun target => strncpy target source count

def string (cfg : CfgT) (field : TextField) : List Byte :=
  cString (cfg.pointer field) (textSize - field.offset)

end CfgT

def zeroed : CfgT := ⟨fun _ => 0, fun _ => 0⟩

def powTen : Nat → Nat
  | 0 => 1
  | n + 1 => powTen n * 10

def isDigit (c : Byte) : Bool := 48 ≤ c && c ≤ 57

/-- The loop of `strToNumber`; what follows a character decides its weight. -/
def strToNumberLoop : List Byte → Nat → Nat
  | [], sum => sum
  | c :: rest, sum =>
      if isDigit c then strToNumberLoop rest (sum + (c.toNat - 48) * powTen rest.length)
      else sum / 10

def strToNumber (numbers : List Byte) : Nat := strToNumberLoop numbers 0

/-- The stored values; a key that is missing reads as the empty text. -/
structure UciStore where
  value : String → List Byte
  terminated : ∀ key, (0 : Byte) ∉ value key

/-- The local arrays `cfg_init` reads the keys into, with their sizes. -/
def localArrays : List (String × Nat) :=
  [("rs485.rs485.device", intbufsize + 1), ("rs485.rs485.speed", 8), ("rs485.rs485.mode", 8),
    ("rs485.rs485.timeout", 8), ("rs485.rs485.log", 8), ("rs485.rs485.type", 8),
    ("rs485.socket.timeout", 8), ("rs485.socket.mode", 8), ("rs485.socket.port", 8),
    ("rs485.socket.address", intbufsize + 1), ("rs485.mqtt.port", 8),
    ("rs485.mqtt.address", intbufsize + 1), ("rs485.mqtt.timeout", 8),
    ("rs485.mqtt.interval", 8), ("rs485.mqtt.username", intbufsize + 1),
    ("rs485.mqtt.password", intbufsize + 1), ("rs485.mqtt.qos", 8),
    ("rs485.mqtt.clientid", intbufsize + 1), ("rs485.mqtt.publish", intbufsize + 1),
    ("rs485.mqtt.subscribe", intbufsize + 1), ("rs485.mqtt.autoconn", 8),
    ("rs485.mqtt.autoconninteval", 8), ("rs485.mqtt.autoconnmaxtime", 8)]

def FitsLocals (uci : UciStore) : Prop :=
  ∀ entry ∈ localArrays, (uci.value entry.1).length < entry.2

instance (uci : UciStore) : Decidable (FitsLocals uci) :=
  inferInstanceAs (Decidable (∀ entry ∈ localArrays, _))

/-- A zeroed local array after `guci2_get`. -/
def guci2Get (uci : UciStore) (key : String) : Buf := ofBytes (uci.value key)

def logName : List Byte := ascii "rs485.log"

def logPath : List Byte := ascii "/tmp/log/"

def defaultMaxconn : Int := 32

/-- What `sprintf` stores for `"tcp://%s:%s"`. -/
def mqttUrl (uci : UciStore) : List Byte :=
  ascii "tcp://" ++ uci.value "rs485.mqtt.address" ++ ascii ":" ++ uci.value "rs485.mqtt.port" ++
    [0]

def loadTexts (uci : UciStore) (cfg : CfgT) : CfgT :=
  let cfg := cfg.copy .ttyport (guci2Get uci "rs485.rs485.device") (intbufsize + 1)
  let cfg := cfg.copy .logname (ofBytes logName) intbufsize
  let cfg := cfg.copy .ttymode (guci2Get uci "rs485.rs485.mode") 8
  let cfg := cfg.copy .ttytype (guci2Get uci "rs485.rs485.type") 8
  let cfg := cfg.copy .serveraddr (guci2Get uci "rs485.socket.address") (intbufsize + 1)
  let cfg := cfg.copy .connmode (guci2Get uci "rs485.socket.mode") 8
  let cfg := cfg.change .mqttaddr fun target => store target 0 (mqttUrl uci)
  let cfg := cfg.copy .mqttusername (guci2Get uci "rs485.mqtt.username") (intbufsize + 1)
  let cfg := cfg.copy .mqttpassword (guci2Get uci "rs485.mqtt.password") (intbufsize + 1)
  let cfg := cfg.copy .mqttclientid (guci2Get uci "rs485.mqtt.clientid") (intbufsize + 1)
  let cfg := cfg.copy .mqttpublish (guci2Get uci "rs485.mqtt.publish") (intbufsize + 1)
  cfg.copy .mqttsubscribe (guci2Get uci "rs485.mqtt.subscribe") (intbufsize + 1)

def storedNumber (uci : UciStore) (key : String) : Int := strToNumber (uci.value key)

def loadNumbers (uci : UciStore) (cfg : CfgT) : CfgT :=
  let ttyspeed := storedNumber uci "rs485.rs485.speed"
  let cfg := cfg.set .ttyspeed (if 115200 < ttyspeed then 115200 else ttyspeed)
  let cfg := cfg.set .ttytimeout (storedNumber uci "rs485.rs485.timeout")
  let dbglvl := toChar (storedNumber uci "rs485.rs485.log")
  let cfg := cfg.set .dbglvl (if 5 < dbglvl then 5 else dbglvl)
  let cfg := cfg.set .conntimeout (storedNumber uci "rs485.socket.timeout")
  let cfg := cfg.set .serverport (storedNumber uci "rs485.socket.port")
  let cfg := cfg.set .mqttinterval (storedNumber uci "rs485.mqtt.interval")
  let cfg := cfg.set .mqtttimeout (storedNumber uci "rs485.mqtt.timeout")
  let cfg := cfg.set .mqttqos (storedNumber uci "rs485.mqtt.qos")
  let cfg := cfg.set .mqttautoconn (storedNumber uci "rs485.mqtt.autoconn")
  let cfg := cfg.set .mqttautoconnmaxtime (storedNumber uci "rs485.mqtt.autoconnmaxtime")
  let cfg := cfg.set .mqttautoconninteval (storedNumber uci "rs485.mqtt.autoconninteval")
  cfg.set .maxconn defaultMaxconn

def cfgInit (uci : UciStore) (cfg : CfgT) : Option CfgT :=
  if FitsLocals uci then some (loadNumbers uci (loadTexts uci cfg)) else none

@[simp] theorem set_text (cfg : CfgT) (field : NumberField) (value : Int) :
    (cfg.set field value).text = cfg.text := rfl

@[simp] theorem copy_numbers (cfg : CfgT) (field : TextField) (source : Buf) (count : Nat) :
    (cfg.copy field source count).numbers = cfg.numbers := rfl

theorem load_numbers_string (uci : UciStore) (cfg : CfgT) (field : TextField) :
    (loadNumbers uci cfg).string field = cfg.string field := rfl

theorem set_same (cfg : CfgT) (field : NumberField) (value : Int) :
    (cfg.set field value).numbers field = value := if_pos rfl

theorem set_other (cfg : CfgT) (field other : NumberField) (value : Int) (apart : other ≠ field) :
    (cfg.set field value).numbers other = cfg.numbers other := if_neg apart

theorem change_before (cfg : CfgT) (field : TextField) (change : Buf → Buf) (place : Nat)
    (before : place < field.offset) : (cfg.change field change).text place = cfg.text place :=
  if_pos before

theorem change_from (cfg : CfgT) (field : TextField) (change : Buf → Buf) (place : Nat)
    (from_ : field.offset ≤ place) :
      (cfg.change field change).text place = change (cfg.pointer field) (place - field.offset) :=
  if_neg (by omega)

theorem copy_text (cfg : CfgT) (field : TextField) (text : List Byte) (count place : Nat)
    (terminated : (0 : Byte) ∉ text) :
      (cfg.copy field (ofBytes text) count).text place =
        if field.offset ≤ place ∧ place < field.offset + count then
          ofBytes text (place - field.offset)
        else cfg.text place := by
  by_cases before : place < field.offset
  · rw [if_neg (by omega)]
    exact change_before cfg field _ place before
  · rw [CfgT.copy, change_from cfg field _ place (by omega), strncpy_text _ _ _ _ terminated]
    by_cases inside : place < field.offset + count
    · rw [if_pos (by omega), if_pos ⟨by omega, inside⟩]
    · rw [if_neg (by omega), if_neg (by omega), CfgT.pointer]
      congr 1
      omega

/-- What `cfg_init` leaves in the arrays in front of the MQTT settings. -/
theorem load_texts_text (uci : UciStore) (cfg : CfgT) (place : Nat)
    (front : place < TextField.mqttaddr.offset) :
      (loadTexts uci cfg).text place =
        if place < 8 then ofBytes (uci.value "rs485.rs485.type") place
        else if place < 16 then ofBytes (uci.value "rs485.rs485.mode") (place - 8)
        else if place < 24 then ofBytes (uci.value "rs485.socket.mode") (place - 16)
        else if place < 152 then ofBytes (uci.value "rs485.rs485.device") (place - 24)
        else if place < 664 then ofBytes logName (place - 152)
        else if place < 1178 then cfg.text place
        else ofBytes (uci.value "rs485.socket.address") (place - 1178) := by
  have small : place < 1691 := front
  have behind : ∀ (cfg : CfgT) (field : TextField) (key : String) (count : Nat),
      1691 ≤ field.offset → (cfg.copy field (guci2Get uci key) count).text place =
        cfg.text place := by
    intro cfg field key count far
    exact change_before cfg field _ place (by omega)
  unfold loadTexts
  dsimp only
  rw [behind _ .mqttsubscribe _ _ (by decide), behind _ .mqttpublish _ _ (by decide),
    behind _ .mqttclientid _ _ (by decide), behind _ .mqttpassword _ _ (by decide),
    behind _ .mqttusername _ _ (by decide), change_before _ _ _ _ front]
  simp only [guci2Get, copy_text _ _ _ _ _ (uci.terminated _),
    copy_text _ _ logName _ _ (by decide +kernel), offset_ttytype, offset_ttymode, offset_connmode,
    offset_ttyport, offset_logname, offset_serveraddr, intbufsize]
  grind

theorem string_terminated (cfg : CfgT) (field : TextField) (text : List Byte)
    (terminated : (0 : Byte) ∉ text) (room : field.offset + text.length < textSize)
    (holds : ∀ index ≤ text.length, cfg.text (field.offset + index) = ofBytes text index) :
      cfg.string field = text :=
  cString_terminated text _ _ terminated (by omega) holds

/-- A device name that fills its array is read on into the log file name. -/
def loadedDevice (uci : UciStore) : List Byte :=
  let device := uci.value "rs485.rs485.device"
  if device.length < TextField.ttyport.size then device
  else device.take TextField.ttyport.size ++ logName

theorem load_texts_device (uci : UciStore) (cfg : CfgT) (fits : FitsLocals uci) :
    (loadTexts uci cfg).string .ttyport = loadedDevice uci := by
  have terminated := uci.terminated "rs485.rs485.device"
  have short := fits ("rs485.rs485.device", intbufsize + 1) (by simp [localArrays])
  have loaded := load_texts_text uci cfg
  have front : TextField.mqttaddr.offset = 1691 := rfl
  have memory : textSize = 4769 := rfl
  have log : logName.length = 9 := rfl
  unfold loadedDevice
  have full : TextField.ttyport.size = 128 := rfl
  generalize uci.value "rs485.rs485.device" = device at *
  simp only [intbufsize] at short
  by_cases inside : device.length < TextField.ttyport.size
  · rw [if_pos inside]
    apply string_terminated _ _ _ terminated (by rw [offset_ttyport]; omega)
    intro index bound
    rw [offset_ttyport, loaded _ (by omega), if_neg (by omega), if_neg (by omega),
      if_neg (by omega), if_pos (by omega), Nat.add_sub_cancel_left]
  · rw [if_neg inside, full]
    have cut : (device.take 128).length = 128 := by
      rw [List.length_take]
      omega
    apply string_terminated
    · rw [List.mem_append, not_or]
      exact ⟨fun nul => terminated (List.mem_of_mem_take nul), by decide +kernel⟩
    · rw [offset_ttyport, List.length_append, cut]
      omega
    · intro index bound
      rw [List.length_append, cut] at bound
      rw [offset_ttyport, loaded _ (by omega), if_neg (by omega), if_neg (by omega),
        if_neg (by omega), ofBytes_append, cut]
      by_cases own : index < 128
      · rw [if_pos (by omega), if_pos own, Nat.add_sub_cancel_left,
          ofBytes_getElem _ _ (by omega), ofBytes_getElem _ _ (by omega), List.getElem_take]
      · have shifted : 24 + index - 152 = index - 128 := by omega
        rw [if_neg (by omega), if_pos (by omega), if_neg own, shifted]

theorem load_texts_strings (uci : UciStore) (cfg : CfgT) (fits : FitsLocals uci) :
    (loadTexts uci cfg).string .ttymode = uci.value "rs485.rs485.mode" ∧
      (loadTexts uci cfg).string .connmode = uci.value "rs485.socket.mode" ∧
      (loadTexts uci cfg).string .serveraddr = uci.value "rs485.socket.address" := by
  have mode := fits ("rs485.rs485.mode", 8) (by simp [localArrays])
  have modeS := fits ("rs485.socket.mode", 8) (by simp [localArrays])
  have addr := fits ("rs485.socket.address", intbufsize + 1) (by simp [localArrays])
  have loaded := load_texts_text uci cfg
  have front : TextField.mqttaddr.offset = 1691 := rfl
  have memory : textSize = 4769 := rfl
  simp only [intbufsize] at mode modeS addr
  refine ⟨?_, ?_, ?_⟩
  · apply string_terminated _ _ _ (uci.terminated _) (by rw [offset_ttymode]; omega)
    intro index bound
    rw [offset_ttymode, loaded _ (by omega), if_neg (by omega), if_pos (by omega),
      Nat.add_sub_cancel_left]
  · apply string_terminated _ _ _ (uci.terminated _) (by rw [offset_connmode]; omega)
    intro index bound
    rw [offset_connmode, loaded _ (by omega), if_neg (by omega), if_neg (by omega),
      if_pos (by omega), Nat.add_sub_cancel_left]
  · apply string_terminated _ _ _ (uci.terminated _) (by rw [offset_serveraddr]; omega)
    intro index bound
    rw [offset_serveraddr, loaded _ (by omega), if_neg (by omega), if_neg (by omega),
      if_neg (by omega), if_neg (by omega), if_neg (by omega), if_neg (by omega),
      Nat.add_sub_cancel_left]

end GlRs485.Configuration
