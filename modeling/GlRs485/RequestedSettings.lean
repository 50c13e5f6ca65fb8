import GlRs485.LeadingNumbers
import GlRs485.LoadedTexts
import GlRs485.SerialMode
import GlRs485.SettingsApi

/-!
# From a request to the line

What a set call is given goes through the store into the configuration that every process
loads for itself, and from there to the settings of the line. Between the call and the
start of a daemon other sections are set and bridges start and stop.
-/

namespace GlRs485.RequestedSettings

open CBytes GlRs485.Configuration RegisterApi RunningStatus StoredSettings LoadedTexts
open FlagWord LeadingNumbers SerialMode SettingsApi

set_option autoImplicit false

/-- What the three sections were last set to. -/
structure Requests where
  rs485 : Request
  socket : Request
  mqtt : Request

def Requests.part (requests : Requests) : Section → Request
  | .rs485 => requests.rs485
  | .socket => requests.socket
  | .mqtt => requests.mqtt

def Requests.areLast (requests : Requests) (commits : List Commit) : Prop :=
  ∀ part, lastRequest part commits = some (requests.part part)

def Requests.broker (requests : Requests) : List Byte :=
  ascii "tcp://" ++ requests.mqtt.text "address" ++ ascii ":" ++ requests.mqtt.text "port"

def Requests.text (requests : Requests) : TextField → Option (List Byte)
  | .ttytype => some (requests.rs485.text "type")
  | .ttymode => some (requests.rs485.text "mode")
  | .connmode => some (requests.socket.text "mode")
  | .ttyport => some (requests.rs485.text "device")
  | .logname => some logName
  | .trxcntlFile => none
  | .serveraddr => some (requests.socket.text "address")
  | .mqttaddr => some requests.broker
  | .mqttusername => some (requests.mqtt.text "username")
  | .mqttpassword => some (requests.mqtt.text "password")
  | .mqttsubscribe => some (requests.mqtt.text "subscribe")
  | .mqttpublish => some (requests.mqtt.text "publish")
  | .mqttclientid => some (requests.mqtt.text "clientid")

/-- The text of a number; the other numbers are no settings of these sections. -/
def Requests.number (requests : Requests) : NumberField → Option (List Byte)
  | .ttyspeed => some (requests.rs485.text "speed")
  | .ttytimeout => some (requests.rs485.text "timeout")
  | .conntimeout => some (requests.socket.text "timeout")
  | .serverport => some (requests.socket.text "port")
  | .mqttqos => some (requests.mqtt.text "qos")
  | .mqttautoconn => some (requests.mqtt.text "autoconn")
  | .mqttautoconnmaxtime => some (requests.mqtt.text "autoconnmaxtime")
  | .mqttautoconninteval => some (requests.mqtt.text "autoconninteval")
  | .mqtttimeout => some (requests.mqtt.text "timeout")
  | .mqttinterval => some (requests.mqtt.text "interval")
  | _ => none

def highestSpeed : Nat := 115200

def loadedNumber (field : NumberField) (digits : List Byte) : Nat :=
  if field = .ttyspeed then min (decimalValue digits) highestSpeed else decimalValue digits

structure Requests.Decimal (requests : Requests) : Prop where
  digits : ∀ field, ∀ text ∈ requests.number field, ∀ c ∈ text, isDigit c = true

structure Requests.Loaded (requests : Requests) (cfg : CfgT) : Prop where
  texts : ∀ field, ∀ text ∈ requests.text field, cfg.string field = text
  numbers : ∀ field, ∀ text ∈ requests.number field, cfg.numbers field = decimalValue text

/-- A device and an address that their arrays hold, or that go on as what stands behind, and
a speed that is not cut. -/
structure Requests.Fit (requests : Requests) : Prop where
  device : (requests.rs485.text "device").length < TextField.ttyport.size ∨
    (requests.rs485.text "device").drop TextField.ttyport.size = logName
  broker : requests.broker.length < TextField.mqttaddr.size ∨
    requests.broker.drop TextField.mqttaddr.size = requests.mqtt.text "username"
  speed : decimalValue (requests.rs485.text "speed") ≤ highestSpeed

structure Requests.Shown (requests : Requests) (uci : UciStore) : Prop where
  rs485 : getRs485Attr uci = some [.object "rs485_config"
    (Section.rs485.entries.map fun entry =>
      .string entry.name (requests.rs485.text entry.name))]
  socket : getSocketConfig uci = some [.object "rs485_socket_config"
    (Section.socket.entries.map fun entry =>
      .string entry.name (requests.socket.text entry.name))]
  mqtt : getMqttConfig uci = some [.object "rs485_mqtt_config"
    (Section.mqtt.entries.map fun entry =>
      .string entry.name (requests.mqtt.text entry.name))]

theorem init_loads {uci : UciStore} {cfg loaded : CfgT} (init : cfgInit uci cfg = some loaded) :
    FitsLocals uci ∧ loaded = loadNumbers uci (loadTexts uci cfg) := by
  unfold cfgInit at init
  split at init
  · next fits => exact ⟨fits, (Option.some.inj init).symm⟩
  · simp at init

theorem arrays_as_in_get (part : Section) (entry : Entry) (member : entry ∈ part.entries) :
    (entry.key, entry.size) ∈ localArrays := by
  have table : ∀ part : Section, ∀ entry ∈ part.entries,
      (entry.key, entry.size) ∈ localArrays := by
    intro part
    cases part <;> decide +kernel
  exact table part entry member

section

variable (uci : UciStore) {commits : List Commit} {requests : Requests}

theorem requested_value (last : requests.areLast commits) (part : Section) {name key : String}
    {size : Nat} (member : ⟨name, key, size⟩ ∈ part.entries) :
      (storeAfter uci commits).value key = (requests.part part).text name := by
  have stored := stored_text uci commits member
  rwa [last part] at stored

theorem requests_shown (last : requests.areLast commits)
    (fits : FitsLocals (storeAfter uci commits)) : requests.Shown (storeAfter uci commits) := by
  have shown : ∀ (part : Section) (group : String),
      getConfig (storeAfter uci commits) group part.entries =
        some [.object group (part.entries.map fun entry =>
          .string entry.name ((requests.part part).text entry.name))] := by
    intro part group
    have small : ∀ entry ∈ part.entries,
        ((storeAfter uci commits).value entry.key).length < entry.size :=
      fun entry member => fits _ (arrays_as_in_get part entry member)
    have texts : part.entries.map (fun entry =>
        JsonLeaf.string entry.name ((storeAfter uci commits).value entry.key)) =
          part.entries.map fun entry =>
            .string entry.name ((requests.part part).text entry.name) :=
      List.map_congr_left fun entry member => by rw [requested_value uci last part member]
    rw [getConfig, getTexts, if_pos small, Option.map_some, texts]
  exact ⟨shown .rs485 _, shown .socket _, shown .mqtt _⟩

theorem requested_texts (last : requests.areLast commits) (field : TextField) :
    storedText (storeAfter uci commits) field = requests.text field := by
  have value := fun (part : Section) (name key : String) (size : Nat)
      (member : ⟨name, key, size⟩ ∈ part.entries) => requested_value uci last part member
  cases field with
  | ttytype => exact congrArg some (value .rs485 "type" _ 8 (by decide))
  | ttymode => exact congrArg some (value .rs485 "mode" _ 8 (by decide))
  | connmode => exact congrArg some (value .socket "mode" _ 8 (by decide))
  | ttyport => exact congrArg some (value .rs485 "device" _ 513 (by decide))
  | logname => rfl
  | trxcntlFile => rfl
  | serveraddr => exact congrArg some (value .socket "address" _ 513 (by decide))
  | mqttaddr =>
      have address := value .mqtt "address" "rs485.mqtt.address" 513 (by decide)
      have port := value .mqtt "port" "rs485.mqtt.port" 8 (by decide)
      rw [storedText, brokerAddress, address, port]
      rfl
  | mqttusername => exact congrArg some (value .mqtt "username" _ 513 (by decide))
  | mqttpassword => exact congrArg some (value .mqtt "password" _ 513 (by decide))
  | mqttsubscribe => exact congrArg some (value .mqtt "subscribe" _ 513 (by decide))
  | mqttpublish => exact congrArg some (value .mqtt "publish" _ 513 (by decide))
  | mqttclientid => exact congrArg some (value .mqtt "clientid" _ 513 (by decide))

theorem decimal_number (digits : List Byte) (decimal : ∀ c ∈ digits, isDigit c = true) :
    leadingNumber digits = decimalValue digits ∧ tailLength digits = 0 := by
  constructor
  · rw [leadingNumber, leadingDigits, List.takeWhile_eq_self_iff.mpr decimal]
  · rw [tailLength, List.dropWhile_eq_nil_iff.mpr decimal]
    rfl

/-- A number is stored under a key whose array holds seven characters. -/
theorem requested_number (last : requests.areLast commits)
    (fits : FitsLocals (storeAfter uci commits)) (decimal : requests.Decimal) (part : Section)
    {name key : String} (member : ⟨name, key, 8⟩ ∈ part.entries)
    {field : NumberField} (asked : requests.number field = some ((requests.part part).text name)) :
      storedNumber (storeAfter uci commits) key =
        decimalValue ((requests.part part).text name) := by
  have value := requested_value uci last part member
  have short : ((storeAfter uci commits).value key).length < 8 :=
    fits _ (arrays_as_in_get part _ member)
  obtain ⟨number, tail⟩ := decimal_number _ (decimal.digits field _ asked)
  rw [(stored_number_iff _ key (by omega)).mpr (Or.inl (by rw [value, tail]; omega)), value,
    number]

theorem requested_numbers (last : requests.areLast commits)
    (fits : FitsLocals (storeAfter uci commits)) (decimal : requests.Decimal) (cfg : CfgT)
    (field : NumberField) (text : List Byte) (asked : text ∈ requests.number field) :
      (loadNumbers (storeAfter uci commits) cfg).numbers field = loadedNumber field text := by
  have number := fun (part : Section) (name key : String)
      (member : ⟨name, key, 8⟩ ∈ part.entries) (asked : requests.number field =
        some ((requests.part part).text name)) =>
    requested_number uci last fits decimal part member asked
  cases field with
  | ttyspeed =>
      obtain rfl := Option.some.inj asked
      have speed := number .rs485 "speed" "rs485.rs485.speed" (by decide) rfl
      show (if 115200 < storedNumber (storeAfter uci commits) "rs485.rs485.speed" then 115200
        else storedNumber (storeAfter uci commits) "rs485.rs485.speed") = _
      rw [speed, loadedNumber, if_pos rfl]
      have same : (requests.part .rs485).text "speed" = requests.rs485.text "speed" := rfl
      rw [same, highestSpeed]
      split <;> omega
  | ttytimeout =>
      obtain rfl := Option.some.inj asked
      exact number .rs485 "timeout" "rs485.rs485.timeout" (by decide) rfl
  | conntimeout =>
      obtain rfl := Option.some.inj asked
      exact number .socket "timeout" "rs485.socket.timeout" (by decide) rfl
  | serverport =>
      obtain rfl := Option.some.inj asked
      exact number .socket "port" "rs485.socket.port" (by decide) rfl
  | mqttqos =>
      obtain rfl := Option.some.inj asked
      exact number .mqtt "qos" "rs485.mqtt.qos" (by decide) rfl
  | mqttautoconn =>
      obtain rfl := Option.some.inj asked
      exact number .mqtt "autoconn" "rs485.mqtt.autoconn" (by decide) rfl
  | mqttautoconnmaxtime =>
      obtain rfl := Option.some.inj asked
      exact number .mqtt "autoconnmaxtime" "rs485.mqtt.autoconnmaxtime" (by decide) rfl
  | mqttautoconninteval =>
      obtain rfl := Option.some.inj asked
      exact number .mqtt "autoconninteval" "rs485.mqtt.autoconninteval" (by decide) rfl
  | mqtttimeout =>
      obtain rfl := Option.some.inj asked
      exact number .mqtt "timeout" "rs485.mqtt.timeout" (by decide) rfl
  | mqttinterval =>
      obtain rfl := Option.some.inj asked
      exact number .mqtt "interval" "rs485.mqtt.interval" (by decide) rfl
  | _ => exact absurd asked (by simp [Requests.number])

theorem requested_fit_iff (last : requests.areLast commits) :
    requests.Fit ↔ (DeviceFits (storeAfter uci commits) ∧ AddressFits (storeAfter uci commits)) ∧
      decimalValue (requests.rs485.text "speed") ≤ highestSpeed := by
  have device : (storeAfter uci commits).value "rs485.rs485.device" =
      requests.rs485.text "device" :=
    requested_value uci last .rs485 (show ⟨"device", _, 513⟩ ∈ Section.rs485.entries by decide)
  have username : (storeAfter uci commits).value "rs485.mqtt.username" =
      requests.mqtt.text "username" :=
    requested_value uci last .mqtt (show ⟨"username", _, 513⟩ ∈ Section.mqtt.entries by decide)
  have broker : brokerAddress (storeAfter uci commits) = requests.broker :=
    Option.some.inj (requested_texts uci last .mqttaddr)
  rw [DeviceFits, AddressFits, device, username, broker]
  exact ⟨fun fit => ⟨⟨fit.device, fit.broker⟩, fit.speed⟩,
    fun ⟨⟨device, broker⟩, speed⟩ => ⟨device, broker, speed⟩⟩

/-- However the sections were set and bridges started and stopped before: the get calls show
the last requests as they were, and a process that loads its configuration has what they ask
for exactly if they fit. -/
theorem requests_loaded_iff (last : requests.areLast commits) (decimal : requests.Decimal)
    {cfg loaded : CfgT} (init : cfgInit (storeAfter uci commits) cfg = some loaded) :
      requests.Shown (storeAfter uci commits) ∧ (requests.Loaded loaded ↔ requests.Fit) := by
  obtain ⟨fits, rfl⟩ := init_loads init
  refine ⟨requests_shown uci last fits, ?_⟩
  have numbers := requested_numbers uci last fits decimal (loadTexts (storeAfter uci commits) cfg)
  rw [requested_fit_iff uci last, ← loads_texts_iff _ cfg fits]
  constructor
  · intro asked
    constructor
    · intro field text stored
      exact asked.texts field text (requested_texts uci last field ▸ stored)
    · have speed := (asked.numbers .ttyspeed _ rfl).symm.trans (numbers .ttyspeed _ rfl)
      rw [loadedNumber, if_pos rfl] at speed
      omega
  · rintro ⟨texts, highest⟩
    constructor
    · intro field text asked
      exact texts field text (requested_texts uci last field ▸ asked)
    · intro field text asked
      rw [numbers field text asked, loadedNumber]
      split
      · next speed =>
          subst speed
          obtain rfl := Option.some.inj asked
          omega
      · rfl

/-! ## The settings of the line -/

theorem control_baud (speed : Flags × Int) (listed : speed ∈ speedTab)
    (dataBits parity stopBits : Int) (cflag : Flags) :
      controlFlags speed.1 dataBits parity stopBits false cflag &&& CBAUD = speed.1 := by
  have within : ∀ speed ∈ speedTab, speed.1 &&& CBAUD = speed.1 := by decide +kernel
  have cleared : (cflag &&& ~~~CBAUD) &&& CBAUD = 0 := cleared_field _ _ _ (by decide)
  rw [controlFlags, flow_elsewhere _ _ (by decide), stop_bits_elsewhere _ _ _ (by decide),
    parity_elsewhere _ _ _ (by decide) (by decide), char_size_elsewhere _ _ _ (by decide),
    raised_elsewhere _ CREAD _ (by decide), raised_elsewhere _ CLOCAL _ (by decide), cfmakeraw,
    raised_elsewhere _ CS8 _ (by decide), cleared_elsewhere _ (CSIZE ||| PARENB) _ (by decide),
    cfsetspeed, BitVec.and_or_distrib_right, cleared, within speed listed]
  exact BitVec.zero_or

/-- The line runs at the speed, in the mode and with the timeout asked for, as far as tenths
of a second can say it. -/
structure AsAsked (mode : Mode) (speed timeout : Int) (settings : Termios) : Prop where
  baud : (settings.cflag &&& CBAUD, speed) ∈ speedTab
  effect : TakesEffect mode settings.cflag
  minimum : settings.vmin = 0
  time : (settings.vtime.toNat : Int) = timeout / 100

theorem opened_timeout {speed dataBits parity stopBits timeout : Int} {found settings : Termios}
    (opens : uartOpenSerial speed dataBits parity stopBits false false timeout found =
      some settings) (nonneg : 0 ≤ timeout) :
        settings.vmin = 0 ∧ ((settings.vtime.toNat : Int) = timeout / 100 ↔ timeout < 25600) := by
  obtain ⟨entry, _, rfl⟩ := Option.map_eq_some_iff.mp opens
  have later : ¬timeout < 0 := by omega
  dsimp only
  rw [if_neg later, if_neg later, UInt8.toNat_ofNat']
  refine ⟨rfl, ?_⟩
  omega

theorem opened_baud {speed dataBits parity stopBits timeout : Int} {found settings : Termios}
    (opens : uartOpenSerial speed dataBits parity stopBits false false timeout found =
      some settings) : (settings.cflag &&& CBAUD, speed) ∈ speedTab := by
  obtain ⟨entry, listed, rfl⟩ := Option.map_eq_some_iff.mp opens
  have member := List.mem_of_find?_eq_some listed
  have named : entry.2 = speed := by simpa using List.find?_some listed
  rw [control_baud entry member, ← named]
  exact member

theorem opened_effect_iff {mode : Mode} {speed timeout : Int} {found settings : Termios}
    (opens : uartOpenSerial speed mode.data.count mode.parity.number mode.stop.count false false
      timeout found = some settings) :
        TakesEffect mode settings.cflag ↔
          mode.data = .eight ∧ (mode.parity = .even → found.cflag &&& PARODD = 0) := by
  obtain ⟨entry, listed, rfl⟩ := Option.map_eq_some_iff.mp opens
  exact control_effect_iff mode entry (List.mem_of_find?_eq_some listed) found.cflag

theorem opens_of_listed {speed : Int} {flags : Flags} (listed : (flags, speed) ∈ speedTab)
    (dataBits parity stopBits timeout : Int) (found : Termios) :
      ∃ settings, uartOpenSerial speed dataBits parity stopBits false false timeout found =
        some settings := by
  have some : (speedTab.find? fun entry => entry.2 = speed).isSome = true := by
    rw [List.find?_isSome]
    exact ⟨_, listed, decide_eq_true rfl⟩
  obtain ⟨entry, first⟩ := Option.isSome_iff_exists.mp some
  exact ⟨_, congrArg (Option.map _) first⟩

theorem listed_speed_highest {flags : Flags} {speed : Int} (listed : (flags, speed) ∈ speedTab) :
    speed ≤ highestSpeed := by
  have table : ∀ entry ∈ speedTab, entry.2 ≤ highestSpeed := by decide +kernel
  exact table _ listed

/-- What the process that opens the port finds in its configuration. -/
theorem loaded_line (last : requests.areLast commits) (decimal : requests.Decimal)
    {mode : Mode} (written : requests.rs485.text "mode" = mode.text) {cfg loaded : CfgT}
    (init : cfgInit (storeAfter uci commits) cfg = some loaded) :
      loaded.numbers .ttyspeed = loadedNumber .ttyspeed (requests.rs485.text "speed") ∧
        loaded.numbers .ttytimeout = decimalValue (requests.rs485.text "timeout") ∧
          cells (loaded.pointer .ttymode) 3 = mode.text := by
  obtain ⟨fits, rfl⟩ := init_loads init
  have numbers := requested_numbers uci last fits decimal (loadTexts (storeAfter uci commits) cfg)
  refine ⟨numbers .ttyspeed _ rfl, numbers .ttytimeout _ rfl, ?_⟩
  have string := (load_texts_strings (storeAfter uci commits) cfg fits).1
  have value : (storeAfter uci commits).value "rs485.rs485.mode" = mode.text :=
    (requested_value uci last .rs485
      (show ⟨"mode", _, 8⟩ ∈ Section.rs485.entries by decide)).trans written
  rw [value, CfgT.string, cString] at string
  have length := congrArg List.length string
  rw [cells_length] at length
  rw [length] at string
  exact string

/-- A process that loads its configuration and opens the port sets the line as the last request
for it asks, exactly if the port has the speed, eight data bits are asked for, an even parity
does not find the line set to odd, and the timeout is below 25.6 seconds. -/
theorem request_reaches_line_iff (last : requests.areLast commits) (decimal : requests.Decimal)
    {mode : Mode} (written : requests.rs485.text "mode" = mode.text) {cfg loaded : CfgT}
    (init : cfgInit (storeAfter uci commits) cfg = some loaded) (atRest : Termios) :
      (∃ settings, uartOpen loaded (loaded.numbers .ttyspeed) false (loaded.numbers .ttytimeout)
          atRest = some settings ∧
        AsAsked mode (decimalValue (requests.rs485.text "speed"))
          (decimalValue (requests.rs485.text "timeout")) settings) ↔
        (∃ flags, (flags, (decimalValue (requests.rs485.text "speed") : Int)) ∈ speedTab) ∧
          mode.data = .eight ∧ (mode.parity = .even → atRest.cflag &&& PARODD = 0) ∧
          decimalValue (requests.rs485.text "timeout") < 25600 := by
  obtain ⟨speed, timeout, stored⟩ := loaded_line uci last decimal written init
  rw [speed, timeout, uart_open_of_mode _ mode _ _ _ stored]
  constructor
  · rintro ⟨settings, opens, asked⟩
    have effect := (opened_effect_iff opens).mp asked.effect
    have short := (opened_timeout opens (by omega)).2.mp asked.time
    exact ⟨⟨_, asked.baud⟩, effect.1, effect.2, by omega⟩
  · rintro ⟨⟨flags, listed⟩, eight, clear, short⟩
    have uncut : min (decimalValue (requests.rs485.text "speed")) highestSpeed =
        decimalValue (requests.rs485.text "speed") := by
      have highest := listed_speed_highest listed
      omega
    rw [loadedNumber, if_pos rfl, uncut]
    obtain ⟨settings, opens⟩ := opens_of_listed listed mode.data.count mode.parity.number
      mode.stop.count (decimalValue (requests.rs485.text "timeout")) atRest
    have effect := (opened_effect_iff opens).mpr ⟨eight, clear⟩
    have time := opened_timeout opens (by omega)
    exact ⟨settings, opens, opened_baud opens, effect, time.1, time.2.mpr (by omega)⟩

end

/-! ## Requests as documented -/

def requestOf (params : List (String × String))
    (terminated : ∀ param ∈ params, (0 : Byte) ∉ ascii param.2) : Request where
  text name := (params.find? fun param => param.1 = name).elim [] fun param => ascii param.2
  terminated name := by
    cases found : params.find? fun param => param.1 = name with
    | none => simp
    | some param => exact terminated param (List.mem_of_find?_eq_some found)

def documentedRequests : Requests where
  rs485 := requestOf [("device", "/dev/ttyS0"), ("speed", "9600"), ("mode", "8n1"),
    ("timeout", "500"), ("type", "hex")] (by decide +kernel)
  socket := requestOf [("address", "192.168.8.1"), ("port", "502"), ("mode", "tcps"),
    ("timeout", "60")] (by decide +kernel)
  mqtt := requestOf [("port", "1883"), ("address", "broker.emqx.io"), ("interval", "60"),
    ("clientid", "glinetx300b"), ("publish", "glinet/rs485/data"),
    ("subscribe", "glinet/rs485/cmd")] (by decide +kernel)

def threeSections : List Commit :=
  [.started .socket, .set .rs485 documentedRequests.rs485, .stopped,
    .set .socket documentedRequests.socket, .set .mqtt documentedRequests.mqtt, .started .mqtt]

theorem three_sections_last : documentedRequests.areLast threeSections := by
  intro part
  cases part <;> rfl

theorem documented_decimal : documentedRequests.Decimal := by
  constructor
  intro field text asked
  have table : ∀ field, ∀ text ∈ documentedRequests.number field, text.all isDigit = true := by
    intro field
    cases field <;> simp only [Requests.number, Option.mem_def, Option.some.injEq, forall_eq',
      reduceCtorEq, false_implies, implies_true] <;> decide +kernel
  exact List.all_eq_true.mp (table field text asked)

theorem requests_loaded_iff_documented :
    ∃ loaded, cfgInit (storeAfter documentedStore threeSections) zeroed = some loaded ∧
      documentedRequests.Shown (storeAfter documentedStore threeSections) ∧
      documentedRequests.Loaded loaded := by
  obtain ⟨loaded, init⟩ := Option.isSome_iff_exists.mp
    (show (cfgInit (storeAfter documentedStore threeSections) zeroed).isSome = true by
      decide +kernel)
  obtain ⟨shown, asked⟩ := requests_loaded_iff documentedStore three_sections_last
    documented_decimal init
  exact ⟨loaded, init, shown,
    asked.mpr ⟨Or.inl (by decide +kernel), Or.inl (by decide +kernel), by decide +kernel⟩⟩

theorem request_reaches_line_iff_documented :
    ∃ loaded settings,
      uartOpen loaded (loaded.numbers .ttyspeed) false (loaded.numbers .ttytimeout)
        ⟨0, 0, 0, 0, 0, 0⟩ = some settings ∧ AsAsked ⟨.eight, .none, .one⟩ 9600 500 settings := by
  obtain ⟨loaded, init⟩ := Option.isSome_iff_exists.mp
    (show (cfgInit (storeAfter documentedStore threeSections) zeroed).isSome = true by
      decide +kernel)
  obtain ⟨settings, opens, asked⟩ := (request_reaches_line_iff documentedStore three_sections_last
    documented_decimal (show _ = Mode.text ⟨.eight, .none, .one⟩ by decide +kernel) init
      ⟨0, 0, 0, 0, 0, 0⟩).mpr ⟨⟨0o15#32, by decide +kernel⟩, rfl, by simp, by decide +kernel⟩
  exact ⟨loaded, settings, opens, asked⟩

end GlRs485.RequestedSettings
