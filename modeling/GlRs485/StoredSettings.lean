import GlRs485.CommandLine

/-!
# Whose settings are in effect

`conn_init` opens the port by `tty_open`, which loads the configuration again, so
the bridge always runs with what the store holds. The command line has its way
exactly when it repeats the store.
-/

namespace GlRs485.StoredSettings

open CBytes CIntegers GlRs485.Configuration CommandLine

set_option autoImplicit false

inductive Setting
  | device
  | speed
  | mode
  | address
  | port
  | maxconn
  | conntimeout
  | connmode
  deriving DecidableEq

inductive Value
  | text (bytes : List Byte)
  | number (value : Int)
  deriving DecidableEq

/-- The setting an option names; `-v` and `-L` are about the log. -/
def settingOf : Letter → Option Setting
  | .p => some .device
  | .s => some .speed
  | .m => some .mode
  | .A => some .address
  | .P => some .port
  | .C => some .maxconn
  | .T => some .conntimeout
  | .M => some .connmode
  | .v => none
  | .L => none

def valueOf (longBits : Nat) (opt : Opt) : Value :=
  match opt.letter with
  | .p => .text (if opt.optarg.head? = some slash then opt.optarg else devPath ++ opt.optarg)
  | .s => .number (toInt (strtoul longBits opt.optarg))
  | .P => .number (toInt (strtoul longBits opt.optarg))
  | .C => .number (toInt (strtoul longBits opt.optarg))
  | .T => .number (toInt (strtoul longBits opt.optarg))
  | _ => .text opt.optarg

def noteGiven (longBits : Nat) (setting : Setting) (given : Option Value) (opt : Opt) :
    Option Value :=
  if settingOf opt.letter = some setting then some (valueOf longBits opt) else given

/-- The last value the command line gives to a setting. -/
def lastGiven (longBits : Nat) (options : List Opt) (setting : Setting) : Option Value :=
  options.foldl (noteGiven longBits setting) none

/-- The value the store gives to a setting. The speed is limited, and the number of
connections has no key. -/
def stored (uci : UciStore) : Setting → Value
  | .device => .text (uci.value "rs485.rs485.device")
  | .speed => .number (min (storedNumber uci "rs485.rs485.speed") 115200)
  | .mode => .text (uci.value "rs485.rs485.mode")
  | .address => .text (uci.value "rs485.socket.address")
  | .port => .number (storedNumber uci "rs485.socket.port")
  | .maxconn => .number defaultMaxconn
  | .conntimeout => .number (storedNumber uci "rs485.socket.timeout")
  | .connmode => .text (uci.value "rs485.socket.mode")

/-- What `uartOpen`, `sock_create_server` and `conn_loop` read. -/
def inEffect (cfg : CfgT) : Setting → Value
  | .device => .text (cfg.string .ttyport)
  | .speed => .number (cfg.numbers .ttyspeed)
  | .mode => .text (cfg.string .ttymode)
  | .address => .text (cfg.string .serveraddr)
  | .port => .number (cfg.numbers .serverport)
  | .maxconn => .number (cfg.numbers .maxconn)
  | .conntimeout => .number (cfg.numbers .conntimeout)
  | .connmode => .text (cfg.string .connmode)

def CommandLineOverrides (longBits : Nat) (uci : UciStore) (options : List Opt) (cfg : CfgT) :
    Prop :=
  ∀ setting, inEffect cfg setting = (lastGiven longBits options setting).getD (stored uci setting)

/-- A stored device name that its array holds, or that goes on as the log file name. -/
def DeviceFits (uci : UciStore) : Prop :=
  (uci.value "rs485.rs485.device").length < TextField.ttyport.size ∨
    (uci.value "rs485.rs485.device").drop TextField.ttyport.size = logName

/-- The value of the store as `cfg_init` can keep it. -/
def kept (uci : UciStore) (setting : Setting) : Value :=
  if setting = .device then .text (loadedDevice uci) else stored uci setting

/-- The command line only says again what the store says. -/
structure RepeatsStore (longBits : Nat) (uci : UciStore) (options : List Opt) : Prop where
  repeated : ∀ setting, ∀ value ∈ lastGiven longBits options setting, value = kept uci setting
  device : lastGiven longBits options .device = none → DeviceFits uci

theorem loaded_device_iff (uci : UciStore) :
    loadedDevice uci = uci.value "rs485.rs485.device" ↔ DeviceFits uci :=
  overrun_eq_iff (uci.value "rs485.rs485.device") logName TextField.ttyport.size

/-- Whatever was in `cfg` before, `cfg_init` leaves the settings of the store. -/
theorem cfg_init_in_effect {uci : UciStore} {cfg loaded : CfgT}
    (init : cfgInit uci cfg = some loaded) (setting : Setting) :
      inEffect loaded setting = kept uci setting := by
  unfold cfgInit at init
  split at init
  · next fits =>
      have device := load_texts_device uci cfg fits
      obtain ⟨mode, connmode, address⟩ := load_texts_strings uci cfg fits
      rw [← Option.some.inj init]
      cases setting with
      | device => exact congrArg Value.text ((load_numbers_string uci _ _).trans device)
      | mode => exact congrArg Value.text ((load_numbers_string uci _ _).trans mode)
      | address => exact congrArg Value.text ((load_numbers_string uci _ _).trans address)
      | connmode => exact congrArg Value.text ((load_numbers_string uci _ _).trans connmode)
      | speed =>
          apply congrArg Value.number
          have limit : ∀ speed : Int, (if 115200 < speed then 115200 else speed) =
              min speed 115200 := by
            intro speed
            split <;> omega
          exact limit _
      | port => rfl
      | maxconn => rfl
      | conntimeout => rfl
  · simp at init

theorem start_in_effect {longBits : Nat} {uci : UciStore} {options : List Opt} {cfg : CfgT}
    (started : startSocketBridge longBits uci options = some cfg) (setting : Setting) :
      inEffect cfg setting = kept uci setting := by
  simp only [startSocketBridge, Option.bind_eq_bind, Option.bind_eq_some_iff] at started
  obtain ⟨loaded, _, parsed, _, opened⟩ := started
  exact cfg_init_in_effect opened setting

/-- The options given are in effect exactly when they repeat the store. -/
theorem command_line_overrides_iff {longBits : Nat} {uci : UciStore} {options : List Opt}
    {cfg : CfgT} (started : startSocketBridge longBits uci options = some cfg) :
      CommandLineOverrides longBits uci options cfg ↔ RepeatsStore longBits uci options := by
  have effect := start_in_effect started
  constructor
  · intro overrides
    constructor
    · intro setting value given
      have same := overrides setting
      rw [effect, Option.mem_def.mp given] at same
      exact same.symm
    · intro unnamed
      have same := overrides .device
      rw [effect, unnamed] at same
      exact (loaded_device_iff uci).mp (Value.text.inj same)
  · intro repeats setting
    rw [effect]
    cases given : lastGiven longBits options setting with
    | some value => exact (repeats.repeated setting value given).symm
    | none =>
        by_cases device : setting = .device
        · subst device
          exact congrArg Value.text ((loaded_device_iff uci).mpr (repeats.device given))
        · exact if_neg device

def documentedStore : UciStore where
  value key :=
    if key = "rs485.rs485.device" then ascii "/dev/ttyUSB0"
    else if key = "rs485.rs485.speed" then ascii "9600"
    else if key = "rs485.rs485.mode" then ascii "8n1"
    else if key = "rs485.socket.address" then ascii "192.168.8.1"
    else if key = "rs485.socket.port" then ascii "502"
    else if key = "rs485.socket.mode" then ascii "tcps"
    else []
  terminated key := by
    split_ifs <;> decide +kernel

def speedAsStored : List Opt :=
  [⟨.s, ascii "19200", by decide +kernel⟩, ⟨.s, ascii "9600", by decide +kernel⟩]

theorem command_line_overrides_iff_speed_as_stored :
    ∃ cfg, startSocketBridge 32 documentedStore speedAsStored = some cfg ∧
      CommandLineOverrides 32 documentedStore speedAsStored cfg := by
  obtain ⟨cfg, started⟩ := Option.isSome_iff_exists.mp
    (show (startSocketBridge 32 documentedStore speedAsStored).isSome = true by decide +kernel)
  refine ⟨cfg, started, (command_line_overrides_iff started).mpr ⟨?_, ?_⟩⟩
  · intro setting
    cases setting <;> decide +kernel
  · intro _
    exact Or.inl (by decide +kernel)

def otherDevice : List Opt := [⟨.p, ascii "ttyS1", by decide +kernel⟩]

theorem named_device_is_not_used :
    ∃ cfg, startSocketBridge 32 documentedStore otherDevice = some cfg ∧
      lastGiven 32 otherDevice .device = some (.text (ascii "/dev/ttyS1")) ∧
      inEffect cfg .device = .text (ascii "/dev/ttyUSB0") ∧
      ¬CommandLineOverrides 32 documentedStore otherDevice cfg := by
  obtain ⟨cfg, started, used⟩ := Option.map_eq_some_iff.mp
    (show (startSocketBridge 32 documentedStore otherDevice).map (fun cfg => inEffect cfg .device) =
      some (.text (ascii "/dev/ttyUSB0")) by decide +kernel)
  have given : lastGiven 32 otherDevice .device = some (.text (ascii "/dev/ttyS1")) := by
    decide +kernel
  refine ⟨cfg, started, given, used, ?_⟩
  intro overrides
  have same := overrides .device
  rw [used, given] at same
  exact absurd (Value.text.inj same) (by decide +kernel)

end GlRs485.StoredSettings
