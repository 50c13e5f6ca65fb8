import GlRs485.Configuration
import GlRs485.Foundation.FlagWord

/-!
# Opening the serial port: `uartOpen` and `uartOpenSerial`

The settings handed to `tcsetattr`, from those `tcgetattr` read and the mode in
`cfg.ttymode`. The control flags are built on top of the old word, so a bit that
nothing clears is still there. The calls on the device are taken to succeed; a
baud rate that is not in the table ends the function before the first of them.
-/

namespace GlRs485.SerialMode

open CBytes CIntegers FlagWord GlRs485.Configuration

set_option autoImplicit false

abbrev Flags := BitVec 32

/-! The flags of `termios.h`. -/

def CBAUD : Flags := 0o10017#32

def CSIZE : Flags := 0o60#32

def CS5 : Flags := 0

def CS6 : Flags := 0o20#32

def CS7 : Flags := 0o40#32

def CS8 : Flags := 0o60#32

def CSTOPB : Flags := 0o100#32

def CREAD : Flags := 0o200#32

def PARENB : Flags := 0o400#32

def PARODD : Flags := 0o1000#32

def CLOCAL : Flags := 0o4000#32

def CRTSCTS : Flags := 0o20000000000#32

def IGNBRK : Flags := 0o1#32

def IXON : Flags := 0o2000#32

def IXOFF : Flags := 0o10000#32

structure Termios where
  iflag : Flags
  oflag : Flags
  cflag : Flags
  lflag : Flags
  vmin : Byte
  vtime : Byte

/-- `cbaud` and `nspeed` of the supported rates. -/
def speedTab : List (Flags × Int) :=
  [(0o7#32, 300), (0o11#32, 1200), (0o13#32, 2400), (0o14#32, 4800), (0o15#32, 9600),
    (0o16#32, 19200), (0o17#32, 38400), (0o10001#32, 57600), (0o10002#32, 115200)]

def cfsetspeed (cflag cbaud : Flags) : Flags := (cflag &&& ~~~CBAUD) ||| cbaud

def cfmakeraw (cflag : Flags) : Flags := (cflag &&& ~~~(CSIZE ||| PARENB)) ||| CS8

def charSize (dataBits : Int) : Flags :=
  if dataBits = 5 then CS5
  else if dataBits = 6 then CS6
  else if dataBits = 7 then CS7
  else CS8

def withParity (parity : Int) (cflag : Flags) : Flags :=
  if parity = 1 then cflag ||| (PARENB ||| PARODD)
  else if parity = 2 then cflag ||| PARENB
  else cflag &&& ~~~PARENB

def withStopBits (stopBits : Int) (cflag : Flags) : Flags :=
  if stopBits = 2 then cflag ||| CSTOPB else cflag &&& ~~~CSTOPB

def withFlowControl (rtsCts : Bool) (cflag : Flags) : Flags :=
  if rtsCts then cflag ||| CRTSCTS else cflag &&& ~~~CRTSCTS

def inputFlags (xOnXOff : Bool) : Flags :=
  if xOnXOff then IGNBRK ||| (IXON ||| IXOFF) else IGNBRK &&& ~~~(IXON ||| IXOFF)

/-- The control flags made of the old ones. -/
def controlFlags (cbaud : Flags) (dataBits parity stopBits : Int) (rtsCts : Bool) (cflag : Flags) :
    Flags :=
  let cflag := cfmakeraw (cfsetspeed cflag cbaud)
  let cflag := cflag ||| CLOCAL
  let cflag := cflag ||| CREAD
  let cflag := cflag ||| charSize dataBits
  let cflag := withParity parity cflag
  let cflag := withStopBits stopBits cflag
  withFlowControl rtsCts cflag

/-- What `tcsetattr` is given, unless the baud rate is not supported. -/
def uartOpenSerial (bps dataBits parity stopBits : Int) (rtsCts xOnXOff : Bool) (timeout : Int)
    (origTTYAttrs : Termios) : Option Termios :=
  (speedTab.find? fun speed => speed.2 = bps).map fun speed =>
    { iflag := inputFlags xOnXOff
      oflag := 0
      cflag := controlFlags speed.1 dataBits parity stopBits rtsCts origTTYAttrs.cflag
      lflag := 0
      vmin := if timeout < 0 then 1 else 0
      vtime := if timeout < 0 then 0 else UInt8.ofNat (timeout / 100).toNat }

def modeParity (letter : Byte) : Int :=
  if letter = 101 then 2 else if letter = 111 then 1 else 0

def uartOpen (cfg : CfgT) (baudRate : Int) (rtsCts : Bool) (timeout : Int)
    (origTTYAttrs : Termios) : Option Termios :=
  let ttymode := cfg.pointer .ttymode
  let modeDataBit := toChar ((ttymode 0).toNat - 48)
  let modeStopBit := toChar ((ttymode 2).toNat - 48)
  uartOpenSerial baudRate modeDataBit (modeParity (ttymode 1)) modeStopBit rtsCts false timeout
    origTTYAttrs

inductive DataBits
  | five
  | six
  | seven
  | eight
  deriving DecidableEq

inductive Parity
  | none
  | even
  | odd
  deriving DecidableEq

inductive StopBits
  | one
  | two
  deriving DecidableEq

/-- A mode of the form `[5/6/7/8][n/e/o][1/2]`. -/
structure Mode where
  data : DataBits
  parity : Parity
  stop : StopBits
  deriving DecidableEq

def DataBits.count : DataBits → Nat
  | .five => 5
  | .six => 6
  | .seven => 7
  | .eight => 8

def StopBits.count : StopBits → Nat
  | .one => 1
  | .two => 2

def Parity.letter : Parity → Byte
  | .none => 110
  | .even => 101
  | .odd => 111

def Parity.number : Parity → Int
  | .none => 0
  | .even => 2
  | .odd => 1

def Mode.text (mode : Mode) : List Byte :=
  [UInt8.ofNat (48 + mode.data.count), mode.parity.letter, UInt8.ofNat (48 + mode.stop.count)]

/-- The control flags ask for what the mode says. -/
structure TakesEffect (mode : Mode) (cflag : Flags) : Prop where
  size : cflag &&& CSIZE = charSize mode.data.count
  parity : cflag &&& PARENB = if mode.parity = .none then 0 else PARENB
  odd : mode.parity ≠ .none → cflag &&& PARODD = if mode.parity = .odd then PARODD else 0
  stop : cflag &&& CSTOPB = if mode.stop = .two then CSTOPB else 0
  flow : cflag &&& CRTSCTS = 0
  modem : cflag &&& CLOCAL = CLOCAL
  receiver : cflag &&& CREAD = CREAD

/-- The mode's characters reach `uartOpenSerial` as the numbers they stand for. -/
theorem uart_open_of_mode (cfg : CfgT) (mode : Mode) (baudRate timeout : Int)
    (origTTYAttrs : Termios) (stored : cells (cfg.pointer .ttymode) 3 = mode.text) :
      uartOpen cfg baudRate false timeout origTTYAttrs =
        uartOpenSerial baudRate mode.data.count mode.parity.number mode.stop.count false false
          timeout origTTYAttrs := by
  have content := (cells_eq_bytes_iff (cfg.pointer .ttymode) mode.text).mp stored
  have first : cfg.pointer .ttymode 0 = UInt8.ofNat (48 + mode.data.count) :=
    content 0 (show 0 < 3 by decide)
  have second : cfg.pointer .ttymode 1 = mode.parity.letter := content 1 (show 1 < 3 by decide)
  have third : cfg.pointer .ttymode 2 = UInt8.ofNat (48 + mode.stop.count) :=
    content 2 (show 2 < 3 by decide)
  have data : toChar ((UInt8.ofNat (48 + mode.data.count)).toNat - 48) = mode.data.count := by
    cases mode.data <;> decide
  have parity : modeParity mode.parity.letter = mode.parity.number := by
    cases mode.parity <;> decide
  have stop : toChar ((UInt8.ofNat (48 + mode.stop.count)).toNat - 48) = mode.stop.count := by
    cases mode.stop <;> decide
  simp only [uartOpen, first, second, third, data, parity, stop]

theorem char_size_within (data : Int) : charSize data &&& CSIZE = charSize data := by
  unfold charSize
  split
  · decide
  · split
    · decide
    · split <;> decide

/-! Each step leaves the other fields as they are. -/

theorem char_size_elsewhere (data : Int) (cflag field : Flags) (apart : CSIZE &&& field = 0) :
    (cflag ||| charSize data) &&& field = cflag &&& field := by
  apply raised_elsewhere
  rw [← char_size_within, BitVec.and_assoc, apart]
  exact BitVec.and_zero

theorem parity_elsewhere (parity : Int) (cflag field : Flags)
    (apart : PARENB &&& field = 0) (odd : PARODD &&& field = 0) :
      withParity parity cflag &&& field = cflag &&& field := by
  unfold withParity
  split
  · apply raised_elsewhere
    rw [BitVec.and_or_distrib_right, apart, odd]
    decide
  · split
    · exact raised_elsewhere _ _ _ apart
    · exact cleared_elsewhere _ _ _ apart

theorem stop_bits_elsewhere (stopBits : Int) (cflag field : Flags) (apart : CSTOPB &&& field = 0) :
    withStopBits stopBits cflag &&& field = cflag &&& field := by
  unfold withStopBits
  split
  · exact raised_elsewhere _ _ _ apart
  · exact cleared_elsewhere _ _ _ apart

theorem flow_elsewhere (cflag field : Flags) (apart : CRTSCTS &&& field = 0) :
    withFlowControl false cflag &&& field = cflag &&& field :=
  cleared_elsewhere _ _ _ apart

section Fields

variable (cbaud cflag : Flags) (dataBits parity stopBits : Int)

/-- The size is raised on top of `CS8`, which covers the other sizes. -/
theorem control_size :
    controlFlags cbaud dataBits parity stopBits false cflag &&& CSIZE = CS8 := by
  have full : (cfmakeraw (cfsetspeed cflag cbaud) ||| CLOCAL ||| CREAD) &&& CSIZE = CS8 := by
    rw [raised_elsewhere _ CREAD _ (by decide), raised_elsewhere _ CLOCAL _ (by decide)]
    exact raised_field _ CS8 CSIZE (by decide)
  rw [controlFlags, flow_elsewhere _ _ (by decide), stop_bits_elsewhere _ _ _ (by decide),
    parity_elsewhere _ _ _ (by decide) (by decide), BitVec.and_or_distrib_right, full,
    BitVec.or_comm]
  exact full_field _ CSIZE

theorem control_stop :
    controlFlags cbaud dataBits parity stopBits false cflag &&& CSTOPB =
      if stopBits = 2 then CSTOPB else 0 := by
  rw [controlFlags, flow_elsewhere _ _ (by decide), withStopBits]
  split
  · exact raised_field _ _ _ (by decide)
  · exact cleared_field _ _ _ (by decide)

theorem control_flow :
    controlFlags cbaud dataBits parity stopBits false cflag &&& CRTSCTS = 0 :=
  cleared_field _ _ _ (by decide)

theorem control_local :
    controlFlags cbaud dataBits parity stopBits false cflag &&& CLOCAL = CLOCAL := by
  rw [controlFlags, flow_elsewhere _ _ (by decide), stop_bits_elsewhere _ _ _ (by decide),
    parity_elsewhere _ _ _ (by decide) (by decide), char_size_elsewhere _ _ _ (by decide),
    raised_elsewhere _ CREAD _ (by decide)]
  exact raised_field _ _ _ (by decide)

theorem control_receiver :
    controlFlags cbaud dataBits parity stopBits false cflag &&& CREAD = CREAD := by
  rw [controlFlags, flow_elsewhere _ _ (by decide), stop_bits_elsewhere _ _ _ (by decide),
    parity_elsewhere _ _ _ (by decide) (by decide), char_size_elsewhere _ _ _ (by decide)]
  exact raised_field _ _ _ (by decide)

theorem control_parity :
    controlFlags cbaud dataBits parity stopBits false cflag &&& PARENB =
      if parity = 1 ∨ parity = 2 then PARENB else 0 := by
  rw [controlFlags, flow_elsewhere _ _ (by decide), stop_bits_elsewhere _ _ _ (by decide),
    withParity]
  split
  · next odd => rw [if_pos (Or.inl odd), raised_field _ _ _ (by decide)]
  · next other =>
      split
      · next even => rw [if_pos (Or.inr even), raised_field _ _ _ (by decide)]
      · next none =>
          rw [if_neg (by simp [other, none])]
          exact cleared_field _ _ _ (by decide)

/-- Nothing but odd parity touches the bit that asks for it. -/
theorem control_odd (baud : cbaud &&& PARODD = 0) :
    controlFlags cbaud dataBits parity stopBits false cflag &&& PARODD =
      if parity = 1 then PARODD else cflag &&& PARODD := by
  have before : (cfmakeraw (cfsetspeed cflag cbaud) ||| CLOCAL ||| CREAD ||| charSize dataBits) &&&
      PARODD = cflag &&& PARODD := by
    rw [char_size_elsewhere _ _ _ (by decide), raised_elsewhere _ CREAD _ (by decide),
      raised_elsewhere _ CLOCAL _ (by decide), cfmakeraw, raised_elsewhere _ CS8 _ (by decide),
      cleared_elsewhere _ (CSIZE ||| PARENB) _ (by decide), cfsetspeed,
      raised_elsewhere _ cbaud _ baud, cleared_elsewhere _ CBAUD _ (by decide)]
  rw [controlFlags, flow_elsewhere _ _ (by decide), stop_bits_elsewhere _ _ _ (by decide),
    withParity]
  split
  · exact raised_field _ _ _ (by decide)
  · split
    · rw [raised_elsewhere _ _ _ (by decide), before]
    · rw [cleared_elsewhere _ _ _ (by decide), before]

end Fields

theorem char_size_full_iff (data : DataBits) : CS8 = charSize data.count ↔ data = .eight := by
  cases data <;> decide

theorem baud_leaves_parity (speed : Flags × Int) (member : speed ∈ speedTab) :
    speed.1 &&& PARODD = 0 := by
  have table : ∀ speed ∈ speedTab, speed.1 &&& PARODD = 0 := by decide +kernel
  exact table speed member

theorem control_effect_iff (mode : Mode) (speed : Flags × Int) (member : speed ∈ speedTab)
    (cflag : Flags) :
      TakesEffect mode (controlFlags speed.1 mode.data.count mode.parity.number mode.stop.count
        false cflag) ↔ mode.data = .eight ∧ (mode.parity = .even → cflag &&& PARODD = 0) := by
  have odd := control_odd speed.1 cflag mode.data.count mode.parity.number mode.stop.count
    (baud_leaves_parity speed member)
  constructor
  · intro effect
    have sized := effect.size
    rw [control_size, char_size_full_iff] at sized
    refine ⟨sized, ?_⟩
    intro even
    have bit := effect.odd (by simp [even])
    rw [odd] at bit
    simpa [even, Parity.number] using bit
  · rintro ⟨eight, clear⟩
    constructor
    · rw [control_size, char_size_full_iff]
      exact eight
    · rw [control_parity]
      cases mode.parity <;> rfl
    · intro enabled
      rw [odd]
      cases named : mode.parity with
      | none => exact absurd named enabled
      | even => simpa [Parity.number] using clear named
      | odd => simp [Parity.number]
    · rw [control_stop]
      cases mode.stop <;> rfl
    · exact control_flow _ _ _ _ _
    · exact control_local _ _ _ _ _
    · exact control_receiver _ _ _ _ _

/-- The settings take effect exactly for eight data bits, and for even parity
only where the line was not set to odd parity before. -/
theorem settings_take_effect_iff (cfg : CfgT) (mode : Mode) (baudRate timeout : Int)
    (origTTYAttrs settings : Termios) (stored : cells (cfg.pointer .ttymode) 3 = mode.text)
    (opens : uartOpen cfg baudRate false timeout origTTYAttrs = some settings) :
      TakesEffect mode settings.cflag ↔
        mode.data = .eight ∧ (mode.parity = .even → origTTYAttrs.cflag &&& PARODD = 0) := by
  rw [uart_open_of_mode cfg mode baudRate timeout origTTYAttrs stored] at opens
  obtain ⟨speed, found, rfl⟩ := Option.map_eq_some_iff.mp opens
  exact control_effect_iff mode speed (List.mem_of_find?_eq_some found) origTTYAttrs.cflag

def configured (mode : Mode) : CfgT := zeroed.copy .ttymode (ofBytes mode.text) 8

theorem configured_mode (mode : Mode) :
    cells ((configured mode).pointer .ttymode) 3 = mode.text := by
  obtain ⟨data, parity, stop⟩ := mode
  cases data <;> cases parity <;> cases stop <;> decide +kernel

theorem settings_take_effect_iff_on_fresh_port :
    TakesEffect ⟨.eight, .even, .one⟩ (controlFlags 0o15#32 8 2 1 false 0) ↔
      DataBits.eight = .eight ∧ (Parity.even = .even → (0 : Flags) &&& PARODD = 0) :=
  settings_take_effect_iff (configured ⟨.eight, .even, .one⟩) ⟨.eight, .even, .one⟩ 9600 1000
    ⟨0, 0, 0, 0, 0, 0⟩ ⟨IGNBRK, 0, controlFlags 0o15#32 8 2 1 false 0, 0, 0, 10⟩
    (configured_mode _) (by rw [uart_open_of_mode _ _ _ _ _ (configured_mode _)]; rfl)

/-- Seven data bits on a fresh port, and even parity on a line with odd parity. -/
theorem settings_without_effect :
    (uartOpen (configured ⟨.seven, .none, .one⟩) 9600 false 1000 ⟨0, 0, 0, 0, 0, 0⟩ =
        some ⟨IGNBRK, 0, controlFlags 0o15#32 7 0 1 false 0, 0, 0, 10⟩ ∧
        ¬TakesEffect ⟨.seven, .none, .one⟩ (controlFlags 0o15#32 7 0 1 false 0)) ∧
      uartOpen (configured ⟨.eight, .even, .one⟩) 9600 false 1000 ⟨0, 0, PARODD, 0, 0, 0⟩ =
          some ⟨IGNBRK, 0, controlFlags 0o15#32 8 2 1 false PARODD, 0, 0, 10⟩ ∧
        ¬TakesEffect ⟨.eight, .even, .one⟩ (controlFlags 0o15#32 8 2 1 false PARODD) := by
  refine ⟨⟨?_, ?_⟩, ?_, ?_⟩
  · rw [uart_open_of_mode _ _ _ _ _ (configured_mode _)]
    rfl
  · intro effect
    exact absurd effect.size (by decide +kernel)
  · rw [uart_open_of_mode _ _ _ _ _ (configured_mode _)]
    rfl
  · intro effect
    exact absurd (effect.odd (by decide)) (by decide +kernel)

end GlRs485.SerialMode
