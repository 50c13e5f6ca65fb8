import GlRs485.Configuration

/-!
# The command line: `main.c`

The option loop of `main`, and the start of the socket bridge up to `conn_loop`.
The letters `getopt` accepts are those of its option string, which has no `M`.
A refused option ends the program.
-/

namespace GlRs485.CommandLine

open CBytes CIntegers GlRs485.Configuration

set_option autoImplicit false

/-- The options of the switch that assign to `cfg`. -/
inductive Letter
  | v
  | L
  | p
  | s
  | m
  | A
  | P
  | C
  | T
  | M
  deriving DecidableEq

def Letter.char : Letter → Char
  | .v => 'v'
  | .L => 'L'
  | .p => 'p'
  | .s => 's'
  | .m => 'm'
  | .A => 'A'
  | .P => 'P'
  | .C => 'C'
  | .T => 'T'
  | .M => 'M'

structure Opt where
  letter : Letter
  optarg : List Byte
  terminated : (0 : Byte) ∉ optarg

def optstring : String := "dhv:L:p:s:m:A:B:P:C:T:F:S:H:c:"

/-- `getopt` answers `'?'` for a letter that is not in its option string. -/
def getopt (letter : Letter) : Bool := optstring.toList.contains letter.char

def slash : Byte := 47

def dash : Byte := 45

def devPath : List Byte := ascii "/dev/"

def concatenate (cfg : CfgT) (field : TextField) (path optarg : List Byte) : CfgT :=
  let cfg := cfg.copy field (ofBytes path) intbufsize
  cfg.change field fun target =>
    strncat target (ofBytes optarg) (textSize - field.offset)
      (intbufsize - strlen target (textSize - field.offset))

def toupper (c : Byte) : Byte := if 97 ≤ c ∧ c ≤ 122 then c - 32 else c

/-- The sanity checks of `-m`, made on the field after it was written. -/
def ttymodeAccepted (cfg : CfgT) : Bool :=
  let ttymode := cfg.pointer .ttymode
  let ttyparity := toupper (ttymode 1)
  strlen ttymode (textSize - TextField.ttymode.offset) == 3 && ttymode 0 == 56 &&
    (ttyparity == 78 || ttyparity == 69 || ttyparity == 79) && (ttymode 2 == 49 || ttymode 2 == 50)

def maxMaxconn : Int := 32

def maxConntimeout : Int := 86400

/-- The switch of the option loop; `none` is `exit(-1)`. -/
def parseOption (longBits : Nat) (cfg : CfgT) (opt : Opt) : Option CfgT :=
  if getopt opt.letter = false then none
  else
    let optarg := opt.optarg
    match opt.letter with
    | .v =>
        let dbglvl := toChar (strtol longBits optarg)
        if dbglvl < 0 ∨ 5 < dbglvl then none else some (cfg.set .dbglvl dbglvl)
    | .L =>
        if optarg.head? ≠ some slash then
          if optarg.head? = some dash then
            some (cfg.change .logname fun logname => put logname 0 0)
          else some (concatenate cfg .logname logPath optarg)
        else some (cfg.copy .logname (ofBytes optarg) intbufsize)
    | .p =>
        if optarg.head? ≠ some slash then some (concatenate cfg .ttyport devPath optarg)
        else some (cfg.copy .ttyport (ofBytes optarg) intbufsize)
    | .s => some (cfg.set .ttyspeed (toInt (strtoul longBits optarg)))
    | .m =>
        let cfg := cfg.copy .ttymode (ofBytes optarg) intbufsize
        if ttymodeAccepted cfg then some cfg else none
    | .A => some (cfg.copy .serveraddr (ofBytes optarg) intbufsize)
    | .P => some (cfg.set .serverport (toInt (strtoul longBits optarg)))
    | .C =>
        let maxconn := toInt (strtoul longBits optarg)
        if maxconn < 1 ∨ maxMaxconn < maxconn then none else some (cfg.set .maxconn maxconn)
    | .T =>
        let conntimeout := toInt (strtoul longBits optarg)
        if maxConntimeout < conntimeout then none else some (cfg.set .conntimeout conntimeout)
    | .M => some (cfg.copy .connmode (ofBytes optarg) intbufsize)

def parseOptions (longBits : Nat) : CfgT → List Opt → Option CfgT
  | cfg, [] => some cfg
  | cfg, opt :: rest =>
      (parseOption longBits cfg opt).bind fun cfg => parseOptions longBits cfg rest

theorem concatenate_text (cfg : CfgT) (field : TextField) (path optarg : List Byte) (place : Nat)
    (pathTerminated : (0 : Byte) ∉ path) (argTerminated : (0 : Byte) ∉ optarg)
    (fits : path.length + optarg.length ≤ intbufsize) (short : path.length < intbufsize)
    (room : field.offset + path.length < textSize) :
      (concatenate cfg field path optarg).text place =
        if field.offset ≤ place ∧
            place < field.offset + max intbufsize (path.length + optarg.length + 1) then
          ofBytes (path ++ optarg) (place - field.offset)
        else cfg.text place := by
  have copied : ∀ place, (cfg.copy field (ofBytes path) intbufsize).text place = _ :=
    fun place => copy_text cfg field path intbufsize place pathTerminated
  have holds : ∀ index ≤ path.length,
      (cfg.copy field (ofBytes path) intbufsize).pointer field index = ofBytes path index := by
    intro index bound
    rw [CfgT.pointer, copied, if_pos (by omega), Nat.add_sub_cancel_left]
  have length := strlen_terminated path (textSize - field.offset) _ pathTerminated (by omega) holds
  unfold concatenate
  by_cases before : place < field.offset
  · rw [if_neg (by omega), change_before _ _ _ _ before, copied, if_neg (by omega)]
  · rw [change_from _ _ _ _ (by omega), length, strncat_text _ path optarg _ _ _ pathTerminated
      argTerminated (by omega) (by omega) holds]
    by_cases inside : place - field.offset ≤ path.length + optarg.length
    · rw [if_pos inside, if_pos (by omega)]
    · have here : field.offset + (place - field.offset) = place := by omega
      have beyond : ofBytes (path ++ optarg) (place - field.offset) = 0 :=
        ofBytes_beyond _ _ (by rw [List.length_append]; omega)
      rw [if_neg inside, CfgT.pointer, here, copied, beyond, ofBytes_beyond path _ (by omega)]
      by_cases cleared : place < field.offset + intbufsize
      · rw [if_pos (by omega), if_pos (by omega)]
      · rw [if_neg (by omega), if_neg (by omega)]

/-- The configuration `tty_open` opens the port with. -/
def ttyOpen (uci : UciStore) (cfg : CfgT) : Option CfgT := cfgInit uci cfg

/-- The configuration in effect from `conn_init` on, when nothing fails besides:
`main` loads it, the options change it, and `conn_init` calls `tty_open`. -/
def startSocketBridge (longBits : Nat) (uci : UciStore) (options : List Opt) : Option CfgT := do
  let cfg ← cfgInit uci zeroed
  let cfg ← parseOptions longBits cfg options
  ttyOpen uci cfg

end GlRs485.CommandLine
