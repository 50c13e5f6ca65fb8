import GlRs485.Foundation.CBytes

/-!
# The configuration the bridges read

The fields of `cfg_t` that the two loops look at. Strings are the bytes before
the terminator, so `strncmp(a, b, n)` is 0 exactly when the first `n` bytes
agree and `strcmp(a, b)` when all do.
-/

namespace GlRs485.BridgeSettings

open CBytes

set_option autoImplicit false

structure Cfg where
  conntimeout : Int
  maxconn : Int
  mqttautoconn : Int
  mqttautoconnmaxtime : Int
  ttytype : List Byte
  connmode : List Byte

/-- `!strncmp(cfg.connmode, "tcps", 4)`. -/
def Cfg.isTcps (cfg : Cfg) : Bool := cfg.connmode.take 4 == ascii "tcps"

/-- `!strncmp(cfg.connmode, "udp", 3)`. -/
def Cfg.isUdp (cfg : Cfg) : Bool := cfg.connmode.take 3 == ascii "udp"

/-- `!strcmp(cfg.ttytype, "str")`. -/
def Cfg.isStr (cfg : Cfg) : Bool := cfg.ttytype == ascii "str"

end GlRs485.BridgeSettings
