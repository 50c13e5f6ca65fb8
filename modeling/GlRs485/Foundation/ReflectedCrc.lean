import GlRs485.Foundation.CBytes
import Mathlib.Logic.Function.Iterate

/-!
# Reflected cyclic redundancy checks

The bit-serial definition for any register width: a byte is XORed onto the low
end of the register, which is then shifted right eight times, XORing the
reflected polynomial whenever a one leaves the register.
-/

namespace ReflectedCrc

open CBytes

set_option autoImplicit false

variable {width : Nat}

def shift (poly register : BitVec width) : BitVec width :=
  if register.getLsbD 0 then (register >>> 1) ^^^ poly else register >>> 1

def absorb (poly register : BitVec width) (byte : Byte) : BitVec width :=
  (shift poly)^[8] (register ^^^ byte.toBitVec.setWidth width)

def checksum (poly initial : BitVec width) (bytes : List Byte) : BitVec width :=
  bytes.foldl (absorb poly) initial

end ReflectedCrc
