import GlRs485.Foundation.HexText

/-!
# Text conversions of `modbus_api.c`

Blank removal, the wrapping one-byte hex readers, and the two-pass hex decoder
and encoder. The 8-bit loop counters of the source are kept as `UInt8`. A loop
whose counter may never pass its bound is run with fuel and answers `none` when
the fuel is used up. A length is an `int` there, so strings and lengths stay
below 2^31 here.
-/

namespace GlRs485.HexCodec

open CBytes HexText

set_option autoImplicit false

/-- The locals of `remove_blank1`: `is` is the start of the gap (`none` for -1)
and `inn` counts the blanks seen. -/
structure BlankScan where
  str : Buf
  gap : Option Nat
  inn : Nat

def removeBlank1Step (scan : BlankScan) (i : Nat) : BlankScan :=
  if scan.str i ≠ 32 then
    match scan.gap with
    | some gap =>
        { scan with
          str := put (put scan.str gap (scan.str i)) i 32
          gap := if scan.inn = 1 then some i else some (gap + 1) }
    | none => scan
  else
    match scan.gap with
    | none => { scan with gap := some i, inn := scan.inn + 1 }
    | some _ => { scan with inn := scan.inn + 1 }

def removeBlank1 (str : Buf) (count : Nat) : Buf :=
  let scan := (List.range count).foldl removeBlank1Step ⟨str, none, 0⟩
  match scan.gap with
  | some gap => put scan.str gap 0
  | none => scan.str

/-- The loop of `remove_blank` from character `i` on: the same passes, up to the NUL. -/
def removeBlankLoop : Nat → Nat → BlankScan → BlankScan
  | 0, _, scan => scan
  | fuel + 1, i, scan =>
      if scan.str i = 0 then scan else removeBlankLoop fuel (i + 1) (removeBlank1Step scan i)

/-- `remove_blank` on a string in the first `size` cells. -/
def removeBlank (str : Buf) (size : Nat) : Buf :=
  let scan := removeBlankLoop size 0 ⟨str, none, 0⟩
  match scan.gap with
  | some gap => put scan.str gap 0
  | none => scan.str

/-- The digit arithmetic shared by `my_hex_str_to_i` and `my_hex_str_to_i_l`:
whatever is no letter digit is taken relative to `'0'`, modulo 256. -/
def nibble (c : Byte) : Byte :=
  if 65 ≤ c ∧ c ≤ 70 then c - 65 + 10
  else if 97 ≤ c ∧ c ≤ 102 then c - 97 + 10
  else c - 48

def myHexStrToILoop (s : List Byte) : Nat → UInt8 → Byte → Option Byte
  | 0, _, _ => none
  | fuel + 1, i, tmp =>
      if i.toNat < s.length then
        myHexStrToILoop s fuel (i + 1) (tmp * 16 + nibble (s.getD i.toNat 0))
      else some tmp

/-- An 8-bit counter has been everywhere after 256 tests of the loop condition. -/
def counterFuel : Nat := 256

def myHexStrToI (s : List Byte) : Option Byte := myHexStrToILoop s counterFuel 0 0

/-- `offset` is an `unsigned char`; the sum with the counter is an `int`. -/
def myHexStrToIL (s : Buf) (len offset : UInt8) : Byte :=
  (List.range len.toNat).foldl (fun tmp i => tmp * 16 + nibble (s (i + offset.toNat))) 0

def encodeDigits : Buf := ofBytes (ascii "0123456789ABCDEF")

def glHex2strStep (input output : Buf) (i : Nat) : Buf :=
  put (put output (2 * i) (encodeDigits ((input i >>> 4) &&& 0xf).toNat))
    (2 * i + 1) (encodeDigits (input i &&& 0xf).toNat)

def glHex2str (input : Buf) (inputLen : Nat) (output : Buf) : Buf :=
  (List.range inputLen).foldl (glHex2strStep input) output

def digitCell (c : Byte) : Option Byte :=
  if 48 ≤ c ∧ c ≤ 57 then some (c - 48)
  else if 65 ≤ c ∧ c ≤ 70 then some (c - 65 + 10)
  else if 97 ≤ c ∧ c ≤ 102 then some (c - 97 + 10)
  else none

def putDigit (out : Buf) (position : Nat) (c : Byte) : Buf :=
  match digitCell c with
  | some value => put out position value
  | none => out

def digitPass (strIn : Buf) (sLen : Nat) : Nat → UInt8 → Buf → Option Buf
  | 0, _, _ => none
  | fuel + 1, size1, out =>
      if size1.toNat < sLen then
        digitPass strIn sLen fuel (size1 + 1) (putDigit out size1.toNat (strIn size1.toNat))
      else some out

def packPair (out : Buf) (size1 : UInt8) : Byte :=
  (out size1.toNat <<< 4) ||| out (size1.toNat + 1)

def packPass (sLen : Nat) : Nat → UInt8 → UInt8 → Buf → Option Buf
  | 0, _, _, _ => none
  | fuel + 1, size1, i, out =>
      if size1.toNat ≤ sLen then
        packPass sLen fuel (size1 + 2) (i + 1) (put out i.toNat (packPair out size1))
      else some out

def glStr2acsllFuel (fuel : Nat) (strIn : Buf) (sLen : Nat) (acsllOut : Buf) : Option Buf :=
  (digitPass strIn sLen fuel 0 acsllOut).bind fun out => packPass sLen fuel 0 0 out

/-- `none` when one of the two loops never ends. -/
def glStr2acsll (strIn : Buf) (sLen : Nat) (acsllOut : Buf) : Option Buf :=
  glStr2acsllFuel counterFuel strIn sLen acsllOut

end GlRs485.HexCodec
