import GlRs485.Foundation.CBytes
import Mathlib.Algebra.Ring.Int.Defs
import Mathlib.Algebra.Ring.Nat

/-!
# The integer readers of the C library

`strtol` and `strtoul` with base 0: blanks, a sign, the base a prefix shows, then
as many digits as follow. What does not fit is cut to the ends of the range.
-/

namespace CIntegers

open CBytes

set_option autoImplicit false

def isSpace (c : Byte) : Bool := c == 32 || (9 ≤ c && c ≤ 13)

/-- The value of a letter or digit; 36 stands for no digit in any base. -/
def digitValue (c : Byte) : Nat :=
  if 48 ≤ c ∧ c ≤ 57 then c.toNat - 48
  else if 65 ≤ c ∧ c ≤ 90 then c.toNat - 55
  else if 97 ≤ c ∧ c ≤ 122 then c.toNat - 87
  else 36

def readDigits (base : Nat) (text : List Byte) : Nat :=
  (text.takeWhile fun c => digitValue c < base).foldl (fun value c => value * base + digitValue c) 0

/-- The base that a prefix shows, and the text without the prefix `0x`. -/
def readBase : List Byte → Nat × List Byte
  | 48 :: x :: digit :: rest =>
      if (x = 120 ∨ x = 88) ∧ digitValue digit < 16 then (16, digit :: rest)
      else (8, 48 :: x :: digit :: rest)
  | 48 :: rest => (8, 48 :: rest)
  | text => (10, text)

def readSign : List Byte → Bool × List Byte
  | 45 :: rest => (true, rest)
  | 43 :: rest => (false, rest)
  | text => (false, text)

def readInteger (text : List Byte) : Bool × Nat :=
  let signed := readSign (text.dropWhile isSpace)
  let based := readBase signed.2
  (signed.1, readDigits based.1 based.2)

/-- `strtoul(text, NULL, 0)`; a minus sign negates in the unsigned type. -/
def strtoul (longBits : Nat) (text : List Byte) : Nat :=
  let number := readInteger text
  if 2 ^ longBits ≤ number.2 then 2 ^ longBits - 1
  else if number.1 then (2 ^ longBits - number.2) % 2 ^ longBits
  else number.2

def strtol (longBits : Nat) (text : List Byte) : Int :=
  let number := readInteger text
  let value : Int := if number.1 then -number.2 else number.2
  if value < -2 ^ (longBits - 1) then -2 ^ (longBits - 1)
  else if 2 ^ (longBits - 1) ≤ value then 2 ^ (longBits - 1) - 1
  else value

/-- The conversions to `int` and to a signed `char`. -/
def toInt (value : Int) : Int := value.bmod (2 ^ 32)

def toChar (value : Int) : Int := value.bmod (2 ^ 8)

end CIntegers
