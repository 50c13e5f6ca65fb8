import GlRs485.Foundation.ReflectedCrc

/-!
# The frame checksum of `crc16.c`
-/

namespace GlRs485.Crc16

open CBytes ReflectedCrc

set_option autoImplicit false

/-- One pass of the inner loop: `(crc & 0x0001) > 0` decides whether the
polynomial is XORed after the shift. -/
def crcShift (crcV crc : BitVec 16) : BitVec 16 :=
  if crc &&& 0x0001#16 > 0#16 then (crc >>> 1) ^^^ crcV else crc >>> 1

/-- The length is an `unsigned char`, and so are both counters. -/
def glCrc16 (arrBuff : Buf) (len : UInt8) (crcV : BitVec 16) : BitVec 16 :=
  (List.range len.toNat).foldl
    (fun crc j =>
      (List.range 8).foldl (fun crc _ => crcShift crcV crc)
        (crc ^^^ (arrBuff j).toBitVec.setWidth 16))
    0xFFFF#16

def modbusCrc16 (bytes : List Byte) : BitVec 16 := checksum 0xA001#16 0xFFFF#16 bytes

theorem crc_shift_eq (crcV crc : BitVec 16) : crcShift crcV crc = shift crcV crc := by
  have bit : crc &&& 0x0001#16 > 0#16 ↔ crc.getLsbD 0 = true := by
    rw [show (0x0001#16 : BitVec 16) = 1#16 from rfl, BitVec.and_one_eq_setWidth_ofBool_getLsbD]
    cases crc.getLsbD 0 <;> decide
  simp only [crcShift, shift, bit]

theorem crc_shift_eight (crcV crc : BitVec 16) :
    (List.range 8).foldl (fun crc _ => crcShift crcV crc) crc = (shift crcV)^[8] crc := by
  simp only [List.range_succ, List.range_zero, List.nil_append, List.foldl_append,
    List.foldl_cons, List.foldl_nil, crc_shift_eq]
  rfl

/-- The loop computes the reflected CRC of the bytes its 8-bit length lets it see. -/
theorem gl_crc16_eq (arrBuff : Buf) (len : UInt8) (crcV : BitVec 16) :
    glCrc16 arrBuff len crcV = checksum crcV 0xFFFF#16 (cells arrBuff len.toNat) := by
  simp only [glCrc16, crc_shift_eight, checksum, cells, List.foldl_map, absorb]

end GlRs485.Crc16
