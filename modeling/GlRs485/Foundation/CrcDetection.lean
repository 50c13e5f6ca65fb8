import GlRs485.Foundation.ReflectedCrc
import Mathlib.Algebra.BigOperators.Group.Finset.Basic
import Mathlib.Algebra.Field.ZMod

/-!
# What a reflected cyclic redundancy check detects

A register that absorbs bits, least significant first in each byte, is linear in
its content and in the bits. A polynomial with its top bit set makes every shift
invertible, so an error confined to one register width is never absorbed without
a trace; a polynomial with an odd number of ones makes the parity of the register
count the ones absorbed.
-/

namespace ReflectedCrc

open CBytes

set_option autoImplicit false

variable {width : Nat}

theorem shift_zero (poly : BitVec width) : shift poly 0 = 0 := by
  simp [shift]

theorem shift_xor (poly left right : BitVec width) :
    shift poly (left ^^^ right) = shift poly left ^^^ shift poly right := by
  apply BitVec.eq_of_getLsbD_eq
  intro index _
  cases low : left.getLsbD 0 <;> cases low' : right.getLsbD 0 <;>
    cases poly.getLsbD index <;>
      simp [shift, low, low', BitVec.getLsbD_ushiftRight] <;>
        cases left.getLsbD (1 + index) <;> cases right.getLsbD (1 + index) <;> simp

theorem iterate_shift_zero (poly : BitVec width) (count : Nat) :
    (shift poly)^[count] 0 = 0 := by
  induction count with
  | zero => rfl
  | succ count ih => rw [Function.iterate_succ_apply, shift_zero, ih]

/-- A set top bit of the polynomial tells whether a one left the register. -/
theorem eq_zero_of_shift (poly register : BitVec width) (top : poly.getLsbD (width - 1) = true)
    (zero : shift poly register = 0) : register = 0 := by
  have positive : 0 < width := by
    have bound := BitVec.lt_of_getLsbD top
    omega
  have bits : ∀ index, (shift poly register).getLsbD index = false := by
    intro index
    rw [zero]
    simp
  have low : register.getLsbD 0 = false := by
    by_contra one
    have last := bits (width - 1)
    have outside : register.getLsbD (1 + (width - 1)) = false :=
      BitVec.getLsbD_of_ge register _ (by omega)
    have entered : shift poly register = (register >>> 1) ^^^ poly := by simp [shift, one]
    rw [entered, BitVec.getLsbD_xor, BitVec.getLsbD_ushiftRight, outside, top] at last
    simp at last
  apply BitVec.eq_of_getLsbD_eq
  intro index bound
  cases index with
  | zero => simpa using low
  | succ index =>
      have moved := bits index
      simp only [shift, low, Bool.false_eq_true, if_false, BitVec.getLsbD_ushiftRight] at moved
      rw [Nat.add_comm] at moved
      simpa using moved

theorem eq_zero_of_iterate_shift (poly register : BitVec width)
    (top : poly.getLsbD (width - 1) = true) (count : Nat)
    (zero : (shift poly)^[count] register = 0) : register = 0 := by
  induction count generalizing register with
  | zero => exact zero
  | succ count ih =>
      rw [Function.iterate_succ_apply] at zero
      exact eq_zero_of_shift poly register top (ih _ zero)

theorem shift_injective (poly : BitVec width) (top : poly.getLsbD (width - 1) = true) :
    Function.Injective (shift poly) := by
  intro left right same
  have none : shift poly (left ^^^ right) = 0 := by
    rw [shift_xor, same]
    exact BitVec.xor_self
  exact BitVec.xor_eq_zero_iff.mp (eq_zero_of_shift poly _ top none)

theorem absorb_injective (poly register : BitVec width) (top : poly.getLsbD (width - 1) = true)
    (wide : 8 ≤ width) : Function.Injective (absorb poly register) := by
  intro left right same
  have loaded := (shift_injective poly top).iterate 8 same
  have bytes : left.toBitVec.setWidth width = right.toBitVec.setWidth width :=
    (BitVec.xor_right_inj register).mp loaded
  apply UInt8.toBitVec_inj.mp
  apply BitVec.eq_of_getLsbD_eq
  intro index bound
  have bit := congrArg (fun word => word.getLsbD index) bytes
  simpa [BitVec.getLsbD_setWidth, show index < width by omega] using bit

def bit (width : Nat) (value : Bool) : BitVec width := (BitVec.ofBool value).setWidth width

def absorbBit (poly register : BitVec width) (value : Bool) : BitVec width :=
  shift poly (register ^^^ bit width value)

def remainder (poly initial : BitVec width) (bits : List Bool) : BitVec width :=
  bits.foldl (absorbBit poly) initial

/-- The bits of a byte, least significant first. -/
def byteBits (byte : Byte) : List Bool := (List.range 8).map byte.toBitVec.getLsbD

def bitsOf (bytes : List Byte) : List Bool := bytes.flatMap byteBits

def word (width : Nat) (bits : List Bool) : BitVec width :=
  (BitVec.ofBoolListLE bits).setWidth width

theorem word_getLsbD (bits : List Bool) (index : Nat) (bound : index < width) :
    (word width bits).getLsbD index = bits.getD index false := by
  simp [word, bound]

theorem bit_getLsbD (value : Bool) (index : Nat) :
    (bit width value).getLsbD index = (decide (index < width) && (decide (index = 0) && value)) := by
  cases index <;> simp [bit]

theorem word_cons (value : Bool) (rest : List Bool) :
    word width (value :: rest) = bit width value ^^^ (word width rest <<< 1) := by
  apply BitVec.eq_of_getLsbD_eq
  intro index bound
  rw [word_getLsbD _ _ bound, BitVec.getLsbD_xor, bit_getLsbD, BitVec.getLsbD_shiftLeft]
  cases index with
  | zero => simp [bound]
  | succ index =>
      have later : (word width rest).getLsbD index = rest.getD index false :=
        word_getLsbD rest index (by omega)
      simp [bound, later]

theorem shift_word (poly : BitVec width) (rest : List Bool) (short : rest.length < width) :
    shift poly (word width rest <<< 1) = word width rest := by
  have low : (word width rest <<< 1).getLsbD 0 = false := by simp
  simp only [shift, low, Bool.false_eq_true, if_false]
  apply BitVec.eq_of_getLsbD_eq
  intro index bound
  rw [BitVec.getLsbD_ushiftRight, BitVec.getLsbD_shiftLeft]
  by_cases inside : 1 + index < width
  · simp [inside]
  · rw [word_getLsbD rest index bound, List.getD_eq_default _ _ (by omega)]
    simp [inside]

theorem remainder_word (poly register : BitVec width) (bits : List Bool)
    (short : bits.length ≤ width) :
      remainder poly register bits = (shift poly)^[bits.length] (register ^^^ word width bits) := by
  induction bits generalizing register with
  | nil =>
      have none : word width [] = 0 := by
        apply BitVec.eq_of_getLsbD_eq
        intro index bound
        rw [word_getLsbD _ _ bound]
        simp
      simp [remainder, none]
  | cons value rest ih =>
      have shorter : rest.length < width := short
      have loaded : shift poly (register ^^^ word width (value :: rest)) =
          absorbBit poly register value ^^^ word width rest := by
        rw [word_cons, ← BitVec.xor_assoc, shift_xor, shift_word poly rest shorter]
        rfl
      rw [List.length_cons, Function.iterate_succ_apply, loaded,
        ← ih (absorbBit poly register value) (by omega)]
      rfl

theorem remainder_append (poly register : BitVec width) (front back : List Bool) :
    remainder poly register (front ++ back) = remainder poly (remainder poly register front) back :=
  List.foldl_append

theorem word_byteBits (byte : Byte) : word width (byteBits byte) = byte.toBitVec.setWidth width := by
  apply BitVec.eq_of_getLsbD_eq
  intro index bound
  rw [word_getLsbD _ _ bound, BitVec.getLsbD_setWidth, byteBits]
  by_cases inside : index < 8
  · simp [inside, bound]
  · rw [List.getD_eq_default _ _ (by simp; omega), BitVec.getLsbD_of_ge _ _ (by omega)]
    simp

theorem absorb_eq (poly register : BitVec width) (byte : Byte) (wide : 8 ≤ width) :
    absorb poly register byte = remainder poly register (byteBits byte) := by
  rw [remainder_word poly register (byteBits byte) (by simpa [byteBits] using wide), word_byteBits]
  simp [absorb, byteBits]

theorem checksum_eq (poly initial : BitVec width) (bytes : List Byte) (wide : 8 ≤ width) :
    checksum poly initial bytes = remainder poly initial (bitsOf bytes) := by
  induction bytes generalizing initial with
  | nil => rfl
  | cons byte rest ih =>
      have first := absorb_eq poly initial byte wide
      have later := ih (absorb poly initial byte)
      rw [bitsOf, List.flatMap_cons, remainder_append, ← first]
      exact later

/-- The remainder is linear in the register and the bits together. -/
theorem remainder_xor (poly left right : BitVec width) (bits errors : List Bool)
    (length : bits.length = errors.length) :
      remainder poly (left ^^^ right) (List.zipWith xor bits errors) =
        remainder poly left bits ^^^ remainder poly right errors := by
  induction bits generalizing left right errors with
  | nil =>
      have none : errors = [] := List.length_eq_zero_iff.mp length.symm
      simp [remainder, none]
  | cons value bits ih =>
      cases errors with
      | nil => simp at length
      | cons error errors =>
          have together : absorbBit poly (left ^^^ right) (xor value error) =
              absorbBit poly left value ^^^ absorbBit poly right error := by
            have sum : bit width (xor value error) = bit width value ^^^ bit width error := by
              apply BitVec.eq_of_getLsbD_eq
              intro index bound
              rw [BitVec.getLsbD_xor, bit_getLsbD, bit_getLsbD, bit_getLsbD]
              cases index <;> simp [bound]
            rw [absorbBit, absorbBit, absorbBit, sum, ← shift_xor]
            congr 1
            ac_rfl
          have rest := ih (absorbBit poly left value) (absorbBit poly right error) errors
            (by simpa using length)
          rw [List.zipWith_cons_cons, remainder, List.foldl_cons, together]
          exact rest

theorem remainder_quiet (poly register : BitVec width) (bits : List Bool)
    (quiet : ∀ value ∈ bits, value = false) :
      remainder poly register bits = (shift poly)^[bits.length] register := by
  induction bits generalizing register with
  | nil => rfl
  | cons value rest ih =>
      have off : absorbBit poly register value = shift poly register := by
        rw [quiet value (by simp), absorbBit]
        simp [bit]
      rw [List.length_cons, Function.iterate_succ_apply, ← off, ← ih _ fun later member =>
        quiet later (by simp [member])]
      rfl

theorem quiet_of_outside (bits : List Bool) (start span : Nat)
    (confined : ∀ index, bits.getD index false = true → start ≤ index ∧ index < start + span) :
      (∀ value ∈ bits.take start, value = false) ∧
        ∀ value ∈ (bits.drop start).drop span, value = false := by
  constructor
  · intro value member
    obtain ⟨index, bound, rfl⟩ := List.mem_iff_getElem.mp member
    rw [List.length_take] at bound
    rw [List.getElem_take]
    by_contra one
    have inside := confined index (by simpa [show index < bits.length by omega] using one)
    omega
  · intro value member
    obtain ⟨index, bound, rfl⟩ := List.mem_iff_getElem.mp member
    rw [List.length_drop, List.length_drop] at bound
    rw [List.getElem_drop, List.getElem_drop]
    by_contra one
    have inside := confined (start + (span + index))
      (by simpa [show start + (span + index) < bits.length by omega] using one)
    omega

/-- An error confined to one register width leaves a remainder. -/
theorem remainder_burst (poly : BitVec width) (top : poly.getLsbD (width - 1) = true)
    (bits : List Bool) (start : Nat) (some : true ∈ bits)
    (confined : ∀ index, bits.getD index false = true → start ≤ index ∧ index < start + width) :
      remainder poly 0 bits ≠ 0 := by
  obtain ⟨before, after⟩ := quiet_of_outside bits start width confined
  let middle := (bits.drop start).take width
  have parts : bits = bits.take start ++ (middle ++ (bits.drop start).drop width) := by
    rw [List.take_append_drop, List.take_append_drop]
  have short : middle.length ≤ width := by simp [middle]
  intro zero
  rw [parts, remainder_append, remainder_append, remainder_quiet _ _ _ before,
    iterate_shift_zero, remainder_quiet _ _ _ after] at zero
  have loaded := eq_zero_of_iterate_shift poly _ top _ zero
  have alone : (0 : BitVec width) ^^^ word width middle = word width middle := BitVec.zero_xor
  rw [remainder_word poly _ middle short, alone] at loaded
  have blank := eq_zero_of_iterate_shift poly _ top _ loaded
  have noOne : ∀ value ∈ middle, value = false := by
    intro value member
    obtain ⟨index, bound, rfl⟩ := List.mem_iff_getElem.mp member
    have cell : (word width middle).getLsbD index = middle.getD index false :=
      word_getLsbD middle index (by omega)
    rw [blank] at cell
    simpa [bound] using cell.symm
  rw [parts] at some
  rcases List.mem_append.mp some with left | right
  · exact absurd (before true left) (by simp)
  · rcases List.mem_append.mp right with inside | later
    · exact absurd (noOne true inside) (by simp)
    · exact absurd (after true later) (by simp)

def weight (value : Bool) : ZMod 2 := if value then 1 else 0

theorem weight_xor (left right : Bool) : weight (xor left right) = weight left + weight right := by
  cases left <;> cases right <;> decide

def parity (register : BitVec width) : ZMod 2 :=
  ∑ index ∈ Finset.range width, weight (register.getLsbD index)

theorem parity_xor (left right : BitVec width) :
    parity (left ^^^ right) = parity left + parity right := by
  simp only [parity, BitVec.getLsbD_xor, weight_xor, Finset.sum_add_distrib]

theorem parity_ushiftRight (register : BitVec width) :
    parity (register >>> 1) + weight (register.getLsbD 0) = parity register := by
  have shifted : ∀ index, (register >>> 1).getLsbD index = register.getLsbD (index + 1) := by
    intro index
    rw [BitVec.getLsbD_ushiftRight, Nat.add_comm]
  have beyond : weight (register.getLsbD width) = 0 := by
    rw [BitVec.getLsbD_of_ge register width (le_refl _)]
    rfl
  calc
    parity (register >>> 1) + weight (register.getLsbD 0) =
        ∑ index ∈ Finset.range (width + 1), weight (register.getLsbD index) := by
      simp only [parity, shifted, Finset.sum_range_succ']
    _ = parity register := by rw [Finset.sum_range_succ, beyond, add_zero, parity]

theorem parity_shift (poly register : BitVec width) (odd : parity poly = 1) :
    parity (shift poly register) = parity register := by
  have moved := parity_ushiftRight register
  cases low : register.getLsbD 0 with
  | false =>
      rw [low, show weight false = 0 from rfl, add_zero] at moved
      simpa [shift, low] using moved
  | true =>
      rw [low, show weight true = 1 from rfl] at moved
      simpa [shift, low, parity_xor, odd] using moved

theorem parity_bit (value : Bool) (positive : 0 < width) :
    parity (bit width value) = weight value := by
  rw [parity, Finset.sum_eq_single 0]
  · rw [bit_getLsbD]
    simp [positive]
  · intro index _ other
    simp [bit_getLsbD, other, weight]
  · intro outside
    simp [positive] at outside

theorem parity_remainder (poly register : BitVec width) (bits : List Bool) (positive : 0 < width)
    (odd : parity poly = 1) :
      parity (remainder poly register bits) = parity register + (bits.count true : ZMod 2) := by
  induction bits generalizing register with
  | nil => simp [remainder]
  | cons value rest ih =>
      have absorbed : parity (absorbBit poly register value) = parity register + weight value := by
        rw [absorbBit, parity_shift poly _ odd, parity_xor, parity_bit value positive]
      have later := ih (absorbBit poly register value)
      rw [absorbed] at later
      rw [show remainder poly register (value :: rest) =
        remainder poly (absorbBit poly register value) rest from rfl, later]
      cases value <;> simp [weight, add_assoc, add_comm]

/-- An odd number of errors leaves a remainder. -/
theorem remainder_odd (poly : BitVec width) (bits : List Bool) (positive : 0 < width)
    (odd : parity poly = 1) (flips : bits.count true % 2 = 1) :
      remainder poly 0 bits ≠ 0 := by
  intro zero
  have counted := parity_remainder poly 0 bits positive odd
  have blank : parity (0 : BitVec width) = 0 := by simp [parity, weight]
  have one : (bits.count true : ZMod 2) = 1 := by
    rw [← Nat.mod_add_div (bits.count true) 2, flips]
    push_cast
    rw [show (2 : ZMod 2) = 0 from rfl]
    simp
  rw [zero, blank, one] at counted
  exact absurd counted (by decide)

end ReflectedCrc
