import GlRs485.Foundation.CrcDetection

/-!
# How far apart intact words are

Two flipped bits cancel each other only when a register with a single one in it
comes back to itself on the way from the one to the other. The polynomial's own
bits, behind a one, always cancel.
-/

namespace ReflectedCrc

open CBytes

set_option autoImplicit false

variable {width : Nat}

/-- None of the next shifts leads to the goal. -/
def avoids (poly goal : BitVec width) : Nat → BitVec width → Bool
  | 0, _ => true
  | count + 1, register =>
      decide (shift poly register ≠ goal) && avoids poly goal count (shift poly register)

theorem iterate_of_avoids (poly goal register : BitVec width) (count steps : Nat)
    (avoided : avoids poly goal count register = true) (positive : 0 < steps)
    (within : steps ≤ count) : (shift poly)^[steps] register ≠ goal := by
  induction count generalizing register steps with
  | zero => omega
  | succ count ih =>
      rw [avoids, Bool.and_eq_true, decide_eq_true_iff] at avoided
      obtain ⟨steps, rfl⟩ := Nat.exists_eq_succ_of_ne_zero (by omega : steps ≠ 0)
      rw [Function.iterate_succ_apply]
      cases steps with
      | zero => exact avoided.1
      | succ steps => exact ih (shift poly register) (steps + 1) avoided.2 (by omega) (by omega)

theorem split_at_one (bits : List Bool) (count : Nat) (ones : bits.count true = count + 1) :
    ∃ before after, bits = before ++ true :: after ∧ (∀ value ∈ before, value = false) ∧
      after.count true = count := by
  have some : true ∈ bits := List.count_pos_iff.mp (by omega)
  obtain ⟨before, after, split, quiet⟩ := List.eq_append_cons_of_mem some
  refine ⟨before, after, split, ?_, ?_⟩
  · intro value member
    rw [← Bool.not_eq_true]
    rintro rfl
    exact quiet member
  · have counted := ones
    rw [split, List.count_append, List.count_cons_self, List.count_eq_zero_of_not_mem quiet]
      at counted
    omega

theorem quiet_of_count (bits : List Bool) (none : bits.count true = 0) :
    ∀ value ∈ bits, value = false := by
  intro value member
  rw [← Bool.not_eq_true]
  rintro rfl
  exact List.count_eq_zero.mp none member

theorem remainder_single (poly register : BitVec width) (bits : List Bool)
    (one : bits.count true = 1) :
      ∃ before after, before + after + 1 = bits.length ∧ remainder poly register bits =
        (shift poly)^[after + 1] ((shift poly)^[before] register ^^^ bit width true) := by
  obtain ⟨front, back, rfl, quiet, none⟩ := split_at_one bits 0 one
  refine ⟨front.length, back.length, by simp; omega, ?_⟩
  rw [remainder_append, remainder_quiet poly register front quiet,
    Function.iterate_succ_apply]
  exact remainder_quiet poly _ back (quiet_of_count back none)

/-- Two ones leave a remainder when no way between two places closes a cycle. -/
theorem remainder_pair (poly : BitVec width) (top : poly.getLsbD (width - 1) = true)
    (bits : List Bool) (two : bits.count true = 2)
    (open_ : ∀ distance, 0 < distance → distance < bits.length →
      (shift poly)^[distance] (bit width true) ≠ bit width true) :
      remainder poly 0 bits ≠ 0 := by
  obtain ⟨front, back, rfl, quiet, one⟩ := split_at_one bits 1 two
  obtain ⟨before, after, length, left⟩ :=
    remainder_single poly (shift poly (bit width true)) back one
  intro zero
  have alone : (0 : BitVec width) ^^^ bit width true = bit width true := BitVec.zero_xor
  have entered : absorbBit poly 0 true = shift poly (bit width true) := by rw [absorbBit, alone]
  rw [remainder_append, remainder_quiet poly 0 front quiet, iterate_shift_zero, remainder,
    List.foldl_cons, entered] at zero
  have closed := eq_zero_of_iterate_shift poly _ top _ (left.symm.trans zero)
  rw [← Function.iterate_succ_apply] at closed
  apply open_ (before + 1) (by omega)
  · rw [List.length_append, List.length_cons]
    omega
  · exact BitVec.xor_eq_zero_iff.mp closed

/-- A one and the bits of the polynomial behind it leave no remainder, and neither does
what is quiet from there on. -/
theorem remainder_polynomial (poly : BitVec width) (wide : 1 < width) (bits rest : List Bool)
    (same : word width bits = poly) (fits : bits.length = width)
    (quiet : ∀ value ∈ rest, value = false) : remainder poly 0 (true :: (bits ++ rest)) = 0 := by
  have first : absorbBit poly 0 true = poly := by
    have low : (bit width true).getLsbD 0 = true := by simp [bit_getLsbD, Nat.lt_of_succ_lt wide]
    have gone : bit width true >>> 1 = 0 := by
      apply BitVec.eq_of_getLsbD_eq
      intro index _
      rw [BitVec.getLsbD_ushiftRight, bit_getLsbD]
      simp
    have alone : (0 : BitVec width) ^^^ bit width true = bit width true := BitVec.zero_xor
    rw [absorbBit, alone, shift, if_pos low, gone]
    exact BitVec.zero_xor
  have cancelled : remainder poly poly bits = 0 := by
    rw [remainder_word poly poly bits (by omega), same, BitVec.xor_self]
    exact iterate_shift_zero poly _
  rw [remainder, List.foldl_cons, first]
  change remainder poly poly (bits ++ rest) = 0
  rw [remainder_append, cancelled, remainder_quiet poly 0 rest quiet, iterate_shift_zero]

end ReflectedCrc
