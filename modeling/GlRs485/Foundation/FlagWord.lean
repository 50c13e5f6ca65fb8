import Mathlib.Init

/-!
# Words of flags

What is found in a field of a word after some bits were cleared or raised: all
or nothing of the field where the bits cover it, and what was there before
where they lie elsewhere.
-/

namespace FlagWord

set_option autoImplicit false

section

variable {width : Nat} (word bits field : BitVec width)

theorem cleared_field (covered : bits &&& field = field) : (word &&& ~~~bits) &&& field = 0 := by
  rw [← covered]
  apply BitVec.eq_of_getLsbD_eq
  intro bit inside
  simp only [BitVec.getLsbD_and, BitVec.getLsbD_not, inside, decide_true, Bool.true_and]
  cases bits.getLsbD bit <;> simp

theorem full_field : (word &&& field) ||| field = field := by
  apply BitVec.eq_of_getLsbD_eq
  intro bit _
  simp only [BitVec.getLsbD_or, BitVec.getLsbD_and]
  cases field.getLsbD bit <;> simp

theorem raised_field (covered : bits &&& field = field) : (word ||| bits) &&& field = field := by
  rw [BitVec.and_or_distrib_right, covered, full_field]

theorem cleared_elsewhere (apart : bits &&& field = 0) :
    (word &&& ~~~bits) &&& field = word &&& field := by
  apply BitVec.eq_of_getLsbD_eq
  intro bit inside
  have disjoint : (bits.getLsbD bit && field.getLsbD bit) = false := by
    rw [← BitVec.getLsbD_and, apart]
    exact BitVec.getLsbD_zero
  simp only [BitVec.getLsbD_and, BitVec.getLsbD_not, inside, decide_true, Bool.true_and]
  cases first : bits.getLsbD bit
  · simp
  · simp only [first, Bool.true_and] at disjoint
    simp [disjoint]

theorem raised_elsewhere (apart : bits &&& field = 0) :
    (word ||| bits) &&& field = word &&& field := by
  rw [BitVec.and_or_distrib_right, apart]
  exact BitVec.or_zero

end

section Masked

variable {width : Nat}

/-- Some bits are kept and some are raised, whatever the word is. -/
def Masked (change : BitVec width → BitVec width) : Prop :=
  ∃ keep raise, ∀ word, change word = (word &&& keep) ||| raise

theorem masked_and (bits : BitVec width) : Masked fun word => word &&& bits :=
  ⟨bits, 0, fun _ => BitVec.or_zero.symm⟩

theorem masked_or (bits : BitVec width) : Masked fun word => word ||| bits := by
  refine ⟨BitVec.allOnes width, bits, fun word => ?_⟩
  rw [BitVec.and_allOnes]

theorem masked_comp {first second : BitVec width → BitVec width} (then_ : Masked second)
    (before : Masked first) : Masked fun word => second (first word) := by
  obtain ⟨keep, raise, shape⟩ := before
  obtain ⟨keep', raise', shape'⟩ := then_
  refine ⟨keep &&& keep', (raise &&& keep') ||| raise', fun word => ?_⟩
  dsimp only
  rw [shape', shape, BitVec.and_or_distrib_right, BitVec.and_assoc, BitVec.or_assoc]

theorem masked_twice {change : BitVec width → BitVec width} (masked : Masked change)
    (word : BitVec width) : change (change word) = change word := by
  obtain ⟨keep, raise, shape⟩ := masked
  rw [shape, shape, BitVec.and_or_distrib_right, BitVec.and_assoc, BitVec.and_self,
    BitVec.or_assoc]
  congr 1
  rw [BitVec.and_comm]
  exact full_field keep raise

end Masked

end FlagWord
