import GlRs485.Foundation.CBytes
import Mathlib.Logic.Nontrivial.Defs

/-!
# What a change writes and what an observation reads

A change of a memory writes within a region when it leaves every other place as
it was, whatever stood there. An observation reads within a region when it is the
same for memories that agree there. A change that gives a place one value whatever
was there before has written to it, so both notions find a single place outside.
-/

namespace Footprint

set_option autoImplicit false

variable {Place Value Result : Type*}

def WritesWithin (region : Place → Prop) (change : (Place → Value) → Place → Value) : Prop :=
  ∀ memory place, ¬region place → change memory place = memory place

def ReadsWithin (region : Place → Prop) (observe : (Place → Value) → Result) : Prop :=
  ∀ left right, (∀ place, region place → left place = right place) → observe left = observe right

theorem WritesWithin.comp {region : Place → Prop} {first second : (Place → Value) → Place → Value}
    (later : WritesWithin region second) (earlier : WritesWithin region first) :
      WritesWithin region fun memory => second (first memory) := by
  intro memory place outside
  calc
    second (first memory) place = first memory place := later (first memory) place outside
    _ = memory place := earlier memory place outside

theorem overwritten_inside [Nontrivial Value] {region : Place → Prop}
    {change : (Place → Value) → Place → Value} (within : WritesWithin region change)
    (place : Place) (value : Value) (overwritten : ∀ memory, change memory place = value) :
      region place := by
  by_contra outside
  obtain ⟨other, different⟩ := exists_ne value
  have kept := within (fun _ => other) place outside
  rw [overwritten] at kept
  exact different kept.symm

/-! ## Buffers -/

section Buffers

open CBytes

instance : Nontrivial Byte := ⟨0, 1, by decide⟩

theorem store_writes_within_iff (size offset : Nat) (bytes : List Byte) :
    WritesWithin (· < size) (fun buf => store buf offset bytes) ↔
      bytes = [] ∨ offset + bytes.length ≤ size := by
  constructor
  · intro within
    by_cases empty : bytes = []
    · exact Or.inl empty
    · have some := List.length_pos_iff.mpr empty
      have last := overwritten_inside within (offset + (bytes.length - 1))
        (bytes.getD (bytes.length - 1) 0) fun buf => by
          rw [store, if_pos (by omega), Nat.add_sub_cancel_left]
      exact Or.inr (by omega)
  · rintro (rfl | room) buf index outside
    · exact if_neg (by simp)
    · exact if_neg (by omega)

theorem strncpy_writes_within_iff (size count : Nat) (source : Buf) :
    WritesWithin (· < size) (fun buf => strncpy buf source count) ↔ count ≤ size := by
  constructor
  · intro within
    by_contra long
    have last := overwritten_inside within size _ fun buf =>
      strncpy_inside buf source count size (by omega)
    omega
  · intro room buf index outside
    exact if_neg (by omega)

theorem cells_reads_within_iff (size count : Nat) :
    ReadsWithin (· < size) (fun buf => cells buf count) ↔ count ≤ size := by
  constructor
  · intro within
    by_contra long
    have same := within (fun _ => 0) (fun index => if index < size then 0 else 1)
      fun index inside => (if_pos inside).symm
    have cell := (cells_eq_iff _ _ count).mp same size (by omega)
    rw [if_neg (by omega)] at cell
    exact absurd cell (by decide)
  · intro room left right agree
    rw [cells_eq_iff]
    intro index inside
    exact agree index (by omega)

end Buffers

end Footprint
