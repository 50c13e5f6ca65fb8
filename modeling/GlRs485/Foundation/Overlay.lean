import Mathlib.Data.Option.Basic
import Mathlib.Tactic.Push

/-!
# Writes laid over a memory

A write gives some places a value and leaves the others. Two writes can be
exchanged exactly when they agree wherever both write, and a place to which a
sequence of writes gives one value only keeps its content exactly when nobody
writes there or the value was there already.
-/

namespace Overlay

set_option autoImplicit false

variable {Place Value : Type*}

abbrev Write (Place Value : Type*) := Place → Option Value

def lay (write : Write Place Value) (memory : Place → Value) : Place → Value :=
  fun place => (write place).getD (memory place)

def layAll (writes : List (Write Place Value)) (memory : Place → Value) : Place → Value :=
  writes.foldl (fun memory write => lay write memory) memory

theorem lay_untouched (write : Write Place Value) (memory : Place → Value) (place : Place)
    (untouched : write place = none) : lay write memory place = memory place := by
  rw [lay, untouched]
  rfl

theorem lay_written (write : Write Place Value) (memory : Place → Value) (place : Place)
    (value : Value) (written : write place = some value) : lay write memory place = value := by
  rw [lay, written]
  rfl

/-- Where both write the same. -/
def Agree (first second : Write Place Value) : Prop :=
  ∀ place, ∀ left ∈ first place, ∀ right ∈ second place, left = right

theorem Agree.symm {first second : Write Place Value} (agree : Agree first second) :
    Agree second first :=
  fun place left inFirst right inSecond => (agree place right inSecond left inFirst).symm

theorem lay_commute_iff (first second : Write Place Value) (memory : Place → Value) :
    lay second (lay first memory) = lay first (lay second memory) ↔ Agree first second := by
  constructor
  · intro same place left inFirst right inSecond
    have here := congrFun same place
    rw [lay_written second _ place right inSecond, lay_written first _ place left inFirst] at here
    exact here.symm
  · intro agree
    funext place
    cases inFirst : first place with
    | none =>
        rw [lay_untouched first (lay second memory) place inFirst]
        cases inSecond : second place with
        | none => rw [lay_untouched second _ place inSecond, lay_untouched first _ place inFirst,
            lay_untouched second _ place inSecond]
        | some right => rw [lay_written second _ place right inSecond,
            lay_written second _ place right inSecond]
    | some left =>
        rw [lay_written first (lay second memory) place left inFirst]
        cases inSecond : second place with
        | none => rw [lay_untouched second _ place inSecond, lay_written first _ place left inFirst]
        | some right =>
            rw [lay_written second _ place right inSecond]
            exact (agree place left inFirst right inSecond).symm

theorem lay_all_place (writes : List (Write Place Value)) (memory : Place → Value) (place : Place)
    (value : Value) (single : ∀ write ∈ writes, ∀ written ∈ write place, written = value) :
      layAll writes memory place = memory place ∧ (∀ write ∈ writes, write place = none) ∨
        layAll writes memory place = value ∧ ∃ write ∈ writes, write place ≠ none := by
  induction writes generalizing memory with
  | nil => exact Or.inl ⟨rfl, by simp⟩
  | cons first rest ih =>
      have later := ih (lay first memory) fun write member => single write (by simp [member])
      rw [show layAll (first :: rest) memory = layAll rest (lay first memory) from rfl]
      cases written : first place with
      | none =>
          rw [lay_untouched first memory place written] at later
          rcases later with ⟨kept, none⟩ | ⟨changed, write, member, writes⟩
          · exact Or.inl ⟨kept, by simpa [written] using none⟩
          · exact Or.inr ⟨changed, write, by simp [member], writes⟩
      | some content =>
          have equal := single first (by simp) content written
          rw [lay_written first memory place content written] at later
          refine Or.inr ⟨?_, first, by simp, by simp [written]⟩
          rcases later with ⟨kept, _⟩ | ⟨changed, _⟩
          · exact kept.trans equal
          · exact changed

theorem lay_all_kept_iff (writes : List (Write Place Value)) (memory : Place → Value)
    (place : Place) (value : Value)
    (single : ∀ write ∈ writes, ∀ written ∈ write place, written = value) :
      layAll writes memory place = memory place ↔
        ((∃ write ∈ writes, write place ≠ none) → memory place = value) := by
  rcases lay_all_place writes memory place value single with ⟨kept, none⟩ | ⟨changed, wrote⟩
  · exact ⟨fun _ ⟨write, member, writes⟩ => absurd (none write member) writes, fun _ => kept⟩
  · rw [changed]
    exact ⟨fun same _ => same.symm, fun zero => (zero wrote).symm⟩

end Overlay
