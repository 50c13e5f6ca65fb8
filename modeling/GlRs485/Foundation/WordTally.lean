import GlRs485.Foundation.TracedSystem
import Mathlib.Algebra.BigOperators.Group.List.Basic
import Mathlib.Data.List.Induction
import Mathlib.Tactic.Linarith
import Mathlib.Tactic.Zify

/-!
# Counting whole units in words of limited size

Amounts are added up in an unsigned word. After each one the whole units are
counted and taken out, the rest is carried. The count is exact as long as no sum
of a carry and an amount reaches the word size, and only then.
-/

namespace WordTally

open TracedSystem

set_option autoImplicit false

structure Tally where
  units : Nat
  carry : Nat

/-- The carry and a new amount, in a word with `word` values. -/
def wordSum (word carry : Nat) (amount : Int) : Nat := (carry + (amount % word).toNat) % word

def Tally.add (word unit : Nat) (before : Tally) (amount : Int) : Tally :=
  ⟨before.units + wordSum word before.carry amount / unit,
    wordSum word before.carry amount % unit⟩

def tally (word unit : Nat) (amounts : List Int) : Tally :=
  amounts.foldl (Tally.add word unit) ⟨0, 0⟩

/-- No sum of a carry and the next amount reaches the size of the word. -/
def NeverWraps (word unit : Nat) (amounts : List Int) : Prop :=
  Judged (fun (before : List Int) amount => before.sum % unit + amount < word) amounts

structure Exact (word unit : Nat) (amounts : List Int) : Prop where
  whole : ∀ amount ∈ amounts, amount % word = amount
  total : amounts.sum = unit * (tally word unit amounts).units + (tally word unit amounts).carry

variable {word unit : Nat}

theorem tally_snoc (amounts : List Int) (amount : Int) :
    tally word unit (amounts ++ [amount]) = (tally word unit amounts).add word unit amount :=
  List.foldl_concat _ _ _ _

theorem tally_carry (word : Nat) (amounts : List Int) (positive : 0 < unit) :
    (tally word unit amounts).carry < unit := by
  induction amounts using List.reverseRecOn with
  | nil => exact positive
  | append_singleton amounts amount ih =>
      rw [tally_snoc]
      exact Nat.mod_lt _ positive

theorem add_units (unit : Nat) (before : Tally) (amount : Int) (size : 0 < word)
    (whole : amount % word = amount) (valid : 0 ≤ amount) :
      ∃ wraps : Nat, (unit * (before.add word unit amount).units : Int) +
          (before.add word unit amount).carry + word * wraps =
            unit * before.units + before.carry + amount ∧
        (wraps = 0 ↔ before.carry + amount < word) := by
  have amountNat : ((amount % word).toNat : Int) = amount := by
    rw [whole]
    exact Int.toNat_of_nonneg valid
  have wrapped := Nat.div_add_mod (before.carry + (amount % word).toNat) word
  have counted := Nat.div_add_mod (wordSum word before.carry amount) unit
  refine ⟨(before.carry + (amount % word).toNat) / word, ?_, ?_⟩
  · simp only [Tally.add]
    unfold wordSum at counted ⊢
    zify at wrapped counted
    push_cast
    rw [mul_add]
    linarith
  · rw [Nat.div_eq_zero_iff_lt size]
    omega

/-- With every amount whole, the count misses as many words as there were wraps. -/
theorem tally_wraps (amounts : List Int) (positive : 0 < unit) (size : 0 < word)
    (valid : ∀ amount ∈ amounts, 0 ≤ amount)
    (whole : ∀ amount ∈ amounts, amount % word = amount) :
      ∃ wraps : Nat, amounts.sum = unit * (tally word unit amounts).units +
          (tally word unit amounts).carry + word * wraps ∧
        (wraps = 0 → NeverWraps word unit amounts) := by
  induction amounts using List.reverseRecOn with
  | nil => exact ⟨0, by simp [tally], fun _ => judged_nil _⟩
  | append_singleton amounts amount ih =>
      obtain ⟨earlier, total, never⟩ := ih (fun other member => valid other (by simp [member]))
        (fun other member => whole other (by simp [member]))
      obtain ⟨now, added, fits⟩ := add_units unit (tally word unit amounts) amount size
        (whole amount (by simp)) (valid amount (by simp))
      refine ⟨earlier + now, ?_, ?_⟩
      · rw [List.sum_append, List.sum_singleton, tally_snoc]
        push_cast
        rw [mul_add]
        linarith
      · intro none
        have noneEarlier : earlier = 0 := by omega
        have carried := tally_carry word amounts positive
        rw [noneEarlier] at total
        apply judged_snoc (never noneEarlier)
        have rest : amounts.sum % (unit : Int) = (tally word unit amounts).carry := by
          rw [total, Nat.cast_zero, mul_zero, add_zero, Int.mul_add_emod_self_left]
          exact Int.emod_eq_of_lt (by omega) (by omega)
        rw [rest]
        exact fits.mp (by omega)

theorem tally_exact (amounts : List Int) (positive : 0 < unit) (size : 0 < word)
    (valid : ∀ amount ∈ amounts, 0 ≤ amount) (never : NeverWraps word unit amounts) :
      Exact word unit amounts := by
  induction amounts using List.reverseRecOn with
  | nil => exact ⟨by simp, by simp [tally]⟩
  | append_singleton amounts amount ih =>
      obtain ⟨whole, total⟩ := ih (fun other member => valid other (by simp [member]))
        (judged_front never)
      have fits : amounts.sum % unit + amount < word := judged_last never
      have carried := tally_carry word amounts positive
      have nonnegative := valid amount (by simp)
      rw [total, Int.mul_add_emod_self_left, Int.emod_eq_of_lt (by omega) (by omega)] at fits
      have own : amount % word = amount := Int.emod_eq_of_lt nonnegative (by omega)
      obtain ⟨wraps, added, none⟩ := add_units unit (tally word unit amounts) amount size own
        nonnegative
      constructor
      · intro other member
        rcases List.mem_append.mp member with earlier | last
        · exact whole other earlier
        · rw [List.mem_singleton.mp last]
          exact own
      · rw [none.mpr fits, Nat.cast_zero, mul_zero, add_zero] at added
        rw [List.sum_append, List.sum_singleton, tally_snoc, added, total]

theorem tally_exact_iff (amounts : List Int) (positive : 0 < unit) (size : 0 < word)
    (valid : ∀ amount ∈ amounts, 0 ≤ amount) :
      Exact word unit amounts ↔ NeverWraps word unit amounts := by
  constructor
  · intro exact_
    obtain ⟨wraps, total, never⟩ := tally_wraps amounts positive size valid exact_.whole
    apply never
    have missing : (word : Int) * wraps = 0 := by
      rw [exact_.total] at total
      linarith
    have nothing : word * wraps = 0 := by exact_mod_cast missing
    exact (Nat.mul_eq_zero.mp nothing).resolve_left (by omega)
  · exact tally_exact amounts positive size valid

end WordTally
