import GlRs485.Configuration
import Mathlib.Data.Nat.Digits.Defs

/-!
# The numbers that `strToNumber` reads

A digit counts by its distance from the end of the whole string, and the first
other character takes one power of ten off again. The arithmetic is that of a
32-bit `int`, where a result that does not fit is undefined.
-/

namespace GlRs485.LeadingNumbers

open CBytes GlRs485.Configuration

set_option autoImplicit false

def intMax : Nat := 2147483647

def fitsInt (value : Nat) : Option Nat := if value ≤ intMax then some value else none

def powTenInt : Nat → Option Nat
  | 0 => some 1
  | n + 1 => (powTenInt n).bind fun result => fitsInt (result * 10)

/-- The loop of `strToNumber` with `powTen`, the product and the sum checked. -/
def strToNumberIntLoop : List Byte → Nat → Option Nat
  | [], sum => some sum
  | c :: rest, sum =>
      if isDigit c then do
        let weight ← powTenInt rest.length
        let product ← fitsInt ((c.toNat - 48) * weight)
        let sum ← fitsInt (sum + product)
        strToNumberIntLoop rest sum
      else some (sum / 10)

def strToNumberInt (numbers : List Byte) : Option Nat := strToNumberIntLoop numbers 0

def decimalValue (digits : List Byte) : Nat :=
  Nat.ofDigits 10 (digits.reverse.map fun c => c.toNat - 48)

def leadingDigits (numbers : List Byte) : List Byte := numbers.takeWhile isDigit

def leadingNumber (numbers : List Byte) : Nat := decimalValue (leadingDigits numbers)

def tailLength (numbers : List Byte) : Nat := (numbers.dropWhile isDigit).length

theorem powTen_eq (n : Nat) : powTen n = 10 ^ n := by
  induction n with
  | zero => rfl
  | succ n ih => rw [powTen, ih, Nat.pow_succ]

theorem fitsInt_eq_some_iff (value result : Nat) :
    fitsInt value = some result ↔ value ≤ intMax ∧ value = result := by
  unfold fitsInt
  split <;> simp [*]

/-- Ten to the tenth does not fit. -/
theorem powTenInt_eq_some_iff (n result : Nat) :
    powTenInt n = some result ↔ n ≤ 9 ∧ 10 ^ n = result := by
  induction n generalizing result with
  | zero => simp [powTenInt]
  | succ n ih =>
      have next : 10 ^ n * 10 ≤ intMax ↔ n ≤ 8 := by
        constructor
        · intro fits
          by_contra long
          have grown : 10 ^ 9 ≤ 10 ^ n := Nat.pow_le_pow_right (by omega) (by omega)
          simp only [intMax] at fits
          omega
        · intro short
          have bound : 10 ^ n ≤ 10 ^ 8 := Nat.pow_le_pow_right (by omega) short
          simp only [intMax]
          omega
      simp only [powTenInt, Option.bind_eq_some_iff, ih, fitsInt_eq_some_iff, Nat.pow_succ]
      constructor
      · rintro ⟨_, ⟨_, rfl⟩, fits, same⟩
        exact ⟨by rw [next] at fits; omega, same⟩
      · rintro ⟨short, same⟩
        exact ⟨_, ⟨by omega, rfl⟩, next.mpr (by omega), same⟩

theorem decimalValue_cons (c : Byte) (digits : List Byte) :
    decimalValue (c :: digits) = (c.toNat - 48) * 10 ^ digits.length + decimalValue digits := by
  rw [decimalValue, List.reverse_cons, List.map_append, Nat.ofDigits_append, List.length_map,
    List.length_reverse, List.map_singleton, Nat.ofDigits_singleton, Nat.mul_comm, Nat.add_comm]
  rfl

theorem digit_read_iff (c : Byte) (rest : List Byte) (sum result : Nat)
    (digit : isDigit c = true) :
      strToNumberIntLoop (c :: rest) sum = some result ↔
        rest.length ≤ 9 ∧ sum + (c.toNat - 48) * 10 ^ rest.length ≤ intMax ∧
          strToNumberIntLoop rest (sum + (c.toNat - 48) * 10 ^ rest.length) = some result := by
  simp only [strToNumberIntLoop, if_pos digit, Option.bind_eq_bind, Option.bind_eq_some_iff,
    powTenInt_eq_some_iff, fitsInt_eq_some_iff]
  constructor
  · rintro ⟨_, ⟨short, rfl⟩, _, ⟨_, rfl⟩, _, ⟨fits, rfl⟩, later⟩
    exact ⟨short, fits, later⟩
  · rintro ⟨short, fits, later⟩
    exact ⟨_, ⟨short, rfl⟩, _, ⟨by omega, rfl⟩, _, ⟨fits, rfl⟩, later⟩

theorem digits_summed_iff (digits rest : List Byte) (sum result : Nat)
    (decimal : ∀ c ∈ digits, isDigit c = true) :
      strToNumberIntLoop (digits ++ rest) sum = some result ↔
        (digits = [] ∨ (digits ++ rest).length ≤ 10 ∧
            sum + decimalValue digits * 10 ^ rest.length ≤ intMax) ∧
          strToNumberIntLoop rest (sum + decimalValue digits * 10 ^ rest.length) = some result := by
  induction digits generalizing sum with
  | nil => simp [decimalValue]
  | cons c digits ih =>
      have later := fun total => ih total fun other member => decimal other (by simp [member])
      have weighed : sum + (c.toNat - 48) * 10 ^ (digits ++ rest).length +
          decimalValue digits * 10 ^ rest.length =
            sum + decimalValue (c :: digits) * 10 ^ rest.length := by
        rw [decimalValue_cons, List.length_append, Nat.pow_add, Nat.add_mul, Nat.mul_assoc,
          Nat.add_assoc]
      rw [List.cons_append, digit_read_iff c _ sum result (decimal c (by simp)), later, weighed,
        List.length_cons]
      constructor
      · rintro ⟨short, fits, whole, read⟩
        refine ⟨Or.inr ⟨by omega, ?_⟩, read⟩
        rcases whole with none | ⟨_, whole⟩
        · rw [← weighed, none]
          simpa [decimalValue, none] using fits
        · exact whole
      · rintro ⟨whole, read⟩
        obtain ⟨short, fits⟩ := whole.resolve_left (by simp)
        exact ⟨by omega, by omega, Or.inr ⟨by omega, fits⟩, read⟩

theorem tail_read (numbers : List Byte) (sum : Nat) :
    strToNumberIntLoop (numbers.dropWhile isDigit) sum =
      some (if tailLength numbers = 0 then sum else sum / 10) := by
  unfold tailLength
  cases tail : numbers.dropWhile isDigit with
  | nil => rfl
  | cons c rest =>
      have other : ¬isDigit c = true := by
        have head := List.head?_dropWhile_not isDigit numbers
        rw [tail] at head
        simpa using head
      rw [strToNumberIntLoop, if_neg other, if_neg (by simp)]

theorem weight_corrected_iff (value tail : Nat) :
    (if tail = 0 then value * 10 ^ tail else value * 10 ^ tail / 10) = value ↔
      tail ≤ 1 ∨ value = 0 := by
  cases tail with
  | zero => simp
  | succ tail =>
      have lowered : value * 10 ^ (tail + 1) / 10 = value * 10 ^ tail := by
        rw [Nat.pow_succ, ← Nat.mul_assoc, Nat.mul_div_cancel _ (by omega)]
      rw [if_neg (by omega), lowered]
      by_cases none : value = 0
      · simp [none]
      · by_cases one : tail = 0
        · simp [one]
        · have grown : value * 1 < value * 10 ^ tail :=
            Nat.mul_lt_mul_of_pos_left (Nat.one_lt_pow one (by omega)) (by omega)
          omega

/-- What holds of a string whose leading number is read as it is. -/
structure ReadsPlainly (numbers : List Byte) : Prop where
  short : numbers.length ≤ 10
  fits : leadingNumber numbers * 10 ^ tailLength numbers ≤ intMax
  single : tailLength numbers ≤ 1 ∨ leadingNumber numbers = 0

theorem str_to_number_int_iff (numbers : List Byte) (result : Nat) :
    strToNumberInt numbers = some result ↔
      (leadingDigits numbers = [] ∨ numbers.length ≤ 10 ∧
          leadingNumber numbers * 10 ^ tailLength numbers ≤ intMax) ∧
        (if tailLength numbers = 0 then leadingNumber numbers * 10 ^ tailLength numbers
          else leadingNumber numbers * 10 ^ tailLength numbers / 10) = result := by
  have split : leadingDigits numbers ++ numbers.dropWhile isDigit = numbers :=
    List.takeWhile_append_dropWhile
  have decimal : ∀ c ∈ leadingDigits numbers, isDigit c = true := fun c member =>
    List.mem_takeWhile_imp member
  have summed := digits_summed_iff (leadingDigits numbers) (numbers.dropWhile isDigit) 0
    result decimal
  rwa [split, Nat.zero_add, tail_read, Option.some.injEq] at summed

/-- `strToNumber` reads the leading number without an overflow exactly when there
is no digit in front, or the string has at most ten characters, the number with
the whole tail's weight fits, and the tail is one character at most or the number
zero. -/
theorem str_to_number_reads_iff (numbers : List Byte) :
    strToNumberInt numbers = some (leadingNumber numbers) ↔
      leadingDigits numbers = [] ∨ ReadsPlainly numbers := by
  have corrected := weight_corrected_iff (leadingNumber numbers) (tailLength numbers)
  rw [str_to_number_int_iff]
  constructor
  · rintro ⟨none | ⟨short, fits⟩, read⟩
    · exact Or.inl none
    · exact Or.inr ⟨short, fits, corrected.mp read⟩
  · rintro (none | plain)
    · have zero : leadingNumber numbers = 0 := by
        rw [leadingNumber, none]
        rfl
      exact ⟨Or.inl none, corrected.mpr (Or.inr zero)⟩
    · exact ⟨Or.inr ⟨plain.short, plain.fits⟩, corrected.mpr plain.single⟩

/-- A unit of two characters makes ten times the number, and eleven digits with
zeros in front overflow. -/
theorem unit_multiplies_number :
    leadingNumber (ascii "50ms") = 50 ∧ strToNumberInt (ascii "50ms") = some 500 ∧
      leadingNumber (ascii "00000000007") = 7 ∧ strToNumberInt (ascii "00000000007") = none := by
  decide +kernel

theorem int_loop_eq (numbers : List Byte) (sum result : Nat)
    (fits : strToNumberIntLoop numbers sum = some result) :
      strToNumberLoop numbers sum = result := by
  induction numbers generalizing sum with
  | nil => exact Option.some.inj fits
  | cons c rest ih =>
      by_cases digit : isDigit c = true
      · obtain ⟨_, _, later⟩ := (digit_read_iff c rest sum result digit).mp fits
        rw [strToNumberLoop, if_pos digit, powTen_eq]
        exact ih _ later
      · rw [strToNumberIntLoop, if_neg digit] at fits
        rw [strToNumberLoop, if_neg digit]
        exact Option.some.inj fits

theorem leading_number_bound (numbers : List Byte) :
    leadingNumber numbers * 10 ^ tailLength numbers < 10 ^ numbers.length := by
  have digits : leadingNumber numbers < 10 ^ (leadingDigits numbers).length := by
    have bound := @Nat.ofDigits_lt_base_pow_length 10
      ((leadingDigits numbers).reverse.map fun c => c.toNat - 48) (by omega) (by
        intro digit member
        obtain ⟨c, listed, rfl⟩ := List.mem_map.mp member
        have decimal := List.mem_takeWhile_imp (List.mem_reverse.mp listed)
        simp only [isDigit, Bool.and_eq_true, decide_eq_true_eq, UInt8.le_iff_toNat_le] at decimal
        have top : (57 : Byte).toNat = 57 := rfl
        omega)
    rwa [List.length_map, List.length_reverse] at bound
  have split : (leadingDigits numbers).length + tailLength numbers = numbers.length := by
    rw [leadingDigits, tailLength, ← List.length_append, List.takeWhile_append_dropWhile]
  calc
    leadingNumber numbers * 10 ^ tailLength numbers <
        10 ^ (leadingDigits numbers).length * 10 ^ tailLength numbers :=
      Nat.mul_lt_mul_of_pos_right digits (Nat.pow_pos (by omega))
    _ = 10 ^ numbers.length := by rw [← Nat.pow_add, split]

/-- Nothing overflows in what `cfg_init` converts: seven characters at most. -/
theorem short_number_fits (numbers : List Byte) (short : numbers.length ≤ 7) :
    strToNumberInt numbers = some (strToNumber numbers) := by
  have bound := leading_number_bound numbers
  have most : 10 ^ numbers.length ≤ 10 ^ 7 := Nat.pow_le_pow_right (by omega) short
  have computed := (str_to_number_int_iff numbers _).mpr
    ⟨Or.inr ⟨by omega, by simp only [intMax]; omega⟩, rfl⟩
  rw [computed, strToNumber, int_loop_eq numbers 0 _ computed]

/-- A stored value counts as its leading number when one character at most follows it. -/
theorem stored_number_iff (uci : UciStore) (key : String) (short : (uci.value key).length ≤ 7) :
    storedNumber uci key = leadingNumber (uci.value key) ↔
      tailLength (uci.value key) ≤ 1 ∨ leadingNumber (uci.value key) = 0 := by
  have computed := short_number_fits _ short
  rw [← weight_corrected_iff, storedNumber, Nat.cast_inj,
    ← ((str_to_number_int_iff _ _).mp computed).2]

end GlRs485.LeadingNumbers
