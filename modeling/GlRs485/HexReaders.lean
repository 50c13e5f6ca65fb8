import GlRs485.WriteFrames
import GlRs485.Foundation.CIntegers

/-!
# The three readers of hex digits

`my_hex_str_to_i` counts to the length of its string with 8 bits, where the
length is an `int`: on strings shorter than 2^31 this is the reader of the API
calls. `my_hex_str_to_i_l` reads a pair at an 8-bit offset, and `gl_str2acsll`
packs all pairs. On the strings that all of them end on they give the same bytes.
-/

namespace GlRs485.HexReaders

open CBytes CIntegers HexText HexCodec HexDecoder WriteFrames

set_option autoImplicit false

/-- `my_hex_str_to_i` with the `int` that the length is stored in. -/
def myHexStrToIIntLoop (s : List Byte) (m : Int) : Nat → UInt8 → Byte → Option Byte
  | 0, _, _ => none
  | fuel + 1, i, tmp =>
      if (i.toNat : Int) < m then
        myHexStrToIIntLoop s m fuel (i + 1) (tmp * 16 + nibble (s.getD i.toNat 0))
      else some tmp

def Returns (s : List Byte) (value : Byte) : Prop :=
  ∃ fuel, myHexStrToIIntLoop s (toInt s.length) fuel 0 0 = some value

/-- The digits that the length covers once it is an `int`: all of a string shorter than 2^31. -/
def counted (s : List Byte) : List Byte := s.take (toInt s.length).toNat

theorem int_length_le (s : List Byte) : toInt s.length ≤ s.length := by
  simp only [toInt, Int.bmod_def]
  omega

theorem int_loop_eq (s : List Byte) (m : Int) (within : m ≤ s.length) (fuel : Nat) (i : UInt8)
    (tmp : Byte) :
      myHexStrToIIntLoop s m fuel i tmp = myHexStrToILoop (s.take m.toNat) fuel i tmp := by
  induction fuel generalizing i tmp with
  | zero => rfl
  | succ fuel ih =>
      have length : (s.take m.toNat).length = m.toNat := by
        rw [List.length_take]
        omega
      by_cases inside : (i.toNat : Int) < m
      · have cell : (s.take m.toNat).getD i.toNat 0 = s.getD i.toNat 0 := by
          rw [List.getD_eq_getElem _ _ (by omega), List.getD_eq_getElem _ _ (by omega),
            List.getElem_take]
        rw [myHexStrToIIntLoop, if_pos inside, ih, myHexStrToILoop, if_pos (by omega), cell]
      · rw [myHexStrToIIntLoop, if_neg inside, myHexStrToILoop, if_neg (by omega)]

theorem hex_loop_more_fuel (s : List Byte) (fuel extra : Nat) (i : UInt8) (tmp value : Byte)
    (ended : myHexStrToILoop s fuel i tmp = some value) :
      myHexStrToILoop s (fuel + extra) i tmp = some value := by
  induction fuel generalizing i tmp with
  | zero => cases ended
  | succ fuel ih =>
      rw [Nat.succ_add]
      rw [myHexStrToILoop] at ended ⊢
      split
      · next inside =>
          rw [if_pos inside] at ended
          exact ih _ _ ended
      · next outside =>
          rw [if_neg outside] at ended
          exact ended

theorem hex_loop_ends_iff (s : List Byte) (hex : ∀ digit ∈ s, IsHexDigit digit) (value : Byte) :
    (∃ fuel, myHexStrToILoop s fuel 0 0 = some value) ↔
      s.length < 256 ∧ value = UInt8.ofNat (hexValue s) := by
  constructor
  · rintro ⟨fuel, ended⟩
    have short : s.length < 256 := by
      by_contra long
      rw [hex_loop_endless s (by omega) fuel 0 0] at ended
      cases ended
    have whole := hex_loop_from s hex short s.length 0 (s.length + 1) (by omega) (by omega)
    rw [List.take_zero] at whole
    have left := hex_loop_more_fuel s fuel (s.length + 1) 0 0 value ended
    have right := hex_loop_more_fuel s (s.length + 1) fuel 0 0 _ whole
    rw [Nat.add_comm] at right
    exact ⟨short, Option.some.inj (left.symm.trans right)⟩
  · rintro ⟨short, rfl⟩
    exact ⟨s.length + 1, hex_loop_from s hex short s.length 0 (s.length + 1) (by omega) (by omega)⟩

theorem returns_iff (s : List Byte) (hex : ∀ digit ∈ s, IsHexDigit digit) (value : Byte) :
    Returns s value ↔
      (counted s).length < 256 ∧ value = UInt8.ofNat (hexValue (counted s)) := by
  have digits : ∀ digit ∈ counted s, IsHexDigit digit :=
    fun digit member => hex digit (List.mem_of_mem_take member)
  rw [← hex_loop_ends_iff (counted s) digits value]
  simp only [Returns, int_loop_eq s _ (int_length_le s), counted]

theorem counted_short (s : List Byte) (short : s.length < 2 ^ 31) : counted s = s := by
  apply List.take_of_length_le
  simp only [toInt, Int.bmod_def]
  omega

theorem hex_loop_ends (s : List Byte) (short : s.length < 256) (remaining position fuel : Nat)
    (split : position + remaining = s.length) (fuelled : remaining < fuel) (tmp : Byte) :
      ∃ value, myHexStrToILoop s fuel (UInt8.ofNat position) tmp = some value := by
  induction remaining generalizing position fuel tmp with
  | zero =>
      obtain ⟨fuel, rfl⟩ := Nat.exists_eq_succ_of_ne_zero (by omega : fuel ≠ 0)
      refine ⟨tmp, ?_⟩
      rw [myHexStrToILoop, counter_toNat position (by omega), if_neg (by omega)]
  | succ remaining ih =>
      obtain ⟨fuel, rfl⟩ := Nat.exists_eq_succ_of_ne_zero (by omega : fuel ≠ 0)
      have advance : UInt8.ofNat position + 1 = UInt8.ofNat (position + 1) := by
        simp [UInt8.ofNat_add]
      rw [myHexStrToILoop, counter_toNat position (by omega), if_pos (by omega), advance]
      exact ih (position + 1) fuel (by omega) (by omega) _

/-- Within `int` the reader of the API calls is this one: 256 tests of the loop
decide whether it returns, and what. -/
theorem my_hex_str_to_i_eq_some_iff (s : List Byte) (short : s.length < 2 ^ 31) (value : Byte) :
    myHexStrToI s = some value ↔ Returns s value := by
  have same : ∀ fuel, myHexStrToIIntLoop s (toInt s.length) fuel 0 0 =
      myHexStrToILoop s fuel 0 0 := by
    intro fuel
    rw [int_loop_eq s _ (int_length_le s)]
    exact congrArg (myHexStrToILoop · fuel 0 0) (counted_short s short)
  simp only [Returns, same]
  constructor
  · intro ended
    exact ⟨counterFuel, ended⟩
  · rintro ⟨fuel, ended⟩
    rcases Nat.lt_or_ge s.length 256 with fits | long
    · obtain ⟨last, first⟩ := hex_loop_ends s fits s.length 0 counterFuel (by omega) fits 0
      have left := hex_loop_more_fuel s fuel counterFuel 0 0 value ended
      have right := hex_loop_more_fuel s counterFuel fuel 0 0 last first
      rw [Nat.add_comm] at right
      exact first.trans (right.symm.trans left)
    · rw [hex_loop_endless s long] at ended
      cases ended

theorem ofNat_eq_iff (left right : Nat) :
    UInt8.ofNat left = UInt8.ofNat right ↔ left % 256 = right % 256 := by
  rw [← UInt8.toNat_inj, UInt8.toNat_ofNat', UInt8.toNat_ofNat']

/-- The value modulo 256 is returned for up to 255 digits, and by the chance that
a length beyond `int` is cut to so few digits with the same last two. -/
theorem value_returned_iff (s : List Byte) (hex : ∀ digit ∈ s, IsHexDigit digit) :
    Returns s (UInt8.ofNat (hexValue s)) ↔
      s.length ≤ 255 ∨ 2 ^ 31 ≤ s.length ∧ (counted s).length ≤ 255 ∧
        hexValue (counted s) % 256 = hexValue s % 256 := by
  rw [returns_iff s hex, ofNat_eq_iff]
  by_cases short : s.length < 2 ^ 31
  · rw [counted_short s short]
    omega
  · omega

theorem value_returned_iff_on_pair :
    Returns (ascii "fF") (UInt8.ofNat (hexValue (ascii "fF"))) ↔
      (ascii "fF").length ≤ 255 ∨ 2 ^ 31 ≤ (ascii "fF").length ∧
        (counted (ascii "fF")).length ≤ 255 ∧
          hexValue (counted (ascii "fF")) % 256 = hexValue (ascii "fF") % 256 :=
  value_returned_iff (ascii "fF") (by decide +kernel)

/-- On 256 zeros the reader never ends, whatever value it is asked for. -/
theorem long_digits_never_return :
    (∀ digit ∈ List.replicate 256 (48 : Byte), IsHexDigit digit) ∧
      ∀ value, ¬Returns (List.replicate 256 48) value := by
  have zeros : ∀ digit ∈ List.replicate 256 (48 : Byte), IsHexDigit digit := by
    intro digit member
    rw [List.eq_of_mem_replicate member]
    decide
  have length : (List.replicate 256 (48 : Byte)).length = 256 := List.length_replicate
  refine ⟨zeros, ?_⟩
  intro value returned
  rw [returns_iff _ zeros, counted_short _ (by rw [length]; decide), length] at returned
  exact absurd returned.1 (by decide)

theorem hexValue_pair (high low : Byte) :
    UInt8.ofNat (hexValue [high, low]) = pairValue high low := by
  simp [hexValue, pairValue]

/-- At every pair the packer and both readers give the same byte. -/
theorem decoders_agree (digits : List Byte) (s out : Buf)
    (holds : cells s digits.length = digits) (hex : ∀ digit ∈ digits, IsHexDigit digit)
    (short : digits.length ≤ 252) :
      ∃ result, glStr2acsll s digits.length out = some result ∧
        ∀ i < digits.length / 2, result i = myHexStrToIL s 2 (UInt8.ofNat (2 * i)) ∧
          Returns ((digits.drop (2 * i)).take 2) (result i) := by
  refine ⟨_, (str2acsll_eq s digits.length out).trans (if_pos (by omega)), ?_⟩
  intro i inside
  have content := (cells_eq_bytes_iff s digits).mp holds
  have high : 2 * i < digits.length := by omega
  have low : 2 * i + 1 < digits.length := by omega
  have packed : packedCells digits.length (digitCells s digits.length out) i =
      pairValue digits[2 * i] digits[2 * i + 1] := by
    have whole := packed_cells_of_hex digits s out holds hex
    rw [← pairValues_length, cells_eq_bytes_iff] at whole
    rw [whole i (by rw [pairValues_length]; exact inside), pairValues_getElem digits i _ high low]
  have offset : (UInt8.ofNat (2 * i)).toNat = 2 * i := counter_toNat (2 * i) (by omega)
  have behind : s (1 + 2 * i) = digits[2 * i + 1] := by
    rw [Nat.add_comm]
    exact content (2 * i + 1) low
  have pair : (digits.drop (2 * i)).take 2 = [digits[2 * i], digits[2 * i + 1]] := by
    rw [List.drop_eq_getElem_cons high, List.drop_eq_getElem_cons low]
    rfl
  have highHex := hex _ (List.getElem_mem high)
  have lowHex := hex _ (List.getElem_mem low)
  constructor
  · rw [packed, my_hex_str_to_i_l_pair, offset, content _ high, behind]
    · rw [offset, content _ high]
      exact highHex
    · rw [offset, behind]
      exact lowHex
  · rw [pair, packed, ← hexValue_pair]
    apply (my_hex_str_to_i_eq_some_iff [digits[2 * i], digits[2 * i + 1]]
      (show 2 < 2 ^ 31 by omega) _).mp
    rw [my_hex_str_to_i_eq]
    · exact if_pos (show 2 < 256 by omega)
    · intro digit member
      rcases List.mem_pair.mp member with rfl | rfl
      · exact highHex
      · exact lowHex

theorem decoders_agree_on_text :
    ∃ result, glStr2acsll (ofBytes (ascii "0a1F")) 4 (fun _ => 7) = some result ∧
      ∀ i < 2, result i = myHexStrToIL (ofBytes (ascii "0a1F")) 2 (UInt8.ofNat (2 * i)) ∧
        Returns (((ascii "0a1F").drop (2 * i)).take 2) (result i) :=
  decoders_agree (ascii "0a1F") (ofBytes (ascii "0a1F")) (fun _ => 7)
    (cells_ofBytes (ascii "0a1F")) (by decide +kernel) (by decide)

end GlRs485.HexReaders
