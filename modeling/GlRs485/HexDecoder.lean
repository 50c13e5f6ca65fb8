import GlRs485.HexCodec

/-!
# What the two-pass hex decoder computes

Both loops of `gl_str2acsll` count with 8 bits against an `int` bound. Up to 253
characters they end and the result is written out cell by cell; from 254 on one
of them passes its bound never. The second pass packs in place: it reads cells
`2 * j` and `2 * j + 1` before any cell at or beyond `j` is overwritten.
-/

namespace GlRs485.HexDecoder

open CBytes HexText HexCodec

set_option autoImplicit false

def digitCells (strIn : Buf) (sLen : Nat) (out : Buf) : Buf :=
  fun j => if j < sLen then (digitCell (strIn j)).getD (out j) else out j

/-- The output buffer after packing: one pair more than the string holds. -/
def packedCells (sLen : Nat) (out : Buf) : Buf :=
  fun j => if j ≤ sLen / 2 then (out (2 * j) <<< 4) ||| out (2 * j + 1) else out j

theorem counter_toNat (position : Nat) (bound : position < 256) :
    (UInt8.ofNat position).toNat = position := by
  simp only [UInt8.toNat_ofNat']
  omega

theorem putDigit_other (out : Buf) (position : Nat) (c : Byte) (j : Nat)
    (different : j ≠ position) : putDigit out position c j = out j := by
  unfold putDigit
  cases digitCell c with
  | none => rfl
  | some value => exact put_other _ _ _ _ different

theorem putDigit_same (out : Buf) (position : Nat) (c : Byte) :
    putDigit out position c position = (digitCell c).getD (out position) := by
  unfold putDigit
  cases digitCell c with
  | none => rfl
  | some value => simp

theorem digit_pass_from (strIn : Buf) (sLen : Nat) (short : sLen < 256)
    (remaining position fuel : Nat) (out : Buf) (split : position + remaining = sLen)
    (fuelled : remaining < fuel) :
      digitPass strIn sLen fuel (UInt8.ofNat position) out =
        some fun j => if position ≤ j then digitCells strIn sLen out j else out j := by
  induction remaining generalizing position fuel out with
  | zero =>
      obtain ⟨fuel, rfl⟩ := Nat.exists_eq_succ_of_ne_zero (by omega : fuel ≠ 0)
      have ended : ¬(UInt8.ofNat position).toNat < sLen := by
        rw [counter_toNat position (by omega)]
        omega
      simp only [digitPass, if_neg ended, Option.some.injEq]
      funext j
      by_cases reached : position ≤ j
      · rw [if_pos reached, digitCells, if_neg (by omega)]
      · rw [if_neg reached]
  | succ remaining ih =>
      obtain ⟨fuel, rfl⟩ := Nat.exists_eq_succ_of_ne_zero (by omega : fuel ≠ 0)
      have counter := counter_toNat position (by omega)
      have advance : UInt8.ofNat position + 1 = UInt8.ofNat (position + 1) := by
        simp [UInt8.ofNat_add]
      simp only [digitPass, advance, counter]
      rw [if_pos (by omega), ih (position + 1) fuel _ (by omega) (by omega)]
      congr 1
      funext j
      rcases Nat.lt_trichotomy j position with before | same | after
      · rw [if_neg (by omega), if_neg (by omega), putDigit_other _ _ _ _ (by omega)]
      · subst same
        rw [if_neg (by omega), if_pos (le_refl _), digitCells, if_pos (by omega), putDigit_same]
      · rw [if_pos (by omega), if_pos (by omega)]
        simp only [digitCells, putDigit_other out position _ j (by omega)]

theorem digit_pass_ends (strIn : Buf) (sLen fuel : Nat) (out : Buf) (short : sLen < 256)
    (fuelled : sLen < fuel) :
      digitPass strIn sLen fuel 0 out = some (digitCells strIn sLen out) := by
  have whole := digit_pass_from strIn sLen short sLen 0 fuel out (by omega) fuelled
  simpa using whole

theorem pack_pass_from (sLen : Nat) (short : sLen < 254) (remaining index fuel : Nat) (out : Buf)
    (split : index + remaining = sLen / 2 + 1) (fuelled : remaining < fuel) :
      packPass sLen fuel (UInt8.ofNat (2 * index)) (UInt8.ofNat index) out =
        some fun j => if index ≤ j then packedCells sLen out j else out j := by
  induction remaining generalizing index fuel out with
  | zero =>
      obtain ⟨fuel, rfl⟩ := Nat.exists_eq_succ_of_ne_zero (by omega : fuel ≠ 0)
      have ended : ¬(UInt8.ofNat (2 * index)).toNat ≤ sLen := by
        rw [counter_toNat (2 * index) (by omega)]
        omega
      simp only [packPass, if_neg ended, Option.some.injEq]
      funext j
      by_cases reached : index ≤ j
      · rw [if_pos reached, packedCells, if_neg (by omega)]
      · rw [if_neg reached]
  | succ remaining ih =>
      obtain ⟨fuel, rfl⟩ := Nat.exists_eq_succ_of_ne_zero (by omega : fuel ≠ 0)
      have wide := counter_toNat (2 * index) (by omega)
      have narrow := counter_toNat index (by omega)
      have advanceWide : UInt8.ofNat (2 * index) + 2 = UInt8.ofNat (2 * (index + 1)) := by
        simp [Nat.mul_add, UInt8.ofNat_add]
      have advanceNarrow : UInt8.ofNat index + 1 = UInt8.ofNat (index + 1) := by
        simp [UInt8.ofNat_add]
      simp only [packPass, advanceWide, advanceNarrow, wide, narrow]
      rw [if_pos (by omega), ih (index + 1) fuel _ (by omega) (by omega)]
      congr 1
      funext j
      rcases Nat.lt_trichotomy j index with before | same | after
      · rw [if_neg (by omega), if_neg (by omega), put_other _ _ _ _ (by omega)]
      · subst same
        rw [if_neg (by omega), if_pos (le_refl _), put_same, packedCells, if_pos (by omega),
          packPair, wide]
      · rw [if_pos (by omega), if_pos (by omega)]
        simp only [packedCells, put_other out index _ (2 * j) (by omega),
          put_other out index _ (2 * j + 1) (by omega), put_other out index _ j (by omega)]

theorem pack_pass_ends (sLen fuel : Nat) (out : Buf) (short : sLen < 254)
    (fuelled : sLen / 2 + 1 < fuel) :
      packPass sLen fuel 0 0 out = some (packedCells sLen out) := by
  have whole := pack_pass_from sLen short (sLen / 2 + 1) 0 fuel out (by omega) fuelled
  simpa using whole

/-- From 254 on the even counter wraps from 254 to 0 without passing the bound. -/
theorem pack_pass_endless (sLen : Nat) (long : 254 ≤ sLen) (fuel : Nat) (size1 i : UInt8)
    (even : size1.toNat % 2 = 0) (out : Buf) : packPass sLen fuel size1 i out = none := by
  induction fuel generalizing size1 i out with
  | zero => rfl
  | succ fuel ih =>
      have byte := size1.toNat_lt
      have below : size1.toNat ≤ sLen := by omega
      have next : (size1 + 2).toNat % 2 = 0 := by
        rw [UInt8.toNat_add]
        have two : (2 : UInt8).toNat = 2 := rfl
        omega
      simp only [packPass, if_pos below, ih (size1 + 2) (i + 1) next]

theorem str2acsll_ends (strIn : Buf) (sLen fuel : Nat) (out : Buf) (short : sLen < 254)
    (fuelled : sLen + 2 ≤ fuel) :
      glStr2acsllFuel fuel strIn sLen out =
        some (packedCells sLen (digitCells strIn sLen out)) := by
  rw [glStr2acsllFuel, digit_pass_ends strIn sLen fuel out (by omega) (by omega), Option.bind_some,
    pack_pass_ends sLen fuel _ short (by omega)]

theorem str2acsll_endless (strIn : Buf) (sLen fuel : Nat) (out : Buf) (long : 254 ≤ sLen) :
    glStr2acsllFuel fuel strIn sLen out = none := by
  unfold glStr2acsllFuel
  cases digitPass strIn sLen fuel 0 out with
  | none => rfl
  | some digits => exact pack_pass_endless sLen long fuel 0 0 rfl digits

/-- The bridge reads the decoder through one fixed fuel; this is the decoder's
result, or its absence, for every larger one. -/
theorem str2acsll_eq (strIn : Buf) (sLen : Nat) (out : Buf) :
    glStr2acsll strIn sLen out =
      if sLen < 254 then some (packedCells sLen (digitCells strIn sLen out)) else none := by
  split
  · next short =>
      exact str2acsll_ends strIn sLen counterFuel out short (by simp only [counterFuel]; omega)
  · next long => exact str2acsll_endless strIn sLen counterFuel out (by omega)

theorem digit_cell_of_hex (c : Byte) (hex : IsHexDigit c) :
    digitCell c = some (UInt8.ofNat (digitValue c)) := by
  have table : ∀ value < 256, IsHexDigit (UInt8.ofNat value) →
      digitCell (UInt8.ofNat value) = some (UInt8.ofNat (digitValue (UInt8.ofNat value))) := by
    decide +kernel
  have entry := table c.toNat c.toNat_lt
  rw [UInt8.ofNat_toNat] at entry
  exact entry hex

theorem nibbles_packed (high low : Byte) :
    (UInt8.ofNat (digitValue high) <<< 4) ||| UInt8.ofNat (digitValue low) =
      pairValue high low := by
  have table : ∀ first < 16, ∀ second < 16,
      (UInt8.ofNat first <<< 4) ||| UInt8.ofNat second = UInt8.ofNat (first * 16 + second) := by
    decide
  exact table _ (digitValue_lt high) _ (digitValue_lt low)

theorem packed_cells_of_hex (digits : List Byte) (strIn out : Buf)
    (holds : cells strIn digits.length = digits) (hex : ∀ digit ∈ digits, IsHexDigit digit) :
      cells (packedCells digits.length (digitCells strIn digits.length out))
        (digits.length / 2) = pairValues digits := by
  have content := (cells_eq_bytes_iff strIn digits).mp holds
  have digitAt : ∀ j (bound : j < digits.length),
      digitCells strIn digits.length out j = UInt8.ofNat (digitValue digits[j]) := by
    intro j bound
    rw [digitCells, if_pos bound, content j bound,
      digit_cell_of_hex _ (hex _ (List.getElem_mem bound)), Option.getD_some]
  rw [← pairValues_length, cells_eq_bytes_iff]
  intro j bound
  have counted := pairValues_length digits
  have high : 2 * j < digits.length := by omega
  have low : 2 * j + 1 < digits.length := by omega
  rw [packedCells, if_pos (by omega), digitAt _ high, digitAt _ low, nibbles_packed,
    pairValues_getElem digits j bound high low]

/-- The decoder ends on the string and leaves the given bytes at the start of the output. -/
def Decodes (strIn : Buf) (sLen : Nat) (out : Buf) (bytes : List Byte) : Prop :=
  ∃ fuel result, glStr2acsllFuel fuel strIn sLen out = some result ∧
    cells result bytes.length = bytes

theorem even_hex_decodes_iff (digits : List Byte) (strIn out : Buf)
    (holds : cells strIn digits.length = digits) (hex : ∀ digit ∈ digits, IsHexDigit digit)
    (even : digits.length % 2 = 0) :
      Decodes strIn digits.length out (pairValues digits) ↔ digits.length ≤ 252 := by
  constructor
  · intro decoded
    obtain ⟨fuel, result, ended, _⟩ := decoded
    by_contra long
    rw [str2acsll_endless strIn digits.length fuel out (by omega)] at ended
    exact absurd ended (by simp)
  · intro short
    refine ⟨counterFuel, _, str2acsll_ends strIn digits.length counterFuel out (by omega)
      (by simp only [counterFuel]; omega), ?_⟩
    rw [pairValues_length]
    exact packed_cells_of_hex digits strIn out holds hex

theorem even_hex_decodes_iff_on_text :
    Decodes (ofBytes (ascii "0a1F")) 4 (fun _ => 7) (pairValues (ascii "0a1F")) ↔ 4 ≤ 252 :=
  even_hex_decodes_iff (ascii "0a1F") (ofBytes (ascii "0a1F")) (fun _ => 7)
    (cells_ofBytes (ascii "0a1F")) (by decide +kernel) (by decide)

/-- A full read of the socket bridge, 256 digits, is never decoded. -/
theorem full_read_of_digits_is_endless :
    (List.replicate 256 (48 : Byte)).length % 2 = 0 ∧
      (∀ digit ∈ List.replicate 256 (48 : Byte), IsHexDigit digit) ∧
        ¬Decodes (ofBytes (List.replicate 256 48)) 256 (fun _ => 0)
          (pairValues (List.replicate 256 48)) := by
  refine ⟨by rw [List.length_replicate], ?_, ?_⟩
  · intro digit member
    rw [List.eq_of_mem_replicate member]
    decide
  · rintro ⟨fuel, result, ended, _⟩
    rw [str2acsll_endless _ 256 fuel _ (by omega)] at ended
    exact absurd ended (by simp)

end GlRs485.HexDecoder
