import GlRs485.HexDecoder
import Mathlib.Data.List.TakeWhile

/-!
# Blanks, letter case and the way back from hex text

`remove_blank1` moves every other character to the front, one swap at a time, and
ends the text after the last of them. What `gl_hex2str` writes is read back by
`gl_str2acsll` in any spelling.
-/

namespace GlRs485.SpacedHex

open CBytes HexText HexCodec HexDecoder

set_option autoImplicit false

def unblanked (text : List Byte) : List Byte := text.filter fun c => c ≠ 32

/-- After `i` characters: the ones kept stand in front, blanks fill the gap behind
them, and the rest of the text is untouched. -/
structure Compacted (str : Buf) (i : Nat) (scan : BlankScan) : Prop where
  front : cells scan.str (unblanked (cells str i)).length = unblanked (cells str i)
  blanks : ∀ j, (unblanked (cells str i)).length ≤ j → j < i → scan.str j = 32
  rest : ∀ j, i ≤ j → scan.str j = str j
  counted : (unblanked (cells str i)).length + scan.inn = i
  gap : scan.gap = if scan.inn = 0 then none else some (unblanked (cells str i)).length

theorem unblanked_succ (str : Buf) (i : Nat) :
    unblanked (cells str (i + 1)) =
      unblanked (cells str i) ++ if str i ≠ 32 then [str i] else [] := by
  rw [unblanked, cells_succ, List.filter_append]
  by_cases blank : str i = 32
  · simp [unblanked, blank]
  · simp [unblanked, blank]

theorem compacted_blank {str : Buf} {i : Nat} {scan : BlankScan} (before : Compacted str i scan)
    (blank : str i = 32) : Compacted str (i + 1) (removeBlank1Step scan i) := by
  have kept : unblanked (cells str (i + 1)) = unblanked (cells str i) := by
    rw [unblanked_succ, if_neg (by simp [blank]), List.append_nil]
  have here : scan.str i = 32 := by rw [before.rest i (le_refl i), blank]
  have gap := before.gap
  have counted := before.counted
  have stepped : removeBlank1Step scan i =
      ⟨scan.str, some (unblanked (cells str i)).length, scan.inn + 1⟩ := by
    unfold removeBlank1Step
    rw [if_neg (by simp [here]), gap]
    by_cases none : scan.inn = 0
    · have start : (unblanked (cells str i)).length = i := by omega
      simp [none, start]
    · simp [none]
  rw [stepped]
  constructor
  · rw [kept]
    exact before.front
  · intro j behind inside
    rw [kept] at behind
    by_cases last : j = i
    · rw [last, here]
    · exact before.blanks j behind (by omega)
  · intro j beyond
    exact before.rest j (by omega)
  · rw [kept]
    show _ + (scan.inn + 1) = i + 1
    omega
  · rw [kept]
    rfl

theorem compacted_first {str : Buf} {i : Nat} {scan : BlankScan} (before : Compacted str i scan)
    (letter : str i ≠ 32) (none : scan.inn = 0) :
      Compacted str (i + 1) (removeBlank1Step scan i) := by
  have kept : unblanked (cells str (i + 1)) = unblanked (cells str i) ++ [str i] := by
    rw [unblanked_succ, if_pos letter]
  have length : (unblanked (cells str (i + 1))).length = i + 1 := by
    have counted := before.counted
    rw [kept, List.length_append, List.length_singleton]
    omega
  have here : scan.str i = str i := before.rest i (le_refl i)
  have gap := before.gap
  have front := before.front
  have reached : (unblanked (cells str i)).length = i := by
    have counted := before.counted
    omega
  have stepped : removeBlank1Step scan i = scan := by
    unfold removeBlank1Step
    rw [if_pos (by rw [here]; exact letter), gap, if_pos none]
  rw [stepped]
  constructor
  · rw [length, cells_succ, kept, ← front, reached, here]
  · intro j behind inside
    omega
  · intro j beyond
    exact before.rest j (by omega)
  · omega
  · rw [gap, if_pos none, if_pos none]

theorem compacted_moved {str : Buf} {i : Nat} {scan : BlankScan} (before : Compacted str i scan)
    (letter : str i ≠ 32) (some : scan.inn ≠ 0) :
      Compacted str (i + 1) (removeBlank1Step scan i) := by
  have kept : unblanked (cells str (i + 1)) = unblanked (cells str i) ++ [str i] := by
    rw [unblanked_succ, if_pos letter]
  have length : (unblanked (cells str (i + 1))).length = (unblanked (cells str i)).length + 1 := by
    rw [kept, List.length_append, List.length_singleton]
  have here : scan.str i = str i := before.rest i (le_refl i)
  have gap := before.gap
  have counted := before.counted
  have front := before.front
  generalize start : (unblanked (cells str i)).length = g at *
  have stepped : removeBlank1Step scan i =
      ⟨put (put scan.str g (str i)) i 32, .some (g + 1), scan.inn⟩ := by
    unfold removeBlank1Step
    rw [if_pos (by rw [here]; exact letter), gap, if_neg some, here]
    by_cases one : scan.inn = 1
    · have last : i = g + 1 := by omega
      simp [one, last]
    · simp [one]
  have swapped : (removeBlank1Step scan i).str = put (put scan.str g (str i)) i 32 := by
    rw [stepped]
  have elsewhere : ∀ j, j ≠ g → j ≠ i → (removeBlank1Step scan i).str j = scan.str j := by
    intro j apart behind
    rw [swapped, put_other _ _ _ j behind, put_other _ _ _ j apart]
  have moved : (removeBlank1Step scan i).str g = str i := by
    rw [swapped, put_other _ _ _ g (by omega), put_same]
  have blanked : (removeBlank1Step scan i).str i = 32 := by
    rw [swapped, put_same]
  constructor
  · rw [length, cells_succ, kept, moved, ← front]
    congr 1
    rw [cells_eq_iff]
    intro j bound
    exact elsewhere j (by omega) (by omega)
  · intro j behind inside
    rw [length] at behind
    by_cases last : j = i
    · rw [last, blanked]
    · rw [elsewhere j (by omega) last]
      exact before.blanks j (by omega) (by omega)
  · intro j beyond
    rw [elsewhere j (by omega) (by omega)]
    exact before.rest j (by omega)
  · rw [length, stepped]
    dsimp only
    omega
  · rw [length, stepped]
    exact (if_neg some).symm

theorem remove_blank_scan (str : Buf) (count : Nat) :
    Compacted str count ((List.range count).foldl removeBlank1Step ⟨str, none, 0⟩) := by
  induction count with
  | zero => constructor <;> simp [cells, unblanked]
  | succ count ih =>
      rw [List.range_succ, List.foldl_append]
      by_cases blank : str count = 32
      · exact compacted_blank ih blank
      · by_cases none : ((List.range count).foldl removeBlank1Step ⟨str, none, 0⟩).inn = 0
        · exact compacted_first ih blank none
        · exact compacted_moved ih blank none

/-- `remove_blank1` is its scan, ended behind the kept characters if a blank was seen. -/
theorem remove_blank1_scan (str : Buf) (count : Nat) :
    ∃ scan, Compacted str count scan ∧ removeBlank1 str count =
      if scan.inn = 0 then scan.str
      else put scan.str (unblanked (cells str count)).length 0 := by
  have scanned := remove_blank_scan str count
  refine ⟨_, scanned, ?_⟩
  have gap := scanned.gap
  unfold removeBlank1
  dsimp only
  split at gap
  · next none => rw [gap, if_pos none]
  · next some => rw [gap, if_neg some]

theorem remove_blank1_text (str : Buf) (count : Nat) (ends : str count = 0) :
    cells (removeBlank1 str count) (unblanked (cells str count)).length =
        unblanked (cells str count) ∧
      removeBlank1 str count (unblanked (cells str count)).length = 0 := by
  obtain ⟨scan, scanned, removed⟩ := remove_blank1_scan str count
  have counted := scanned.counted
  by_cases none : scan.inn = 0
  · have whole : (unblanked (cells str count)).length = count := by omega
    rw [removed, if_pos none]
    constructor
    · exact scanned.front
    · rw [whole, scanned.rest count (le_refl count), ends]
  · rw [removed, if_neg none]
    constructor
    · rw [cells_put_behind _ _ _ _ (le_refl _), scanned.front]
    · exact put_same _ _ _

theorem remove_blank1_beyond (str : Buf) (count index : Nat) (beyond : count ≤ index) :
    removeBlank1 str count index = str index := by
  obtain ⟨scan, scanned, removed⟩ := remove_blank1_scan str count
  have counted := scanned.counted
  rw [removed]
  split
  · exact scanned.rest index beyond
  · rw [put_other _ _ _ _ (by omega)]
    exact scanned.rest index beyond

theorem remove_blank_scan_from (str : Buf) (length : Nat) (nonzero : ∀ i < length, str i ≠ 0)
    (ends : str length = 0) (remaining i fuel : Nat) (split : i + remaining = length)
    (fuelled : remaining < fuel) :
      removeBlankLoop fuel i ((List.range i).foldl removeBlank1Step ⟨str, none, 0⟩) =
        (List.range length).foldl removeBlank1Step ⟨str, none, 0⟩ := by
  have here := (remove_blank_scan str i).rest i (le_refl i)
  induction remaining generalizing i fuel with
  | zero =>
      obtain ⟨fuel, rfl⟩ := Nat.exists_eq_succ_of_ne_zero (by omega : fuel ≠ 0)
      obtain rfl : i = length := by omega
      rw [removeBlankLoop, here, if_pos ends]
  | succ remaining ih =>
      obtain ⟨fuel, rfl⟩ := Nat.exists_eq_succ_of_ne_zero (by omega : fuel ≠ 0)
      have next := ih (i + 1) fuel (by omega) (by omega)
        ((remove_blank_scan str (i + 1)).rest (i + 1) (le_refl _))
      rw [removeBlankLoop, here, if_neg (nonzero i (by omega)), ← next, List.range_succ,
        List.foldl_append]
      rfl

theorem remove_blank_eq (str : Buf) (size : Nat) (ends : strlen str size < size) :
    removeBlank str size = removeBlank1 str (strlen str size) := by
  have scanned := remove_blank_scan_from str (strlen str size) (strlen_nonzero str size)
    (strlen_cell str size ends) (strlen str size) 0 size (by omega) ends
  rw [List.range_zero, List.foldl_nil] at scanned
  rw [removeBlank, scanned, removeBlank1]

def digitsOf (byte : Byte) : List Byte :=
  [encodeDigits ((byte >>> 4) &&& 0xf).toNat, encodeDigits (byte &&& 0xf).toNat]

def hexTextOf (bytes : List Byte) : List Byte := bytes.flatMap digitsOf

theorem gl_hex2str_text (input output : Buf) (count : Nat) :
    cells (glHex2str input count output) (2 * count) = hexTextOf (cells input count) := by
  induction count with
  | zero => rfl
  | succ count ih =>
      have step : glHex2str input (count + 1) output =
          glHex2strStep input (glHex2str input count output) count := by
        simp [glHex2str, List.range_succ]
      have front : cells (glHex2str input (count + 1) output) (2 * count) =
          cells (glHex2str input count output) (2 * count) := by
        rw [step, glHex2strStep, cells_eq_iff]
        intro j bound
        rw [put_other _ _ _ j (by omega), put_other _ _ _ j (by omega)]
      rw [show 2 * (count + 1) = 2 * count + 1 + 1 by omega, cells_succ, cells_succ, front, ih,
        step, glHex2strStep, put_same, put_other _ _ _ (2 * count) (by omega), put_same,
        cells_succ, hexTextOf, hexTextOf, List.flatMap_append, List.append_assoc]
      rfl

theorem digits_of_value (byte : Byte) :
    pairValues (digitsOf byte) = [byte] ∧ ∀ digit ∈ digitsOf byte, IsHexDigit digit := by
  have table : ∀ value < 256, pairValues (digitsOf (UInt8.ofNat value)) = [UInt8.ofNat value] ∧
      IsHexDigit (encodeDigits ((UInt8.ofNat value >>> 4) &&& 0xf).toNat) ∧
        IsHexDigit (encodeDigits (UInt8.ofNat value &&& 0xf).toNat) := by
    decide +kernel
  obtain ⟨values, high, low⟩ := table byte.toNat byte.toNat_lt
  rw [UInt8.ofNat_toNat] at values high low
  exact ⟨values, List.forall_mem_cons.mpr ⟨high, List.forall_mem_singleton.mpr low⟩⟩

theorem hex_text_length (bytes : List Byte) : (hexTextOf bytes).length = 2 * bytes.length := by
  induction bytes with
  | nil => rfl
  | cons byte rest ih =>
      rw [hexTextOf, List.flatMap_cons, List.length_append, ← hexTextOf, ih, List.length_cons]
      simp only [digitsOf, List.length_cons, List.length_nil]
      omega

theorem hex_text_digits (bytes : List Byte) : ∀ digit ∈ hexTextOf bytes, IsHexDigit digit := by
  intro digit member
  obtain ⟨byte, _, written⟩ := List.mem_flatMap.mp member
  exact (digits_of_value byte).2 digit written

theorem hex_text_values (bytes : List Byte) : pairValues (hexTextOf bytes) = bytes := by
  induction bytes with
  | nil => rfl
  | cons byte rest ih =>
      have one : [pairValue (encodeDigits ((byte >>> 4) &&& 0xf).toNat)
          (encodeDigits (byte &&& 0xf).toNat)] = [byte] := (digits_of_value byte).1
      rw [hexTextOf, List.flatMap_cons, ← hexTextOf]
      show pairValue _ _ :: pairValues (hexTextOf rest) = byte :: rest
      rw [ih, List.head_eq_of_cons_eq one]

/-- The spellings of a text: letters in the other case, blanks anywhere. -/
inductive Respelled : List Byte → List Byte → Prop
  | ended : Respelled [] []
  | blank {text s : List Byte} : Respelled text s → Respelled text (32 :: s)
  | kept {text s : List Byte} (c : Byte) : Respelled text s → Respelled (c :: text) (c :: s)
  | lowered {text s : List Byte} (c : Byte) : 65 ≤ c.toNat → c.toNat ≤ 90 → Respelled text s →
      Respelled (c :: text) ((c + 32) :: s)

theorem hex_digit_not_blank (c : Byte) (hex : IsHexDigit c) : c ≠ 32 := by
  rintro rfl
  revert hex
  decide

theorem lowered_digit (c : Byte) (upper : 65 ≤ c.toNat) (letter : c.toNat ≤ 90)
    (hex : IsHexDigit c) : IsHexDigit (c + 32) ∧ digitValue (c + 32) = digitValue c := by
  have table : ∀ value < 256, 65 ≤ (UInt8.ofNat value).toNat → (UInt8.ofNat value).toNat ≤ 90 →
      IsHexDigit (UInt8.ofNat value) → IsHexDigit (UInt8.ofNat value + 32) ∧
        digitValue (UInt8.ofNat value + 32) = digitValue (UInt8.ofNat value) := by
    decide +kernel
  have entry := table c.toNat c.toNat_lt
  rw [UInt8.ofNat_toNat] at entry
  exact entry upper letter hex

theorem respelled_digits {text s : List Byte} (spelled : Respelled text s)
    (hex : ∀ digit ∈ text, IsHexDigit digit) :
      (unblanked s).map digitValue = text.map digitValue ∧
        ∀ digit ∈ unblanked s, IsHexDigit digit := by
  induction spelled with
  | ended => simp [unblanked]
  | blank _ ih => simpa [unblanked] using ih hex
  | @kept text s c _ ih =>
      obtain ⟨values, digits⟩ := ih fun digit member => hex digit (by simp [member])
      have own := hex c (by simp)
      have stays : unblanked (c :: s) = c :: unblanked s := by
        simp [unblanked, hex_digit_not_blank c own]
      rw [stays]
      exact ⟨by simp [values], by simpa [own] using digits⟩
  | @lowered text s c upper letter _ ih =>
      obtain ⟨values, digits⟩ := ih fun digit member => hex digit (by simp [member])
      obtain ⟨own, value⟩ := lowered_digit c upper letter (hex c (by simp))
      have stays : unblanked ((c + 32) :: s) = (c + 32) :: unblanked s := by
        simp [unblanked, hex_digit_not_blank _ own]
      rw [stays]
      exact ⟨by simp [values, value], by simpa [own] using digits⟩

theorem pairValues_congr (left right : List Byte)
    (same : left.map digitValue = right.map digitValue) : pairValues left = pairValues right := by
  induction left using pairValues.induct generalizing right with
  | case1 high low rest ih =>
      obtain ⟨high', right, rfl⟩ := List.exists_cons_of_ne_nil
        (show right ≠ [] by rintro rfl; simp at same)
      obtain ⟨low', right, rfl⟩ := List.exists_cons_of_ne_nil
        (show right ≠ [] by rintro rfl; simp at same)
      simp only [List.map_cons, List.cons.injEq] at same
      simp only [pairValues, pairValue, same.1, same.2.1, ih right same.2.2]
  | case2 last =>
      obtain ⟨other, rfl⟩ := List.length_eq_one_iff.mp
        (show right.length = 1 by simpa using (congrArg List.length same).symm)
      rfl
  | case3 =>
      rw [List.map_eq_nil_iff.mp same.symm]

theorem nonzero_of_hex (c : Byte) (hex : IsHexDigit c) : c ≠ 0 := by
  rintro rfl
  revert hex
  decide

/-- Any spelling of a byte sequence is read back. -/
theorem decode_undoes_encode (bs : List Byte) (short : bs.length ≤ 126) (written : Buf)
    (s : List Byte) (str out : Buf)
    (spelled : Respelled (cells (glHex2str (ofBytes bs) bs.length written) (2 * bs.length)) s)
    (holds : cells str s.length = s) (ends : str s.length = 0) :
      strlen (removeBlank1 str s.length) (s.length + 1) = 2 * bs.length ∧
        ∃ result, glStr2acsll (removeBlank1 str s.length)
            (strlen (removeBlank1 str s.length) (s.length + 1)) out = some result ∧
          cells result bs.length = bs := by
  rw [gl_hex2str_text, cells_ofBytes] at spelled
  obtain ⟨values, digits⟩ := respelled_digits spelled (hex_text_digits bs)
  obtain ⟨text, ended⟩ := remove_blank1_text str s.length ends
  rw [holds] at text ended
  have length : (unblanked s).length = 2 * bs.length := by
    have counted := congrArg List.length values
    rwa [List.length_map, List.length_map, hex_text_length] at counted
  have within : (unblanked s).length ≤ s.length := List.length_filter_le _ _
  have measured : strlen (removeBlank1 str s.length) (s.length + 1) = (unblanked s).length := by
    exact strlen_zero_free (unblanked s) _ _ (fun zero => nonzero_of_hex 0 (digits 0 zero) rfl)
      (by omega) text ended
  have decoded := packed_cells_of_hex (unblanked s) _ out text digits
  rw [pairValues_congr _ _ values, hex_text_values, length] at decoded
  refine ⟨measured.trans length, ?_⟩
  rw [measured, length, str2acsll_eq, if_pos (by omega)]
  exact ⟨_, rfl, by rwa [Nat.mul_div_cancel_left _ (by omega)] at decoded⟩

theorem decode_undoes_encode_spelled :
    ∃ result, glStr2acsll (removeBlank1 (ofBytes (ascii " 0 a4  B")) 8) 4 (fun _ => 7) =
        some result ∧ cells result 2 = [10, 75] := by
  have spelled : Respelled (cells (glHex2str (ofBytes [10, 75]) 2 fun _ => 0) (2 * 2))
      (ascii " 0 a4  B") := by
    have text : cells (glHex2str (ofBytes [10, 75]) 2 fun _ => 0) (2 * 2) = ascii "0A4B" := by
      decide +kernel
    rw [text]
    exact .blank (.kept 48 (.blank (.lowered 65 (by decide) (by decide) (.kept 52
      (.blank (.blank (.kept 66 .ended)))))))
  have decoded := decode_undoes_encode [10, 75] (by decide) (fun _ => 0) (ascii " 0 a4  B")
    (ofBytes (ascii " 0 a4  B")) (fun _ => 7) spelled (by decide +kernel) (by decide +kernel)
  rw [decoded.1] at decoded
  exact decoded.2

end GlRs485.SpacedHex
