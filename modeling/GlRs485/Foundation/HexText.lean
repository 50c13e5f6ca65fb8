import GlRs485.Foundation.CBytes

/-!
# Hexadecimal text

Digit values, the number a digit string denotes, and the bytes denoted by
successive digit pairs. Nothing here depends on how a program computes them.
-/

namespace HexText

open CBytes

set_option autoImplicit false

def IsHexDigit (digit : Byte) : Prop :=
  (48 ≤ digit.toNat ∧ digit.toNat ≤ 57) ∨ (65 ≤ digit.toNat ∧ digit.toNat ≤ 70) ∨
    (97 ≤ digit.toNat ∧ digit.toNat ≤ 102)

instance (digit : Byte) : Decidable (IsHexDigit digit) := by
  unfold IsHexDigit
  infer_instance

def digitValue (digit : Byte) : Nat :=
  if 48 ≤ digit.toNat ∧ digit.toNat ≤ 57 then digit.toNat - 48
  else if 65 ≤ digit.toNat ∧ digit.toNat ≤ 70 then digit.toNat - 55
  else if 97 ≤ digit.toNat ∧ digit.toNat ≤ 102 then digit.toNat - 87
  else 0

theorem digitValue_lt (digit : Byte) : digitValue digit < 16 := by
  unfold digitValue
  split_ifs <;> omega

/-- The number a string of hex digits denotes, most significant digit first. -/
def hexValue (digits : List Byte) : Nat :=
  digits.foldl (fun value digit => value * 16 + digitValue digit) 0

theorem hexValue_snoc (digits : List Byte) (digit : Byte) :
    hexValue (digits ++ [digit]) = hexValue digits * 16 + digitValue digit := by
  simp [hexValue]

def pairValue (high low : Byte) : Byte := UInt8.ofNat (digitValue high * 16 + digitValue low)

/-- The bytes denoted by successive digit pairs; a last odd digit denotes none. -/
def pairValues : List Byte → List Byte
  | high :: low :: rest => pairValue high low :: pairValues rest
  | [_] => []
  | [] => []

theorem pairValues_length (digits : List Byte) :
    (pairValues digits).length = digits.length / 2 := by
  induction digits using pairValues.induct with
  | case1 high low rest ih =>
      simp only [pairValues, List.length_cons, ih]
      omega
  | case2 _ => simp [pairValues]
  | case3 => simp [pairValues]

theorem pairValues_getElem (digits : List Byte) (index : Nat)
    (bound : index < (pairValues digits).length) (high : 2 * index < digits.length)
    (low : 2 * index + 1 < digits.length) :
      (pairValues digits)[index] = pairValue digits[2 * index] digits[2 * index + 1] := by
  induction digits using pairValues.induct generalizing index with
  | case1 first second rest ih =>
      cases index with
      | zero => simp [pairValues]
      | succ index =>
          simp only [List.length_cons] at high low
          simp only [pairValues, List.getElem_cons_succ, Nat.mul_add, Nat.mul_one]
          exact ih index (by simpa [pairValues] using bound) (by omega) (by omega)
  | case2 _ => simp [pairValues] at bound
  | case3 => simp [pairValues] at bound

/-! ## Texts that come in parts -/

theorem pairValues_append (front back : List Byte) (even : front.length % 2 = 0) :
    pairValues (front ++ back) = pairValues front ++ pairValues back := by
  induction front using pairValues.induct with
  | case1 high low rest ih =>
      simp only [List.length_cons] at even
      simp only [List.cons_append, pairValues, ih (by omega)]
  | case2 _ => simp at even
  | case3 => rfl

/-- Whole pairs, and no more digits than a decoder takes. -/
def WholePairs (limit : Nat) (part : List Byte) : Prop :=
  part.length % 2 = 0 ∧ part.length ≤ limit

instance (limit : Nat) (part : List Byte) : Decidable (WholePairs limit part) :=
  inferInstanceAs (Decidable (_ ∧ _))

/-- The bytes of a part that is decoded by itself or not at all. -/
def partValues (limit : Nat) (part : List Byte) : List Byte :=
  if WholePairs limit part then pairValues part else []

theorem partValues_length (parts : List (Nat × List Byte)) :
    2 * (parts.flatMap fun part => partValues part.1 part.2).length ≤
        (parts.flatMap Prod.snd).length ∧
      ((∃ part ∈ parts, ¬WholePairs part.1 part.2) →
        2 * (parts.flatMap fun part => partValues part.1 part.2).length <
          (parts.flatMap Prod.snd).length) := by
  induction parts with
  | nil => simp
  | cons part rest ih =>
      obtain ⟨most, fewer⟩ := ih
      rw [List.flatMap_cons, List.flatMap_cons, List.length_append, List.length_append]
      have counted := pairValues_length part.2
      by_cases whole : WholePairs part.1 part.2
      · rw [partValues, if_pos whole]
        refine ⟨by omega, ?_⟩
        rintro ⟨other, member, broken⟩
        rcases List.mem_cons.mp member with first | later
        · exact absurd whole (first ▸ broken)
        · have restFewer := fewer ⟨other, later, broken⟩
          omega
      · have digits : 0 < part.2.length := by
          by_contra none
          exact whole ⟨by omega, by omega⟩
        rw [partValues, if_neg whole, List.length_nil]
        exact ⟨by omega, fun _ => by omega⟩

theorem partValues_flatten (parts : List (Nat × List Byte))
    (whole : ∀ part ∈ parts, WholePairs part.1 part.2) :
      (parts.flatMap fun part => partValues part.1 part.2) =
        pairValues (parts.flatMap Prod.snd) := by
  induction parts with
  | nil => rfl
  | cons part rest ih =>
      have first := whole part (by simp)
      rw [List.flatMap_cons, List.flatMap_cons, pairValues_append _ _ first.1,
        ih fun other member => whole other (by simp [member]), partValues, if_pos first]

/-- The parts add up to the text exactly when each of them is whole. -/
theorem partValues_flatten_iff (parts : List (Nat × List Byte))
    (even : (parts.flatMap Prod.snd).length % 2 = 0) :
      (parts.flatMap fun part => partValues part.1 part.2) =
          pairValues (parts.flatMap Prod.snd) ↔
        ∀ part ∈ parts, WholePairs part.1 part.2 := by
  constructor
  · intro same
    by_contra broken
    push Not at broken
    have fewer := (partValues_length parts).2 broken
    rw [same, pairValues_length] at fewer
    omega
  · exact partValues_flatten parts

end HexText
