import GlRs485.Foundation.FlipDistance
import GlRs485.FrameVerdicts

/-!
# How many flipped bits the check of a frame stands

Up to 257 bytes two intact frames differ in at least four bits, wherever these
lie. Four is the limit for every length: the bits of the polynomial pass.
-/

namespace GlRs485.FlippedBits

open CBytes HexCodec ReflectedCrc Crc16 SerialLine RegisterApi FrameCheck FrameVerdicts

set_option autoImplicit false

def flips (errors : List Byte) : Nat := (bitsOf errors).count true

/-- The answer has been damaged, and every call that receives it reports this verdict. -/
def DamageJudged (frame errors : List Byte) (verdict : Bool) : Prop :=
  ∀ line result, Receives line (damaged frame errors) → VerdictCall line result →
    crcVerdicts result.output = [verdict]

/-- A register with a single one does not come back within the longest checked frame. -/
theorem crc_way_open (distance : Nat) (positive : 0 < distance) (within : distance ≤ 2056) :
    (shift crcWay)^[distance] (bit 16 true) ≠ bit 16 true := by
  have checked : avoids crcWay (bit 16 true) 2056 (bit 16 true) = true := by decide +kernel
  exact iterate_of_avoids crcWay _ _ 2056 distance checked positive within

theorem damage_accepted_iff {recBuff : Buf} {frame errors : List Byte} (long : 2 ≤ frame.length)
    (short : frame.length ≤ 257) (intact : Sealed frame) (length : errors.length = frame.length)
    (holds : cells recBuff frame.length = damaged frame errors) :
      crcMatches recBuff frame.length = true ↔ remainder crcWay 0#16 (bitsOf errors) = 0#16 := by
  have size : (damaged frame errors).length = frame.length := by simp [damaged, length]
  obtain ⟨body, low, high, split, bodyLength, _⟩ := frame_split (damaged frame errors) (by omega)
  have total : frame.length = body.length + 2 := by omega
  have together := remainder_xor crcWay 0xFFFF#16 0#16 (bitsOf frame) (bitsOf errors)
    (by rw [bits_length, bits_length, length])
  rw [BitVec.xor_zero, ← xor_bits, sealed_remainder frame long short intact, BitVec.zero_xor]
    at together
  rw [total] at holds ⊢
  rw [crc_matches_iff recBuff body low high (by omega) (holds.trans split), ← split, together]

theorem few_flips_remain (errors : List Byte) (short : errors.length ≤ 257)
    (some : 0 < flips errors) (few : flips errors ≤ 3) :
      remainder crcWay 0#16 (bitsOf errors) ≠ 0#16 := by
  by_cases even : flips errors = 2
  · apply remainder_pair crcWay crc_way_top (bitsOf errors) even
    intro distance positive within
    rw [bits_length] at within
    exact crc_way_open distance positive (by omega)
  · apply remainder_odd crcWay (bitsOf errors) (by omega) crc_way_odd
    have odd : flips errors = 1 ∨ flips errors = 3 := by omega
    rcases odd with one | three
    · rw [← flips, one]
    · rw [← flips, three]

theorem damage_judged {frame errors : List Byte} (long : 2 ≤ frame.length)
    (short : frame.length ≤ 257) (intact : Sealed frame) (length : errors.length = frame.length) :
      DamageJudged frame errors
        (decide (remainder crcWay 0#16 (bitsOf errors) = 0#16)) := by
  have size : (damaged frame errors).length = frame.length := by simp [damaged, length]
  intro line result received call
  have stored := received.stored
  rw [size] at stored
  have accepted := damage_accepted_iff long short intact length stored
  have verdict : crcVerdicts result.output =
      [crcMatches (receiveLoop line.fd line.received (fun _ => 0) 0).buf frame.length] := by
    rw [← size]
    cases call with
    | read returned asked => exact read_call_verdict received (by omega) returned asked
    | write returned used => exact write_call_verdict received (by omega) returned used
  rw [verdict, List.singleton_inj, Bool.eq_iff_iff, accepted, decide_eq_true_iff]

/-- A one and the bits of the polynomial behind it, at the front of a frame. -/
def polynomialErrors (length : Nat) : List Byte :=
  [0x03, 0x40, 0x01] ++ List.replicate (length - 3) 0

theorem zeros_quiet (count : Nat) :
    ∀ value ∈ bitsOf (List.replicate count 0), value = false := by
  intro value member
  obtain ⟨byte, listed, flipped⟩ := List.mem_flatMap.mp member
  rw [List.eq_of_mem_replicate listed] at flipped
  have blank : ∀ bit ∈ byteBits 0, bit = false := by decide
  exact blank value flipped

theorem polynomial_errors_bits (length : Nat) :
    bitsOf (polynomialErrors length) =
      true :: ((List.range 16).map crcWay.getLsbD ++
        (List.replicate 7 false ++ bitsOf (List.replicate (length - 3) 0))) := by
  have front : bitsOf [0x03, 0x40, 0x01] =
      true :: ((List.range 16).map crcWay.getLsbD ++ List.replicate 7 false) := by decide
  rw [polynomialErrors, bitsOf, List.flatMap_append, ← bitsOf, front]
  simp [bitsOf]

theorem polynomial_errors_flips (length : Nat) : flips (polynomialErrors length) = 4 := by
  have quiet : (bitsOf (List.replicate (length - 3) 0)).count true = 0 := by
    rw [List.count_eq_zero]
    intro member
    exact absurd (zeros_quiet _ true member) (by decide)
  have polynomial : ((List.range 16).map crcWay.getLsbD).count true = 3 := by decide
  rw [flips, polynomial_errors_bits, List.count_cons_self, List.count_append, List.count_append,
    quiet, polynomial]
  decide

theorem polynomial_errors_pass (length : Nat) :
    remainder crcWay 0#16 (bitsOf (polynomialErrors length)) = 0#16 := by
  rw [polynomial_errors_bits]
  apply remainder_polynomial crcWay (by omega) _ _ (by decide) (by simp)
  intro value member
  rcases List.mem_append.mp member with behind | later
  · exact List.eq_of_mem_replicate behind
  · exact zeros_quiet _ value later

/-- Every pattern of one to three flipped bits, wherever they lie in a frame that carries
its CRC, is reported as a wrong CRC by both register calls. Some pattern of four bits
is not, for a frame of any length. -/
theorem three_flips_rejected_four_not (frame : List Byte) (long : 3 ≤ frame.length)
    (short : frame.length ≤ 257) (intact : Sealed frame) :
      (∀ errors, errors.length = frame.length → 0 < flips errors → flips errors ≤ 3 →
        DamageJudged frame errors false) ∧
      ∃ errors, errors.length = frame.length ∧ flips errors = 4 ∧
        DamageJudged frame errors true := by
  constructor
  · intro errors length some few
    have judged := damage_judged (by omega) short intact length
    rwa [decide_eq_false (few_flips_remain errors (by omega) some few)] at judged
  · have length : (polynomialErrors frame.length).length = frame.length := by
      simp [polynomialErrors]
      omega
    have judged := damage_judged (by omega) short intact length
    rw [decide_eq_true (polynomial_errors_pass frame.length)] at judged
    exact ⟨_, length, polynomial_errors_flips _, judged⟩

def twoFlips : List Byte := [0, 1, 0, 0, 0, 0, 1]

theorem three_flips_rejected_four_not_on_reply :
    ∃ result, readRs485Data readCall ⟨3, 0, [8], [.data (damaged reply twoFlips)]⟩ =
      some result ∧ crcVerdicts result.output = [false] := by
  have rejected := (three_flips_rejected_four_not reply (by decide +kernel) (by decide +kernel)
    (by decide +kernel)).1 twoFlips (by decide +kernel) (by decide +kernel) (by decide +kernel)
  obtain ⟨result, returned⟩ :=
    read_call_returns ⟨3, 0, [8], [.data (damaged reply twoFlips)]⟩
  have received : Receives ⟨3, 0, [8], [.data (damaged reply twoFlips)]⟩
      (damaged reply twoFlips) := ⟨by decide, by decide, by decide +kernel, by decide +kernel⟩
  exact ⟨result, returned, rejected _ _ received (.read returned (by decide +kernel))⟩

end GlRs485.FlippedBits
