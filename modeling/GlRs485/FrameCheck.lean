import GlRs485.Foundation.CrcDetection
import GlRs485.RegisterApi

/-!
# The check of a received frame

`read_rs485_data` and `write_rs485_data` compare the CRC of an answer without its
last two bytes with those two bytes. Up to 257 bytes that is the question whether
all bytes of the answer together leave no remainder.
-/

namespace GlRs485.FrameCheck

open CBytes HexCodec ReflectedCrc Crc16 SerialLine RegisterApi

set_option autoImplicit false

theorem crc_way_top : crcWay.getLsbD (16 - 1) = true := by decide

theorem crc_way_odd : parity crcWay = 1 := by decide

theorem byteBits_getD (byte : Byte) (index : Nat) :
    (byteBits byte).getD index false = byte.toNat.testBit index := by
  by_cases inside : index < 8
  · simp [byteBits, inside, BitVec.getLsbD]
  · have none : byte.toNat.testBit index = false := by
      apply Nat.testBit_lt_two_pow
      calc
        byte.toNat < 2 ^ 8 := byte.toNat_lt
        _ ≤ 2 ^ index := Nat.pow_le_pow_right (by omega) (by omega)
    rw [none, List.getD_eq_default _ _ (by simp [byteBits]; omega)]

theorem word_of_crc_bytes (low high : Byte) :
    word 16 (bitsOf [low, high]) = BitVec.ofNat 16 (low.toNat + high.toNat * 256) := by
  apply BitVec.eq_of_getLsbD_eq
  intro index bound
  have sum : low.toNat + high.toNat * 256 = 2 ^ 8 * high.toNat + low.toNat := by omega
  have bits : bitsOf [low, high] = byteBits low ++ byteBits high := by simp [bitsOf]
  rw [word_getLsbD _ _ bound, BitVec.getLsbD_ofNat, sum,
    Nat.testBit_two_pow_mul_add high.toNat low.toNat_lt, bits]
  by_cases first : index < 8
  · rw [List.getD_append _ _ _ _ (by simpa [byteBits] using first), byteBits_getD]
    simp [first, bound]
  · rw [List.getD_append_right _ _ _ _ (by simp [byteBits]; omega), byteBits_getD]
    simp [first, bound, byteBits]

theorem crc_matches_iff (recBuff : Buf) (body : List Byte) (low high : Byte)
    (short : body.length ≤ 255) (holds : cells recBuff (body.length + 2) = body ++ [low, high]) :
      crcMatches recBuff (body.length + 2) = true ↔
        remainder crcWay 0xFFFF#16 (bitsOf (body ++ [low, high])) = 0#16 := by
  have front : cells recBuff body.length = body := by
    have taken := congrArg (List.take body.length) holds
    rwa [cells_take _ _ _ (by omega), List.take_left] at taken
  have lowCell : recBuff body.length = low := by
    have cell := @List.getElem_of_eq _ _ _ holds body.length (by simp)
    simpa using cell
  have highCell : recBuff (body.length + 1) = high := by
    have cell := @List.getElem_of_eq _ _ _ holds (body.length + 1) (by simp)
    simpa using cell
  have computed : glCrc16 recBuff (UInt8.ofNat (body.length + 2 - 2)) crcWay =
      remainder crcWay 0xFFFF#16 (bitsOf body) := by
    rw [gl_crc16_eq, HexDecoder.counter_toNat _ (by omega), Nat.add_sub_cancel, front,
      checksum_eq _ _ _ (by omega)]
  have loaded : remainder crcWay 0xFFFF#16 (bitsOf (body ++ [low, high])) =
      (shift crcWay)^[16] (remainder crcWay 0xFFFF#16 (bitsOf body) ^^^
        BitVec.ofNat 16 (low.toNat + high.toNat * 256)) := by
    rw [bitsOf, List.flatMap_append, remainder_append, ← word_of_crc_bytes,
      remainder_word _ _ _ (by simp [byteBits])]
    rfl
  have stored : low.toNat + high.toNat * 256 < 2 ^ 16 := by
    have lowByte := low.toNat_lt
    have highByte := high.toNat_lt
    omega
  rw [crcMatches, computed, loaded, show body.length + 2 - 2 = body.length by omega,
    show body.length + 2 - 1 = body.length + 1 by omega, lowCell, highCell, beq_iff_eq]
  constructor
  · intro same
    have equal : remainder crcWay 0xFFFF#16 (bitsOf body) =
        BitVec.ofNat 16 (low.toNat + high.toNat * 256) := by
      apply BitVec.eq_of_toNat_eq
      rw [same, BitVec.toNat_ofNat, Nat.mod_eq_of_lt stored]
    rw [equal, BitVec.xor_self]
    exact iterate_shift_zero crcWay 16
  · intro zero
    have cancelled := eq_zero_of_iterate_shift crcWay _ crc_way_top 16 zero
    rw [BitVec.xor_eq_zero_iff.mp cancelled, BitVec.toNat_ofNat, Nat.mod_eq_of_lt stored]

/-- A frame that carries its own CRC, low byte first. -/
def Sealed (frame : List Byte) : Prop :=
  frame = frame.take (frame.length - 2) ++
    crcBytes (glCrc16 (ofBytes (frame.take (frame.length - 2)))
      (UInt8.ofNat (frame.length - 2)) crcWay)

instance (frame : List Byte) : Decidable (Sealed frame) := inferInstanceAs (Decidable (_ = _))

def damaged (frame errors : List Byte) : List Byte := List.zipWith (· ^^^ ·) frame errors

/-- All flipped bits lie within sixteen consecutive ones. -/
def Burst (errors : List Byte) : Prop :=
  ∃ start, ∀ index, (bitsOf errors).getD index false = true → start ≤ index ∧ index < start + 16

def OddFlips (errors : List Byte) : Prop := (bitsOf errors).count true % 2 = 1

theorem xor_bits (frame errors : List Byte) :
    bitsOf (damaged frame errors) = List.zipWith xor (bitsOf frame) (bitsOf errors) := by
  have single : ∀ left right : Byte,
      byteBits (left ^^^ right) = List.zipWith xor (byteBits left) (byteBits right) := by
    intro left right
    simp [byteBits, List.range_succ]
  induction frame generalizing errors with
  | nil => simp [damaged, bitsOf]
  | cons byte frame ih =>
      cases errors with
      | nil => simp [damaged, bitsOf]
      | cons error errors =>
          have rest := ih errors
          simp only [damaged, bitsOf] at rest
          rw [damaged, List.zipWith_cons_cons, bitsOf, List.flatMap_cons, rest, bitsOf, bitsOf,
            List.flatMap_cons, List.flatMap_cons, List.zipWith_append (by simp [byteBits]), single]

theorem bits_length (bytes : List Byte) : (bitsOf bytes).length = 8 * bytes.length := by
  induction bytes with
  | nil => rfl
  | cons byte rest ih =>
      rw [bitsOf, List.flatMap_cons, List.length_append, ← bitsOf, ih]
      simp [byteBits, Nat.mul_add, Nat.add_comm]

theorem flips_of_nonzero (errors : List Byte) (nonzero : ∃ error ∈ errors, error ≠ 0) :
    true ∈ bitsOf errors := by
  obtain ⟨error, member, flips⟩ := nonzero
  have table : ∀ value < 256, UInt8.ofNat value ≠ 0 → true ∈ byteBits (UInt8.ofNat value) := by
    decide +kernel
  have entry := table error.toNat error.toNat_lt
  rw [UInt8.ofNat_toNat] at entry
  exact List.mem_flatMap.mpr ⟨error, member, entry flips⟩

theorem frame_split (frame : List Byte) (long : 2 ≤ frame.length) :
    ∃ body low high, frame = body ++ [low, high] ∧ body.length = frame.length - 2 ∧
      frame.take (frame.length - 2) = body := by
  have back : (frame.drop (frame.length - 2)).length = 2 := by
    rw [List.length_drop]
    omega
  obtain ⟨low, high, lastTwo⟩ := List.length_eq_two.mp back
  refine ⟨frame.take (frame.length - 2), low, high, ?_, ?_, rfl⟩
  · rw [← lastTwo, List.take_append_drop]
  · rw [List.length_take]
    omega

/-- The last two bytes are compared with the CRC of a front part: the length goes
through an `unsigned char`. -/
theorem crc_matches_front_iff (recBuff : Buf) (frame : List Byte) (long : 2 ≤ frame.length)
    (holds : cells recBuff frame.length = frame) :
      crcMatches recBuff frame.length = true ↔
        frame.drop (frame.length - 2) =
          crcBytes (modbusCrc16 (frame.take ((frame.length - 2) % 256))) := by
  obtain ⟨body, low, high, split, length, _⟩ := frame_split frame long
  have content := (cells_eq_bytes_iff recBuff frame).mp holds
  have lowCell : recBuff (frame.length - 2) = low := by
    rw [content _ (by omega)]
    simp [split]
  have highCell : recBuff (frame.length - 1) = high := by
    rw [content _ (by omega)]
    simp [split]
  have back : frame.drop (frame.length - 2) = [low, high] := by
    rw [← length, split, List.drop_left]
  have computed : glCrc16 recBuff (UInt8.ofNat (frame.length - 2)) crcWay =
      modbusCrc16 (frame.take ((frame.length - 2) % 256)) := by
    have counter : (UInt8.ofNat (frame.length - 2)).toNat = (frame.length - 2) % 256 :=
      UInt8.toNat_ofNat'
    have inside : (frame.length - 2) % 256 ≤ frame.length :=
      (Nat.mod_le _ _).trans (Nat.sub_le _ _)
    rw [gl_crc16_eq, counter, ← cells_take recBuff frame.length _ inside, holds]
    rfl
  rw [crcMatches, computed, lowCell, highCell, back, beq_iff_eq, crcBytes]
  have bound := (modbusCrc16 (frame.take ((frame.length - 2) % 256))).isLt
  have lowByte := low.toNat_lt
  have highByte := high.toNat_lt
  simp only [List.cons.injEq, and_true, ← UInt8.toNat_inj, UInt8.toNat_ofNat']
  omega

theorem sealed_remainder (frame : List Byte) (long : 2 ≤ frame.length) (short : frame.length ≤ 257)
    (intact : Sealed frame) : remainder crcWay 0xFFFF#16 (bitsOf frame) = 0#16 := by
  obtain ⟨body, low, high, split, length, front⟩ := frame_split frame long
  have total : frame.length = body.length + 2 := by omega
  have content : cells (ofBytes frame) (body.length + 2) = body ++ [low, high] := by
    rw [← total, cells_ofBytes, split]
  have matched : crcMatches (ofBytes frame) (body.length + 2) = true := by
    rw [← total, crc_matches_front_iff (ofBytes frame) frame long (cells_ofBytes frame),
      Nat.mod_eq_of_lt (by omega), front]
    have crc : glCrc16 (ofBytes body) (UInt8.ofNat body.length) crcWay = modbusCrc16 body := by
      rw [gl_crc16_eq, HexDecoder.counter_toNat _ (by omega), cells_ofBytes]
      rfl
    have same := intact
    rw [Sealed, front, ← length, crc] at same
    calc
      frame.drop (frame.length - 2) = (body ++ crcBytes (modbusCrc16 body)).drop body.length := by
        rw [← same, length]
      _ = crcBytes (modbusCrc16 body) := List.drop_left
  rw [split]
  exact (crc_matches_iff (ofBytes frame) body low high (by omega) content).mp matched

theorem damage_detected (recBuff : Buf) (frame errors : List Byte) (long : 2 ≤ frame.length)
    (short : frame.length ≤ 257) (intact : Sealed frame) (length : errors.length = frame.length)
    (nonzero : ∃ error ∈ errors, error ≠ 0) (pattern : Burst errors ∨ OddFlips errors)
    (holds : cells recBuff frame.length = damaged frame errors) :
      crcMatches recBuff frame.length = false := by
  have size : (damaged frame errors).length = frame.length := by simp [damaged, length]
  obtain ⟨body, low, high, split, bodyLength, _⟩ := frame_split (damaged frame errors) (by omega)
  have total : frame.length = body.length + 2 := by omega
  have left : remainder crcWay 0#16 (bitsOf errors) ≠ 0#16 := by
    rcases pattern with burst | odd
    · obtain ⟨start, confined⟩ := burst
      exact remainder_burst crcWay crc_way_top _ start (flips_of_nonzero errors nonzero) confined
    · exact remainder_odd crcWay _ (by omega) crc_way_odd odd
  have together := remainder_xor crcWay 0xFFFF#16 0#16 (bitsOf frame) (bitsOf errors)
    (by rw [bits_length, bits_length, length])
  rw [BitVec.xor_zero, ← xor_bits, sealed_remainder frame long short intact, BitVec.zero_xor]
    at together
  rw [total] at holds ⊢
  rw [← Bool.not_eq_true, crc_matches_iff recBuff body low high (by omega) (holds.trans split),
    ← split, together]
  exact left

/-- The exchange leaves exactly these bytes in the receive buffer. -/
structure Receives (line : LineAnswers) (bytes : List Byte) : Prop where
  openable : 0 ≤ line.fd
  lockable : line.lockFails ≤ 30
  counted : (receiveLoop line.fd line.received (fun _ => 0) 0).count = bytes.length
  stored : cells (receiveLoop line.fd line.received (fun _ => 0) 0).buf bytes.length = bytes

def crcVerdicts (output : List JsonField) : List Bool :=
  output.flatMap fun field => match field with
    | .object _ fields => fields.filterMap fun leaf => match leaf with
      | .boolean key value => if key = "crc_ok" then some value else none
      | .string _ _ => none
    | .leaf _ => []

theorem exchange_verdict (line : LineAnswers) (command failure bytes : List Byte)
    (received : Receives line bytes) (long : 2 ≤ bytes.length) :
      crcVerdicts (exchange line command true failure).output =
        [crcMatches (receiveLoop line.fd line.received (fun _ => 0) 0).buf bytes.length] := by
  have opened : ¬line.fd < 0 := by
    have port := received.openable
    omega
  have obtained : (flockLoop line.fd line.lockFails 0).1 = true :=
    (flock_loop_obtains_iff line.fd line.lockFails 0 (by omega)).mpr received.lockable
  have usable : (1 : Int) < bytes.length := by omega
  simp [exchange, opened, obtained, report, received.counted, usable, crcVerdicts]

theorem read_call_verdict {line : LineAnswers} {bytes : List Byte} {input : ReadInput}
    {result : ApiResult} (received : Receives line bytes) (long : 2 ≤ bytes.length)
    (returned : readRs485Data input line = some result)
    (asked : myHexStrToI input.regLen ≠ some 0) :
      crcVerdicts result.output =
        [crcMatches (receiveLoop line.fd line.received (fun _ => 0) 0).buf bytes.length] := by
  obtain ⟨command, regLen, length, rfl⟩ := read_exchange returned
  have positive : 0 < regLen.toNat := by
    by_contra none
    have zero : regLen = 0 := UInt8.toNat_inj.mp (by simpa using none)
    exact asked (by rw [length, zero])
  rw [decide_eq_true positive]
  exact exchange_verdict line command _ bytes received long

theorem write_call_verdict {line : LineAnswers} {bytes : List Byte} {input : WriteInput}
    {result : ApiResult} (received : Receives line bytes) (long : 2 ≤ bytes.length)
    (returned : writeRs485Data input line = some result) (used : result.events ≠ []) :
      crcVerdicts result.output =
        [crcMatches (receiveLoop line.fd line.received (fun _ => 0) 0).buf bytes.length] := by
  rcases write_exchange returned with unused | ⟨command, rfl⟩
  · exact absurd unused used
  · exact exchange_verdict line command _ bytes received long

theorem damaged_frame_rejected (frame errors : List Byte) (long : 3 ≤ frame.length)
    (short : frame.length ≤ 257) (intact : Sealed frame) (length : errors.length = frame.length)
    (nonzero : ∃ error ∈ errors, error ≠ 0) (pattern : Burst errors ∨ OddFlips errors)
    (line : LineAnswers) (received : Receives line (damaged frame errors)) :
      (∀ input result, readRs485Data input line = some result →
        myHexStrToI input.regLen ≠ some 0 → crcVerdicts result.output = [false]) ∧
      ∀ input result, writeRs485Data input line = some result →
        result.events ≠ [] → crcVerdicts result.output = [false] := by
  have size : (damaged frame errors).length = frame.length := by simp [damaged, length]
  have refused := damage_detected _ frame errors (by omega) short intact length nonzero pattern
    (by
      have stored := received.stored
      rwa [size] at stored)
  constructor
  · intro input result returned asked
    rw [read_call_verdict received (by omega) returned asked, size, refused]
  · intro input result returned used
    rw [write_call_verdict received (by omega) returned used, size, refused]

def reply : List Byte :=
  ascii "abcde" ++ crcBytes (glCrc16 (ofBytes (ascii "abcde")) 5 crcWay)

def noise : List Byte := [0, 1, 0, 0, 4, 0, 128]

def noisyLine : LineAnswers := ⟨3, 2, [8], [.data (damaged reply noise)]⟩

def readCall : ReadInput := ⟨ascii "1", ascii "03", ascii "00", ascii "04", ascii "2"⟩

def writeCall : WriteInput :=
  ⟨ascii "1", ascii "10", ascii "00", ascii "04", ascii "1", ascii "2", ascii "0a1F", fun _ => 0⟩

theorem damaged_frame_rejected_on_reply :
    (∃ result, readRs485Data readCall noisyLine = some result ∧
      crcVerdicts result.output = [false]) ∧
    ∃ result, writeRs485Data writeCall noisyLine = some result ∧
      crcVerdicts result.output = [false] := by
  have rejected := damaged_frame_rejected reply noise (by decide +kernel) (by decide +kernel)
    (by decide +kernel) (by decide +kernel) ⟨1, by decide, by decide⟩
    (Or.inr (by unfold OddFlips; decide +kernel)) noisyLine
    ⟨by decide, by decide, by decide +kernel, by decide +kernel⟩
  constructor
  · exact ⟨_, rfl, rejected.1 readCall _ rfl (by decide +kernel)⟩
  · exact ⟨_, rfl, rejected.2 writeCall _ rfl (by decide +kernel)⟩

end GlRs485.FrameCheck
