import GlRs485.RegisterApi

/-!
# Write frames on the line

The copy loop of `write_rs485_data` reads its digit pairs through an 8-bit
offset, so the data bytes from the 129th on repeat the first ones, and the CRC
is taken over a length cut to 8 bits, which loses bytes from 249 data bytes on.
A frame comes out right exactly when neither loss shows in it.
-/

namespace GlRs485.WriteFrames

open CBytes HexText HexCodec HexDecoder Crc16 SerialLine RegisterApi ReflectedCrc

set_option autoImplicit false

theorem nibble_of_hex (c : Byte) (hex : IsHexDigit c) :
    nibble c = UInt8.ofNat (digitValue c) := by
  have table : ∀ value < 256, IsHexDigit (UInt8.ofNat value) →
      nibble (UInt8.ofNat value) = UInt8.ofNat (digitValue (UInt8.ofNat value)) := by
    decide +kernel
  have entry := table c.toNat c.toNat_lt
  rw [UInt8.ofNat_toNat] at entry
  exact entry hex

theorem wrapping_digit (value : Nat) (c : Byte) (hex : IsHexDigit c) :
    UInt8.ofNat value * 16 + nibble c = UInt8.ofNat (value * 16 + digitValue c) := by
  rw [nibble_of_hex c hex, UInt8.ofNat_add, UInt8.ofNat_mul]
  rfl

theorem hex_loop_from (s : List Byte) (hex : ∀ digit ∈ s, IsHexDigit digit)
    (short : s.length < 256) (remaining position fuel : Nat)
    (split : position + remaining = s.length) (fuelled : remaining < fuel) :
      myHexStrToILoop s fuel (UInt8.ofNat position) (UInt8.ofNat (hexValue (s.take position))) =
        some (UInt8.ofNat (hexValue s)) := by
  induction remaining generalizing position fuel with
  | zero =>
      obtain ⟨fuel, rfl⟩ := Nat.exists_eq_succ_of_ne_zero (by omega : fuel ≠ 0)
      have whole : s.take position = s := List.take_of_length_le (by omega)
      simp only [myHexStrToILoop, counter_toNat position (by omega), whole]
      rw [if_neg (by omega)]
  | succ remaining ih =>
      obtain ⟨fuel, rfl⟩ := Nat.exists_eq_succ_of_ne_zero (by omega : fuel ≠ 0)
      have inside : position < s.length := by omega
      have advance : UInt8.ofNat position + 1 = UInt8.ofNat (position + 1) := by
        simp [UInt8.ofNat_add]
      have digit : s.getD position 0 = s[position] := List.getD_eq_getElem _ _ inside
      have taken : s.take (position + 1) = s.take position ++ [s[position]] := by
        rw [List.take_append_getElem]
      simp only [myHexStrToILoop, counter_toNat position (by omega), advance, digit]
      rw [if_pos inside, wrapping_digit _ _ (hex _ (List.getElem_mem inside)), ← hexValue_snoc,
        ← taken]
      exact ih (position + 1) fuel (by omega) (by omega)

theorem hex_loop_endless (s : List Byte) (long : 256 ≤ s.length) (fuel : Nat) (i : UInt8)
    (tmp : Byte) : myHexStrToILoop s fuel i tmp = none := by
  induction fuel generalizing i tmp with
  | zero => rfl
  | succ fuel ih =>
      have below : i.toNat < s.length := by
        have byte := i.toNat_lt
        omega
      simp only [myHexStrToILoop, if_pos below, ih]

/-- The one-byte reader returns the value modulo 256, or never returns. -/
theorem my_hex_str_to_i_eq (s : List Byte) (hex : ∀ digit ∈ s, IsHexDigit digit) :
    myHexStrToI s = if s.length < 256 then some (UInt8.ofNat (hexValue s)) else none := by
  split
  · next short =>
      have whole := hex_loop_from s hex short s.length 0 counterFuel (by omega) short
      rw [List.take_zero] at whole
      exact whole
  · next long => exact hex_loop_endless s (by omega) counterFuel 0 0

theorem my_hex_str_to_i_l_pair (s : Buf) (offset : UInt8) (high : IsHexDigit (s offset.toNat))
    (low : IsHexDigit (s (1 + offset.toNat))) :
      myHexStrToIL s 2 offset = pairValue (s offset.toNat) (s (1 + offset.toNat)) := by
  have unrolled : myHexStrToIL s 2 offset =
      (UInt8.ofNat 0 * 16 + nibble (s (0 + offset.toNat))) * 16 +
        nibble (s (1 + offset.toNat)) := by
    simp [myHexStrToIL, List.range_succ]
  rw [unrolled, Nat.zero_add, wrapping_digit _ _ high, wrapping_digit _ _ low]
  simp [pairValue]

theorem copy_loop_cells (data base : Buf) (count j : Nat) :
    (List.range count).foldl (copyDataStep data) base j =
      if 7 ≤ j ∧ j < 7 + count then myHexStrToIL data 2 (UInt8.ofNat (2 * (j - 7)))
      else base j := by
  induction count with
  | zero => rw [if_neg (by omega)]; rfl
  | succ count ih =>
      rw [List.range_succ, List.foldl_append]
      simp only [List.foldl_cons, List.foldl_nil, copyDataStep]
      by_cases last : j = 7 + count
      · subst last
        rw [put_same, if_pos (by omega), Nat.add_sub_cancel_left]
      · rw [put_other _ _ _ _ last, ih]
        by_cases inside : 7 ≤ j ∧ j < 7 + count
        · rw [if_pos inside, if_pos (by omega)]
        · rw [if_neg inside, if_neg (by omega)]

/-- The bytes the copy loop puts into the frame: the offset wraps after 128 pairs. -/
def copiedBytes (bytes : List Byte) : List Byte :=
  (List.range bytes.length).map fun i => bytes.getD (i % 128) 0

theorem copied_bytes_length (bytes : List Byte) :
    (copiedBytes bytes).length = bytes.length := by
  simp [copiedBytes]

theorem copied_byte (input : WriteInput) (hex : ∀ digit ∈ input.data, IsHexDigit digit)
    (i : Nat) (bound : i < input.data.length / 2) :
      myHexStrToIL input.dataMemory 2 (UInt8.ofNat (2 * i)) =
        (pairValues input.data).getD (i % 128) 0 := by
  have offset : (UInt8.ofNat (2 * i)).toNat = 2 * (i % 128) := by
    simp only [UInt8.toNat_ofNat']
    omega
  have high : 2 * (i % 128) < input.data.length := by omega
  have low : 2 * (i % 128) + 1 < input.data.length := by omega
  have counted := pairValues_length input.data
  have inside : ∀ index (bound : index < input.data.length),
      input.dataMemory index = input.data[index] := by
    intro index bound
    rw [WriteInput.dataMemory, if_pos bound, List.getD_eq_getElem _ _ bound]
  have highCell := inside _ high
  have lowCell : input.dataMemory (1 + 2 * (i % 128)) = input.data[2 * (i % 128) + 1] := by
    rw [Nat.add_comm]
    exact inside _ low
  rw [my_hex_str_to_i_l_pair, offset, highCell, lowCell,
    List.getD_eq_getElem _ _ (by omega), pairValues_getElem _ _ (by omega) high low]
  · rw [offset, highCell]
    exact hex _ (List.getElem_mem high)
  · rw [offset, lowCell]
    exact hex _ (List.getElem_mem (by omega))

/-- The frame as handed over, in closed form. -/
theorem write_frame_eq (input : WriteInput) (hex : ∀ digit ∈ input.data, IsHexDigit digit)
    (header : List Byte) (seven : header.length = 7) (dataCount : Byte)
    (counts : dataCount.toNat = (pairValues input.data).length) :
      writeFrame header input.dataMemory dataCount =
        header ++ copiedBytes (pairValues input.data) ++
          crcBytes (modbusCrc16 ((header ++ copiedBytes (pairValues input.data)).take
            ((7 + dataCount.toNat) % 256))) := by
  have counted := pairValues_length input.data
  have copiedCells : cells ((List.range (7 + dataCount.toNat)).foldl
      (copyDataStep input.dataMemory) (ofBytes header)) (7 + dataCount.toNat) =
        header ++ copiedBytes (pairValues input.data) := by
    have length : 7 + dataCount.toNat =
        (header ++ copiedBytes (pairValues input.data)).length := by
      rw [List.length_append, copied_bytes_length, seven, counts]
    apply cells_eq_of_bytes _ _ _ length.symm
    intro j bound
    rw [List.length_append, copied_bytes_length, seven] at bound
    rw [copy_loop_cells]
    by_cases inHeader : j < 7
    · rw [if_neg (by omega), ofBytes_getElem _ _ (by omega), List.getElem_append_left (by omega)]
    · rw [if_pos (by omega), copied_byte input hex (j - 7) (by omega),
        List.getElem_append_right (by omega)]
      simp [copiedBytes, seven]
  have seen : cells ((List.range (7 + dataCount.toNat)).foldl
      (copyDataStep input.dataMemory) (ofBytes header)) (UInt8.ofNat (7 + dataCount.toNat)).toNat =
        (header ++ copiedBytes (pairValues input.data)).take ((7 + dataCount.toNat) % 256) := by
    have cut : (UInt8.ofNat (7 + dataCount.toNat)).toNat = (7 + dataCount.toNat) % 256 := by
      simp
    rw [cut, ← copiedCells, cells_take _ _ _ (Nat.mod_le _ _)]
  simp only [writeFrame, gl_crc16_eq, seen, crcWay]
  rw [Nat.add_comm 2, cells_succ, cells_succ, put_same, put_other _ _ _ _ (by omega), put_same,
    ← copiedCells]
  have framed : ∀ (buf : Buf) (low high : Byte), cells (put (put buf (7 + dataCount.toNat) low)
      (7 + dataCount.toNat + 1) high) (7 + dataCount.toNat) =
        cells buf (7 + dataCount.toNat) := by
    intro buf low high
    rw [cells_eq_iff]
    intro index bound
    rw [put_other _ _ _ _ (by omega), put_other _ _ _ _ (by omega)]
  rw [framed]
  simp [modbusCrc16, crcBytes, copiedCells]

def HexField (s : List Byte) : Prop :=
  (s.length = 1 ∨ s.length = 2) ∧ ∀ digit ∈ s, IsHexDigit digit

instance (s : List Byte) : Decidable (HexField s) := inferInstanceAs (Decidable (_ ∧ _))

/-- A request for `count` data bytes: one or two digits in the five address
fields, the count as a hex numeral, and two digits for each data byte. -/
structure WriteRequest (input : WriteInput) (count : Nat) : Prop where
  deviceId : HexField input.deviceId
  funcCode : HexField input.funcCode
  regAddrH : HexField input.regAddrH
  regAddrL : HexField input.regAddrL
  regLen : HexField input.regLen
  dataCount : ∀ digit ∈ input.dataCount, IsHexDigit digit
  countValue : hexValue input.dataCount = count
  countByte : count ≤ 255
  data : ∀ digit ∈ input.data, IsHexDigit digit
  dataLength : input.data.length = 2 * count

def requestHeader (input : WriteInput) : List Byte :=
  writeHeader (UInt8.ofNat (hexValue input.deviceId)) (UInt8.ofNat (hexValue input.funcCode))
    (UInt8.ofNat (hexValue input.regAddrH)) (UInt8.ofNat (hexValue input.regAddrL))
    (UInt8.ofNat (hexValue input.regLen)) (UInt8.ofNat (hexValue input.dataCount))

def requestBody (input : WriteInput) : List Byte :=
  requestHeader input ++ pairValues input.data

def requestFrame (input : WriteInput) : List Byte :=
  requestBody input ++ crcBytes (modbusCrc16 (requestBody input))

/-- The two losses of the source do not show: every data byte from the 129th on
equals the byte 128 places before it, and when the frame before the CRC has 256
bytes or more, its first `count - 249` bytes have the CRC of the whole. -/
def LossesInvisible (input : WriteInput) (count : Nat) : Prop :=
  (∀ i, 128 ≤ i → i < count → (pairValues input.data)[i]? = (pairValues input.data)[i - 128]?) ∧
    (249 ≤ count →
      modbusCrc16 ((requestBody input).take (count - 249)) = modbusCrc16 (requestBody input))

theorem crc_bytes_injective (left right : BitVec 16) (same : crcBytes left = crcBytes right) :
    left = right := by
  have low := congrArg (fun bytes : List Byte => (bytes.getD 0 0).toNat) same
  have high := congrArg (fun bytes : List Byte => (bytes.getD 1 0).toNat) same
  simp only [crcBytes, List.getD_cons_zero, List.getD_cons_succ, UInt8.toNat_ofNat'] at low high
  apply BitVec.eq_of_toNat_eq
  have leftBound := left.isLt
  have rightBound := right.isLt
  omega

theorem copied_bytes_eq_iff (bytes : List Byte) (short : bytes.length ≤ 255) :
    copiedBytes bytes = bytes ↔
      ∀ i, 128 ≤ i → i < bytes.length → bytes[i]? = bytes[i - 128]? := by
  have cell : ∀ i (bound : i < (copiedBytes bytes).length),
      (copiedBytes bytes)[i] = bytes.getD (i % 128) 0 := by
    intro i bound
    simp [copiedBytes]
  have length := copied_bytes_length bytes
  constructor
  · intro same i far bound
    have copied := cell i (by omega)
    rw [List.getElem_of_eq same, show i % 128 = i - 128 by omega,
      List.getD_eq_getElem _ _ (by omega)] at copied
    rw [List.getElem?_eq_getElem bound, List.getElem?_eq_getElem (by omega), copied]
  · intro repeats
    apply List.ext_getElem length
    intro i copiedBound bound
    rw [cell i copiedBound]
    by_cases near : i < 128
    · rw [Nat.mod_eq_of_lt near, List.getD_eq_getElem _ _ bound]
    · have repeated := repeats i (by omega) bound
      rw [List.getElem?_eq_getElem bound, List.getElem?_eq_getElem (by omega)] at repeated
      rw [show i % 128 = i - 128 by omega, List.getD_eq_getElem _ _ (by omega)]
      exact (Option.some.inj repeated).symm

theorem request_header_length (input : WriteInput) : (requestHeader input).length = 7 := rfl

theorem write_frame_right_iff (input : WriteInput) (count : Nat)
    (request : WriteRequest input count) :
      writeFrame (requestHeader input) input.dataMemory (UInt8.ofNat count) =
        requestFrame input ↔ LossesInvisible input count := by
  have pairs : (pairValues input.data).length = count := by
    rw [pairValues_length, request.dataLength]
    omega
  have byte : (UInt8.ofNat count).toNat = count := counter_toNat count (by
    have bound := request.countByte
    omega)
  have short := request.countByte
  rw [write_frame_eq input request.data _ (request_header_length input) _ (by rw [byte, pairs]),
    byte, requestFrame, requestBody]
  have split : ∀ first second : BitVec 16,
      requestHeader input ++ copiedBytes (pairValues input.data) ++ crcBytes first =
        requestHeader input ++ pairValues input.data ++ crcBytes second ↔
      copiedBytes (pairValues input.data) = pairValues input.data ∧ first = second := by
    intro first second
    constructor
    · intro same
      obtain ⟨bodies, crcs⟩ := List.append_inj same (by simp [copied_bytes_length])
      exact ⟨List.append_cancel_left bodies, crc_bytes_injective _ _ crcs⟩
    · intro parts
      rw [parts.1, parts.2]
  rw [split, copied_bytes_eq_iff _ (by omega), pairs]
  have bodyLength : (requestHeader input ++ pairValues input.data).length = 7 + count := by
    rw [List.length_append, request_header_length, pairs]
  constructor
  · intro parts
    refine ⟨parts.1, ?_⟩
    intro long
    have same := (copied_bytes_eq_iff (pairValues input.data) (by omega)).mpr (by
      rw [pairs]
      exact parts.1)
    have crcs := parts.2
    rw [same, show (7 + count) % 256 = count - 249 by omega] at crcs
    exact crcs
  · intro parts
    refine ⟨parts.1, ?_⟩
    have same := (copied_bytes_eq_iff (pairValues input.data) (by omega)).mpr (by
      rw [pairs]
      exact parts.1)
    rw [same]
    by_cases long : 249 ≤ count
    · rw [show (7 + count) % 256 = count - 249 by omega]
      exact parts.2 long
    · rw [show (7 + count) % 256 = 7 + count by omega, ← bodyLength, List.take_length]

theorem exchange_hands_over (line : LineAnswers) (command : List Byte) (asked : Bool)
    (failure : List Byte) (openable : 0 ≤ line.fd) (lockable : line.lockFails ≤ 30) :
      handedFrames (exchange line command asked failure).events = [command] := by
  have obtained : (flockLoop line.fd line.lockFails 0).1 = true :=
    (flock_loop_obtains_iff line.fd line.lockFails 0 (by omega)).mpr (by omega)
  have locking : handedFrames (flockLoop line.fd line.lockFails 0).2 = [] :=
    locks_filterMap _ (fun _ _ => rfl) line.fd line.lockFails 0
  have reading : ∀ (results : List RxResult) (buf : Buf) (count : Nat),
      handedFrames (receiveLoop line.fd results buf count).events = [] := by
    intro results buf count
    exact reads_filterMap _ (fun _ _ => rfl) line.fd results buf count
  have opened : ¬line.fd < 0 := by omega
  simp only [exchange, if_neg opened, obtained, if_true, myuartTxNonBlocking]
  simp only [handedFrames] at locking reading ⊢
  simp [locking, reading]

theorem write_hands_over (input : WriteInput) (count : Nat) (line : LineAnswers)
    (request : WriteRequest input count) (short : input.dataCount.length ≤ 255)
    (openable : 0 ≤ line.fd) (lockable : line.lockFails ≤ 30) :
      ∃ result, writeRs485Data input line = some result ∧ handedFrames result.events =
        [writeFrame (requestHeader input) input.dataMemory (UInt8.ofNat count)] := by
  have field : ∀ s : List Byte, HexField s → myHexStrToI s = some (UInt8.ofNat (hexValue s)) := by
    intro s digits
    rw [my_hex_str_to_i_eq s digits.2, if_pos]
    rcases digits.1 with one | two <;> omega
  have counted : myHexStrToI input.dataCount = some (UInt8.ofNat count) := by
    rw [my_hex_str_to_i_eq _ request.dataCount, if_pos (by omega), request.countValue]
  have byte : (UInt8.ofNat count).toNat = count := counter_toNat count (by
    have bound := request.countByte
    omega)
  have bound := request.countByte
  have length := request.dataLength
  have fits : ¬512 < input.data.length := by omega
  have formatted : ¬(input.data.length % 2 = 1 ∨ count * 2 ≠ input.data.length) := by omega
  refine ⟨_, ?_, exchange_hands_over line _ true (ascii "write fail") openable lockable⟩
  simp only [writeRs485Data, field _ request.deviceId, field _ request.funcCode,
    field _ request.regAddrH, field _ request.regAddrL, field _ request.regLen, counted, byte,
    Option.bind_eq_bind, Option.bind_some, if_neg fits, if_neg formatted, requestHeader,
    request.countValue]

theorem write_rs485_data_frame_iff (input : WriteInput) (count : Nat) (line : LineAnswers)
    (request : WriteRequest input count) (openable : 0 ≤ line.fd)
    (lockable : line.lockFails ≤ 30) :
      (∃ result, writeRs485Data input line = some result ∧
        handedFrames result.events = [requestFrame input]) ↔
      input.dataCount.length ≤ 255 ∧ LossesInvisible input count := by
  rw [← write_frame_right_iff input count request]
  by_cases short : input.dataCount.length ≤ 255
  · obtain ⟨result, returned, handed⟩ :=
      write_hands_over input count line request short openable lockable
    constructor
    · intro correct
      obtain ⟨other, same, right⟩ := correct
      obtain rfl : result = other := Option.some.inj (returned.symm.trans same)
      rw [handed] at right
      exact ⟨short, List.head_eq_of_cons_eq right⟩
    · intro correct
      exact ⟨result, returned, by rw [handed, correct.2]⟩
  · have never : writeRs485Data input line = none := by
      have counted : myHexStrToI input.dataCount = none := by
        rw [my_hex_str_to_i_eq _ request.dataCount, if_neg (by omega)]
      simp [writeRs485Data, counted]
    constructor
    · intro correct
      obtain ⟨result, returned, _⟩ := correct
      rw [never] at returned
      exact absurd returned (by simp)
    · intro correct
      exact absurd correct.1 short

def shortWrite : WriteInput where
  deviceId := ascii "1"
  funcCode := ascii "10"
  regAddrH := ascii "00"
  regAddrL := ascii "2"
  regLen := ascii "01"
  dataCount := ascii "2"
  data := ascii "0a1F"
  dataBeyond := fun _ => 0

theorem short_write_request : WriteRequest shortWrite 2 := by
  constructor <;> decide +kernel

theorem write_rs485_data_frame_iff_on_short_write :
    (∃ result, writeRs485Data shortWrite ⟨3, 0, [], []⟩ = some result ∧
      handedFrames result.events = [requestFrame shortWrite]) ↔
    shortWrite.dataCount.length ≤ 255 ∧ LossesInvisible shortWrite 2 :=
  write_rs485_data_frame_iff shortWrite 2 ⟨3, 0, [], []⟩ short_write_request (by decide) (by decide)

def longWrite : WriteInput :=
  { shortWrite with
    dataCount := ascii "81"
    data := List.replicate 256 48 ++ ascii "01" }

theorem long_write_request : WriteRequest longWrite 129 := by
  constructor <;> decide +kernel

/-- The 129th byte is sent as a copy of the first. -/
theorem long_write_frame_wrong :
    WriteRequest longWrite 129 ∧
      ¬∃ result, writeRs485Data longWrite ⟨3, 0, [], []⟩ = some result ∧
        handedFrames result.events = [requestFrame longWrite] := by
  refine ⟨long_write_request, ?_⟩
  intro correct
  obtain ⟨result, returned, right⟩ := correct
  obtain ⟨other, same, handed⟩ := write_hands_over longWrite 129 ⟨3, 0, [], []⟩
    long_write_request (by decide) (by decide) (by decide)
  obtain rfl : result = other := Option.some.inj (returned.symm.trans same)
  rw [handed] at right
  have invisible := (write_frame_right_iff longWrite 129 long_write_request).mp
    (List.head_eq_of_cons_eq right)
  have repeated := invisible.1 128 (by omega) (by omega)
  have differs : (pairValues longWrite.data)[128]? ≠ (pairValues longWrite.data)[0]? := by
    decide +kernel
  exact differs repeated

end GlRs485.WriteFrames
