import GlRs485.FrameVerdicts

/-!
# A frame that comes back

Sender and receiver cut the length to 8 bits alike. So a frame that was sent is
taken for intact when it comes back unchanged, even where the CRC in it is not
the CRC of all its bytes.
-/

namespace GlRs485.EchoedFrames

open CBytes HexCodec ReflectedCrc Crc16 SerialLine RegisterApi FrameCheck FrameVerdicts

set_option autoImplicit false

inductive RegisterCall (line : LineAnswers) : ApiResult → Prop
  | read {input : ReadInput} {result : ApiResult}
      (returned : readRs485Data input line = some result) : RegisterCall line result
  | write {input : WriteInput} {result : ApiResult}
      (returned : writeRs485Data input line = some result) : RegisterCall line result

/-- The last two bytes are the CRC of the bytes that are checked. -/
def ChecksItself (frame : List Byte) : Prop :=
  frame.drop (frame.length - 2) = crcBytes (modbusCrc16 (checkedFront frame))

theorem appended_crc_checks (body : List Byte) :
    ChecksItself (body ++ crcBytes (modbusCrc16 (body.take (body.length % 256)))) := by
  have size : (body ++ crcBytes (modbusCrc16 (body.take (body.length % 256)))).length - 2 =
      body.length := by
    rw [List.length_append, crcBytes]
    exact Nat.add_sub_cancel _ 2
  rw [ChecksItself, checkedFront, size, List.drop_left,
    List.take_append_of_le_length (Nat.mod_le _ _)]

theorem carries_crc_of_checks (frame : List Byte) (short : frame.length ≤ 257)
    (checks : ChecksItself frame) : CarriesCrc frame := by
  rw [ChecksItself, checkedFront, Nat.mod_eq_of_lt (by omega)] at checks
  exact checks

/-- `gl_crc16` sees the bytes that a length cut to 8 bits leaves. -/
theorem cut_crc_eq (buf : Buf) (length : Nat) :
    glCrc16 buf (UInt8.ofNat length) crcWay =
      modbusCrc16 ((cells buf length).take (length % 256)) := by
  have cut : (UInt8.ofNat length).toNat = length % 256 := UInt8.toNat_ofNat'
  rw [gl_crc16_eq, cut, cells_take _ _ _ (Nat.mod_le _ _)]
  rfl

theorem write_frame_shape (header : List Byte) (data : Buf) (dataCount : Byte) :
    ∃ body, body.length = 7 + dataCount.toNat ∧ writeFrame header data dataCount =
      body ++ crcBytes (modbusCrc16 (body.take (body.length % 256))) := by
  let writeLen := 7 + dataCount.toNat
  let copied := (List.range writeLen).foldl (copyDataStep data) (ofBytes header)
  refine ⟨cells copied writeLen, cells_length _ _, ?_⟩
  have behind : ∀ low high : Byte,
      cells (put (put copied writeLen low) (writeLen + 1) high) writeLen =
        cells copied writeLen := by
    intro low high
    rw [cells_put_behind _ _ _ _ (by omega), cells_put_behind _ _ _ _ (by omega)]
  rw [cells_length, ← cut_crc_eq]
  simp only [writeFrame]
  rw [Nat.add_comm 2, cells_succ, cells_succ, put_same, put_other _ _ _ _ (by omega), put_same,
    behind]
  simp [crcBytes, copied, writeLen]

theorem read_frame_checks (readCmd : List Byte) (six : readCmd.length = 6) :
    ChecksItself (readCmd ++ crcBytes (glCrc16 (ofBytes readCmd) 6 crcWay)) := by
  have crc := cut_crc_eq (ofBytes readCmd) readCmd.length
  rw [cells_ofBytes, six, ← six] at crc
  have checks := appended_crc_checks readCmd
  rw [← crc, six] at checks
  exact checks

theorem exchange_hands_command {line : LineAnswers} {command failure frame : List Byte}
    {asked : Bool} (handed : frame ∈ handedFrames (exchange line command asked failure).events) :
      frame = command := by
  obtain ⟨call, member, shown⟩ := List.mem_filterMap.mp handed
  by_cases opened : line.fd < 0
  · simp [exchange, opened] at member
  · by_cases locked : line.lockFails ≤ 30
    · have one := WriteFrames.exchange_hands_over line command asked failure (by omega) locked
      rw [one] at handed
      exact List.mem_singleton.mp handed
    · have refused : (flockLoop line.fd line.lockFails 0).1 = false := by
        rw [← Bool.not_eq_true, flock_loop_obtains_iff _ _ _ (by omega)]
        omega
      simp only [exchange, if_neg opened, refused, Bool.false_eq_true, if_false, List.mem_cons,
        List.mem_append, List.not_mem_nil, or_false] at member
      rcases member with rfl | tried | rfl
      · simp at shown
      · obtain ⟨obtained, rfl⟩ := flock_loop_events _ _ _ call tried
        simp at shown
      · simp at shown

theorem handed_frame_checks {line : LineAnswers} {sent : ApiResult} {frame : List Byte}
    (call : RegisterCall line sent) (handed : frame ∈ handedFrames sent.events) :
      ChecksItself frame ∧ 8 ≤ frame.length := by
  cases call with
  | read returned =>
      simp only [readRs485Data, Option.bind_eq_bind, Option.bind_eq_some_iff] at returned
      obtain ⟨deviceId, _, funcCode, _, regAddrH, _, regAddrL, _, regLen, _, same⟩ := returned
      rw [← Option.some.inj same] at handed
      rw [exchange_hands_command handed]
      exact ⟨read_frame_checks _ rfl, by simp [crcBytes]⟩
  | write returned =>
      simp only [writeRs485Data, Option.bind_eq_bind, Option.bind_eq_some_iff] at returned
      obtain ⟨deviceId, _, funcCode, _, regAddrH, _, regAddrL, _, regLen, _, dataCount, _, same⟩ :=
        returned
      split at same
      · rw [← Option.some.inj same] at handed
        simp [handedFrames] at handed
      · split at same
        · rw [← Option.some.inj same] at handed
          simp [handedFrames] at handed
        · rw [← Option.some.inj same] at handed
          rw [exchange_hands_command handed]
          obtain ⟨body, length, shape⟩ := write_frame_shape
            (writeHeader deviceId funcCode regAddrH regAddrL regLen dataCount)
            _ dataCount
          rw [shape]
          refine ⟨appended_crc_checks body, ?_⟩
          simp [crcBytes]
          omega

/-- Whatever the parameters of a register call are, every frame it hands over is reported
as correct by every register call that receives it unchanged; and up to 257 bytes it
carries its Modbus CRC. -/
theorem own_frames_pass {line : LineAnswers} {sent : ApiResult} {frame : List Byte}
    (call : RegisterCall line sent) (handed : frame ∈ handedFrames sent.events) :
      (∀ echo answer, Receives echo frame → VerdictCall echo answer →
        crcVerdicts answer.output = [true]) ∧ (frame.length ≤ 257 → CarriesCrc frame) := by
  obtain ⟨checks, long⟩ := handed_frame_checks call handed
  constructor
  · intro echo answer received answered
    rw [call_verdict received (by omega) answered, List.singleton_inj]
    exact decide_eq_true checks
  · exact fun short => carries_crc_of_checks frame short checks

/-- 249 data bytes: the cut length leaves none of the 256 before the CRC. -/
def wideWrite : WriteInput :=
  { WriteFrames.shortWrite with
    dataCount := ascii "F9"
    data := (List.replicate 249 (ascii "01")).flatten }

def wideFrame : List Byte := [1, 16, 0, 2, 0, 1, 249] ++ List.replicate 249 1 ++ [255, 255]

theorem wide_write_request : WriteFrames.WriteRequest wideWrite 249 := by
  constructor <;> decide +kernel

theorem wide_write_frame :
    writeFrame (WriteFrames.requestHeader wideWrite) wideWrite.dataMemory (UInt8.ofNat 249) =
      wideFrame := by
  have pairs : HexText.pairValues wideWrite.data = List.replicate 249 1 := by decide +kernel
  have copied : WriteFrames.copiedBytes (List.replicate 249 1) = List.replicate 249 1 := by
    decide +kernel
  rw [WriteFrames.write_frame_eq wideWrite wide_write_request.data _ rfl _
    (by rw [pairs]; decide +kernel), pairs, copied]
  decide +kernel

/-- Its CRC is the one of nothing, and passes. -/
theorem own_frames_pass_uncovered :
    ∃ sent, writeRs485Data wideWrite ⟨3, 0, [], []⟩ = some sent ∧
      wideFrame ∈ handedFrames sent.events ∧
        ∃ echo answer, Receives echo wideFrame ∧ readRs485Data readCall echo = some answer ∧
          crcVerdicts answer.output = [true] := by
  obtain ⟨sent, returned, frames⟩ := WriteFrames.write_hands_over wideWrite 249
    ⟨3, 0, [], []⟩ wide_write_request (by decide +kernel) (by decide) (by decide)
  have handed : wideFrame ∈ handedFrames sent.events := by
    rw [frames, wide_write_frame]
    exact List.mem_singleton_self _
  obtain ⟨echo, received⟩ := frame_is_received wideFrame
  obtain ⟨answer, answered⟩ := read_call_returns echo
  have passes := (own_frames_pass (.write returned) handed).1 echo answer received
    (.read answered (by decide +kernel))
  exact ⟨sent, returned, handed, echo, answer, received, answered, passes⟩

end GlRs485.EchoedFrames
