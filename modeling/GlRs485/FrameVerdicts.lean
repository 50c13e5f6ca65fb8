import GlRs485.FrameCheck
import GlRs485.LineTransfers
import GlRs485.WriteFrames

/-!
# What `crc_ok` says about a long answer

The number of checked bytes goes through an `unsigned char`, so for an answer of
more than 257 bytes the CRC is taken of a front part and compared with the end.
-/

namespace GlRs485.FrameVerdicts

open CBytes HexCodec ReflectedCrc Crc16 SerialLine RegisterApi FrameCheck LineTransfers

set_option autoImplicit false

/-- The last two bytes, low byte first, are the CRC of all bytes before them. -/
def CarriesCrc (frame : List Byte) : Prop :=
  frame.drop (frame.length - 2) = crcBytes (modbusCrc16 (frame.take (frame.length - 2)))

instance (frame : List Byte) : Decidable (CarriesCrc frame) := inferInstanceAs (Decidable (_ = _))

def checkedFront (frame : List Byte) : List Byte := frame.take ((frame.length - 2) % 256)

/-- A register call that asked for something and wrote its frame. -/
inductive VerdictCall (line : LineAnswers) : ApiResult → Prop
  | read {input : ReadInput} {result : ApiResult}
      (returned : readRs485Data input line = some result)
      (asked : myHexStrToI input.regLen ≠ some 0) : VerdictCall line result
  | write {input : WriteInput} {result : ApiResult}
      (returned : writeRs485Data input line = some result) (used : result.events ≠ []) :
      VerdictCall line result

/-- `crc_ok` is true exactly for a frame that carries its CRC. -/
def JudgedRight (result : ApiResult) (frame : List Byte) : Prop :=
  crcVerdicts result.output = [decide (CarriesCrc frame)]

def AlwaysJudgedRight (frame : List Byte) : Prop :=
  ∀ line result, Receives line frame → VerdictCall line result → JudgedRight result frame

/-- The CRC of the checked bytes is the CRC of the frame, or the frame ends with
neither of the two. -/
def VerdictsAgree (frame : List Byte) : Prop :=
  modbusCrc16 (checkedFront frame) = modbusCrc16 (frame.take (frame.length - 2)) ∨
    ¬CarriesCrc frame ∧
      frame.drop (frame.length - 2) ≠ crcBytes (modbusCrc16 (checkedFront frame))

theorem call_verdict {line : LineAnswers} {result : ApiResult} {frame : List Byte}
    (received : Receives line frame) (long : 2 ≤ frame.length) (call : VerdictCall line result) :
      crcVerdicts result.output = [decide (frame.drop (frame.length - 2) =
        crcBytes (modbusCrc16 (checkedFront frame)))] := by
  have matched := crc_matches_front_iff _ frame long received.stored
  have verdict : crcVerdicts result.output =
      [crcMatches (receiveLoop line.fd line.received (fun _ => 0) 0).buf frame.length] := by
    cases call with
    | read returned asked => exact read_call_verdict received long returned asked
    | write returned used => exact write_call_verdict received long returned used
  rw [verdict, List.singleton_inj, Bool.eq_iff_iff, matched, decide_eq_true_iff, checkedFront]

theorem judged_right_iff {line : LineAnswers} {result : ApiResult} {frame : List Byte}
    (received : Receives line frame) (long : 2 ≤ frame.length) (call : VerdictCall line result) :
      JudgedRight result frame ↔ VerdictsAgree frame := by
  rw [JudgedRight, call_verdict received long call, List.singleton_inj, decide_eq_decide,
    VerdictsAgree, CarriesCrc]
  constructor
  · intro same
    by_cases carries : frame.drop (frame.length - 2) =
        crcBytes (modbusCrc16 (frame.take (frame.length - 2)))
    · have other := same.mpr carries
      exact Or.inl (WriteFrames.crc_bytes_injective _ _ (other.symm.trans carries))
    · exact Or.inr ⟨carries, fun other => carries (same.mp other)⟩
  · rintro (same | ⟨whole, front⟩)
    · rw [same]
    · exact iff_of_false front whole

theorem short_verdicts_agree (frame : List Byte) (short : frame.length ≤ 257) :
    VerdictsAgree frame := by
  apply Or.inl
  rw [checkedFront, Nat.mod_eq_of_lt (by omega)]

theorem crc_last_byte (front : List Byte) (left right : Byte)
    (same : modbusCrc16 (front ++ [left]) = modbusCrc16 (front ++ [right])) : left = right := by
  rw [modbusCrc16, modbusCrc16, checksum, checksum, List.foldl_append, List.foldl_append] at same
  exact absorb_injective _ _ crc_way_top (by omega) same

/-- A body whose last byte lies behind the front, sealed with the CRC of the front. -/
theorem sealed_by_front (body : List Byte)
    (differs : modbusCrc16 (body.take (body.length % 256)) ≠ modbusCrc16 body) :
      ¬VerdictsAgree (body ++ crcBytes (modbusCrc16 (body.take (body.length % 256)))) := by
  have size : (body ++ crcBytes (modbusCrc16 (body.take (body.length % 256)))).length - 2 =
      body.length := by
    rw [List.length_append, crcBytes]
    exact Nat.add_sub_cancel _ 2
  have inside : body.length % 256 ≤ body.length := Nat.mod_le _ _
  rw [VerdictsAgree, checkedFront, size, List.take_append_of_le_length inside, List.take_left,
    List.drop_left]
  rintro (same | ⟨_, other⟩)
  · exact differs same
  · exact other rfl

theorem long_frame_misjudged (length : Nat) (long : 258 ≤ length) :
    ∃ frame : List Byte, frame.length = length ∧ ¬VerdictsAgree frame := by
  let zeros : List Byte := List.replicate (length - 3) 0
  let front := zeros.take ((length - 2) % 256)
  have size : zeros.length = length - 3 := List.length_replicate
  have byte : ∃ last, modbusCrc16 front ≠ modbusCrc16 (zeros ++ [last]) := by
    by_contra all
    push Not at all
    exact absurd (crc_last_byte zeros 0 1 ((all 0).symm.trans (all 1))) (by decide)
  obtain ⟨last, differs⟩ := byte
  have total : (zeros ++ [last]).length = length - 2 := by
    rw [List.length_append, size, List.length_singleton]
    omega
  have cut : (zeros ++ [last]).take ((zeros ++ [last]).length % 256) = front := by
    rw [total, List.take_append_of_le_length (by omega)]
  refine ⟨_, ?_, sealed_by_front (zeros ++ [last]) (by rw [cut]; exact differs)⟩
  rw [List.length_append, total, crcBytes, List.length_cons, List.length_singleton]
  omega

theorem frame_is_received (frame : List Byte) : ∃ line, Receives line frame := by
  obtain ⟨chunks, splits, eights⟩ := splits_into_eights frame
  obtain ⟨counted, stored⟩ := (whole_answer_iff 3 (fun _ => 0) splits).mpr eights
  exact ⟨⟨3, 0, [], readsOf chunks⟩, ⟨Int.natCast_nonneg 3, Nat.zero_le 30, counted, stored⟩⟩

theorem read_call_returns (line : LineAnswers) :
    ∃ result, readRs485Data readCall line = some result := ⟨_, rfl⟩

/-- A verdict is right exactly when the CRC of the checked bytes leads to the same
one; all answers of a length are judged right exactly up to 257 bytes. -/
theorem crc_ok_right_iff {line : LineAnswers} {result : ApiResult} {frame : List Byte}
    (long : 2 ≤ frame.length) (received : Receives line frame) (call : VerdictCall line result) :
      (JudgedRight result frame ↔ VerdictsAgree frame) ∧
        ((∀ other : List Byte, other.length = frame.length → AlwaysJudgedRight other) ↔
          frame.length ≤ 257) := by
  refine ⟨judged_right_iff received long call, ?_⟩
  constructor
  · intro always
    by_contra beyond
    obtain ⟨other, length, misjudged⟩ := long_frame_misjudged frame.length (by omega)
    obtain ⟨line, delivered⟩ := frame_is_received other
    obtain ⟨result, returned⟩ := read_call_returns line
    have call : VerdictCall line result := .read returned (by decide +kernel)
    have right := always other length line result delivered call
    exact misjudged ((judged_right_iff delivered (by omega) call).mp right)
  · intro short other length line result delivered call
    exact (judged_right_iff delivered (by omega) call).mpr (short_verdicts_agree other (by omega))

theorem crc_ok_right_iff_on_reply :
    ∃ result, readRs485Data readCall ⟨3, 0, [8], [.data reply]⟩ = some result ∧
      JudgedRight result reply := by
  have received : Receives ⟨3, 0, [8], [.data reply]⟩ reply :=
    ⟨by decide, by decide, by decide +kernel, by decide +kernel⟩
  obtain ⟨result, returned⟩ := read_call_returns ⟨3, 0, [8], [.data reply]⟩
  have call : VerdictCall ⟨3, 0, [8], [.data reply]⟩ result := .read returned (by decide +kernel)
  exact ⟨result, returned, (crc_ok_right_iff (by decide +kernel) received call).1.mpr
    (short_verdicts_agree reply (by decide +kernel))⟩

/-- Two bytes that empty the register and zeros that leave it empty, sealed with
the CRC of nothing. -/
def zerosUnchecked : List Byte := [255, 255] ++ List.replicate 254 0 ++ [255, 255]

def zerosChunks : List (List Byte) :=
  [255, 255, 0, 0, 0, 0, 0, 0] :: List.replicate 31 (List.replicate 8 0) ++ [[255, 255]]

def zerosLine : LineAnswers := ⟨3, 0, [8], readsOf zerosChunks⟩

theorem zeros_keep_zero (count : Nat) :
    (List.replicate count (0 : Byte)).foldl (absorb 0xA001#16) 0#16 = 0#16 := by
  induction count with
  | zero => rfl
  | succ count ih =>
      have first : absorb 0xA001#16 0#16 0 = 0#16 := by decide
      rw [List.replicate_succ, List.foldl_cons, first, ih]

theorem unchecked_zeros_are_ok :
    ¬CarriesCrc zerosUnchecked ∧ Receives zerosLine zerosUnchecked ∧
      ∃ result, readRs485Data readCall zerosLine = some result ∧
        crcVerdicts result.output = [true] := by
  have splits : Splits zerosChunks zerosUnchecked := ⟨by decide +kernel, by decide +kernel⟩
  have whole := (whole_answer_iff 3 (fun _ => 0) splits).mpr (by decide +kernel)
  have received : Receives zerosLine zerosUnchecked :=
    ⟨by decide, by decide, whole.1, whole.2⟩
  obtain ⟨result, returned⟩ := read_call_returns zerosLine
  have call : VerdictCall zerosLine result := .read returned (by decide +kernel)
  have front : zerosUnchecked.take (zerosUnchecked.length - 2) =
      [255, 255] ++ List.replicate 254 0 := by decide +kernel
  have empties : [255, 255].foldl (absorb 0xA001#16) 0xFFFF#16 = 0#16 := by decide +kernel
  have crc : modbusCrc16 (zerosUnchecked.take (zerosUnchecked.length - 2)) = 0#16 := by
    rw [front, modbusCrc16, checksum, List.foldl_append, empties, zeros_keep_zero]
  refine ⟨?_, received, result, returned, ?_⟩
  · rw [CarriesCrc, crc]
    decide +kernel
  · rw [call_verdict received (by decide +kernel) call]
    decide +kernel

end GlRs485.FrameVerdicts
