import GlRs485.LineTransfers
import GlRs485.SpacedHex

/-!
# One exchange after the other

What a bridge between a network and one serial line is for, without buffers,
sockets and clocks. A request denotes bytes for the line, or nothing when it is
refused. The line is taken for one exchange, in which the bytes are written and an
answer is collected, and the reply shows that answer.
-/

namespace GlRs485.SequentialServer

open CBytes HexText SpacedHex SerialLine

set_option autoImplicit false

def textOf (request : List Byte) : List Byte := (unblanked request).takeWhile fun c => c ≠ 0

/-- The bytes a request asks to be written. With `text` it is taken for hex digits; other
characters in it leave the bytes open, and an odd number of them is refused. -/
inductive Denotes (text : Bool) (request : List Byte) : Option (List Byte) → Prop
  | untyped (plain : text = false) : Denotes text request (some request)
  | digits (typed : text = true) (even : (textOf request).length % 2 = 0)
      (hex : ∀ digit ∈ textOf request, IsHexDigit digit) :
      Denotes text request (some (pairValues (textOf request)))
  | garbled {payload : List Byte} (typed : text = true) (even : (textOf request).length % 2 = 0)
      (other : ∃ digit ∈ textOf request, ¬IsHexDigit digit)
      (size : payload.length = (textOf request).length / 2) : Denotes text request (some payload)
  | refused (typed : text = true) (odd : (textOf request).length % 2 = 1) :
      Denotes text request none

/-- An answer is collected in pieces of eight bytes and ends with any other piece. -/
inductive Collected : List RxResult → Prop
  | last {result : RxResult} (ends : result.goesOn = false) : Collected [result]
  | more {bytes : List Byte} {later : List RxResult} (eight : bytes.length = 8)
      (rest : Collected later) : Collected (.data bytes :: later)

def resultBytes : RxResult → List Byte
  | .failed _ => []
  | .data bytes => bytes

def answerOf (results : List RxResult) : List Byte := results.flatMap resultBytes

/-- A read that fails costs the answer its last byte. -/
def heardOf (results : List RxResult) : List Byte :=
  if results.any RxResult.fails then (answerOf results).dropLast else answerOf results

/-- What is left of bytes that are copied as a string. -/
def cutAtNul (bytes : List Byte) : List Byte :=
  let kept := bytes.takeWhile fun c => c ≠ 0
  kept ++ List.replicate (bytes.length - kept.length) 0

/-- Up to thirty refusals, then the lock. -/
def lockCalls (port : Int) (refusals : Nat) : List LineEvent :=
  List.replicate refusals (.locked port false) ++ [.locked port true]

/-- The last of 31 refusals makes the caller close its port. -/
def lockoutCalls (port : Int) : List LineEvent :=
  List.replicate 31 (.locked port false) ++ [.closed port]

/-- The lock is taken, the queues are flushed and the bytes go out, as far as they do. -/
inductive Writes (port : Int) (payload : List Byte) : List LineEvent → Prop
  | intro {refusals : Nat} {accepted : List Byte} (within : refusals ≤ 30)
      (front : accepted <+: payload) :
      Writes port payload (lockCalls port refusals ++ [.flushed port, .sent port payload accepted])

def replyOf (text : Bool) (heard : List Byte) : List Byte :=
  if heard = [] then ascii "no data" else if text then hexTextOf heard else cutAtNul heard

/-! ## What the line calls of the source amount to -/

theorem flock_loop_locks (fd : Int) (fails timeOut : Nat) (within : fails + timeOut ≤ 30) :
    (flockLoop fd fails timeOut).2 = lockCalls fd fails := by
  induction fails generalizing timeOut with
  | zero => rfl
  | succ fails ih =>
      have again : ¬30 < timeOut + 1 := by omega
      simp only [flockLoop, if_neg again, ih (timeOut + 1) (by omega)]
      rfl

theorem flock_loop_refuses (fd : Int) (fails timeOut : Nat) (busy : 30 < fails + timeOut)
    (within : timeOut ≤ 30) :
      (flockLoop fd fails timeOut).2 = List.replicate (31 - timeOut) (.locked fd false) := by
  induction fails generalizing timeOut with
  | zero => omega
  | succ fails ih =>
      by_cases last : 30 < timeOut + 1
      · rw [flockLoop, if_pos last, show 31 - timeOut = 1 by omega]
        rfl
      · simp only [flockLoop, if_neg last, ih (timeOut + 1) (by omega) (by omega)]
        rw [show 31 - timeOut = (31 - (timeOut + 1)) + 1 by omega, List.replicate_succ]

/-- A write takes the lock and hands over its bytes, or is refused it to the end. -/
theorem tty_write_written (fd : Int) (lockFails : Nat) (results : List Int) (data : List Byte)
    (port : 0 ≤ fd) :
      let writing := ttyWrite fd lockFails results data
      (0 ≤ writing.1 ∧ Writes fd data writing.2) ∨
        (writing.1 < 0 ∧ writing.2 = lockoutCalls fd) := by
  rcases tty_write_cases fd lockFails results data with
    ⟨negative, _⟩ | ⟨_, busy, outcome⟩ | ⟨_, within, outcome⟩
  · omega
  · rw [outcome, flock_loop_refuses fd lockFails 0 (by omega) (by omega)]
    exact Or.inr ⟨by simp, rfl⟩
  · rw [outcome, flock_loop_locks fd lockFails 0 (by omega)]
    refine Or.inl ⟨by simp, .intro within ?_⟩
    rw [LineTransfers.accepted_bytes_eq]
    exact List.take_prefix _ _

theorem receive_loop_collects (fd : Int) (answers : List RxResult) (buf : Buf) (count : Nat) :
    ∃ results, (receiveLoop fd answers buf count).events = results.map (.received fd) ∧
      Collected results ∧
        (receiveLoop fd answers buf count).count =
          (count + (answerOf results).length : Int) -
            (if results.any RxResult.fails then 1 else 0) ∧
        cells (receiveLoop fd answers buf count).buf (count + (answerOf results).length) =
          cells buf count ++ answerOf results := by
  induction answers generalizing buf count with
  | nil => exact ⟨[.data []], rfl, .last rfl,
      by simp [receiveLoop, answerOf, resultBytes, RxResult.fails],
      by simp [receiveLoop, answerOf, resultBytes]⟩
  | cons first rest ih =>
      cases first with
      | failed stored => exact ⟨[.failed stored], rfl, .last rfl,
          by simp [receiveLoop, answerOf, resultBytes, RxResult.fails],
          by
            have front : cells (store buf count stored) count = cells buf count :=
              (cells_eq_iff _ _ _).mpr fun index before => if_neg (by omega)
            simpa [receiveLoop, answerOf, resultBytes] using front⟩
      | data bytes =>
          have stored := cells_store buf count bytes
          by_cases eight : bytes.length = 8
          · obtain ⟨results, events, collected, counted, kept⟩ :=
              ih (store buf count bytes) (count + 8)
            rw [eight] at stored
            have goesOn : receiveLoop fd (.data bytes :: rest) buf count =
                { receiveLoop fd rest (store buf count bytes) (count + 8) with
                  events := .received fd (.data bytes) ::
                    (receiveLoop fd rest (store buf count bytes) (count + 8)).events } :=
              if_pos eight
            have grown : (answerOf (.data bytes :: results)).length =
                8 + (answerOf results).length := by
              simp [answerOf, resultBytes, eight]
            refine ⟨.data bytes :: results, ?_, .more eight collected, ?_, ?_⟩
            · rw [goesOn, List.map_cons, ← events]
            · rw [goesOn, grown]
              simp only [counted, List.any_cons, RxResult.fails, Bool.false_or]
              push_cast
              omega
            · rw [goesOn, grown, ← Nat.add_assoc, kept, stored, List.append_assoc]
              rfl
          · refine ⟨[.data bytes], by simp [receiveLoop, eight],
              .last (decide_eq_false eight), ?_, ?_⟩
            · simp [receiveLoop, eight, answerOf, resultBytes, RxResult.fails]
            · simpa [receiveLoop, eight, answerOf, resultBytes] using stored

theorem heard_length (results : List RxResult) :
    ((heardOf results).length : Int) = max 0
      (((answerOf results).length : Int) -
        (if results.any RxResult.fails then 1 else 0)) := by
  unfold heardOf
  split
  · rw [List.length_dropLast]
    omega
  · omega

theorem heard_begins (results : List RxResult) : heardOf results <+: answerOf results := by
  unfold heardOf
  split
  · exact List.dropLast_prefix _
  · exact List.prefix_refl _

theorem tty_read_hears (fd : Int) (answers : List RxResult) (buf : Buf) :
    ∃ results, (ttyRead fd answers buf).events = results.map (.received fd) ∧
      Collected results ∧
        (ttyRead fd answers buf).count.toNat = (heardOf results).length ∧
        cells (ttyRead fd answers buf).buf (heardOf results).length = heardOf results ∧
          ((ttyRead fd answers buf).count ≤ 0 ↔ heardOf results = []) := by
  obtain ⟨results, events, collected, counted, stored⟩ := receive_loop_collects fd answers buf 0
  have length := heard_length results
  have front := heard_begins results
  have counts : (ttyRead fd answers buf).count.toNat = (heardOf results).length := by
    rw [ttyRead, counted]
    omega
  refine ⟨results, events, collected, counts, ?_, ?_⟩
  · have bound := front.length_le
    rw [Nat.zero_add, show cells buf 0 = [] from rfl, List.nil_append] at stored
    rw [ttyRead, ← cells_take _ _ _ bound, stored]
    exact (List.prefix_iff_eq_take.mp front).symm
  · rw [← List.length_eq_zero_iff, ← counts]
    omega

theorem cut_at_nul_cons (c : Byte) (rest : List Byte) :
    cutAtNul (c :: rest) =
      if c = 0 then List.replicate (rest.length + 1) 0 else c :: cutAtNul rest := by
  by_cases nul : c = 0
  · simp [cutAtNul, nul]
  · simp [cutAtNul, nul]

theorem cut_at_nul_length (bytes : List Byte) : (cutAtNul bytes).length = bytes.length := by
  have fewer := (List.takeWhile_prefix (l := bytes) fun c : Byte => decide (c ≠ 0)).length_le
  simp only [cutAtNul, List.length_append, List.length_replicate]
  omega

theorem cut_at_nul_getElem (bytes : List Byte) (index : Nat)
    (bound : index < (cutAtNul bytes).length) :
      (cutAtNul bytes)[index] = if 0 ∈ bytes.take index then 0 else bytes.getD index 0 := by
  induction bytes generalizing index with
  | nil => simp [cutAtNul] at bound
  | cons c rest ih =>
      simp only [cut_at_nul_cons]
      by_cases nul : c = 0
      · cases index with
        | zero => simp [nul]
        | succ index => simp [nul]
      · cases index with
        | zero => simp [nul]
        | succ index =>
            have within : index < (cutAtNul rest).length := by
              rw [cut_at_nul_cons, if_neg nul] at bound
              simpa using bound
            have apart : ¬0 = c := fun same => nul same.symm
            simp [nul, apart, ih index within]

theorem cells_strncpy_cut (target source : Buf) (count : Nat) :
    cells (strncpy target source count) count = cutAtNul (cells source count) := by
  apply List.ext_getElem
  · rw [cut_at_nul_length, cells_length, cells_length]
  · intro index left right
    have bound : index < count := by simpa using left
    have front : (cells source count).take index = cells source index :=
      cells_take source count index (by omega)
    have nul : nulBefore source index = true ↔ 0 ∈ cells source index := by
      rw [nulBefore_iff, cells, List.mem_map]
      constructor
      · rintro ⟨place, before, zero⟩
        exact ⟨place, List.mem_range.mpr before, zero⟩
      · rintro ⟨place, listed, zero⟩
        exact ⟨place, List.mem_range.mp listed, zero⟩
    rw [cut_at_nul_getElem, cells_getElem, strncpy_inside _ _ _ _ bound, front,
      List.getD_eq_getElem _ _ (by simpa using bound), cells_getElem]
    simp only [nul]

end GlRs485.SequentialServer
