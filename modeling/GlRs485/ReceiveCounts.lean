import GlRs485.TerminalApi
import Mathlib.Algebra.Ring.Nat

/-!
# The counts of the receive loops

The loop that reads again after eight bytes was written several times. All
copies but the one of `get_rs485_data_to_gl_mqtt` add the -1 of a failing read to
their count. Both copies read and store the same.
-/

namespace GlRs485.ReceiveCounts

open CBytes SerialLine TerminalApi

set_option autoImplicit false

/-- The copy that adds a result only if it is positive. -/
def guardedLoop (fd : Int) : List RxResult → Buf → Nat → Reception
  | [], buf, count => ⟨buf, count, [.received fd (.data [])]⟩
  | .failed stored :: _, buf, count =>
      ⟨store buf count stored, count, [.received fd (.failed stored)]⟩
  | .data bytes :: rest, buf, count =>
      let counted := if 0 < bytes.length then count + bytes.length else count
      if bytes.length = 8 then
        let later := guardedLoop fd rest (store buf count bytes) counted
        { later with events := .received fd (.data bytes) :: later.events }
      else ⟨store buf count bytes, counted, [.received fd (.data bytes)]⟩

/-- The results of the reads of one loop: eight bytes each, and one result that ends it. -/
structure Ended where
  chunks : List (List Byte)
  last : RxResult
  full : ∀ chunk ∈ chunks, chunk.length = 8
  ends : last.goesOn = false

def Ended.results (ended : Ended) : List RxResult := ended.chunks.map .data ++ [ended.last]

def Ended.stored (ended : Ended) : Nat := (ended.results.map RxResult.size).sum

theorem guarded_data (fd : Int) (bytes : List Byte) (rest : List RxResult) (buf : Buf)
    (count : Nat) :
      guardedLoop fd (.data bytes :: rest) buf count =
        if bytes.length = 8 then
          { guardedLoop fd rest (store buf count bytes) (count + 8) with
            events := .received fd (.data bytes) ::
              (guardedLoop fd rest (store buf count bytes) (count + 8)).events }
        else
          ⟨store buf count bytes, ((count + bytes.length : Nat) : Int),
            [.received fd (.data bytes)]⟩ := by
  have counted : (if 0 < bytes.length then count + bytes.length else count) =
      count + bytes.length := by
    split <;> omega
  rw [guardedLoop]
  dsimp only
  rw [counted]
  split
  · next eight => rw [eight]
  · rfl

theorem loops_store_alike (fd : Int) (results : List RxResult) (buf : Buf) (count : Nat) :
    (guardedLoop fd results buf count).buf = (receiveLoop fd results buf count).buf ∧
      (guardedLoop fd results buf count).events = (receiveLoop fd results buf count).events := by
  induction results generalizing buf count with
  | nil => exact ⟨rfl, rfl⟩
  | cons result rest ih =>
      cases result with
      | failed stored => exact ⟨rfl, rfl⟩
      | data bytes =>
          obtain ⟨sameBuf, sameEvents⟩ := ih (store buf count bytes) (count + 8)
          rw [guarded_data, receiveLoop]
          split
          · exact ⟨sameBuf, congrArg (LineEvent.received fd (.data bytes) :: ·) sameEvents⟩
          · exact ⟨rfl, rfl⟩

theorem guarded_count (fd : Int) (results : List RxResult) (buf : Buf) (count : Nat) :
    (guardedLoop fd results buf count).count =
      count + ((guardedLoop fd results buf count).events.flatMap lineData).length := by
  induction results generalizing buf count with
  | nil => simp [guardedLoop, lineData]
  | cons result rest ih =>
      cases result with
      | failed stored => simp [guardedLoop, lineData]
      | data bytes =>
          rw [guarded_data]
          split
          · next eight =>
              rw [ih]
              simp only [List.flatMap_cons, lineData, List.length_append, eight]
              omega
          · simp [lineData]

/-- What `get_rs485_data_to_gl_mqtt` goes on with is the count of the guarded loop. -/
theorem counted_data_guarded (fd : Int) (results : List RxResult) (buf : Buf) :
    (countedData (receiveLoop fd results buf 0) : Int) = (guardedLoop fd results buf 0).count := by
  rw [guarded_count, (loops_store_alike fd results buf 0).2, countedData]
  simp

/-- The counts after full reads and a last one; they differ by the result of a failing read. -/
theorem ended_counts (fd : Int) (chunks : List (List Byte)) (last : RxResult) (buf : Buf)
    (count : Nat) (full : ∀ chunk ∈ chunks, chunk.length = 8) (ends : last.goesOn = false) :
      (guardedLoop fd (chunks.map .data ++ [last]) buf count).count =
          count + 8 * chunks.length + (if last.fails then 0 else last.size) ∧
        (receiveLoop fd (chunks.map .data ++ [last]) buf count).count =
          count + 8 * chunks.length + (if last.fails then -1 else (last.size : Int)) := by
  induction chunks generalizing buf count with
  | nil =>
      cases last with
      | failed stored => simp [guardedLoop, receiveLoop, RxResult.fails, Int.sub_eq_add_neg]
      | data bytes =>
          have partly : bytes.length ≠ 8 := of_decide_eq_false ends
          rw [List.map_nil, List.nil_append, guarded_data, receiveLoop, if_neg partly,
            if_neg partly]
          simp [RxResult.fails, RxResult.size, RxResult.stored]
  | cons chunk rest ih =>
      have eight := full chunk (by simp)
      obtain ⟨guarded, unguarded⟩ := ih (store buf count chunk) (count + 8)
        fun later member => full later (by simp [member])
      rw [List.map_cons, List.cons_append, guarded_data, receiveLoop, if_pos eight, if_pos eight]
      dsimp only
      rw [guarded, unguarded, List.length_cons]
      constructor
      · omega
      · omega

theorem full_sizes (chunks : List (List Byte)) (full : ∀ chunk ∈ chunks, chunk.length = 8) :
    ((chunks.map RxResult.data).map RxResult.size).sum = 8 * chunks.length := by
  induction chunks with
  | nil => rfl
  | cons chunk rest ih =>
      have eight : RxResult.size (.data chunk) = 8 := full chunk (by simp)
      rw [List.map_cons, List.map_cons, List.sum_cons, eight,
        ih fun later member => full later (by simp [member]), List.length_cons]
      omega

theorem ended_stored (ended : Ended) :
    ended.stored = 8 * ended.chunks.length + ended.last.size := by
  rw [Ended.stored, Ended.results, List.map_append, List.sum_append,
    full_sizes ended.chunks ended.full]
  rfl

/-- The loops count the same, and all the bytes stored, unless a read fails behind a full one
or with bytes that it has stored. -/
theorem counts_agree_iff (fd : Int) (ended : Ended) (buf : Buf) :
    max (receiveLoop fd ended.results buf 0).count 0 =
          (guardedLoop fd ended.results buf 0).count ∧
        (guardedLoop fd ended.results buf 0).count = ended.stored ↔
      ¬(ended.last.fails = true ∧ (ended.chunks ≠ [] ∨ ended.last.stored ≠ [])) := by
  have stored := ended_stored ended
  obtain ⟨chunks, last, full, ends⟩ := ended
  obtain ⟨guarded, unguarded⟩ := ended_counts fd chunks last buf 0 full ends
  have some : chunks ≠ [] ↔ chunks.length ≠ 0 := not_congr List.length_eq_zero_iff.symm
  have left : last.stored ≠ [] ↔ last.size ≠ 0 := not_congr List.length_eq_zero_iff.symm
  dsimp only [Ended.results] at stored ⊢
  rw [guarded, unguarded, stored, some, left]
  by_cases failed : last.fails = true
  · simp only [failed, if_true, true_and]
    omega
  · simp only [failed, Bool.false_eq_true, if_false, false_and, not_false_eq_true, iff_true]
    omega

/-- Eight bytes and a failing read: all loops but one count seven. -/
theorem failing_read_drops_a_byte :
    (receiveLoop 5 [.data [1, 2, 3, 4, 5, 6, 7, 8], .failed []] (fun _ => 0) 0).count = 7 ∧
      (guardedLoop 5 [.data [1, 2, 3, 4, 5, 6, 7, 8], .failed []] (fun _ => 0) 0).count = 8 := by
  decide +kernel

end GlRs485.ReceiveCounts
