import Mathlib.Data.List.GetD
import Mathlib.Data.List.Range
import Mathlib.Data.List.TakeWhile
import Mathlib.Data.List.Pairwise

/-!
# Byte buffers and the string functions of the C library

A buffer is the memory from its first cell on, so an index past the declared
size of an array is still a cell: whether a store stays inside an array is a
statement about the index, made where the array is. The copying functions are
given by what they leave in each cell.
-/

namespace CBytes

set_option autoImplicit false

abbrev Byte := UInt8

abbrev Buf := Nat → Byte

def ascii (text : String) : List Byte := text.toList.map fun letter => UInt8.ofNat letter.toNat

def cells (buf : Buf) (count : Nat) : List Byte := (List.range count).map buf

/-- Memory that starts with the given bytes, followed by zeros. -/
def ofBytes (bytes : List Byte) : Buf := fun index => bytes.getD index 0

def put (buf : Buf) (position : Nat) (value : Byte) : Buf :=
  fun index => if index = position then value else buf index

def store (buf : Buf) (offset : Nat) (bytes : List Byte) : Buf :=
  fun index =>
    if offset ≤ index ∧ index < offset + bytes.length then bytes.getD (index - offset) 0
    else buf index

def memset (buf : Buf) (value : Byte) (count : Nat) : Buf :=
  fun index => if index < count then value else buf index

def memcpy (target source : Buf) (count : Nat) : Buf :=
  fun index => if index < count then source index else target index

def nulBefore (buf : Buf) : Nat → Bool
  | 0 => false
  | count + 1 => nulBefore buf count || buf count == 0

/-- Copies up to the first NUL and fills the rest of the `count` cells with NUL. -/
def strncpy (target source : Buf) (count : Nat) : Buf :=
  fun index =>
    if index < count then (if nulBefore source index then 0 else source index)
    else target index

/-- The length of the string in the first `size` cells, `size` when none is NUL. -/
def strlen (buf : Buf) : Nat → Nat
  | 0 => 0
  | size + 1 => if buf 0 = 0 then 0 else strlen (fun index => buf (index + 1)) size + 1

def cString (buf : Buf) (size : Nat) : List Byte := cells buf (strlen buf size)

/-- Appends at most `count` bytes of the source and a NUL to the string in the
first `size` cells of the target. -/
def strncat (target source : Buf) (size count : Nat) : Buf :=
  let length := strlen target size
  let appended := strlen source count
  fun index =>
    if length ≤ index ∧ index < length + appended then source (index - length)
    else if index = length + appended then 0
    else target index

/-- After a zero byte only zero bytes follow. -/
def NulsAtEnd (bytes : List Byte) : Prop :=
  bytes.Pairwise fun earlier later => earlier = 0 → later = 0

instance (bytes : List Byte) : Decidable (NulsAtEnd bytes) :=
  inferInstanceAs (Decidable (bytes.Pairwise _))

@[simp] theorem cells_length (buf : Buf) (count : Nat) : (cells buf count).length = count := by
  simp [cells]

@[simp] theorem cells_getElem (buf : Buf) (count index : Nat)
    (bound : index < (cells buf count).length) : (cells buf count)[index] = buf index := by
  simp [cells]

theorem cells_eq_iff (left right : Buf) (count : Nat) :
    cells left count = cells right count ↔ ∀ index < count, left index = right index := by
  simp [cells]

theorem cells_eq_bytes_iff (buf : Buf) (bytes : List Byte) :
    cells buf bytes.length = bytes ↔
      ∀ index (bound : index < bytes.length), buf index = bytes[index] := by
  constructor
  · intro same index bound
    have cell := List.getElem_of_eq same (by simpa using bound)
    simpa using cell
  · intro same
    apply List.ext_getElem (by simp)
    intro index _ bound
    simpa using same index bound

theorem cells_eq_of_bytes (buf : Buf) (bytes : List Byte) (count : Nat)
    (length : bytes.length = count)
    (same : ∀ index (bound : index < bytes.length), buf index = bytes[index]) :
      cells buf count = bytes := by
  subst length
  exact (cells_eq_bytes_iff buf bytes).mpr same

theorem cells_succ (buf : Buf) (count : Nat) :
    cells buf (count + 1) = cells buf count ++ [buf count] := by
  simp [cells, List.range_succ]

theorem cells_take (buf : Buf) (count wanted : Nat) (bound : wanted ≤ count) :
    (cells buf count).take wanted = cells buf wanted := by
  simp [cells, ← List.map_take, List.take_range, Nat.min_eq_left bound]

@[simp] theorem cells_ofBytes (bytes : List Byte) :
    cells (ofBytes bytes) bytes.length = bytes := by
  rw [cells_eq_bytes_iff]
  intro index bound
  simp [ofBytes, bound]

theorem ofBytes_getElem (bytes : List Byte) (index : Nat) (bound : index < bytes.length) :
    ofBytes bytes index = bytes[index] := by
  simp [ofBytes, bound]

@[simp] theorem put_same (buf : Buf) (position : Nat) (value : Byte) :
    put buf position value position = value := by
  simp [put]

theorem put_other (buf : Buf) (position : Nat) (value : Byte) (index : Nat)
    (different : index ≠ position) : put buf position value index = buf index := by
  simp [put, different]

theorem cells_put_behind (buf : Buf) (position : Nat) (value : Byte) (count : Nat)
    (behind : count ≤ position) : cells (put buf position value) count = cells buf count := by
  rw [cells_eq_iff]
  intro index inside
  exact put_other _ _ _ _ (by omega)

@[simp] theorem memcpy_inside (target source : Buf) (count index : Nat)
    (bound : index < count) : memcpy target source count index = source index := by
  simp [memcpy, bound]

theorem cells_memcpy (target source : Buf) (count : Nat) :
    cells (memcpy target source count) count = cells source count := by
  rw [cells_eq_iff]
  intro index bound
  exact memcpy_inside target source count index bound

@[simp] theorem nulBefore_iff (buf : Buf) (count : Nat) :
    nulBefore buf count = true ↔ ∃ index < count, buf index = 0 := by
  induction count with
  | zero => simp [nulBefore]
  | succ count ih =>
      simp only [nulBefore, Bool.or_eq_true, ih, beq_iff_eq, Nat.lt_succ_iff_lt_or_eq]
      constructor
      · rintro (⟨index, bound, zero⟩ | zero)
        · exact ⟨index, Or.inl bound, zero⟩
        · exact ⟨count, Or.inr rfl, zero⟩
      · rintro ⟨index, bound | rfl, zero⟩
        · exact Or.inl ⟨index, bound, zero⟩
        · exact Or.inr zero

theorem nulsAtEnd_cells_iff (buf : Buf) (count : Nat) :
    NulsAtEnd (cells buf count) ↔
      ∀ later < count, ∀ earlier < later, buf earlier = 0 → buf later = 0 := by
  simp only [NulsAtEnd, List.pairwise_iff_getElem, cells_length, cells_getElem]
  constructor
  · intro ends later bound earlier before
    exact ends earlier later (by omega) bound before
  · intro ends earlier later _ bound before
    exact ends later bound earlier before

theorem strncpy_inside (target source : Buf) (count index : Nat) (bound : index < count) :
    strncpy target source count index = if nulBefore source index then 0 else source index := by
  simp [strncpy, bound]

/-- `strncpy` is faithful exactly on bytes whose zeros all stand at the end. -/
theorem cells_strncpy_eq_iff (target source : Buf) (count : Nat) :
    cells (strncpy target source count) count = cells source count ↔
      NulsAtEnd (cells source count) := by
  rw [cells_eq_iff, nulsAtEnd_cells_iff]
  constructor
  · intro same later bound earlier before zero
    have copied := same later bound
    rw [strncpy_inside _ _ _ _ bound,
      if_pos ((nulBefore_iff source later).mpr ⟨earlier, before, zero⟩)] at copied
    exact copied.symm
  · intro ends index bound
    rw [strncpy_inside _ _ _ _ bound]
    split
    · next earlierNul =>
        obtain ⟨earlier, before, zero⟩ := (nulBefore_iff source index).mp earlierNul
        exact (ends index bound earlier before zero).symm
    · rfl

theorem cells_cons (buf : Buf) (count : Nat) :
    cells buf (count + 1) = buf 0 :: cells (fun index => buf (index + 1)) count := by
  simp [cells, List.range_succ_eq_map, Function.comp_def]

theorem strlen_text (text : List Byte) (buf : Buf) (size : Nat) (bound : text.length < size)
    (holds : cells buf text.length = text) (ends : buf text.length = 0) :
      strlen buf size = (text.takeWhile fun c => c ≠ 0).length := by
  induction text generalizing buf size with
  | nil =>
      obtain ⟨size, rfl⟩ := Nat.exists_eq_succ_of_ne_zero (by omega : size ≠ 0)
      simpa [strlen] using ends
  | cons c rest ih =>
      obtain ⟨size, rfl⟩ := Nat.exists_eq_succ_of_ne_zero (by omega : size ≠ 0)
      rw [List.length_cons, cells_cons, List.cons.injEq] at holds
      have later := ih (fun index => buf (index + 1)) size (by simpa using bound) holds.2 ends
      by_cases nul : c = 0
      · simp [strlen, holds.1, nul]
      · simp [strlen, holds.1, nul, later]

theorem takeWhile_zero_free (text : List Byte) (zeroFree : (0 : Byte) ∉ text) :
    (text.takeWhile fun c => c ≠ 0) = text := by
  rw [List.takeWhile_eq_self_iff]
  intro c member
  have nonzero : c ≠ 0 := fun nul => zeroFree (nul ▸ member)
  simpa using nonzero

theorem strlen_zero_free (text : List Byte) (buf : Buf) (size : Nat) (zeroFree : (0 : Byte) ∉ text)
    (bound : text.length < size) (holds : cells buf text.length = text)
    (ends : buf text.length = 0) : strlen buf size = text.length := by
  rw [strlen_text text buf size bound holds ends, takeWhile_zero_free text zeroFree]

theorem cString_zero_free (text : List Byte) (buf : Buf) (size : Nat) (zeroFree : (0 : Byte) ∉ text)
    (bound : text.length < size) (holds : cells buf text.length = text)
    (ends : buf text.length = 0) : cString buf size = text := by
  rw [cString, strlen_zero_free text buf size zeroFree bound holds ends, holds]

theorem nulsAtEnd_zero_free (text : List Byte) (zeroFree : (0 : Byte) ∉ text) :
    NulsAtEnd text := by
  apply List.pairwise_of_forall_mem_list
  intro earlier member later _ zero
  exact absurd (zero ▸ member) zeroFree

theorem strlen_nonzero (buf : Buf) (size index : Nat) (before : index < strlen buf size) :
    buf index ≠ 0 := by
  induction size generalizing buf index with
  | zero => simp [strlen] at before
  | succ size ih =>
      rw [strlen] at before
      split at before
      · omega
      · next head =>
          cases index with
          | zero => exact head
          | succ index => exact ih (fun later => buf (later + 1)) index (by omega)

theorem strlen_cell (buf : Buf) (size : Nat) (ends : strlen buf size < size) :
    buf (strlen buf size) = 0 := by
  induction size generalizing buf with
  | zero => omega
  | succ size ih =>
      rw [strlen] at ends ⊢
      split at ends
      · next head => rw [if_pos head, head]
      · next head =>
          rw [if_neg head]
          exact ih (fun later => buf (later + 1)) (by omega)

theorem ofBytes_beyond (bytes : List Byte) (index : Nat) (beyond : bytes.length ≤ index) :
    ofBytes bytes index = 0 := List.getD_eq_default _ _ beyond

theorem ofBytes_append (front back : List Byte) (index : Nat) :
    ofBytes (front ++ back) index =
      if index < front.length then ofBytes front index else ofBytes back (index - front.length) := by
  unfold ofBytes
  split
  · next inside => rw [List.getD_append _ _ _ _ inside]
  · next beyond => rw [List.getD_append_right _ _ _ _ (by omega)]

theorem strlen_unterminated (buf : Buf) (size : Nat) (nonzero : ∀ index < size, buf index ≠ 0) :
    strlen buf size = size := by
  induction size generalizing buf with
  | zero => rfl
  | succ size ih =>
      rw [strlen, if_neg (nonzero 0 (by omega)),
        ih (fun index => buf (index + 1)) fun index inside => nonzero (index + 1) (by omega)]

theorem strlen_terminated (text : List Byte) (size : Nat) (buf : Buf)
    (terminated : (0 : Byte) ∉ text) (bound : text.length < size)
    (holds : ∀ index ≤ text.length, buf index = ofBytes text index) :
      strlen buf size = text.length := by
  have front : cells buf text.length = text := by
    rw [cells_eq_bytes_iff]
    intro index inside
    rw [holds index (by omega), ofBytes_getElem text index inside]
  have ends : buf text.length = 0 := by
    rw [holds _ (Nat.le_refl _), ofBytes_beyond text _ (Nat.le_refl _)]
  exact strlen_zero_free text buf size terminated bound front ends

theorem cString_terminated (text : List Byte) (size : Nat) (buf : Buf)
    (terminated : (0 : Byte) ∉ text) (bound : text.length < size)
    (holds : ∀ index ≤ text.length, buf index = ofBytes text index) :
      cString buf size = text := by
  rw [cString, strlen_terminated text size buf terminated bound holds, cells_eq_bytes_iff]
  intro index inside
  rw [holds index (by omega), ofBytes_getElem text index inside]

theorem strncpy_text (target : Buf) (text : List Byte) (count index : Nat)
    (terminated : (0 : Byte) ∉ text) :
      strncpy target (ofBytes text) count index =
        if index < count then ofBytes text index else target index := by
  unfold strncpy
  split
  · split
    · next earlier =>
        obtain ⟨nul, before, zero⟩ := (nulBefore_iff _ _).mp earlier
        have beyond : text.length ≤ nul := by
          by_contra inside
          rw [ofBytes_getElem text nul (by omega)] at zero
          exact terminated (zero ▸ List.getElem_mem _)
        rw [ofBytes_beyond text index (by omega)]
    · rfl
  · rfl

theorem nulBefore_cons (c : Byte) (rest : List Byte) (count : Nat) (nonzero : c ≠ 0) :
    nulBefore (ofBytes (c :: rest)) (count + 1) = nulBefore (ofBytes rest) count := by
  induction count with
  | zero => simp [nulBefore, ofBytes, nonzero]
  | succ count ih =>
      rw [nulBefore, ih]
      rfl

theorem strncpy_takeWhile (target : Buf) (text : List Byte) :
    ((cells (strncpy target (ofBytes text) text.length) text.length).takeWhile fun c => c ≠ 0) =
      text.takeWhile fun c => c ≠ 0 := by
  induction text generalizing target with
  | nil => rfl
  | cons c rest ih =>
      have first : strncpy target (ofBytes (c :: rest)) (rest.length + 1) 0 = c := rfl
      rw [List.length_cons, cells_cons, first]
      by_cases nul : c = 0
      · simp [nul]
      · have later : cells (fun index =>
            strncpy target (ofBytes (c :: rest)) (rest.length + 1) (index + 1)) rest.length =
            cells (strncpy (fun index => target (index + 1)) (ofBytes rest) rest.length)
              rest.length := by
          rw [cells_eq_iff]
          intro index bound
          rw [strncpy_inside _ _ _ _ (by omega), strncpy_inside _ _ _ _ bound,
            nulBefore_cons c rest index nul]
          rfl
        rw [later, List.takeWhile_cons_of_pos (by simpa using nul),
          List.takeWhile_cons_of_pos (by simpa using nul), ih]

theorem strncat_text (target : Buf) (front back : List Byte) (size count index : Nat)
    (frontTerminated : (0 : Byte) ∉ front) (backTerminated : (0 : Byte) ∉ back)
    (room : front.length < size) (fits : back.length ≤ count)
    (holds : ∀ place ≤ front.length, target place = ofBytes front place) :
      strncat target (ofBytes back) size count index =
        if index ≤ front.length + back.length then ofBytes (front ++ back) index
        else target index := by
  have length : strlen target size = front.length :=
    strlen_terminated front size target frontTerminated room holds
  have appended : strlen (ofBytes back) count = back.length := by
    rcases Nat.lt_or_eq_of_le fits with shorter | equal
    · exact strlen_terminated back count _ backTerminated shorter fun _ _ => rfl
    · rw [← equal]
      apply strlen_unterminated
      intro index inside nul
      rw [ofBytes_getElem back index inside] at nul
      exact backTerminated (nul ▸ List.getElem_mem inside)
  simp only [strncat, length, appended, ofBytes_append]
  by_cases before : index < front.length
  · rw [if_neg (by omega), if_neg (by omega), if_pos (by omega), if_pos before]
    exact holds index (by omega)
  · by_cases inside : index < front.length + back.length
    · rw [if_pos ⟨by omega, inside⟩, if_pos (by omega), if_neg before]
    · by_cases last : index = front.length + back.length
      · rw [if_neg (by omega), if_pos last, if_pos (by omega), if_neg before,
          ofBytes_beyond back _ (by omega)]
      · rw [if_neg (by omega), if_neg last, if_neg (by omega)]

theorem cells_takeWhile (text : List Byte) (buf : Buf) (p : Byte → Bool)
    (holds : cells buf text.length = text) :
      cells buf (text.takeWhile p).length = text.takeWhile p := by
  have front : text.takeWhile p <+: text := List.takeWhile_prefix p
  rw [← cells_take buf text.length _ front.length_le, holds]
  exact (List.prefix_iff_eq_take.mp front).symm

theorem cells_store (buf : Buf) (offset : Nat) (bytes : List Byte) :
    cells (store buf offset bytes) (offset + bytes.length) = cells buf offset ++ bytes := by
  apply List.ext_getElem (by simp)
  intro index bound _
  rw [cells_getElem, List.getElem_append]
  by_cases before : index < offset
  · have outside : ¬ (offset ≤ index ∧ index < offset + bytes.length) := by omega
    simp [store, outside, before]
  · have inside : offset ≤ index ∧ index < offset + bytes.length := by
      simp only [cells_length] at bound
      omega
    have within : index - offset < bytes.length := by omega
    simp [store, inside, before, within]

theorem nulsAtEnd_strncpy (target source : Buf) (count : Nat) :
    NulsAtEnd (cells (strncpy target source count) count) := by
  rw [nulsAtEnd_cells_iff]
  intro later bound earlier before zero
  rw [strncpy_inside _ _ _ _ bound]
  rw [strncpy_inside _ _ _ _ (by omega)] at zero
  have earlierNul : nulBefore source later = true := by
    rw [nulBefore_iff]
    by_cases nul : nulBefore source earlier = true
    · obtain ⟨index, bound, zero⟩ := (nulBefore_iff source earlier).mp nul
      exact ⟨index, by omega, zero⟩
    · rw [if_neg nul] at zero
      exact ⟨earlier, before, zero⟩
  rw [if_pos earlierNul]

/-- A text that is read on behind its array is itself when it fits or goes on alike. -/
theorem overrun_eq_iff (text behind : List Byte) (size : Nat) :
    (if text.length < size then text else text.take size ++ behind) = text ↔
      text.length < size ∨ text.drop size = behind := by
  by_cases inside : text.length < size
  · simp [inside]
  · rw [if_neg inside, or_iff_right inside]
    constructor
    · intro same
      exact (List.append_cancel_left (same.trans (List.take_append_drop size text).symm)).symm
    · intro same
      rw [← same]
      exact List.take_append_drop size text

end CBytes
