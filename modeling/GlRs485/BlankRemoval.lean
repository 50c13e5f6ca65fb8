import GlRs485.SpacedHex

/-!
# Both ways of removing blanks

`remove_blank` runs to the end of the string and `remove_blank1` over a count of
bytes. On the length of a string they do the same; over fewer bytes one blank
among them is enough to end the string inside the count.
-/

namespace GlRs485.BlankRemoval

open CBytes HexCodec SpacedHex

set_option autoImplicit false

theorem unblanked_zero_free (text : List Byte) (zeroFree : (0 : Byte) ∉ text) :
    (0 : Byte) ∉ unblanked text :=
  fun member => zeroFree (List.mem_of_mem_filter member)

theorem unblanked_shorter (text : List Byte) (blank : (32 : Byte) ∈ text) :
    (unblanked text).length < text.length := by
  apply List.length_filter_lt_length_iff_exists.mpr
  exact ⟨32, blank, by simp⟩

theorem cells_zero_free (str : Buf) (count : Nat) (nonzero : ∀ i < count, str i ≠ 0) :
    (0 : Byte) ∉ cells str count := by
  intro member
  obtain ⟨i, inside, zero⟩ := List.mem_map.mp member
  exact nonzero i (List.mem_range.mp inside) zero

theorem remove_blank1_blank (str : Buf) (count : Nat) (blank : ∃ i < count, str i = 32) :
    cells (removeBlank1 str count) (unblanked (cells str count)).length =
        unblanked (cells str count) ∧
      removeBlank1 str count (unblanked (cells str count)).length = 0 := by
  obtain ⟨scan, scanned, removed⟩ := remove_blank1_scan str count
  obtain ⟨i, inside, found⟩ := blank
  have member : (32 : Byte) ∈ cells str count :=
    List.mem_map.mpr ⟨i, List.mem_range.mpr inside, found⟩
  have shorter := unblanked_shorter _ member
  have counted := scanned.counted
  rw [cells_length] at shorter
  rw [removed, if_neg (by omega)]
  constructor
  · rw [cells_put_behind _ _ _ _ (le_refl _), scanned.front]
  · exact put_same _ _ _

/-- On a string both leave it without its blanks; over bytes with a blank and no
NUL among them the second leaves their string, and all else as it was. -/
theorem blanks_removed (str : Buf) (count size : Nat) :
    (strlen str size < size →
        cString (removeBlank str size) size = unblanked (cString str size) ∧
          cString (removeBlank1 str (strlen str size)) size = unblanked (cString str size)) ∧
      (count ≤ size → (∃ i < count, str i = 32) → (∀ i < count, str i ≠ 0) →
        cString (removeBlank1 str count) size = unblanked (cells str count) ∧
          ∀ index, count ≤ index → removeBlank1 str count index = str index) := by
  constructor
  · intro ends
    have nul := strlen_cell str size ends
    obtain ⟨text, ended⟩ := remove_blank1_text str (strlen str size) nul
    have zeroFree := unblanked_zero_free _
      (cells_zero_free str (strlen str size) (strlen_nonzero str size))
    have length := List.length_filter_le (fun c => decide (c ≠ 32)) (cells str (strlen str size))
    rw [cells_length] at length
    have left := cString_zero_free _ _ size zeroFree (by unfold unblanked; omega) text ended
    rw [remove_blank_eq str size ends]
    exact ⟨left, left⟩
  · intro room blank nonzero
    obtain ⟨text, ended⟩ := remove_blank1_blank str count blank
    have zeroFree := unblanked_zero_free _ (cells_zero_free str count nonzero)
    obtain ⟨i, inside, found⟩ := blank
    have shorter := unblanked_shorter (cells str count)
      (List.mem_map.mpr ⟨i, List.mem_range.mpr inside, found⟩)
    rw [cells_length] at shorter
    exact ⟨cString_zero_free _ _ size zeroFree (by omega) text ended,
      fun index beyond => remove_blank1_beyond str count index beyond⟩

theorem blanks_removed_on_text :
    cString (removeBlank (ofBytes (ascii "0a 1F ")) 8) 8 = ascii "0a1F" ∧
      cString (removeBlank1 (ofBytes (ascii "0a 1F ")) 3) 8 = ascii "0a" := by
  have whole := (blanks_removed (ofBytes (ascii "0a 1F ")) 3 8).1 (by decide +kernel)
  have front := (blanks_removed (ofBytes (ascii "0a 1F ")) 3 8).2 (by decide)
    ⟨2, by decide, by decide⟩ (by decide +kernel)
  exact ⟨whole.1.trans (by decide +kernel), front.1.trans (by decide +kernel)⟩

end GlRs485.BlankRemoval
