import GlRs485.FirmwareTransfer
import Mathlib.Data.List.Range
import Mathlib.Tactic.Ring

/-!
# What a file transfer shows of its progress

`tty_write_file` counts full blocks up to a tenth of the file in blocks, rounded down, and
shows another ten percent whenever the count is full. What it prints depends on the size of
the file alone, and since the tenth is rounded down the percentages run ahead of the blocks.
-/

namespace GlRs485.TransferProgress

open CBytes CIntegers FirmwareTransfer

set_option autoImplicit false

theorem starts_over_iff (stride count : Nat) :
    count % stride + 1 = stride ↔ stride ∣ count + 1 := by
  have next : (count + 1) % stride = (count % stride + 1) % stride := (Nat.mod_add_mod ..).symm
  rw [Nat.dvd_iff_mod_eq_zero, next]
  constructor
  · intro full
    rw [full, Nat.mod_self]
  · intro wrapped
    rcases Nat.eq_zero_or_pos stride with zero | positive
    · simp [zero] at wrapped
    · have below := Nat.mod_lt count positive
      by_contra short
      rw [Nat.mod_eq_of_lt (by omega)] at wrapped
      omega

theorem goes_on {stride count : Nat} (short : ¬stride ∣ count + 1) :
    (count + 1) % stride = count % stride + 1 := by
  have next : (count + 1) % stride = (count % stride + 1) % stride := (Nat.mod_add_mod ..).symm
  rw [← starts_over_iff] at short
  rcases Nat.eq_zero_or_pos stride with zero | positive
  · simp [zero]
  · have below := Nat.mod_lt count positive
    rw [next, Nat.mod_eq_of_lt (by omega)]

theorem flatMap_strides {α : Type*} (stride count : Nat) (shown : Nat → List α) :
    ((List.range' 1 count).flatMap fun place =>
      if stride ∣ place then shown (place / stride) else []) =
        (List.range' 1 (count / stride)).flatMap shown := by
  induction count with
  | zero => simp
  | succ count ih =>
      rw [List.range'_1_concat, List.flatMap_append, ih, List.flatMap_singleton, Nat.add_comm 1]
      by_cases divides : stride ∣ count + 1
      · rw [if_pos divides, Nat.succ_div, if_pos divides, List.range'_1_concat,
          List.flatMap_append, List.flatMap_singleton, Nat.add_comm 1]
      · rw [if_neg divides, Nat.succ_div, if_neg divides, List.append_nil, Nat.add_zero]

/-! ## The counters of the block loop -/

/-- The tenth of a file in blocks, its last one counted as full. -/
def tenth (size : Nat) : Nat := (size / blockSize + 1) / 10

def shownAfter (stride block : Nat) : List Print :=
  if stride ∣ block then
    if block / stride ≤ 9 then [.completion ((block / stride : Nat) * 10)] else []
  else []

def progressReport (size : Nat) (date : List Byte) : List Print :=
  .fileSize size ::
    ((List.range' 1 (size / blockSize)).flatMap fun block =>
      .read blockSize :: shownAfter (tenth size) block) ++
    [.read (size % blockSize), .completion 100, .updateCompleted date]

/-- `up_cont` and `completion` after a number of full blocks. -/
def counted (stride blocks : Nat) : Progress := ⟨(blocks % stride : Nat), (blocks / stride : Nat)⟩

theorem small_char (value : Nat) (small : value ≤ 127) : toChar value = value :=
  Int.bmod_eq_of_le (by omega) (by omega)

theorem count_block_counted {fileCount : Int} {stride blocks : Nat}
    (tenth : fileCount.tdiv 5120 = stride) (small : (blocks + 1) / stride ≤ 127) :
      countBlock fileCount (counted stride blocks) =
        (counted stride (blocks + 1), shownAfter stride (blocks + 1)) := by
  have full : ((blocks % stride : Nat) : Int) + 1 = stride ↔ stride ∣ blocks + 1 := by
    rw [← starts_over_iff]
    omega
  have quotient : (blocks + 1) / stride = _ := Nat.succ_div
  unfold countBlock counted shownAfter
  dsimp only
  rw [tenth]
  by_cases divides : stride ∣ blocks + 1
  · rw [if_pos divides] at quotient
    have next : ((blocks / stride : Nat) : Int) + 1 = ((blocks + 1) / stride : Nat) := by omega
    rw [if_pos (full.mpr divides), if_pos divides, next, small_char _ small,
      Nat.mod_eq_zero_of_dvd divides]
    by_cases shown : (blocks + 1) / stride ≤ 9
    · rw [if_pos shown, if_pos (by omega)]
      rfl
    · rw [if_neg shown, if_neg (by omega)]
      rfl
  · rw [if_neg divides] at quotient
    rw [if_neg (mt full.mp divides), if_neg divides, goes_on divides, quotient]
    simp

/-- The run lemma: behind `blocks` full blocks the loop goes on with both counters. -/
theorem block_loop_prints {fd fileCount : Int} {stride total fuel blocks : Nat}
    {content : List Byte} {results : List WriteResult} {transfer : Transfer}
    (tenth : fileCount.tdiv 5120 = stride) (small : total / stride ≤ 127)
    (split : blocks + content.length / blockSize = total)
    (returns : blockLoop fd fileCount fuel content (counted stride blocks) results =
      some transfer) :
      transfer.printed =
        ((List.range' (blocks + 1) (content.length / blockSize)).flatMap fun block =>
          .read blockSize :: shownAfter stride block) ++
          [.read (content.length % blockSize), .completion 100] := by
  induction fuel generalizing blocks content results transfer with
  | zero => cases returns
  | succ fuel ih =>
      rw [blockLoop, Option.bind_eq_some_iff] at returns
      obtain ⟨transmission, _, goesOn⟩ := returns
      have taken : (content.take blockSize).length = min blockSize content.length :=
        List.length_take ..
      by_cases full : blockSize ≤ content.length
      · have whole : (content.take blockSize).length = blockSize := by omega
        have left : (content.drop blockSize).length = content.length - blockSize :=
          List.length_drop ..
        have step : content.length / blockSize =
            (content.drop blockSize).length / blockSize + 1 := by
          rw [left, Nat.div_eq_sub_div (by decide) full]
        have rest : content.length % blockSize = (content.drop blockSize).length % blockSize := by
          rw [left, Nat.mod_eq_sub_mod full]
        have within : blocks + 1 ≤ total := by
          rw [← split, step]
          exact Nat.add_le_add_left (Nat.le_add_left ..) blocks
        have now : (blocks + 1) / stride ≤ 127 := (Nat.div_le_div_right within).trans small
        rw [if_pos whole, count_block_counted tenth now] at goesOn
        obtain ⟨later, next, rfl⟩ := Option.map_eq_some_iff.mp goesOn
        have printed := ih (by omega) next
        rw [step, rest, List.range'_succ, List.flatMap_cons, printed, whole]
        simp
      · have partly : ¬(content.take blockSize).length = blockSize := by omega
        rw [if_neg partly] at goesOn
        obtain rfl := Option.some.inj goesOn
        have none : content.length / blockSize = 0 := Nat.div_eq_of_lt (by omega)
        have rest : content.length % blockSize = content.length := Nat.mod_eq_of_lt (by omega)
        rw [none, rest, taken, min_eq_right (by omega)]
        rfl

/-! ## What is shown -/

def percentage : Print → Option Int
  | .completion percent => some percent
  | _ => none

def percentages (printed : List Print) : List Int := printed.filterMap percentage

theorem tenths_bounded (size : Nat) : size / blockSize / tenth size ≤ 127 := by
  unfold tenth
  generalize size / blockSize = blocks
  rcases Nat.eq_zero_or_pos ((blocks + 1) / 10) with zero | positive
  · simp [zero]
  · have most : blocks ≤ 19 * ((blocks + 1) / 10) := by omega
    exact (Nat.div_le_of_le_mul (by rwa [Nat.mul_comm] at most)).trans (by decide)

theorem file_count_tenth (size : Nat) (small : size < 2 ^ 31 - 512) :
    (toInt (((toInt size).tdiv blockSize + 1) * blockSize)).tdiv 5120 = tenth size := by
  have count : toInt size = size := Int.bmod_eq_of_le (by omega) (by omega)
  have whole : ((size : Int).tdiv blockSize + 1) * blockSize = ((size / 512 + 1) * 512 : Nat) := by
    push_cast
    rfl
  have rounded : toInt ((size / 512 + 1) * 512 : Nat) = ((size / 512 + 1) * 512 : Nat) :=
    Int.bmod_eq_of_le (by omega) (by omega)
  have tenths : (((size / 512 + 1) * 512 : Nat) : Int).tdiv 5120 =
      ((size / 512 + 1) * 512 / 5120 : Nat) := rfl
  rw [count, whole, rounded, tenths, tenth, show 5120 = 512 * 10 from rfl,
    ← Nat.div_div_eq_div_mul, Nat.mul_div_cancel _ (by decide)]
  rfl

/-- What a transfer prints is said by the size of the file, whatever the line accepts. -/
theorem transfer_prints_report {content : List Byte} {fd : Int} {date : List Byte}
    {results : List WriteResult} {returned : Int} {transfer : Transfer}
    (small : content.length < 2 ^ 31 - 512)
    (returns : ttyWriteFile (some content) fd date results = some (returned, transfer)) :
      transfer.printed = progressReport content.length date := by
  obtain ⟨sent, looped, same⟩ := Option.map_eq_some_iff.mp returns
  obtain ⟨_, rfl⟩ := Prod.mk.inj same
  have count : toInt content.length = content.length := Int.bmod_eq_of_le (by omega) (by omega)
  have start : counted (tenth content.length) 0 = ⟨0, 0⟩ := by simp [counted]
  rw [← start] at looped
  have printed := block_loop_prints (file_count_tenth _ small) (tenths_bounded _) (Nat.zero_add _)
    looped
  simp [progressReport, printed, count]

theorem flatMap_bounded {α : Type*} (bound count : Nat) (shown : Nat → α) :
    ((List.range' 1 count).flatMap fun k => if k ≤ bound then [shown k] else []) =
      (List.range' 1 (min bound count)).map shown := by
  induction count with
  | zero => simp
  | succ count ih =>
      rw [List.range'_1_concat, List.flatMap_append, ih, List.flatMap_singleton, Nat.add_comm 1]
      by_cases inside : count + 1 ≤ bound
      · rw [if_pos inside, min_eq_right inside, min_eq_right (by omega), List.range'_1_concat,
          List.map_append, Nat.add_comm 1]
        rfl
      · rw [if_neg inside, min_eq_left (by omega), min_eq_left (by omega), List.append_nil]

theorem percentages_report (size : Nat) (date : List Byte) :
    percentages (progressReport size date) =
      (List.range' 1 (min 9 (size / blockSize / tenth size))).map (fun k : Nat => (k * 10 : Int)) ++
        [100] := by
  have block : ∀ block,
      (Print.read blockSize :: shownAfter (tenth size) block).filterMap percentage =
      if tenth size ∣ block then
        if block / tenth size ≤ 9 then [((block / tenth size : Nat) * 10 : Int)] else []
      else [] := by
    intro block
    unfold shownAfter
    split
    · split <;> rfl
    · rfl
  rw [← flatMap_bounded, ← flatMap_strides (tenth size)]
  simp only [percentages, progressReport, List.filterMap_append, List.filterMap_cons, percentage,
    List.filterMap_nil, List.filterMap_flatMap, ← block]

theorem shown_ahead {size block : Nat} {percent : Int}
    (shown : .completion percent ∈ shownAfter (tenth size) block) :
      100 * block ≤ percent * (size / blockSize + 1 : Nat) := by
  unfold shownAfter at shown
  split at shown
  · next divides =>
      obtain ⟨tens, rfl⟩ := divides
      split at shown
      · obtain rfl := Print.completion.inj (List.mem_singleton.mp shown)
        have tenths : 10 * tenth size ≤ size / blockSize + 1 := Nat.mul_div_le _ 10
        have scaled := Nat.mul_le_mul_left (10 * tens) tenths
        rcases Nat.eq_zero_or_pos (tenth size) with zero | positive
        · simp [zero]
        · rw [Nat.mul_div_cancel_left _ positive]
          exact_mod_cast (show 100 * (tenth size * tens) ≤ tens * 10 * (size / blockSize + 1) by
            calc 100 * (tenth size * tens) = 10 * tens * (10 * tenth size) := by ring
              _ ≤ 10 * tens * (size / blockSize + 1) := scaled
              _ = tens * 10 * (size / blockSize + 1) := by ring)
      · simp at shown
  · simp at shown

/-- What a transfer prints depends on the size of the file alone. It shows the first nine
multiples of ten percent as far as the blocks reach, each after a tenth more of them, and
100 at the end; a percentage is never smaller than the share of the blocks that is out. -/
theorem progress_runs_ahead {content : List Byte} {fd : Int} {date : List Byte}
    {results : List WriteResult} {returned : Int} {transfer : Transfer}
    (small : content.length < 2 ^ 31 - 512)
    (returns : ttyWriteFile (some content) fd date results = some (returned, transfer)) :
      transfer.printed = progressReport content.length date ∧
        percentages transfer.printed =
          (List.range' 1 (min 9 (content.length / blockSize / tenth content.length))).map
            (fun k : Nat => (k * 10 : Int)) ++ [100] ∧
          ∀ (block : Nat) (percent : Int),
            .completion percent ∈ shownAfter (tenth content.length) block →
            100 * block ≤ percent * (content.length / blockSize + 1 : Nat) := by
  have printed := transfer_prints_report small returns
  exact ⟨printed, printed ▸ percentages_report _ _, fun _ _ => shown_ahead⟩

theorem progress_runs_ahead_on_eighteen_blocks :
    ∃ transfer, ttyWriteFile (some (List.replicate 9216 0)) 3 []
        (List.replicate 9216 (.accepted 1)) = some (0, transfer) ∧
      percentages transfer.printed = [10, 20, 30, 40, 50, 60, 70, 80, 90, 100] ∧
        shownAfter (tenth 9216) 9 = [.completion 90] := by
  obtain ⟨transfer, returns⟩ := transfer_returns (List.replicate 9216 0) 3 []
    (List.replicate 9216 (.accepted 1))
    (fun result member => ⟨0, List.eq_of_mem_replicate member⟩)
    (by rw [List.length_replicate, List.length_replicate])
  have ahead := progress_runs_ahead (by rw [List.length_replicate]; decide) returns
  rw [List.length_replicate] at ahead
  exact ⟨transfer, returns, ahead.2.1.trans (by decide), by decide⟩

end GlRs485.TransferProgress
