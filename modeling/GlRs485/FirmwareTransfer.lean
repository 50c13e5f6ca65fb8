import GlRs485.Foundation.CBytes
import GlRs485.Foundation.CIntegers

/-!
# The firmware transfer: `tty_write_file` and `MyuartTx`

The file goes out in blocks of 512 bytes, and a block that is not full is the
last. `MyuartTx` sends the rest after a short count and tries again on `EAGAIN`;
its result on any other error, or on a port that did not open, is not looked at.
The outcomes of `write` are a list that is consumed from the left.
-/

namespace GlRs485.FirmwareTransfer

open CBytes CIntegers

set_option autoImplicit false

/-- An outcome of `write`: the bytes it took, or -1 with `EAGAIN` or another error. -/
inductive WriteResult
  | accepted (count : Nat)
  | again
  | failed
  deriving DecidableEq

structure Transmission where
  returned : Int
  accepted : List Byte
  left : List WriteResult
  deriving DecidableEq

/-- `while (dataToWrite)`; `none` is a call that has not returned after these outcomes. -/
def myuartTxLoop : List Byte → List WriteResult → Option Transmission
  | [], results => some ⟨0, [], results⟩
  | _ :: _, [] => none
  | byte :: rest, .again :: results => myuartTxLoop (byte :: rest) results
  | _ :: _, .failed :: results => some ⟨-1, [], results⟩
  | byte :: rest, .accepted count :: results =>
      (myuartTxLoop ((byte :: rest).drop count) results).map fun later =>
        { later with accepted := (byte :: rest).take count ++ later.accepted }

def myuartTx (serialHandle : Int) (data : List Byte) (results : List WriteResult) :
    Option Transmission :=
  if serialHandle = -1 then some ⟨-1, [], results⟩ else myuartTxLoop data results

inductive Print
  | openError
  | fileSize (fileCount : Int)
  | read (readCount : Nat)
  | completion (percent : Int)
  | updateCompleted (date : List Byte)
  deriving DecidableEq

structure Progress where
  upCont : Int
  completion : Int

/-- What is counted and printed after a full block. -/
def countBlock (fileCount : Int) (progress : Progress) : Progress × List Print :=
  let upCont := progress.upCont + 1
  if upCont = fileCount.tdiv 5120 then
    let completion := toChar (progress.completion + 1)
    (⟨0, completion⟩, if completion ≤ 9 then [.completion (completion * 10)] else [])
  else (⟨upCont, progress.completion⟩, [])

structure Transfer where
  printed : List Print
  written : List Byte
  left : List WriteResult
  deriving DecidableEq

def blockSize : Nat := 512

/-- The loop over the blocks of a file of which `content` is still unread. -/
def blockLoop (fd fileCount : Int) :
    Nat → List Byte → Progress → List WriteResult → Option Transfer
  | 0, _, _, _ => none
  | fuel + 1, content, progress, results =>
      let txBuf := content.take blockSize
      (myuartTx fd txBuf results).bind fun transmission =>
        if txBuf.length = blockSize then
          let counted := countBlock fileCount progress
          (blockLoop fd fileCount fuel (content.drop blockSize) counted.1 transmission.left).map
            fun later =>
              { later with
                printed := .read txBuf.length :: (counted.2 ++ later.printed)
                written := transmission.accepted ++ later.written }
        else
          some ⟨[.read txBuf.length, .completion 100], transmission.accepted, transmission.left⟩

/-- `file` is what `fopen` finds, `fd` what `uartOpen` returned. -/
def ttyWriteFile (file : Option (List Byte)) (fd : Int) (date : List Byte)
    (results : List WriteResult) : Option (Int × Transfer) :=
  match file with
  | none => some (-1, ⟨[.openError], [], results⟩)
  | some content =>
      let fileCount := toInt content.length
      let rounded := toInt ((fileCount.tdiv blockSize + 1) * blockSize)
      (blockLoop fd rounded (content.length / blockSize + 1) content ⟨0, 0⟩ results).map
        fun transfer =>
          (0, { transfer with
            printed := .fileSize fileCount :: (transfer.printed ++ [.updateCompleted date]) })

/-- A call consumed its outcomes from the left, and it sent its data whole exactly
when none of them was an error and there was a port to send to. -/
def Accounts (fd : Int) (data written : List Byte) (results left : List WriteResult) : Prop :=
  ∃ used, results = used ++ left ∧ written.length ≤ data.length ∧
    (written = data ↔ .failed ∉ used ∧ (fd ≠ -1 ∨ data = []))

theorem accounts_nothing (fd : Int) (results : List WriteResult) :
    Accounts fd [] [] results results :=
  ⟨[], rfl, le_refl _, by simp⟩

theorem accounts_append (fd : Int) (first second sent sentAfter : List Byte)
    (results between left : List WriteResult) (before : Accounts fd first sent results between)
    (after : Accounts fd second sentAfter between left) :
      Accounts fd (first ++ second) (sent ++ sentAfter) results left := by
  obtain ⟨used, split, short, whole⟩ := before
  obtain ⟨usedAfter, splitAfter, shortAfter, wholeAfter⟩ := after
  have together : sent ++ sentAfter = first ++ second ↔ sent = first ∧ sentAfter = second := by
    constructor
    · intro same
      have total := congrArg List.length same
      simp only [List.length_append] at total
      exact List.append_inj same (by omega)
    · rintro ⟨rfl, rfl⟩
      rfl
  refine ⟨used ++ usedAfter, ?_, ?_, ?_⟩
  · rw [split, splitAfter, List.append_assoc]
  · simp only [List.length_append]
    omega
  · rw [together, whole, wholeAfter, List.mem_append, not_or, List.append_eq_nil_iff, or_and_left,
      and_and_and_comm]

theorem tx_loop_accounts (fd : Int) (port : fd ≠ -1) (data : List Byte)
    (results : List WriteResult) (transmission : Transmission)
    (returns : myuartTxLoop data results = some transmission) :
      Accounts fd data transmission.accepted results transmission.left := by
  induction results generalizing data transmission with
  | nil =>
      cases data with
      | nil =>
          obtain rfl := Option.some.inj returns
          exact accounts_nothing fd []
      | cons byte rest => cases returns
  | cons result results ih =>
      cases data with
      | nil =>
          obtain rfl := Option.some.inj returns
          exact accounts_nothing fd _
      | cons byte rest =>
          cases result with
          | again =>
              obtain ⟨used, split, short, whole⟩ := ih (byte :: rest) transmission returns
              refine ⟨.again :: used, by rw [split, List.cons_append], short, ?_⟩
              rw [whole]
              simp
          | failed =>
              obtain rfl := Option.some.inj returns
              exact ⟨[.failed], rfl, Nat.zero_le _, by simp⟩
          | accepted count =>
              rw [myuartTxLoop, Option.map_eq_some_iff] at returns
              obtain ⟨later, goesOn, rfl⟩ := returns
              have now : Accounts fd ((byte :: rest).take count) ((byte :: rest).take count)
                  (.accepted count :: results) results :=
                ⟨[.accepted count], rfl, le_refl _, by simp [port]⟩
              have sent := accounts_append fd _ _ _ _ _ _ _ now (ih _ later goesOn)
              rw [List.take_append_drop] at sent
              exact sent

theorem myuart_tx_accounts (fd : Int) (data : List Byte) (results : List WriteResult)
    (transmission : Transmission) (returns : myuartTx fd data results = some transmission) :
      Accounts fd data transmission.accepted results transmission.left := by
  unfold myuartTx at returns
  split at returns
  · next unopened =>
      obtain rfl := Option.some.inj returns
      refine ⟨[], rfl, Nat.zero_le _, ?_⟩
      simp [unopened, eq_comm]
  · next port => exact tx_loop_accounts fd port data results transmission returns

theorem block_loop_accounts (fd fileCount : Int) (fuel : Nat) (content : List Byte)
    (progress : Progress) (results : List WriteResult) (transfer : Transfer)
    (returns : blockLoop fd fileCount fuel content progress results = some transfer) :
      Accounts fd content transfer.written results transfer.left := by
  induction fuel generalizing content progress results transfer with
  | zero => cases returns
  | succ fuel ih =>
      rw [blockLoop, Option.bind_eq_some_iff] at returns
      obtain ⟨transmission, sent, goesOn⟩ := returns
      have now := myuart_tx_accounts fd _ results transmission sent
      split at goesOn
      · obtain ⟨later, next, rfl⟩ := Option.map_eq_some_iff.mp goesOn
        have whole := accounts_append fd _ _ _ _ _ _ _ now (ih _ _ _ later next)
        rw [List.take_append_drop] at whole
        exact whole
      · next partly =>
          obtain rfl := Option.some.inj goesOn
          have last : content.take blockSize = content := by
            rw [List.length_take] at partly
            exact List.take_of_length_le (by omega)
          rw [last] at now
          exact now

def Progressing (results : List WriteResult) : Prop :=
  ∀ result ∈ results, ∃ count, result = .accepted (count + 1)

theorem progressing_after {used left : List WriteResult} (progress : Progressing (used ++ left)) :
    Progressing left :=
  fun result member => progress result (List.mem_append_right used member)

theorem tx_loop_returns (data : List Byte) (results : List WriteResult)
    (progress : Progressing results) (enough : data.length ≤ results.length) :
      ∃ transmission used, myuartTxLoop data results = some transmission ∧
        results = used ++ transmission.left ∧ used.length ≤ data.length := by
  induction results generalizing data with
  | nil =>
      have empty : data = [] := by simpa using enough
      exact ⟨⟨0, [], []⟩, [], by rw [empty]; rfl, rfl, Nat.zero_le _⟩
  | cons result results ih =>
      cases data with
      | nil => exact ⟨⟨0, [], result :: results⟩, [], rfl, rfl, le_refl _⟩
      | cons byte rest =>
          obtain ⟨count, rfl⟩ := progress result (by simp)
          have shorter : ((byte :: rest).drop (count + 1)).length ≤ rest.length := by simp
          obtain ⟨later, used, goesOn, split, short⟩ := ih _ 
            (fun other member => progress other (List.mem_cons_of_mem _ member))
            (shorter.trans (by simpa using enough))
          refine ⟨{ later with accepted := (byte :: rest).take (count + 1) ++ later.accepted },
            .accepted (count + 1) :: used, ?_, ?_, ?_⟩
          · rw [myuartTxLoop, goesOn, Option.map_some]
          · rw [split, List.cons_append]
          · simp only [List.length_cons]
            omega

theorem myuart_tx_returns (fd : Int) (data : List Byte) (results : List WriteResult)
    (progress : Progressing results) (enough : data.length ≤ results.length) :
      ∃ transmission used, myuartTx fd data results = some transmission ∧
        results = used ++ transmission.left ∧ used.length ≤ data.length := by
  unfold myuartTx
  split
  · exact ⟨_, [], rfl, rfl, Nat.zero_le _⟩
  · exact tx_loop_returns data results progress enough

theorem block_loop_returns (fd fileCount : Int) (fuel : Nat) (content : List Byte)
    (progress : Progress) (results : List WriteResult) (blocks : content.length / blockSize < fuel)
    (progressing : Progressing results) (enough : content.length ≤ results.length) :
      ∃ transfer, blockLoop fd fileCount fuel content progress results = some transfer := by
  induction fuel generalizing content progress results with
  | zero => exact absurd blocks (Nat.not_lt_zero _)
  | succ fuel ih =>
      have parts := congrArg List.length (List.take_append_drop blockSize content)
      rw [List.length_append] at parts
      obtain ⟨transmission, used, sent, split, short⟩ := myuart_tx_returns fd
        (content.take blockSize) results progressing (by omega)
      rw [blockLoop, sent, Option.bind_some]
      by_cases full : (content.take blockSize).length = blockSize
      · have remaining := congrArg List.length split
        rw [List.length_append] at remaining
        obtain ⟨later, goesOn⟩ := ih (content.drop blockSize) (countBlock fileCount progress).1
          transmission.left (by simp only [blockSize] at *; omega)
          (progressing_after (split ▸ progressing)) (by omega)
        rw [if_pos full]
        simp only [goesOn, Option.map_some]
        exact ⟨_, rfl⟩
      · rw [if_neg full]
        exact ⟨_, rfl⟩

/-- With as many advancing writes as the file has bytes the transfer comes to its end. -/
theorem transfer_returns (content : List Byte) (fd : Int) (date : List Byte)
    (results : List WriteResult) (progressing : Progressing results)
    (enough : content.length ≤ results.length) :
      ∃ transfer, ttyWriteFile (some content) fd date results = some (0, transfer) := by
  obtain ⟨transfer, looped⟩ := block_loop_returns fd
    (toInt (((toInt content.length).tdiv blockSize + 1) * blockSize))
    (content.length / blockSize + 1) content ⟨0, 0⟩ results (Nat.lt_succ_self _) progressing enough
  exact ⟨_, by rw [ttyWriteFile, looped, Option.map_some]⟩

/-- The messages and the result of a transfer that went through. -/
def ReportsComplete (returned : Int) (transfer : Transfer) : Prop :=
  returned = 0 ∧ ∃ date, .updateCompleted date ∈ transfer.printed

def Complete (file : Option (List Byte)) (transfer : Transfer) : Prop :=
  file = some transfer.written

/-- A transfer that is reported complete is so exactly when no write of it failed
and the port was open, unless there was nothing to send. -/
theorem complete_transfer_iff (file : Option (List Byte)) (fd : Int) (date : List Byte)
    (used left : List WriteResult) (returned : Int) (transfer : Transfer)
    (returns : ttyWriteFile file fd date (used ++ left) = some (returned, transfer))
    (consumed : transfer.left = left) :
      (ReportsComplete returned transfer → Complete file transfer) ↔
        file = none ∨ .failed ∉ used ∧ (fd ≠ -1 ∨ file = some []) := by
  cases file with
  | none =>
      obtain ⟨rfl, rfl⟩ := Prod.mk.inj (Option.some.inj returns)
      simp [ReportsComplete]
  | some content =>
      obtain ⟨sent, looped, same⟩ := Option.map_eq_some_iff.mp returns
      obtain ⟨rfl, rfl⟩ := Prod.mk.inj same
      have reported : ReportsComplete 0 { sent with
          printed := .fileSize (toInt content.length) ::
            (sent.printed ++ [.updateCompleted date]) } :=
        ⟨rfl, date, by simp⟩
      obtain ⟨spent, split, _, whole⟩ := block_loop_accounts fd _ _ content _ _ sent looped
      rw [consumed] at split
      obtain rfl := List.append_cancel_right split
      simp only [Complete, reported, true_implies, Option.some.injEq, reduceCtorEq, false_or]
      rw [eq_comm, whole]

theorem complete_transfer_iff_on_retries :
    (ReportsComplete 0 ⟨[.fileSize 3, .read 3, .completion 100, .updateCompleted []], ascii "abc",
          []⟩ →
        Complete (some (ascii "abc")) ⟨[.fileSize 3, .read 3, .completion 100,
          .updateCompleted []], ascii "abc", []⟩) ↔
      some (ascii "abc") = none ∨
        .failed ∉ [WriteResult.accepted 2, .again, .accepted 1] ∧
          ((5 : Int) ≠ -1 ∨ some (ascii "abc") = some []) :=
  complete_transfer_iff (some (ascii "abc")) 5 [] [.accepted 2, .again, .accepted 1] [] 0 _
    (by decide +kernel) rfl

/-- A write error after two bytes, and a port that did not open, are reported as a full update. -/
theorem lost_bytes_are_reported_complete :
    (∃ transfer, ttyWriteFile (some (ascii "abc")) 5 [] [.accepted 2, .failed] =
        some (0, transfer) ∧ ReportsComplete 0 transfer ∧ transfer.written = ascii "ab") ∧
      ∃ transfer, ttyWriteFile (some (ascii "abc")) (-1) [] [] = some (0, transfer) ∧
        ReportsComplete 0 transfer ∧ transfer.written = [] := by
  constructor
  · refine ⟨⟨[.fileSize 3, .read 3, .completion 100, .updateCompleted []], ascii "ab", []⟩,
      by decide +kernel, ⟨rfl, [], by simp⟩, rfl⟩
  · refine ⟨⟨[.fileSize 3, .read 3, .completion 100, .updateCompleted []], [], []⟩,
      by decide +kernel, ⟨rfl, [], by simp⟩, rfl⟩

end GlRs485.FirmwareTransfer
