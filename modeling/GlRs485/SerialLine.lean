import GlRs485.Foundation.CBytes
import GlRs485.Foundation.TracedSystem

/-!
# The serial line: `uart_posix.c`, `tty_read` and `tty_write`

The answers of the kernel and of the device are inputs. A list of answers is
consumed from the left; when it is used up, a read of the line times out and a
write accepts nothing more. The calls made on descriptors are recorded in order,
and what they do to descriptors and to the lock is a function of that record.
-/

namespace GlRs485.SerialLine

open CBytes TracedSystem

set_option autoImplicit false

/-- A result of `MyuartRxExpires`: the bytes it stored, none on a timeout, or -1. It answers
-1 also when the bytes are stored and only the settings cannot be put back. -/
inductive RxResult
  | failed (stored : List Byte)
  | data (bytes : List Byte)
  deriving DecidableEq

def RxResult.fails : RxResult → Bool
  | .failed _ => true
  | .data _ => false

def RxResult.stored : RxResult → List Byte
  | .failed stored => stored
  | .data bytes => bytes

def RxResult.size (result : RxResult) : Nat := result.stored.length

/-- `ret == 8` -/
def RxResult.goesOn : RxResult → Bool
  | .failed _ => false
  | .data bytes => bytes.length = 8

/-- A call on a serial descriptor. `sent` carries the bytes handed to
`MyuartTxNonBlocking` and the prefix that `write` accepted. -/
inductive LineEvent
  | opened (fd : Int)
  | locked (fd : Int) (obtained : Bool)
  | flushed (fd : Int)
  | sent (fd : Int) (offered accepted : List Byte)
  | received (fd : Int) (result : RxResult)
  | closed (fd : Int)
  deriving DecidableEq

/-- The bytes `MyuartTxNonBlocking` gets accepted, given the results of `write`:
it goes on after a short count and stops at 0 or -1. -/
def acceptedBytes : List Int → List Byte → List Byte
  | _, [] => []
  | [], _ :: _ => []
  | written :: results, byte :: rest =>
      if written ≤ 0 then []
      else (byte :: rest).take written.toNat ++
        acceptedBytes results ((byte :: rest).drop written.toNat)

/-- `MyuartTxNonBlocking` answers 0 whatever was accepted. -/
def myuartTxNonBlocking (fd : Int) (results : List Int) (data : List Byte) : Int × List LineEvent :=
  (0, [.sent fd data (acceptedBytes results data)])

/-- Tries to lock until the attempt succeeds or `time_out` exceeds 30; `fails`
is the number of attempts the kernel would refuse. -/
def flockLoop (fd : Int) : Nat → Nat → Bool × List LineEvent
  | 0, _ => (true, [.locked fd true])
  | fails + 1, timeOut =>
      if 30 < timeOut + 1 then (false, [.locked fd false])
      else
        let later := flockLoop fd fails (timeOut + 1)
        (later.1, .locked fd false :: later.2)

theorem flock_loop_obtains_iff (fd : Int) (fails timeOut : Nat) (within : timeOut ≤ 30) :
    (flockLoop fd fails timeOut).1 = true ↔ fails + timeOut ≤ 30 := by
  induction fails generalizing timeOut with
  | zero => simpa [flockLoop] using within
  | succ fails ih =>
      by_cases last : 30 < timeOut + 1
      · simp only [flockLoop, if_pos last, Bool.false_eq_true, false_iff]
        omega
      · simp only [flockLoop, if_neg last, ih (timeOut + 1) (by omega)]
        omega

theorem flock_loop_events (fd : Int) (fails timeOut : Nat) (event : LineEvent)
    (member : event ∈ (flockLoop fd fails timeOut).2) :
      ∃ obtained, event = .locked fd obtained := by
  induction fails generalizing timeOut with
  | zero => exact ⟨true, by simpa [flockLoop] using member⟩
  | succ fails ih =>
      by_cases last : 30 < timeOut + 1
      · exact ⟨false, by simpa [flockLoop, last] using member⟩
      · simp only [flockLoop, if_neg last, List.mem_cons] at member
        rcases member with first | later
        · exact ⟨false, first⟩
        · exact ih (timeOut + 1) later

/-- What the receive loop leaves: the buffer, the count, which a failing read
takes down by one, and the reads made. -/
structure Reception where
  buf : Buf
  count : Int
  events : List LineEvent

/-- `while (ret == 8)`: reads again exactly after eight bytes. -/
def receiveLoop (fd : Int) : List RxResult → Buf → Nat → Reception
  | [], buf, count => ⟨buf, count, [.received fd (.data [])]⟩
  | .failed stored :: _, buf, count =>
      ⟨store buf count stored, (count : Int) - 1, [.received fd (.failed stored)]⟩
  | .data bytes :: rest, buf, count =>
      if bytes.length = 8 then
        let later := receiveLoop fd rest (store buf count bytes) (count + 8)
        { later with events := .received fd (.data bytes) :: later.events }
      else
        ⟨store buf count bytes, (count : Int) + bytes.length, [.received fd (.data bytes)]⟩

theorem receive_loop_events (fd : Int) (results : List RxResult) (buf : Buf) (count : Nat)
    (event : LineEvent) (member : event ∈ (receiveLoop fd results buf count).events) :
      ∃ result, event = .received fd result := by
  induction results generalizing buf count with
  | nil => exact ⟨.data [], by simpa [receiveLoop] using member⟩
  | cons first rest ih =>
      cases first with
      | failed stored => exact ⟨.failed stored, by simpa [receiveLoop] using member⟩
      | data bytes =>
          by_cases eight : bytes.length = 8
          · simp only [receiveLoop, if_pos eight, List.mem_cons] at member
            rcases member with now | later
            · exact ⟨.data bytes, now⟩
            · exact ih _ _ later
          · exact ⟨.data bytes, by simpa [receiveLoop, eight] using member⟩

section Unseen

variable {Seen : Type*}

theorem locks_filterMap (see : LineEvent → Option Seen)
    (unseen : ∀ fd obtained, see (.locked fd obtained) = none) (fd : Int) (fails timeOut : Nat) :
      (flockLoop fd fails timeOut).2.filterMap see = [] := by
  rw [List.filterMap_eq_nil_iff]
  intro event member
  obtain ⟨obtained, rfl⟩ := flock_loop_events fd fails timeOut event member
  exact unseen fd obtained

theorem locks_flatMap (see : LineEvent → List Seen)
    (unseen : ∀ fd obtained, see (.locked fd obtained) = []) (fd : Int) (fails timeOut : Nat) :
      (flockLoop fd fails timeOut).2.flatMap see = [] := by
  rw [List.flatMap_eq_nil_iff]
  intro event member
  obtain ⟨obtained, rfl⟩ := flock_loop_events fd fails timeOut event member
  exact unseen fd obtained

theorem reads_filterMap (see : LineEvent → Option Seen)
    (unseen : ∀ fd result, see (.received fd result) = none) (fd : Int) (results : List RxResult)
    (buf : Buf) (count : Nat) : (receiveLoop fd results buf count).events.filterMap see = [] := by
  rw [List.filterMap_eq_nil_iff]
  intro event member
  obtain ⟨result, rfl⟩ := receive_loop_events fd results buf count event member
  exact unseen fd result

end Unseen

def lineData : LineEvent → List Byte
  | .received _ (.data bytes) => bytes
  | _ => []

/-- Without a failing read the loop appends what it reads. -/
theorem receive_loop_stores (fd : Int) (results : List RxResult) (buf : Buf) (count : Nat)
    (noneFailed : ∀ result ∈ results, result.fails = false) :
      (receiveLoop fd results buf count).count =
          count + ((receiveLoop fd results buf count).events.flatMap lineData).length ∧
        cells (receiveLoop fd results buf count).buf
            (count + ((receiveLoop fd results buf count).events.flatMap lineData).length) =
          cells buf count ++ (receiveLoop fd results buf count).events.flatMap lineData := by
  induction results generalizing buf count with
  | nil => simp [receiveLoop, lineData]
  | cons first rest ih =>
      cases first with
      | failed stored => simp [RxResult.fails] at noneFailed
      | data bytes =>
          have stored := cells_store buf count bytes
          by_cases eight : bytes.length = 8
          · have goesOn : receiveLoop fd (.data bytes :: rest) buf count =
                { receiveLoop fd rest (store buf count bytes) (count + 8) with
                  events := .received fd (.data bytes) ::
                    (receiveLoop fd rest (store buf count bytes) (count + 8)).events } :=
              if_pos eight
            obtain ⟨counted, kept⟩ :=
              ih (store buf count bytes) (count + 8) (List.forall_mem_cons.mp noneFailed).2
            rw [eight] at stored
            rw [stored, List.append_assoc, Nat.add_assoc] at kept
            rw [goesOn]
            simp only [List.flatMap_cons, lineData, List.length_append, eight]
            refine ⟨?_, kept⟩
            rw [counted]
            omega
          · simp [receiveLoop, eight, lineData, stored]

def ttyRead (fd : Int) (results : List RxResult) (buf : Buf) : Reception :=
  receiveLoop fd results buf 0

/-- `tty_write`: -1 on a negative descriptor, -2 after closing the descriptor on
a lock timeout, otherwise the result of the transmission. No caller has 2^32 bytes, so the
length stays what it is as a `uint32_t` of `MyuartTxNonBlocking`. -/
def ttyWrite (fd : Int) (lockFails : Nat) (results : List Int) (data : List Byte) :
    Int × List LineEvent :=
  if fd < 0 then (-1, [])
  else
    let lock := flockLoop fd lockFails 0
    if lock.1 then
      let transmission := myuartTxNonBlocking fd results data
      (if transmission.1 < 0 then -1 else transmission.1 + data.length,
        lock.2 ++ .flushed fd :: transmission.2)
    else (-2, lock.2 ++ [.closed fd])

/-- A write either fails before the line is touched or hands over all its bytes. -/
theorem tty_write_cases (fd : Int) (lockFails : Nat) (results : List Int) (data : List Byte) :
    (fd < 0 ∧ ttyWrite fd lockFails results data = (-1, [])) ∨
    (0 ≤ fd ∧ 30 < lockFails ∧
      ttyWrite fd lockFails results data = (-2, (flockLoop fd lockFails 0).2 ++ [.closed fd])) ∨
    (0 ≤ fd ∧ lockFails ≤ 30 ∧ ttyWrite fd lockFails results data =
      ((data.length : Int), (flockLoop fd lockFails 0).2 ++
        [.flushed fd, .sent fd data (acceptedBytes results data)])) := by
  have obtains := flock_loop_obtains_iff fd lockFails 0 (by omega)
  by_cases negative : fd < 0
  · exact Or.inl ⟨negative, by simp [ttyWrite, negative]⟩
  · by_cases busy : 30 < lockFails
    · have refused : (flockLoop fd lockFails 0).1 = false := by
        rw [← Bool.not_eq_true, obtains]
        omega
      exact Or.inr (Or.inl ⟨by omega, busy, by simp [ttyWrite, negative, refused]⟩)
    · have obtained : (flockLoop fd lockFails 0).1 = true := obtains.mpr (by omega)
      exact Or.inr (Or.inr ⟨by omega, by omega,
        by simp [ttyWrite, negative, obtained, myuartTxNonBlocking]⟩)

theorem tty_write_obtained (fd : Int) (lockFails : Nat) (results : List Int) (data : List Byte)
    (port : 0 ≤ fd) (locked : lockFails ≤ 30) :
      ttyWrite fd lockFails results data =
        ((data.length : Int), (flockLoop fd lockFails 0).2 ++
          [.flushed fd, .sent fd data (acceptedBytes results data)]) := by
  rcases tty_write_cases fd lockFails results data with
    ⟨negative, _⟩ | ⟨_, busy, _⟩ | ⟨_, _, outcome⟩
  · omega
  · omega
  · exact outcome

theorem accepted_bytes_whole (results : List Int) (data : List Byte)
    (progress : ∀ written ∈ results, 0 < written) (enough : data.length ≤ results.length) :
      acceptedBytes results data = data := by
  induction results generalizing data with
  | nil =>
      have empty : data = [] := by simpa using enough
      simp [empty, acceptedBytes]
  | cons written results ih =>
      cases data with
      | nil => rfl
      | cons byte rest =>
          have positive := progress written (by simp)
          have remaining : ((byte :: rest).drop written.toNat).length ≤ results.length := by
            simp only [List.length_drop, List.length_cons] at enough ⊢
            omega
          rw [acceptedBytes, if_neg (by omega),
            ih _ (fun other member => progress other (by simp [member])) remaining,
            List.take_append_drop]

/-- The serial part of the process's descriptor table and the lock on the device.
Every `open` makes a new open file description; a lock belongs to one. -/
structure PortTable where
  fds : Int → Option Nat
  openings : Nat
  holder : Option Nat

namespace PortTable

def openAt (ports : PortTable) (fd : Int) : PortTable :=
  { ports with
    fds := fun other => if other = fd then some ports.openings else ports.fds other
    openings := ports.openings + 1 }

/-- Closing the only descriptor of a description gives its lock back. -/
def closeAt (ports : PortTable) (fd : Int) : PortTable :=
  { ports with
    fds := fun other => if other = fd then none else ports.fds other
    holder := if ports.fds fd = ports.holder then none else ports.holder }

@[simp] theorem openAt_same (ports : PortTable) (fd : Int) :
    (ports.openAt fd).fds fd = some ports.openings := if_pos rfl

theorem openAt_other (ports : PortTable) (fd other : Int) (different : other ≠ fd) :
    (ports.openAt fd).fds other = ports.fds other := if_neg different

@[simp] theorem closeAt_same (ports : PortTable) (fd : Int) :
    (ports.closeAt fd).fds fd = none := if_pos rfl

theorem closeAt_other (ports : PortTable) (fd other : Int) (different : other ≠ fd) :
    (ports.closeAt fd).fds other = ports.fds other := if_neg different

/-- `flock` with `LOCK_EX | LOCK_NB` would succeed. -/
def lockable (ports : PortTable) (fd : Int) : Bool :=
  match ports.fds fd with
  | none => false
  | some description => ports.holder = none || ports.holder = some description

def apply (ports : PortTable) : LineEvent → PortTable
  | .opened fd => ports.openAt fd
  | .locked fd true => { ports with holder := ports.fds fd }
  | .closed fd => ports.closeAt fd
  | _ => ports

theorem lockable_opened {ports : PortTable} {fd : Int} (lock : ports.lockable fd = true) :
    ports.fds fd ≠ none := by
  intro closed
  simp [lockable, closed] at lock

theorem lockable_locked (ports : PortTable) (fd : Int) (lock : ports.lockable fd = true) :
    (ports.apply (.locked fd true)).lockable fd = true := by
  cases port : ports.fds fd with
  | none => exact absurd port (lockable_opened lock)
  | some description => simp [lockable, apply, port]

end PortTable

theorem tty_read_ports (fd : Int) (results : List RxResult) (buf : Buf) (ports : PortTable) :
    (ttyRead fd results buf).events.foldl PortTable.apply ports = ports := by
  apply notes_unchanged
  intro call reading
  obtain ⟨result, shown⟩ := receive_loop_events fd results buf 0 call reading
  rw [shown]
  rfl

theorem flock_loop_refused (fd : Int) (fails timeOut : Nat) (busy : 30 < fails + timeOut)
    (within : timeOut ≤ 30) (ports : PortTable) :
      (flockLoop fd fails timeOut).2.foldl PortTable.apply ports = ports := by
  induction fails generalizing timeOut with
  | zero => omega
  | succ fails ih =>
      by_cases last : 30 < timeOut + 1
      · rw [flockLoop, if_pos last]
        rfl
      · rw [flockLoop, if_neg last]
        exact ih (timeOut + 1) (by omega) (by omega)

theorem tty_write_at_once (fd : Int) (results : List Int) (data : List Byte) (port : 0 ≤ fd) :
    (ttyWrite fd 0 results data).2 =
      [.locked fd true, .flushed fd, .sent fd data (acceptedBytes results data)] := by
  rw [tty_write_obtained fd 0 results data port (by omega)]
  rfl

theorem tty_write_refused (fd : Int) (lockFails : Nat) (results : List Int) (data : List Byte)
    (busy : 30 < lockFails) (ports : PortTable) :
      (ttyWrite fd lockFails results data).2.foldl PortTable.apply ports = ports ∨
        (ttyWrite fd lockFails results data).2.foldl PortTable.apply ports = ports.closeAt fd := by
  rcases tty_write_cases fd lockFails results data with
    ⟨_, outcome⟩ | ⟨_, _, outcome⟩ | ⟨_, free, _⟩
  · exact Or.inl (by rw [outcome]; rfl)
  · have refused := flock_loop_refused fd lockFails 0 (by omega) (by omega) ports
    exact Or.inr (by rw [outcome, List.foldl_append, refused]; rfl)
  · omega

end GlRs485.SerialLine
