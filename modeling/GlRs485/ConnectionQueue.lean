import GlRs485.Foundation.CBytes
import GlRs485.Foundation.LinkedChain

/-!
# The connection queue: `queue.c` over the heap

A connection is a heap block. The memory keeps the blocks that `malloc` returned
and `free` has not taken back, oldest first; a read of any other block gives
whatever the heap holds there. The queue header is the triple of `queue_t`.
-/

namespace GlRs485.ConnectionQueue

open CBytes LinkedChain

set_option autoImplicit false

/-- The address of a block; a NULL pointer is `none`. -/
abbrev Ptr := Nat

inductive ConnState
  | header
  | rqstFunc
  | rqstNval
  | rqstTail
  | tty
  | resp
  deriving DecidableEq

structure Conn where
  prev : Option Ptr
  next : Option Ptr
  sd : Int
  state : ConnState
  timeout : Int
  buf : Buf

def bufSize : Nat := 262

/-- The heap, the live blocks and the queue header. `len` starts at 0 and is
only taken down when positive, so it never leaves the naturals. -/
structure QueueMem where
  heap : Ptr → Conn
  live : List Ptr
  beg : Option Ptr
  last : Option Ptr
  len : Nat

def modify (heap : Ptr → Conn) (block : Ptr) (change : Conn → Conn) : Ptr → Conn :=
  fun other => if other = block then change (heap block) else heap other

@[simp] theorem modify_same (heap : Ptr → Conn) (block : Ptr) (change : Conn → Conn) :
    modify heap block change block = change (heap block) := by
  simp [modify]

@[simp] theorem modify_other (heap : Ptr → Conn) (block : Ptr) (change : Conn → Conn)
    (other : Ptr) (different : other ≠ block) :
      modify heap block change other = heap other := by
  simp [modify, different]

def setNext (heap : Ptr → Conn) (block : Ptr) (target : Option Ptr) : Ptr → Conn :=
  modify heap block fun conn => { conn with next := target }

def setPrev (heap : Ptr → Conn) (block : Ptr) (target : Option Ptr) : Ptr → Conn :=
  modify heap block fun conn => { conn with prev := target }

@[simp] theorem setNext_next (heap : Ptr → Conn) (block other : Ptr) (target : Option Ptr) :
    (setNext heap block target other).next =
      if other = block then target else (heap other).next := by
  unfold setNext modify
  split <;> rfl

@[simp] theorem setNext_prev (heap : Ptr → Conn) (block other : Ptr) (target : Option Ptr) :
    (setNext heap block target other).prev = (heap other).prev := by
  unfold setNext modify
  split
  · next same => rw [same]
  · rfl

@[simp] theorem setPrev_prev (heap : Ptr → Conn) (block other : Ptr) (target : Option Ptr) :
    (setPrev heap block target other).prev =
      if other = block then target else (heap other).prev := by
  unfold setPrev modify
  split <;> rfl

@[simp] theorem setPrev_next (heap : Ptr → Conn) (block other : Ptr) (target : Option Ptr) :
    (setPrev heap block target other).next = (heap other).next := by
  unfold setPrev modify
  split
  · next same => rw [same]
  · rfl

def QueueMem.next (q : QueueMem) (conn : Ptr) : Option Ptr := (q.heap conn).next

def QueueMem.prev (q : QueueMem) (conn : Ptr) : Option Ptr := (q.heap conn).prev

def queueInit (q : QueueMem) : QueueMem :=
  { q with beg := none, last := none, len := 0 }

/-- `newconn` is the block `malloc` returned; its other fields stay as they are. -/
def queueNewElem (q : QueueMem) (newconn : Ptr) : QueueMem :=
  let heap := setPrev (setNext q.heap newconn none) newconn q.last
  match q.last with
  | some tail =>
      { heap := setNext heap tail (some newconn)
        live := q.live ++ [newconn]
        beg := q.beg
        last := some newconn
        len := q.len + 1 }
  | none =>
      { heap := heap
        live := q.live ++ [newconn]
        beg := some newconn
        last := some newconn
        len := q.len + 1 }

/-- The part of `queue_delete_elem` that looks at `conn->prev`. -/
def unlinkFront (q : QueueMem) (conn : Ptr) : QueueMem :=
  match q.prev conn with
  | none =>
      match q.beg.bind q.next with
      | some first => { q with beg := some first, heap := setPrev q.heap first none }
      | none => { q with beg := none }
  | some before => { q with heap := setNext q.heap before (q.next conn) }

/-- The part of `queue_delete_elem` that looks at `conn->next`. -/
def unlinkBack (q : QueueMem) (conn : Ptr) : QueueMem :=
  match q.next conn with
  | none =>
      match q.last.bind q.prev with
      | some tail => { q with last := some tail, heap := setNext q.heap tail none }
      | none => { q with last := none }
  | some after => { q with heap := setPrev q.heap after (q.prev conn) }

/-- `free(conn)` leaves `scrap` in the block. -/
def queueDeleteElem (q : QueueMem) (conn : Ptr) (scrap : Conn) : QueueMem :=
  if q.len = 0 then q
  else
    let unlinked := unlinkBack (unlinkFront q conn) conn
    { unlinked with
      heap := modify unlinked.heap conn fun _ => scrap
      live := unlinked.live.erase conn
      len := unlinked.len - 1 }

def queueNextElem (q : QueueMem) (conn : Ptr) : Option Ptr := circularNext q.next q.beg conn

structure SameContent (left right : Conn) : Prop where
  sd : left.sd = right.sd
  state : left.state = right.state
  timeout : left.timeout = right.timeout
  buf : left.buf = right.buf

theorem SameContent.refl (conn : Conn) : SameContent conn conn := ⟨rfl, rfl, rfl, rfl⟩

theorem SameContent.trans {first second third : Conn} (left : SameContent first second)
    (right : SameContent second third) : SameContent first third :=
  ⟨left.sd.trans right.sd, left.state.trans right.state, left.timeout.trans right.timeout,
    left.buf.trans right.buf⟩

theorem setNext_content (heap : Ptr → Conn) (block other : Ptr) (target : Option Ptr) :
    SameContent (setNext heap block target other) (heap other) := by
  unfold setNext modify
  split
  · next same => rw [same]; exact ⟨rfl, rfl, rfl, rfl⟩
  · exact .refl _

theorem setPrev_content (heap : Ptr → Conn) (block other : Ptr) (target : Option Ptr) :
    SameContent (setPrev heap block target other) (heap other) := by
  unfold setPrev modify
  split
  · next same => rw [same]; exact ⟨rfl, rfl, rfl, rfl⟩
  · exact .refl _

theorem queue_new_elem_content (q : QueueMem) (newconn other : Ptr) :
    SameContent ((queueNewElem q newconn).heap other) (q.heap other) := by
  have linked : SameContent (setPrev (setNext q.heap newconn none) newconn q.last other)
      (q.heap other) :=
    (setPrev_content _ _ _ _).trans (setNext_content _ _ _ _)
  unfold queueNewElem
  cases last : q.last with
  | none => simpa [last] using linked
  | some tail => simpa [last] using (setNext_content _ tail other _).trans linked

theorem unlink_front_content (q : QueueMem) (conn other : Ptr) :
    SameContent ((unlinkFront q conn).heap other) (q.heap other) := by
  unfold unlinkFront
  split
  · split
    · exact setPrev_content _ _ _ _
    · exact .refl _
  · exact setNext_content _ _ _ _

theorem unlink_back_content (q : QueueMem) (conn other : Ptr) :
    SameContent ((unlinkBack q conn).heap other) (q.heap other) := by
  unfold unlinkBack
  split
  · split
    · exact setNext_content _ _ _ _
    · exact .refl _
  · exact setPrev_content _ _ _ _

theorem queue_delete_elem_content (q : QueueMem) (conn : Ptr) (scrap : Conn) (other : Ptr)
    (different : other ≠ conn) :
      SameContent ((queueDeleteElem q conn scrap).heap other) (q.heap other) := by
  unfold queueDeleteElem
  split
  · exact .refl _
  · simp only [modify_other _ _ _ _ different]
    exact (unlink_back_content _ _ _).trans (unlink_front_content _ _ _)

/-- The queue is the doubly linked list of its live blocks, oldest first. -/
structure WellFormed (q : QueueMem) : Prop where
  linked : DoublyLinked q.next q.prev q.beg q.last q.live
  counted : q.len = q.live.length

theorem well_formed_of_links {q q' : QueueMem} (next : q'.next = q.next) (prev : q'.prev = q.prev)
    (beg : q'.beg = q.beg) (last : q'.last = q.last) (live : q'.live = q.live)
    (len : q'.len = q.len) (formed : WellFormed q) : WellFormed q' := by
  constructor
  · rw [next, prev, beg, last, live]
    exact formed.linked
  · rw [len, live]
    exact formed.counted

theorem queue_init_well_formed (q : QueueMem) (empty : q.live = []) :
    WellFormed (queueInit q) := by
  refine ⟨⟨?_, ?_, ?_⟩, ?_⟩ <;> simp [queueInit, empty, Segment]

@[simp] theorem queue_new_elem_live (q : QueueMem) (newconn : Ptr) :
    (queueNewElem q newconn).live = q.live ++ [newconn] := by
  unfold queueNewElem
  cases q.last <;> rfl

theorem queue_new_elem_next (q : QueueMem) (newconn other : Ptr) :
    (queueNewElem q newconn).next other =
      if q.last = some other then some newconn
      else if other = newconn then none else q.next other := by
  unfold queueNewElem QueueMem.next
  cases last : q.last with
  | none => simp
  | some tail => simp [eq_comm]

theorem queue_new_elem_prev (q : QueueMem) (newconn other : Ptr) :
    (queueNewElem q newconn).prev other = if other = newconn then q.last else q.prev other := by
  unfold queueNewElem QueueMem.prev
  cases last : q.last <;> simp

theorem queue_new_elem_well_formed (q : QueueMem) (newconn : Ptr) (formed : WellFormed q)
    (fresh : newconn ∉ q.live) : WellFormed (queueNewElem q newconn) := by
  have lastEq := formed.linked.last_eq
  have firstEq := formed.linked.first_eq
  refine ⟨⟨?_, ?_, ?_⟩, ?_⟩
  · rw [queue_new_elem_live]
    exact List.nodup_append.mpr ⟨formed.linked.distinct, by simp, by
      intro member inLive other isNew same
      rw [List.mem_singleton] at isNew
      exact fresh (isNew ▸ same ▸ inLive)⟩
  · rw [queue_new_elem_live]
    apply segment_push formed.linked.forward
    · unfold queueNewElem
      cases last : q.last with
      | none =>
          have empty : q.live = [] := List.getLast?_eq_none_iff.mp (lastEq ▸ last)
          simp [empty]
      | some tail =>
          have occupied : q.live ≠ [] := by
            intro empty
            rw [lastEq, empty] at last
            exact absurd last (by simp)
          simp [occupied]
    · intro node ends
      rw [queue_new_elem_next, if_pos (lastEq.trans ends)]
    · intro node member notLast
      have different : node ≠ newconn := fun same => fresh (same ▸ member)
      rw [queue_new_elem_next, if_neg (lastEq ▸ notLast), if_neg different]
    · exact formed.linked.distinct
    · have notLast : q.last ≠ some newconn := by
        intro same
        exact fresh (List.mem_of_getLast? (lastEq ▸ same))
      rw [queue_new_elem_next, if_neg notLast, if_pos rfl]
  · have last : (queueNewElem q newconn).last = some newconn := by
      unfold queueNewElem
      cases q.last <;> rfl
    rw [queue_new_elem_live, List.reverse_append, last]
    apply segment_cons formed.linked.backward
    · intro node member
      have different : node ≠ newconn := fun same => fresh (same ▸ List.mem_reverse.mp member)
      rw [queue_new_elem_prev, if_neg different]
    · rw [queue_new_elem_prev, if_pos rfl]
  · have len : (queueNewElem q newconn).len = q.len + 1 := by
      unfold queueNewElem
      cases q.last <;> rfl
    rw [len, queue_new_elem_live, formed.counted, List.length_append, List.length_singleton]

theorem unlink_front_next (q : QueueMem) (conn other : Ptr) :
    (unlinkFront q conn).next other =
      if q.prev conn = some other then q.next conn else q.next other := by
  unfold unlinkFront
  cases before : q.prev conn with
  | none =>
      dsimp only
      split <;> simp [QueueMem.next]
  | some node => simp [QueueMem.next, eq_comm]

theorem unlink_front_prev (q : QueueMem) (conn other : Ptr) :
    (unlinkFront q conn).prev other =
      if q.prev conn = none ∧ q.beg.bind q.next = some other then none else q.prev other := by
  unfold unlinkFront
  cases before : q.prev conn with
  | none =>
      dsimp only
      cases second : q.beg.bind q.next <;> simp [QueueMem.prev, eq_comm]
  | some node => simp [QueueMem.prev]

theorem unlink_front_beg (q : QueueMem) (conn : Ptr) :
    (unlinkFront q conn).beg = if q.prev conn = none then q.beg.bind q.next else q.beg := by
  unfold unlinkFront
  cases before : q.prev conn with
  | none =>
      dsimp only
      cases second : q.beg.bind q.next <;> rfl
  | some node => rfl

theorem unlink_front_last (q : QueueMem) (conn : Ptr) : (unlinkFront q conn).last = q.last := by
  unfold unlinkFront
  split
  · split <;> rfl
  · rfl

theorem unlink_back_next (q : QueueMem) (conn other : Ptr) :
    (unlinkBack q conn).next other =
      if q.next conn = none ∧ q.last.bind q.prev = some other then none else q.next other := by
  unfold unlinkBack
  cases after : q.next conn with
  | none =>
      dsimp only
      cases tail : q.last.bind q.prev <;> simp [QueueMem.next, eq_comm]
  | some node => simp [QueueMem.next]

theorem unlink_back_prev (q : QueueMem) (conn other : Ptr) :
    (unlinkBack q conn).prev other =
      if q.next conn = some other then q.prev conn else q.prev other := by
  unfold unlinkBack
  cases after : q.next conn with
  | none =>
      dsimp only
      split <;> simp [QueueMem.prev]
  | some node => simp [QueueMem.prev, eq_comm]

theorem unlink_back_beg (q : QueueMem) (conn : Ptr) : (unlinkBack q conn).beg = q.beg := by
  unfold unlinkBack
  split
  · split <;> rfl
  · rfl

theorem unlink_back_last (q : QueueMem) (conn : Ptr) :
    (unlinkBack q conn).last = if q.next conn = none then q.last.bind q.prev else q.last := by
  unfold unlinkBack
  cases after : q.next conn with
  | none =>
      dsimp only
      cases tail : q.last.bind q.prev <;> rfl
  | some node => rfl

theorem unlink_front_rest (q : QueueMem) (conn : Ptr) :
    (unlinkFront q conn).live = q.live ∧ (unlinkFront q conn).len = q.len := by
  unfold unlinkFront
  split
  · split <;> exact ⟨rfl, rfl⟩
  · exact ⟨rfl, rfl⟩

theorem unlink_back_rest (q : QueueMem) (conn : Ptr) :
    (unlinkBack q conn).live = q.live ∧ (unlinkBack q conn).len = q.len := by
  unfold unlinkBack
  split
  · split <;> exact ⟨rfl, rfl⟩
  · exact ⟨rfl, rfl⟩

theorem unlink_live (q : QueueMem) (conn : Ptr) :
    (unlinkBack (unlinkFront q conn) conn).live = q.live :=
  (unlink_back_rest (unlinkFront q conn) conn).1.trans (unlink_front_rest q conn).1

theorem unlink_len (q : QueueMem) (conn : Ptr) :
    (unlinkBack (unlinkFront q conn) conn).len = q.len :=
  (unlink_back_rest (unlinkFront q conn) conn).2.trans (unlink_front_rest q conn).2

theorem unlink_front_own (q : QueueMem) (front back : List Ptr) (conn : Ptr)
    (formed : WellFormed q) (split : q.live = front ++ conn :: back) :
      (unlinkFront q conn).next conn = q.next conn ∧
        (unlinkFront q conn).prev conn = q.prev conn := by
  have linked := formed.linked
  rw [split] at linked
  have prevConn : q.prev conn = front.getLast? := linked.prev_eq
  have notOwnPrev : front.getLast? ≠ some conn := by
    intro own
    have member := List.mem_of_getLast? own
    exact middle_not_mem linked.distinct (by simp [member])
  constructor
  · rw [unlink_front_next, prevConn, if_neg notOwnPrev]
  · rw [unlink_front_prev]
    by_cases none : q.prev conn = none
    · rw [none, ite_self]
    · rw [if_neg (fun both => none both.1)]

theorem head_leads_to (q : QueueMem) (back : List Ptr) (conn : Ptr) (formed : WellFormed q)
    (first : q.live = conn :: back) : q.beg.bind q.next = q.next conn := by
  have linked := formed.linked
  rw [first] at linked
  have begEq : q.beg = (conn :: back).head? := linked.first_eq
  rw [begEq]
  rfl

theorem tail_leads_to (q : QueueMem) (front : List Ptr) (conn : Ptr) (formed : WellFormed q)
    (last : q.live = front ++ [conn]) :
      (unlinkFront q conn).last.bind (unlinkFront q conn).prev = q.prev conn := by
  have linked := formed.linked
  rw [last] at linked
  have lastEq : q.last = (front ++ [conn]).getLast? := linked.last_eq
  rw [unlink_front_last, lastEq, List.getLast?_concat, Option.bind_some,
    (unlink_front_own q front [] conn formed last).2]

/-- Both pointer updates together, on a block whose neighbours are known. The
four cases of the source, first, last, only and middle, differ in which of the
two neighbours exist. -/
theorem unlink_links (q : QueueMem) (front back : List Ptr) (conn : Ptr)
    (formed : WellFormed q) (split : q.live = front ++ conn :: back) :
      let unlinked := unlinkBack (unlinkFront q conn) conn
      (∀ other, unlinked.next other =
        if front.getLast? = some other then q.next conn else q.next other) ∧
      (∀ other, other ≠ conn → unlinked.prev other =
        if back.head? = some other then q.prev conn else q.prev other) ∧
      unlinked.beg = (if front = [] then q.next conn else q.beg) ∧
      unlinked.last = (if back = [] then q.prev conn else q.last) := by
  have linked := formed.linked
  rw [split] at linked
  have nextConn : q.next conn = back.head? := linked.next_eq
  have prevConn : q.prev conn = front.getLast? := linked.prev_eq
  obtain ⟨nextKept, prevKept⟩ := unlink_front_own q front back conn formed split
  have first : front = [] → q.beg.bind q.next = q.next conn :=
    fun none => head_leads_to q back conn formed (by rw [split, none]; rfl)
  have tail : back = [] →
      (unlinkFront q conn).last.bind (unlinkFront q conn).prev = q.prev conn :=
    fun none => tail_leads_to q front conn formed (by rw [split, none])
  refine ⟨?_, ?_, ?_, ?_⟩
  · intro other
    rw [unlink_back_next, nextKept, unlink_front_next, prevConn]
    by_cases ends : q.next conn = none
    · have empty : back = [] := List.head?_eq_none_iff.mp (nextConn ▸ ends)
      rw [tail empty, prevConn, ends]
      by_cases before : front.getLast? = some other <;> simp [before]
    · rw [if_neg (fun both => ends both.1)]
  · intro other different
    rw [unlink_back_prev, nextKept, prevKept, unlink_front_prev, nextConn]
    by_cases after : back.head? = some other
    · rw [if_pos after, if_pos after]
    · rw [if_neg after, if_neg after]
      by_cases begins : front = []
      · rw [first begins, nextConn, if_neg (fun both => after both.2)]
      · have occupied : q.prev conn ≠ none := by
          rw [prevConn]
          exact fun none => begins (List.getLast?_eq_none_iff.mp none)
        rw [if_neg (fun both => occupied both.1)]
  · rw [unlink_back_beg, unlink_front_beg, prevConn]
    by_cases begins : front = []
    · rw [if_pos begins, if_pos (by rw [begins]; rfl), first begins]
    · rw [if_neg begins, if_neg (fun none => begins (List.getLast?_eq_none_iff.mp none))]
  · rw [unlink_back_last, nextKept, unlink_front_last, nextConn]
    by_cases ends : back = []
    · rw [if_pos ends, if_pos (by rw [ends]; rfl), ← unlink_front_last q conn, tail ends]
    · rw [if_neg ends, if_neg (fun none => ends (List.head?_eq_none_iff.mp none))]

theorem queue_delete_elem_live (q : QueueMem) (front back : List Ptr) (conn : Ptr) (scrap : Conn)
    (formed : WellFormed q) (split : q.live = front ++ conn :: back) :
      (queueDeleteElem q conn scrap).live = front ++ back := by
  have occupied : q.len ≠ 0 := by
    rw [formed.counted, split]
    simp
  have distinct := formed.linked.distinct
  rw [split] at distinct
  rw [queueDeleteElem, if_neg occupied]
  simp only [unlink_live, split]
  exact erase_middle distinct

theorem queue_delete_elem_links (q : QueueMem) (front back : List Ptr) (conn : Ptr)
    (scrap : Conn) (formed : WellFormed q) (split : q.live = front ++ conn :: back) :
      let removed := queueDeleteElem q conn scrap
      (∀ other ∈ front ++ back, removed.next other =
        if front.getLast? = some other then q.next conn else q.next other) ∧
      (∀ other ∈ front ++ back, removed.prev other =
        if back.head? = some other then q.prev conn else q.prev other) ∧
      removed.beg = (if front = [] then q.next conn else q.beg) ∧
      removed.last = (if back = [] then q.prev conn else q.last) := by
  have occupied : q.len ≠ 0 := by
    rw [formed.counted, split]
    simp
  obtain ⟨nexts, prevs, begs, lasts⟩ := unlink_links q front back conn formed split
  have distinct := formed.linked.distinct
  rw [split] at distinct
  have apart : ∀ other ∈ front ++ back, other ≠ conn := by
    intro other member same
    subst same
    exact middle_not_mem distinct member
  refine ⟨?_, ?_, ?_, ?_⟩
  · intro other member
    rw [← nexts, queueDeleteElem, if_neg occupied]
    simp only [QueueMem.next, modify_other _ _ _ _ (apart other member)]
  · intro other member
    rw [← prevs other (apart other member), queueDeleteElem, if_neg occupied]
    simp only [QueueMem.prev, modify_other _ _ _ _ (apart other member)]
  · rw [← begs, queueDeleteElem, if_neg occupied]
  · rw [← lasts, queueDeleteElem, if_neg occupied]

theorem queue_delete_elem_len (q : QueueMem) (front back : List Ptr) (conn : Ptr)
    (scrap : Conn) (formed : WellFormed q) (split : q.live = front ++ conn :: back) :
      (queueDeleteElem q conn scrap).len = (front ++ back).length := by
  have counted := formed.counted
  rw [split] at counted
  have occupied : q.len ≠ 0 := by
    rw [counted]
    simp
  have len : (queueDeleteElem q conn scrap).len = q.len - 1 := by
    rw [queueDeleteElem, if_neg occupied]
    simp only [unlink_len]
  rw [len, counted]
  simp only [List.length_append, List.length_cons]
  omega

/-- Deleting a listed block leaves the list without it, in the same order. -/
theorem queue_delete_elem_well_formed (q : QueueMem) (front back : List Ptr) (conn : Ptr)
    (scrap : Conn) (formed : WellFormed q) (split : q.live = front ++ conn :: back) :
      WellFormed (queueDeleteElem q conn scrap) := by
  have liveEq := queue_delete_elem_live q front back conn scrap formed split
  obtain ⟨nexts, prevs, begs, lasts⟩ :=
    queue_delete_elem_links q front back conn scrap formed split
  have linked := formed.linked
  rw [split] at linked
  refine ⟨⟨?_, ?_, ?_⟩, ?_⟩
  · rw [liveEq]
    have kept : (front ++ back).Sublist (front ++ conn :: back) :=
      List.Sublist.append (List.Sublist.refl front) (List.sublist_cons_self conn back)
    exact linked.distinct.sublist kept
  · rw [liveEq]
    apply segment_unlink linked.forward linked.distinct begs
    · intro other ends
      rw [nexts other (by simp [List.mem_of_getLast? ends]), if_pos ends]
    · intro other member notLast
      rw [nexts other member, if_neg notLast]
  · have backward := linked.backward
    have backwardDistinct : (front ++ conn :: back).reverse.Nodup :=
      (List.reverse_perm _).nodup_iff.mpr linked.distinct
    have reversed : (front ++ conn :: back).reverse = back.reverse ++ conn :: front.reverse := by
      simp
    rw [reversed] at backward backwardDistinct
    rw [liveEq, List.reverse_append]
    apply segment_unlink backward backwardDistinct
    · rw [lasts]
      simp
    · intro other begins
      rw [List.getLast?_reverse] at begins
      rw [prevs other (by simp [List.mem_of_head? begins]), if_pos begins]
    · intro other member notFirst
      rw [List.getLast?_reverse] at notFirst
      have listed : other ∈ front ++ back := by
        simp only [List.mem_append, List.mem_reverse] at member ⊢
        exact member.symm
      rw [prevs other listed, if_neg notFirst]
  · rw [queue_delete_elem_len q front back conn scrap formed split, liveEq]

/-- `len` applications of `queue_next_elem` from any element. -/
theorem queue_circuit (q : QueueMem) (front back : List Ptr) (conn : Ptr) (formed : WellFormed q)
    (split : q.live = front ++ conn :: back) :
      successive (queueNextElem q) q.len (some conn) = (back ++ front ++ [conn]).map some := by
  have linked := formed.linked
  rw [split] at linked
  rw [formed.counted, split]
  exact linked.circuit

theorem queue_next_elem_live (q : QueueMem) (conn : Ptr) (formed : WellFormed q)
    (listed : conn ∈ q.live) : ∃ after, queueNextElem q conn = some after ∧ after ∈ q.live := by
  obtain ⟨front, back, split⟩ := List.append_of_mem listed
  have linked := formed.linked
  rw [split] at linked
  unfold queueNextElem circularNext
  rw [linked.next_eq, linked.first_eq]
  cases back with
  | nil =>
      cases front with
      | nil => exact ⟨conn, rfl, listed⟩
      | cons entry front => exact ⟨entry, rfl, by simp [split]⟩
  | cons after back => exact ⟨after, rfl, by simp [split]⟩

/-- The queues the two operations build from an initialised, empty one. -/
inductive Built : QueueMem → Prop
  | init (q : QueueMem) (empty : q.live = []) : Built (queueInit q)
  | newElem (q : QueueMem) (newconn : Ptr) (built : Built q) (fresh : newconn ∉ q.live) :
      Built (queueNewElem q newconn)
  | deleteElem (q : QueueMem) (conn : Ptr) (scrap : Conn) (built : Built q)
      (listed : conn ∈ q.live) : Built (queueDeleteElem q conn scrap)

theorem built_well_formed (q : QueueMem) (built : Built q) : WellFormed q := by
  induction built with
  | init q empty => exact queue_init_well_formed q empty
  | newElem q newconn _ fresh ih => exact queue_new_elem_well_formed q newconn ih fresh
  | deleteElem q conn scrap _ listed ih =>
      obtain ⟨front, back, split⟩ := List.append_of_mem listed
      exact queue_delete_elem_well_formed q front back conn scrap ih split

/-- What the queue promises of its live blocks: each once, forwards in insertion
order and backwards in reverse; the count and the NULL ends agree; and going
round with `queue_next_elem` meets every block once and comes back. -/
structure ListsLive (q : QueueMem) : Prop where
  once : q.live.Nodup
  forward : Segment q.next q.beg q.live none
  backward : Segment q.prev q.last q.live.reverse none
  counted : q.len = q.live.length
  begNull : q.beg = none ↔ q.len = 0
  endNull : q.last = none ↔ q.len = 0
  circle : ∀ conn ∈ q.live, ∃ visited : List Ptr, visited.Perm q.live ∧
    visited.getLast? = some conn ∧
      successive (queueNextElem q) q.len (some conn) = visited.map some

theorem built_queue_lists_live (q : QueueMem) (built : Built q) : ListsLive q := by
  have formed := built_well_formed q built
  have first := formed.linked.first_eq
  have last := formed.linked.last_eq
  refine ⟨formed.linked.distinct, formed.linked.forward, formed.linked.backward,
    formed.counted, ?_, ?_, ?_⟩
  · rw [first, formed.counted, List.head?_eq_none_iff, List.length_eq_zero_iff]
  · rw [last, formed.counted, List.getLast?_eq_none_iff, List.length_eq_zero_iff]
  · intro conn listed
    obtain ⟨front, back, split⟩ := List.append_of_mem listed
    refine ⟨back ++ front ++ [conn], ?_, by simp, queue_circuit q front back conn formed split⟩
    rw [split, List.append_assoc]
    calc
      (back ++ (front ++ [conn])).Perm (front ++ [conn] ++ back) := List.perm_append_comm
      _ = front ++ conn :: back := by simp

def blankConn : Conn := ⟨none, none, 0, .header, 0, fun _ => 0⟩

def blankQueue : QueueMem := queueInit ⟨fun _ => blankConn, [], some 7, none, 3⟩

theorem built_queue_lists_live_after_deleting_the_first :
    ListsLive (queueDeleteElem (queueNewElem (queueNewElem blankQueue 1) 2) 1 blankConn) :=
  built_queue_lists_live _
    (.deleteElem _ 1 blankConn
      (.newElem _ 2 (.newElem _ 1 (.init _ rfl) (by decide)) (by decide)) (by decide))

end GlRs485.ConnectionQueue
