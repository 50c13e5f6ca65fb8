import Mathlib.Data.List.Nodup
import Mathlib.Data.List.Rotate
import Mathlib.Logic.Function.Basic

/-!
# Doubly linked chains over arbitrary nodes

`Segment` reads a singly linked chain off a link function. A doubly linked list
is one chain forwards and the reversed chain backwards over distinct nodes. The
operations are stated by what they do to one link function, so that appending
and unlinking are proved once and used in both directions.
-/

namespace LinkedChain

set_option autoImplicit false

variable {Node : Type*}

/-- From `start`, following `link` meets exactly the listed nodes in order and
arrives at `stop`. -/
def Segment (link : Node → Option Node) : Option Node → List Node → Option Node → Prop
  | start, [], stop => start = stop
  | start, node :: rest, stop => start = some node ∧ Segment link (link node) rest stop

theorem middle_not_mem {front back : List Node} {node : Node}
    (distinct : (front ++ node :: back).Nodup) : node ∉ front ++ back :=
  (List.nodup_cons.mp (List.nodup_middle.mp distinct)).1

theorem erase_middle [DecidableEq Node] {front back : List Node} {node : Node}
    (distinct : (front ++ node :: back).Nodup) :
      (front ++ node :: back).erase node = front ++ back := by
  have notBefore : node ∉ front := fun member => middle_not_mem distinct (by simp [member])
  rw [List.erase_append_right _ notBefore, List.erase_cons_head]

theorem segment_append (link : Node → Option Node) (start stop : Option Node)
    (front back : List Node) :
      Segment link start (front ++ back) stop ↔
        ∃ middle, Segment link start front middle ∧ Segment link middle back stop := by
  induction front generalizing start with
  | nil => simp [Segment]
  | cons node front ih => simp [Segment, ih, and_assoc]

theorem segment_snoc (link : Node → Option Node) (start stop : Option Node)
    (front : List Node) (node : Node) :
      Segment link start (front ++ [node]) stop ↔
        Segment link start front (some node) ∧ link node = stop := by
  rw [segment_append]
  constructor
  · rintro ⟨middle, reached, rfl, linked⟩
    exact ⟨reached, linked⟩
  · rintro ⟨reached, linked⟩
    exact ⟨some node, reached, rfl, linked⟩

theorem segment_frame {link link' : Node → Option Node} {start stop : Option Node}
    {nodes : List Node} (same : ∀ node ∈ nodes, link' node = link node)
    (segment : Segment link start nodes stop) : Segment link' start nodes stop := by
  induction nodes generalizing start with
  | nil => exact segment
  | cons node nodes ih =>
      obtain ⟨rfl, rest⟩ := segment
      refine ⟨rfl, ?_⟩
      rw [same node (by simp)]
      exact ih (fun other member => same other (by simp [member])) rest

theorem segment_start {link : Node → Option Node} {start : Option Node} {nodes : List Node}
    (segment : Segment link start nodes none) : start = nodes.head? := by
  cases nodes with
  | nil => exact segment
  | cons node nodes => exact segment.1

theorem segment_after {link : Node → Option Node} {start : Option Node}
    {front back : List Node} {node : Node}
    (segment : Segment link start (front ++ node :: back) none) :
      link node = back.head? := by
  obtain ⟨middle, _, rfl, rest⟩ := (segment_append _ _ _ _ _).mp segment
  exact segment_start rest

theorem segment_redirect {link link' : Node → Option Node} {start stop stop' : Option Node}
    {front : List Node} {node : Node} (segment : Segment link start (front ++ [node]) stop)
    (same : ∀ other ∈ front, link' other = link other) (redirected : link' node = stop') :
      Segment link' start (front ++ [node]) stop' := by
  rw [segment_snoc] at segment ⊢
  exact ⟨segment_frame same segment.1, redirected⟩

theorem segment_push {link link' : Node → Option Node} {start start' : Option Node}
    {nodes : List Node} {fresh : Node} (segment : Segment link start nodes none)
    (begins : start' = if nodes = [] then some fresh else start)
    (last : ∀ node, nodes.getLast? = some node → link' node = some fresh)
    (others : ∀ node ∈ nodes, nodes.getLast? ≠ some node → link' node = link node)
    (distinct : nodes.Nodup) (ends : link' fresh = none) :
      Segment link' start' (nodes ++ [fresh]) none := by
  rcases List.eq_nil_or_concat' nodes with rfl | ⟨front, node, rfl⟩
  · simpa [Segment, ends] using begins
  · have begun : start' = start := by simpa using begins
    subst begun
    rw [segment_snoc]
    refine ⟨segment_redirect segment ?_ (last node (by simp)), ends⟩
    intro other member
    apply others other (by simp [member])
    intro equal
    have same : node = other := by simpa using equal
    subst same
    exact middle_not_mem distinct (by simp [member])

theorem segment_cons {link link' : Node → Option Node} {start : Option Node}
    {nodes : List Node} {fresh : Node} (segment : Segment link start nodes none)
    (same : ∀ node ∈ nodes, link' node = link node) (points : link' fresh = start) :
      Segment link' (some fresh) (fresh :: nodes) none := by
  refine ⟨rfl, ?_⟩
  rw [points]
  exact segment_frame same segment

/-- Unlinking a node: its predecessor, or the start, is redirected to its successor. -/
theorem segment_unlink {link link' : Node → Option Node} {start start' : Option Node}
    {front back : List Node} {node : Node}
    (segment : Segment link start (front ++ node :: back) none)
    (distinct : (front ++ node :: back).Nodup)
    (begins : start' = if front = [] then link node else start)
    (before : ∀ other, front.getLast? = some other → link' other = link node)
    (others : ∀ other ∈ front ++ back, front.getLast? ≠ some other →
      link' other = link other) :
      Segment link' start' (front ++ back) none := by
  obtain ⟨middle, reached, rfl, rest⟩ := (segment_append _ _ _ _ _).mp segment
  rcases List.eq_nil_or_concat' front with rfl | ⟨front, last, rfl⟩
  · have begun : start' = link node := by simpa using begins
    subst begun
    exact segment_frame (fun other member => others other (by simpa using member) (by simp)) rest
  · have begun : start' = start := by simpa using begins
    subst begun
    have notLast : ∀ other ∈ front ++ back, last ≠ other := by
      intro other member equal
      subst equal
      rw [List.append_assoc, List.singleton_append] at distinct
      apply middle_not_mem distinct
      rcases List.mem_append.mp member with inFront | inBack
      · simp [inFront]
      · simp [inBack]
    refine (segment_append _ _ _ _ _).mpr
      ⟨link node, segment_redirect reached ?_ (before last (by simp)), ?_⟩
    · intro other member
      exact others other (by simp [member])
        (by simpa using notLast other (by simp [member]))
    · refine segment_frame (fun other member => ?_) rest
      exact others other (by simp [member])
        (by simpa using notLast other (by simp [member]))

structure DoublyLinked (next prev : Node → Option Node) (first last : Option Node)
    (nodes : List Node) : Prop where
  distinct : nodes.Nodup
  forward : Segment next first nodes none
  backward : Segment prev last nodes.reverse none

theorem DoublyLinked.first_eq {next prev : Node → Option Node} {first last : Option Node}
    {nodes : List Node} (linked : DoublyLinked next prev first last nodes) :
      first = nodes.head? :=
  segment_start linked.forward

theorem DoublyLinked.last_eq {next prev : Node → Option Node} {first last : Option Node}
    {nodes : List Node} (linked : DoublyLinked next prev first last nodes) :
      last = nodes.getLast? := by
  rw [← List.head?_reverse]
  exact segment_start linked.backward

theorem DoublyLinked.next_eq {next prev : Node → Option Node} {first last : Option Node}
    {front back : List Node} {node : Node}
    (linked : DoublyLinked next prev first last (front ++ node :: back)) :
      next node = back.head? :=
  segment_after linked.forward

theorem DoublyLinked.prev_eq {next prev : Node → Option Node} {first last : Option Node}
    {front back : List Node} {node : Node}
    (linked : DoublyLinked next prev first last (front ++ node :: back)) :
      prev node = front.getLast? := by
  have backward := linked.backward
  rw [List.reverse_append, List.reverse_cons, List.append_assoc] at backward
  rw [← List.head?_reverse]
  exact segment_after backward

def circularNext (next : Node → Option Node) (first : Option Node) (node : Node) :
    Option Node :=
  match next node with
  | none => first
  | some after => some after

def successive (successor : Node → Option Node) : Nat → Option Node → List (Option Node)
  | 0, _ => []
  | count + 1, current =>
      (current.bind successor) :: successive successor count (current.bind successor)

/-- Each listed node is the successor of the one before it, the first of `start`. -/
def Follows (successor : Node → Option Node) : Node → List Node → Prop
  | _, [] => True
  | start, node :: rest => successor start = some node ∧ Follows successor node rest

theorem follows_append (successor : Node → Option Node) (start middle : Node)
    (front back : List Node) :
      Follows successor start (front ++ middle :: back) ↔
        Follows successor start (front ++ [middle]) ∧ Follows successor middle back := by
  induction front generalizing start with
  | nil => simp [Follows]
  | cons node front ih => simp [Follows, ih, and_assoc]

theorem successive_of_follows (successor : Node → Option Node) (start : Node)
    (nodes : List Node) (follows : Follows successor start nodes) :
      successive successor nodes.length (some start) = nodes.map some := by
  induction nodes generalizing start with
  | nil => rfl
  | cons node nodes ih =>
      obtain ⟨step, rest⟩ := follows
      simp only [List.length_cons, successive, Option.bind_some, step, List.map_cons,
        ih node rest]

theorem circular_follows_segment {next : Node → Option Node} (first : Option Node)
    {node : Node} {rest : List Node} {stop : Node}
    (segment : Segment next (next node) rest (some stop)) :
      Follows (circularNext next first) node (rest ++ [stop]) := by
  induction rest generalizing node with
  | nil =>
      have arrived : next node = some stop := segment
      simp [Follows, circularNext, arrived]
  | cons other rest ih =>
      obtain ⟨linked, further⟩ := segment
      exact ⟨by simp [circularNext, linked], ih further⟩

theorem circular_follows_wrap {next : Node → Option Node} (entry : Node) {node : Node}
    {rest : List Node} (segment : Segment next (next node) rest none) :
      Follows (circularNext next (some entry)) node (rest ++ [entry]) := by
  induction rest generalizing node with
  | nil =>
      have ended : next node = none := segment
      simp [Follows, circularNext, ended]
  | cons other rest ih =>
      obtain ⟨linked, further⟩ := segment
      exact ⟨by simp [circularNext, linked], ih further⟩

/-- Once round the circle from any node: the rest of the list, then the part
before the node, then the node itself. -/
theorem DoublyLinked.circuit {next prev : Node → Option Node} {first last : Option Node}
    {front back : List Node} {node : Node}
    (linked : DoublyLinked next prev first last (front ++ node :: back)) :
      successive (circularNext next first) (front ++ node :: back).length (some node) =
        (back ++ front ++ [node]).map some := by
  have length : (front ++ node :: back).length = (back ++ front ++ [node]).length := by
    simp only [List.length_append, List.length_cons, List.length_nil]
    omega
  rw [length]
  apply successive_of_follows
  obtain ⟨middle, reached, rfl, rest⟩ := (segment_append _ _ _ _ _).mp linked.forward
  cases front with
  | nil =>
      have entry : first = some node := reached
      subst entry
      simpa using circular_follows_wrap node rest
  | cons entry front =>
      obtain ⟨rfl, inner⟩ := reached
      have tail := circular_follows_segment (some entry) inner
      have wrap := circular_follows_wrap entry rest
      have joined := (follows_append _ node entry back (front ++ [node])).mpr ⟨wrap, tail⟩
      simpa using joined

theorem rotated_split {nodes rest : List Node} {node : Node}
    (rotated : (node :: rest).IsRotated nodes) :
      ∃ front back, nodes = front ++ node :: back ∧ rest = back ++ front := by
  obtain ⟨count, within, turned⟩ := List.isRotated_iff_mod.mp rotated.symm
  rw [List.rotate_eq_drop_append_take within] at turned
  have whole := List.take_append_drop count nodes
  cases behind : nodes.drop count with
  | nil =>
      rw [behind, List.append_nil] at whole
      rw [behind, List.nil_append, whole] at turned
      exact ⟨[], rest, turned, (List.append_nil rest).symm⟩
  | cons first back =>
      rw [behind, List.cons_append, List.cons.injEq] at turned
      obtain ⟨rfl, rfl⟩ := turned
      exact ⟨nodes.take count, back, by rw [← behind, whole], rfl⟩

theorem DoublyLinked.circular_rotated {next prev : Node → Option Node} {first last : Option Node}
    {nodes rest : List Node} {node : Node} (linked : DoublyLinked next prev first last nodes)
    (rotated : (node :: rest).IsRotated nodes) :
      circularNext next first node = (rest ++ [node]).head? := by
  obtain ⟨front, back, rfl, rfl⟩ := rotated_split rotated
  unfold circularNext
  rw [linked.next_eq, linked.first_eq]
  cases back with
  | nil => cases front <;> rfl
  | cons after back => rfl

end LinkedChain
