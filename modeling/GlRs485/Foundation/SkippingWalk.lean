import Mathlib.Data.List.Nodup
import Mathlib.Data.List.Rotate
import Mathlib.Data.List.Count
import Mathlib.Data.List.Perm.Subperm

/-!
# Walking a ring while it shrinks

A walk visits the first element of a ring. A visit that keeps it turns the ring
by one element; a visit that closes it takes it out, and the ring is turned all
the same, so that the element behind it is skipped. A fixed number of visits
meets each element once exactly when every visit stands on a place that no visit
has been to.
-/

namespace SkippingWalk

set_option autoImplicit false

variable {α : Type*}

/-- The ring from the walker on, and the elements met so far. -/
structure Walk (α : Type*) where
  ring : List α
  met : List α

def turned (closes : Bool) (here : α) (rest : List α) : List α :=
  (if closes then rest else here :: rest).rotate 1

def Walk.visit (w : Walk α) (closes : Bool) : Walk α :=
  match w.ring with
  | [] => w
  | here :: rest => ⟨turned closes here rest, w.met ++ [here]⟩

def walk (ring : List α) (closes : List Bool) : Walk α := closes.foldl Walk.visit ⟨ring, []⟩

theorem walk_snoc (ring : List α) (closes : List Bool) (last : Bool) :
    walk ring (closes ++ [last]) = (walk ring closes).visit last :=
  List.foldl_concat _ _ _ _

/-- The place a visit stands on, counted from the first element: every visit
moves on by one place, and by one more if it closes. -/
def placeOf (closes : List Bool) (visit : Nat) : Nat := visit + (closes.take visit).count true

/-- The places that no visit has been to: the elements at the start, and whatever
a closing visit skips, which is then behind all others again. -/
inductive Spared (count : Nat) (closes : List Bool) : Nat → Prop
  | first {place : Nat} (bound : place < count) : Spared count closes place
  | skipped {visit : Nat} (closed : closes[visit]? = some true)
      (spared : Spared count closes (placeOf closes visit + 1)) :
      Spared count closes (count + visit)

theorem spared_pushed_iff (count : Nat) (closes : List Bool) (visit : Nat) :
    Spared count closes (count + visit) ↔
      closes[visit]? = some true ∧ Spared count closes (placeOf closes visit + 1) := by
  constructor
  · intro spared
    generalize pushed : count + visit = place at spared
    cases spared with
    | first bound => omega
    | @skipped other closed spared =>
        obtain rfl : visit = other := by omega
        exact ⟨closed, spared⟩
  · rintro ⟨closed, spared⟩
    exact .skipped closed spared

theorem placeOf_succ (closes : List Bool) (visit : Nat) (bound : visit < closes.length) :
    placeOf closes (visit + 1) = placeOf closes visit + 1 + if closes[visit] then 1 else 0 := by
  unfold placeOf
  rw [List.take_succ_eq_append_getElem bound, List.count_append]
  cases closes[visit] <;> simp <;> omega

structure Followed (ring : List α) (closes : List Bool) (visits : Nat) (w : Walk α) : Prop where
  distinct : w.ring.Nodup
  within : ∀ x ∈ w.ring, x ∈ ring
  size : w.ring.length + placeOf closes visits = ring.length + visits
  counted : w.met.length = visits
  metWithin : ∀ x ∈ w.met, x ∈ ring
  marks : ∀ i (bound : i < w.ring.length),
    w.ring[i] ∉ w.met ↔ Spared ring.length closes (placeOf closes visits + i)
  once : w.met.Nodup ↔ ∀ visit < visits, Spared ring.length closes (placeOf closes visit)

theorem followed_start (ring : List α) (closes : List Bool) (distinct : ring.Nodup) :
    Followed ring closes 0 ⟨ring, []⟩ := by
  refine ⟨distinct, fun _ member => member, rfl, rfl, by simp, ?_, by simp⟩
  intro i bound
  have spared : Spared ring.length closes (placeOf closes 0 + i) :=
    .first (by simpa [placeOf] using bound)
  exact iff_of_true (by simp) spared

theorem met_others (met : List α) {rest : List α} {here : α} (distinct : (here :: rest).Nodup)
    (i : Nat) (bound : i < rest.length) : rest[i] ∉ met ++ [here] ↔ rest[i] ∉ met := by
  have other : rest[i] ≠ here := by
    intro same
    exact (List.nodup_cons.mp distinct).1 (same ▸ List.getElem_mem bound)
  simp [other]

/-- The marks of the ring behind a visit: an element that stays in place is now
nearer, and the one that goes to the end has the mark of the place it gets. -/
theorem marks_after {ring : List α} {closes : List Bool} {visits : Nat} {here : α}
    {rest met : List α} (bound : visits < closes.length)
    (before : Followed ring closes visits ⟨here :: rest, met⟩) (i : Nat)
    (inside : i < (turned closes[visits] here rest).length) :
      (turned closes[visits] here rest)[i] ∉ met ++ [here] ↔
        Spared ring.length closes (placeOf closes (visits + 1) + i) := by
  have size := before.size
  have marks := before.marks
  have next := placeOf_succ closes visits bound
  have pushed := spared_pushed_iff ring.length closes visits
  rw [List.getElem?_eq_getElem bound] at pushed
  simp only [List.length_cons] at size marks
  revert inside
  generalize closes[visits] = closed at next pushed ⊢
  intro inside
  cases closed with
  | false =>
      simp only [turned, if_false, Bool.false_eq_true, List.rotate_cons_succ,
        List.rotate_zero, List.length_append, List.length_singleton] at inside next ⊢
      by_cases last : i = rest.length
      · subst last
        have place : placeOf closes (visits + 1) + rest.length = ring.length + visits := by omega
        rw [place, pushed]
        simp
      · have nearer : placeOf closes (visits + 1) + i = placeOf closes visits + (i + 1) := by omega
        have mark := marks (i + 1) (by omega)
        rw [List.getElem_cons_succ] at mark
        rw [List.getElem_append_left (by omega), met_others met before.distinct, nearer, mark]
  | true =>
      cases rest with
      | nil => simp [turned] at inside
      | cons skipped rest =>
          simp only [turned, if_true, List.rotate_cons_succ, List.rotate_zero,
            List.length_append, List.length_nil, List.length_cons] at inside next size ⊢
          by_cases last : i = rest.length
          · subst last
            have place : placeOf closes (visits + 1) + rest.length = ring.length + visits := by
              omega
            have other := met_others met before.distinct 0 (by simp)
            have mark := marks 1 (by simp)
            rw [place, pushed, and_iff_right rfl, ← mark]
            simpa using other
          · have nearer : placeOf closes (visits + 1) + i = placeOf closes visits + (i + 2) := by
              omega
            have other := met_others met before.distinct (i + 1) (by simp; omega)
            have mark := marks (i + 2) (by simp; omega)
            rw [List.getElem_append_left (by omega), nearer, ← mark]
            simpa using other

theorem followed_visit {ring : List α} {closes : List Bool} {visits : Nat} {w : Walk α}
    (before : Followed ring closes visits w) (bound : visits < closes.length)
    (occupied : w.ring ≠ []) :
      Followed ring closes (visits + 1) (w.visit closes[visits]) := by
  obtain ⟨ringNow, met⟩ := w
  cases ringNow with
  | nil => exact absurd rfl occupied
  | cons here rest =>
      have next := placeOf_succ closes visits bound
      have size := before.size
      have kept : (if closes[visits] then rest else here :: rest).Sublist (here :: rest) := by
        split
        · exact List.sublist_cons_self here rest
        · exact List.Sublist.refl _
      have turnedSize : (turned closes[visits] here rest).length + (if closes[visits] then 1 else 0) =
          rest.length + 1 := by
        unfold turned
        rw [List.length_rotate]
        split <;> simp
      simp only [List.length_cons] at size
      refine ⟨?_, ?_, ?_, ?_, ?_, marks_after bound before, ?_⟩
      · exact List.nodup_rotate.mpr (before.distinct.sublist kept)
      · intro x member
        exact before.within x (kept.subset (List.mem_rotate.mp member))
      · simp only [Walk.visit]
        omega
      · simp [Walk.visit, before.counted]
      · intro x member
        rcases List.mem_append.mp member with earlier | now
        · exact before.metWithin x earlier
        · rw [List.mem_singleton.mp now]
          exact before.within here (by simp)
      · have mark := before.marks 0 (by simp)
        rw [List.getElem_cons_zero, Nat.add_zero] at mark
        simp only [Walk.visit]
        rw [List.nodup_append_comm, List.singleton_append, List.nodup_cons, mark, before.once]
        constructor
        · rintro ⟨here, earlier⟩ visit within
          rcases Nat.lt_succ_iff_lt_or_eq.mp within with less | same
          · exact earlier visit less
          · exact same ▸ here
        · intro all
          exact ⟨all visits (by omega), fun visit less => all visit (by omega)⟩

theorem walk_followed {ring : List α} (closes : List Bool) (distinct : ring.Nodup)
    (enough : closes.length ≤ ring.length) (visits : Nat) (bound : visits ≤ closes.length) :
      Followed ring closes visits (walk ring (closes.take visits)) := by
  induction visits with
  | zero => exact followed_start ring closes distinct
  | succ visits ih =>
      have before := ih (by omega)
      rw [List.take_succ_eq_append_getElem (by omega), walk_snoc]
      apply followed_visit before (by omega)
      intro empty
      have size := before.size
      have fewer : (closes.take visits).count true ≤ (closes.take visits).length :=
        List.count_le_length
      rw [empty, List.length_nil, placeOf] at size
      rw [List.length_take] at fewer
      omega

/-- Each element is met once exactly when there are as many visits as elements
and every visit stands on a spared place. -/
theorem walk_meets_each_once_iff [DecidableEq α] {ring : List α} (closes : List Bool)
    (distinct : ring.Nodup) (enough : closes.length ≤ ring.length) :
      (∀ x ∈ ring, (walk ring closes).met.count x = 1) ↔
        closes.length = ring.length ∧
          ∀ visit < closes.length, Spared ring.length closes (placeOf closes visit) := by
  have followed := walk_followed closes distinct enough closes.length (Nat.le_refl _)
  rw [List.take_length] at followed
  have counted := followed.counted
  rw [← followed.once]
  constructor
  · intro once
    have all : ring ⊆ (walk ring closes).met := by
      intro x member
      exact List.count_pos_iff.mp (by rw [once x member]; omega)
    have subperm : ring.Subperm (walk ring closes).met := List.subperm_of_subset distinct all
    have long := subperm.length_le
    have same : closes.length = ring.length := by omega
    have perm : ring.Perm (walk ring closes).met := subperm.perm_of_length_le (by omega)
    exact ⟨same, perm.nodup_iff.mp distinct⟩
  · rintro ⟨same, nodup⟩ x member
    have subperm : (walk ring closes).met.Subperm ring :=
      List.subperm_of_subset nodup followed.metWithin
    have perm : (walk ring closes).met.Perm ring := subperm.perm_of_length_le (by omega)
    rw [List.count_eq_one_of_mem nodup (perm.mem_iff.mpr member)]

theorem leading_closures_spared (count first others : Nat) (enough : first + others ≤ count) :
    let closes := List.replicate first true ++ List.replicate others false
    ∀ visit < closes.length, Spared count closes (placeOf closes visit) := by
  intro closes visit bound
  have closed : ∀ early < first, closes[early]? = some true := by
    intro early within
    rw [List.getElem?_append_left (by simpa using within)]
    simp [within]
  have places : ∀ early, placeOf closes early = early + min early first := by
    intro early
    simp only [placeOf, closes, List.take_append, List.take_replicate, List.count_append,
      List.count_replicate]
    simp
  have spared : ∀ place < count + first, place + 1 < count + count → Spared count closes place := by
    intro place
    induction place using Nat.strong_induction_on with
    | h place ih =>
        intro within small
        by_cases early : place < count
        · exact .first early
        · obtain ⟨closing, rfl⟩ := Nat.exists_eq_add_of_le (Nat.le_of_not_lt early)
          apply Spared.skipped (closed closing (by omega))
          rw [places]
          exact ih _ (by omega) (by omega) (by omega)
  simp only [closes, List.length_append, List.length_replicate] at bound
  exact spared _ (by rw [places]; omega) (by rw [places]; omega)

end SkippingWalk
