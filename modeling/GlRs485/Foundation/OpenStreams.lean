import GlRs485.Foundation.NamedFiles
import Mathlib.Data.List.Induction

/-!
# Files that outlive their names

A stream stays on the file it was opened on. Once the name is removed, and perhaps made
again, the stream and the name lead to different files, and what is written goes where no
name leads. The files by name are those that the other calls leave.
-/

namespace OpenStreams

open NamedFiles

set_option autoImplicit false

/-- The file every name leads to, the files made so far, and the files that the streams of
the owners are on, by the names under which they were opened. -/
structure Disk (Owner Name Byte : Type*) where
  links : Name → Option Nat
  contents : Nat → List Byte
  made : Nat
  streams : Owner → Name → Option Nat

variable {Owner Name Byte : Type*}

def Disk.named (disk : Disk Owner Name Byte) : Files Name Byte :=
  fun name => (disk.links name).map disk.contents

/-- No file has two names, and a stream is on no file of another name than its own. -/
structure Coherent (disk : Disk Owner Name Byte) : Prop where
  linked : ∀ {name file}, disk.links name = some file → file < disk.made
  opened : ∀ {owner name file}, disk.streams owner name = some file → file < disk.made
  single : ∀ {name other file}, disk.links name = some file → disk.links other = some file →
    name = other
  apart : ∀ {owner name other file}, disk.streams owner name = some file →
    disk.links other = some file → name = other

def Attached (disk : Disk Owner Name Byte) (owner : Owner) (name : Name) : Prop :=
  disk.streams owner name = disk.links name ∧ disk.links name ≠ none

instance (disk : Disk Owner Name Byte) (owner : Owner) (name : Name) :
    Decidable (Attached disk owner name) := inferInstanceAs (Decidable (_ ∧ _))

def Disk.store (disk : Disk Owner Name Byte) (file : Nat) (bytes : List Byte) :
    Disk Owner Name Byte :=
  { disk with contents := Function.update disk.contents file bytes }

theorem store_coherent {disk : Disk Owner Name Byte} (coherent : Coherent disk) (file : Nat)
    (bytes : List Byte) : Coherent (disk.store file bytes) :=
  ⟨coherent.linked, coherent.opened, coherent.single, coherent.apart⟩

theorem named_store_unlinked {disk : Disk Owner Name Byte} {file : Nat}
    (unlinked : ∀ name, disk.links name ≠ some file) (bytes : List Byte) :
      (disk.store file bytes).named = disk.named := by
  funext other
  unfold Disk.named Disk.store
  cases link : disk.links other with
  | none => rfl
  | some found =>
      have apart : found ≠ file := fun one => unlinked other (one ▸ link)
      simp [Function.update_of_ne apart]

variable [DecidableEq Name]

/-- The file of a name, a new and empty one where there is none. -/
def Disk.link (disk : Disk Owner Name Byte) (name : Name) : Disk Owner Name Byte × Nat :=
  match disk.links name with
  | some file => (disk, file)
  | none =>
      ({ disk with
          links := Function.update disk.links name (some disk.made)
          contents := Function.update disk.contents disk.made []
          made := disk.made + 1 }, disk.made)

def Disk.attach [DecidableEq Owner] (disk : Disk Owner Name Byte) (owner : Owner) (name : Name)
    (file : Nat) : Disk Owner Name Byte :=
  { disk with streams := fun other under =>
      if other = owner ∧ under = name then some file else disk.streams other under }

/-- A call of an owner. A stream that only reads is not kept. -/
def Disk.apply [DecidableEq Owner] (disk : Disk Owner Name Byte) (owner : Owner) :
    FileCall Name Byte → Disk Owner Name Byte
  | .opened name .append => (disk.link name).1.attach owner name (disk.link name).2
  | .opened _ .read => disk
  | .opened name .truncate =>
      ((disk.link name).1.store (disk.link name).2 []).attach owner name (disk.link name).2
  | .wrote name bytes =>
      match disk.streams owner name with
      | some file => disk.store file (disk.contents file ++ bytes)
      | none => disk
  | .removed name => { disk with links := Function.update disk.links name none }

def Disk.after [DecidableEq Owner] (disk : Disk Owner Name Byte)
    (trace : List (Owner × FileCall Name Byte)) : Disk Owner Name Byte :=
  trace.foldl (fun disk entry => disk.apply entry.1 entry.2) disk

/-! ## Linking -/

theorem link_links (disk : Disk Owner Name Byte) (name : Name) :
    (disk.link name).1.links = Function.update disk.links name (some (disk.link name).2) := by
  unfold Disk.link
  split
  · next file linked =>
      rw [← linked]
      exact (Function.update_eq_self name disk.links).symm
  · rfl

theorem link_streams (disk : Disk Owner Name Byte) (name : Name) :
    (disk.link name).1.streams = disk.streams := by
  unfold Disk.link
  split <;> rfl

theorem link_made {disk : Disk Owner Name Byte} (coherent : Coherent disk) (name : Name) :
    disk.made ≤ (disk.link name).1.made ∧ (disk.link name).2 < (disk.link name).1.made := by
  unfold Disk.link
  split
  · next file linked => exact ⟨Nat.le_refl _, coherent.linked linked⟩
  · exact ⟨Nat.le_succ _, Nat.lt_succ_self _⟩

theorem link_apart {disk : Disk Owner Name Byte} (coherent : Coherent disk) (name : Name) :
    (∀ {other}, disk.links other = some (disk.link name).2 → other = name) ∧
      ∀ {owner other}, disk.streams owner other = some (disk.link name).2 → other = name := by
  unfold Disk.link
  split
  · next file linked =>
      exact ⟨fun link => coherent.single link linked, fun stream => coherent.apart stream linked⟩
  · exact ⟨fun link => absurd (coherent.linked link) (Nat.lt_irrefl _),
      fun stream => absurd (coherent.opened stream) (Nat.lt_irrefl _)⟩

theorem link_coherent {disk : Disk Owner Name Byte} (coherent : Coherent disk) (name : Name) :
    Coherent (disk.link name).1 := by
  obtain ⟨grows, within⟩ := link_made coherent name
  obtain ⟨single, apart⟩ := link_apart coherent name
  have linked : ∀ {other file}, (disk.link name).1.links other = some file →
      other = name ∧ file = (disk.link name).2 ∨ other ≠ name ∧ disk.links other = some file := by
    intro other file link
    rw [link_links] at link
    by_cases same : other = name
    · rw [same, Function.update_self, Option.some.injEq] at link
      exact Or.inl ⟨same, link.symm⟩
    · rw [Function.update_of_ne same] at link
      exact Or.inr ⟨same, link⟩
  constructor
  · intro other file link
    rcases linked link with ⟨_, rfl⟩ | ⟨_, old⟩
    · exact within
    · exact Nat.lt_of_lt_of_le (coherent.linked old) grows
  · intro owner other file stream
    rw [link_streams] at stream
    exact Nat.lt_of_lt_of_le (coherent.opened stream) grows
  · intro first second file left right
    rcases linked left with ⟨here, rfl⟩ | ⟨_, old⟩
    · rcases linked right with ⟨there, _⟩ | ⟨_, other⟩
      · rw [here, there]
      · rw [here, single other]
    · rcases linked right with ⟨there, rfl⟩ | ⟨_, other⟩
      · rw [there, single old]
      · exact coherent.single old other
  · intro owner under other file stream link
    rw [link_streams] at stream
    rcases linked link with ⟨there, rfl⟩ | ⟨_, old⟩
    · rw [there, apart stream]
    · exact coherent.apart stream old

/-! ## The files by name -/

theorem named_link (disk : Disk Owner Name Byte) (coherent : Coherent disk) (name : Name) :
    (disk.link name).1.named = FileCall.apply disk.named (.opened name .append) := by
  funext other
  unfold Disk.named
  rw [link_links]
  by_cases same : other = name
  · subst same
    rw [Function.update_self, appending_opens, content]
    unfold Disk.link
    cases disk.links other <;> simp
  · rw [Function.update_of_ne same, apply_other _ _ _ same]
    unfold Disk.link
    split
    · rfl
    · cases linked : disk.links other with
      | none => rfl
      | some file =>
          have older : file ≠ disk.made := Nat.ne_of_lt (coherent.linked linked)
          simp [Function.update_of_ne older]

theorem named_store {disk : Disk Owner Name Byte} (coherent : Coherent disk) {name : Name}
    {file : Nat} (linked : disk.links name = some file) (bytes : List Byte) :
      (disk.store file bytes).named = Function.update disk.named name (some bytes) := by
  funext other
  unfold Disk.named Disk.store
  by_cases same : other = name
  · subst same
    simp [linked]
  · rw [Function.update_of_ne same]
    cases link : disk.links other with
    | none => simp
    | some found =>
        have apart : found ≠ file := fun one => same (coherent.single link (one ▸ linked))
        simp [Function.update_of_ne apart]

/-! ## Calls -/

section Calls

variable [DecidableEq Owner]

theorem attach_coherent {disk : Disk Owner Name Byte} (coherent : Coherent disk) (owner : Owner)
    {name : Name} {file : Nat} (linked : disk.links name = some file) :
      Coherent (disk.attach owner name file) := by
  refine ⟨coherent.linked, ?_, coherent.single, ?_⟩
  · intro other under found stream
    simp only [Disk.attach] at stream
    split at stream
    · exact Option.some.inj stream ▸ coherent.linked linked
    · exact coherent.opened stream
  · intro other under elsewhere found stream link
    simp only [Disk.attach] at stream
    split at stream
    · next own =>
        rw [own.2]
        exact coherent.single linked (Option.some.inj stream ▸ link)
    · exact coherent.apart stream link

theorem apply_coherent {disk : Disk Owner Name Byte} (coherent : Coherent disk) (owner : Owner)
    (call : FileCall Name Byte) : Coherent (disk.apply owner call) := by
  have linked : ∀ name, (disk.link name).1.links name = some (disk.link name).2 := by
    intro name
    rw [link_links, Function.update_self]
  cases call with
  | opened name mode =>
      cases mode with
      | append => exact attach_coherent (link_coherent coherent name) owner (linked name)
      | read => exact coherent
      | truncate =>
          exact attach_coherent (store_coherent (link_coherent coherent name) _ _) owner
            (linked name)
  | wrote name bytes =>
      cases stream : disk.streams owner name with
      | none => simpa only [Disk.apply, stream] using coherent
      | some file => simpa only [Disk.apply, stream] using store_coherent coherent file _
  | removed name =>
      have kept : ∀ {other file}, Function.update disk.links name none other = some file →
          disk.links other = some file := by
        intro other file link
        by_cases same : other = name
        · rw [same, Function.update_self] at link
          cases link
        · rwa [Function.update_of_ne same] at link
      exact ⟨fun link => coherent.linked (kept link), coherent.opened,
        fun left right => coherent.single (kept left) (kept right),
        fun stream link => coherent.apart stream (kept link)⟩

def noteAttached (owner : Owner) (name : Name) (attached : Bool) :
    Owner × FileCall Name Byte → Bool
  | (_, .opened _ .read) => attached
  | (opener, .opened other _) => opener = owner && other = name || attached
  | (_, .wrote _ _) => attached
  | (_, .removed other) => other ≠ name && attached

theorem opened_attached {disk : Disk Owner Name Byte} (coherent : Coherent disk)
    (owner opener : Owner) (name other : Name) :
      Attached ((disk.link other).1.attach opener other (disk.link other).2) owner name ↔
        (opener = owner ∧ other = name) ∨ Attached disk owner name := by
  unfold Attached Disk.attach
  dsimp only
  rw [link_links, link_streams]
  by_cases own : opener = owner ∧ other = name
  · obtain ⟨rfl, rfl⟩ := own
    simp
  · have others : ¬(owner = opener ∧ name = other) := fun same => own ⟨same.1.symm, same.2.symm⟩
    rw [if_neg others, or_iff_right own]
    by_cases same : name = other
    · subst same
      rw [Function.update_self]
      unfold Disk.link
      cases linked : disk.links name with
      | some file => simp
      | none =>
          refine iff_of_false ?_ (by simp)
          rintro ⟨stream, _⟩
          exact absurd (coherent.opened stream) (Nat.lt_irrefl _)
    · rw [Function.update_of_ne same]

theorem apply_attached {disk : Disk Owner Name Byte} (coherent : Coherent disk)
    (owner opener : Owner) (name : Name) (call : FileCall Name Byte) :
      Attached (disk.apply opener call) owner name ↔
        noteAttached owner name (decide (Attached disk owner name)) (opener, call) = true := by
  cases call with
  | opened other mode =>
      cases mode with
      | append =>
          simpa [noteAttached, Disk.apply] using opened_attached coherent owner opener name other
      | read => simp [noteAttached, Disk.apply]
      | truncate =>
          have attached : Attached (disk.apply opener (.opened other .truncate)) owner name ↔
              Attached ((disk.link other).1.attach opener other (disk.link other).2) owner name :=
            Iff.rfl
          rw [attached, opened_attached coherent]
          simp [noteAttached]
  | wrote other bytes =>
      have same : Attached (disk.apply opener (.wrote other bytes)) owner name ↔
          Attached disk owner name := by
        simp only [Disk.apply]
        cases disk.streams opener other <;> rfl
      rw [same]
      simp [noteAttached]
  | removed other =>
      by_cases same : other = name
      · subst same
        simp [noteAttached, Disk.apply, Attached]
      · have apart : name ≠ other := fun back => same back.symm
        have kept : Attached (disk.apply opener (.removed other)) owner name ↔
            Attached disk owner name := by
          simp only [Disk.apply, Attached, Function.update_of_ne apart]
        rw [kept]
        simp [noteAttached, same]

/-- Whether a call changes the files by name as it says. -/
def Reaches (disk : Disk Owner Name Byte) (owner : Owner) : FileCall Name Byte → Prop
  | .wrote name _ => Attached disk owner name
  | _ => True

theorem apply_named {disk : Disk Owner Name Byte} (coherent : Coherent disk) (owner : Owner)
    (call : FileCall Name Byte) :
      (Reaches disk owner call → (disk.apply owner call).named = call.apply disk.named) ∧
        (¬Reaches disk owner call → (disk.apply owner call).named = disk.named) := by
  cases call with
  | opened name mode =>
      refine ⟨fun _ => ?_, fun lost => absurd trivial lost⟩
      cases mode with
      | append => exact named_link disk coherent name
      | read => rfl
      | truncate =>
          have linked : (disk.link name).1.links name = some (disk.link name).2 := by
            rw [link_links, Function.update_self]
          have emptied := named_store (link_coherent coherent name) linked []
          rw [named_link disk coherent name] at emptied
          refine emptied.trans ?_
          exact Function.update_idem _ _ _
  | removed name =>
      refine ⟨fun _ => ?_, fun lost => absurd trivial lost⟩
      funext other
      by_cases same : other = name
      · subst same
        simp [Disk.apply, Disk.named]
      · rw [apply_other _ _ _ same]
        simp [Disk.apply, Disk.named, Function.update_of_ne same]
  | wrote name bytes =>
      constructor
      · rintro ⟨same, linked⟩
        obtain ⟨file, link⟩ := Option.ne_none_iff_exists'.mp linked
        have shown : disk.named name = some (disk.contents file) := by simp [Disk.named, link]
        simp only [Disk.apply, same, link]
        rw [named_store coherent link]
        simp [FileCall.apply, shown]
      · intro lost
        cases stream : disk.streams owner name with
        | none => simp only [Disk.apply, stream]
        | some file =>
            simp only [Disk.apply, stream]
            apply named_store_unlinked
            intro other link
            have same := coherent.apart stream link
            subst same
            exact lost ⟨stream.trans link.symm, by simp [link]⟩

/-! ## A trace -/

/-- Whether a stream of the owner is on the file of its name after the calls. -/
def attachedAfter (trace : List (Owner × FileCall Name Byte)) (owner : Owner) (name : Name) :
    Bool :=
  trace.foldl (noteAttached owner name) false

def reaches (before : List (Owner × FileCall Name Byte)) :
    Owner × FileCall Name Byte → Bool
  | (owner, .wrote name _) => attachedAfter before owner name
  | _ => true

def reachingAfter (before : List (Owner × FileCall Name Byte)) :
    List (Owner × FileCall Name Byte) → List (FileCall Name Byte)
  | [] => []
  | entry :: rest =>
      (if reaches before entry then [entry.2] else []) ++ reachingAfter (before ++ [entry]) rest

def reaching (trace : List (Owner × FileCall Name Byte)) : List (FileCall Name Byte) :=
  reachingAfter [] trace

structure Untouched (disk : Disk Owner Name Byte) : Prop where
  coherent : Coherent disk
  idle : ∀ owner name, disk.streams owner name = none

structure Followed (disk : Disk Owner Name Byte) (trace : List (Owner × FileCall Name Byte)) :
    Prop where
  coherent : Coherent (disk.after trace)
  attached : ∀ owner name, Attached (disk.after trace) owner name ↔
    attachedAfter trace owner name = true

theorem after_snoc (disk : Disk Owner Name Byte) (trace : List (Owner × FileCall Name Byte))
    (entry : Owner × FileCall Name Byte) :
      disk.after (trace ++ [entry]) = (disk.after trace).apply entry.1 entry.2 := by
  rw [Disk.after, List.foldl_append]
  rfl

theorem trace_followed {disk : Disk Owner Name Byte} (untouched : Untouched disk)
    (trace : List (Owner × FileCall Name Byte)) : Followed disk trace := by
  induction trace using List.reverseRecOn with
  | nil =>
      refine ⟨untouched.coherent, fun owner name => ?_⟩
      refine iff_of_false ?_ (by simp [attachedAfter])
      rintro ⟨same, linked⟩
      exact linked (same.symm.trans (untouched.idle owner name))
  | append_singleton trace entry ih =>
      constructor
      · rw [after_snoc]
        exact apply_coherent ih.coherent entry.1 entry.2
      · intro owner name
        have before : decide (Attached (disk.after trace) owner name) =
            attachedAfter trace owner name := by
          rw [Bool.eq_iff_iff, decide_eq_true_iff]
          exact ih.attached owner name
        rw [after_snoc, apply_attached ih.coherent, before, attachedAfter, attachedAfter,
          List.foldl_append]
        rfl

theorem reaches_iff {disk : Disk Owner Name Byte} {trace : List (Owner × FileCall Name Byte)}
    (followed : Followed disk trace) (entry : Owner × FileCall Name Byte) :
      reaches trace entry = true ↔ Reaches (disk.after trace) entry.1 entry.2 := by
  obtain ⟨owner, call⟩ := entry
  cases call with
  | wrote name bytes => exact (followed.attached owner name).symm
  | _ => simp [reaches, Reaches]

/-- The files by name are what the calls that reach one make of them. -/
theorem named_after {disk : Disk Owner Name Byte} (untouched : Untouched disk)
    (trace : List (Owner × FileCall Name Byte)) :
      (disk.after trace).named = NamedFiles.after disk.named (reaching trace) := by
  have rest : ∀ later before : List (Owner × FileCall Name Byte),
      (disk.after (before ++ later)).named =
        NamedFiles.after (disk.after before).named (reachingAfter before later) := by
    intro later
    induction later with
    | nil =>
        intro before
        rw [List.append_nil]
        rfl
    | cons entry later ih =>
        intro before
        have followed := trace_followed untouched before
        obtain ⟨shown, unseen⟩ := apply_named followed.coherent entry.1 entry.2
        have split : before ++ entry :: later = before ++ [entry] ++ later := by simp
        rw [split, ih, reachingAfter, NamedFiles.after_append, after_snoc]
        by_cases reached : reaches before entry = true
        · rw [if_pos reached, shown ((reaches_iff followed entry).mp reached)]
          rfl
        · rw [if_neg reached, unseen (mt (reaches_iff followed entry).mpr reached)]
          rfl
  exact rest trace []

end Calls

end OpenStreams
