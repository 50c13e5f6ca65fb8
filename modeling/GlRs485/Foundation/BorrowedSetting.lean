import GlRs485.Foundation.TracedSystem
import Mathlib.Data.List.Induction
import Mathlib.Logic.Function.Basic

/-!
# A setting that processes borrow

Processes share one setting. Each notes it before it installs its own and puts back
what it noted when it returns its handle; a use with an adjusted setting remembers and
restores it for itself. Nothing keeps the processes apart.
-/

namespace BorrowedSetting

open TracedSystem

set_option autoImplicit false

/-- After `noted` a process goes on with `installed` or with `gaveUp`. -/
inductive Call (Handle : Type*)
  | noted
  | gaveUp
  | installed (handle : Handle)
  | used (handle : Handle)
  | remembered (handle : Handle)
  | adjusted (handle : Handle)
  | restored (handle : Handle)
  | returned (handle : Handle)
  deriving DecidableEq

structure Borrower (Handle Setting : Type*) where
  kept : Setting
  installing : Bool
  has : Handle → Bool
  memory : Option Setting

/-- What is borrowed is used with the setting of all. -/
structure Shared (Process Handle Setting : Type*) where
  setting : Setting
  borrower : Process → Borrower Handle Setting

variable {Process Handle Setting : Type*}

def Borrower.borrowing (borrower : Borrower Handle Setting) : Prop :=
  borrower.installing = true ∨ ∃ handle, borrower.has handle = true

def Shared.lent (shared : Shared Process Handle Setting) (process : Process) (handle : Handle) :
    Prop := (shared.borrower process).has handle = true

def unborrowed (empty rest : Setting) : Shared Process Handle Setting :=
  ⟨rest, fun _ => ⟨empty, false, fun _ => false, none⟩⟩

theorem nothing_lent (empty rest : Setting) (process : Process) (handle : Handle) :
    ¬(unborrowed empty rest : Shared Process Handle Setting).lent process handle :=
  Bool.false_ne_true

theorem nobody_borrowing (empty rest : Setting) (process : Process) :
    ¬((unborrowed empty rest : Shared Process Handle Setting).borrower process).borrowing := by
  rintro (installing | ⟨handle, has⟩)
  · exact Bool.false_ne_true installing
  · exact Bool.false_ne_true has

/-- A process that puts back another setting than `mode` is the last to have a handle. -/
def LeavesLast (mode : Setting) (shared : Shared Process Handle Setting)
    (call : Process × Call Handle) : Prop :=
  ∀ handle, call.2 = .returned handle → shared.lent call.1 handle →
    (shared.borrower call.1).kept ≠ mode →
      ∀ process other, shared.lent process other → process = call.1 ∧ other = handle

/-- What a process knows of settings: of the setting at rest and of `mode`. -/
structure Borrower.Knows (rest mode : Setting) (borrower : Borrower Handle Setting) : Prop where
  kept : borrower.borrowing → borrower.kept = rest ∨ borrower.kept = mode
  memory : ∀ setting ∈ borrower.memory, setting = mode

/-- While somebody has a handle the setting is `mode`. -/
structure Held (rest mode : Setting) (shared : Shared Process Handle Setting) : Prop where
  value : shared.setting = rest ∨ shared.setting = mode
  shown : ∀ process handle, shared.lent process handle → shared.setting = mode
  knows : ∀ process, (shared.borrower process).Knows rest mode

theorem held_unborrowed (empty rest mode : Setting) :
    Held rest mode (unborrowed empty rest : Shared Process Handle Setting) :=
  ⟨Or.inl rfl, fun process handle lent => absurd lent (nothing_lent empty rest process handle),
    fun process => ⟨fun borrows => absurd borrows (nobody_borrowing empty rest process),
      by simp [unborrowed]⟩⟩

/-- A process that puts back another setting than `mode` leaves nobody behind, and nobody
notes a setting while it has a handle. -/
structure Orderly (mode : Setting) (shared : Shared Process Handle Setting)
    (call : Process × Call Handle) : Prop where
  last : LeavesLast mode shared call
  alone : ∀ handle, call.2 = .returned handle → shared.lent call.1 handle →
    (shared.borrower call.1).kept ≠ mode →
      ∀ other, other ≠ call.1 → (shared.borrower other).installing = false
  once : call.2 = .noted → ∀ handle, ¬shared.lent call.1 handle

/-- While a handle is lent, somebody who has one will put back the setting at rest. -/
structure Settled (rest mode : Setting) (shared : Shared Process Handle Setting) : Prop
    extends Held rest mode shared where
  idle : (∀ process handle, ¬shared.lent process handle) → shared.setting = rest
  lender : ∀ process handle, shared.lent process handle →
    ∃ other left, shared.lent other left ∧ (shared.borrower other).kept = rest
  waiting : ∀ process, (shared.borrower process).installing = true →
    (∀ handle, ¬shared.lent process handle) ∧
      ((∀ other handle, ¬shared.lent other handle) → (shared.borrower process).kept = rest)
  inUse : ∀ process, (shared.borrower process).memory ≠ none →
    ∃ handle, shared.lent process handle

theorem settled_unborrowed (empty rest mode : Setting) :
    Settled rest mode (unborrowed empty rest : Shared Process Handle Setting) := by
  refine ⟨held_unborrowed empty rest mode, fun _ => rfl, ?_, ?_, ?_⟩
  · intro process handle lent
    exact absurd lent (nothing_lent empty rest process handle)
  · intro process installing
    exact absurd installing Bool.false_ne_true
  · intro process some
    exact absurd rfl some

theorem settled_memory {rest mode : Setting} {shared : Shared Process Handle Setting}
    (settled : Settled rest mode shared) {process : Process}
    {known setting : Setting} (memory : (shared.borrower process).memory = some known)
    (held : Held rest mode { shared with setting := setting }) :
      Settled rest mode { shared with setting := setting } := by
  obtain ⟨handle, lent⟩ := settled.inUse process (by simp [memory])
  exact ⟨held, fun nobody => absurd lent (nobody process handle), settled.lender,
    settled.waiting, settled.inUse⟩

namespace Borrower

def note (borrower : Borrower Handle Setting) (setting : Setting) : Borrower Handle Setting :=
  { borrower with kept := setting, installing := true }

def giveUp (borrower : Borrower Handle Setting) : Borrower Handle Setting :=
  { borrower with installing := false }

def remember (borrower : Borrower Handle Setting) (handle : Handle) (setting : Setting) :
    Borrower Handle Setting :=
  { borrower with memory := if borrower.has handle then some setting else none }

variable [DecidableEq Handle]

def take (borrower : Borrower Handle Setting) (handle : Handle) : Borrower Handle Setting :=
  { borrower with installing := false, has := Function.update borrower.has handle true }

def giveBack (borrower : Borrower Handle Setting) (handle : Handle) : Borrower Handle Setting :=
  { borrower with has := Function.update borrower.has handle false, memory := none }

end Borrower

namespace Shared

variable [DecidableEq Process]

def set (shared : Shared Process Handle Setting) (process : Process)
    (borrower : Borrower Handle Setting) (setting : Setting) : Shared Process Handle Setting :=
  ⟨setting, Function.update shared.borrower process borrower⟩

theorem set_self (shared : Shared Process Handle Setting) (process : Process)
    (borrower : Borrower Handle Setting) (setting : Setting) :
      (shared.set process borrower setting).borrower process = borrower :=
  Function.update_self ..

theorem set_other (shared : Shared Process Handle Setting) {process other : Process}
    (borrower : Borrower Handle Setting) (setting : Setting) (apart : other ≠ process) :
      (shared.set process borrower setting).borrower other = shared.borrower other :=
  Function.update_of_ne apart ..

theorem lent_set_same (shared : Shared Process Handle Setting) {process : Process}
    {borrower : Borrower Handle Setting} (setting : Setting)
    (same : borrower.has = (shared.borrower process).has) (other : Process) (handle : Handle) :
      (shared.set process borrower setting).lent other handle ↔ shared.lent other handle := by
  by_cases own : other = process
  · rw [own, lent, set_self, same, lent]
  · rw [lent, set_other _ _ _ own, lent]

variable [DecidableEq Handle]

theorem lent_take (shared : Shared Process Handle Setting) (process : Process) (handle : Handle)
    (setting : Setting) (other : Process) (left : Handle) :
      (shared.set process ((shared.borrower process).take handle) setting).lent other left ↔
        (other = process ∧ left = handle) ∨ shared.lent other left := by
  by_cases own : other = process
  · rw [own, lent, set_self, lent]
    by_cases same : left = handle
    · simp [Borrower.take, same]
    · simp [Borrower.take, same]
  · rw [lent, set_other _ _ _ own, lent]
    simp [own]

theorem lent_give_back (shared : Shared Process Handle Setting) (process : Process)
    (handle : Handle) (setting : Setting) (other : Process) (left : Handle) :
      (shared.set process ((shared.borrower process).giveBack handle) setting).lent other left ↔
        shared.lent other left ∧ ¬(other = process ∧ left = handle) := by
  by_cases own : other = process
  · rw [own, lent, set_self, lent]
    by_cases same : left = handle
    · simp [Borrower.giveBack, same]
    · simp [Borrower.giveBack, same]
  · rw [lent, set_other _ _ _ own, lent]
    simp [own]

/-- The calls of one process follow each other: it installs what it made of the setting
it noted just before, and adjusts and restores what it remembers. -/
def apply (install adjust : Setting → Setting) (shared : Shared Process Handle Setting)
    (process : Process) (call : Call Handle) : Shared Process Handle Setting :=
  let own := shared.borrower process
  match call with
  | .noted => shared.set process (own.note shared.setting) shared.setting
  | .gaveUp => shared.set process own.giveUp shared.setting
  | .installed handle =>
      if own.installing then shared.set process (own.take handle) (install own.kept) else shared
  | .used _ => shared
  | .remembered handle => shared.set process (own.remember handle shared.setting) shared.setting
  | .adjusted _ => { shared with setting := (own.memory.map adjust).getD shared.setting }
  | .restored _ => { shared with setting := own.memory.getD shared.setting }
  | .returned handle =>
      if own.has handle then shared.set process (own.giveBack handle) own.kept else shared

end Shared

variable [DecidableEq Process]

section Held

variable {rest mode : Setting} {shared : Shared Process Handle Setting}

theorem held_set (held : Held rest mode shared) {process : Process}
    {borrower : Borrower Handle Setting} {setting : Setting} (knows : borrower.Knows rest mode)
    (value : setting = rest ∨ setting = mode)
    (shown : ∀ other handle, (shared.set process borrower setting).lent other handle →
      setting = mode) : Held rest mode (shared.set process borrower setting) :=
  ⟨value, shown, (Function.forall_update_iff _
    fun _ (borrower : Borrower Handle Setting) => borrower.Knows rest mode).mpr
      ⟨knows, fun other _ => held.knows other⟩⟩

theorem held_set_same (held : Held rest mode shared) {process : Process}
    {borrower : Borrower Handle Setting} (knows : borrower.Knows rest mode)
    (same : borrower.has = (shared.borrower process).has) :
      Held rest mode (shared.set process borrower shared.setting) := by
  apply held_set held knows held.value
  intro other handle lent
  exact held.shown other handle ((shared.lent_set_same _ same other handle).mp lent)

theorem settled_set_same (settled : Settled rest mode shared) {process : Process}
    {borrower : Borrower Handle Setting} (same : borrower.has = (shared.borrower process).has)
    (knows : borrower.Knows rest mode)
    (kept : ∀ handle, shared.lent process handle →
      borrower.kept = (shared.borrower process).kept)
    (waiting : borrower.installing = true → (∀ handle, ¬shared.lent process handle) ∧
      ((∀ other handle, ¬shared.lent other handle) → borrower.kept = rest))
    (inUse : borrower.memory ≠ none → ∃ handle, shared.lent process handle) :
      Settled rest mode (shared.set process borrower shared.setting) := by
  have lent := shared.lent_set_same shared.setting same
  refine ⟨held_set_same settled.toHeld knows same, ?_, ?_, ?_, ?_⟩
  · intro nobody
    exact settled.idle fun other handle has => nobody other handle ((lent other handle).mpr has)
  · intro other handle has
    obtain ⟨keeper, left, before, resting⟩ := settled.lender other handle ((lent _ _).mp has)
    refine ⟨keeper, left, (lent _ _).mpr before, ?_⟩
    by_cases own : keeper = process
    · subst own
      rw [Shared.set_self, kept left before, resting]
    · rw [Shared.set_other _ _ _ own, resting]
  · simp only [lent]
    refine (Function.forall_update_iff _ fun other (borrower : Borrower Handle Setting) =>
      borrower.installing = true → (∀ handle, ¬shared.lent other handle) ∧
        ((∀ other handle, ¬shared.lent other handle) → borrower.kept = rest)).mpr ⟨waiting, ?_⟩
    exact fun other _ => settled.waiting other
  · simp only [lent]
    exact (Function.forall_update_iff _ fun other (borrower : Borrower Handle Setting) =>
      borrower.memory ≠ none → ∃ handle, shared.lent other handle).mpr
        ⟨inUse, fun other _ => settled.inUse other⟩

/-- The setting is `mode`, one handle is lent, and whatever else is noted is `mode`. -/
structure Guarded (mode : Setting) (keeper : Process) (guard : Handle)
    (shared : Shared Process Handle Setting) : Prop where
  setting : shared.setting = mode
  lent : shared.lent keeper guard
  installing : ∀ process, (shared.borrower process).installing = true →
    (shared.borrower process).kept = mode
  others : ∀ process handle, shared.lent process handle → ¬(process = keeper ∧ handle = guard) →
    (shared.borrower process).kept = mode
  memory : ∀ process, ∀ setting ∈ (shared.borrower process).memory, setting = mode

theorem guarded_set {keeper process : Process} {guard : Handle}
    (guarded : Guarded mode keeper guard shared) {borrower : Borrower Handle Setting}
    (lent : (shared.set process borrower mode).lent keeper guard)
    (installing : borrower.installing = true → borrower.kept = mode)
    (others : ∀ handle, borrower.has handle = true → ¬(process = keeper ∧ handle = guard) →
      borrower.kept = mode)
    (memory : ∀ setting ∈ borrower.memory, setting = mode) :
      Guarded mode keeper guard (shared.set process borrower mode) := by
  refine ⟨rfl, lent, ?_, ?_, ?_⟩
  · exact (Function.forall_update_iff _ fun _ (borrower : Borrower Handle Setting) =>
      borrower.installing = true → borrower.kept = mode).mpr
        ⟨installing, fun other _ => guarded.installing other⟩
  · exact (Function.forall_update_iff _ fun other (borrower : Borrower Handle Setting) =>
      ∀ handle, borrower.has handle = true → ¬(other = keeper ∧ handle = guard) →
        borrower.kept = mode).mpr ⟨others, fun other _ => guarded.others other⟩
  · exact (Function.forall_update_iff _ fun _ (borrower : Borrower Handle Setting) =>
      ∀ setting ∈ borrower.memory, setting = mode).mpr
        ⟨memory, fun other _ => guarded.memory other⟩

end Held

variable [DecidableEq Handle]

section Modes

variable {install adjust : Setting → Setting} {rest mode : Setting}
variable {shared : Shared Process Handle Setting}

/-- The step lemma. -/
theorem held_step (installs : install rest = mode) (again : install mode = mode)
    (adjusts : adjust mode = mode) (held : Held rest mode shared) {call : Process × Call Handle}
    (last : LeavesLast mode shared call) :
      Held rest mode (shared.apply install adjust call.1 call.2) := by
  obtain ⟨process, call⟩ := call
  have own := held.knows process
  cases call with
  | noted => exact held_set_same held ⟨fun _ => held.value, own.memory⟩ rfl
  | gaveUp =>
      refine held_set_same held ⟨?_, own.memory⟩ rfl
      rintro (installing | has)
      · exact absurd installing Bool.false_ne_true
      · exact own.kept (Or.inr has)
  | installed handle =>
      simp only [Shared.apply]
      split
      · next installing =>
          have kept := own.kept (Or.inl installing)
          have installed : install (shared.borrower process).kept = mode := by
            rcases kept with same | same
            · rw [same, installs]
            · rw [same, again]
          exact held_set held ⟨fun _ => kept, own.memory⟩ (Or.inr installed)
            fun _ _ _ => installed
      · exact held
  | used handle => exact held
  | remembered handle =>
      refine held_set_same held ⟨own.kept, ?_⟩ rfl
      intro setting known
      rw [Borrower.remember] at known
      split at known
      · next has => exact (Option.some.inj known).symm.trans (held.shown process handle has)
      · exact absurd known (by simp)
  | adjusted handle =>
      cases known : (shared.borrower process).memory with
      | none => simpa [Shared.apply, known] using held
      | some setting =>
          have same : adjust setting = mode := by rw [own.memory setting known, adjusts]
          simp only [Shared.apply, known]
          exact ⟨Or.inr same, fun _ _ _ => same, held.knows⟩
  | restored handle =>
      cases known : (shared.borrower process).memory with
      | none => simpa [Shared.apply, known] using held
      | some setting =>
          have same : setting = mode := own.memory setting known
          simp only [Shared.apply, known]
          exact ⟨Or.inr same, fun _ _ _ => same, held.knows⟩
  | returned handle =>
      simp only [Shared.apply]
      split
      · next has =>
          have kept := own.kept (Or.inr ⟨handle, has⟩)
          have knows : ((shared.borrower process).giveBack handle).Knows rest mode :=
            ⟨fun _ => kept, by simp [Borrower.giveBack]⟩
          refine held_set held knows kept ?_
          intro other left lent
          obtain ⟨before, another⟩ := (shared.lent_give_back _ _ _ _ _).mp lent
          by_contra changed
          exact another (last handle rfl has changed other left before)
      · exact held

/-! ## The setting at rest -/

theorem settled_take (settled : Settled rest mode shared) {process : Process} {handle : Handle}
    {setting : Setting} (installing : (shared.borrower process).installing = true)
    (held : Held rest mode
      (shared.set process ((shared.borrower process).take handle) setting)) :
      Settled rest mode
        (shared.set process ((shared.borrower process).take handle) setting) := by
  have lent := shared.lent_take process handle setting
  have taken := (lent process handle).mpr (Or.inl ⟨rfl, rfl⟩)
  refine ⟨held, fun nobody => absurd taken (nobody process handle), ?_, ?_, ?_⟩
  · intro other left has
    by_cases first : ∀ other left, ¬shared.lent other left
    · refine ⟨process, handle, taken, ?_⟩
      rw [Shared.set_self]
      exact (settled.waiting process installing).2 first
    · push Not at first
      obtain ⟨earlier, had, before⟩ := first
      obtain ⟨keeper, left, before, resting⟩ := settled.lender earlier had before
      refine ⟨keeper, left, (lent _ _).mpr (Or.inr before), ?_⟩
      by_cases own : keeper = process
      · subst own
        rw [Shared.set_self]
        exact resting
      · rw [Shared.set_other _ _ _ own, resting]
  · intro other waits
    by_cases own : other = process
    · rw [own, Shared.set_self] at waits
      exact absurd waits Bool.false_ne_true
    · rw [Shared.set_other _ _ _ own] at waits
      refine ⟨?_, fun nobody => absurd taken (nobody process handle)⟩
      intro left has
      rcases (lent other left).mp has with ⟨same, _⟩ | before
      · exact own same
      · exact (settled.waiting other waits).1 left before
  · intro other remembers
    by_cases own : other = process
    · exact ⟨handle, own ▸ taken⟩
    · rw [Shared.set_other _ _ _ own] at remembers
      obtain ⟨left, before⟩ := settled.inUse other remembers
      exact ⟨left, (lent other left).mpr (Or.inr before)⟩

theorem settled_give_back (settled : Settled rest mode shared) {process : Process}
    {handle : Handle} (has : shared.lent process handle)
    (orderly : Orderly mode shared (process, .returned handle))
    (held : Held rest mode (shared.set process ((shared.borrower process).giveBack handle)
      (shared.borrower process).kept)) :
      Settled rest mode (shared.set process ((shared.borrower process).giveBack handle)
        (shared.borrower process).kept) := by
  have lent := shared.lent_give_back process handle (shared.borrower process).kept
  have own := settled.knows process
  -- the last handle is returned by the process that found the setting at rest
  have lastHandle : (∀ other left, ¬(shared.set process ((shared.borrower process).giveBack handle)
      (shared.borrower process).kept).lent other left) → (shared.borrower process).kept = rest := by
    intro nobody
    obtain ⟨keeper, left, before, resting⟩ := settled.lender process handle has
    by_cases same : keeper = process ∧ left = handle
    · rwa [same.1] at resting
    · exact absurd ((lent keeper left).mpr ⟨before, same⟩) (nobody keeper left)
  have equal : (shared.borrower process).kept = rest → (shared.borrower process).kept = mode →
      ∀ other, (shared.borrower other).borrowing → (shared.borrower other).kept = rest := by
    intro resting working other borrows
    rcases (settled.knows other).kept borrows with same | same
    · exact same
    · rw [same, ← working, resting]
  refine ⟨held, lastHandle, ?_, ?_, ?_⟩
  · intro other left after
    obtain ⟨before, apart⟩ := (lent other left).mp after
    have working : (shared.borrower process).kept = mode := by
      by_contra changed
      exact apart (orderly.last handle rfl has changed other left before)
    obtain ⟨keeper, kept, lending, resting⟩ := settled.lender other left before
    by_cases same : keeper = process ∧ kept = handle
    · rw [same.1] at resting
      refine ⟨other, left, after, ?_⟩
      have known := equal resting working other (Or.inr ⟨left, before⟩)
      by_cases here : other = process
      · rw [here, Shared.set_self]
        exact resting
      · rw [Shared.set_other _ _ _ here, known]
    · refine ⟨keeper, kept, (lent keeper kept).mpr ⟨lending, same⟩, ?_⟩
      by_cases here : keeper = process
      · rw [here] at resting
        rw [here, Shared.set_self]
        exact resting
      · rw [Shared.set_other _ _ _ here, resting]
  · intro other installing
    by_cases here : other = process
    · rw [here, Shared.set_self] at installing
      exact absurd has ((settled.waiting process installing).1 handle)
    · rw [Shared.set_other _ _ _ here] at installing ⊢
      refine ⟨?_, ?_⟩
      · intro left after
        exact (settled.waiting other installing).1 left ((lent other left).mp after).1
      · intro nobody
        have working : (shared.borrower process).kept = mode := by
          by_contra changed
          have idle := orderly.alone handle rfl has changed other here
          exact Bool.false_ne_true (idle.symm.trans installing)
        exact equal (lastHandle nobody) working other (Or.inl installing)
  · intro other remembers
    by_cases here : other = process
    · rw [here, Shared.set_self] at remembers
      exact absurd rfl remembers
    · rw [Shared.set_other _ _ _ here] at remembers
      obtain ⟨left, before⟩ := settled.inUse other remembers
      exact ⟨left, (lent other left).mpr ⟨before, fun same => here same.1⟩⟩

theorem settled_step (installs : install rest = mode) (again : install mode = mode)
    (adjusts : adjust mode = mode) (settled : Settled rest mode shared)
    {call : Process × Call Handle} (orderly : Orderly mode shared call) :
      Settled rest mode (shared.apply install adjust call.1 call.2) := by
  have held := held_step installs again adjusts settled.toHeld orderly.last
  obtain ⟨process, call⟩ := call
  have own := settled.knows process
  cases call with
  | noted =>
      have free := orderly.once rfl
      refine settled_set_same settled rfl ⟨fun _ => settled.value, own.memory⟩ ?_ ?_
        (settled.inUse process)
      · exact fun handle has => absurd has (free handle)
      · exact fun _ => ⟨free, settled.idle⟩
  | gaveUp =>
      refine settled_set_same settled rfl ⟨?_, own.memory⟩ (fun _ _ => rfl) ?_
        (settled.inUse process)
      · rintro (installing | has)
        · exact absurd installing Bool.false_ne_true
        · exact own.kept (Or.inr has)
      · exact fun installing => absurd installing Bool.false_ne_true
  | installed handle =>
      simp only [Shared.apply] at held ⊢
      split
      · next installing =>
          rw [if_pos installing] at held
          exact settled_take settled installing held
      · exact settled
  | used handle => exact settled
  | remembered handle =>
      have knows := held.knows process
      simp only [Shared.apply, Shared.set_self] at knows
      refine settled_set_same settled rfl knows (fun _ _ => rfl) (settled.waiting process) ?_
      intro remembers
      rw [Borrower.remember] at remembers
      split at remembers
      · next has => exact ⟨handle, has⟩
      · exact absurd rfl remembers
  | adjusted handle =>
      cases known : (shared.borrower process).memory with
      | none => simpa [Shared.apply, known] using settled
      | some setting => exact settled_memory settled known held
  | restored handle =>
      cases known : (shared.borrower process).memory with
      | none => simpa [Shared.apply, known] using settled
      | some setting => exact settled_memory settled known held
  | returned handle =>
      simp only [Shared.apply] at held ⊢
      split
      · next has =>
          rw [if_pos has] at held
          exact settled_give_back settled has orderly held
      · exact settled

/-! ## A handle that is not returned -/

/-- As long as the handle is not returned, everybody finds `mode`. -/
theorem guarded_step (again : install mode = mode) (adjusts : adjust mode = mode)
    {keeper : Process} {guard : Handle} (guarded : Guarded mode keeper guard shared)
    {call : Process × Call Handle} (stays : call ≠ (keeper, .returned guard)) :
      Guarded mode keeper guard (shared.apply install adjust call.1 call.2) := by
  obtain ⟨process, call⟩ := call
  have value := guarded.setting
  have keeps := fun (borrower : Borrower Handle Setting)
      (same : borrower.has = (shared.borrower process).has) =>
    (shared.lent_set_same mode same keeper guard).mpr guarded.lent
  cases call with
  | noted =>
      simp only [Shared.apply, value]
      exact guarded_set guarded (keeps _ rfl) (fun _ => rfl) (fun _ _ _ => rfl)
        (guarded.memory process)
  | gaveUp =>
      simp only [Shared.apply, value]
      exact guarded_set guarded (keeps _ rfl)
        (fun installing => absurd installing Bool.false_ne_true) (guarded.others process)
        (guarded.memory process)
  | installed handle =>
      simp only [Shared.apply]
      split
      · next installing =>
          have kept := guarded.installing process installing
          rw [kept, again]
          refine guarded_set guarded ?_ (fun _ => kept) (fun _ _ _ => kept)
            (guarded.memory process)
          exact (shared.lent_take _ _ _ _ _).mpr (Or.inr guarded.lent)
      · exact guarded
  | used handle => exact guarded
  | remembered handle =>
      simp only [Shared.apply, value]
      refine guarded_set guarded (keeps _ rfl) (guarded.installing process)
        (guarded.others process) ?_
      intro setting known
      rw [Borrower.remember] at known
      split at known
      · exact (Option.some.inj known).symm
      · exact absurd known (by simp)
  | adjusted handle =>
      cases known : (shared.borrower process).memory with
      | none => simpa [Shared.apply, known] using guarded
      | some setting =>
          have same : adjust setting = mode := by rw [guarded.memory process setting known, adjusts]
          simp only [Shared.apply, known]
          exact ⟨same, guarded.lent, guarded.installing, guarded.others, guarded.memory⟩
  | restored handle =>
      cases known : (shared.borrower process).memory with
      | none => simpa [Shared.apply, known] using guarded
      | some setting =>
          have same : setting = mode := guarded.memory process setting known
          simp only [Shared.apply, known]
          exact ⟨same, guarded.lent, guarded.installing, guarded.others, guarded.memory⟩
  | returned handle =>
      simp only [Shared.apply]
      split
      · next has =>
          have another : ¬(process = keeper ∧ handle = guard) := by
            rintro ⟨rfl, rfl⟩
            exact stays rfl
          have kept := guarded.others process handle has another
          rw [kept]
          refine guarded_set guarded ?_ (fun _ => kept) (fun _ _ _ => kept)
            (by simp [Borrower.giveBack])
          refine (shared.lent_give_back _ _ _ _ _).mpr ⟨guarded.lent, ?_⟩
          rintro ⟨rfl, rfl⟩
          exact another ⟨rfl, rfl⟩
      · exact guarded

/-! ## A setting that nobody installs again -/

def Call.isUse : Call Handle → Bool
  | .used _ => true
  | .remembered _ => true
  | .adjusted _ => true
  | .restored _ => true
  | _ => false

structure Lost (adjust : Setting → Setting) (rest : Setting)
    (shared : Shared Process Handle Setting) : Prop where
  setting : shared.setting = rest ∨ shared.setting = adjust rest
  memory : ∀ process, ∀ setting ∈ (shared.borrower process).memory,
    setting = rest ∨ setting = adjust rest

theorem lost_step (twice : adjust (adjust rest) = adjust rest) (lost : Lost adjust rest shared)
    {call : Process × Call Handle} (uses : call.2.isUse = true) :
      Lost adjust rest (shared.apply install adjust call.1 call.2) := by
  obtain ⟨process, call⟩ := call
  cases call with
  | noted => exact absurd uses Bool.false_ne_true
  | gaveUp => exact absurd uses Bool.false_ne_true
  | installed handle => exact absurd uses Bool.false_ne_true
  | returned handle => exact absurd uses Bool.false_ne_true
  | used handle => exact lost
  | remembered handle =>
      refine ⟨lost.setting, ?_⟩
      refine (Function.forall_update_iff _ fun _ (borrower : Borrower Handle Setting) =>
        ∀ setting ∈ borrower.memory, setting = rest ∨ setting = adjust rest).mpr
          ⟨?_, fun other _ => lost.memory other⟩
      intro setting known
      rw [Borrower.remember] at known
      split at known
      · exact Option.some.inj known ▸ lost.setting
      · exact absurd known (by simp)
  | adjusted handle =>
      cases known : (shared.borrower process).memory with
      | none => simpa [Shared.apply, known] using lost
      | some setting =>
          have adjusted : adjust setting = adjust rest := by
            rcases lost.memory process setting known with same | same
            · rw [same]
            · rw [same, twice]
          simp only [Shared.apply, known]
          exact ⟨Or.inr adjusted, lost.memory⟩
  | restored handle =>
      cases known : (shared.borrower process).memory with
      | none => simpa [Shared.apply, known] using lost
      | some setting =>
          simp only [Shared.apply, known]
          exact ⟨lost.memory process setting known, lost.memory⟩

end Modes

section Calls

variable (install adjust : Setting → Setting)

def after (initial : Shared Process Handle Setting) (trace : List (Process × Call Handle)) :
    Shared Process Handle Setting :=
  trace.foldl (fun shared call => shared.apply install adjust call.1 call.2) initial

theorem after_append (initial : Shared Process Handle Setting)
    (front back : List (Process × Call Handle)) :
      after install adjust initial (front ++ back) =
        after install adjust (after install adjust initial front) back :=
  List.foldl_append ..

theorem after_snoc (initial : Shared Process Handle Setting)
    (trace : List (Process × Call Handle)) (call : Process × Call Handle) :
      after install adjust initial (trace ++ [call]) =
        (after install adjust initial trace).apply install adjust call.1 call.2 :=
  after_append install adjust initial trace [call]

end Calls

section Runs

variable {install adjust : Setting → Setting} {rest mode : Setting}

/-- What holds of a shared state and is kept by every call that is as demanded holds after
every trace of such calls. -/
theorem after_invariant (invariant : Shared Process Handle Setting → Prop)
    (demand : Shared Process Handle Setting → Process × Call Handle → Prop)
    {initial : Shared Process Handle Setting} (holds : invariant initial)
    (kept : ∀ shared call, invariant shared → demand shared call →
      invariant (shared.apply install adjust call.1 call.2))
    {trace : List (Process × Call Handle)}
    (judged : Judged (fun before call => demand (after install adjust initial before) call) trace) :
      invariant (after install adjust initial trace) := by
  induction trace using List.reverseRecOn with
  | nil => exact holds
  | append_singleton front call ih =>
      rw [after_snoc]
      exact kept _ _ (ih (judged_front judged)) (judged_last judged)

theorem after_calls (invariant : Shared Process Handle Setting → Prop)
    (kind : Process × Call Handle → Prop)
    (kept : ∀ shared call, invariant shared → kind call →
      invariant (shared.apply install adjust call.1 call.2))
    {shared : Shared Process Handle Setting} (holds : invariant shared)
    {trace : List (Process × Call Handle)} (all : ∀ call ∈ trace, kind call) :
      invariant (after install adjust shared trace) := by
  apply after_invariant invariant (fun _ => kind) holds kept
  rintro before call later rfl
  exact all call (by simp)

/-- Whoever has a handle always finds `mode` exactly if every process that puts back
another setting is the last one to have a handle. -/
theorem mode_held_iff (empty : Setting) (installs : install rest = mode)
    (again : install mode = mode) (adjusts : adjust mode = mode)
    (trace : List (Process × Call Handle)) :
      (∀ front, front <+: trace → ∀ process handle,
        (after install adjust (unborrowed empty rest) front).lent process handle →
          (after install adjust (unborrowed empty rest) front).setting = mode) ↔
        Judged (fun before call =>
          LeavesLast mode (after install adjust (unborrowed empty rest) before) call) trace := by
  constructor
  · intro always before call later split handle returned has another process other lent
    by_contra apart
    have next := always (before ++ [call]) ⟨later, by rw [split]; simp⟩ process other
    rw [after_snoc, returned, Shared.apply, if_pos (show Borrower.has _ _ = true from has)] at next
    exact another (next ((Shared.lent_give_back _ _ _ _ _ _).mpr ⟨lent, apart⟩))
  · rintro judged front ⟨rest', split⟩ process handle lent
    have held : Held rest mode (after install adjust (unborrowed empty rest) front) :=
      after_invariant (Held rest mode) (LeavesLast mode) (held_unborrowed empty rest mode)
        (fun _ _ held last => held_step installs again adjusts held last)
        (judged_front (split ▸ judged))
    exact held.shown process handle lent

end Runs

end BorrowedSetting
