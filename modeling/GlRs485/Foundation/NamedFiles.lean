import Mathlib.Logic.Function.Basic

/-!
# Files under names

The files of a system by name, and what opening, writing and removing one does
to them. The calls of a program are a list; what they leave is read off name by
name, and calls on other names do not matter.
-/

namespace NamedFiles

set_option autoImplicit false

variable {Name Byte : Type*}

abbrev Files (Name Byte : Type*) := Name → Option (List Byte)

inductive OpenMode
  | append
  | read
  | truncate
  deriving DecidableEq

inductive FileCall (Name Byte : Type*)
  | opened (name : Name) (mode : OpenMode)
  | wrote (name : Name) (bytes : List Byte)
  | removed (name : Name)
  deriving DecidableEq

def FileCall.name : FileCall Name Byte → Name
  | .opened name _ => name
  | .wrote name _ => name
  | .removed name => name

variable [DecidableEq Name]

/-- Writing goes to the end of the file; a file opened to append is made if it is missing. -/
def FileCall.apply (files : Files Name Byte) : FileCall Name Byte → Files Name Byte
  | .opened name .append => Function.update files name (some ((files name).getD []))
  | .opened _ .read => files
  | .opened name .truncate => Function.update files name (some [])
  | .wrote name bytes => Function.update files name ((files name).map fun old => old ++ bytes)
  | .removed name => Function.update files name none

def after (files : Files Name Byte) (calls : List (FileCall Name Byte)) : Files Name Byte :=
  calls.foldl FileCall.apply files

def content (files : Files Name Byte) (name : Name) : List Byte := (files name).getD []

def size (files : Files Name Byte) (name : Name) : Nat := (content files name).length

section

variable (files : Files Name Byte) (name : Name)

@[simp] theorem after_nil : after files [] = files := rfl

@[simp] theorem after_cons (call : FileCall Name Byte) (calls : List (FileCall Name Byte)) :
    after files (call :: calls) = after (call.apply files) calls := rfl

theorem after_append (first second : List (FileCall Name Byte)) :
    after files (first ++ second) = after (after files first) second :=
  List.foldl_append

theorem apply_other (call : FileCall Name Byte) (apart : name ≠ call.name) :
    call.apply files name = files name := by
  cases call with
  | opened other mode =>
      cases mode with
      | append => exact Function.update_of_ne apart _ _
      | read => rfl
      | truncate => exact Function.update_of_ne apart _ _
  | wrote other bytes => exact Function.update_of_ne apart _ _
  | removed other => exact Function.update_of_ne apart _ _

theorem after_others (calls : List (FileCall Name Byte))
    (apart : ∀ call ∈ calls, name ≠ call.name) : after files calls name = files name := by
  induction calls generalizing files with
  | nil => rfl
  | cons call rest ih =>
      rw [after_cons, ih (call.apply files) fun later member => apart later (by simp [member]),
        apply_other files name call (apart call (by simp))]

@[simp] theorem appending_opens :
    FileCall.apply files (.opened name .append) name = some (content files name) :=
  Function.update_self _ _ _

@[simp] theorem truncating_empties :
    FileCall.apply files (.opened name .truncate) name = some [] :=
  Function.update_self _ _ _

@[simp] theorem reading_leaves : FileCall.apply files (.opened name .read) = files := rfl

@[simp] theorem removing_leaves_none : FileCall.apply files (.removed name) name = none :=
  Function.update_self _ _ _

@[simp] theorem writing_appends (bytes : List Byte) :
    FileCall.apply files (.wrote name bytes) name = (files name).map fun old => old ++ bytes :=
  Function.update_self _ _ _

theorem bytes_appended (bytes old : List Byte) (present : files name = some old) :
    after files (bytes.map fun c => .wrote name [c]) name = some (old ++ bytes) := by
  induction bytes generalizing files old with
  | nil => simpa using present
  | cons c rest ih =>
      rw [List.map_cons, after_cons, ih _ (old ++ [c]) (by simp [present]), List.append_assoc]
      rfl

theorem size_written (other : Name) (bytes : List Byte) :
    size (FileCall.apply files (.wrote other bytes)) name ≤ size files name + bytes.length := by
  by_cases same : name = other
  · subst same
    unfold size content
    rw [writing_appends]
    cases files name with
    | none => simp
    | some old => simp
  · have apart : name ≠ (FileCall.wrote other bytes).name := same
    rw [size, content, apply_other files name _ apart]
    exact Nat.le_add_right _ _

theorem size_appending : size (FileCall.apply files (.opened name .append)) name =
    size files name := by
  rw [size, content, appending_opens]
  rfl

end

end NamedFiles
