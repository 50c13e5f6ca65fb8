import Mathlib.Data.List.Nodup
import Mathlib.Logic.Function.Basic

/-!
# Values written under keys

One write after the other is laid over what is stored: a key that no write names keeps its
value, and one that a single write names takes the value of that write.
-/

namespace KeyedWrites

set_option autoImplicit false

variable {Key Value : Type*} [DecidableEq Key]

def writeAll (stored : Key → Value) (writes : List (Key × Value)) : Key → Value :=
  writes.foldl (fun stored write => Function.update stored write.1 write.2) stored

theorem write_all_cons (stored : Key → Value) (write : Key × Value) (rest : List (Key × Value)) :
    writeAll stored (write :: rest) =
      writeAll (Function.update stored write.1 write.2) rest := rfl

theorem write_all_other (stored : Key → Value) (writes : List (Key × Value)) (key : Key)
    (unnamed : key ∉ writes.map Prod.fst) : writeAll stored writes key = stored key := by
  induction writes generalizing stored with
  | nil => rfl
  | cons write rest ih =>
      rw [List.map_cons, List.mem_cons, not_or] at unnamed
      rw [write_all_cons, ih _ unnamed.2, Function.update_of_ne unnamed.1]

theorem write_all_written (stored : Key → Value) (writes : List (Key × Value))
    (apart : (writes.map Prod.fst).Nodup) {write : Key × Value} (member : write ∈ writes) :
      writeAll stored writes write.1 = write.2 := by
  induction writes generalizing stored with
  | nil => simp at member
  | cons first rest ih =>
      rw [List.map_cons, List.nodup_cons] at apart
      rw [write_all_cons]
      rcases List.mem_cons.mp member with rfl | later
      · rw [write_all_other _ _ _ apart.1, Function.update_self]
      · exact ih _ apart.2 later

theorem write_all_keeps (holds : Value → Prop) (stored : Key → Value)
    (writes : List (Key × Value)) (before : ∀ key, holds (stored key))
    (written : ∀ write ∈ writes, holds write.2) (key : Key) :
      holds (writeAll stored writes key) := by
  induction writes generalizing stored with
  | nil => exact before key
  | cons write rest ih =>
      rw [write_all_cons]
      apply ih _ _ fun later member => written later (by simp [member])
      intro other
      by_cases same : other = write.1
      · rw [same, Function.update_self]
        exact written write (by simp)
      · rw [Function.update_of_ne same]
        exact before other

end KeyedWrites
