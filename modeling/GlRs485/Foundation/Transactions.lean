import GlRs485.Foundation.TracedSystem

/-!
# Traces made of whole transactions

A system serves one request after the other when what its runs show, restricted to
the events of interest, is a sequence of whole blocks. It is enough that each step
shows such a sequence.
-/

namespace TracedSystem

set_option autoImplicit false

variable {Event : Type*}

/-- The trace is cut into blocks, from its start to its end. -/
inductive Serial (Block : List Event → Prop) : List Event → Prop
  | start : Serial Block []
  | next {trace block : List Event} (earlier : Serial Block trace) (whole : Block block) :
      Serial Block (trace ++ block)

theorem serial_block {Block : List Event → Prop} {block : List Event} (whole : Block block) :
    Serial Block block := by
  rw [← List.nil_append block]
  exact .next .start whole

theorem serial_append {Block : List Event → Prop} {front back : List Event}
    (first : Serial Block front) (second : Serial Block back) : Serial Block (front ++ back) := by
  induction second with
  | start => simpa using first
  | next earlier whole ih =>
      rw [← List.append_assoc]
      exact .next ih whole

/-- What holds of the empty trace and is kept by every block holds of the whole. -/
theorem serial_invariant {Block : List Event → Prop} (invariant : List Event → Prop)
    (holds : invariant [])
    (kept : ∀ trace block, invariant trace → Block block → invariant (trace ++ block))
    {trace : List Event} (serial : Serial Block trace) : invariant trace := by
  induction serial with
  | start => exact holds
  | next earlier whole ih => exact kept _ _ ih whole

end TracedSystem
