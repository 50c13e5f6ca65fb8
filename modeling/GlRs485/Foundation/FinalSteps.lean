import GlRs485.Foundation.TracedSystem

/-!
# Steps after which a system does nothing more

A step is final when no input takes the system on from where it leads. Where the final steps
of a system are known by a condition on the state and the input, a run has come to its end
exactly when its last step met the condition, and no step before it can have met it.
-/

namespace FinalSteps

open TracedSystem

set_option autoImplicit false

variable {State Input Event : Type*}

/-- No input takes the system on. -/
def Stopped (step : StepFunction State Input Event) (state : State) : Prop :=
  ∀ input, step state input = none

/-- The condition tells the final steps among those of the runs. -/
def TellsFinal (step : StepFunction State Input Event) (allowed : State → Input → Prop)
    (initial : State) (final : State → Input → Prop) : Prop :=
  ∀ {trace events : List Event} {state after : State} {input : Input},
    Run step allowed initial trace state → allowed state input →
      step state input = some (after, events) → (Stopped step after ↔ final state input)

def Spares (allowed final : State → Input → Prop) (state : State) (input : Input) : Prop :=
  allowed state input ∧ ¬final state input

/-- The run was ended by a final step, after steps that were not. -/
def Ended (step : StepFunction State Input Event) (allowed final : State → Input → Prop)
    (initial : State) (trace : List Event) (state : State) : Prop :=
  ∃ before last events input, Run step (Spares allowed final) initial before last ∧
    allowed last input ∧ final last input ∧ step last input = some (state, events) ∧
      trace = before ++ events

theorem stepped_not_stopped {step : StepFunction State Input Event} {state after : State}
    {input : Input} {events : List Event} (taken : step state input = some (after, events)) :
      ¬Stopped step state := by
  intro stopped
  rw [stopped input] at taken
  cases taken

theorem run_spared {step : StepFunction State Input Event} {allowed final : State → Input → Prop}
    {initial state : State} {trace : List Event} (tells : TellsFinal step allowed initial final)
    (run : Run step allowed initial trace state) (goes : ¬Stopped step state) :
      Run step (Spares allowed final) initial trace state := by
  induction run with
  | start => exact .start
  | next earlier admitted taken ih =>
      have spared := ih (stepped_not_stopped taken)
      exact .next spared ⟨admitted, mt (tells earlier admitted taken).mpr goes⟩ taken

theorem run_weaken {step : StepFunction State Input Event} {allowed final : State → Input → Prop}
    {initial state : State} {trace : List Event}
    (run : Run step (Spares allowed final) initial trace state) :
      Run step allowed initial trace state := by
  induction run with
  | start => exact .start
  | next _ admitted taken ih => exact .next ih admitted.1 taken

/-- The rule: a system that does not start stopped stops by a final step only. -/
theorem stopped_iff_ended {step : StepFunction State Input Event}
    {allowed final : State → Input → Prop} {initial state : State} {trace : List Event}
    (tells : TellsFinal step allowed initial final) (begins : ¬Stopped step initial)
    (run : Run step allowed initial trace state) :
      Stopped step state ↔ Ended step allowed final initial trace state := by
  constructor
  · intro stopped
    cases run with
    | start => exact absurd stopped begins
    | next earlier admitted taken =>
        exact ⟨_, _, _, _, run_spared tells earlier (stepped_not_stopped taken), admitted,
          (tells earlier admitted taken).mp stopped, taken, rfl⟩
  · rintro ⟨before, last, events, input, spared, admitted, ends, taken, _⟩
    exact (tells (run_weaken spared) admitted taken).mpr ends

end FinalSteps
