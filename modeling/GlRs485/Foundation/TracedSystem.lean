import Mathlib.Data.List.Basic

/-!
# Runs of a deterministic system driven by its environment

A system is a partial step function: in a state, one answer of the environment
gives the next state and the events of the step. A run is a finite sequence of
steps whose answers an `allowed` relation admits, with the events collected in
order. Every prefix of a run is a run, so a property of the last state of every
run is a property of every state reached.
-/

namespace TracedSystem

set_option autoImplicit false

variable {State Input Event : Type*}

abbrev StepFunction (State Input Event : Type*) :=
  State → Input → Option (State × List Event)

inductive Run (step : StepFunction State Input Event) (allowed : State → Input → Prop)
    (initial : State) : List Event → State → Prop
  | start : Run step allowed initial [] initial
  | next {trace events : List Event} {state after : State} {input : Input}
      (earlier : Run step allowed initial trace state)
      (admitted : allowed state input)
      (taken : step state input = some (after, events)) :
      Run step allowed initial (trace ++ events) after

/-- The run rule: what holds at the start and is kept by every admitted step
holds of every state reached, together with the trace that led there. -/
theorem run_invariant {step : StepFunction State Input Event}
    {allowed : State → Input → Prop} {initial : State}
    (invariant : List Event → State → Prop) (holds : invariant [] initial)
    (kept : ∀ trace state input after events, invariant trace state →
      allowed state input → step state input = some (after, events) →
        invariant (trace ++ events) after)
    {trace : List Event} {state : State} (run : Run step allowed initial trace state) :
      invariant trace state := by
  induction run with
  | start => exact holds
  | next earlier admitted taken ih =>
      exact kept _ _ _ _ _ ih admitted taken

theorem run_trans {step : StepFunction State Input Event}
    {allowed : State → Input → Prop} {initial middle final : State}
    {first second : List Event} (before : Run step allowed initial first middle)
    (after : Run step allowed middle second final) :
      Run step allowed initial (first ++ second) final := by
  induction after with
  | start => simpa using before
  | next earlier admitted taken ih =>
      rw [← List.append_assoc]
      exact .next ih admitted taken

theorem notes_unchanged {Note : Type*} (record : Note → Event → Note) (note : Note)
    (events : List Event) (unchanged : ∀ event ∈ events, record note event = note) :
      events.foldl record note = note := by
  induction events with
  | nil => rfl
  | cons event rest ih =>
      rw [List.foldl_cons, unchanged event (by simp)]
      exact ih fun later member => unchanged later (by simp [member])

/-- Every event of the trace is as the events before it demand. -/
def Judged (judge : List Event → Event → Prop) (trace : List Event) : Prop :=
  ∀ before event after, trace = before ++ event :: after → judge before event

theorem judged_nil (judge : List Event → Event → Prop) : Judged judge [] := by
  intro before event after split
  simp at split

theorem judged_snoc {judge : List Event → Event → Prop} {trace : List Event} {last : Event}
    (earlier : Judged judge trace) (judged : judge trace last) :
      Judged judge (trace ++ [last]) := by
  intro before event after split
  rcases List.eq_nil_or_concat after with none | ⟨rest, final, some⟩
  · rw [none] at split
    obtain ⟨sameTrace, sameEvent⟩ := List.append_inj' split rfl
    rw [← sameTrace, ← List.singleton_inj.mp sameEvent]
    exact judged
  · rw [some, List.concat_eq_append, ← List.cons_append, ← List.append_assoc] at split
    exact earlier before event rest (List.append_inj' split rfl).1

theorem judged_front {judge : List Event → Event → Prop} {trace rest : List Event}
    (all : Judged judge (trace ++ rest)) : Judged judge trace := by
  intro before event after split
  apply all before event (after ++ rest)
  rw [split, List.append_assoc, List.cons_append]

theorem judged_last {judge : List Event → Event → Prop} {trace : List Event} {last : Event}
    (all : Judged judge (trace ++ [last])) : judge trace last := all trace last [] rfl

/-- A judgement position by position, for traces that are written out. -/
theorem judged_of_positions {judge : List Event → Event → Prop} {trace : List Event}
    (each : ∀ i : Fin trace.length, judge (trace.take i) (trace.get i)) : Judged judge trace := by
  intro before event after split
  have inside : before.length < trace.length := by
    rw [split, List.length_append, List.length_cons]
    omega
  have here := each ⟨before.length, inside⟩
  subst split
  simpa using here

theorem judged_append {judge : List Event → Event → Prop} {trace events : List Event}
    (earlier : Judged judge trace) (always : ∀ before, ∀ event ∈ events, judge before event) :
      Judged judge (trace ++ events) := by
  induction events generalizing trace with
  | nil => simpa using earlier
  | cons event rest ih =>
      have first : Judged judge (trace ++ [event]) :=
        judged_snoc earlier (always trace event (by simp))
      have all := ih first fun before later member => always before later (by simp [member])
      rwa [List.append_assoc] at all

section Observing

variable {Seen : Type*}

/-- The same system with its steps shown as an observer notes them down, who
sees the answers of the environment too. -/
def observing (step : StepFunction State Input Event)
    (observe : State → Input → List Event → List Seen) : StepFunction State Input Seen :=
  fun state input => (step state input).map fun taken => (taken.1, observe state input taken.2)

theorem observing_taken {step : StepFunction State Input Event}
    {observe : State → Input → List Event → List Seen} {state after : State} {input : Input}
    {seen : List Seen} (taken : observing step observe state input = some (after, seen)) :
      ∃ events, step state input = some (after, events) ∧ seen = observe state input events := by
  obtain ⟨⟨reached, events⟩, stepped, shown⟩ := Option.map_eq_some_iff.mp taken
  obtain ⟨rfl, rfl⟩ := Prod.mk.inj shown
  exact ⟨events, stepped, rfl⟩

end Observing

section Histories

variable {Effect : Type*}

/-- A state that some run leads to and that is ready for what comes next. -/
def Reached (step : StepFunction State Input Event) (allowed : State → Input → Prop)
    (initial : State) (ready : State → Prop) (state : State) : Prop :=
  ∃ trace, Run step allowed initial trace state ∧ ready state

/-- After any two runs the effect is the same. -/
def HistoryFree (reached : State → Prop) (effect : State → Effect) : Prop :=
  ∀ left right, reached left → reached right → effect left = effect right

theorem historyFree_iff {reached : State → Prop} {effect : State → Effect} {first : State}
    (here : reached first) :
      HistoryFree reached effect ↔ ∀ state, reached state → effect first = effect state := by
  constructor
  · intro free state there
    exact free first state here there
  · intro same left right reachedLeft reachedRight
    exact (same left reachedLeft).symm.trans (same right reachedRight)

theorem reached_invariant {step : StepFunction State Input Event}
    {allowed : State → Input → Prop} {initial : State} {ready : State → Prop}
    (invariant : State → Prop) (holds : invariant initial)
    (kept : ∀ state input after events, invariant state → allowed state input →
      step state input = some (after, events) → invariant after)
    {state : State} (reached : Reached step allowed initial ready state) : invariant state := by
  obtain ⟨trace, run, _⟩ := reached
  exact run_invariant (fun _ => invariant) holds
    (fun _ state input after events before => kept state input after events before) run

end Histories

section Replay

variable (step : StepFunction State Input Event) (allowed : State → Input → Prop)
variable [∀ state input, Decidable (allowed state input)]

/-- Replays a list of admitted answers; used to exhibit concrete runs. -/
def replay : State → List Input → Option (State × List Event)
  | state, [] => some (state, [])
  | state, input :: rest =>
      if allowed state input then
        match step state input with
        | none => none
        | some (after, events) =>
            match replay after rest with
            | none => none
            | some (final, later) => some (final, events ++ later)
      else none

theorem run_of_replay (inputs : List Input) (initial final : State) (trace : List Event)
    (replayed : replay step allowed initial inputs = some (final, trace)) :
      Run step allowed initial trace final := by
  induction inputs generalizing initial trace with
  | nil =>
      simp only [replay, Option.some.injEq, Prod.mk.injEq] at replayed
      rw [← replayed.1, ← replayed.2]
      exact .start
  | cons input rest ih =>
      unfold replay at replayed
      split at replayed
      · next admitted =>
          cases taken : step initial input with
          | none => simp [taken] at replayed
          | some result =>
              cases later : replay step allowed result.1 rest with
              | none => simp [taken, later] at replayed
              | some reached =>
                  simp only [taken, later, Option.some.injEq, Prod.mk.injEq] at replayed
                  have head : Run step allowed initial ([] ++ result.2) result.1 :=
                    .next .start admitted taken
                  rw [← replayed.2]
                  exact run_trans head (ih result.1 reached.2 (replayed.1 ▸ later))
      · simp at replayed

/-- A replay seen through a view that can be compared. -/
theorem run_of_replay_view {View : Type*} (view : State × List Event → View) (inputs : List Input)
    (initial : State) (seen : View)
    (replayed : (replay step allowed initial inputs).map view = some seen) :
      ∃ final trace, Run step allowed initial trace final ∧ view (final, trace) = seen := by
  obtain ⟨reached, found, shown⟩ := Option.map_eq_some_iff.mp replayed
  exact ⟨reached.1, reached.2, run_of_replay step allowed inputs initial reached.1 reached.2 found,
    shown⟩

end Replay

end TracedSystem
