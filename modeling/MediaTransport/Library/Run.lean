import Mathlib.Tactic

namespace MediaTransport.Library

/-!
# Runs of a deterministic machine

A machine is a step function; a run is the fold of its inputs.  `Admitted`
states that every input of a run meets a condition on the state in which it
is taken, so a condition about "every step of the run" is a single
hypothesis.  The two induction principles below are the only inductions over
whole runs that the protocol proofs need.
-/

variable {State Input : Type*} {Other OtherInput : Type*}

/-- The state a machine reaches after the listed inputs, oldest first. -/
def run (step : State -> Input -> State) : State -> List Input -> State
  | state, [] => state
  | state, input :: rest => run step (step state input) rest

/-- Every input is taken in a state in which `guard` admits it. -/
def Admitted (step : State -> Input -> State) (guard : State -> Input -> Prop) :
    State -> List Input -> Prop
  | _, [] => True
  | state, input :: rest => guard state input ∧ Admitted step guard (step state input) rest

instance Admitted.decidable (step : State -> Input -> State) (guard : State -> Input -> Prop)
    [decide : forall state input, Decidable (guard state input)] :
    forall (state : State) (inputs : List Input), Decidable (Admitted step guard state inputs)
  | _, [] => inferInstanceAs (Decidable True)
  | state, input :: rest =>
    have := Admitted.decidable step guard (step state input) rest
    inferInstanceAs (Decidable (guard state input ∧ Admitted step guard _ rest))

section

variable (step : State -> Input -> State)

variable (guard : State -> Input -> Prop) (state : State)

@[simp] theorem run_nil :
    run step state [] = state := rfl

@[simp] theorem run_cons (input : Input) (rest : List Input)
    : run step state (input :: rest) = run step (step state input) rest := rfl

theorem run_append (first second : List Input) :
    run step state (first ++ second) = run step (run step state first) second := by
  induction first generalizing state with
  | nil => rfl
  | cons input rest ih => exact ih (step state input)

theorem admitted_of_forall {condition : Input -> Prop}
    {state : State} {inputs : List Input} (all : ∀ input ∈ inputs, condition input) :
    Admitted step (fun _ input => condition input) state inputs := by
  induction inputs generalizing state with
  | nil => trivial
  | cons input rest ih =>
    exact ⟨all input List.mem_cons_self,
      ih (fun other member => all other (List.mem_cons_of_mem input member))⟩

theorem admitted_append (first second : List Input) :
    Admitted step guard state (first ++ second) ↔
      Admitted step guard state first ∧ Admitted step guard (run step state first) second := by
  induction first generalizing state with
  | nil => exact ⟨fun later => ⟨trivial, later⟩, And.right⟩
  | cons input rest ih =>
    show (guard state input ∧ Admitted step guard (step state input) (rest ++ second)) ↔ _
    rw [ih (step state input), ← and_assoc]
    rfl

/-- What holds of every step that an invariant and the guard admit is admitted along the run. -/
theorem admitted_of_invariant (invariant : State -> Prop) {goal : State -> Input -> Prop}
    (preserved : forall state input, invariant state -> guard state input ->
      invariant (step state input))
    (gives : forall state input, invariant state -> guard state input -> goal state input)
    {state : State} {inputs : List Input} (initially : invariant state)
    (admitted : Admitted step guard state inputs) : Admitted step goal state inputs := by
  induction inputs generalizing state with
  | nil => trivial
  | cons input rest ih =>
    exact ⟨gives state input initially admitted.1,
      ih (preserved state input initially admitted.1) admitted.2⟩

theorem run_invariant (invariant : State -> Prop)
    (preserved : forall state input, invariant state -> guard state input ->
      invariant (step state input)) {state : State} {inputs : List Input} (initially : invariant state)
    (admitted : Admitted step guard state inputs) : invariant (run step state inputs) := by
  induction inputs generalizing state with
  | nil => exact initially
  | cons input rest ih =>
    exact ih (preserved state input initially admitted.1) admitted.2

/-- Two machines whose related states step to related states on related
inputs stay related along a whole run. -/
theorem run_simulation (other : Other -> OtherInput -> Other)
    (guard : State -> Input -> Prop) (related : State -> Other -> Prop)
    (translate : Input -> OtherInput)
    (preserved : forall state image input, related state image -> guard state input ->
      related (step state input) (other image (translate input)))
    {state : State} {image : Other} {inputs : List Input} (initially : related state image)
    (admitted : Admitted step guard state inputs) :
    related (run step state inputs) (run other image (inputs.map translate)) := by
  induction inputs generalizing state image with
  | nil => exact initially
  | cons input rest ih =>
    exact ih (preserved state image input initially admitted.1) admitted.2

/-- A machine whose every step has a matching one of another machine has a matching run for each run. -/
theorem run_refinement (other : Other -> OtherInput -> Other) (image : State -> Other)
    (outlines : Input -> OtherInput -> Prop)
    (matched : forall state input, exists outline, outlines input outline ∧
      image (step state input) = other (image state) outline) (inputs : List Input) :
    exists others, List.Forall₂ outlines inputs others ∧
      image (run step state inputs) = run other (image state) others := by
  induction inputs generalizing state with
  | nil => exact ⟨[], .nil, rfl⟩
  | cons input rest ih =>
    rcases matched state input with ⟨outline, outlined, same⟩
    rcases ih (step state input) with ⟨others, later, reached⟩
    refine ⟨outline :: others, .cons outlined later, ?_⟩
    rw [run_cons, run_cons, reached, same]

end

end MediaTransport.Library
