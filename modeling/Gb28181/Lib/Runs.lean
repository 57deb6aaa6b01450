import Mathlib.Tactic.Common
import Mathlib.Data.List.Infix

namespace Gb28181.Lib

universe u v

variable {State : Type u} {Input : Type v} (next : State → Input → State)

/-- A property of every state of a run, the first and the last included. -/
def Throughout (property : State → Prop) : State → List Input → Prop
  | state, [] => property state
  | state, input :: inputs => property state ∧ Throughout property (next state input) inputs

/-- A condition on every input and the state that takes it. -/
def EveryStep (condition : State → Input → Prop) : State → List Input → Prop
  | _, [] => True
  | state, input :: inputs => condition state input ∧ EveryStep condition (next state input) inputs

variable {next} {property sound : State → Prop} {condition : State → Input → Prop} {state : State}
  {input : Input} {inputs earlier later : List Input}

instance [DecidablePred property] : Decidable (Throughout next property state inputs) :=
  let rec decide : (state : State) → (inputs : List Input) →
      Decidable (Throughout next property state inputs)
    | state, [] => inferInstanceAs (Decidable (property state))
    | state, input :: inputs =>
      have := decide (next state input) inputs
      inferInstanceAs (Decidable (property state ∧ _))
  decide state inputs

instance [∀ state input, Decidable (condition state input)] :
    Decidable (EveryStep next condition state inputs) :=
  let rec decide : (state : State) → (inputs : List Input) →
      Decidable (EveryStep next condition state inputs)
    | _, [] => inferInstanceAs (Decidable True)
    | state, input :: inputs =>
      have := decide (next state input) inputs
      inferInstanceAs (Decidable (condition state input ∧ _))
  decide state inputs

theorem Throughout.first (holds : Throughout next property state inputs) : property state := by
  cases inputs with
  | nil => exact holds
  | cons => exact holds.1

theorem throughout_append : Throughout next property state (earlier ++ later) ↔
    Throughout next property state earlier ∧
      Throughout next property (earlier.foldl next state) later := by
  induction earlier generalizing state with
  | nil => exact ⟨fun holds => ⟨holds.first, holds⟩, And.right⟩
  | cons input earlier ih => rw [List.cons_append, Throughout, Throughout, ih, List.foldl_cons, and_assoc]

theorem Throughout.last (holds : Throughout next property state inputs) :
    property (inputs.foldl next state) := by
  rw [← List.append_nil inputs] at holds
  exact (throughout_append.mp holds).2

/-- What holds at first and is kept by the steps of the run holds throughout. -/
theorem throughout_of_everyStep (first : property state)
    (kept : ∀ state input, property state → condition state input → property (next state input))
    (steps : EveryStep next condition state inputs) : Throughout next property state inputs := by
  induction inputs generalizing state with
  | nil => exact first
  | cons input inputs ih => exact ⟨first, ih (kept state input first steps.1) steps.2⟩

theorem everyStep_of_throughout (holds : Throughout next property state inputs)
    (implies : ∀ state input, property state → condition state input) :
    EveryStep next condition state inputs := by
  induction inputs generalizing state with
  | nil => trivial
  | cons input inputs ih => exact ⟨implies state input holds.1, ih holds.2⟩

/-- Where a step keeps the property exactly under a condition, the property holds
throughout a run exactly when the condition is met by every step. -/
theorem throughout_iff_everyStep (safe : sound state) (first : property state)
    (kept : ∀ state, ∀ input ∈ inputs, sound state → property state →
      property (next state input) → sound (next state input))
    (exact_step : ∀ state, ∀ input ∈ inputs, sound state → property state →
      (property (next state input) ↔ condition state input)) :
    Throughout next property state inputs ↔ EveryStep next condition state inputs := by
  induction inputs generalizing state with
  | nil => exact iff_of_true first trivial
  | cons input inputs ih =>
    have step := exact_step state input List.mem_cons_self safe first
    have rest : property (next state input) →
        (Throughout next property (next state input) inputs ↔
          EveryStep next condition (next state input) inputs) := by
      intro after
      exact ih (kept state input List.mem_cons_self safe first after) after
        (fun state input member => kept state input (List.mem_cons_of_mem _ member))
        (fun state input member => exact_step state input (List.mem_cons_of_mem _ member))
    constructor
    · rintro ⟨-, later⟩
      have after := later.first
      exact ⟨step.mp after, (rest after).mp later⟩
    · rintro ⟨meets, later⟩
      exact ⟨first, (rest (step.mpr meets)).mpr later⟩

section Failing

variable {Error : Type v} {Item : Type v} {step : State → Item → Except Error State}
  {begin last : State} {items : List Item} {item : Item} {error : Error}

theorem foldlM_concat_ok : (items ++ [item]).foldlM step begin = .ok last ↔
    ∃ state, items.foldlM step begin = .ok state ∧ step state item = .ok last := by
  rw [List.foldlM_append]
  cases items.foldlM step begin with
  | error error =>
    constructor
    · intro wrong
      cases wrong
    · rintro ⟨state, wrong, -⟩
      cases wrong
  | ok state =>
    have single : [item].foldlM step state = step state item := by
      rw [List.foldlM_cons]
      exact bind_pure (step state item)
    simp only [Except.ok.injEq, exists_eq_left']
    exact (congrArg (· = .ok last) single).to_iff

/-- A run that does not go through ends with the first step that fails. -/
theorem exists_of_foldlM_error (failed : items.foldlM step begin = .error error) :
    ∃ earlier item state, earlier ++ [item] <+: items ∧
      earlier.foldlM step begin = .ok state ∧ step state item = .error error := by
  induction items generalizing begin with
  | nil => cases failed
  | cons item items ih =>
    rw [List.foldlM_cons] at failed
    cases first : step begin item with
    | error error' =>
      rw [first] at failed
      cases failed
      exact ⟨[], item, begin, List.prefix_append [item] items, rfl, first⟩
    | ok state =>
      rw [first] at failed
      obtain ⟨earlier, failing, last, shape, ran, fails⟩ := ih failed
      refine ⟨item :: earlier, failing, last, List.cons_prefix_cons.mpr ⟨rfl, shape⟩, ?_, fails⟩
      rw [List.foldlM_cons, first]
      exact ran

end Failing

end Gb28181.Lib
