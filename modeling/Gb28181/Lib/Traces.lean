import Mathlib.Tactic.Common
import Mathlib.Data.List.Induction
import Mathlib.Data.List.Perm.Basic

namespace Gb28181.Lib

universe u v w x

section Traces

variable {State : Type u} {Input : Type v} {Output : Type w}
  (step : State → Input → State × List Output)

/-- The state after the inputs, and all that was given out on the way. -/
def trace : State → List Input → State × List Output
  | state, [] => (state, [])
  | state, input :: inputs =>
    let now := step state input
    let later := trace now.1 inputs
    (later.1, now.2 ++ later.2)

variable {step} {start : State} {inputs earlier later : List Input} {input : Input}

theorem trace_append : trace step start (earlier ++ later) =
    ((trace step (trace step start earlier).1 later).1,
      (trace step start earlier).2 ++ (trace step (trace step start earlier).1 later).2) := by
  induction earlier generalizing start with
  | nil => rfl
  | cons input earlier ih =>
    rw [List.cons_append, trace, ih]
    dsimp only [trace]
    rw [List.append_assoc]

theorem trace_concat : trace step start (inputs ++ [input]) =
    ((step (trace step start inputs).1 input).1,
      (trace step start inputs).2 ++ (step (trace step start inputs).1 input).2) := by
  rw [trace_append]
  dsimp only [trace]
  rw [List.append_nil]

/-- What holds at first, of the state and what was given out so far, and is kept by every
step, holds at the end. -/
theorem trace_induction (kept : State → List Output → Prop) (first : kept start [])
    (keeps : ∀ state past input, kept state past →
      kept (step state input).1 (past ++ (step state input).2)) :
    kept (trace step start inputs).1 (trace step start inputs).2 := by
  induction inputs using List.reverseRecOn with
  | nil => exact first
  | append_singleton earlier input ih =>
    rw [trace_concat]
    exact keeps _ _ input ih

/-- The same for steps that meet a condition on the inputs. -/
theorem trace_induction_on (kept : State → List Output → Prop) {allowed : Input → Prop}
    (first : kept start []) (all : ∀ input ∈ inputs, allowed input)
    (keeps : ∀ state past input, allowed input → kept state past →
      kept (step state input).1 (past ++ (step state input).2)) :
    kept (trace step start inputs).1 (trace step start inputs).2 := by
  induction inputs using List.reverseRecOn with
  | nil => exact first
  | append_singleton earlier input ih =>
    rw [trace_concat]
    have here := all input (List.mem_append_right _ List.mem_cons_self)
    exact keeps _ _ input here (ih fun input member => all input (List.mem_append_left _ member))

/-- Where every step gives as many signals as it raises a level, so does every run. -/
theorem countP_trace {level : State → Nat} {signal : Output → Bool}
    (raises : ∀ state input,
      level state + (step state input).2.countP signal = level (step state input).1) :
    level start + (trace step start inputs).2.countP signal =
      level (trace step start inputs).1 := by
  apply trace_induction (fun state past => level start + past.countP signal = level state)
  · rfl
  · intro state past input kept
    rw [List.countP_append, ← Nat.add_assoc, kept, raises]

/-- Where every step raises the level at least so much. -/
theorem countP_trace_le {level : State → Nat} {signal : Output → Bool}
    (raises : ∀ state input,
      level state + (step state input).2.countP signal ≤ level (step state input).1) :
    level start + (trace step start inputs).2.countP signal ≤
      level (trace step start inputs).1 := by
  apply trace_induction (fun state past => level start + past.countP signal ≤ level state)
  · exact Nat.le_refl _
  · intro state past input kept
    rw [List.countP_append, ← Nat.add_assoc]
    exact Nat.le_trans (Nat.add_le_add_right kept _) (raises state input)

/-- What an ended machine gives out is all of the kind that it may still give out. -/
theorem all_trace_of_ended {ended : State → Prop} {quiet : Output → Prop} (finished : ended start)
    (silent : ∀ state input, ended state →
      ended (step state input).1 ∧ ∀ output ∈ (step state input).2, quiet output) :
    ended (trace step start inputs).1 ∧ ∀ output ∈ (trace step start inputs).2, quiet output := by
  apply trace_induction (fun state past => ended state ∧ ∀ output ∈ past, quiet output)
  · exact ⟨finished, fun output member => absurd member List.not_mem_nil⟩
  · intro state past input kept
    obtain ⟨still, quiets⟩ := silent state input kept.1
    exact ⟨still, List.forall_mem_append.mpr ⟨kept.2, quiets⟩⟩

end Traces

end Gb28181.Lib
