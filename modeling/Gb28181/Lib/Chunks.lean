import Mathlib.Data.List.Infix
import Mathlib.Tactic.Common

namespace Gb28181.Lib

universe u

variable {Cell : Type u}

def chunks (size : Nat) (cells : List Cell) : List (List Cell) :=
  if 0 < size ∧ 0 < cells.length then cells.take size :: chunks size (cells.drop size) else []
termination_by cells.length
decreasing_by simp; omega

variable {size : Nat} {cells chunk : List Cell}

@[simp] theorem chunks_nil : chunks size ([] : List Cell) = [] := by
  simp [chunks]

theorem chunks_step (positive : 0 < size) (nonempty : 0 < cells.length) :
    chunks size cells = cells.take size :: chunks size (cells.drop size) := by
  rw [chunks, if_pos ⟨positive, nonempty⟩]

theorem chunks_induction (positive : 0 < size) {motive : List Cell → Prop} (nil : motive [])
    (step : ∀ cells : List Cell, 0 < cells.length → motive (cells.drop size) → motive cells)
    (cells : List Cell) : motive cells := by
  induction length : cells.length using Nat.strong_induction_on generalizing cells with
  | _ count ih =>
    cases cells with
    | nil => exact nil
    | cons cell cells =>
      apply step (cell :: cells) (by simp)
      refine ih _ ?_ _ rfl
      simp only [List.length_drop, List.length_cons] at length ⊢
      omega

theorem flatten_chunks (positive : 0 < size) (cells : List Cell) :
    (chunks size cells).flatten = cells := by
  induction cells using chunks_induction positive with
  | nil => simp
  | step cells nonempty ih => rw [chunks_step positive nonempty, List.flatten_cons, ih, List.take_append_drop]

theorem length_chunks (positive : 0 < size) (cells : List Cell) :
    (chunks size cells).length = (cells.length + (size - 1)) / size := by
  induction cells using chunks_induction positive with
  | nil =>
    have none : (size - 1) / size = 0 := Nat.div_eq_of_lt (by omega)
    simp [none]
  | step cells nonempty ih =>
    rw [chunks_step positive nonempty, List.length_cons, ih, List.length_drop]
    by_cases more : size ≤ cells.length
    · have split : cells.length + (size - 1) = cells.length - size + (size - 1) + size := by omega
      rw [split, Nat.add_div_right _ positive]
    · have none : (cells.length - size + (size - 1)) / size = 0 := Nat.div_eq_of_lt (by omega)
      have one : (cells.length + (size - 1)) / size = 1 := by
        apply Nat.div_eq_of_lt_le
        · omega
        · omega
      rw [none, one]

theorem length_of_mem_chunks (member : chunk ∈ chunks size cells) :
    0 < chunk.length ∧ chunk.length ≤ size := by
  by_cases positive : 0 < size
  · induction cells using chunks_induction positive with
    | nil => simp at member
    | step cells nonempty ih =>
      rw [chunks_step positive nonempty] at member
      rcases List.mem_cons.mp member with rfl | later
      · simp only [List.length_take]
        omega
      · exact ih later
  · rw [chunks, if_neg (fun both => positive both.1)] at member
    simp at member

/-- Behind the first chunk, every chunk lies in what the first one leaves. -/
theorem infix_of_mem_chunks (member : chunk ∈ chunks size cells) :
    chunk = cells.take size ∨ chunk <:+: cells.drop size := by
  by_cases more : 0 < size ∧ 0 < cells.length
  · rw [chunks_step more.1 more.2] at member
    rcases List.mem_cons.mp member with first | later
    · exact .inl first
    · refine .inr ?_
      rw [← flatten_chunks more.1 (cells.drop size)]
      exact List.infix_of_mem_flatten later
  · rw [chunks, if_neg more] at member
    simp at member

end Gb28181.Lib
