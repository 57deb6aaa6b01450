import Mathlib.Logic.Function.Iterate
import Mathlib.Tactic.Common
import Mathlib.Data.Nat.ModEq

namespace Gb28181.Lib

/-- One step from a position; the first position is zero, and no step comes back to it. -/
def rotated (limit position : Nat) : Nat := (if position < limit then position else 0) + 1

variable {limit position : Nat}

theorem rotated_pos : 0 < rotated limit position := Nat.succ_pos _

theorem iterate_rotated_pos {steps : Nat} (moved : 0 < steps) :
    0 < (rotated limit)^[steps] position := by
  obtain ⟨before, rfl⟩ := Nat.exists_eq_succ_of_ne_zero moved.ne'
  rw [Function.iterate_succ_apply']
  exact rotated_pos

/-- From its second position on, the position goes round. -/
theorem iterate_rotated (inside : position < limit) (steps : Nat) :
    (rotated limit)^[steps] (position + 1) = (position + steps) % limit + 1 := by
  induction steps with
  | zero => exact congrArg Nat.succ (Nat.mod_eq_of_lt inside).symm
  | succ steps ih =>
    have bound := Nat.mod_lt (position + steps) (Nat.zero_lt_of_lt inside)
    rw [Function.iterate_succ_apply', ih, rotated, ← Nat.add_assoc, ← Nat.mod_add_mod (position + steps)]
    congr 1
    split
    case isTrue later => exact (Nat.mod_eq_of_lt later).symm
    case isFalse last =>
      have wraps : (position + steps) % limit + 1 = limit := by omega
      rw [wraps, Nat.mod_self]

/-- The position is back where it was after whole rounds only. -/
theorem iterate_rotated_eq_iff (inside : position ≤ limit) {steps : Nat} (moved : 0 < steps) :
    (rotated limit)^[steps] position = position ↔ 0 < position ∧ limit ∣ steps := by
  cases position with
  | zero => exact iff_of_false (iterate_rotated_pos moved).ne' (fun back => absurd back.1 (lt_irrefl 0))
  | succ position =>
    rw [iterate_rotated inside, Nat.succ_inj]
    nth_rewrite 2 [← Nat.mod_eq_of_lt inside]
    constructor
    · intro same
      exact ⟨Nat.succ_pos _, (Nat.modEq_zero_iff_dvd).mp (Nat.ModEq.add_left_cancel' position same)⟩
    · rintro ⟨-, rounds, rfl⟩
      exact Nat.add_mul_mod_self_left position limit rounds

end Gb28181.Lib
