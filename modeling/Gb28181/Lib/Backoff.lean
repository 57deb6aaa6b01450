import Mathlib.Tactic.Common
import Mathlib.Algebra.Order.Ring.Int

namespace Gb28181.Lib

section Backoff

variable (interval : Nat → Int)

/-- How long after the start something is done for the `n`-th time again. -/
def due : Nat → Int
  | 0 => 0
  | n + 1 => due n + interval n

/-- It has been done again so many times, never too early and never after the deadline, and
this is the moment that is waited for. -/
structure Paced (start deadline : Int) (count : Nat) (next : Option Int) : Prop where
  early : count = 0 ∨ start + due interval count < deadline
  spaced : ∀ moment, next = some moment → start + due interval (count + 1) ≤ moment

variable {interval} {start deadline moment now : Int} {count most : Nat} {next later : Option Int}

theorem due_le_due (forward : ∀ n, 0 ≤ interval n) (fewer : count ≤ most) :
    due interval count ≤ due interval most := by
  induction fewer with
  | refl => exact Int.le_refl _
  | step _ ih => exact ih.trans (Int.le_add_of_nonneg_right (forward _))

theorem Paced.again (paced : Paced interval start deadline count next)
    (waited : next = some moment) (passed : moment < now) (early : now ≤ deadline)
    (waits : ∀ moment, later = some moment → now + interval (count + 1) ≤ moment) :
    Paced interval start deadline (count + 1) later := by
  have behind := (paced.spaced moment waited).trans_lt passed
  refine ⟨.inr (behind.trans_le early), fun moment same => ?_⟩
  calc start + due interval (count + 1 + 1)
      = start + due interval (count + 1) + interval (count + 1) := (Int.add_assoc _ _ _).symm
    _ ≤ now + interval (count + 1) := Int.add_le_add_right behind.le _
    _ ≤ moment := waits moment same

theorem Paced.count_lt (paced : Paced interval start deadline count next)
    (forward : ∀ n, 0 ≤ interval n) (some_time : 0 < most)
    (late : deadline ≤ start + due interval most) : count < most := by
  rcases paced.early with none_yet | early
  · exact none_yet ▸ some_time
  · by_contra many
    have longer := due_le_due forward (Nat.le_of_not_lt many)
    exact absurd (early.trans_le late) (not_lt_of_ge (Int.add_le_add_left longer _))

end Backoff

end Gb28181.Lib
