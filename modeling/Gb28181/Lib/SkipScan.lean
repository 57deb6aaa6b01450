import Mathlib.Algebra.Group.Nat.Even
import Mathlib.Tactic.Common

/-! A scan that moves cell by cell, except that it jumps over `width` further
cells at every skip mark. Marks are never closer than `width`, so a mark can
only be jumped over from exactly `width` cells before it. -/

namespace Gb28181.Lib

section
variable (skip : Nat → Bool) (width : Nat)

/-- The positions a scan from `start` looks at. -/
inductive Visits (start : Nat) : Nat → Prop where
  | start : Visits start start
  | next (seen : Visits start position) (plain : skip position = false) :
      Visits start (position + 1)
  | jump (seen : Visits start position) (marked : skip position = true) :
      Visits start (position + width + 1)

/-- The number of skip marks in a row directly before a position, `width` apart
and none before `start`. -/
def marksBefore (start position : Nat) : Nat :=
  if 0 < width ∧ start + width ≤ position ∧ skip (position - width) = true then
    marksBefore start (position - width) + 1
  else 0
termination_by position
decreasing_by omega

end

variable {skip : Nat → Bool} {width start position : Nat}

theorem Visits.le (seen : Visits skip width start position) : start ≤ position := by
  induction seen with
  | start => exact Nat.le_refl _
  | next _ _ ih => omega
  | jump _ _ ih => omega

/-- What a scan does not look at lies behind a skip mark it looked at. -/
theorem jumped_of_not_visits (reached : start ≤ position)
    (unseen : ¬ Visits skip width start position) :
    ∃ mark, Visits skip width start mark ∧ skip mark = true ∧
      mark < position ∧ position ≤ mark + width := by
  induction position with
  | zero => exact absurd (by simpa using (Nat.le_zero.mp reached) ▸ Visits.start) unseen
  | succ position ih =>
    by_cases first : start = position + 1
    · exact absurd (first ▸ Visits.start) unseen
    · by_cases seen : Visits skip width start position
      · cases marked : skip position with
        | false => exact absurd (.next seen marked) unseen
        | true =>
          by_cases wide : width = 0
          · exact absurd (by simpa [wide] using Visits.jump seen marked) unseen
          · exact ⟨position, seen, marked, by omega, by omega⟩
      · obtain ⟨mark, seenMark, marked, before, within⟩ := ih (by omega) seen
        by_cases last : position = mark + width
        · exact absurd (by simpa [last, Nat.add_assoc] using Visits.jump seenMark marked) unseen
        · exact ⟨mark, seenMark, marked, by omega, by omega⟩

/-- Nothing within the jump of a mark that the scan looks at is looked at. -/
theorem visits_not_jumped {mark : Nat} (seen : Visits skip width start mark)
    (marked : skip mark = true) (before : mark < position) (within : position ≤ mark + width) :
    ¬ Visits skip width start position := by
  induction position using Nat.strong_induction_on generalizing mark with
  | _ position ih =>
    intro visited
    cases visited with
    | start => exact absurd seen.le (by omega)
    | @next earlier seenEarlier plain =>
      by_cases same : mark = earlier
      · simp [same, plain] at marked
      · exact ih earlier (by omega) seen marked (by omega) (by omega) seenEarlier
    | @jump earlier seenEarlier skipped =>
      -- the jump starts before the mark, so the mark itself would be jumped over
      exact ih mark before seenEarlier skipped (by omega) (by omega) seen

/-- A scan walks on over cells that carry no skip mark. -/
theorem Visits.walk (count : Nat) (seen : Visits skip width start position)
    (plain : ∀ place, position ≤ place → place < position + count → skip place = false) :
    Visits skip width start (position + count) := by
  induction count with
  | zero => exact seen
  | succ count ih =>
    have reached := ih fun place low high => plain place low (by omega)
    exact .next reached (plain (position + count) (by omega) (by omega))

/-- With no mark in the `width` cells before it, a position is looked at. -/
theorem visits_of_plain (reached : start ≤ position)
    (plain : ∀ place, start ≤ place → position ≤ place + width → place < position →
      skip place = false) : Visits skip width start position := by
  by_contra unseen
  obtain ⟨mark, seen, marked, before, within⟩ := jumped_of_not_visits reached unseen
  have clear := plain mark seen.le within before
  simp [clear] at marked

section
variable (mark : Nat → Bool) (marks : ∀ place, skip place = true → mark place = true)
  (apart : ∀ place distance, skip place = true → 0 < distance → distance < width →
    mark (place + distance) = false)
include apart

private theorem only_at_width {place : Nat} (marked : mark position = true)
    (skipped : skip place = true) (before : place < position) (within : position ≤ place + width) :
    place + width = position := by
  by_contra other
  have clear := apart place (position - place) skipped (by omega) (by omega)
  rw [show place + (position - place) = position by omega] at clear
  simp [clear] at marked

include marks

/-- Just behind an unseen mark the scan goes on within the next `width` cells. -/
private theorem visits_behind (wide : 0 < width) {place : Nat} (skipped : skip place = true)
    (reached : start ≤ place) (unseen : ¬ Visits skip width start place) :
    Visits skip width start (place + width) := by
  obtain ⟨earlier, seen, marked, before, within⟩ := jumped_of_not_visits reached unseen
  have distance := only_at_width mark apart (marks place skipped) marked before within
  have behind := Visits.jump seen marked
  rw [distance] at behind
  have walked := behind.walk (width - 1) fun spot low high => by
    have clear := apart place (spot - place) skipped (by omega) (by omega)
    rw [show place + (spot - place) = spot by omega] at clear
    cases value : skip spot with
    | false => rfl
    | true => simp [marks spot value] at clear
  rwa [show place + 1 + (width - 1) = place + width by omega] at walked

/-- A marked position is looked at exactly when an even number of skip marks in
a row stand directly before it. -/
theorem visits_iff_even (wide : 0 < width) (marked : mark position = true)
    (reached : start ≤ position) :
    Visits skip width start position ↔ Even (marksBefore skip width start position) := by
  induction position using Nat.strong_induction_on with
  | _ position ih =>
    rw [marksBefore]
    split
    · rename_i before
      obtain ⟨_, room, skipped⟩ := before
      have earlier := ih (position - width) (by omega) (marks _ skipped) (by omega)
      rw [Nat.even_add_one, ← earlier]
      constructor
      · -- the scan cannot look at both the mark and the position it jumps over
        intro seen seenMark
        exact visits_not_jumped seenMark skipped (by omega) (by omega) seen
      · intro unseen
        have behind := visits_behind mark marks apart wide skipped (by omega) unseen
        rwa [Nat.sub_add_cancel (by omega)] at behind
    · rename_i none
      simp only [Even.zero, iff_true]
      apply visits_of_plain reached
      intro place low within high
      by_contra skipped
      have skipped : skip place = true := by simpa using skipped
      have distance := only_at_width mark apart marked skipped high within
      exact none ⟨wide, by omega, by rwa [show position - width = place by omega]⟩

end

end Gb28181.Lib
