import Mathlib.Data.List.Basic
import Mathlib.Tactic.Common

namespace Gb28181.Lib

universe u

variable {Item : Type u} {size : Nat} {fits fits' : Prop} {part part' text : List Item}
  {write write' : List Item → Option (List Item)}

/-- To what a buffer holds, the writer appends the part exactly if the whole is below the size
and the part itself can be written. -/
def Appends (size : Nat) (write : List Item → Option (List Item)) (fits : Prop)
    (part : List Item) : Prop :=
  ∀ text, text.length < size → ∀ result, write text = some result ↔
    fits ∧ (text ++ part).length < size ∧ result = text ++ part

namespace Appends

theorem nothing : Appends size (fun text : List Item => some text) True [] := by
  intro text room result
  rw [List.append_nil, Option.some.injEq]
  exact ⟨fun same => ⟨trivial, room, same.symm⟩, fun right => right.2.2.symm⟩

theorem bind (first : Appends size write fits part) (second : Appends size write' fits' part') :
    Appends size (fun text => (write text).bind write') (fits ∧ fits') (part ++ part') := by
  intro text room result
  rw [Option.bind_eq_some_iff]
  constructor
  · rintro ⟨middle, written, rest⟩
    obtain ⟨fit, below, rfl⟩ := (first text room middle).mp written
    obtain ⟨fit', below', rfl⟩ := (second _ below result).mp rest
    rw [List.append_assoc] at below'
    exact ⟨⟨fit, fit'⟩, below', List.append_assoc ..⟩
  · rintro ⟨⟨fit, fit'⟩, whole, rfl⟩
    rw [← List.append_assoc] at whole ⊢
    have below : (text ++ part).length < size := by
      rw [List.length_append] at whole
      exact Nat.lt_of_le_of_lt (Nat.le_add_right ..) whole
    exact ⟨text ++ part, (first text room _).mpr ⟨fit, below, rfl⟩,
      (second _ below _).mpr ⟨fit', whole, rfl⟩⟩

theorem eq_some_iff (appends : Appends size write fits part) (positive : 0 < size)
    {result : List Item} :
    write [] = some result ↔ fits ∧ part.length < size ∧ result = part :=
  appends [] positive result

end Appends

end Gb28181.Lib
