import Gb28181.Lib.Text

namespace Gb28181.Lib

/-- The occurrences of a name from an offset on, each one the first behind the one before. -/
def LeftToRight (text name : Text) : Nat → List Nat → Prop
  | start, [] => ∀ offset, start ≤ offset → ¬ Occurs text name offset
  | start, offset :: offsets => start ≤ offset ∧ Occurs text name offset ∧
      (∀ earlier, start ≤ earlier → earlier < offset → ¬ Occurs text name earlier) ∧
      LeftToRight text name (offset + name.length) offsets

/-- The pieces in front of the occurrences of a name of this width. -/
def piecesBefore (text : Text) (width : Nat) : Nat → List Nat → List Text
  | _, [] => []
  | start, offset :: offsets =>
    (text.drop start).take (offset - start) :: piecesBefore text width (offset + width) offsets

def lastEnd (width : Nat) : Nat → List Nat → Nat
  | start, [] => start
  | _, offset :: offsets => lastEnd width (offset + width) offsets

variable {text name : Text} {start : Nat} {offsets : List Nat}

theorem LeftToRight.unique {others : List Nat} (found : LeftToRight text name start offsets)
    (other : LeftToRight text name start others) : offsets = others := by
  induction offsets generalizing start others with
  | nil =>
    cases others with
    | nil => rfl
    | cons offset others => exact absurd other.2.1 (found offset other.1)
  | cons offset offsets ih =>
    cases others with
    | nil => exact absurd found.2.1 (other offset found.1)
    | cons offset' others =>
      have same : offset = offset' := by
        apply Nat.le_antisymm
        · exact Nat.le_of_not_lt fun before => found.2.2.1 offset' other.1 before other.2.1
        · exact Nat.le_of_not_lt fun before => other.2.2.1 offset found.1 before found.2.1
      subst same
      rw [ih found.2.2.2 other.2.2.2]

theorem length_piecesBefore (width : Nat) :
    (piecesBefore text width start offsets).length = offsets.length := by
  induction offsets generalizing start with
  | nil => rfl
  | cons offset offsets ih => rw [piecesBefore, List.length_cons, ih, List.length_cons]

/-- The pieces, each with the name behind it, and what follows make up the text. -/
theorem LeftToRight.rejoin (found : LeftToRight text name start offsets) :
    (piecesBefore text name.length start offsets).flatMap (· ++ name) ++
      text.drop (lastEnd name.length start offsets) = text.drop start := by
  induction offsets generalizing start with
  | nil => rfl
  | cons offset offsets ih =>
    obtain ⟨behind, ⟨rest, occurs⟩, -, later⟩ := found
    have split : text.drop start = (text.drop start).take (offset - start) ++ text.drop offset := by
      have shift : text.drop offset = (text.drop start).drop (offset - start) := by
        rw [List.drop_drop, Nat.add_sub_cancel' behind]
      rw [shift, List.take_append_drop]
    have after : text.drop (offset + name.length) = rest := by
      rw [← List.drop_drop, ← occurs, List.drop_left]
    rw [piecesBefore, lastEnd, List.flatMap_cons, List.append_assoc, ih later, after,
      List.append_assoc, occurs, ← split]

/-- Between the occurrences of one character the character does not stand. -/
theorem LeftToRight.not_mem_piece {char : Char} (found : LeftToRight text [char] start offsets)
    {piece : Text} (member : piece ∈ piecesBefore text 1 start offsets) : char ∉ piece := by
  induction offsets generalizing start with
  | nil => exact absurd member List.not_mem_nil
  | cons offset offsets ih =>
    obtain ⟨behind, -, first, later⟩ := found
    rcases List.mem_cons.mp member with rfl | member
    · intro within
      obtain ⟨index, inside, same⟩ := List.mem_iff_getElem.mp within
      rw [List.getElem_take, List.getElem_drop] at same
      rw [List.length_take, List.length_drop] at inside
      apply first (start + index) (Nat.le_add_right ..) (by omega)
      rw [Occurs, List.drop_eq_getElem_cons (by omega), same]
      exact ⟨_, rfl⟩
    · exact ih later member

theorem LeftToRight.not_mem_rest {char : Char} (found : LeftToRight text [char] start offsets) :
    char ∉ text.drop (lastEnd 1 start offsets) := by
  induction offsets generalizing start with
  | nil =>
    intro within
    have all : text.drop (lastEnd 1 start []) = text.drop start := rfl
    obtain ⟨index, inside, same⟩ := List.mem_iff_getElem.mp (all ▸ within)
    rw [List.getElem_drop] at same
    rw [List.length_drop] at inside
    apply found (start + index) (Nat.le_add_right ..)
    rw [Occurs, List.drop_eq_getElem_cons (by omega), same]
    exact ⟨_, rfl⟩
  | cons offset offsets ih => exact ih found.2.2.2

/-- Pieces with a name behind each of them, joined by the name. -/
theorem intercalate_concat (name last : Text) (pieces : List Text) :
    name.intercalate (pieces ++ [last]) = pieces.flatMap (· ++ name) ++ last := by
  induction pieces with
  | nil => exact List.intercalate_singleton
  | cons piece pieces ih =>
    rw [List.cons_append, List.intercalate_cons_of_ne_nil (by simp), ih, List.flatMap_cons]
    simp only [List.append_assoc]

theorem intercalate_append_name {pieces : List Text} (some : pieces ≠ []) :
    name.intercalate pieces ++ name = pieces.flatMap (· ++ name) := by
  rcases List.eq_nil_or_concat' pieces with none | ⟨earlier, last, rfl⟩
  · exact absurd none some
  · rw [intercalate_concat, List.flatMap_append, List.append_assoc]
    simp

end Gb28181.Lib
