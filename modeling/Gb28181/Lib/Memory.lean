import Mathlib.Data.List.Basic
import Mathlib.Tactic.Common

/-! Memory seen through a pointer: a cell at every offset. Reads and writes are
compared with the finite lists stored from an offset on. -/

namespace Gb28181.Lib

universe u

/-- The cell found at each offset of a pointer. -/
abbrev Mem (Cell : Type u) := Nat → Cell

variable {Cell : Type u}

/-- The `count` cells stored from `start` on. -/
def window (memory : Mem Cell) (start : Nat) : Nat → List Cell
  | 0 => []
  | count + 1 => memory start :: window memory (start + 1) count

/-- `memcpy`: `count` cells of `source` replace those of `memory` from `start` on. -/
def memcpy (memory : Mem Cell) (start : Nat) (source : Mem Cell) (count : Nat) : Mem Cell :=
  fun offset => if start ≤ offset ∧ offset < start + count then source (offset - start)
    else memory offset

/-- The memory that starts with `cells` and goes on as `rest` does. -/
def overlay (cells : List Cell) (rest : Mem Cell) : Mem Cell :=
  fun offset => (cells[offset]?).getD (rest offset)

/-- The memory behind a pointer moved on by `count` cells. -/
def advance (memory : Mem Cell) (count : Nat) : Mem Cell :=
  fun offset => memory (count + offset)

/-- `cells` are the cells stored from `start` on. -/
def Holds (memory : Mem Cell) : Nat → List Cell → Prop
  | _, [] => True
  | start, cell :: cells => memory start = cell ∧ Holds memory (start + 1) cells

@[simp] theorem holds_nil (memory : Mem Cell) (start : Nat) : Holds memory start [] := trivial

@[simp] theorem holds_cons {memory : Mem Cell} {start : Nat} {cell : Cell} {cells : List Cell} :
    Holds memory start (cell :: cells) ↔ memory start = cell ∧ Holds memory (start + 1) cells :=
  Iff.rfl

@[simp] theorem length_window (memory : Mem Cell) (start count : Nat) :
    (window memory start count).length = count := by
  induction count generalizing start with
  | zero => rfl
  | succ count ih => simp [window, ih]

theorem holds_append {memory : Mem Cell} {start : Nat} {front back : List Cell} :
    Holds memory start (front ++ back) ↔
      Holds memory start front ∧ Holds memory (start + front.length) back := by
  induction front generalizing start with
  | nil => simp
  | cons cell front ih =>
    have shift : start + 1 + front.length = start + (front.length + 1) := by omega
    simp [ih, and_assoc, shift]

theorem Holds.get {memory : Mem Cell} {start : Nat} {cells : List Cell}
    (held : Holds memory start cells) {index : Nat} (bound : index < cells.length) :
    memory (start + index) = cells[index] := by
  induction cells generalizing start index with
  | nil => simp at bound
  | cons cell cells ih =>
    cases index with
    | zero => simpa using held.1
    | succ index =>
      have next := @ih _ held.2 index (by simpa using bound)
      simpa [Nat.add_comm, Nat.add_left_comm] using next

theorem Holds.get? {memory : Mem Cell} {start : Nat} {cells : List Cell}
    (held : Holds memory start cells) {index : Nat} (bound : index < cells.length) :
    cells[index]? = some (memory (start + index)) := by
  rw [held.get bound, List.getElem?_eq_getElem bound]

theorem holds_of_get {memory : Mem Cell} {start : Nat} {cells : List Cell}
    (agree : ∀ index (bound : index < cells.length), memory (start + index) = cells[index]) :
    Holds memory start cells := by
  induction cells generalizing start with
  | nil => trivial
  | cons cell cells ih =>
    refine ⟨agree 0 (Nat.succ_pos _), ih fun index bound => ?_⟩
    have next := agree (index + 1) (by simpa using bound)
    simpa [Nat.add_comm, Nat.add_left_comm] using next

theorem holds_window (memory : Mem Cell) (start count : Nat) :
    Holds memory start (window memory start count) := by
  induction count generalizing start with
  | zero => trivial
  | succ count ih => exact ⟨rfl, ih _⟩

theorem Holds.window_eq {memory : Mem Cell} {start : Nat} {cells : List Cell}
    (held : Holds memory start cells) : window memory start cells.length = cells := by
  induction cells generalizing start with
  | nil => rfl
  | cons cell cells ih => simp [window, held.1, ih held.2]

theorem Holds.isPrefix {memory : Mem Cell} {start : Nat} {front cells : List Cell}
    (first : Holds memory start front) (held : Holds memory start cells)
    (short : front.length ≤ cells.length) : front <+: cells := by
  induction front generalizing start cells with
  | nil => exact List.nil_prefix
  | cons cell front ih =>
    cases cells with
    | nil => simp at short
    | cons other cells =>
      obtain ⟨rfl, first⟩ := first
      obtain ⟨rfl, held⟩ := held
      exact List.cons_prefix_cons.mpr ⟨rfl, ih first held (Nat.le_of_succ_le_succ short)⟩

theorem Holds.congr {memory other : Mem Cell} {start : Nat} {cells : List Cell}
    (held : Holds memory start cells)
    (same : ∀ offset, start ≤ offset → offset < start + cells.length →
      other offset = memory offset) : Holds other start cells := by
  apply holds_of_get
  intro index bound
  rw [same (start + index) (by omega) (by omega)]
  exact held.get bound

theorem holds_advance {memory : Mem Cell} {count start : Nat} {cells : List Cell} :
    Holds (advance memory count) start cells ↔ Holds memory (count + start) cells := by
  induction cells generalizing start with
  | nil => simp
  | cons cell cells ih => simp [ih, advance, Nat.add_assoc]

theorem memcpy_inside {memory source : Mem Cell} {start count offset : Nat}
    (low : start ≤ offset) (high : offset < start + count) :
    memcpy memory start source count offset = source (offset - start) := by
  simp [memcpy, low, high]

theorem memcpy_outside {memory source : Mem Cell} {start count offset : Nat}
    (outside : offset < start ∨ start + count ≤ offset) :
    memcpy memory start source count offset = memory offset := by
  have away : ¬ (start ≤ offset ∧ offset < start + count) := by omega
  simp [memcpy, away]

/-- Copying behind what is held keeps it and appends what was copied. -/
theorem Holds.memcpy_append {memory source : Mem Cell} {start : Nat} {cells added : List Cell}
    (held : Holds memory start cells) (copied : Holds source 0 added) :
    Holds (memcpy memory (start + cells.length) source added.length) start (cells ++ added) := by
  apply holds_append.mpr
  constructor
  · exact held.congr fun offset _ high => memcpy_outside (.inl high)
  · apply holds_of_get
    intro index bound
    rw [memcpy_inside (by omega) (by omega), Nat.add_sub_cancel_left]
    simpa using copied.get bound

theorem holds_overlay (cells : List Cell) (rest : Mem Cell) : Holds (overlay cells rest) 0 cells := by
  apply holds_of_get
  intro index bound
  simp [overlay, bound]

theorem overlay_beyond {cells : List Cell} {rest : Mem Cell} {offset : Nat}
    (beyond : cells.length ≤ offset) : overlay cells rest offset = rest offset := by
  simp [overlay, beyond]

end Gb28181.Lib
