import Mathlib.Data.List.DropRight
import Gb28181.Lib.Text

namespace Gb28181.Lib

universe u

section Strip

variable {Item : Type u} (blank : Item → Bool) {items front back : List Item} {item : Item}

/-- What is left without the blanks at both ends. -/
def strip (items : List Item) : List Item := (items.dropWhile blank).rdropWhile blank

/-- No blank at either end. -/
def Stripped (items : List Item) : Prop :=
  (∀ item ∈ items.head?, blank item = false) ∧ ∀ item ∈ items.getLast?, blank item = false

theorem strip_nil : strip blank ([] : List Item) = [] := rfl

variable {blank}

theorem strip_eq_self (stripped : Stripped blank items) : strip blank items = items := by
  cases items with
  | nil => rfl
  | cons first rest =>
    have head : ¬ blank first = true := by
      rw [stripped.1 first rfl]
      exact Bool.false_ne_true
    rw [strip, List.dropWhile_cons_of_neg head, List.rdropWhile_eq_self_iff]
    intro filled
    rw [stripped.2 _ (List.getLast?_eq_some_getLast filled)]
    exact Bool.false_ne_true

variable (blank) in
theorem stripped_strip (items : List Item) : Stripped blank (strip blank items) := by
  constructor
  · intro first there
    have behind : (items.dropWhile blank).head? = some first := by
      obtain ⟨more, shape⟩ := List.rdropWhile_prefix blank (items.dropWhile blank)
      obtain ⟨rest, filled⟩ := List.head?_eq_some_iff.mp there
      rw [← shape, show (items.dropWhile blank).rdropWhile blank = first :: rest from filled]
      rfl
    have stops := List.head?_dropWhile_not blank items
    rw [behind] at stops
    exact stops
  · intro last there
    have filled : strip blank items ≠ [] := fun empty => by
      rw [empty] at there
      cases there
    rw [List.getLast?_eq_some_getLast filled] at there
    cases there
    exact Bool.eq_false_iff.mpr (List.rdropWhile_last_not blank _ filled)

theorem strip_cons (head : blank item = false) :
    ∃ rest, strip blank (item :: items) = item :: rest := by
  have stays : ¬ blank item = true := Bool.eq_false_iff.mp head
  have filled : (item :: items).rdropWhile blank ≠ [] := fun empty =>
    stays (List.rdropWhile_eq_nil_iff.mp empty item List.mem_cons_self)
  obtain ⟨first, rest, shape⟩ := List.exists_cons_of_ne_nil filled
  obtain ⟨back, whole⟩ := List.rdropWhile_prefix blank (item :: items)
  rw [shape, List.cons_append] at whole
  obtain ⟨rfl, -⟩ := List.cons.inj whole
  exact ⟨rest, by rw [strip, List.dropWhile_cons_of_neg stays, shape]⟩

theorem strip_strip : strip blank (strip blank items) = strip blank items :=
  strip_eq_self (stripped_strip blank items)

theorem strip_blanks (blanks : ∀ item ∈ items, blank item) : strip blank items = [] := by
  rw [strip, List.dropWhile_eq_nil_iff.mpr blanks, List.rdropWhile_nil]

theorem strip_append_right (blanks : ∀ item ∈ front, blank item) :
    strip blank (front ++ items) = strip blank items := by
  rw [strip, List.dropWhile_append_of_pos blanks, strip]

theorem strip_append_left (blanks : ∀ item ∈ back, blank item) :
    strip blank (items ++ back) = strip blank items := by
  induction items with
  | nil => rw [List.nil_append, strip_blanks blanks, strip_nil]
  | cons first rest ih =>
    rw [List.cons_append]
    by_cases head : blank first = true
    · rw [strip, strip, List.dropWhile_cons_of_pos head, List.dropWhile_cons_of_pos head]
      exact ih
    · have cut : (back.reverse).dropWhile blank = [] :=
        List.dropWhile_eq_nil_iff.mpr fun item member => blanks item (List.mem_reverse.mp member)
      rw [strip, strip, List.dropWhile_cons_of_neg head, List.dropWhile_cons_of_neg head,
        ← List.cons_append, List.rdropWhile, List.reverse_append, List.rdropWhile,
        List.dropWhile_append_of_pos fun item member => blanks item (List.mem_reverse.mp member)]

theorem mem_of_mem_strip (member : item ∈ strip blank items) : item ∈ items :=
  List.dropWhile_subset blank ((List.rdropWhile_prefix blank _).subset member)

/-- Blanks of one kind that go from the end first make no difference. -/
theorem strip_rdropWhile {kind : Item → Bool} (blanks : ∀ item, kind item → blank item) :
    strip blank (items.rdropWhile kind) = strip blank items := by
  have whole : items.rdropWhile kind ++ items.rtakeWhile kind = items :=
    List.rdropWhile_append_rtakeWhile
  have ends : ∀ item ∈ items.rtakeWhile kind, blank item := fun item member =>
    blanks item (List.mem_rtakeWhile_imp member)
  rw [← strip_append_left ends, whole]

end Strip

/-- The lines `getline` takes from a text one after the other. -/
def getlines : Text → List Text
  | [] => []
  | char :: rest =>
    if char = '\n' then [] :: getlines rest
    else
      match getlines rest with
      | [] => [[char]]
      | line :: lines => (char :: line) :: lines

variable {line text rest : Text}

theorem getlines_line (single : '\n' ∉ line) :
    getlines (line ++ '\n' :: rest) = line :: getlines rest := by
  induction line with
  | nil => rfl
  | cons char line ih =>
    have other : char ≠ '\n' := fun same => single (same ▸ List.mem_cons_self)
    rw [List.cons_append, getlines, if_neg other, ih (mt (List.mem_cons_of_mem _) single)]

theorem getlines_ne_nil : getlines (text ++ ['\n']) ≠ [] := by
  induction text with
  | nil => exact List.cons_ne_nil _ _
  | cons char text ih =>
    rw [List.cons_append, getlines]
    by_cases ends : char = '\n'
    · rw [if_pos ends]
      exact List.cons_ne_nil _ _
    · rw [if_neg ends]
      cases getlines (text ++ ['\n']) <;> exact List.cons_ne_nil _ _

theorem getlines_append : getlines (text ++ '\n' :: rest) =
    getlines (text ++ ['\n']) ++ getlines rest := by
  induction text with
  | nil => rfl
  | cons char text ih =>
    rw [List.cons_append, List.cons_append, getlines, getlines, ih]
    by_cases ends : char = '\n'
    · rw [if_pos ends, if_pos ends, List.cons_append]
    · rw [if_neg ends, if_neg ends]
      cases lines : getlines (text ++ ['\n']) with
      | nil => exact absurd lines getlines_ne_nil
      | cons line lines => rfl

theorem not_mem_of_mem_getlines (member : line ∈ getlines text) : '\n' ∉ line := by
  induction text generalizing line with
  | nil => exact absurd member List.not_mem_nil
  | cons char text ih =>
    rw [getlines] at member
    by_cases ends : char = '\n'
    · rw [if_pos ends] at member
      rcases List.mem_cons.mp member with rfl | later
      · exact List.not_mem_nil
      · exact ih later
    · rw [if_neg ends] at member
      cases lines : getlines text with
      | nil =>
        rw [lines] at member
        rw [List.mem_singleton.mp member, List.mem_singleton]
        exact Ne.symm ends
      | cons first lines' =>
        rw [lines] at member
        rcases List.mem_cons.mp member with rfl | later
        · refine fun within => ?_
          rcases List.mem_cons.mp within with same | within
          · exact ends same.symm
          · exact ih (lines ▸ List.mem_cons_self) within
        · exact ih (lines ▸ List.mem_cons_of_mem _ later)

end Gb28181.Lib
