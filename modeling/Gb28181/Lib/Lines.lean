import Gb28181.Lib.Text

/-! Texts of lines that end in CRLF, and what `strstr` finds at the beginning of a line. -/

namespace Gb28181.Lib

/-- Without the characters that end a line or a text. -/
def IsLine (line : Text) : Prop := ∀ char ∈ line, char ≠ '\r' ∧ char ≠ '\n' ∧ char ≠ '\x00'

def joinLines (lines : List Text) : Text := lines.flatMap (· ++ ['\r', '\n'])

/-- The line does not begin with the key, whatever follows it. -/
def BeginsNot (key line : Text) : Prop := ∀ rest, ¬ key <+: line ++ '\r' :: '\n' :: rest

variable {key line text rest : Text} {lines : List Text} {offset : Nat}

theorem joinLines_cons (line : Text) (lines : List Text) :
    joinLines (line :: lines) = line ++ '\r' :: '\n' :: joinLines lines := by
  rw [joinLines, List.flatMap_cons, List.append_assoc]
  rfl

theorem joinLines_append (lines others : List Text) :
    joinLines (lines ++ others) = joinLines lines ++ joinLines others := List.flatMap_append

theorem joinLines_ends (some : lines ≠ []) : ∃ front, joinLines lines = front ++ ['\r', '\n'] := by
  rcases List.eq_nil_or_concat' lines with none | ⟨earlier, last, rfl⟩
  · exact absurd none some
  · refine ⟨joinLines earlier ++ last, ?_⟩
    rw [joinLines_append, joinLines_cons, List.append_assoc]
    rfl

theorem zero_not_mem_joinLines (plain : ∀ line ∈ lines, IsLine line) : '\x00' ∉ joinLines lines := by
  induction lines with
  | nil => exact List.not_mem_nil
  | cons line lines ih =>
    obtain ⟨here, there⟩ := List.forall_mem_cons.mp plain
    rw [joinLines_cons, List.mem_append, not_or]
    constructor
    · exact fun zero => (here _ zero).2.2 rfl
    · intro zero
      rcases List.mem_cons.mp zero with first | zero
      · exact absurd first (by decide)
      · rcases List.mem_cons.mp zero with second | zero
        · exact absurd second (by decide)
        · exact ih there zero

/-- In small letters a line is a line, and lines are lines. -/
theorem IsLine.toLower (plain : IsLine line) : IsLine (line.map Char.toLower) := by
  intro char member
  obtain ⟨char, own, rfl⟩ := List.mem_map.mp member
  obtain ⟨first, second, third⟩ := plain char own
  exact ⟨mt (eq_of_toLower rfl) first, mt (eq_of_toLower rfl) second, mt (eq_of_toLower rfl) third⟩

theorem IsLine.append {other : Text} (plain : IsLine line) (otherPlain : IsLine other) :
    IsLine (line ++ other) := by
  intro char member
  rcases List.mem_append.mp member with own | own
  · exact plain char own
  · exact otherPlain char own

theorem IsLine.cons {char : Char}
    (apart : char ≠ '\r' ∧ char ≠ '\n' ∧ char ≠ '\x00') (plain : IsLine line) :
    IsLine (char :: line) := List.forall_mem_cons.mpr ⟨apart, plain⟩

theorem isLine_decimal (number : Int) : IsLine (decimal number) := by
  intro char member
  refine ⟨?_, ?_, ?_⟩ <;> rintro rfl <;> exact not_mem_decimal (by decide) (by decide) member

theorem map_joinLines (lines : List Text) :
    (joinLines lines).map Char.toLower = joinLines (lines.map (List.map Char.toLower)) := by
  induction lines with
  | nil => rfl
  | cons line lines ih =>
    rw [joinLines_cons, List.map_cons, joinLines_cons, List.map_append, List.map_cons,
      List.map_cons, ih]
    rfl

theorem beginsNot_of_prefix (free : '\r' ∉ key) (apart : ¬ key <+: line) : BeginsNot key line := by
  intro rest begins
  by_cases short : key.length ≤ line.length
  · exact apart (List.prefix_of_prefix_length_le begins (List.prefix_append ..) short)
  · have longer : line ++ ['\r'] <+: key := by
      apply List.prefix_of_prefix_length_le _ begins
      · rw [List.length_append, List.length_singleton]
        omega
      · exact ⟨'\n' :: rest, (List.append_cons ..).symm⟩
    exact free (longer.subset (List.mem_append_right _ List.mem_cons_self))

/-- Nothing that begins with a line end is found inside of a line. -/
theorem not_occurs_within (plain : IsLine line) (inside : offset ≤ line.length) :
    ¬ Occurs (line ++ '\r' :: rest) ('\n' :: key) offset := by
  intro occurs
  rw [Occurs, List.drop_append_of_le_length inside] at occurs
  cases shape : line.drop offset with
  | nil =>
    rw [shape] at occurs
    exact absurd (List.cons_prefix_cons.mp occurs).1 (by decide)
  | cons first others =>
    rw [shape] at occurs
    have member : first ∈ line := List.mem_of_mem_drop (shape ▸ List.mem_cons_self)
    exact (plain first member).2.1 (List.cons_prefix_cons.mp occurs).1.symm

/-- A key is found behind the end of a line only where a line begins with it. -/
theorem not_occurs_of_beginsNot (plain : ∀ line ∈ lines, IsLine line)
    (apart : ∀ line ∈ lines.tail, BeginsNot key line)
    (inside : offset + 1 < (joinLines lines).length) :
    ¬ Occurs (joinLines lines ++ rest) ('\n' :: key) offset := by
  induction lines generalizing offset with
  | nil => exact absurd inside (Nat.not_lt_zero _)
  | cons line lines ih =>
    obtain ⟨here, there⟩ := List.forall_mem_cons.mp plain
    rw [joinLines_cons] at inside ⊢
    rw [List.append_assoc]
    by_cases within : offset ≤ line.length
    · exact not_occurs_within here within
    · obtain ⟨behind, rfl⟩ : ∃ behind, offset = line.length + 1 + behind :=
        ⟨offset - (line.length + 1), by omega⟩
      have shift : ∀ others : Text,
          (line ++ '\r' :: others).drop (line.length + 1 + behind) = others.drop behind := by
        intro others
        rw [Nat.add_assoc, List.drop_length_add_append, Nat.add_comm 1, List.drop_succ_cons]
      intro occurs
      rw [Occurs, List.cons_append, shift] at occurs
      simp only [List.length_append, List.length_cons] at inside
      cases behind with
      | zero =>
        have begins := (List.cons_prefix_cons.mp occurs).2
        cases lines with
        | nil => exact absurd inside (by simp [joinLines])
        | cons next lines =>
          have whole : (next ++ '\r' :: '\n' :: joinLines lines) ++ rest =
              next ++ '\r' :: '\n' :: (joinLines lines ++ rest) := List.append_assoc ..
          rw [joinLines_cons] at begins
          obtain ⟨more, shape⟩ := begins
          exact apart next List.mem_cons_self _ ⟨more, shape.trans whole⟩
      | succ behind =>
        refine ih there ?_ ?_ occurs
        · exact fun line member => apart line (List.mem_of_mem_tail member)
        · omega

theorem occurs_behind (some : lines ≠ []) (begins : key <+: rest) :
    Occurs (joinLines lines ++ rest) ('\n' :: key) ((joinLines lines).length - 1) := by
  obtain ⟨front, shape⟩ := joinLines_ends some
  have length : (front ++ ['\r', '\n']).length - 1 = (front ++ ['\r']).length := by
    simp only [List.length_append, List.length_cons, List.length_nil]
    omega
  have split : front ++ ['\r', '\n'] ++ rest = (front ++ ['\r']) ++ '\n' :: rest := by
    simp only [List.append_assoc, List.cons_append, List.nil_append]
  rw [shape, Occurs, length, split, List.drop_left]
  exact List.cons_prefix_cons.mpr ⟨rfl, begins⟩

theorem occurs_behind_crlf (some : lines ≠ []) (begins : key <+: rest) :
    Occurs (joinLines lines ++ rest) ('\r' :: '\n' :: key) ((joinLines lines).length - 2) := by
  obtain ⟨front, shape⟩ := joinLines_ends some
  have length : (front ++ ['\r', '\n']).length - 2 = front.length := by
    simp only [List.length_append, List.length_cons, List.length_nil]
    omega
  rw [shape, Occurs, length, List.append_assoc, List.drop_left]
  exact List.cons_prefix_cons.mpr ⟨rfl, List.cons_prefix_cons.mpr ⟨rfl, begins⟩⟩

theorem occurs_tail {first : Char} (occurs : Occurs text (first :: key) offset) :
    Occurs text key (offset + 1) := by
  rw [Occurs] at occurs ⊢
  obtain ⟨more, shape⟩ := occurs
  refine ⟨more, ?_⟩
  rw [← List.drop_drop, ← shape]
  rfl

/-- The first line that begins with the key is the one behind the lines that do not. -/
theorem strstr_key (plain : ∀ line ∈ lines, IsLine line) (some : lines ≠ [])
    (apart : ∀ line ∈ lines.tail, BeginsNot key line) (begins : key <+: rest) :
    strstr (joinLines lines ++ rest) ('\n' :: key) = .some ((joinLines lines).length - 1) := by
  apply strstr_eq_some (occurs_behind some begins)
  intro earlier before
  exact not_occurs_of_beginsNot plain apart (by omega)

theorem strstr_crlf_key (plain : ∀ line ∈ lines, IsLine line) (some : lines ≠ [])
    (apart : ∀ line ∈ lines.tail, BeginsNot key line) (begins : key <+: rest) :
    strstr (joinLines lines ++ rest) ('\r' :: '\n' :: key) =
      .some ((joinLines lines).length - 2) := by
  apply strstr_eq_some (occurs_behind_crlf some begins)
  intro earlier before occurs
  exact not_occurs_of_beginsNot plain apart (by omega) (occurs_tail occurs)

/-- Where no line begins with the key, it is not found before the last line end. -/
theorem le_of_strstr_key (plain : ∀ line ∈ lines, IsLine line)
    (apart : ∀ line ∈ lines.tail, BeginsNot key line)
    (found : strstr (joinLines lines ++ rest) ('\n' :: key) = .some offset) :
    (joinLines lines).length ≤ offset + 1 := by
  apply Nat.le_of_not_lt
  intro inside
  exact not_occurs_of_beginsNot plain apart inside (occurs_of_strstr found).1

theorem le_of_strstr_crlf_key (plain : ∀ line ∈ lines, IsLine line)
    (apart : ∀ line ∈ lines.tail, BeginsNot key line)
    (found : strstr (joinLines lines ++ rest) ('\r' :: '\n' :: key) = .some offset) :
    (joinLines lines).length ≤ offset + 2 := by
  apply Nat.le_of_not_lt
  intro inside
  exact not_occurs_of_beginsNot plain apart inside (occurs_tail (occurs_of_strstr found).1)

/-- A blank line is found behind lines that are not blank. -/
theorem strstr_blank_line (plain : ∀ line ∈ lines, IsLine line) (some : lines ≠ [])
    (full : ∀ line ∈ lines, line ≠ []) (body : Text) :
    strstr (joinLines lines ++ '\r' :: '\n' :: body) ['\r', '\n', '\r', '\n'] =
      .some ((joinLines lines).length - 2) := by
  apply strstr_crlf_key plain some
  · intro line member rest begins
    have own := List.mem_of_mem_tail member
    cases line with
    | nil => exact full [] own rfl
    | cons first line =>
      exact (plain _ own first List.mem_cons_self).1 (List.cons_prefix_cons.mp begins).1.symm
  · exact ⟨body, rfl⟩

theorem not_occurs_lines {first : Char} (noReturn : '\r' ∉ first :: key)
    (noFeed : '\n' ∉ first :: key)
    (free : ∀ line ∈ lines, ∀ offset, ¬ Occurs line (first :: key) offset)
    (inside : offset < (joinLines lines).length) :
    ¬ Occurs (joinLines lines ++ rest) (first :: key) offset := by
  induction lines generalizing offset with
  | nil => exact absurd inside (Nat.not_lt_zero _)
  | cons line lines ih =>
    obtain ⟨here, there⟩ := List.forall_mem_cons.mp free
    have shape : joinLines (line :: lines) ++ rest =
        line ++ '\r' :: '\n' :: (joinLines lines ++ rest) := by
      rw [joinLines_cons, List.append_assoc, List.cons_append, List.cons_append]
    rw [joinLines_cons, List.length_append, List.length_cons, List.length_cons] at inside
    rw [shape, Occurs]
    by_cases within : offset ≤ line.length
    · rw [List.drop_append_of_le_length within]
      exact beginsNot_of_prefix noReturn (here offset) _
    · obtain ⟨behind, rfl⟩ : ∃ behind, offset = line.length + (1 + behind) :=
        ⟨offset - (line.length + 1), by omega⟩
      rw [List.drop_length_add_append, Nat.add_comm 1, List.drop_succ_cons]
      cases behind with
      | zero =>
        intro begins
        exact noFeed ((List.cons_prefix_cons.mp begins).1 ▸ List.mem_cons_self)
      | succ behind => exact ih there (by omega)

end Gb28181.Lib
