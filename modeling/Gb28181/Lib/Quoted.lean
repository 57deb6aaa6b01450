import Gb28181.Lib.Text

namespace Gb28181.Lib

section Marks

variable {mark other : Nat → Bool} {start position : Nat} {found : Option Nat}

/-- The first mark from a position on. -/
def FirstFrom (mark : Nat → Bool) (start : Nat) : Option Nat → Prop
  | none => ∀ position, start ≤ position → mark position = false
  | some first => start ≤ first ∧ mark first = true ∧
      ∀ position, start ≤ position → position < first → mark position = false

theorem FirstFrom.skip (firstFrom : FirstFrom mark position found) (le : start ≤ position)
    (none_between : ∀ place, start ≤ place → place < position → mark place = false) :
    FirstFrom mark start found := by
  cases found with
  | none =>
    intro place above
    by_cases before : place < position
    · exact none_between place above before
    · exact firstFrom place (Nat.le_of_not_lt before)
  | some first =>
    obtain ⟨above, here, earlier⟩ := firstFrom
    refine ⟨le.trans above, here, fun place low high => ?_⟩
    by_cases before : place < position
    · exact none_between place low before
    · exact earlier place (Nat.le_of_not_lt before) high

/-- What is the first from a position on is so from every later one in front of it. -/
theorem FirstFrom.later (firstFrom : FirstFrom mark start found) (le : start ≤ position)
    (before : ∀ first, found = some first → position ≤ first) : FirstFrom mark position found := by
  cases found with
  | none => exact fun place above => firstFrom place (le.trans above)
  | some first =>
    obtain ⟨-, here, earlier⟩ := firstFrom
    exact ⟨before first rfl, here, fun place low => earlier place (le.trans low)⟩

end Marks

section Quoted

variable (text : Text)

/-- The character stands behind an odd number of backslashes. -/
def escaped : Nat → Bool
  | 0 => false
  | position + 1 => text[position]? = some '\\' && !escaped position

def isChar (char : Char) (position : Nat) : Bool := text[position]? = some char

/-- A quote that opens or closes. -/
def isQuote (position : Nat) : Bool := isChar text '"' position && !escaped text position

/-- The position is behind a quote that opens, and not behind the one that closes. -/
def quoted : Nat → Bool
  | 0 => false
  | position + 1 => if isQuote text position then !quoted position else quoted position

/-- A comma that parts two fields. -/
def isOuterComma (position : Nat) : Bool := isChar text ',' position && !quoted text position

/-- Every quote that opens is closed. -/
def Balanced : Prop := quoted text text.length = false

instance : Decidable (Balanced text) := inferInstanceAs (Decidable (_ = false))

def cutMarks (mark : Nat → Bool) : Nat → Text → List Text
  | _, [] => [[]]
  | position, char :: rest =>
    if mark position then [] :: cutMarks mark (position + 1) rest
    else
      match cutMarks mark (position + 1) rest with
      | [] => [[char]]
      | field :: fields => (char :: field) :: fields

/-- The fields of a text from a position on. -/
def fieldsFrom (start : Nat) : List Text := cutMarks (isOuterComma text) start (text.drop start)

variable {text} {start position first second comma count : Nat} {found : Option Nat}

theorem escaped_succ (position : Nat) :
    escaped text (position + 1) = (text[position]? = some '\\' && !escaped text position) := rfl

theorem escaped_behind {char : Char} (here : text[position]? = some char) (other : char ≠ '\\') :
    escaped text (position + 1) = false := by
  rw [escaped_succ, here, Bool.and_eq_false_iff]
  exact .inl (decide_eq_false fun same => other (Option.some.inj same))

theorem escaped_run (clean : escaped text start = false)
    (run : ∀ place, start ≤ place → place < start + count → text[place]? = some '\\') :
    escaped text (start + count) = decide (count % 2 = 1) := by
  induction count with
  | zero => exact clean
  | succ count ih =>
    have earlier := ih fun place low high => run place low (Nat.lt_succ_of_lt high)
    have last := run (start + count) (Nat.le_add_right _ _) (Nat.lt_succ_self _)
    rw [← Nat.add_assoc, escaped_succ, last, earlier]
    rcases Nat.mod_two_eq_zero_or_one count with even | odd
    · simp [even, Nat.add_mod]
    · simp [odd, Nat.add_mod]

theorem quoted_succ (position : Nat) : quoted text (position + 1) =
    if isQuote text position then !quoted text position else quoted text position := rfl

theorem quoted_same (le : start ≤ position)
    (plain : ∀ place, start ≤ place → place < position → isQuote text place = false) :
    quoted text position = quoted text start := by
  induction le with
  | refl => rfl
  | @step position le ih =>
    rw [quoted_succ, plain position le (Nat.lt_succ_self _)]
    exact ih fun place low high => plain place low (Nat.lt_succ_of_lt high)

theorem quoted_behind (quote : FirstFrom (isQuote text) start (some first)) :
    quoted text (first + 1) = !quoted text start := by
  obtain ⟨above, here, plain⟩ := quote
  rw [quoted_succ, if_pos here, quoted_same above plain]

theorem quote_char (quote : isQuote text position = true) : text[position]? = some '"' :=
  of_decide_eq_true (Bool.and_eq_true_iff.mp quote).1

theorem lt_of_isQuote (quote : isQuote text position = true) : position < text.length :=
  (List.getElem?_eq_some_iff.mp (quote_char quote)).1

/-- In a balanced text a quote that opens is followed by one that closes. -/
theorem Balanced.closes (balanced : Balanced text) (outside : quoted text start = false)
    (opens : FirstFrom (isQuote text) start (some first)) :
    ¬ FirstFrom (isQuote text) (first + 1) none := by
  intro unclosed
  have inside := quoted_behind opens
  have same := quoted_same (lt_of_isQuote opens.2.1) (fun place low _ => unclosed place low)
  rw [inside, outside] at same
  unfold Balanced at balanced
  rw [balanced] at same
  cases same

theorem outer_of_quoted (outside : quoted text position = false) :
    isOuterComma text position = isChar text ',' position := by
  rw [isOuterComma, outside, Bool.not_false, Bool.and_true]

theorem outer_none (commas : FirstFrom (isChar text ',') start none) :
    FirstFrom (isOuterComma text) start none := by
  intro position above
  rw [isOuterComma, commas position above, Bool.false_and]

theorem outer_first (outside : quoted text start = false)
    (quotes : FirstFrom (isQuote text) start found)
    (commas : FirstFrom (isChar text ',') start (some comma))
    (before : ∀ quote, found = some quote → comma < quote) :
    FirstFrom (isOuterComma text) start (some comma) := by
  obtain ⟨above, here, none_before⟩ := commas
  have plain (place : Nat) (low : start ≤ place) (high : place < comma) :
      isQuote text place = false := by
    cases found with
    | none => exact quotes place low
    | some quote => exact quotes.2.2 place low (high.trans (before quote rfl))
  refine ⟨above, ?_, fun place low high => ?_⟩
  · rw [outer_of_quoted ((quoted_same above plain).trans outside)]
    exact here
  · rw [isOuterComma, none_before place low high, Bool.false_and]

theorem plain_pair (outside : quoted text start = false)
    (opens : FirstFrom (isQuote text) start (some first))
    (closes : FirstFrom (isQuote text) (first + 1) (some second))
    (none_before : ∀ place, start ≤ place → place < first → isChar text ',' place = false) :
    ∀ place, start ≤ place → place < second + 1 → isOuterComma text place = false := by
  intro place low high
  rw [isOuterComma, Bool.and_eq_false_iff]
  rcases Nat.lt_or_ge place first with early | late
  · exact .inl (none_before place low early)
  · rcases Nat.eq_or_lt_of_le late with same | inside
    · subst same
      have char := quote_char opens.2.1
      exact .inl (by simp [isChar, char])
    · have still : quoted text place = true := by
        rw [quoted_same inside (fun other low high' =>
          closes.2.2 other low (Nat.lt_of_lt_of_le high' (Nat.le_of_lt_succ high))),
          quoted_behind opens, outside]
        rfl
      exact .inr (by rw [still]; rfl)

theorem le_behind_pair (opens : FirstFrom (isQuote text) start (some first))
    (closes : FirstFrom (isQuote text) (first + 1) (some second)) : start < second + 1 :=
  Nat.lt_succ_of_le (opens.1.trans (Nat.le_of_succ_le closes.1))

theorem quoted_behind_pair (opens : FirstFrom (isQuote text) start (some first))
    (closes : FirstFrom (isQuote text) (first + 1) (some second)) :
    quoted text (second + 1) = quoted text start := by
  rw [quoted_behind closes, quoted_behind opens, Bool.not_not]

variable {mark : Nat → Bool} {rest : Text}

theorem cutMarks_none (plain : FirstFrom mark start none) : cutMarks mark start rest = [rest] := by
  induction rest generalizing start with
  | nil => rfl
  | cons char rest ih =>
    rw [cutMarks, plain start (Nat.le_refl _),
      ih fun position above => plain position (Nat.le_of_succ_le above)]
    rfl

theorem cutMarks_some (marked : FirstFrom mark start (some first))
    (inside : first < start + rest.length) :
    cutMarks mark start rest =
      rest.take (first - start) :: cutMarks mark (first + 1) (rest.drop (first + 1 - start)) := by
  induction rest generalizing start with
  | nil => exact absurd (Nat.lt_of_lt_of_le inside marked.1) (Nat.lt_irrefl _)
  | cons char rest ih =>
    obtain ⟨above, here, plain⟩ := marked
    rcases Nat.eq_or_lt_of_le above with same | less
    · subst same
      rw [cutMarks, if_pos here, Nat.sub_self, Nat.add_sub_cancel_left]
      rfl
    · have next : FirstFrom mark (start + 1) (some first) :=
        ⟨less, here, fun place low => plain place (Nat.le_of_succ_le low)⟩
      have shorter : first < start + 1 + rest.length := by
        rw [List.length_cons] at inside
        omega
      have taken : first - start = (first - (start + 1)) + 1 := by omega
      have dropped : first + 1 - start = (first + 1 - (start + 1)) + 1 := by omega
      rw [cutMarks, plain start (Nat.le_refl _) less, ih next shorter, taken, dropped]
      rfl

theorem fieldsFrom_none (plain : FirstFrom (isOuterComma text) start none) :
    fieldsFrom text start = [text.drop start] :=
  cutMarks_none plain

theorem lt_of_isOuterComma (outer : isOuterComma text position = true) :
    position < text.length := by
  have char : isChar text ',' position = true := (Bool.and_eq_true_iff.mp outer).1
  exact (List.getElem?_eq_some_iff.mp (of_decide_eq_true char)).1

theorem fieldsFrom_some (outer : FirstFrom (isOuterComma text) start (some comma)) :
    fieldsFrom text start =
      (text.drop start).take (comma - start) :: fieldsFrom text (comma + 1) := by
  have inside := lt_of_isOuterComma outer.2.1
  have le := outer.1
  unfold fieldsFrom
  rw [cutMarks_some outer (by rw [List.length_drop]; omega), List.drop_drop,
    Nat.add_sub_cancel' (Nat.le_succ_of_le le)]

theorem cutMarks_shift {other : Nat → Bool}
    (same : ∀ place, other (position + place) = mark (start + place)) :
    cutMarks other position rest = cutMarks mark start rest := by
  induction rest generalizing start position with
  | nil => rfl
  | cons char rest ih =>
    have here := same 0
    rw [Nat.add_zero, Nat.add_zero] at here
    have next (place : Nat) : other (position + 1 + place) = mark (start + 1 + place) := by
      rw [Nat.add_assoc, Nat.add_assoc]
      exact same (1 + place)
    rw [cutMarks, cutMarks, here, ih next]

theorem cutMarks_ne_nil : cutMarks mark start rest ≠ [] := by
  cases rest with
  | nil => exact List.cons_ne_nil _ _
  | cons char rest =>
    rw [cutMarks]
    split
    · exact List.cons_ne_nil _ _
    · split <;> exact List.cons_ne_nil _ _

theorem fieldsFrom_ne_nil : fieldsFrom text start ≠ [] := cutMarks_ne_nil

theorem escaped_drop (clean : escaped text start = false) (position : Nat) :
    escaped (text.drop start) position = escaped text (start + position) := by
  induction position with
  | zero => exact clean.symm
  | succ position ih => rw [escaped_succ, ih, ← Nat.add_assoc, escaped_succ, List.getElem?_drop]

theorem quoted_drop (clean : escaped text start = false) (outside : quoted text start = false)
    (position : Nat) : quoted (text.drop start) position = quoted text (start + position) := by
  induction position with
  | zero => exact outside.symm
  | succ position ih =>
    rw [quoted_succ, ih, ← Nat.add_assoc, quoted_succ, isQuote, isQuote, isChar, isChar,
      escaped_drop clean, List.getElem?_drop]

theorem outer_drop (clean : escaped text start = false) (outside : quoted text start = false)
    (position : Nat) :
    isOuterComma (text.drop start) position = isOuterComma text (start + position) := by
  rw [isOuterComma, isOuterComma, isChar, isChar, quoted_drop clean outside, List.getElem?_drop]

theorem fieldsFrom_drop (clean : escaped text start = false) (outside : quoted text start = false) :
    fieldsFrom text start = fieldsFrom (text.drop start) 0 := by
  unfold fieldsFrom
  rw [List.drop_zero]
  refine (cutMarks_shift fun place => ?_).symm
  rw [Nat.zero_add]
  exact outer_drop clean outside place

theorem escaped_append {rest : Text} (within : position ≤ text.length) :
    escaped (text ++ rest) position = escaped text position := by
  induction position with
  | zero => rfl
  | succ position ih =>
    rw [escaped_succ, escaped_succ, ih (Nat.le_of_succ_le within),
      List.getElem?_append_left within]

theorem quoted_append {rest : Text} (within : position ≤ text.length) :
    quoted (text ++ rest) position = quoted text position := by
  induction position with
  | zero => rfl
  | succ position ih =>
    rw [quoted_succ, quoted_succ, ih (Nat.le_of_succ_le within), isQuote, isQuote, isChar, isChar,
      escaped_append (Nat.le_of_succ_le within), List.getElem?_append_left within]

theorem outer_append {rest : Text} (within : position < text.length) :
    isOuterComma (text ++ rest) position = isOuterComma text position := by
  rw [isOuterComma, isOuterComma, isChar, isChar, quoted_append within.le,
    List.getElem?_append_left within]

variable (text) in
/-- A text that stands as one field between commas. -/
structure Closed : Prop where
  balanced : Balanced text
  plain : ∀ position, isOuterComma text position = false

theorem exists_firstFrom (mark : Nat → Bool) (start : Nat) : ∃ found, FirstFrom mark start found := by
  by_cases somewhere : ∃ position, start ≤ position ∧ mark position = true
  · have least := Nat.find_spec somewhere
    refine ⟨some (Nat.find somewhere), least.1, least.2, fun position low high => ?_⟩
    exact (Bool.not_eq_true _).mp fun here => Nat.find_min somewhere high ⟨low, here⟩
  · refine ⟨none, fun position above => ?_⟩
    exact (Bool.not_eq_true _).mp fun here => somewhere ⟨position, above, here⟩

theorem outer_none_of_long (long : text.length ≤ position) :
    isOuterComma text position = false := by
  rw [isOuterComma, isChar, List.getElem?_eq_none long]
  rfl

/-- The part in front of the first comma that counts is one field. -/
theorem closed_take (clean : escaped text start = false) (outside : quoted text start = false)
    (outer : FirstFrom (isOuterComma text) start (some comma)) :
    Closed ((text.drop start).take (comma - start)) := by
  obtain ⟨above, here, plain⟩ := outer
  have inside := lt_of_isOuterComma here
  have length : ((text.drop start).take (comma - start)).length = comma - start := by
    rw [List.length_take, List.length_drop]
    omega
  have whole : (text.drop start).take (comma - start) ++ (text.drop start).drop (comma - start) =
      text.drop start := List.take_append_drop _ _
  have unquoted : quoted text comma = false := by
    simpa using (Bool.and_eq_true_iff.mp here).2
  refine ⟨?_, fun position => ?_⟩
  · have same := quoted_drop clean outside (comma - start)
    rw [Nat.add_sub_cancel' above, unquoted, ← whole, quoted_append length.ge] at same
    unfold Balanced
    rw [length]
    exact same
  · rcases Nat.lt_or_ge position (comma - start) with low | high
    · have same := outer_drop clean outside position
      rw [plain _ (Nat.le_add_right _ _) (Nat.add_lt_of_lt_sub' low), ← whole,
        outer_append (length.symm ▸ low)] at same
      exact same
    · exact outer_none_of_long (length.symm ▸ high)

theorem closed_drop (balanced : Balanced text) (clean : escaped text start = false)
    (outside : quoted text start = false) (le : start ≤ text.length)
    (plain : FirstFrom (isOuterComma text) start none) : Closed (text.drop start) := by
  refine ⟨?_, fun position => ?_⟩
  · unfold Balanced
    rw [quoted_drop clean outside, List.length_drop, Nat.add_sub_cancel' le]
    exact balanced
  · rw [outer_drop clean outside]
    exact plain _ (Nat.le_add_right _ _)

theorem clean_behind (outer : isOuterComma text comma = true) :
    escaped text (comma + 1) = false ∧ quoted text (comma + 1) = false := by
  obtain ⟨char, unquoted⟩ := Bool.and_eq_true_iff.mp outer
  have char : text[comma]? = some ',' := of_decide_eq_true char
  have plain : isQuote text comma = false := by
    rw [isQuote, isChar, char]
    rfl
  refine ⟨escaped_behind char (by decide), ?_⟩
  rw [quoted_succ, plain]
  simpa using unquoted

/-- Every field stands for itself, and the fields with commas between them are the text. -/
theorem fieldsFrom_spec (balanced : Balanced text) (clean : escaped text start = false)
    (outside : quoted text start = false) (le : start ≤ text.length) :
    (∀ field ∈ fieldsFrom text start, Closed field) ∧
      List.intercalate [','] (fieldsFrom text start) = text.drop start := by
  obtain ⟨found, first⟩ := exists_firstFrom (isOuterComma text) start
  induction left : text.length - start using Nat.strong_induction_on generalizing start found with
  | _ left ih =>
    cases found with
    | none =>
      rw [fieldsFrom_none first]
      refine ⟨fun field member => ?_, List.intercalate_singleton ..⟩
      rw [List.mem_singleton.mp member]
      exact closed_drop balanced clean outside le first
    | some comma =>
      have inside := lt_of_isOuterComma first.2.1
      have above := first.1
      obtain ⟨later, behind⟩ := clean_behind first.2.1
      obtain ⟨next, rest⟩ := exists_firstFrom (isOuterComma text) (comma + 1)
      obtain ⟨closed, joined⟩ := ih (text.length - (comma + 1)) (by omega) later behind inside next
        rest rfl
      rw [fieldsFrom_some first]
      refine ⟨List.forall_mem_cons.mpr ⟨closed_take clean outside first, closed⟩, ?_⟩
      have char : text[comma] = ',' := by
        have here : text[comma]? = some ',' :=
          of_decide_eq_true (Bool.and_eq_true_iff.mp first.2.1).1
        exact (List.getElem?_eq_some_iff.mp here).2
      rw [List.intercalate_cons_of_ne_nil fieldsFrom_ne_nil, joined]
      calc (text.drop start).take (comma - start) ++ [','] ++ text.drop (comma + 1)
          = (text.drop start).take (comma - start) ++ text[comma] :: text.drop (comma + 1) := by
            rw [char, List.append_assoc]
            rfl
        _ = (text.drop start).take (comma - start) ++ text.drop comma := by
            rw [List.drop_eq_getElem_cons inside]
        _ = (text.drop start).take (comma - start) ++ (text.drop start).drop (comma - start) := by
            rw [List.drop_drop, Nat.add_sub_cancel' above]
        _ = text.drop start := List.take_append_drop _ _

theorem fieldsFrom_intercalate {fields : List Text} (closed : ∀ field ∈ fields, Closed field)
    (filled : fields ≠ []) : fieldsFrom (List.intercalate [','] fields) 0 = fields := by
  induction fields with
  | nil => exact absurd rfl filled
  | cons field fields ih =>
    obtain ⟨⟨balanced, plain⟩, others⟩ := List.forall_mem_cons.mp closed
    cases fields with
    | nil =>
      rw [List.intercalate_singleton, fieldsFrom_none fun position _ => plain position]
      rfl
    | cons second fields =>
      have tail := ih others (List.cons_ne_nil _ _)
      rw [List.intercalate_cons_of_ne_nil (List.cons_ne_nil _ _)]
      generalize List.intercalate [','] (second :: fields) = rest at tail
      have outside : quoted (field ++ ',' :: rest) field.length = false := by
        rw [quoted_append (Nat.le_refl _)]
        exact balanced
      have char : (field ++ ',' :: rest)[field.length]? = some ',' := by
        rw [List.getElem?_append_right (Nat.le_refl _), Nat.sub_self]
        rfl
      have first : FirstFrom (isOuterComma (field ++ ',' :: rest)) 0 (some field.length) := by
        refine ⟨Nat.zero_le _, ?_, fun position _ before => ?_⟩
        · rw [outer_of_quoted outside, isChar, char]
          rfl
        · rw [outer_append before]
          exact plain position
      obtain ⟨clean, behind⟩ := clean_behind first.2.1
      have shape : field ++ [','] ++ rest = field ++ ',' :: rest := by
        rw [List.append_assoc]
        rfl
      have dropped : (field ++ ',' :: rest).drop (field.length + 1) = rest := by
        rw [← List.drop_drop, List.drop_left]
        rfl
      have others : fieldsFrom (field ++ ',' :: rest) (field.length + 1) = second :: fields := by
        rw [← tail, fieldsFrom_drop clean behind, dropped]
      rw [shape, fieldsFrom_some first, others, Nat.sub_zero, List.drop_zero, List.take_left]

end Quoted

end Gb28181.Lib
