import Gb28181.ConfigFile.IniFile
import Gb28181.Lib.Runs

/-! `openini` on any text: which lines it reads, and which section it puts an item into. -/

namespace Gb28181.ConfigFile

open Gb28181.Lib

variable {reader next : Reader} {line name comment : Text} {lines : List Text} {outcome : Outcome}

theorem trim_trimright {str : Text} {c : Char} (space : isSpace c = true) :
    trim (trimright str c) = trim str := by
  refine strip_rdropWhile fun char same => ?_
  rw [of_decide_eq_true same]
  exact space

/-- The name in the brackets of a header; nothing where the closing bracket is missing. -/
def headerName (line : Text) : Option Text :=
  (line.idxOf? ']').map fun index => (line.drop 1).take (index - 1)

def IsHeader (line : Text) : Prop := (trim line).head? = some '['

instance (line : Text) : Decidable (IsHeader line) := by
  unfold IsHeader
  infer_instance

/-- Neither a header nor a comment, and with an `=`. -/
def IsKeyLine (line : Text) : Prop :=
  ¬ IsHeader line ∧ isComment (trim line) = false ∧ '=' ∈ trim line

/-- Where something stands behind the mark of an inline comment, the value in front of the mark
has no zero. -/
def Readable (line : Text) : Prop :=
  let value := (line.dropWhile (· ≠ '=')).drop 1
  let kept := value.takeWhile (fun char => char ≠ ';' ∧ char ≠ '#')
  kept.length + 1 < value.length → '\x00' ∉ kept

theorem readLine_eq : readLine reader line =
    if (trim line).length ≤ 0 then .ok reader
    else if IsHeader line then readHeader reader (trim line)
    else if isComment (trim line) then
      .ok { reader with comment := reader.comment ++ (trim line ++ delim) }
    else readItem reader (trim line) := by
  unfold readLine IsHeader
  rw [trim_trimright (by decide), trim_trimright (by decide)]

theorem parse_failed (missing : '=' ∉ line) : parse line comment = .failed := by
  have none : line.dropWhile (· ≠ '=') = [] := by
    refine List.dropWhile_eq_nil_iff.mpr fun char member => ?_
    exact decide_eq_true fun same => missing (same ▸ member)
  rw [parse, none]

/-- The text up to a mark is cut short by a zero in front of the mark, and only there. -/
theorem cString_short_iff {kept rest : Text} {mark : Char} (visible : mark ≠ '\x00') :
    (cString (kept ++ mark :: rest)).length < kept.length + 1 ↔ '\x00' ∈ kept := by
  constructor
  · intro short
    by_contra free
    have begins : cString (mark :: rest) = mark :: cString rest :=
      List.takeWhile_cons_of_pos (decide_eq_true visible)
    rw [cString_append free, begins, List.length_append, List.length_cons] at short
    omega
  · intro zero
    have cut : cString (kept ++ mark :: rest) <+: kept := by
      refine List.prefix_of_prefix_length_le (List.takeWhile_prefix _) (List.prefix_append ..) ?_
      by_contra long
      have whole : kept <+: cString (kept ++ mark :: rest) :=
        List.prefix_of_prefix_length_le (List.prefix_append ..) (List.takeWhile_prefix _) (by omega)
      exact zero_not_mem_cString _ (whole.subset zero)
    exact Nat.lt_succ_of_le cut.length_le

/-- A line with an `=` gives a pair, with the name in front of the `=`, unless its inline comment
cannot be cut out. -/
theorem parse_of_mem (comment : Text) (there : '=' ∈ line) :
    (Readable line → ∃ value comment',
      parse line comment = .pair (trim (line.takeWhile (· ≠ '='))) value comment') ∧
      (¬ Readable line → parse line comment = .thrown) := by
  obtain ⟨equals, value, behind⟩ : ∃ equals value, line.dropWhile (· ≠ '=') = equals :: value := by
    refine List.exists_cons_of_ne_nil fun empty => ?_
    exact absurd (List.dropWhile_eq_nil_iff.mp empty '=' there) (by decide)
  unfold parse Readable
  rw [behind, List.drop_one, List.tail_cons]
  dsimp only
  generalize shape : value.takeWhile (fun char => char ≠ ';' ∧ char ≠ '#') = kept
  by_cases more : kept.length + 1 < value.length
  · rw [if_pos more]
    obtain ⟨mark, rest, stops⟩ :
        ∃ mark rest, value.dropWhile (fun char => char ≠ ';' ∧ char ≠ '#') = mark :: rest := by
      refine List.exists_cons_of_ne_nil fun empty => ?_
      have whole : value.takeWhile (fun char => char ≠ ';' ∧ char ≠ '#') ++
          value.dropWhile (fun char => char ≠ ';' ∧ char ≠ '#') = value :=
        List.takeWhile_append_dropWhile
      rw [shape, empty, List.append_nil] at whole
      rw [whole] at more
      omega
    have visible : mark ≠ '\x00' := by
      rintro rfl
      have first := List.head?_dropWhile_not (fun char => decide (char ≠ ';' ∧ char ≠ '#')) value
      rw [stops] at first
      have mark : decide ('\x00' ≠ ';' ∧ '\x00' ≠ '#') = false := first
      exact absurd mark (by decide)
    have whole : kept ++ mark :: rest = value := by
      rw [← shape, ← stops]
      exact List.takeWhile_append_dropWhile
    have short : (cString value).length < kept.length + 1 ↔ '\x00' ∈ kept := by
      rw [← whole]
      exact cString_short_iff visible
    by_cases zero : '\x00' ∈ kept
    · rw [if_pos (short.mpr zero)]
      exact ⟨fun readable => absurd zero (readable more), fun _ => rfl⟩
    · rw [if_neg (mt short.mp zero)]
      exact ⟨fun _ => ⟨_, _, rfl⟩, fun unreadable => absurd (fun _ => zero) unreadable⟩
  · rw [if_neg more]
    exact ⟨fun _ => ⟨_, _, rfl⟩, fun unreadable => absurd (fun long => absurd long more) unreadable⟩

/-- The comment behind the brackets of a header. -/
def rightComment (line : Text) : Text :=
  ((line.idxOf? ']').map fun index => trim (line.drop (index + 1))).elim [] fun right =>
    if isComment right then right ++ delim else []

theorem readHeader_eq : readHeader reader line =
    match headerName line with
    | none => .error (.returned (-1) reader.sections)
    | some name =>
      if name = [] then .ok { reader with sect := none }
      else if (reader.sections.find (cString name)).isSome then
        .error (.returned (-1) reader.sections)
      else .ok
        ⟨reader.sections.assign name ⟨name, reader.comment ++ rightComment line, []⟩,
          some name, []⟩ := by
  unfold readHeader headerName rightComment
  cases found : line.idxOf? ']' with
  | none => rfl
  | some index =>
    obtain ⟨inside, -, -⟩ := List.idxOf?_eq_some_iff.mp found
    have empty : (line.drop 1).take (index - 1) = [] ↔ index - 1 ≤ 0 := by
      rw [← List.length_eq_zero_iff, List.length_take, List.length_drop]
      omega
    have right : (if index + 1 < line.length ∧ isComment (trim (line.drop (index + 1))) then
        reader.comment ++ (trim (line.drop (index + 1)) ++ delim) else reader.comment) =
        reader.comment ++
          if isComment (trim (line.drop (index + 1))) then trim (line.drop (index + 1)) ++ delim
          else [] := by
      by_cases comments : isComment (trim (line.drop (index + 1)))
      · have more : index + 1 < line.length := by
          by_contra last
          rw [List.drop_eq_nil_of_le (by omega)] at comments
          exact absurd comments (by decide)
        rw [if_pos ⟨more, comments⟩, if_pos comments]
      · rw [if_neg (mt And.right comments), if_neg comments, List.append_nil]
    dsimp only [Option.map_some, Option.elim_some]
    rw [right]
    by_cases none : index - 1 ≤ 0
    · rw [if_pos none, if_pos (empty.mpr none)]
    · rw [if_neg none, if_neg (mt empty.mp none)]

/-- What a line at which the reading goes on does. -/
inductive Reads (reader : Reader) (line : Text) : Reader → Prop
  | blank (empty : trim line = []) : Reads reader line reader
  | comment (other : ¬ IsHeader line) (flagged : isComment (trim line) = true) :
    Reads reader line { reader with comment := reader.comment ++ (trim line ++ delim) }
  | failed (other : ¬ IsHeader line) : Reads reader line { reader with comment := [] }
  | nameless (header : IsHeader line) (named : headerName (trim line) = some []) :
    Reads reader line { reader with sect := none }
  | header {name : Text} (header : IsHeader line) (named : headerName (trim line) = some name)
    (filled : name ≠ []) (new : reader.sections.find (cString name) = none) :
    Reads reader line
      ⟨reader.sections.assign name ⟨name, reader.comment ++ rightComment (trim line), []⟩,
        some name, []⟩
  | item {name key value comment : Text} (other : ¬ IsHeader line)
    (noComment : isComment (trim line) = false) (current : reader.sect = some name)
    (parsed : parse (trim line) reader.comment = .pair key value comment) :
    Reads reader line { reader with
      sections := reader.sections.modify name fun sect =>
        { sect with items := sect.items ++ [⟨key, value, comment⟩] }
      comment := [] }

theorem not_isHeader_of_blank (empty : trim line = []) : ¬ IsHeader line := by
  intro header
  rw [IsHeader, empty] at header
  cases header

theorem reads_of_readItem (other : ¬ IsHeader line) (noComment : isComment (trim line) = false)
    (read : readItem reader (trim line) = .ok next) : Reads reader line next := by
  unfold readItem at read
  cases parsed : parse (trim line) reader.comment with
  | failed =>
    rw [parsed] at read
    cases read
    exact .failed other
  | thrown =>
    rw [parsed] at read
    cases read
  | pair key value comment =>
    rw [parsed] at read
    cases current : reader.sect with
    | none =>
      rw [current] at read
      cases read
    | some name =>
      rw [current] at read
      cases read
      rw [← current]
      exact .item other noComment current parsed

theorem reads_of_readHeader (header : IsHeader line)
    (read : readHeader reader (trim line) = .ok next) : Reads reader line next := by
  rw [readHeader_eq] at read
  cases named : headerName (trim line) with
  | none =>
    rw [named] at read
    cases read
  | some name =>
    rw [named] at read
    dsimp only at read
    by_cases empty : name = []
    · rw [if_pos empty] at read
      cases read
      exact .nameless header (empty ▸ named)
    · rw [if_neg empty] at read
      by_cases taken : (reader.sections.find (cString name)).isSome
      · rw [if_pos taken] at read
        cases read
      · rw [if_neg taken] at read
        cases read
        exact .header header named empty (Option.not_isSome_iff_eq_none.mp taken)

theorem reads_of_readLine (read : readLine reader line = .ok next) : Reads reader line next := by
  rw [readLine_eq] at read
  by_cases blank : (trim line).length ≤ 0
  · rw [if_pos blank] at read
    cases read
    exact .blank (List.eq_nil_of_length_eq_zero (Nat.le_zero.mp blank))
  · rw [if_neg blank] at read
    by_cases header : IsHeader line
    · rw [if_pos header] at read
      exact reads_of_readHeader header read
    · rw [if_neg header] at read
      by_cases flagged : isComment (trim line)
      · rw [if_pos flagged] at read
        cases read
        exact .comment header flagged
      · rw [if_neg flagged] at read
        exact reads_of_readItem header (Bool.eq_false_iff.mpr flagged) read

/-- The names of the headers among the lines. -/
def headerNames (lines : List Text) : List Text :=
  lines.filterMap fun line => if IsHeader line then headerName (trim line) else none

/-- A header at which the reading stops: it has no closing bracket, or its name up to the first
zero is that of a section. -/
def Stops (before : List Text) (line : Text) : Prop :=
  IsHeader line ∧ ∀ name ∈ headerName (trim line),
    name ≠ [] ∧ (cString name = [] ∨ cString name ∈ headerNames before)

/-- The reading goes through these lines if their items can be stored. -/
def Open (lines : List Text) : Prop :=
  ∀ before line, before ++ [line] <+: lines → ¬ Stops before line

/-- The last header has a name, if there is one. -/
def InSection (lines : List Text) : Prop :=
  ∀ line ∈ (lines.filter (IsHeader ·)).getLast?, headerName (trim line) ≠ some []

/-- What the reader knows behind these lines. -/
structure Behind (lines : List Text) (reader : Reader) : Prop where
  known : ∀ name, (reader.sections.find name).isSome ↔ name = [] ∨ name ∈ headerNames lines
  current : InSection lines ↔ ∃ name, reader.sect = some name
  there : ∀ name, reader.sect = some name → (reader.sections.find name).isSome

theorem open_concat : Open (lines ++ [line]) ↔ Open lines ∧ ¬ Stops lines line := by
  unfold Open
  constructor
  · intro goes
    exact ⟨fun before line' shape => goes before line' (shape.trans (List.prefix_append ..)),
      goes lines line (List.prefix_refl _)⟩
  · rintro ⟨earlier, last⟩ before line' shape
    rcases List.prefix_concat_iff.mp shape with whole | shorter
    · obtain ⟨rfl, same⟩ := List.append_inj' whole rfl
      rw [List.singleton_inj.mp same]
      exact last
    · exact earlier before line' shorter

theorem find_start : Reader.start.sections.find name =
    if name = [] then some ⟨[], [], []⟩ else none := by
  have nothing : (OrderedMap.empty : Sections).find name = none := rfl
  unfold Reader.start
  rw [OrderedMap.find_assign, nothing]
  by_cases root : name = []
  · rw [if_pos root, if_pos root]
  · rw [if_neg root, if_neg root]

theorem behind_start : Behind [] Reader.start where
  known name := by
    rw [find_start]
    by_cases root : name = [] <;> simp [root, headerNames]
  current := by
    refine iff_of_true (fun line member => ?_) ⟨[], rfl⟩
    cases member
  there name same := by
    obtain rfl : [] = name := Option.some.inj same
    rw [find_start, if_pos rfl]
    rfl

theorem headerNames_concat : headerNames (lines ++ [line]) = headerNames lines ++
    (if IsHeader line then headerName (trim line) else none).toList := by
  unfold headerNames
  rw [List.filterMap_append]
  cases shape : (if IsHeader line then headerName (trim line) else none) <;> simp [shape]

theorem inSection_concat_header (header : IsHeader line) :
    InSection (lines ++ [line]) ↔ headerName (trim line) ≠ some [] := by
  unfold InSection
  simp [header]

theorem inSection_concat (other : ¬ IsHeader line) :
    InSection (lines ++ [line]) ↔ InSection lines := by
  unfold InSection
  simp [other]

/-- A line that is no header leaves the names of the sections and the current one. -/
theorem Behind.unheaded {after : Reader} (behind : Behind lines reader) (other : ¬ IsHeader line)
    (sect : after.sect = reader.sect)
    (sections : ∀ name, (after.sections.find name).isSome = (reader.sections.find name).isSome) :
    Behind (lines ++ [line]) after where
  known name := by
    rw [sections, behind.known, headerNames_concat, if_neg other]
    simp
  current := by
    rw [inSection_concat other, sect, behind.current]
  there name same := by
    rw [sections]
    exact behind.there name (sect ▸ same)

theorem headerNames_concat_header (header : IsHeader line)
    (named : headerName (trim line) = some name) :
    headerNames (lines ++ [line]) = headerNames lines ++ [name] := by
  rw [headerNames_concat, if_pos header, named]
  rfl

theorem Behind.step (behind : Behind lines reader) (reads : Reads reader line next) :
    Behind (lines ++ [line]) next := by
  cases reads with
  | blank empty => exact behind.unheaded (not_isHeader_of_blank empty) rfl fun _ => rfl
  | comment other flagged => exact behind.unheaded other rfl fun _ => rfl
  | failed other => exact behind.unheaded other rfl fun _ => rfl
  | nameless header named =>
    refine ⟨fun name => ?_, ?_, fun name same => ?_⟩
    · rw [headerNames_concat_header header named, behind.known, List.mem_append,
        List.mem_singleton]
      tauto
    · rw [inSection_concat_header header, named]
      refine iff_of_false (absurd rfl) ?_
      rintro ⟨name, same⟩
      cases same
    · cases same
  | @header name header named filled new =>
    refine ⟨fun other => ?_, ?_, fun other same => ?_⟩
    · rw [headerNames_concat_header header named, OrderedMap.find_assign, List.mem_append,
        List.mem_singleton]
      by_cases same : other = name
      · simp [same]
      · rw [if_neg same, behind.known]
        simp [same]
    · rw [inSection_concat_header header, named]
      exact iff_of_true (fun same => filled (Option.some.inj same)) ⟨name, rfl⟩
    · cases same
      rw [OrderedMap.find_assign, if_pos rfl]
      rfl
  | @item name key value comment other noComment current parsed =>
    exact behind.unheaded other rfl fun name' => OrderedMap.isSome_find_modify

theorem behind_of_run (ran : lines.foldlM readLine Reader.start = .ok reader) :
    Behind lines reader := by
  induction lines using List.reverseRecOn generalizing reader with
  | nil =>
    cases ran
    exact behind_start
  | append_singleton lines line ih =>
    obtain ⟨before, earlier, last⟩ := foldlM_concat_ok.mp ran
    exact (ih earlier).step (reads_of_readLine last)

theorem Behind.header (behind : Behind lines reader) (header : IsHeader line) :
    (Stops lines line → readLine reader line = .error (.returned (-1) reader.sections)) ∧
      (¬ Stops lines line → ∃ next, readLine reader line = .ok next) := by
  have filled : ¬ (trim line).length ≤ 0 := fun blank =>
    not_isHeader_of_blank (List.eq_nil_of_length_eq_zero (Nat.le_zero.mp blank)) header
  rw [readLine_eq, if_neg filled, if_pos header, readHeader_eq]
  unfold Stops
  cases headerName (trim line) with
  | none => simp [header]
  | some name =>
    have taken := behind.known (cString name)
    dsimp only
    by_cases empty : name = []
    · rw [if_pos empty]
      simp [empty]
    · rw [if_neg empty]
      by_cases known : (reader.sections.find (cString name)).isSome
      · rw [if_pos known]
        simp [header, empty, taken.mp known]
      · rw [if_neg known]
        simp [header, mt taken.mpr known]

/-- A line that is neither a header nor a key line is passed over. -/
theorem readLine_passed (reader : Reader) (other : ¬ IsHeader line) (noKey : ¬ IsKeyLine line) :
    ∃ comment, readLine reader line = .ok { reader with comment := comment } := by
  rw [readLine_eq, if_neg other]
  by_cases blank : (trim line).length ≤ 0
  · exact ⟨reader.comment, if_pos blank⟩
  · rw [if_neg blank]
    by_cases comments : isComment (trim line)
    · exact ⟨_, if_pos comments⟩
    · have missing : '=' ∉ trim line := fun there =>
        noKey ⟨other, Bool.eq_false_iff.mpr comments, there⟩
      rw [if_neg comments, readItem, parse_failed missing]
      exact ⟨[], rfl⟩

theorem readLine_key (keyLine : IsKeyLine line) :
    readLine reader line = readItem reader (trim line) := by
  obtain ⟨other, noComment, there⟩ := keyLine
  have filled : ¬ (trim line).length ≤ 0 := by
    have some := List.length_pos_of_mem there
    omega
  rw [readLine_eq, if_neg filled, if_neg other, if_neg (Bool.eq_false_iff.mp noComment)]

theorem readItem_pair {key value : Text}
    (parsed : parse line reader.comment = .pair key value comment)
    (current : reader.sect = some name) : readItem reader line = .ok { reader with
      sections := reader.sections.modify name fun sect =>
        { sect with items := sect.items ++ [⟨key, value, comment⟩] }
      comment := [] } := by
  rw [readItem, parsed, current]

/-- The item of the line goes to the end of the section that is current. -/
def Stored (reader : Reader) (line : Text) : Prop :=
  ∃ name sect item next, reader.sect = some name ∧ reader.sections.find name = some sect ∧
    item.key = trim ((trim line).takeWhile (· ≠ '=')) ∧ readLine reader line = .ok next ∧
    next.sections.find name = some { sect with items := sect.items ++ [item] }

/-- An item is stored exactly where there is a current section and the line can be read. -/
theorem Behind.stored_iff (behind : Behind lines reader) (keyLine : IsKeyLine line) :
    Stored reader line ↔ InSection lines ∧ Readable (trim line) := by
  obtain ⟨reads, throws⟩ := parse_of_mem reader.comment keyLine.2.2
  unfold Stored
  rw [readLine_key keyLine, behind.current]
  constructor
  · rintro ⟨name, sect, item, next, current, -, -, read, -⟩
    refine ⟨⟨name, current⟩, ?_⟩
    by_contra unreadable
    rw [readItem, throws unreadable] at read
    cases read
  · rintro ⟨⟨name, current⟩, readable⟩
    obtain ⟨value, comment, parsed⟩ := reads readable
    obtain ⟨sect, found⟩ := Option.isSome_iff_exists.mp (behind.there name current)
    refine ⟨name, sect, ⟨_, value, comment⟩, _, current, found, rfl,
      readItem_pair parsed current, ?_⟩
    dsimp only
    rw [OrderedMap.find_modify, if_pos rfl, found]
    rfl

/-- At every key line the current section is one that exists, and gets the item; the call returns
0 or -1. -/
def SafeLoad (strIniData : Text) : Prop :=
  (∀ before line reader, before ++ [line] <+: getlines strIniData →
      before.foldlM readLine Reader.start = .ok reader → IsKeyLine line → Stored reader line) ∧
    ∃ ret sections, openini strIniData = .returned ret sections ∧ (ret = 0 ∨ ret = -1)

/-- Where a key line is reached, the last header has a name and the line can be read. -/
def KeysPlaced (strIniData : Text) : Prop :=
  ∀ before line, before ++ [line] <+: getlines strIniData → Open before → IsKeyLine line →
    InSection before ∧ Readable (trim line)

theorem open_of_run (ran : lines.foldlM readLine Reader.start = .ok reader) : Open lines := by
  induction lines using List.reverseRecOn generalizing reader with
  | nil =>
    intro before line shape
    exact absurd (List.prefix_nil.mp shape) (by simp)
  | append_singleton lines line ih =>
    obtain ⟨before, earlier, last⟩ := foldlM_concat_ok.mp ran
    refine open_concat.mpr ⟨ih earlier, fun stops => ?_⟩
    rw [((behind_of_run earlier).header stops.1).1 stops] at last
    cases last

/-- Where the reading does not stop and an item is stored, it goes on. -/
theorem Behind.goes (behind : Behind lines reader) (on : ¬ Stops lines line)
    (stored : IsKeyLine line → Stored reader line) :
    ∃ next, readLine reader line = .ok next := by
  by_cases header : IsHeader line
  · exact (behind.header header).2 on
  · by_cases keyLine : IsKeyLine line
    · obtain ⟨-, -, -, next, -, -, -, read, -⟩ := stored keyLine
      exact ⟨next, read⟩
    · obtain ⟨comment, read⟩ := readLine_passed reader header keyLine
      exact ⟨_, read⟩

theorem run_of_open (goes : Open lines)
    (stored : ∀ before line reader, before ++ [line] <+: lines →
      before.foldlM readLine Reader.start = .ok reader → IsKeyLine line → Stored reader line) :
    ∃ reader, lines.foldlM readLine Reader.start = .ok reader := by
  induction lines using List.reverseRecOn with
  | nil => exact ⟨_, rfl⟩
  | append_singleton lines line ih =>
    obtain ⟨earlier, last⟩ := open_concat.mp goes
    obtain ⟨reader, ran⟩ := ih earlier fun before line' reader' shape =>
      stored before line' reader' (shape.trans (List.prefix_append ..))
    obtain ⟨next, read⟩ := (behind_of_run ran).goes last
      (stored lines line reader (List.prefix_refl _) ran)
    exact ⟨next, foldlM_concat_ok.mpr ⟨reader, ran, read⟩⟩

/-- Loading never uses a missing section exactly where every key line it reaches is placed. -/
theorem load_safe_iff (strIniData : Text) : SafeLoad strIniData ↔ KeysPlaced strIniData := by
  constructor
  · rintro ⟨stored, -⟩ before line shape goes keyLine
    obtain ⟨reader, ran⟩ := run_of_open goes fun before' line' reader' shape' =>
      stored before' line' reader' ((shape'.trans (List.prefix_append ..)).trans shape)
    exact ((behind_of_run ran).stored_iff keyLine).mp (stored before line reader shape ran keyLine)
  · intro placed
    have stored : ∀ before line reader, before ++ [line] <+: getlines strIniData →
        before.foldlM readLine Reader.start = .ok reader → IsKeyLine line →
          Stored reader line := by
      intro before line reader shape ran keyLine
      exact ((behind_of_run ran).stored_iff keyLine).mpr
        (placed before line shape (open_of_run ran) keyLine)
    refine ⟨stored, ?_⟩
    unfold openini
    cases ran : (getlines strIniData).foldlM readLine Reader.start with
    | ok reader => exact ⟨0, reader.sections, rfl, .inl rfl⟩
    | error outcome =>
      obtain ⟨before, line, reader, shape, earlier, failed⟩ := exists_of_foldlM_error ran
      by_cases stops : Stops before line
      · rw [((behind_of_run earlier).header stops.1).1 stops] at failed
        cases failed
        exact ⟨-1, reader.sections, rfl, .inr rfl⟩
      · obtain ⟨next, read⟩ :=
          (behind_of_run earlier).goes stops (stored before line reader shape earlier)
        rw [read] at failed
        cases failed

/-- Behind `[]` an item goes to a null pointer. -/
theorem load_nullSection : ¬ ∀ strIniData, SafeLoad strIniData := by
  intro all
  obtain ⟨ret, sections, returned, -⟩ := (all ['[', ']', '\n', 'a', '=', '1', '\n']).2
  have ends : openini ['[', ']', '\n', 'a', '=', '1', '\n'] = .nullSection := by decide
  rw [ends] at returned
  cases returned

end Gb28181.ConfigFile
