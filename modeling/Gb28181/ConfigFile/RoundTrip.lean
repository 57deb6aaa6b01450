import Gb28181.ConfigFile.SoundSections

namespace Gb28181.ConfigFile

open Gb28181.Lib

/-- Where the values have no mark of an inline comment, the comments of the items go on with
lines that add nothing, and no name of a section is another one up to a zero. -/
structure Plain (sections : Sections) : Prop where
  values : ∀ entry ∈ sections.entries, ∀ item ∈ entry.2.items, ∀ char ∈ item.value,
    char ≠ ';' ∧ char ≠ '#'
  comments : ∀ entry ∈ sections.entries, ∀ item ∈ entry.2.items,
    ∀ line ∈ (getlines (item.comment ++ delim)).tail, Harmless line
  names : ∀ name ∈ sections.keys, '\x00' ∈ name → cString name ∉ sections.keys

variable {reader next after : Reader} {line name key value comment text more : Text}
  {lines : List Text} {sections : Sections} {items : List IniItem} {ret : Int}

def pairsOf (sect : IniSection) : List (Text × Text) :=
  sect.items.map fun item => (item.key, item.value)

def contents (sections : Sections) (name : Text) : Option (List (Text × Text)) :=
  (sections.find name).map pairsOf

theorem getValue_eq (sections : Sections) (name key : Text) : getValue sections name key =
    (contents sections name).bind fun pairs => (pairs.find? (·.1 = key)).map Prod.snd := by
  unfold getValue getValueComment contents
  cases sections.find name with
  | none => rfl
  | some sect =>
    dsimp only [Option.bind_some, Option.map_some]
    rw [pairsOf, List.find?_map, Option.map_map, Option.map_map]
    rfl

/-- Behind this text, whatever follows, the reader has become another one. -/
def Reading (text : Text) (reader next : Reader) : Prop :=
  ∀ rest, (getlines (text ++ rest)).foldlM readLine reader =
    (getlines rest).foldlM readLine next

theorem Reading.nil : Reading [] reader reader := fun _ => rfl

theorem Reading.append (first : Reading text reader next) (second : Reading more next after) :
    Reading (text ++ more) reader after := by
  intro rest
  rw [List.append_assoc, first, second]

theorem Reading.ofLine (single : '\n' ∉ line) (read : readLine reader line = .ok next) :
    Reading (line ++ delim) reader next := by
  intro rest
  rw [delim, List.append_assoc, List.singleton_append, getlines_line single, List.foldlM_cons, read]
  rfl

theorem run_harmless (harmless : ∀ line ∈ lines, Harmless line) :
    ∃ comment, lines.foldlM readLine reader = .ok { reader with comment := comment } := by
  induction lines generalizing reader with
  | nil => exact ⟨reader.comment, rfl⟩
  | cons line lines ih =>
    obtain ⟨other, noKey⟩ := harmless line List.mem_cons_self
    obtain ⟨comment, read⟩ := readLine_passed reader other noKey
    obtain ⟨last, ran⟩ := @ih { reader with comment := comment } fun line member =>
      harmless line (List.mem_cons_of_mem _ member)
    refine ⟨last, ?_⟩
    rw [List.foldlM_cons, read]
    exact ran

theorem Reading.ofHarmless (harmless : ∀ line ∈ getlines (text ++ delim), Harmless line) :
    ∃ comment, Reading (text ++ delim) reader { reader with comment := comment } := by
  obtain ⟨comment, ran⟩ := @run_harmless reader _ harmless
  refine ⟨comment, fun rest => ?_⟩
  rw [delim, List.append_assoc, List.singleton_append, getlines_append, List.foldlM_append]
  rw [delim] at ran
  rw [ran]
  rfl

theorem harmless_semicolon (rest : Text) : Harmless (';' :: rest) := by
  have visible : isSpace ';' = false := by decide
  obtain ⟨back, shape⟩ := @strip_cons _ isSpace rest _ visible
  refine harmless_of_isComment ?_
  rw [trim, shape]
  exact isComment_cons.mpr (.inr rfl)

/-- The lines of a text with another beginning of its first line. -/
theorem getlines_cons {char : Char} (other : char ≠ '\n') : ∃ first,
    getlines (char :: text ++ delim) = (char :: first) :: (getlines (text ++ delim)).tail := by
  rw [List.cons_append, getlines, if_neg other]
  cases getlines (text ++ delim) with
  | nil => exact ⟨[], rfl⟩
  | cons first lines => exact ⟨first, rfl⟩

/-- A comment as it is written begins with a semicolon, and adds nothing. -/
theorem Reading.ofComment
    (harmless : ∀ line ∈ (getlines (comment ++ delim)).tail, Harmless line) :
    ∃ last, Reading (saveComment comment) reader { reader with comment := last } := by
  unfold saveComment
  by_cases none : comment = []
  · rw [if_neg (not_not.mpr none)]
    exact ⟨reader.comment, Reading.nil⟩
  rw [if_pos none]
  have semicolon : ';' ≠ '\n' := by decide
  by_cases marked : comment.head? = some ';'
  · obtain ⟨rest, rfl⟩ := List.head?_eq_some_iff.mp marked
    obtain ⟨first, lines⟩ := @getlines_cons rest _ semicolon
    rw [if_neg (not_not.mpr marked), List.nil_append]
    apply Reading.ofHarmless
    rw [lines] at harmless ⊢
    exact List.forall_mem_cons.mpr ⟨harmless_semicolon first, harmless⟩
  · obtain ⟨first, lines⟩ := @getlines_cons comment _ semicolon
    have text : mNote ++ (comment ++ delim) = ';' :: comment ++ delim := rfl
    rw [if_pos marked, text]
    apply Reading.ofHarmless
    rw [lines]
    exact List.forall_mem_cons.mpr ⟨harmless_semicolon first, harmless⟩

theorem Commented.harmless (commented : Commented comment) :
    ∀ line ∈ getlines (comment ++ delim), Harmless line := by
  obtain ⟨lines, plain, rfl⟩ := commented
  have blank : Harmless [] := by
    constructor
    · exact not_isHeader_of_blank rfl
    · rintro ⟨-, -, member⟩
      cases member
  induction lines with
  | nil => exact List.forall_mem_singleton.mpr blank
  | cons line lines ih =>
    obtain ⟨harmless, single⟩ := plain line List.mem_cons_self
    have begins : (line :: lines).flatMap (· ++ delim) ++ delim =
        line ++ '\n' :: (lines.flatMap (· ++ delim) ++ delim) := by
      rw [List.flatMap_cons, List.append_assoc, List.append_assoc]
      rfl
    rw [begins, getlines_line single]
    exact List.forall_mem_cons.mpr
      ⟨harmless, ih fun line member => plain line (List.mem_cons_of_mem _ member)⟩

theorem stripped_of_trim (trimmed : trim text = text) : Stripped isSpace text := by
  have stripped := stripped_strip isSpace text
  rwa [show strip isSpace text = text from trimmed] at stripped

theorem SoundItem.trim_line (sound : SoundItem key value) :
    trim (mDelimTab ++ (key ++ '=' :: value)) = key ++ '=' :: value := by
  have blanks : ∀ char ∈ mDelimTab, isSpace char := by decide
  have ends : ∀ char ∈ ('=' :: value).getLast?, isSpace char = false := by
    cases value with
    | nil =>
      intro last same
      cases same
      decide
    | cons char rest =>
      rw [List.getLast?_cons_cons]
      exact (stripped_of_trim sound.trimmed.2).2
  refine (strip_append_right blanks).trans (strip_eq_self ⟨?_, ?_⟩)
  · cases key with
    | nil =>
      intro first same
      cases same
      decide
    | cons char rest => exact fun first same => (stripped_of_trim sound.trimmed.1).1 first same
  · rw [List.getLast?_append_of_ne_nil _ (List.cons_ne_nil _ _)]
    exact ends

/-- A line with a key and a value without the marks of a comment is read as it is. -/
theorem parse_line (sound : SoundItem key value)
    (plain : ∀ char ∈ value, char ≠ ';' ∧ char ≠ '#') :
    parse (key ++ '=' :: value) comment = .pair key value comment := by
  have front : ∀ char ∈ key, decide (char ≠ '=') = true := fun char member =>
    decide_eq_true fun same => sound.plain.1 (same ▸ member)
  have behind : (key ++ '=' :: value).dropWhile (· ≠ '=') = '=' :: value := by
    rw [List.dropWhile_append_of_pos front]
    rfl
  have before : (key ++ '=' :: value).takeWhile (· ≠ '=') = key := by
    rw [List.takeWhile_append_of_pos front]
    exact List.append_nil key
  have kept : value.takeWhile (fun char => char ≠ ';' ∧ char ≠ '#') = value :=
    List.takeWhile_eq_self_iff.mpr fun char member => decide_eq_true (plain char member)
  have whole : ¬ value.length + 1 < value.length := by omega
  unfold parse
  rw [behind, before]
  dsimp only
  rw [kept, if_neg whole, sound.trimmed.1, sound.trimmed.2]

theorem SoundItem.isKeyLine (sound : SoundItem key value) :
    IsKeyLine (mDelimTab ++ (key ++ '=' :: value)) := by
  unfold IsKeyLine IsHeader
  rw [sound.trim_line]
  have first : ∃ char rest, key ++ '=' :: value = char :: rest ∧
      char ≠ '[' ∧ char ≠ ';' ∧ char ≠ '#' := by
    cases key with
    | nil => exact ⟨'=', value, rfl, by decide⟩
    | cons char rest =>
      obtain ⟨-, bracket, semicolon, hash⟩ := sound.plain
      exact ⟨char, rest ++ '=' :: value, rfl, fun same => bracket (congrArg some same),
        fun same => semicolon (congrArg some same), fun same => hash (congrArg some same)⟩
  obtain ⟨char, rest, shape, bracket, semicolon, hash⟩ := first
  refine ⟨?_, ?_, List.mem_append_right key List.mem_cons_self⟩
  · rw [shape]
    exact fun same => bracket (Option.some.inj same)
  · rw [shape, Bool.eq_false_iff]
    exact fun flagged => (isComment_cons.mp flagged).elim hash semicolon

/-- What the line of an item does, whatever comment is in front of it. -/
theorem SoundItem.readLine (sound : SoundItem key value)
    (plain : ∀ char ∈ value, char ≠ ';' ∧ char ≠ '#') (current : reader.sect = some name) :
    readLine reader (mDelimTab ++ (key ++ '=' :: value)) = .ok { reader with
      sections := reader.sections.modify name fun sect =>
        { sect with items := sect.items ++ [⟨key, value, reader.comment⟩] }
      comment := [] } := by
  rw [readLine_key sound.isKeyLine, sound.trim_line]
  exact readItem_pair (parse_line sound plain) current

/-- An item as it is written goes to the end of the current section. -/
theorem Reading.ofItem {item : IniItem} {pairs : List (Text × Text)}
    (sound : SoundItem item.key item.value)
    (plain : ∀ char ∈ item.value, char ≠ ';' ∧ char ≠ '#')
    (harmless : ∀ line ∈ (getlines (item.comment ++ delim)).tail, Harmless line)
    (current : reader.sect = some name) (there : contents reader.sections name = some pairs) :
    ∃ after, Reading (saveItem item) reader after ∧ after.sect = some name ∧
      ∀ other, contents after.sections other =
        if other = name then some (pairs ++ [(item.key, item.value)])
        else contents reader.sections other := by
  obtain ⟨comment, commented⟩ := @Reading.ofComment reader _ harmless
  have single : '\n' ∉ mDelimTab ++ (item.key ++ '=' :: item.value) := by
    simp [mDelimTab, sound.single.1, sound.single.2]
  have read := @SoundItem.readLine { reader with comment := comment } _ _ _ sound plain current
  have written := commented.append (Reading.ofLine single read)
  have text : saveItem item =
      saveComment item.comment ++ (mDelimTab ++ (item.key ++ '=' :: item.value) ++ delim) := by
    simp only [saveItem, List.append_assoc]
  rw [text]
  refine ⟨_, written, current, fun other => ?_⟩
  obtain ⟨sect, found, rfl⟩ := Option.map_eq_some_iff.mp there
  unfold contents
  dsimp only
  rw [OrderedMap.find_modify]
  by_cases same : other = name
  · rw [if_pos same, if_pos same, found]
    simp [pairsOf]
  · rw [if_neg same, if_neg same]

theorem Reading.ofItems {pairs : List (Text × Text)}
    (sound : ∀ item ∈ items, SoundItem item.key item.value)
    (plain : ∀ item ∈ items, ∀ char ∈ item.value, char ≠ ';' ∧ char ≠ '#')
    (harmless : ∀ item ∈ items, ∀ line ∈ (getlines (item.comment ++ delim)).tail, Harmless line)
    (current : reader.sect = some name) (there : contents reader.sections name = some pairs) :
    ∃ after, Reading (items.flatMap saveItem) reader after ∧
      ∀ other, contents after.sections other =
        if other = name then some (pairs ++ items.map fun item => (item.key, item.value))
        else contents reader.sections other := by
  induction items generalizing reader pairs with
  | nil =>
    refine ⟨reader, Reading.nil, fun other => ?_⟩
    by_cases same : other = name
    · rw [if_pos same, same, there, List.map_nil, List.append_nil]
    · rw [if_neg same]
  | cons item items ih =>
    obtain ⟨next, first, still, after⟩ := Reading.ofItem (sound item List.mem_cons_self)
      (plain item List.mem_cons_self) (harmless item List.mem_cons_self) current there
    have grown : contents next.sections name = some (pairs ++ [(item.key, item.value)]) := by
      rw [after, if_pos rfl]
    obtain ⟨last, later, reached⟩ := ih
      (fun item member => sound item (List.mem_cons_of_mem _ member))
      (fun item member => plain item (List.mem_cons_of_mem _ member))
      (fun item member => harmless item (List.mem_cons_of_mem _ member)) still grown
    refine ⟨last, first.append later, fun other => ?_⟩
    rw [reached, after]
    by_cases same : other = name
    · rw [if_pos same, if_pos same, List.append_assoc, List.singleton_append, List.map_cons]
    · rw [if_neg same, if_neg same, if_neg same]

theorem headerName_line (free : ']' ∉ name) : headerName ('[' :: name ++ [']']) = some name := by
  have found : ('[' :: name ++ [']']).idxOf? ']' = some (name.length + 1) := by
    refine List.idxOf?_eq_some_iff.mpr ⟨by simp, by simp, fun place before same => ?_⟩
    have inside : place < ('[' :: name).length := by simpa using before
    rw [List.getElem_append_left inside] at same
    rcases List.mem_cons.mp (same ▸ List.getElem_mem inside) with bracket | member
    · exact absurd bracket (by decide)
    · exact free member
  rw [headerName, found, Option.map_some, List.cons_append, List.drop_succ_cons, List.drop_zero,
    Nat.add_sub_cancel, List.take_left]

theorem Reading.ofHeader (free : ']' ∉ name) (single : '\n' ∉ name) (filled : name ≠ [])
    (new : reader.sections.find (cString name) = none) :
    ∃ next, Reading ('[' :: name ++ [']'] ++ delim) reader next ∧ next.sect = some name ∧
      ∀ other, contents next.sections other =
        if other = name then some [] else contents reader.sections other := by
  have trimmed : trim ('[' :: name ++ [']']) = '[' :: name ++ [']'] := by
    refine strip_eq_self ⟨fun char first => ?_, fun char last => ?_⟩
    · cases first
      decide
    · rw [List.getLast?_concat] at last
      cases last
      decide
  have isHeader : IsHeader ('[' :: name ++ [']']) := by
    rw [IsHeader, trimmed]
    rfl
  have unfinished : ¬ (trim ('[' :: name ++ [']'])).length ≤ 0 := by
    rw [trimmed]
    exact Nat.not_succ_le_zero _
  have untaken : ¬ (reader.sections.find (cString name)).isSome := by
    rw [new]
    exact Bool.false_ne_true
  have read : readLine reader ('[' :: name ++ [']']) = .ok
      ⟨reader.sections.assign name
        ⟨name, reader.comment ++ rightComment ('[' :: name ++ [']']), []⟩, some name, []⟩ := by
    rw [readLine_eq, if_neg unfinished, if_pos isHeader, trimmed, readHeader_eq,
      headerName_line free]
    dsimp only
    rw [if_neg filled, if_neg untaken]
  have oneLine : '\n' ∉ '[' :: name ++ [']'] := by
    simp [single]
  refine ⟨_, Reading.ofLine oneLine read, rfl, fun other => ?_⟩
  unfold contents
  dsimp only
  rw [OrderedMap.find_assign]
  by_cases same : other = name
  · rw [if_pos same, if_pos same]
    rfl
  · rw [if_neg same, if_neg same]

/-- A section that can be read again as it is written. -/
structure Savable (entry : Text × IniSection) : Prop where
  name : ']' ∉ entry.1 ∧ '\n' ∉ entry.1
  comment : Commented entry.2.comment
  items : ∀ item ∈ entry.2.items, SoundItem item.key item.value
  values : ∀ item ∈ entry.2.items, ∀ char ∈ item.value, char ≠ ';' ∧ char ≠ '#'
  comments : ∀ item ∈ entry.2.items,
    ∀ line ∈ (getlines (item.comment ++ delim)).tail, Harmless line

variable {entry : Text × IniSection} {entries : List (Text × IniSection)}

theorem Sound.savable (sound : Sound sections) (plain : Plain sections)
    (member : entry ∈ sections.entries) : Savable entry where
  name := sound.names entry.1 entry.2 (OrderedMap.find_eq_some.mpr member)
  comment := sound.comments entry.1 entry.2 (OrderedMap.find_eq_some.mpr member)
  items := sound.items entry.1 entry.2 (OrderedMap.find_eq_some.mpr member)
  values := plain.values entry member
  comments := plain.comments entry member

/-- The section without a name is read before any header. -/
theorem Reading.ofRoot (savable : Savable entry) (root : entry.1 = []) :
    ∃ after, Reading (saveSection entry) Reader.start after ∧
      ∀ other, contents after.sections other =
        if other = [] then some (pairsOf entry.2) else none := by
  have begun : contents Reader.start.sections [] = some [] := by
    rw [contents, find_start, if_pos rfl]
    rfl
  obtain ⟨comment, commented⟩ := @Reading.ofComment Reader.start _ fun line member =>
    savable.comment.harmless line (List.mem_of_mem_tail member)
  obtain ⟨after, stored, holds⟩ := @Reading.ofItems { Reader.start with comment := comment } []
    entry.2.items [] savable.items savable.values savable.comments rfl begun
  refine ⟨after, ?_, fun other => ?_⟩
  · rw [saveSection, if_neg (not_not.mpr root), List.nil_append]
    exact commented.append stored
  · rw [holds]
    by_cases same : other = []
    · rw [if_pos same, if_pos same]
      rfl
    · rw [if_neg same, if_neg same, contents, find_start, if_neg same]
      rfl

theorem Reading.ofSection (savable : Savable entry) (named : entry.1 ≠ [])
    (new : reader.sections.find (cString entry.1) = none) :
    ∃ after, Reading (saveSection entry) reader after ∧
      ∀ other, contents after.sections other =
        if other = entry.1 then some (pairsOf entry.2) else contents reader.sections other := by
  obtain ⟨comment, commented⟩ := @Reading.ofComment reader _ fun line member =>
    savable.comment.harmless line (List.mem_of_mem_tail member)
  obtain ⟨next, header, current, begun⟩ := @Reading.ofHeader { reader with comment := comment } _
    savable.name.1 savable.name.2 named new
  obtain ⟨after, stored, holds⟩ := Reading.ofItems savable.items savable.values savable.comments
    current ((begun entry.1).trans (if_pos rfl))
  refine ⟨after, ?_, fun other => ?_⟩
  · rw [saveSection, if_pos named]
    exact commented.append (header.append stored)
  · rw [holds, begun]
    by_cases same : other = entry.1
    · rw [if_pos same, if_pos same]
      rfl
    · rw [if_neg same, if_neg same, if_neg same]

/-- No name is read as that of a section before it. -/
def Apart (earlier later : Text × IniSection) : Prop :=
  later.1 ≠ earlier.1 ∧ cString later.1 ≠ earlier.1

/-- Where no entry behind the first has its name, the first is found or one of the others. -/
theorem find_cons_or (below : ∀ later ∈ entries, later.1 ≠ entry.1) (other : Text)
    (before : Option (List (Text × Text))) :
    ((entries.find? (·.1 = other)).map fun entry => pairsOf entry.2).or
        (if other = entry.1 then some (pairsOf entry.2) else before) =
      (((entry :: entries).find? (·.1 = other)).map fun entry => pairsOf entry.2).or before := by
  by_cases same : other = entry.1
  · have absent : entries.find? (·.1 = other) = none := by
      refine List.find?_eq_none.mpr fun later member => ?_
      rw [same, decide_eq_true_iff]
      exact below later member
    have here : (entry :: entries).find? (·.1 = other) = some entry :=
      List.find?_cons_of_pos (decide_eq_true same.symm)
    rw [absent, here, if_pos same]
    rfl
  · have behind : (entry :: entries).find? (·.1 = other) = entries.find? (·.1 = other) :=
      List.find?_cons_of_neg (by simpa using Ne.symm same)
    rw [behind, if_neg same]

theorem Reading.ofSections (savable : ∀ entry ∈ entries, Savable entry ∧ entry.1 ≠ [])
    (apart : entries.Pairwise Apart)
    (new : ∀ entry ∈ entries, reader.sections.find (cString entry.1) = none) :
    ∃ after, Reading (entries.flatMap saveSection) reader after ∧
      ∀ other, contents after.sections other =
        ((entries.find? (·.1 = other)).map fun entry => pairsOf entry.2).or
          (contents reader.sections other) := by
  induction entries generalizing reader with
  | nil => exact ⟨reader, Reading.nil, fun _ => rfl⟩
  | cons entry entries ih =>
    obtain ⟨below, later⟩ := List.pairwise_cons.mp apart
    obtain ⟨able, named⟩ := savable entry List.mem_cons_self
    obtain ⟨next, first, holds⟩ := Reading.ofSection able named (new entry List.mem_cons_self)
    have still : ∀ other ∈ entries, next.sections.find (cString other.1) = none := by
      intro other member
      have kept := holds (cString other.1)
      rw [if_neg (below other member).2, contents, contents,
        new other (List.mem_cons_of_mem _ member)] at kept
      exact Option.map_eq_none_iff.mp kept
    obtain ⟨after, rest, reached⟩ := ih
      (fun other member => savable other (List.mem_cons_of_mem _ member)) later still
    refine ⟨after, first.append rest, fun other => ?_⟩
    rw [reached, holds]
    exact find_cons_or (fun other member => (below other member).1) other _

theorem contents_eq (sections : Sections) (name : Text) : contents sections name =
    (sections.entries.find? (·.1 = name)).map fun entry => pairsOf entry.2 := by
  have same : sections.find name = (sections.entries.find? (·.1 = name)).map Prod.snd := by
    unfold OrderedMap.find
    congr 2
    exact funext fun entry => decide_eq_decide.mpr Iff.rfl
  rw [contents, same, Option.map_map]
  rfl

theorem exists_root (root : (sections.find []).isSome) : ∃ sect entries,
    sections.entries = ([], sect) :: entries ∧ ∀ entry ∈ entries, entry.1 ≠ [] := by
  obtain ⟨sect, found⟩ := Option.isSome_iff_exists.mp root
  have member := OrderedMap.mem_of_find found
  have ascending := sections.ascending
  cases shape : sections.entries with
  | nil =>
    rw [shape] at member
    cases member
  | cons first entries =>
    rw [shape] at member ascending
    obtain ⟨below, -⟩ := List.pairwise_cons.mp ascending
    have least : ∀ name : Text, ¬ name < [] := fun name => List.not_lt_nil name
    rcases List.mem_cons.mp member with rfl | later
    · refine ⟨sect, entries, rfl, fun entry within root => ?_⟩
      have above := below entry within
      rw [root] at above
      exact least [] above
    · exact absurd (below _ later) (least first.1)

theorem apart_entries
    (names : ∀ name ∈ sections.keys, '\x00' ∈ name → cString name ∉ sections.keys) :
    sections.entries.Pairwise Apart := by
  refine sections.ascending.imp_of_mem fun {earlier later} left right below => ⟨ne_of_gt below, ?_⟩
  have known : earlier.1 ∈ sections.keys := List.mem_map_of_mem left
  by_cases zero : '\x00' ∈ later.1
  · exact fun same => names later.1 (List.mem_map_of_mem right) zero (same ▸ known)
  · rw [cString_eq_self zero]
    exact ne_of_gt below

/-- What is saved is loaded again with the same values. -/
theorem Sound.loads (sound : Sound sections) (plain : Plain sections) :
    ∃ again, openini (saveas sections) = .returned 0 again ∧
      ∀ name, contents again name = contents sections name := by
  obtain ⟨sect, entries, shape, named⟩ := exists_root sound.root
  have apart := apart_entries plain.names
  rw [shape] at apart
  obtain ⟨below, later⟩ := List.pairwise_cons.mp apart
  have savable : ∀ entry ∈ ([], sect) :: entries, Savable entry := fun entry member =>
    sound.savable plain (shape ▸ member)
  obtain ⟨begun, root, first⟩ := Reading.ofRoot (savable _ List.mem_cons_self) rfl
  have new : ∀ entry ∈ entries, begun.sections.find (cString entry.1) = none := by
    intro entry member
    have kept := first (cString entry.1)
    rw [if_neg (below entry member).2, contents] at kept
    exact Option.map_eq_none_iff.mp kept
  obtain ⟨after, rest, holds⟩ := Reading.ofSections
    (fun entry member => ⟨savable entry (List.mem_cons_of_mem _ member), named entry member⟩)
    later new
  refine ⟨after.sections, ?_, fun name => ?_⟩
  · have whole := (root.append rest) []
    have text : saveas sections = saveSection ([], sect) ++ entries.flatMap saveSection := by
      rw [saveas, shape, List.flatMap_cons]
    rw [List.append_nil, ← text] at whole
    rw [openini, whole]
    rfl
  · rw [holds, first, contents_eq, shape]
    exact (@find_cons_or ([], sect) entries named name none).trans (Option.or_none)

/-- What is read from a text and changed by calls of `setValue` has the same values when it is
saved and loaded again. -/
theorem save_load_values (text : Text) (calls : List SetValue)
    (opened : openini text = .returned ret sections)
    (plain : Plain (calls.foldl SetValue.call sections)) :
    ∃ again, openini (saveas (calls.foldl SetValue.call sections)) = .returned 0 again ∧
      ∀ name key, getValue again name key =
        getValue (calls.foldl SetValue.call sections) name key := by
  obtain ⟨again, returned, same⟩ := ((sound_of_openini opened).setValues calls).loads plain
  refine ⟨again, returned, fun name key => ?_⟩
  rw [getValue_eq, same, getValue_eq]

/-- A text with comments of all three kinds. -/
def commentedText : Text :=
  ['#', 't', '\n', '[', 'a', ']', '\n', 'k', '=', '1', ';', 'n', '\n', ';', 'e', '\n']

def remarkedValue : SetValue where
  sect := ['b']
  key := ['k']
  value := ['2']
  comment := ['r']
  words := by decide
  plain := by decide

theorem save_load_values_commented : ∃ again sections,
    openini commentedText = .returned 0 sections ∧
      openini (saveas (setValue sections ['b'] ['k'] ['2'] ['r'])) = .returned 0 again ∧
      getValue again ['a'] ['k'] = some ['1'] ∧ getValue again ['b'] ['k'] = some ['2'] := by
  obtain ⟨sections, opened, plain, first, second⟩ : ∃ sections,
      openini commentedText = .returned 0 sections ∧
        Plain ([remarkedValue].foldl SetValue.call sections) ∧
        getValue (setValue sections ['b'] ['k'] ['2'] ['r']) ['a'] ['k'] = some ['1'] ∧
        getValue (setValue sections ['b'] ['k'] ['2'] ['r']) ['b'] ['k'] = some ['2'] :=
    ⟨_, rfl, ⟨by decide, by decide, by decide⟩, by decide, by decide⟩
  obtain ⟨again, returned, same⟩ := save_load_values commentedText [remarkedValue] opened plain
  exact ⟨again, sections, opened, returned, (same _ _).trans first, (same _ _).trans second⟩

def semicolonValue : SetValue where
  sect := ['s']
  key := ['k']
  value := ['a', ';', 'b']
  comment := []
  words := by decide
  plain := by decide

/-- What stands behind a semicolon is a comment when the file is loaded again. -/
theorem save_load_cuts_value :
    ¬ ∀ (text : Text) (calls : List SetValue) (ret : Int) (sections : Sections),
      openini text = .returned ret sections →
      ∃ again, openini (saveas (calls.foldl SetValue.call sections)) = .returned 0 again ∧
        ∀ name key, getValue again name key =
          getValue (calls.foldl SetValue.call sections) name key := by
  intro all
  obtain ⟨again, returned, same⟩ := all [] [semicolonValue] 0 Reader.start.sections rfl
  have loaded : ∃ other,
      openini (saveas ([semicolonValue].foldl SetValue.call Reader.start.sections)) =
        .returned 0 other ∧ getValue other ['s'] ['k'] = some ['a'] :=
    ⟨_, rfl, by decide⟩
  obtain ⟨other, read, cut⟩ := loaded
  have value := same ['s'] ['k']
  rw [read] at returned
  cases returned
  rw [cut] at value
  exact absurd value (by decide)

def remarkedTwice : SetValue where
  sect := ['s']
  key := ['k']
  value := ['1']
  comment := ['r', '\n', 'j', '=', '2']
  words := by decide
  plain := by decide

/-- The second line of a comment is saved without a mark, and loaded as an item. -/
theorem save_load_adds_item : ∃ again,
    openini (saveas (remarkedTwice.call Reader.start.sections)) = .returned 0 again ∧
      getValue again ['s'] ['j'] = some ['2'] ∧
      getValue (remarkedTwice.call Reader.start.sections) ['s'] ['j'] = none :=
  ⟨_, rfl, by decide, by decide⟩

def namedValue (sect : Text) (word : IsWord sect ∧ ']' ∉ sect) : SetValue where
  sect := sect
  key := ['k']
  value := ['1']
  comment := []
  words := ⟨word.1, by decide⟩
  plain := ⟨word.2, by decide⟩

/-- A name is looked up as far as its zero, and refused where a section has that name. -/
theorem save_load_refuses_name : ∃ again,
    openini (saveas ([namedValue ['s'] (by decide), namedValue ['s', '\x00', 'x'] (by decide)].foldl
      SetValue.call Reader.start.sections)) = .returned (-1) again :=
  ⟨_, rfl⟩

end Gb28181.ConfigFile
