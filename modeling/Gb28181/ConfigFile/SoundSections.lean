import Gb28181.ConfigFile.Loading

/-! The sections that `openini` reads and `setValue` changes: their names, keys and comments are
such that they can be read again. -/

namespace Gb28181.ConfigFile

open Gb28181.Lib

/-- Not empty, trimmed and on one line. -/
def IsWord (text : Text) : Prop := text ≠ [] ∧ trim text = text ∧ '\n' ∉ text

/-- A key that is read as one: no `=`, and not the beginning of a header or a comment. -/
def PlainKey (key : Text) : Prop :=
  '=' ∉ key ∧ key.head? ≠ some '[' ∧ key.head? ≠ some ';' ∧ key.head? ≠ some '#'

instance (text : Text) : Decidable (IsWord text) := by
  unfold IsWord
  infer_instance

instance (key : Text) : Decidable (PlainKey key) := by
  unfold PlainKey
  infer_instance

/-- A call of `setValue`. -/
structure SetValue where
  sect : Text
  key : Text
  value : Text
  comment : Text
  words : IsWord sect ∧ IsWord key ∧ IsWord value
  plain : ']' ∉ sect ∧ PlainKey key

def SetValue.call (sections : Sections) (set : SetValue) : Sections :=
  setValue sections set.sect set.key set.value set.comment

/-- A line that adds nothing: blank, a comment, or without an `=` and no header. -/
def Harmless (line : Text) : Prop := ¬ IsHeader line ∧ ¬ IsKeyLine line

instance (line : Text) : Decidable (Harmless line) := by
  unfold Harmless IsKeyLine
  infer_instance

variable {reader next : Reader} {line name key value comment text : Text}
  {lines : List Text} {sections : Sections} {items : List IniItem} {ret : Int}

/-- Lines that add nothing, each with a newline. -/
def Commented (comment : Text) : Prop :=
  ∃ lines : List Text, (∀ line ∈ lines, Harmless line ∧ '\n' ∉ line) ∧
    comment = lines.flatMap (· ++ delim)

structure SoundItem (key value : Text) : Prop where
  trimmed : trim key = key ∧ trim value = value
  single : '\n' ∉ key ∧ '\n' ∉ value
  plain : PlainKey key

structure Sound (sections : Sections) : Prop where
  root : (sections.find []).isSome
  names : ∀ name sect, sections.find name = some sect → ']' ∉ name ∧ '\n' ∉ name
  comments : ∀ name sect, sections.find name = some sect → Commented sect.comment
  items : ∀ name sect, sections.find name = some sect → ∀ item ∈ sect.items,
    SoundItem item.key item.value

theorem commented_nil : Commented [] := by
  refine ⟨[], fun line member => ?_, rfl⟩
  cases member

theorem Commented.append (commented : Commented comment) (harmless : Harmless line)
    (single : '\n' ∉ line) : Commented (comment ++ (line ++ delim)) := by
  obtain ⟨lines, plain, rfl⟩ := commented
  refine ⟨lines ++ [line], fun other member => ?_, ?_⟩
  · rcases List.mem_append.mp member with earlier | last
    · exact plain other earlier
    · rw [List.mem_singleton.mp last]
      exact ⟨harmless, single⟩
  · rw [List.flatMap_append, List.flatMap_singleton]

theorem trim_trim : trim (trim text) = trim text := strip_strip

theorem mem_of_mem_trim {char : Char} (member : char ∈ trim text) : char ∈ text :=
  mem_of_mem_strip member

theorem harmless_of_isComment (flagged : isComment (trim line) = true) : Harmless line := by
  constructor
  · intro header
    obtain ⟨rest, shape⟩ := List.head?_eq_some_iff.mp header
    rw [shape] at flagged
    exact absurd flagged (by simp [isComment, flags])
  · intro keyLine
    rw [keyLine.2.1] at flagged
    cases flagged

theorem Sound.assign (sound : Sound sections) (plain : ']' ∉ name ∧ '\n' ∉ name)
    (commented : Commented comment) : Sound (sections.assign name ⟨name, comment, []⟩) where
  root := by
    rw [OrderedMap.find_assign]
    by_cases same : [] = name
    · rw [if_pos same]
      rfl
    · rw [if_neg same]
      exact sound.root
  names other sect found := by
    rcases OrderedMap.of_find_assign found with ⟨rfl, -⟩ | before
    · exact plain
    · exact sound.names other sect before
  comments other sect found := by
    rcases OrderedMap.of_find_assign found with ⟨-, rfl⟩ | before
    · exact commented
    · exact sound.comments other sect before
  items other sect found item member := by
    rcases OrderedMap.of_find_assign found with ⟨-, rfl⟩ | before
    · cases member
    · exact sound.items other sect before item member

/-- A change of the items of a section that brings in sound ones. -/
theorem Sound.modify (sound : Sound sections) {change : IniSection → IniSection}
    (comments : ∀ sect, (change sect).comment = sect.comment)
    (items : ∀ sect, ∀ item ∈ (change sect).items,
      item ∈ sect.items ∨ SoundItem item.key item.value) :
    Sound (sections.modify name change) where
  root := by
    rw [OrderedMap.isSome_find_modify]
    exact sound.root
  names other sect found := by
    obtain ⟨before, there, -⟩ := OrderedMap.of_find_modify found
    exact sound.names other before there
  comments other sect found := by
    obtain ⟨before, there, rfl | rfl⟩ := OrderedMap.of_find_modify found
    · exact sound.comments other sect there
    · rw [comments]
      exact sound.comments other before there
  items other sect found item member := by
    obtain ⟨before, there, rfl | rfl⟩ := OrderedMap.of_find_modify found
    · exact sound.items other sect there item member
    · rcases items before item member with earlier | new
      · exact sound.items other before there item earlier
      · exact new

theorem sound_start : Sound Reader.start.sections := by
  have only : ∀ name sect, Reader.start.sections.find name = some sect →
      name = [] ∧ sect = ⟨[], [], []⟩ := by
    intro name sect found
    rw [find_start] at found
    by_cases root : name = []
    · rw [if_pos root] at found
      exact ⟨root, (Option.some.inj found).symm⟩
    · rw [if_neg root] at found
      cases found
  refine ⟨?_, fun name sect found => ?_, fun name sect found => ?_,
    fun name sect found item member => ?_⟩
  · rw [find_start, if_pos rfl]
    rfl
  · obtain ⟨rfl, -⟩ := only name sect found
    decide
  · obtain ⟨-, rfl⟩ := only name sect found
    exact commented_nil
  · obtain ⟨-, rfl⟩ := only name sect found
    cases member

theorem headerName_plain (named : headerName line = some name) (single : '\n' ∉ line) :
    ']' ∉ name ∧ '\n' ∉ name := by
  obtain ⟨index, found, rfl⟩ := Option.map_eq_some_iff.mp named
  obtain ⟨inside, closes, first⟩ := List.idxOf?_eq_some_iff.mp found
  constructor
  · intro member
    obtain ⟨place, short, same⟩ := List.mem_iff_getElem.mp member
    rw [List.getElem_take, List.getElem_drop] at same
    rw [List.length_take, List.length_drop] at short
    exact first (1 + place) (by omega) same
  · exact fun member => single (List.mem_of_mem_drop (List.mem_of_mem_take member))

theorem rightComment_commented (commented : Commented comment) (single : '\n' ∉ line) :
    Commented (comment ++ rightComment line) := by
  unfold rightComment
  cases line.idxOf? ']' with
  | none =>
    dsimp only [Option.map_none, Option.elim_none]
    rw [List.append_nil]
    exact commented
  | some index =>
    dsimp only [Option.map_some, Option.elim_some]
    by_cases flagged : isComment (trim (line.drop (index + 1)))
    · rw [if_pos flagged]
      refine commented.append (harmless_of_isComment (trim_trim.symm ▸ flagged)) fun member => ?_
      exact single (List.mem_of_mem_drop (mem_of_mem_trim member))
    · rw [if_neg flagged, List.append_nil]
      exact commented

theorem isComment_cons {char : Char} {rest : Text} :
    isComment (char :: rest) = true ↔ char = '#' ∨ char = ';' := by
  simp [isComment, flags, @eq_comm _ char]

theorem parts_of_parse (parsed : parse line text = .pair key value comment) :
    key = trim (line.takeWhile (· ≠ '=')) ∧
      ∃ cut : Text, (∀ char ∈ cut, char ∈ line) ∧ value = trim cut := by
  unfold parse at parsed
  cases shape : line.dropWhile (· ≠ '=') with
  | nil =>
    rw [shape] at parsed
    cases parsed
  | cons equals behind =>
    rw [shape] at parsed
    dsimp only at parsed
    have inside : ∀ char ∈ behind.takeWhile (fun char => char ≠ ';' ∧ char ≠ '#'),
        char ∈ line := by
      intro char member
      have later := List.mem_cons_of_mem equals ((List.takeWhile_subset _) member)
      rw [← shape] at later
      exact List.dropWhile_subset _ later
    by_cases more : (behind.takeWhile fun char => char ≠ ';' ∧ char ≠ '#').length + 1 <
        behind.length
    · rw [if_pos more] at parsed
      by_cases short : (cString behind).length <
          (behind.takeWhile fun char => char ≠ ';' ∧ char ≠ '#').length + 1
      · rw [if_pos short] at parsed
        cases parsed
      · rw [if_neg short] at parsed
        cases parsed
        exact ⟨rfl, _, inside, rfl⟩
    · rw [if_neg more] at parsed
      cases parsed
      exact ⟨rfl, _, inside, rfl⟩

/-- What `parse` finds in a trimmed line that is neither a header nor a comment. -/
theorem soundItem_of_parse (parsed : parse line text = .pair key value comment)
    (trimmed : trim line = line) (other : ¬ IsHeader line) (noComment : isComment line = false)
    (single : '\n' ∉ line) : SoundItem key value := by
  obtain ⟨rfl, cut, inside, rfl⟩ := parts_of_parse parsed
  have front : ∀ char ∈ trim (line.takeWhile (· ≠ '=')), char ∈ line.takeWhile (· ≠ '=') :=
    fun char member => mem_of_mem_trim member
  refine ⟨⟨trim_trim, trim_trim⟩, ⟨?_, ?_⟩, ?_, ?_⟩
  · exact fun member => single (List.takeWhile_subset _ (front _ member))
  · exact fun member => single (inside _ (mem_of_mem_trim member))
  · exact fun member => absurd (List.mem_takeWhile_imp (front _ member)) (by decide)
  · have blank : (trim []).head? ≠ some '[' ∧ (trim []).head? ≠ some ';' ∧
        (trim []).head? ≠ some '#' := by
      decide
    cases line with
    | nil => exact blank
    | cons char rest =>
      by_cases equals : char = '='
      · rw [List.takeWhile_cons_of_neg (by simp [equals])]
        exact blank
      · have visible : isSpace char = false := by
          have stripped := stripped_strip isSpace (char :: rest)
          rw [show strip isSpace (char :: rest) = char :: rest from trimmed] at stripped
          exact stripped.1 char rfl
        obtain ⟨back, shape⟩ := @strip_cons _ isSpace (rest.takeWhile (· ≠ '=')) _ visible
        have kept : (char :: rest).takeWhile (· ≠ '=') = char :: rest.takeWhile (· ≠ '=') :=
          List.takeWhile_cons_of_pos (decide_eq_true equals)
        have unflagged := mt isComment_cons.mpr (Bool.eq_false_iff.mp noComment)
        rw [kept, trim, shape, List.head?_cons]
        refine ⟨fun bracket => other ?_, fun mark => unflagged (.inr (Option.some.inj mark)),
          fun mark => unflagged (.inl (Option.some.inj mark))⟩
        rw [IsHeader, trimmed]
        exact bracket

structure SoundReader (reader : Reader) : Prop where
  sections : Sound reader.sections
  comment : Commented reader.comment

theorem SoundReader.step (sound : SoundReader reader) (reads : Reads reader line next)
    (single : '\n' ∉ line) : SoundReader next := by
  have trimmed : '\n' ∉ trim line := mt mem_of_mem_trim single
  cases reads with
  | blank empty => exact sound
  | comment other flagged =>
    refine ⟨sound.sections, sound.comment.append ?_ trimmed⟩
    exact harmless_of_isComment (trim_trim.symm ▸ flagged)
  | failed other => exact ⟨sound.sections, commented_nil⟩
  | nameless header named => exact ⟨sound.sections, sound.comment⟩
  | @header name header named filled new =>
    refine ⟨sound.sections.assign (headerName_plain named trimmed) ?_, commented_nil⟩
    exact rightComment_commented sound.comment trimmed
  | @item name key value comment other noComment current parsed =>
    refine ⟨?_, commented_nil⟩
    dsimp only
    apply sound.sections.modify
    · exact fun _ => rfl
    intro sect item member
    rcases List.mem_append.mp member with earlier | new
    · exact .inl earlier
    · refine .inr ?_
      rw [List.mem_singleton.mp new]
      refine soundItem_of_parse parsed trim_trim ?_ noComment trimmed
      rwa [IsHeader, trim_trim]

theorem SoundReader.run (sound : SoundReader reader) (single : ∀ line ∈ lines, '\n' ∉ line)
    (ran : lines.foldlM readLine reader = .ok next) : SoundReader next := by
  induction lines using List.reverseRecOn generalizing next with
  | nil =>
    cases ran
    exact sound
  | append_singleton lines line ih =>
    obtain ⟨before, earlier, last⟩ := foldlM_concat_ok.mp ran
    have kept := ih (fun line member => single line (List.mem_append_left _ member)) earlier
    exact kept.step (reads_of_readLine last) (single line (by simp))

/-- Where `openini` gives up at a line, the sections are those in front of the line. -/
theorem returned_of_readLine (read : readLine reader line = .error (.returned ret sections)) :
    sections = reader.sections := by
  rw [readLine_eq] at read
  by_cases blank : (trim line).length ≤ 0
  · rw [if_pos blank] at read
    cases read
  · rw [if_neg blank] at read
    by_cases header : IsHeader line
    · rw [if_pos header, readHeader_eq] at read
      cases named : headerName (trim line) with
      | none =>
        rw [named] at read
        cases read
        rfl
      | some name =>
        rw [named] at read
        dsimp only at read
        split_ifs at read
        cases read
        rfl
    · rw [if_neg header] at read
      by_cases flagged : isComment (trim line)
      · rw [if_pos flagged] at read
        cases read
      · rw [if_neg flagged, readItem] at read
        split at read
        case h_1 => cases read
        case h_2 => cases read
        case h_3 => split at read <;> cases read

theorem sound_of_openini (opened : openini text = .returned ret sections) : Sound sections := by
  have single : ∀ line ∈ getlines text, '\n' ∉ line := fun line => not_mem_of_mem_getlines
  have start : SoundReader Reader.start := ⟨sound_start, commented_nil⟩
  unfold openini at opened
  cases ran : (getlines text).foldlM readLine Reader.start with
  | ok reader =>
    rw [ran] at opened
    cases opened
    exact (start.run single ran).sections
  | error outcome =>
    rw [ran] at opened
    cases opened
    obtain ⟨before, line, reader, shape, earlier, failed⟩ := exists_of_foldlM_error ran
    rw [returned_of_readLine failed]
    exact (start.run (fun line member =>
      single line (shape.subset (List.mem_append_left _ member))) earlier).sections

theorem mem_setItem {item : IniItem} (member : item ∈ setItem key value comment items) :
    item = ⟨key, value, comment⟩ ∨ item ∈ items := by
  induction items with
  | nil => exact .inl (List.mem_singleton.mp member)
  | cons first items ih =>
    rw [setItem] at member
    by_cases same : first.key = key
    · rw [if_pos same] at member
      rcases List.mem_cons.mp member with rfl | later
      · rw [← same]
        exact .inl rfl
      · exact .inr (List.mem_cons_of_mem _ later)
    · rw [if_neg same] at member
      rcases List.mem_cons.mp member with rfl | later
      · exact .inr List.mem_cons_self
      · exact (ih later).imp_right (List.mem_cons_of_mem _)

theorem Sound.setValue (sound : Sound sections) (set : SetValue) : Sound (set.call sections) := by
  have words := set.words
  unfold SetValue.call ConfigFile.setValue
  dsimp only
  refine Sound.modify ?_ (fun _ => rfl) fun sect item member => ?_
  · by_cases missing : (sections.find set.sect).isNone
    · rw [if_pos missing]
      exact sound.assign ⟨set.plain.1, words.1.2.2⟩ commented_nil
    · rw [if_neg missing]
      exact sound
  · rcases mem_setItem member with rfl | earlier
    · exact .inr ⟨⟨words.2.1.2.1, words.2.2.2.1⟩, ⟨words.2.1.2.2, words.2.2.2.2⟩, set.plain.2⟩
    · exact .inl earlier

theorem Sound.setValues (sound : Sound sections) (calls : List SetValue) :
    Sound (calls.foldl SetValue.call sections) := by
  induction calls generalizing sections with
  | nil => exact sound
  | cons set calls ih => exact ih (sound.setValue set)

end Gb28181.ConfigFile
