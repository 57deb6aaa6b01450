import Gb28181.Osip.ParseHead

namespace Gb28181.Osip

open Gb28181.Lib

/-- The values of a list, without one of less than two characters at its end. -/
def listValues : List Text → Option (List Text)
  | [] => some []
  | [last] => some (if last.length < 2 then [] else [osipClrspace last])
  | field :: fields =>
    if field = [] then none else (listValues fields).map (osipClrspace field :: ·)

/-- The fields of a header under its name in small letters. -/
def splitValue (hname : Text) : Option Text → Option (List (Text × Option Text))
  | none => some [(hname, none)]
  | some hvalue =>
    if ',' ∉ hvalue ∨ singleHeaders.contains hname then some [(hname, some hvalue)]
    else (listValues (fieldsFrom hvalue 0)).map (List.map (hname, some ·))

/-- The value in a line, behind its colon. -/
def lineValue (line : Text) (colonIndex : Nat) : Option Text :=
  if line.length - colonIndex < 2 then none else some (osipClrspace (line.drop (colonIndex + 1)))

/-- The fields of a line, which has a name in front of its colon. -/
def lineFields (line : Text) : Option (List (Text × Option Text)) :=
  match strchr line ':' 0 with
  | none => none
  | some colonIndex =>
    if colonIndex = 0 then none
    else splitValue (osipTolower (osipClrspace (line.take colonIndex))) (lineValue line colonIndex)

def headFields : List Text → Option (List (Text × Option Text))
  | [] => some []
  | line :: lines => do
    let fields ← lineFields line
    let others ← headFields lines
    return fields ++ others

def ParserLib.storeLine {Header : Type} (lib : ParserLib Header) (line : Text)
    (sip : OsipMessage Header) : Option (OsipMessage Header) :=
  match strchr line ':' 0 with
  | none => none
  | some colonIndex =>
    if colonIndex = 0 then none
    else osipMessageSetMultipleHeader lib.setHeader (osipClrspace (line.take colonIndex))
      (lineValue line colonIndex) sip

/-- The headers of lines are stored one after the other. -/
def ParserLib.storeLines {Header : Type} (lib : ParserLib Header) (lines : List Text)
    (sip : OsipMessage Header) : Option (OsipMessage Header) :=
  lines.foldlM (fun sip line => lib.storeLine line sip) sip

/-- The value of a header with that name is no list. -/
def IsWhole (hname hvalue : Text) : Prop := ',' ∉ hvalue ∨ hname ∈ singleHeaders

/-- The quotes in the value of a line are closed, if it may be a list. -/
def BalancedLine (line : Text) : Prop :=
  ∀ colonIndex ∈ strchr line ':' 0, ∀ hvalue ∈ lineValue line colonIndex,
    IsWhole (osipTolower (osipClrspace (line.take colonIndex))) hvalue ∨ Balanced hvalue

variable {Header : Type} (lib : ParserLib Header) {sip : OsipMessage Header} {line rest : Text}
  {lines : List Text}

theorem isWhole_iff {hname hvalue : Text} :
    ',' ∉ hvalue ∨ singleHeaders.contains hname = true ↔ IsWhole hname hvalue := by
  rw [List.contains_iff_mem, IsWhole]

theorem splitValue_whole {hname hvalue : Text} (whole : IsWhole hname hvalue) :
    splitValue hname (some hvalue) = some [(hname, some hvalue)] := if_pos (isWhole_iff.mpr whole)

theorem splitValue_list {hname hvalue : Text} (list : ¬ IsWhole hname hvalue) :
    splitValue hname (some hvalue) =
      (listValues (fieldsFrom hvalue 0)).map (List.map (hname, some ·)) :=
  if_neg (mt isWhole_iff.mp list)

theorem listValues_cons {field : Text} {fields : List Text} (more : fields ≠ []) :
    listValues (field :: fields) =
      if field = [] then none else (listValues fields).map (osipClrspace field :: ·) := by
  cases fields with
  | nil => exact absurd rfl more
  | cons second fields => rfl

/-- A list that is set is the list of its values, one after the other. -/
theorem setFields_eq (hname : Text) (fields : List Text) :
    setFields (fun value => lib.setHeader hname (some value)) fields sip =
      (listValues fields).bind fun values =>
        lib.storeFields (values.map (hname, some ·)) sip := by
  induction fields generalizing sip with
  | nil => rfl
  | cons field fields ih =>
    by_cases more : fields = []
    · subst more
      by_cases short : field.length < 2 <;>
        simp [setFields, lastHeader, listValues, short, ParserLib.storeFields]
    · rw [setFields_cons more, listValues_cons more]
      by_cases empty : field = []
      · simp [empty]
      · rw [if_neg empty, if_neg empty]
        cases set : lib.setHeader hname (some (osipClrspace field)) sip <;>
          cases values : listValues fields <;> simp [ParserLib.storeFields, set, ih, values]

theorem setMultipleHeader_whole {hname : Text} {hvalue : Option Text}
    (whole : ∀ text ∈ hvalue, IsWhole (osipTolower hname) text) :
    osipMessageSetMultipleHeader lib.setHeader hname hvalue sip =
      lib.setHeader (osipTolower hname) hvalue sip := by
  unfold osipMessageSetMultipleHeader
  cases hvalue with
  | none => rfl
  | some hvalue =>
    dsimp only
    cases search : strchr hvalue ',' 0 with
    | none => rfl
    | some comma =>
      refine if_pos ?_
      rcases whole hvalue rfl with none_there | list
      · rw [strchr_eq_none.mpr none_there] at search
        cases search
      · exact list

/-- What is stored of a header whose quotes are closed, if it may be a list. -/
theorem setMultipleHeader_fields (hname : Text) {hvalue : Option Text}
    (balanced : ∀ text ∈ hvalue, IsWhole (osipTolower hname) text ∨ Balanced text) :
    osipMessageSetMultipleHeader lib.setHeader hname hvalue sip =
      (splitValue (osipTolower hname) hvalue).bind (lib.storeFields · sip) := by
  cases hvalue with
  | none => simp [osipMessageSetMultipleHeader, splitValue, ParserLib.storeFields]
  | some hvalue =>
    by_cases whole : IsWhole (osipTolower hname) hvalue
    · rw [splitValue_whole whole,
        setMultipleHeader_whole lib fun text same => Option.some.inj same ▸ whole]
      simp [ParserLib.storeFields]
    · rw [splitValue_list whole]
      have closed := (balanced hvalue rfl).resolve_left whole
      rw [IsWhole, not_or, not_not] at whole
      rw [setMultipleHeader_eq whole.2 closed whole.1, setFields_eq,
        Option.bind_map]
      rfl

theorem findNextCrlf_line (plain : IsLine line) (next : ∀ char ∈ rest.head?, isBlank char = false) :
    findNextCrlf (line ++ '\r' :: '\n' :: rest) = .behind (line.length + 2) := by
  have follows : (line ++ '\r' :: '\n' :: rest)[line.length + 2]? = rest.head? := by
    rw [List.getElem?_append_right (Nat.le_add_right _ _), Nat.add_sub_cancel_left]
    exact List.head?_eq_getElem?.symm
  unfold findNextCrlf
  rw [findIdx?_line plain]
  dsimp only
  rw [behindLineEnd_line, follows]
  cases rest with
  | nil => rfl
  | cons char rest => exact if_neg (by simp [next char rfl])

theorem headerValue_line {colonIndex : Nat} (inside : colonIndex < line.length) :
    headerValue (line ++ '\r' :: '\n' :: rest) colonIndex (line.length + 2) =
      lineValue line colonIndex := by
  have ends : ((line ++ '\r' :: '\n' :: rest)[line.length + 2 - 2]?).any isLineEnd = true := by
    simp [isLineEnd]
  unfold headerValue lineValue
  dsimp only
  rw [if_pos ends, Nat.add_sub_cancel, List.drop_append_of_le_length inside]
  rw [List.take_append_of_le_length (by rw [List.length_drop]; omega)]
  rw [List.take_of_length_le (by rw [List.length_drop]; omega)]

theorem colon_behind {colonIndex : Nat} (missing : strchr line ':' 0 = none)
    (found : strchr (line ++ '\r' :: '\n' :: rest) ':' 0 = some colonIndex) :
    line.length + 2 ≤ colonIndex := by
  rw [strchr_zero] at missing found
  rw [List.findIdx?_append, missing, Option.none_or, List.findIdx?_cons,
    List.findIdx?_cons] at found
  obtain ⟨later, -, rfl⟩ : ∃ later, rest.findIdx? (· = ':') = some later ∧
      later + (2 + line.length) = colonIndex := by simpa using found
  omega

theorem colon_inside {colonIndex : Nat} (found : strchr line ':' 0 = some colonIndex) :
    colonIndex < line.length ∧ strchr (line ++ rest) ':' 0 = some colonIndex := by
  rw [strchr_zero] at found ⊢
  obtain ⟨inside, -⟩ := List.findIdx?_eq_some_iff_getElem.mp found
  rw [List.findIdx?_append, found]
  exact ⟨inside, rfl⟩

theorem headerParse_line (plain : IsLine line)
    (next : ∀ char ∈ rest.head?, isBlank char = false) :
    lib.headerParse (line ++ '\r' :: '\n' :: rest) sip =
      (lib.storeLine line sip).map (line.length + 2, ·) := by
  unfold ParserLib.headerParse ParserLib.storeLine
  rw [findNextCrlf_line plain next]
  dsimp only
  cases search : strchr line ':' 0 with
  | none =>
    cases found : strchr (line ++ '\r' :: '\n' :: rest) ':' 0 with
    | none => rfl
    | some colonIndex => simp [colon_behind search found]
  | some colonIndex =>
    obtain ⟨inside, found⟩ := @colon_inside line ('\r' :: '\n' :: rest) _ search
    rw [found]
    dsimp only
    by_cases nameless : colonIndex = 0
    · simp [nameless]
    · have named : ¬ colonIndex + 1 < 2 := by omega
      have before : ¬ line.length + 2 ≤ colonIndex := by omega
      rw [if_neg named, if_neg before, if_neg nameless, headerValue_line inside,
        List.take_append_of_le_length inside.le]

theorem storeLine_fields (balanced : BalancedLine line) :
    lib.storeLine line sip = (lineFields line).bind (lib.storeFields · sip) := by
  unfold ParserLib.storeLine lineFields
  cases search : strchr line ':' 0 with
  | none => rfl
  | some colonIndex =>
    by_cases nameless : colonIndex = 0
    · simp [nameless]
    · simp only [if_neg nameless]
      exact setMultipleHeader_fields lib _ (balanced colonIndex search)

theorem storeLines_fields (balanced : ∀ line ∈ lines, BalancedLine line) :
    lib.storeLines lines sip = (headFields lines).bind (lib.storeFields · sip) := by
  induction lines generalizing sip with
  | nil => rfl
  | cons line lines ih =>
    have others := fun sip => @ih sip fun line member =>
      balanced line (List.mem_cons_of_mem _ member)
    have first := @storeLine_fields _ lib sip _ (balanced line List.mem_cons_self)
    have joined (own later : List (Text × Option Text)) : lib.storeFields (own ++ later) sip =
        (lib.storeFields own sip).bind (lib.storeFields later) := List.foldlM_append ..
    calc lib.storeLines (line :: lines) sip
        = (lib.storeLine line sip).bind (lib.storeLines lines ·) := rfl
      _ = ((lineFields line).bind (lib.storeFields · sip)).bind fun between =>
            (headFields lines).bind (lib.storeFields · between) := by
          rw [first]
          exact congrArg _ (funext others)
      _ = (headFields (line :: lines)).bind (lib.storeFields · sip) := by
          cases own : lineFields line <;> cases later : headFields lines <;>
            simp [headFields, own, later, joined]

theorem bodies_storeLine {after : OsipMessage Header} (stored : lib.storeLine line sip = some after) :
    after.bodies = sip.bodies := by
  unfold ParserLib.storeLine at stored
  split at stored
  · cases stored
  · split at stored
    · cases stored
    · refine @setMultipleHeader_keeps _ _ (fun kept => kept.bodies = sip.bodies) _ _ _ _ ?_ stored rfl
      exact fun _ _ before _ set same => (bodies_setHeader lib before set).trans same

theorem bodies_storeLines {after : OsipMessage Header}
    (stored : lib.storeLines lines sip = some after) : after.bodies = sip.bodies := by
  induction lines generalizing sip with
  | nil =>
    cases stored
    rfl
  | cons line lines ih =>
    obtain ⟨between, own, stored⟩ := Option.bind_eq_some_iff.mp stored
    exact (ih stored).trans (bodies_storeLine lib own)

theorem findNextCrlf_ne_missing {text : Text} {char : Char} (member : char ∈ text)
    (ends : isLineEnd char = true) : findNextCrlf text ≠ .missing := by
  unfold findNextCrlf
  cases search : text.findIdx? isLineEnd with
  | none =>
    rw [List.findIdx?_eq_none_iff.mp search char member] at ends
    cases ends
  | some soh =>
    dsimp only
    split <;> simp

/-- The headers of the lines up to a blank one are stored one after the other. -/
theorem msgHeadersParse_lines {body : Text} {fuel : Nat} (enough : lines.length < fuel)
    (plain : ∀ line ∈ lines, IsHeadLine line) :
    lib.msgHeadersParse body fuel (joinLines lines ++ '\r' :: rest) sip =
      (lib.storeLines lines sip).map (·, '\r' :: rest) := by
  have found (text : Text) : findNextCrlf (text ++ '\r' :: rest) ≠ .missing :=
    findNextCrlf_ne_missing (List.mem_append_right _ List.mem_cons_self) rfl
  induction lines generalizing fuel sip with
  | nil =>
    obtain ⟨fuel, rfl⟩ := Nat.exists_eq_add_one_of_ne_zero (Nat.ne_zero_of_lt enough)
    have ends : joinLines [] ++ '\r' :: rest = '\r' :: rest := rfl
    rw [ends, ParserLib.msgHeadersParse]
    exact if_neg (found [])
  | cons line lines ih =>
    obtain ⟨fuel, rfl⟩ := Nat.exists_eq_add_one_of_ne_zero (Nat.ne_zero_of_lt enough)
    obtain ⟨isLine, filled, -⟩ := plain line List.mem_cons_self
    obtain ⟨first, tail, shape⟩ := List.exists_cons_of_ne_nil filled
    obtain ⟨noReturn, noFeed, -⟩ := isLine first (shape ▸ List.mem_cons_self)
    have others : ∀ line ∈ lines, IsHeadLine line := fun line member =>
      plain line (List.mem_cons_of_mem _ member)
    have head : (joinLines (line :: lines) ++ '\r' :: rest).head? = some first := by
      rw [joinLines_cons, shape]
      rfl
    have whole : joinLines (line :: lines) ++ '\r' :: rest =
        line ++ '\r' :: '\n' :: (joinLines lines ++ '\r' :: rest) := by
      rw [joinLines_cons, List.append_assoc]
      rfl
    have begins : ¬ isLineEnd first = true := by simp [isLineEnd, noReturn, noFeed]
    rw [ParserLib.msgHeadersParse, head]
    dsimp only
    have next : (line ++ '\r' :: '\n' :: (joinLines lines ++ '\r' :: rest)).drop
        (line.length + 2) = joinLines lines ++ '\r' :: rest := by simp [List.drop_append]
    have first : lib.storeLines (line :: lines) sip =
        (lib.storeLine line sip).bind (lib.storeLines lines ·) := rfl
    rw [if_neg (found _), if_neg begins, whole,
      headerParse_line lib isLine (head?_joinLines others), first]
    cases lib.storeLine line sip with
    | none => rfl
    | some between =>
      dsimp only [Option.map_some, Option.bind_some]
      rw [next]
      exact ih (Nat.lt_of_succ_lt_succ enough) others

theorem stripped_of_edges {text : Text} (first : text.head?.all (!isLws ·) = true)
    (last : text.getLast?.all (!isLws ·) = true) : Stripped isLws text := by
  refine ⟨fun char here => ?_, fun char here => ?_⟩
  · rw [Option.mem_def.mp here] at first
    simpa using first
  · rw [Option.mem_def.mp here] at last
    simpa using last

/-- A name and a value that make up a line. -/
structure NamedLine (hname hvalue : Text) : Prop where
  named : hname ≠ [] ∧ ':' ∉ hname ∧ Stripped isLws hname
  plain : IsLine hname ∧ IsLine hvalue
  stripped : Stripped isLws hvalue

/-- The line, with a number of blanks in front of the value. -/
def namedLine (blanks : Nat) (hname hvalue : Text) : Text :=
  hname ++ ':' :: (List.replicate blanks ' ' ++ hvalue)

variable {hname hvalue : Text} {blanks : Nat}

theorem NamedLine.isHeadLine (named : NamedLine hname hvalue) :
    IsHeadLine (namedLine blanks hname hvalue) := by
  obtain ⟨filled, -, stripped⟩ := named.named
  obtain ⟨first, rest, same⟩ := List.exists_cons_of_ne_nil filled
  have apart := stripped.1 first (by simp [same])
  have blank : IsLine (List.replicate blanks ' ') := by
    intro char member
    rw [List.eq_of_mem_replicate member]
    decide
  refine ⟨named.plain.1.append (IsLine.cons (by decide) (blank.append named.plain.2)),
    by simp [namedLine], ?_, ?_⟩ <;>
  · rw [namedLine, same]
    rintro ⟨⟩
    cases apart

theorem strchr_namedLine (named : NamedLine hname hvalue) :
    strchr (namedLine blanks hname hvalue) ':' 0 = some hname.length :=
  strchr_append named.named.2.1

theorem value_namedLine (named : NamedLine hname hvalue) :
    osipClrspace ((namedLine blanks hname hvalue).drop (hname.length + 1)) = hvalue := by
  have blank : ∀ char ∈ List.replicate blanks ' ', isLws char = true := by
    intro char member
    rw [List.eq_of_mem_replicate member]
    rfl
  rw [namedLine, drop_behind]
  exact (strip_append_right blank).trans (strip_eq_self named.stripped)

theorem lineValue_namedLine (named : NamedLine hname hvalue) (filled : blanks ≠ 0 ∨ hvalue ≠ []) :
    lineValue (namedLine blanks hname hvalue) hname.length = some hvalue := by
  have size : ¬ (namedLine blanks hname hvalue).length - hname.length < 2 := by
    have some : 0 < blanks + hvalue.length := by
      rcases filled with some | some
      · omega
      · have long := List.length_pos_of_ne_nil some
        omega
    have long : (namedLine blanks hname hvalue).length =
        hname.length + (blanks + hvalue.length + 1) := by
      rw [namedLine, List.length_append, List.length_cons, List.length_append,
        List.length_replicate]
    rw [long]
    omega
  rw [lineValue, if_neg size, value_namedLine named]

theorem lineName_namedLine (named : NamedLine hname hvalue) :
    osipClrspace ((namedLine blanks hname hvalue).take hname.length) = hname := by
  rw [namedLine, List.take_left]
  exact strip_eq_self named.named.2.2

/-- A value that is no list, or a list of one. -/
def IsSingle (hname hvalue : Text) : Prop :=
  IsWhole hname hvalue ∨
    (Balanced hvalue ∧ (∀ place, isOuterComma hvalue place = false) ∧ 2 ≤ hvalue.length)

theorem lineFields_namedLine (named : NamedLine hname hvalue) (filled : blanks ≠ 0 ∨ hvalue ≠ [])
    (single : IsSingle (osipTolower hname) hvalue) :
    lineFields (namedLine blanks hname hvalue) = some [(osipTolower hname, some hvalue)] := by
  have some : ¬ hname.length = 0 := fun empty => named.named.1 (List.length_eq_zero_iff.mp empty)
  unfold lineFields
  rw [strchr_namedLine named]
  dsimp only
  rw [if_neg some, lineName_namedLine named, lineValue_namedLine named filled]
  by_cases whole : IsWhole (osipTolower hname) hvalue
  · exact splitValue_whole whole
  · obtain ⟨-, alone, long⟩ := single.resolve_left whole
    have short : ¬ hvalue.length < 2 := Nat.not_lt.mpr long
    rw [splitValue_list whole, @fieldsFrom_none hvalue 0 fun place _ => alone place,
      List.drop_zero, listValues, if_neg short]
    simp [osipClrspace, strip_eq_self named.stripped]

theorem balancedLine_namedLine (named : NamedLine hname hvalue)
    (filled : blanks ≠ 0 ∨ hvalue ≠ []) (single : IsSingle (osipTolower hname) hvalue) :
    BalancedLine (namedLine blanks hname hvalue) := by
  intro colonIndex colon text value
  rw [strchr_namedLine named] at colon
  cases colon
  rw [lineValue_namedLine named filled] at value
  cases value
  rw [lineName_namedLine named]
  exact single.imp_right And.left

/-- What a message has after the lines of a head were read into it: of every kind the headers it
had and those of the lines, in their order, but only the first one of a kind that is single; every
header of another name; and nothing else. The last field of a list stands for no header if it has
less than two characters, and neither does an invalid value of a kind that may be ignored. -/
theorem head_stored {body behind : Text} {parsed : OsipMessage Header}
    (plain : ∀ line ∈ lines, IsHeadLine line) (balanced : ∀ line ∈ lines, BalancedLine line)
    (read : lib.msgHeadersParse body ((joinLines lines ++ '\r' :: rest).length + 1)
      (joinLines lines ++ '\r' :: rest) sip = some (parsed, behind)) :
    behind = '\r' :: rest ∧ ∃ fields, headFields lines = some fields ∧
      (∀ kind, parsed.items kind =
        if kind.single then (sip.items kind ++ lib.knownHeaders fields kind).take 1
        else sip.items kind ++ lib.knownHeaders fields kind) ∧
      parsed.headers = sip.headers ++ lib.otherHeaders fields ∧
      parsed.touch = (sip.withFields lib fields).touch := by
  have enough : lines.length < (joinLines lines ++ '\r' :: rest).length + 1 := by
    have short := length_le_joinLines lines
    rw [List.length_append]
    omega
  rw [msgHeadersParse_lines lib enough plain, storeLines_fields lib balanced] at read
  obtain ⟨after, stores, same⟩ := Option.map_eq_some_iff.mp read
  obtain ⟨fields, meant, stored⟩ := Option.bind_eq_some_iff.mp stores
  cases same
  have touched := storeFields_touch lib sip stored
  refine ⟨rfl, fields, meant, fun kind => ?_, ?_, touched⟩
  · calc parsed.items kind = parsed.touch.items kind := rfl
      _ = (sip.withFields lib fields).items kind := by rw [touched]; rfl
      _ = _ := items_withItems _ _ kind
  · calc parsed.headers = parsed.touch.headers := rfl
      _ = sip.headers ++ lib.otherHeaders fields := by rw [touched]; rfl

/-- Headers that are their own text, and one type of bodies. -/
def echoLib : ParserLib Text where
  toStr := some
  clone := some
  type := fun _ => some "multipart".toList
  boundary := fun _ => some ['b']
  uriParse := some
  parse := fun _ hvalue => some hvalue
  header := fun hname hvalue => namedLine 1 hname (hvalue.getD [])
  subtype := fun _ => some "mixed".toList
  value := some

def contactLines : List Text :=
  ["Mime-Version: 1.0", "Contact: \"1, north\" <sip:1@a>, <sip:2@a>", "X: y",
    "Mime-Version: 2.0"].map String.toList

theorem head_stored_contacts : ∃ (parsed : OsipMessage Text) (fields : _),
    headFields contactLines = some fields ∧
      parsed.items .contact = echoLib.knownHeaders fields .contact ∧
      parsed.items .mimeVersion = (echoLib.knownHeaders fields .mimeVersion).take 1 ∧
      parsed.headers = echoLib.otherHeaders fields := by
  have plain : ∀ line ∈ contactLines, IsHeadLine line := by
    unfold IsHeadLine IsLine
    decide +kernel
  have balanced : ∀ line ∈ contactLines, BalancedLine line := by
    unfold BalancedLine IsWhole
    decide +kernel
  have accepted : (echoLib.msgHeadersParse [] ((joinLines contactLines ++ crlf).length + 1)
      (joinLines contactLines ++ crlf) (.init Text)).isSome := by decide +kernel
  obtain ⟨⟨parsed, behind⟩, read⟩ := Option.isSome_iff_exists.mp accepted
  obtain ⟨-, fields, meant, items, headers, -⟩ := head_stored echoLib plain balanced read
  exact ⟨parsed, fields, meant, items .contact, items .mimeVersion, headers⟩

end Gb28181.Osip
