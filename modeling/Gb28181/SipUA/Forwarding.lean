import Gb28181.SipUA.Printing
import Gb28181.SipUA.SessionBody

namespace Gb28181.SipUA

open Gb28181.Lib

/-- The first line with a letter, unless there is nothing on it. -/
def keptLine (letter : Char) (lines : List SdpLine) : List SdpLine :=
  (lines.find? (·.letter = letter)).toList.filter (·.value ≠ [])

theorem isLine_value {letter : Char} {value : Text}
    (apart : letter ≠ '\r' ∧ letter ≠ '\n' ∧ letter ≠ '\x00') (plain : IsLine value) :
    IsLine (letter :: '=' :: value) := (plain.cons (by decide)).cons apart

def timeLine (times : Int × Int) : SdpLine where
  letter := 't'
  value := decimal times.1 ++ ' ' :: decimal times.2
  plain := isLine_value (by decide)
    ((isLine_decimal _).append ((isLine_decimal _).cons (by decide)))

def keptBefore (lines : List SdpLine) : List SdpLine :=
  keptLine 'v' lines ++ keptLine 'o' lines ++ keptLine 's' lines ++ keptLine 'u' lines ++
    keptLine 'c' lines ++ [timeLine (timesOf lines)]

def keptAfter (lines : List SdpLine) : List SdpLine :=
  keptLine 'y' lines ++ keptLine 'f' lines ++ keptLine 'x' lines

def mediaValue (port : Int) (proto : Text) (types : List Int) : Text :=
  "video".toList ++ ' ' :: (decimal port ++ ' ' :: (proto ++
    types.flatMap (fun type => ' ' :: decimal type)))

/-- The word of a direction, as an attribute line. -/
def directionLine : TransDir → List SdpLine
  | .sendonly => [⟨'a', "sendonly".toList, by unfold IsLine; decide⟩]
  | .recvonly => [⟨'a', "recvonly".toList, by unfold IsLine; decide⟩]
  | .sendrecv => [⟨'a', "sendrecv".toList, by unfold IsLine; decide⟩]
  | .inactive => [⟨'a', "inactive".toList, by unfold IsLine; decide⟩]
  | .unknown => []

section Sections

variable (body : MediaBody "video".toList)

def MediaBody.pieces : List Text := splitString body.media.value ' '

def MediaBody.port : Int := atoi (body.pieces[1]?.getD [])

def MediaBody.proto : Text := body.pieces[2]?.getD []

def MediaBody.types : List Int := (body.pieces.drop 3).map atoi

def MediaBody.direction : TransDir := (lastDirection (attributes body.inside)).getD .unknown

/-- The attributes there are slots for. -/
def MediaBody.others : List Text :=
  (otherAttributes (attributes body.inside)).take sdpMediaAttrMaxCount

def MediaBody.keptAttrs : List SdpLine :=
  (body.inside.filter (fun line => line.letter = 'a' ∧ (directionNamed line.value).isNone)).take
    sdpMediaAttrMaxCount

theorem isLine_flatMap_decimal (types : List Int) :
    IsLine (types.flatMap (fun type => ' ' :: decimal type)) := by
  intro char member
  obtain ⟨type, -, own⟩ := List.mem_flatMap.mp member
  exact (isLine_decimal type).cons (by decide) char own

theorem MediaBody.isLine_proto : IsLine body.proto := by
  unfold MediaBody.proto
  cases here : body.pieces[2]? with
  | none => exact fun _ member => absurd member List.not_mem_nil
  | some piece =>
    intro char member
    have own := mem_splitString (List.mem_of_getElem? here) char member
    exact body.media.plain_value char own.1

def MediaBody.keptMedia : SdpLine where
  letter := 'm'
  value := mediaValue body.port body.proto body.types
  plain := by
    have video : IsLine "video".toList := by
      unfold IsLine
      decide
    have proto := body.isLine_proto.append (isLine_flatMap_decimal body.types)
    have behind := (isLine_decimal body.port).append (@IsLine.cons _ ' ' (by decide) proto)
    exact isLine_value (by decide) (video.append (behind.cons (by decide)))

variable {line : SdpLine} {letter : Char} {lines : List SdpLine}

theorem letter_of_keptLine (member : line ∈ keptLine letter lines) : line.letter = letter := by
  have found := Option.mem_toList.mp (List.mem_of_mem_filter member)
  have own := List.find?_some (Option.mem_def.mp found)
  exact of_decide_eq_true own

theorem letter_of_keptBefore (member : line ∈ keptBefore lines) :
    line.letter ∈ ['v', 'o', 's', 'u', 'c', 't'] := by
  simp only [keptBefore, List.mem_append, List.mem_singleton] at member
  rcases member with ((((v | o) | s) | u) | c) | t
  · rw [letter_of_keptLine v]
    decide
  · rw [letter_of_keptLine o]
    decide
  · rw [letter_of_keptLine s]
    decide
  · rw [letter_of_keptLine u]
    decide
  · rw [letter_of_keptLine c]
    decide
  · rw [t]
    exact (by decide : 't' ∈ ['v', 'o', 's', 'u', 'c', 't'])

theorem letter_of_keptAfter (member : line ∈ keptAfter lines) :
    line.letter ∈ ['y', 'f', 'x'] := by
  simp only [keptAfter, List.mem_append] at member
  rcases member with (y | f) | x
  · rw [letter_of_keptLine y]
    decide
  · rw [letter_of_keptLine f]
    decide
  · rw [letter_of_keptLine x]
    decide

theorem letter_of_directionLine {dir : TransDir} (member : line ∈ directionLine dir) :
    line.letter = 'a' := by
  cases dir with
  | unknown => exact absurd member List.not_mem_nil
  | sendonly | recvonly | sendrecv | inactive => rw [List.mem_singleton.mp member]

theorem letter_of_keptAttrs (member : line ∈ body.keptAttrs) : line.letter = 'a' :=
  (of_decide_eq_true (List.mem_filter.mp (List.mem_of_mem_take member)).2).1

/-- What is kept behind the media line. -/
def MediaBody.keptInside : List SdpLine :=
  directionLine body.direction ++ body.keptAttrs ++ keptAfter body.lines

theorem MediaBody.letter_of_keptInside (member : line ∈ body.keptInside) :
    line.letter ∈ ['a', 'y', 'f', 'x'] := by
  unfold MediaBody.keptInside at member
  rcases List.mem_append.mp member with attr | behind
  · rcases List.mem_append.mp attr with direction | other
    · rw [letter_of_directionLine direction]
      decide
    · rw [letter_of_keptAttrs body other]
      decide
  · exact List.mem_cons_of_mem _ (letter_of_keptAfter behind)

def MediaBody.kept : MediaBody "video".toList where
  before := keptBefore body.lines
  media := body.keptMedia
  inside := body.keptInside
  after := []
  named := by
    refine ⟨rfl, decimal body.port ++ ' ' :: (body.proto ++
      body.types.flatMap (fun type => ' ' :: decimal type)), ?_⟩
    rw [List.append_assoc]
    rfl
  single := by
    have front : 'm' ∉ ['v', 'o', 's', 'u', 'c', 't'] := by decide
    have behind : 'm' ∉ ['a', 'y', 'f', 'x'] := by decide
    rw [List.append_nil]
    rintro line member ⟨m, -⟩
    rcases List.mem_append.mp member with own | own
    · exact front (m ▸ letter_of_keptBefore own)
    · exact behind (m ▸ body.letter_of_keptInside own)
  within := by
    have behind : 'm' ∉ ['a', 'y', 'f', 'x'] := by decide
    exact fun line member m => behind (m ▸ body.letter_of_keptInside member)
  ends := no_line_behind

end Sections

/-- An SDP body with at most one video section. -/
inductive SdpBody where
  | bare (lines : List SdpLine) (noVideo : ∀ line ∈ lines, ¬ line.Names "video".toList)
  | video (body : MediaBody "video".toList)

def SdpBody.lines : SdpBody → List SdpLine
  | .bare lines _ => lines
  | .video body => body.lines

def SdpBody.kept : SdpBody → List SdpLine
  | .bare lines _ => keptBefore lines ++ keptAfter lines
  | .video body => body.kept.lines

def SdpBody.text (body : SdpBody) : Text := bodyText body.lines

/-- What is read, written and read again is what was read. -/
def SdpBody.Preserved (body : SdpBody) : Prop :=
  ∃ info again, parseSdpBody body.text body.text.length .zero = (0, info) ∧
    sdpInfo2BodyString info = some again ∧ parseSdpBody again again.length .zero = (0, info)

/-- No line has the name inside. -/
def Free (name : Text) (lines : List SdpLine) : Prop :=
  ∀ line ∈ lines, ∀ offset < line.text.length, ¬ Occurs line.text name offset

/-- Before and after, the session is found in its own lines, there is no audio section, and
everything fits. -/
structure SdpBody.SessionForwardable (body : SdpBody) : Prop where
  some : body.lines ≠ []
  anchored : ∀ letter ∈ sessionLetters, Anchored letter body.lines
  keptAnchored : ∀ letter ∈ sessionLetters, Anchored letter body.kept
  noAudio : Free "m=audio".toList body.lines
  keptNoAudio : Free "m=audio".toList body.kept
  short : ∀ letter ∈ sessionLetters, letter ≠ 't' →
    (fieldOf letter body.lines).length + 4 < sipuaStringLineLen
  timed : (fieldOf 't' body.lines).length < sipuaStringLineLen
  fits : (bodyText body.kept).length < 1024

/-- The scan does not fall behind a whole line: each attribute line is longer than what the
scan lags behind its beginning. -/
def Ahead : Nat → List SdpLine → Prop
  | _, [] => True
  | lag, line :: lines =>
    if line.letter = 'a' then lag < 2 + line.value.length ∧ Ahead (lag + 2) lines
    else Ahead (lag + line.value.length + 4) lines

/-- The section is read right before and after, and each type has an attribute line in the slots. -/
structure MediaBody.SectionForwardable (body : MediaBody "video".toList) : Prop where
  readable : body.Readable
  counted : body.others.length + 3 = body.pieces.length
  attrsFit : ∀ attr ∈ body.others, attr.length + 4 < sipuaStringLineLen
  mediaFits : body.keptMedia.value.length < sipuaStringLineLen
  first : Free "m=video".toList (keptBefore body.lines)
  free : ∀ line ∈ body.keptInside, ∀ offset < line.value.length, ¬ Occurs line.value ['a', '='] offset
  ahead : Ahead 2 body.keptInside

def SdpBody.Forwardable (body : SdpBody) : Prop :=
  body.SessionForwardable ∧
    match body with
    | .bare lines _ => Free "m=video".toList lines ∧ Free "m=video".toList body.kept
    | .video body => body.SectionForwardable

variable {letter : Char} {lines : List SdpLine}

theorem bodyText_singleton (line : SdpLine) :
    bodyText [line] = line.letter :: '=' :: line.value ++ ['\r', '\n'] := bodyText_cons line []

/-- The field of a letter is written as the line that is kept for it. -/
theorem fieldText_fieldOf (letter : Char) (lines : List SdpLine) :
    fieldText letter (fieldOf letter lines) = bodyText (keptLine letter lines) := by
  unfold keptLine fieldOf
  cases found : lines.find? (·.letter = letter) with
  | none => rfl
  | some line =>
    have own := List.find?_some found
    have own := of_decide_eq_true own
    rw [Option.toList_some, Option.map_some, Option.getD_some]
    by_cases empty : line.value = []
    · rw [List.filter_cons_of_neg, List.filter_nil, fieldText, if_pos empty]
      · rfl
      · exact fun filled => absurd empty (of_decide_eq_true (p := line.value ≠ []) filled)
    · rw [List.filter_cons_of_pos, List.filter_nil, fieldText, if_neg empty, bodyText_singleton, own]
      exact decide_eq_true empty

theorem typeList_eq {types : List Int} (some : types ≠ []) :
    ' ' :: typeList types = types.flatMap (fun type => ' ' :: decimal type) ++ ['\r', '\n'] := by
  induction types with
  | nil => exact absurd rfl some
  | cons type types ih =>
    unfold typeList
    rw [List.flatMap_cons]
    by_cases last : types = []
    · subst last
      rw [if_pos rfl, typeList, List.append_nil, List.flatMap_nil, List.append_nil]
      rfl
    · rw [if_neg last, List.append_assoc, List.singleton_append, ih last]
      simp only [List.cons_append, List.append_assoc]

theorem sAttr_sectionInfo {port : Int} {proto : Text} {types : List Int} {dir : TransDir}
    {attrs : List Text} {index : Nat} (few : types.length ≤ sdpMediaAttrMaxCount)
    (inside : index < types.length) (filled : index < attrs.length) :
    (sectionInfo port proto types dir attrs).sAttr[index]? =
      some ⟨types[index], attrs[index]⟩ := by
  have inRange : index < sdpMediaAttrMaxCount := Nat.lt_of_lt_of_le inside few
  unfold sectionInfo
  dsimp only
  rw [Vector.getElem?_eq_getElem inRange, Vector.getElem_ofFn]
  dsimp only
  rw [List.getElem?_eq_getElem inside, List.getElem?_eq_getElem filled]
  rfl

theorem dirString_eq (dir : TransDir) : dirString dir = bodyText (directionLine dir) := by
  cases dir <;> decide

theorem bodyText_attrs {lines : List SdpLine} (attrs : ∀ line ∈ lines, line.letter = 'a') :
    bodyText lines = attrText (lines.map SdpLine.value) := by
  induction lines with
  | nil => rfl
  | cons line lines ih =>
    obtain ⟨here, there⟩ := List.forall_mem_cons.mp attrs
    rw [bodyText_cons, List.map_cons, attrText, List.flatMap_cons, ← attrText, ih there, here,
      List.append_assoc]
    rfl

/-- A section is written as its media line, its direction and its attributes. -/
theorem mediaInfo2String_section {port : Int} {proto addr : Text} {types : List Int}
    {dir : TransDir} {attrs : List Text} (some : types ≠ [])
    (few : types.length ≤ sdpMediaAttrMaxCount) (paired : attrs.length = types.length)
    (short : ∀ attr ∈ attrs, attr.length + 4 < sipuaStringLineLen)
    (mediaFits : (mediaValue port proto types).length < sipuaStringLineLen)
    (fits : ('m' :: '=' :: mediaValue port proto types ++ ['\r', '\n'] ++ dirString dir ++
      attrText attrs).length < 1024) :
    mediaInfo2String { sectionInfo port proto types dir attrs with szAddr := addr } "video".toList =
      .some ('m' :: '=' :: mediaValue port proto types ++ ['\r', '\n'] ++ dirString dir ++
        attrText attrs) := by
  have whole : mediaHead "video".toList port proto ++ typeList types =
      'm' :: '=' :: mediaValue port proto types ++ ['\r', '\n'] := by
    have types := congrArg (fun rest : Text =>
      'm' :: '=' :: ("video".toList ++ ' ' :: (decimal port ++ ' ' :: (proto ++ rest))))
        (typeList_eq some)
    have head : ∀ name rest : Text,
        "m=".toList ++ name ++ " ".toList ++ decimal port ++ " ".toList ++ proto ++ " ".toList ++ rest =
          'm' :: '=' :: (name ++ ' ' :: (decimal port ++ ' ' :: (proto ++ ' ' :: rest))) := by
      intro name rest
      simp only [List.append_assoc]
      rfl
    have ends : ∀ name number list ending : Text,
        'm' :: '=' :: (name ++ ' ' :: (number ++ ' ' :: (proto ++ (list ++ ending)))) =
          'm' :: '=' :: (name ++ ' ' :: (number ++ ' ' :: (proto ++ list))) ++ ending := by
      intro name number list ending
      simp only [List.append_assoc, List.cons_append]
    exact (head _ _).trans (types.trans (ends _ _ _ _))
  have size : ('m' :: '=' :: mediaValue port proto types ++ ['\r', '\n']).length < 256 := by
    simp only [List.length_append, List.length_cons, List.length_nil]
    exact Nat.lt_of_lt_of_le (Nat.add_lt_add_right mediaFits 4) (by decide)
  have slots : ({ sectionInfo port proto types dir attrs with szAddr := addr } : MediaInfo).Slots types
      attrs :=
    ⟨rfl, paired, fun _ inside filled _ =>
      @sAttr_sectionInfo port proto types dir attrs _ few inside filled⟩
  rw [← whole] at size fits ⊢
  exact (mediaInfo2String_eq_some slots).mpr ⟨few, short, size, fits, rfl⟩

theorem timeLine_short (lines : List SdpLine) : (timeLine (timesOf lines)).value.length ≤ 41 := by
  have zero : (decimal 0).length ≤ 20 := by decide
  have both : (decimal (timesOf lines).1).length ≤ 20 ∧ (decimal (timesOf lines).2).length ≤ 20 := by
    unfold timesOf timesIn
    split
    · exact ⟨length_decimal_atoll _, length_decimal_atoll _⟩
    · exact ⟨zero, zero⟩
  have value : (timeLine (timesOf lines)).value =
      decimal (timesOf lines).1 ++ ' ' :: decimal (timesOf lines).2 := rfl
  rw [value, List.length_append, List.length_cons]
  omega

/-- A session is written as the lines that are kept of it, around its video section. -/
theorem sdpInfo2BodyString_lines {info : MediaInfo} {media : Text}
    (video : mediaLine (sessionOf lines info).sVideoMediaInfo
      (sessionOf lines info).sVideoMediaInfo "video".toList = some media)
    (short : ∀ letter ∈ sessionLetters, letter ≠ 't' →
      (fieldOf letter lines).length + 4 < sipuaStringLineLen)
    (fits : (bodyText (keptBefore lines) ++ media ++ bodyText (keptAfter lines)).length < 1024) :
    sdpInfo2BodyString (sessionOf lines info) =
      some (bodyText (keptBefore lines) ++ media ++ bodyText (keptAfter lines)) := by
  have audio : mediaLine (sessionOf lines info).sAudioMediaInfo
      (sessionOf lines info).sVideoMediaInfo "audio".toList = some [] := if_neg Nat.zero_ne_one
  have time := timeLine_short lines
  have value : (sessionOf lines info).szTimeLine = (timeLine (timesOf lines)).value :=
    List.append_assoc ..
  have timeText : fieldText 't' (sessionOf lines info).szTimeLine =
      bodyText [timeLine (timesOf lines)] := by
    have some : (timeLine (timesOf lines)).value ≠ [] :=
      List.append_ne_nil_of_left_ne_nil (decimal_ne_nil _) _
    rw [value, fieldText, if_neg some, bodyText_singleton]
    rfl
  have before : fieldTexts (sessionOf lines info).fieldsBefore = bodyText (keptBefore lines) := by
    simp only [fieldTexts, SdpInfo.fieldsBefore, List.flatMap_cons, List.flatMap_nil, List.append_nil,
      timeText, keptBefore, bodyText_append, List.append_assoc, ← fieldText_fieldOf]
    rfl
  have after : fieldTexts (sessionOf lines info).fieldsAfter = bodyText (keptAfter lines) := by
    simp only [fieldTexts, SdpInfo.fieldsAfter, List.flatMap_cons, List.flatMap_nil, List.append_nil,
      keptAfter, bodyText_append, List.append_assoc, ← fieldText_fieldOf]
    rfl
  have fields : ∀ field ∈ (sessionOf lines info).fieldsBefore ++ (sessionOf lines info).fieldsAfter,
      field.2.length + 4 < sipuaStringLineLen := by
    have timeShort : (sessionOf lines info).szTimeLine.length + 4 < sipuaStringLineLen := by
      rw [value]
      exact Nat.lt_of_le_of_lt (Nat.add_le_add_right time 4) (by decide)
    simp only [SdpInfo.fieldsBefore, SdpInfo.fieldsAfter, List.cons_append, List.nil_append,
      List.forall_mem_cons]
    exact ⟨short 'v' (by decide) (by decide), short 'o' (by decide) (by decide),
      short 's' (by decide) (by decide), short 'u' (by decide) (by decide),
      short 'c' (by decide) (by decide), timeShort, short 'y' (by decide) (by decide),
      short 'f' (by decide) (by decide), short 'x' (by decide) (by decide), List.forall_mem_nil _⟩
  apply sdpInfo2BodyString_eq_some.mpr
  rw [before, after]
  refine ⟨media, [], video, audio, fields, ?_, ?_⟩
  · rw [List.append_nil]
    exact fits
  · rw [List.append_nil]

theorem fieldOf_apart_append {front behind : List SdpLine}
    (apart : ∀ line ∈ front, line.letter ≠ letter) :
    fieldOf letter (front ++ behind) = fieldOf letter behind := by
  have none : front.find? (·.letter = letter) = none :=
    List.find?_eq_none.mpr (fun line member same => apart line member (of_decide_eq_true same))
  rw [fieldOf, List.find?_append, none, Option.none_or, fieldOf]

theorem fieldOf_keptLine_append {behind : List SdpLine} (apart : fieldOf letter behind = []) :
    fieldOf letter (keptLine letter lines ++ behind) = fieldOf letter lines := by
  cases found : lines.find? (·.letter = letter) with
  | none =>
    rw [keptLine, found, Option.toList_none, List.filter_nil, List.nil_append, apart, fieldOf, found]
    rfl
  | some line =>
    have own := List.find?_some found
    have value : fieldOf letter lines = line.value := by
      rw [fieldOf, found]
      rfl
    rw [value, keptLine, found, Option.toList_some]
    by_cases empty : line.value = []
    · rw [List.filter_cons_of_neg, List.filter_nil, List.nil_append, apart, empty]
      exact fun filled => absurd empty (of_decide_eq_true (p := line.value ≠ []) filled)
    · rw [List.filter_cons_of_pos, List.filter_nil, List.singleton_append, fieldOf,
        List.find?_cons, own]
      · rfl
      · exact decide_eq_true empty

/-- Among the lines kept for some letters is the field of each of them. -/
theorem fieldOf_flatMap_keptLine {letters : List Char} {behind : List SdpLine}
    (once : letters.Nodup) (apart : fieldOf letter behind = []) :
    fieldOf letter (letters.flatMap (keptLine · lines) ++ behind) =
      if letter ∈ letters then fieldOf letter lines else [] := by
  induction letters with
  | nil => exact apart
  | cons first letters ih =>
    obtain ⟨fresh, once⟩ := List.nodup_cons.mp once
    have ih := ih once
    rw [List.flatMap_cons, List.append_assoc]
    by_cases own : letter = first
    · subst own
      rw [if_neg fresh] at ih
      rw [if_pos List.mem_cons_self]
      exact fieldOf_keptLine_append ih
    · rw [fieldOf_apart_append, ih]
      · simp only [List.mem_cons, own, false_or]
      · exact fun line member same => own (same.symm.trans (letter_of_keptLine member))

theorem keptBefore_eq (lines : List SdpLine) : keptBefore lines =
    ['v', 'o', 's', 'u', 'c'].flatMap (keptLine · lines) ++ [timeLine (timesOf lines)] := by
  simp only [keptBefore, List.flatMap_cons, List.flatMap_nil, List.append_assoc, List.append_nil]

theorem keptAfter_eq (lines : List SdpLine) :
    keptAfter lines = ['y', 'f', 'x'].flatMap (keptLine · lines) := by
  simp only [keptAfter, List.flatMap_cons, List.flatMap_nil, List.append_assoc, List.append_nil]

/-- The kept lines, with a section in their middle. -/
def keptAround (lines middle : List SdpLine) : List SdpLine :=
  keptBefore lines ++ middle ++ keptAfter lines

section Around

variable {middle : List SdpLine} (inside : ∀ line ∈ middle, line.letter ∈ ['m', 'a'])
include inside

theorem fieldOf_keptAround (member : letter ∈ ['v', 'o', 's', 'u', 'c', 'y', 'f', 'x']) :
    fieldOf letter (keptAround lines middle) = fieldOf letter lines := by
  have apart : ∀ own ∈ middle, own.letter ≠ letter := by
    have letters : ∀ letter ∈ ['v', 'o', 's', 'u', 'c', 'y', 'f', 'x'], letter ∉ ['m', 'a'] := by decide
    exact fun own within same => letters letter member (same ▸ inside own within)
  have time : ∀ own ∈ [timeLine (timesOf lines)], own.letter ≠ letter := by
    have letters : ∀ letter ∈ ['v', 'o', 's', 'u', 'c', 'y', 'f', 'x'], 't' ≠ letter := by decide
    intro own within
    rw [List.mem_singleton.mp within]
    exact letters letter member
  have behind : fieldOf letter (keptAfter lines) =
      if letter ∈ ['y', 'f', 'x'] then fieldOf letter lines else [] := by
    have kept := @fieldOf_flatMap_keptLine letter lines ['y', 'f', 'x'] [] (by decide) rfl
    rw [List.append_nil, ← keptAfter_eq] at kept
    exact kept
  have rest : fieldOf letter ([timeLine (timesOf lines)] ++ (middle ++ keptAfter lines)) =
      if letter ∈ ['y', 'f', 'x'] then fieldOf letter lines else [] := by
    rw [fieldOf_apart_append time, fieldOf_apart_append apart, behind]
  unfold keptAround
  rw [keptBefore_eq, List.append_assoc, List.append_assoc]
  by_cases late : letter ∈ ['y', 'f', 'x']
  · rw [if_pos late] at rest
    rw [fieldOf_apart_append, rest]
    have letters : ∀ letter ∈ ['y', 'f', 'x'], letter ∉ ['v', 'o', 's', 'u', 'c'] := by decide
    intro own within same
    obtain ⟨first, known, kept⟩ := List.mem_flatMap.mp within
    rw [letter_of_keptLine kept] at same
    exact letters letter late (same ▸ known)
  · have early : letter ∈ ['v', 'o', 's', 'u', 'c'] := by
      have either : ∀ letter ∈ ['v', 'o', 's', 'u', 'c', 'y', 'f', 'x'],
          letter ∉ ['y', 'f', 'x'] → letter ∈ ['v', 'o', 's', 'u', 'c'] := by decide
      exact either letter member late
    rw [if_neg late] at rest
    rw [fieldOf_flatMap_keptLine (by decide) rest, if_pos early]

omit inside in
theorem fieldOf_time : fieldOf 't' (keptAround lines middle) = (timeLine (timesOf lines)).value := by
  unfold keptAround
  rw [keptBefore_eq, List.append_assoc, List.append_assoc, fieldOf_apart_append]
  · rfl
  · have letters : 't' ∉ ['v', 'o', 's', 'u', 'c'] := by decide
    intro own within same
    obtain ⟨first, known, kept⟩ := List.mem_flatMap.mp within
    rw [letter_of_keptLine kept] at same
    exact letters (same ▸ known)

omit inside in
theorem timesOf_keptAround : timesOf (keptAround lines middle) = timesOf lines := by
  have noBlank : ∀ number, ' ' ∉ decimal number := fun _ => not_mem_decimal (by decide) (by decide)
  have range : ∀ number ∈ [(timesOf lines).1, (timesOf lines).2],
      -2 ^ 63 ≤ number ∧ number < 2 ^ 63 := by
    unfold timesOf timesIn
    split
    · simp only [List.mem_cons, List.not_mem_nil, or_false, forall_eq_or_imp, forall_eq]
      exact ⟨atoll_range _, atoll_range _⟩
    · decide
  have read : ∀ number ∈ [(timesOf lines).1, (timesOf lines).2], atoll (decimal number) = number := by
    intro number member
    have back := @atoll_decimal [] number (range number member).1 (range number member).2 nofun
    rw [List.append_nil] at back
    exact back
  have value : (timeLine (timesOf lines)).value =
      decimal (timesOf lines).1 ++ ' ' :: decimal (timesOf lines).2 := rfl
  have pieces : splitString (fieldOf 't' (keptAround lines middle)) ' ' =
      [decimal (timesOf lines).1, decimal (timesOf lines).2] := by
    rw [fieldOf_time, value, splitString_cons (noBlank _),
      splitString_single (noBlank _) (decimal_ne_nil _)]
  have whole : timesOf (keptAround lines middle) =
      (atoll (decimal (timesOf lines).1), atoll (decimal (timesOf lines).2)) := by
    rw [timesOf, timesIn, pieces]
  rw [whole, read _ List.mem_cons_self, read _ (List.mem_cons_of_mem _ List.mem_cons_self)]

/-- The kept lines have the session of the lines they come from. -/
theorem sessionOf_keptAround (info : MediaInfo) :
    sessionOf (keptAround lines middle) info = sessionOf lines info := by
  have field : ∀ letter ∈ ['v', 'o', 's', 'u', 'c', 'y', 'f', 'x'],
      fieldOf letter (keptAround lines middle) = fieldOf letter lines :=
    fun letter member => fieldOf_keptAround inside member
  have address : addressOf (keptAround lines middle) = addressOf lines := by
    unfold addressOf
    rw [field 'c' (by decide)]
  unfold sessionOf
  rw [field 'v' (by decide), field 'o' (by decide), field 's' (by decide), field 'u' (by decide),
    field 'c' (by decide), field 'y' (by decide), field 'f' (by decide), field 'x' (by decide),
    address, timesOf_keptAround]

end Around

/-- In a line without `a=` inside, it stands at the beginning of an attribute line only. -/
theorem occurs_in_line {line : SdpLine} {text rest : Text} {start inner : Nat}
    (free : ∀ offset < line.value.length, ¬ Occurs line.value ['a', '='] offset)
    (stands : text.drop start = line.letter :: '=' :: line.value ++ '\r' :: '\n' :: rest)
    (inside : inner < line.value.length + 4) (occurs : Occurs text ['a', '='] (start + inner)) :
    inner = 0 ∧ line.letter = 'a' := by
  rw [Occurs, ← List.drop_drop, stands, List.cons_append, List.cons_append] at occurs
  rcases inner with _ | _ | inner
  case zero => exact ⟨rfl, (List.cons_prefix_cons.mp occurs).1.symm⟩
  case succ.zero => exact absurd (List.cons_prefix_cons.mp occurs).1 (by decide)
  case succ.succ =>
    exfalso
    rw [List.drop_succ_cons, List.drop_succ_cons] at occurs
    by_cases within : inner ≤ line.value.length
    · rw [List.drop_append_of_le_length within] at occurs
      apply beginsNot_of_prefix _ _ rest occurs
      · decide
      · intro begins
        have here : Occurs line.value ['a', '='] inner := begins
        exact free inner (lt_length_of_occurs here) here
    · obtain ⟨rfl⟩ : inner = line.value.length + 1 := by omega
      rw [List.drop_length_add_append] at occurs
      exact absurd (List.cons_prefix_cons.mp occurs).1 (by decide)

/-- A scan that stays ahead finds each line where it stands. -/
theorem lagClear_of_ahead {lines : List SdpLine} {text : Text} {begin lag start : Nat}
    (behind : begin + lag = start) (within : start ≤ text.length)
    (stands : text.drop start = bodyText lines)
    (free : ∀ line ∈ lines, ∀ offset < line.value.length, ¬ Occurs line.value ['a', '='] offset)
    (earlier : ∀ offset < start, begin ≤ offset → ¬ Occurs text ['a', '='] offset)
    (ahead : Ahead lag lines) : LagClear text begin (attrLines start lines) := by
  induction lines generalizing begin lag start with
  | nil =>
    have all : text.length ≤ start := List.drop_eq_nil_iff.mp stands
    exact fun offset below later => earlier offset (Nat.lt_of_lt_of_le below all) later
  | cons line lines ih =>
    obtain ⟨here, there⟩ := List.forall_mem_cons.mp free
    have next := drop_behind_line (stands.trans (List.append_nil _).symm)
    rw [List.append_nil] at next
    rw [bodyText_cons] at stands
    have size := congrArg List.length stands
    simp only [List.length_drop, List.length_append, List.length_cons] at size
    have inner : ∀ offset, start ≤ offset → offset < start + line.value.length + 4 →
        Occurs text ['a', '='] offset → offset = start ∧ line.letter = 'a' := by
      intro offset low high occurs
      obtain ⟨inner, rfl⟩ := Nat.exists_eq_add_of_le low
      obtain ⟨zero, attr⟩ := occurs_in_line here stands (by omega) occurs
      exact ⟨by omega, attr⟩
    unfold attrLines
    unfold Ahead at ahead
    dsimp only
    by_cases attr : line.letter = 'a'
    · rw [if_pos attr] at ahead ⊢
      refine ⟨earlier, ?_⟩
      apply ih (by omega) (by omega) next there _ ahead.2
      intro offset below later occurs
      have past : start < offset := by
        have longer := ahead.1
        omega
      exact absurd (inner offset past.le below occurs).1 (Nat.ne_of_gt past)
    · rw [if_neg attr] at ahead ⊢
      apply ih (by omega) (by omega) next there _ ahead
      intro offset below later occurs
      by_cases before : offset < start
      · exact earlier offset before later occurs
      · exact attr (inner offset (Nat.le_of_not_lt before) below occurs).2

section Sections

variable {body : MediaBody "video".toList}

theorem MediaBody.pieces_eq (section_ : body.SectionForwardable) : ∃ name port proto,
    ∃ types : List Text, body.pieces = name :: port :: proto :: types ∧ types ≠ [] ∧
      body.port = atoi port ∧ body.proto = proto ∧ body.types = types.map atoi := by
  have enough := section_.readable.pieces.1
  unfold MediaBody.port MediaBody.proto MediaBody.types
  change 4 ≤ body.pieces.length at enough
  match body.pieces, enough with
  | name :: port :: proto :: type :: types, _ =>
    exact ⟨name, port, proto, type :: types, rfl, List.cons_ne_nil _ _, rfl, rfl, rfl⟩

theorem MediaBody.length_types (section_ : body.SectionForwardable) :
    body.others.length = body.types.length ∧ body.types ≠ [] ∧
      body.types.length ≤ sdpMediaAttrMaxCount := by
  obtain ⟨name, port, proto, types, pieces, some, -, -, read⟩ := pieces_eq section_
  have counted := section_.counted
  have few : body.pieces.length ≤ sdpMediaAttrMaxCount + 3 := section_.readable.pieces.2
  rw [pieces, List.length_cons, List.length_cons, List.length_cons] at counted few
  rw [read, List.length_map]
  exact ⟨by omega, fun none => some (List.map_eq_nil_iff.mp none), by omega⟩

theorem splitString_types {types : List Int} {piece : Text} (free : ' ' ∉ piece) (some : piece ≠ []) :
    splitString (piece ++ types.flatMap (fun type => ' ' :: decimal type)) ' ' =
      piece :: types.map decimal := by
  induction types generalizing piece with
  | nil => rw [List.flatMap_nil, List.append_nil, splitString_single free some, List.map_nil]
  | cons type types ih =>
    have noBlank : ' ' ∉ decimal type := not_mem_decimal (by decide) (by decide)
    rw [List.flatMap_cons, List.cons_append, splitString_cons free, ih noBlank (decimal_ne_nil _),
      List.map_cons]

theorem splitString_media {name proto : Text} {port : Int} {types : List Int} (named : ' ' ∉ name)
    (free : ' ' ∉ proto) (some : types ≠ []) :
    splitString (name ++ ' ' :: (decimal port ++ ' ' :: (proto ++
      types.flatMap (fun type => ' ' :: decimal type)))) ' ' =
        name :: decimal port :: proto :: types.map decimal := by
  have noBlank : ∀ number, ' ' ∉ decimal number := fun _ => not_mem_decimal (by decide) (by decide)
  cases types with
  | nil => exact absurd rfl some
  | cons type types =>
    rw [splitString_cons named, splitString_cons (noBlank port), List.flatMap_cons,
      List.cons_append, splitString_cons free, splitString_types (noBlank type) (decimal_ne_nil _),
      List.map_cons]

theorem splitString_mediaValue {port : Int} {proto : Text} {types : List Int} (free : ' ' ∉ proto)
    (some : types ≠ []) : splitString (mediaValue port proto types) ' ' =
      "video".toList :: decimal port :: proto :: types.map decimal :=
  splitString_media (by decide) free some

theorem attributes_append (lines others : List SdpLine) :
    attributes (lines ++ others) = attributes lines ++ attributes others := by
  rw [attributes, List.filter_append, List.map_append]
  rfl

theorem attributes_all {lines : List SdpLine} (all : ∀ line ∈ lines, line.letter = 'a') :
    attributes lines = lines.map SdpLine.value := by
  have kept : lines.filter (·.letter = 'a') = lines :=
    List.filter_eq_self.mpr (fun line member => decide_eq_true (all line member))
  rw [attributes, kept]

theorem attributes_none {lines : List SdpLine} (none : ∀ line ∈ lines, line.letter ≠ 'a') :
    attributes lines = [] := by
  have dropped : lines.filter (·.letter = 'a') = [] :=
    List.filter_eq_nil_iff.mpr (fun line member same => none line member (of_decide_eq_true same))
  rw [attributes, dropped, List.map_nil]

theorem MediaBody.map_keptAttrs (body : MediaBody "video".toList) :
    body.keptAttrs.map SdpLine.value = body.others := by
  unfold MediaBody.keptAttrs MediaBody.others otherAttributes attributes
  rw [List.filter_map, List.filter_filter, List.map_take]
  congr 2
  apply List.filter_congr
  intro line _
  rw [Bool.and_comm]
  simp only [Bool.decide_and, Function.comp, Bool.decide_eq_true]

theorem MediaBody.attributes_kept (body : MediaBody "video".toList) :
    attributes body.keptInside = (directionLine body.direction).map SdpLine.value ++ body.others := by
  have direction := attributes_all (fun line (member : line ∈ directionLine body.direction) =>
    letter_of_directionLine member)
  have others := attributes_all (fun line (member : line ∈ body.keptAttrs) =>
    letter_of_keptAttrs body member)
  have after : attributes (keptAfter body.lines) = [] := by
    have letters : 'a' ∉ ['y', 'f', 'x'] := by decide
    exact attributes_none (fun line member same => letters (same ▸ letter_of_keptAfter member))
  unfold MediaBody.keptInside
  rw [attributes_append, attributes_append, direction, others, after, List.append_nil,
    body.map_keptAttrs]

theorem unnamed_of_others {attr : Text} (member : attr ∈ body.others) : directionNamed attr = none :=
  Option.isNone_iff_eq_none.mp (List.mem_filter.mp (List.mem_of_mem_take member)).2

theorem MediaBody.lastDirection_kept (body : MediaBody "video".toList) :
    (lastDirection (attributes body.keptInside)).getD .unknown = body.direction := by
  have silent : body.others.filterMap directionNamed = [] :=
    List.filterMap_eq_nil_iff.mpr (fun attr member => unnamed_of_others member)
  have word : ∀ dir : TransDir, (((directionLine dir).map SdpLine.value).filterMap
      directionNamed).getLast?.getD .unknown = dir := by
    intro dir
    cases dir <;> decide
  rw [body.attributes_kept, lastDirection, List.filterMap_append, silent, List.append_nil]
  exact word body.direction

theorem MediaBody.otherAttributes_kept (body : MediaBody "video".toList) :
    otherAttributes (attributes body.keptInside) = body.others := by
  have all : body.others.filter (fun attr => (directionNamed attr).isNone) = body.others :=
    List.filter_eq_self.mpr (fun attr member => Option.isNone_iff_eq_none.mpr (unnamed_of_others member))
  have word : ∀ dir : TransDir, ((directionLine dir).map SdpLine.value).filter
      (fun attr => (directionNamed attr).isNone) = [] := by
    intro dir
    cases dir <;> decide
  rw [body.attributes_kept, otherAttributes, List.filter_append, all, word, List.nil_append]

theorem MediaBody.noBlank_proto (body : MediaBody "video".toList) : ' ' ∉ body.proto := by
  unfold MediaBody.proto
  cases here : body.pieces[2]? with
  | none => exact List.not_mem_nil
  | some piece =>
    intro member
    exact (mem_splitString (List.mem_of_getElem? here) ' ' member).2 rfl

theorem MediaBody.pieces_kept (section_ : body.SectionForwardable) :
    splitString body.kept.media.value ' ' =
      "video".toList :: decimal body.port :: body.proto :: body.types.map decimal :=
  splitString_mediaValue body.noBlank_proto (length_types section_).2.1

theorem attr_of_kept {attr : Text}
    (member : attr ∈ attributes body.kept.inside) :
    attr ∈ directionWords ∨ attr ∈ body.others ∧ attr ∈ attributes body.inside := by
  have words : ∀ dir : TransDir, ∀ attr ∈ (directionLine dir).map SdpLine.value,
      attr ∈ directionWords := by
    intro dir
    cases dir <;> decide
  rw [MediaBody.kept, body.attributes_kept] at member
  rcases List.mem_append.mp member with word | other
  · exact .inl (words _ attr word)
  · exact .inr ⟨other, List.mem_of_mem_filter (List.mem_of_mem_take other)⟩

theorem sectionInfo_take (port : Int) (proto : Text) (types : List Int) (dir : TransDir)
    (attrs : List Text) : sectionInfo port proto types dir (attrs.take sdpMediaAttrMaxCount) =
      sectionInfo port proto types dir attrs := by
  unfold sectionInfo
  congr 2
  funext index
  rw [List.getElem?_take_of_lt index.isLt]

theorem MediaBody.kept_readable (section_ : body.SectionForwardable) : body.kept.Readable := by
  obtain ⟨-, some, few⟩ := length_types section_
  constructor
  · change keptBefore body.lines ≠ []
    rw [keptBefore_eq]
    exact List.append_ne_nil_of_right_ne_nil _ (List.cons_ne_nil _ _)
  · intro offset before
    rw [body.kept.text_eq]
    exact not_occurs_bodyText (by decide) (by decide) section_.first before
  · exact section_.mediaFits
  · rw [pieces_kept section_]
    simp only [List.length_cons, List.length_map]
    have one := List.length_pos_of_ne_nil some
    omega
  · intro attr member
    have words : ∀ word ∈ directionWords, word.length < sipuaStringLineLen := by decide
    rcases attr_of_kept member with word | ⟨other, -⟩
    · exact words attr word
    · exact Nat.lt_of_le_of_lt (Nat.le_add_right ..) (section_.attrsFit attr other)
  · intro attr member
    have words : ∀ word ∈ directionWords, ∀ other ∈ directionWords, word <+: other →
        word = other := by decide
    rcases attr_of_kept member with word | ⟨-, attr_mem⟩
    · exact words attr word
    · exact section_.readable.apart attr attr_mem
  · have stands : body.kept.behind.drop 2 = bodyText body.keptInside := by
      unfold MediaBody.behind
      rw [kept, List.append_nil]
      rfl
    apply lagClear_of_ahead (Nat.zero_add 2) _ stands section_.free _ section_.ahead
    · exact Nat.le_add_left ..
    · intro offset below _ occurs
      unfold MediaBody.behind at occurs
      match offset, below with
      | 0, _ => exact absurd (List.cons_prefix_cons.mp occurs).1 (by decide)
      | 1, _ => exact absurd (List.cons_prefix_cons.mp occurs).1 (by decide)

def MediaBody.info (body : MediaBody "video".toList) : MediaInfo :=
  sectionInfo body.port body.proto body.types body.direction body.others

theorem MediaBody.parse_info (section_ : body.SectionForwardable) :
    parseMediaSdpBody .zero body.text body.text.length "m=video".toList = (0, body.info) := by
  obtain ⟨name, port, proto, types, pieces, -, portEq, protoEq, typesEq⟩ := pieces_eq section_
  have parsed := parse_section section_.readable pieces
  rw [MediaBody.info, portEq, protoEq, typesEq, MediaBody.others, sectionInfo_take]
  exact parsed

theorem atoi_decimal_atoi (text : Text) : atoi (decimal (atoi text)) = atoi text := by
  have back := @atoi_decimal [] (atoi text) (atoi_range text).1 (atoi_range text).2 nofun
  rw [List.append_nil] at back
  exact back

theorem MediaBody.parse_kept (section_ : body.SectionForwardable) :
    parseMediaSdpBody .zero body.kept.text body.kept.text.length "m=video".toList =
      (0, body.info) := by
  have parsed := parse_section (kept_readable section_) (pieces_kept section_)
  have port : atoi (decimal body.port) = body.port := atoi_decimal_atoi _
  have types : (body.types.map decimal).map atoi = body.types := by
    have same : atoi ∘ decimal ∘ atoi = atoi := funext atoi_decimal_atoi
    rw [MediaBody.types, List.map_map, List.map_map]
    exact congrArg (List.map · _) same
  have direction : (lastDirection (attributes body.kept.inside)).getD .unknown = body.direction :=
    body.lastDirection_kept
  have others : otherAttributes (attributes body.kept.inside) = body.others :=
    body.otherAttributes_kept
  rw [port, types, direction, others] at parsed
  exact parsed

theorem MediaBody.kept_lines (body : MediaBody "video".toList) : body.kept.lines =
    keptAround body.lines (body.keptMedia :: (directionLine body.direction ++ body.keptAttrs)) := by
  unfold MediaBody.lines keptAround
  simp only [kept, keptInside, List.append_assoc, List.cons_append, List.append_nil]
  rfl

theorem letter_of_middle : ∀ line ∈
    body.keptMedia :: (directionLine body.direction ++ body.keptAttrs), line.letter ∈ ['m', 'a'] := by
  intro line member
  rcases List.mem_cons.mp member with media | attr
  · rw [media]
    exact List.mem_cons_self
  · rcases List.mem_append.mp attr with direction | other
    · rw [letter_of_directionLine direction]
      decide
    · rw [letter_of_keptAttrs body other]
      decide

end Sections

theorem nowhere_of_free {lines : List SdpLine} {first : Char} {key : Text}
    (noReturn : '\r' ∉ first :: key) (noFeed : '\n' ∉ first :: key)
    (free : Free (first :: key) lines) (offset : Nat) : ¬ Occurs (bodyText lines) (first :: key) offset :=
  nowhere_bodyText noReturn noFeed free offset

theorem SdpBody.SessionForwardable.readable {body : SdpBody} (session : body.SessionForwardable) :
    ∀ letter ∈ sessionLetters, (fieldOf letter body.lines).length < sipuaStringLineLen := by
  intro letter member
  by_cases time : letter = 't'
  · rw [time]
    exact session.timed
  · exact Nat.lt_of_le_of_lt (Nat.le_add_right ..) (session.short letter member time)

theorem short_keptAround {lines middle : List SdpLine}
    (inside : ∀ line ∈ middle, line.letter ∈ ['m', 'a'])
    (short : ∀ letter ∈ sessionLetters, (fieldOf letter lines).length < sipuaStringLineLen) :
    ∀ letter ∈ sessionLetters,
      (fieldOf letter (keptAround lines middle)).length < sipuaStringLineLen := by
  intro letter member
  have either : ∀ letter ∈ sessionLetters,
      letter = 't' ∨ letter ∈ ['v', 'o', 's', 'u', 'c', 'y', 'f', 'x'] := by decide
  rcases either letter member with rfl | other
  · rw [fieldOf_time]
    exact Nat.lt_of_le_of_lt (timeLine_short lines) (by decide)
  · rw [fieldOf_keptAround inside other]
    exact short letter member

/-- A session is kept where its lines and its section are read right before and after. -/
theorem preserved_of_sections {body : SdpBody} {middle : List SdpLine} {info : MediaInfo}
    (session : body.SessionForwardable) (kept : body.kept = keptAround body.lines middle)
    (inside : ∀ line ∈ middle, line.letter ∈ ['m', 'a']) (fresh : info.szAddr = [])
    (video : (parseMediaSdpBody .zero body.text body.text.length "m=video".toList).2 = info)
    (again : (parseMediaSdpBody .zero (bodyText body.kept) (bodyText body.kept).length
      "m=video".toList).2 = info)
    (printed : mediaLine (sessionOf body.lines info).sVideoMediaInfo
      (sessionOf body.lines info).sVideoMediaInfo "video".toList = some (bodyText middle)) :
    body.Preserved := by
  have short := session.readable
  have keptShort := short_keptAround inside short
  have text : bodyText body.kept = bodyText (keptBefore body.lines) ++ bodyText middle ++
      bodyText (keptAfter body.lines) := by
    rw [kept, keptAround, bodyText_append, bodyText_append]
  have some : body.kept ≠ [] := by
    rw [kept, keptAround, keptBefore_eq]
    simp only [List.append_assoc, ne_eq, List.append_eq_nil_iff, List.cons_ne_nil, false_and,
      and_false, not_false_eq_true]
  have first := parseSdpBody_lines session.some session.anchored short video fresh
    (nowhere_of_free (by decide) (by decide) session.noAudio)
  have second := parseSdpBody_lines some session.keptAnchored (kept ▸ keptShort) again fresh
    (nowhere_of_free (by decide) (by decide) session.keptNoAudio)
  have same : sessionOf body.kept info = sessionOf body.lines info := by
    rw [kept]
    exact sessionOf_keptAround inside info
  rw [same] at second
  refine ⟨_, bodyText body.kept, first, ?_, second⟩
  have fits := session.fits
  rw [text] at fits ⊢
  exact sdpInfo2BodyString_lines printed session.short fits

theorem preserved_of_bare {lines : List SdpLine} {noVideo : ∀ line ∈ lines, ¬ line.Names "video".toList}
    (session : (SdpBody.bare lines noVideo).SessionForwardable) (free : Free "m=video".toList lines)
    (keptFree : Free "m=video".toList (SdpBody.bare lines noVideo).kept) :
    (SdpBody.bare lines noVideo).Preserved := by
  have kept : (SdpBody.bare lines noVideo).kept = keptAround lines [] := by
    rw [keptAround, List.append_nil]
    rfl
  apply @preserved_of_sections _ [] .zero session kept nofun rfl
  · exact parseMediaSdpBody_missing (nowhere_of_free (by decide) (by decide) free)
  · exact parseMediaSdpBody_missing (nowhere_of_free (by decide) (by decide) keptFree)
  · exact if_neg Nat.zero_ne_one

theorem preserved_of_video {body : MediaBody "video".toList}
    (session : (SdpBody.video body).SessionForwardable) (section_ : body.SectionForwardable) :
    (SdpBody.video body).Preserved := by
  have kept : (SdpBody.video body).kept = _ := body.kept_lines
  have text : bodyText (body.keptMedia :: (directionLine body.direction ++ body.keptAttrs)) =
      'm' :: '=' :: mediaValue body.port body.proto body.types ++ ['\r', '\n'] ++
        dirString body.direction ++ attrText body.others := by
    have attrs := bodyText_attrs (fun line (member : line ∈ body.keptAttrs) =>
      letter_of_keptAttrs body member)
    rw [bodyText_cons, bodyText_append, dirString_eq, attrs, body.map_keptAttrs]
    simp only [MediaBody.keptMedia, List.append_assoc, List.cons_append, List.nil_append]
  obtain ⟨paired, some, few⟩ := MediaBody.length_types section_
  have fits : ('m' :: '=' :: mediaValue body.port body.proto body.types ++ ['\r', '\n'] ++
      dirString body.direction ++ attrText body.others).length < 1024 := by
    have whole := session.fits
    rw [kept, keptAround, bodyText_append, bodyText_append, List.length_append,
      List.length_append, text] at whole
    omega
  apply @preserved_of_sections _ _ body.info session kept letter_of_middle rfl
  · exact congrArg Prod.snd (MediaBody.parse_info section_)
  · exact congrArg Prod.snd (MediaBody.parse_kept section_)
  · rw [text]
    exact (if_pos rfl).trans (mediaInfo2String_section some few paired section_.attrsFit
      section_.mediaFits fits)

/-- What is forwarded right is preserved. -/
theorem sdp_forwarded {body : SdpBody} (forwardable : body.Forwardable) : body.Preserved := by
  obtain ⟨session, media⟩ := forwardable
  cases body with
  | bare lines noVideo => exact preserved_of_bare session media.1 media.2
  | video body => exact preserved_of_video session media

theorem videoBody_session : (SdpBody.video videoBody).SessionForwardable := by
  have checked : (∀ letter ∈ sessionLetters, Anchored letter (SdpBody.video videoBody).lines) ∧
      (∀ letter ∈ sessionLetters, Anchored letter (SdpBody.video videoBody).kept) ∧
      Free "m=audio".toList (SdpBody.video videoBody).lines ∧
      Free "m=audio".toList (SdpBody.video videoBody).kept ∧
      (∀ letter ∈ sessionLetters, letter ≠ 't' →
        (fieldOf letter (SdpBody.video videoBody).lines).length + 4 < sipuaStringLineLen) ∧
      (fieldOf 't' (SdpBody.video videoBody).lines).length < sipuaStringLineLen ∧
      (bodyText (SdpBody.video videoBody).kept).length < 1024 := by
    unfold Anchored Free
    decide +kernel
  obtain ⟨anchored, keptAnchored, noAudio, keptNoAudio, short, timed, fits⟩ := checked
  exact ⟨List.cons_ne_nil _ _, anchored, keptAnchored, noAudio, keptNoAudio, short, timed, fits⟩

theorem videoBody_section : videoBody.SectionForwardable := by
  have lines : videoBody.keptInside = listAttributes := rfl
  have checked : (videoBody.others.length + 3 = videoBody.pieces.length ∧
      (∀ attr ∈ videoBody.others, attr.length + 4 < sipuaStringLineLen) ∧
      videoBody.keptMedia.value.length < sipuaStringLineLen) ∧
      Free "m=video".toList (keptBefore videoBody.lines) ∧
      (∀ line ∈ videoBody.keptInside, ∀ offset < line.value.length,
        ¬ Occurs line.value ['a', '='] offset) := by
    unfold Free
    decide +kernel
  obtain ⟨⟨counted, attrsFit, mediaFits⟩, first, free⟩ := checked
  refine ⟨videoBody_readable, counted, attrsFit, mediaFits, first, free, ?_⟩
  rw [lines]
  exact ⟨by decide +kernel, by decide +kernel, by decide +kernel, trivial⟩

theorem videoBody_preserved : (SdpBody.video videoBody).Preserved :=
  sdp_forwarded ⟨videoBody_session, videoBody_section⟩

/-- A body with both sections comes back with the video section twice. -/
theorem bothBody_not_preserved : ¬ (SdpBody.video bothBody).Preserved := by
  have ports : ∀ again ∈ sdpInfo2BodyString (parseSdpBody (SdpBody.video bothBody).text
      (SdpBody.video bothBody).text.length .zero).2,
        (parseSdpBody again again.length .zero).2.sAudioMediaInfo.port ≠
          (parseSdpBody (SdpBody.video bothBody).text
            (SdpBody.video bothBody).text.length .zero).2.sAudioMediaInfo.port := by
    decide +kernel
  rintro ⟨info, again, first, printed, second⟩
  rw [first] at ports
  apply ports again printed
  rw [second]

end Gb28181.SipUA
