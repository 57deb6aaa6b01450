import Gb28181.Lib.Appending
import Gb28181.SipUA.Sdp

/-! What the printing functions of `SipUA.cpp` write, and when it fits their buffers. -/

namespace Gb28181.SipUA

open Gb28181.Lib

variable {size : Nat} {text out : Text} {letter : Char} {name : String} {value : Text}

theorem printed_eq_some : printed size text = some out ↔ text.length < size ∧ out = text := by
  unfold printed
  split
  case isTrue fits => exact ⟨fun same => ⟨fits, (Option.some.inj same).symm⟩, fun right => right.2 ▸ rfl⟩
  case isFalse long => exact iff_of_false nofun (fun right => long right.1)

theorem printed_appends (part : Text) : Appends size (fun text => printed size (text ++ part)) True part := by
  intro text room result
  rw [printed_eq_some, true_and]

/-- The line of a field, if it has a value. -/
def fieldText (letter : Char) (value : Text) : Text :=
  if value = [] then [] else letter :: '=' :: value ++ ['\r', '\n']

theorem strcatSdpLine_appends (named : name.toList = [letter]) (value : Text) :
    Appends 1024 (strcatSdpLine · name value) (value.length + 4 < sipuaStringLineLen)
      (fieldText letter value) := by
  intro text room result
  dsimp only
  by_cases empty : value = []
  · have short : value.length + 4 < sipuaStringLineLen := by
      rw [empty]
      decide
    rw [strcatSdpLine, if_pos empty, fieldText, if_pos empty, List.append_nil, Option.some.injEq]
    exact ⟨fun same => ⟨short, room, same.symm⟩, fun right => right.2.2.symm⟩
  · have line : name.toList ++ "=".toList ++ value ++ "\r\n".toList =
        letter :: '=' :: value ++ ['\r', '\n'] := by
      rw [named]
      rfl
    have length : (letter :: '=' :: value ++ ['\r', '\n']).length = value.length + 4 := by
      simp only [List.length_append, List.length_cons, List.length_nil]
    rw [strcatSdpLine, if_neg empty, fieldText, if_neg empty, line]
    generalize letter :: '=' :: value ++ ['\r', '\n'] = szSdpLine at length ⊢
    rw [← length, Option.bind_eq_bind, Option.bind_eq_some_iff]
    constructor
    · rintro ⟨_, line, written⟩
      obtain ⟨short, rfl⟩ := printed_eq_some.mp line
      exact ⟨short, printed_eq_some.mp written⟩
    · rintro ⟨short, written⟩
      exact ⟨szSdpLine, printed_eq_some.mpr ⟨short, rfl⟩, printed_eq_some.mpr written⟩

/-- The payload types as they are written, the last one with the line end. -/
def typeList : List Int → Text
  | [] => []
  | type :: types => decimal type ++ (if types = [] then ['\r', '\n'] else [' ']) ++ typeList types

def attrText (attrs : List Text) : Text := attrs.flatMap (fun attr => 'a' :: '=' :: attr ++ ['\r', '\n'])

variable {info : MediaInfo} {types : List Int} {attrs : List Text} {left i : Nat}
  {szAttrList szAttrs pszStreamType : Text}

/-- The first slots of a section hold these payload types and attribute lines. -/
structure MediaInfo.Slots (info : MediaInfo) (types : List Int) (attrs : List Text) : Prop where
  count : info.iAttrCount = types.length
  paired : attrs.length = types.length
  slot : ∀ index (inside : index < types.length) (filled : index < attrs.length),
    index < sdpMediaAttrMaxCount → info.sAttr[index]? = some ⟨types[index], attrs[index]⟩

/-- The loop reads behind `sAttr` where there are too many payload types. -/
theorem attrStrings_none (many : sdpMediaAttrMaxCount < i + left) (inside : i ≤ sdpMediaAttrMaxCount) :
    attrStrings info left i szAttrList szAttrs = none := by
  induction left generalizing i szAttrList szAttrs with
  | zero => exact absurd many (not_lt.mpr inside)
  | succ left ih =>
    rw [attrStrings, Option.bind_eq_bind, Option.bind_eq_none_iff]
    intro attr read
    have below : i < sdpMediaAttrMaxCount := by
      by_contra beyond
      rw [Vector.getElem?_eq_none (not_lt.mp beyond)] at read
      exact nomatch read
    simp only [Option.bind_eq_bind, Option.bind_eq_none_iff]
    intro _ _ _ _ _ _
    exact ih (by omega) below

/-- The loop writes the payload types and the attribute lines that are left. -/
theorem attrStrings_eq_some (slots : info.Slots types attrs)
    (few : types.length ≤ sdpMediaAttrMaxCount) (rest : i + left = types.length)
    (listRoom : szAttrList.length < 256) (attrsRoom : szAttrs.length < 1024) {result : Text × Text} :
    attrStrings info left i szAttrList szAttrs = some result ↔
      (∀ attr ∈ attrs.drop i, attr.length + 4 < sipuaStringLineLen) ∧
        (szAttrList ++ typeList (types.drop i)).length < 256 ∧
        (szAttrs ++ attrText (attrs.drop i)).length < 1024 ∧
        result = (szAttrList ++ typeList (types.drop i), szAttrs ++ attrText (attrs.drop i)) := by
  have paired := slots.paired
  induction left generalizing i szAttrList szAttrs with
  | zero =>
    rw [List.drop_eq_nil_of_le (by omega), List.drop_eq_nil_of_le (by omega), attrStrings, typeList,
      attrText, List.flatMap_nil, List.append_nil, List.append_nil, Option.some.injEq]
    exact ⟨fun same => ⟨nofun, listRoom, attrsRoom, same.symm⟩, fun right => right.2.2.2.symm⟩
  | succ left ih =>
    have inside : i < types.length := by omega
    have filled : i < attrs.length := by omega
    have last : (i = info.iAttrCount - 1) = (types.drop (i + 1) = []) := by
      rw [List.drop_eq_nil_iff, slots.count, eq_iff_iff]
      omega
    have separator : (if i = info.iAttrCount - 1 then "\r\n".toList else " ".toList) =
        if types.drop (i + 1) = [] then ['\r', '\n'] else [' '] := by
      simp only [last]
      rfl
    have aLine : "a=".toList ++ attrs[i] ++ "\r\n".toList = 'a' :: '=' :: attrs[i] ++ ['\r', '\n'] := rfl
    have size : ('a' :: '=' :: attrs[i] ++ ['\r', '\n']).length = attrs[i].length + 4 := by
      simp only [List.length_append, List.length_cons, List.length_nil]
    rw [List.drop_eq_getElem_cons inside, List.drop_eq_getElem_cons filled, typeList, attrText,
      List.flatMap_cons, ← attrText, attrStrings, slots.slot i inside filled (by omega), separator,
      List.forall_mem_cons, ← size]
    generalize (if types.drop (i + 1) = [] then ['\r', '\n'] else [' ']) = ending
    simp only [Option.bind_eq_bind, Option.bind_some, aLine]
    generalize 'a' :: '=' :: attrs[i] ++ ['\r', '\n'] = szALine
    rw [← List.append_assoc, ← List.append_assoc, ← List.append_assoc]
    simp only [Option.bind_eq_some_iff, printed_eq_some]
    constructor
    · rintro ⟨_, ⟨list, rfl⟩, _, ⟨line, rfl⟩, _, ⟨written, rfl⟩, loop⟩
      obtain ⟨short, whole⟩ := (ih (by omega) list written).mp loop
      exact ⟨⟨line, short⟩, whole⟩
    · rintro ⟨⟨line, short⟩, whole⟩
      have list : (szAttrList ++ decimal types[i] ++ ending).length < 256 := by
        have all := whole.1
        rw [List.length_append] at all
        exact Nat.lt_of_le_of_lt (Nat.le_add_right ..) all
      have written : (szAttrs ++ szALine).length < 1024 := by
        have all := whole.2.1
        rw [List.length_append] at all
        exact Nat.lt_of_le_of_lt (Nat.le_add_right ..) all
      exact ⟨_, ⟨list, rfl⟩, _, ⟨line, rfl⟩, _, ⟨written, rfl⟩, (ih (by omega) list written).mpr
        ⟨short, whole⟩⟩

/-- The media line up to the payload types. -/
def mediaHead (pszStreamType : Text) (port : Int) (szProto : Text) : Text :=
  "m=".toList ++ pszStreamType ++ " ".toList ++ decimal port ++ " ".toList ++ szProto ++ " ".toList

def mediaText (pszStreamType : Text) (info : MediaInfo) (types : List Int) (attrs : List Text) : Text :=
  mediaHead pszStreamType info.port info.szProto ++ typeList types ++ dirString info.eDir ++
    attrText attrs

theorem mediaInfo2String_eq (info : MediaInfo) (pszStreamType : Text) :
    mediaInfo2String info pszStreamType = (do
      let szMLine ← printed 256 (mediaHead pszStreamType info.port info.szProto)
      let (szAttrList, szAttrs) ← attrStrings info info.iAttrCount 0 [] []
      let szMLine ← printed 256 (szMLine ++ szAttrList)
      printed 1024 (szMLine ++ dirString info.eDir ++ szAttrs)) := rfl

/-- A section is written exactly if it has no more payload types than slots and fits. -/
theorem mediaInfo2String_eq_some (slots : info.Slots types attrs) :
    mediaInfo2String info pszStreamType = some out ↔
      types.length ≤ sdpMediaAttrMaxCount ∧
        (∀ attr ∈ attrs, attr.length + 4 < sipuaStringLineLen) ∧
        (mediaHead pszStreamType info.port info.szProto ++ typeList types).length < 256 ∧
        (mediaText pszStreamType info types attrs).length < 1024 ∧
        out = mediaText pszStreamType info types attrs := by
  rw [mediaInfo2String_eq, mediaText]
  generalize mediaHead pszStreamType info.port info.szProto = head
  by_cases few : types.length ≤ sdpMediaAttrMaxCount
  · have loop := @attrStrings_eq_some _ _ _ types.length 0 [] [] slots few (Nat.zero_add _)
      (by decide) (by decide)
    rw [List.drop_zero, List.drop_zero, List.nil_append, List.nil_append, ← slots.count] at loop
    simp only [Option.bind_eq_bind, Option.bind_eq_some_iff, printed_eq_some, loop]
    constructor
    · rintro ⟨_, ⟨-, rfl⟩, _, ⟨short, -, -, rfl⟩, _, ⟨line, rfl⟩, whole, rfl⟩
      exact ⟨few, short, line, whole, rfl⟩
    · rintro ⟨-, short, line, whole, rfl⟩
      have sizes : head.length < 256 ∧ (typeList types).length < 256 ∧ (attrText attrs).length < 1024 := by
        simp only [List.length_append] at line whole
        omega
      exact ⟨head, ⟨sizes.1, rfl⟩, _, ⟨short, sizes.2.1, sizes.2.2, rfl⟩, _, ⟨line, rfl⟩, whole, rfl⟩
  · have many := @attrStrings_none info types.length 0 [] [] (by omega) (Nat.zero_le _)
    rw [slots.count, many]
    refine iff_of_false ?_ (fun right => few right.1)
    simp only [Option.bind_eq_bind, Option.bind_none, Option.bind_eq_some_iff]
    rintro ⟨_, _, ⟨⟩⟩

def SdpInfo.szTimeLine (info : SdpInfo) : Text :=
  decimal info.i64TimeBegin ++ " ".toList ++ decimal info.i64TimeEnd

/-- What the lines in front of the sections hold, and those behind them. -/
def SdpInfo.fieldsBefore (info : SdpInfo) : List (Char × Text) :=
  [('v', info.szVersion), ('o', info.szOrigin), ('s', info.szSessionName), ('u', info.szUri),
    ('c', info.szConnection), ('t', info.szTimeLine)]

def SdpInfo.fieldsAfter (info : SdpInfo) : List (Char × Text) :=
  [('y', info.szY), ('f', info.szF), ('x', info.szX)]

def fieldTexts (fields : List (Char × Text)) : Text :=
  fields.flatMap (fun field => fieldText field.1 field.2)

theorem timeLine_appends (szTimeLine : Text) :
    Appends 1024 (fun body => (printed sipuaStringLineLen szTimeLine).bind (strcatSdpLine body "t"))
      (szTimeLine.length + 4 < sipuaStringLineLen) (fieldText 't' szTimeLine) := by
  intro body room result
  have line := @strcatSdpLine_appends 't' "t" rfl szTimeLine body room result
  rw [← line, Option.bind_eq_some_iff]
  constructor
  · rintro ⟨_, fits, written⟩
    obtain ⟨-, rfl⟩ := printed_eq_some.mp fits
    exact written
  · intro written
    have short := (line.mp written).1
    exact ⟨szTimeLine, printed_eq_some.mpr ⟨by omega, rfl⟩, written⟩

theorem bodyLines_appends (info : SdpInfo) (media : Text) :
    Appends 1024
      (fun body => do
        let body ← strcatSdpLine body "v" info.szVersion
        let body ← strcatSdpLine body "o" info.szOrigin
        let body ← strcatSdpLine body "s" info.szSessionName
        let body ← strcatSdpLine body "u" info.szUri
        let body ← strcatSdpLine body "c" info.szConnection
        let szTimeLine ← printed sipuaStringLineLen info.szTimeLine
        let body ← strcatSdpLine body "t" szTimeLine
        let body ← printed 1024 (body ++ media)
        let body ← strcatSdpLine body "y" info.szY
        let body ← strcatSdpLine body "f" info.szF
        strcatSdpLine body "x" info.szX)
      (∀ field ∈ info.fieldsBefore ++ info.fieldsAfter, field.2.length + 4 < sipuaStringLineLen)
      (fieldTexts info.fieldsBefore ++ media ++ fieldTexts info.fieldsAfter) := by
  have after := (@strcatSdpLine_appends 'y' "y" rfl info.szY).bind
    ((@strcatSdpLine_appends 'f' "f" rfl info.szF).bind (@strcatSdpLine_appends 'x' "x" rfl info.szX))
  have before := (@strcatSdpLine_appends 'v' "v" rfl info.szVersion).bind
    ((@strcatSdpLine_appends 'o' "o" rfl info.szOrigin).bind
      ((@strcatSdpLine_appends 's' "s" rfl info.szSessionName).bind
        ((@strcatSdpLine_appends 'u' "u" rfl info.szUri).bind
          ((@strcatSdpLine_appends 'c' "c" rfl info.szConnection).bind
            (timeLine_appends info.szTimeLine)))))
  have whole := before.bind ((printed_appends media).bind after)
  have fits : (∀ field ∈ info.fieldsBefore ++ info.fieldsAfter,
      field.2.length + 4 < sipuaStringLineLen) ↔ _ := List.forall_mem_append
  have parts : fieldTexts info.fieldsBefore ++ media ++ fieldTexts info.fieldsAfter =
      fieldTexts info.fieldsBefore ++ (media ++ fieldTexts info.fieldsAfter) := List.append_assoc ..
  rw [propext fits, parts]
  simp only [SdpInfo.fieldsBefore, SdpInfo.fieldsAfter, fieldTexts, List.flatMap_cons, List.flatMap_nil,
    List.append_nil, List.forall_mem_cons, List.not_mem_nil, false_implies, implies_true, and_true]
  simp only [Option.bind_assoc, true_and] at whole
  exact whole

/-- A body is written exactly if its sections and its lines can be written, and it fits. -/
theorem sdpInfo2BodyString_eq_some {info : SdpInfo} : sdpInfo2BodyString info = some out ↔
    ∃ video audio, mediaLine info.sVideoMediaInfo info.sVideoMediaInfo "video".toList = some video ∧
      mediaLine info.sAudioMediaInfo info.sVideoMediaInfo "audio".toList = some audio ∧
      (∀ field ∈ info.fieldsBefore ++ info.fieldsAfter, field.2.length + 4 < sipuaStringLineLen) ∧
      (fieldTexts info.fieldsBefore ++ (video ++ audio) ++ fieldTexts info.fieldsAfter).length < 1024 ∧
      out = fieldTexts info.fieldsBefore ++ (video ++ audio) ++ fieldTexts info.fieldsAfter := by
  have body := fun media => @Appends.eq_some_iff _ _ _ _ _ (bodyLines_appends info media) (by decide) out
  unfold sdpInfo2BodyString
  rw [← SdpInfo.szTimeLine]
  constructor
  · intro written
    obtain ⟨video, hasVideo, written⟩ := Option.bind_eq_some_iff.mp written
    obtain ⟨audio, hasAudio, written⟩ := Option.bind_eq_some_iff.mp written
    exact ⟨video, audio, hasVideo, hasAudio, (body _).mp written⟩
  · rintro ⟨video, audio, hasVideo, hasAudio, written⟩
    rw [hasVideo, hasAudio]
    exact (body _).mpr written

end Gb28181.SipUA
