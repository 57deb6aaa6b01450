import Gb28181.Lib.Lines
import Gb28181.SipUA.Sdp

namespace Gb28181.SipUA

open Gb28181.Lib

structure SdpLine where
  letter : Char
  value : Text
  plain : IsLine (letter :: '=' :: value)

def SdpLine.text (line : SdpLine) : Text := line.letter :: '=' :: line.value

def bodyText (lines : List SdpLine) : Text := joinLines (lines.map SdpLine.text)

def SdpLine.Names (mediaType : Text) (line : SdpLine) : Prop :=
  line.letter = 'm' ∧ mediaType ++ [' '] <+: line.value

/-- An SDP body with the section of a media type, the only one of that type. -/
structure MediaBody (mediaType : Text) where
  before : List SdpLine
  media : SdpLine
  inside : List SdpLine
  after : List SdpLine
  named : media.Names mediaType
  single : ∀ line ∈ before ++ inside ++ after, ¬ line.Names mediaType
  within : ∀ line ∈ inside, line.letter ≠ 'm'
  ends : ∀ line ∈ after.head?, line.letter = 'm'

def attributes (lines : List SdpLine) : List Text :=
  (lines.filter (·.letter = 'a')).map SdpLine.value

def directionNamed (attr : Text) : Option TransDir :=
  if attr = "sendonly".toList then some .sendonly
  else if attr = "recvonly".toList then some .recvonly
  else if attr = "sendrecv".toList then some .sendrecv
  else if attr = "inactive".toList then some .inactive
  else none

def directionWords : List Text :=
  ["sendonly".toList, "recvonly".toList, "sendrecv".toList, "inactive".toList]

def otherAttributes (attrs : List Text) : List Text :=
  attrs.filter (fun attr => (directionNamed attr).isNone)

def lastDirection (attrs : List Text) : Option TransDir :=
  (attrs.filterMap directionNamed).getLast?

/-- The attribute lines with the offsets at which they begin. -/
def attrLines (start : Nat) : List SdpLine → List (Nat × Text)
  | [] => []
  | line :: lines =>
    let rest := attrLines (start + line.value.length + 4) lines
    if line.letter = 'a' then (start, line.value) :: rest else rest

/-- No `a=` stands between the place where the search for a line begins and the line, and none
behind the place where the last search begins. A search begins as many characters behind the
one before as the line found by that one has. -/
def LagClear (text : Text) : Nat → List (Nat × Text) → Prop
  | begin, [] => ∀ offset < text.length, begin ≤ offset → ¬ Occurs text ['a', '='] offset
  | begin, (start, value) :: rest =>
    (∀ offset < start, begin ≤ offset → ¬ Occurs text ['a', '='] offset) ∧
      LagClear text (begin + 2 + value.length) rest

def decideLagClear (text : Text) : ∀ begin lines, Decidable (LagClear text begin lines)
  | begin, [] => inferInstanceAs
      (Decidable (∀ offset < text.length, begin ≤ offset → ¬ Occurs text ['a', '='] offset))
  | begin, (start, value) :: rest =>
    have := decideLagClear text (begin + 2 + value.length) rest
    inferInstanceAs (Decidable ((∀ offset < start, begin ≤ offset →
      ¬ Occurs text ['a', '='] offset) ∧ LagClear text (begin + 2 + value.length) rest))

instance (text : Text) (begin : Nat) (lines : List (Nat × Text)) :
    Decidable (LagClear text begin lines) := decideLagClear text begin lines

section Sections

variable {mediaType : Text} (body : MediaBody mediaType)

def MediaBody.lines : List SdpLine := body.before ++ body.media :: (body.inside ++ body.after)

def MediaBody.text : Text := bodyText body.lines

def MediaBody.start : Nat := (bodyText body.before).length

/-- What follows the media line, from its line end on. -/
def MediaBody.behind : Text := '\r' :: '\n' :: bodyText (body.inside ++ body.after)

/-- The section is read: the pieces of its media line, its other attributes as far as there is
room, and its last direction. -/
structure MediaBody.Parsed (info : MediaInfo) (result : Int × MediaInfo) : Prop where
  returned : result.1 = 0
  used : result.2.ucUseFlag = 1
  mediaLine : ∃ name port proto, ∃ types : List Text,
    splitString body.media.value ' ' = name :: port :: proto :: types ∧
      result.2.port = atoi port ∧ result.2.szProto = proto ∧
      result.2.iAttrCount = types.length ∧
      ∀ (index : Nat) (type : Text), types[index]? = some type →
        result.2.sAttr[index]?.map MediaAttr.ePayloadType = some (atoi type)
  attrs : ∀ index (inRange : index < sdpMediaAttrMaxCount),
    result.2.sAttr[index].szAttrLine =
      (otherAttributes (attributes body.inside))[index]?.getD info.sAttr[index].szAttrLine
  direction : result.2.eDir = (lastDirection (attributes body.inside)).getD info.eDir

/-- The section is found, fits, and no search for its attributes goes astray. -/
structure MediaBody.Readable : Prop where
  headed : body.before ≠ []
  first : ∀ offset < body.start, ¬ Occurs body.text ('m' :: '=' :: mediaType) offset
  fits : body.media.value.length < sipuaStringLineLen
  pieces : 4 ≤ (splitString body.media.value ' ').length ∧
    (splitString body.media.value ' ').length ≤ sdpMediaAttrMaxCount + 3
  short : ∀ attr ∈ attributes body.inside, attr.length < sipuaStringLineLen
  apart : ∀ attr ∈ attributes body.inside, ∀ word ∈ directionWords, attr <+: word → attr = word
  clear : LagClear body.behind 0 (attrLines 2 body.inside)

end Sections

variable {text pos content : Text} {contents : List Text} {info : MediaInfo}

theorem lt_length_of_occurs {char : Char} {name : Text} {offset : Nat}
    (occurs : Occurs text (char :: name) offset) : offset < text.length := by
  apply Nat.lt_of_not_le
  intro beyond
  rw [Occurs, List.drop_eq_nil_of_le beyond] at occurs
  exact List.cons_ne_nil _ _ (List.prefix_nil.mp occurs)

/-- The loop finds these contents, one after the other. -/
inductive Scans : Text → List Text → Prop where
  | done {pos : Text} (nowhere : ∀ offset, ¬ Occurs pos ['a', '='] offset) : Scans pos []
  | found {pos content rest : Text} {contents : List Text} {offset : Nat}
      (first : strstr pos ['a', '='] = some offset)
      (line : pos.drop (offset + 2) = content ++ '\r' :: '\n' :: rest) (plain : IsLine content)
      (short : content.length < sipuaStringLineLen)
      (next : Scans (pos.drop (2 + content.length)) contents) : Scans pos (content :: contents)

def storeAttr (stored : MediaInfo × Nat) (szAttrLine : Text) : MediaInfo × Nat :=
  storeAttrLine szAttrLine szAttrLine.length stored.1 stored.2

theorem getLineContent_missing {pszLineName : Text} {iMaxContentLen : Nat}
    (nowhere : ∀ offset, ¬ Occurs pos pszLineName offset) :
    getLineContent pos pszLineName iMaxContentLen = ⟨-1, [], 0⟩ := by
  unfold getLineContent
  rw [strstr_eq_none nowhere]

theorem takeWhile_content {rest : Text} (plain : IsLine content) :
    (content ++ '\r' :: '\n' :: rest).takeWhile (!isLineEnd ·) = content := by
  rw [List.takeWhile_append_of_pos]
  · exact List.append_nil _
  · intro char member
    obtain ⟨noReturn, noFeed, -⟩ := plain char member
    simp only [isLineEnd, noReturn, noFeed, decide_false, Bool.or_self, Bool.not_false]

theorem getLineContent_found {pszLineName rest : Text} {iMaxContentLen offset : Nat}
    (first : strstr pos pszLineName = some offset)
    (line : pos.drop (offset + pszLineName.length) = content ++ '\r' :: '\n' :: rest)
    (plain : IsLine content) (short : content.length < iMaxContentLen) :
    getLineContent pos pszLineName iMaxContentLen =
      ⟨pszLineName.length + content.length, content, content.length⟩ := by
  unfold getLineContent
  rw [first]
  dsimp only
  rw [line, takeWhile_content plain, if_pos short]

theorem attrLoop_done {iMaxInLen iPosLen : Int} {rounds iAttrIndex : Nat}
    (nowhere : ∀ offset, ¬ Occurs pos ['a', '='] offset) :
    attrLoop iMaxInLen rounds pos iPosLen iAttrIndex info = info := by
  induction rounds generalizing pos iPosLen with
  | zero => cases pos <;> rfl
  | succ rounds ih =>
    cases pos with
    | nil => rfl
    | cons char rest =>
      have later : ∀ offset, ¬ Occurs rest ['a', '='] offset :=
        fun offset occurs => nowhere (offset + 1) (occurs_succ.mpr occurs)
      have missing : ¬ (-1 : Int) > 0 := by decide
      unfold attrLoop
      dsimp only
      rw [show "a=".toList = ['a', '='] from rfl, getLineContent_missing nowhere]
      dsimp only
      rw [if_neg missing, if_neg missing]
      split
      · rfl
      · exact ih later

theorem attrLoop_found {iPosLen : Int} {rounds iAttrIndex offset : Nat} {rest : Text}
    (first : strstr pos ['a', '='] = some offset)
    (line : pos.drop (offset + 2) = content ++ '\r' :: '\n' :: rest) (plain : IsLine content)
    (short : content.length < sipuaStringLineLen) :
    attrLoop (iPosLen + pos.length) (rounds + 1) pos iPosLen iAttrIndex info =
      attrLoop (iPosLen + pos.length) rounds (pos.drop (2 + content.length))
        (iPosLen + (2 + content.length : Nat)) (storeAttr (info, iAttrIndex) content).2
        (storeAttr (info, iAttrIndex) content).1 := by
  have length := congrArg List.length line
  rw [List.length_drop, List.length_append, List.length_cons, List.length_cons] at length
  have content_eq : getLineContent pos "a=".toList sipuaStringLineLen =
      ⟨((2 : Nat) : Int) + content.length, content, content.length⟩ :=
    getLineContent_found first line plain short
  have found : ((2 : Nat) : Int) + content.length > 0 := by omega
  have moved : (((2 : Nat) : Int) + content.length).toNat = 2 + content.length := by omega
  have inside : ¬ iPosLen + ((2 + content.length : Nat) : Int) ≥ iPosLen + pos.length := by omega
  cases pos with
  | nil => exact absurd length (by rw [List.length_nil]; omega)
  | cons char pos =>
    rw [attrLoop.eq_3, content_eq]
    dsimp only
    rw [if_pos found, if_pos found, moved, if_neg inside]
    rfl

theorem attrLoop_spec {rounds iAttrIndex : Nat} {iPosLen : Int} (scans : Scans pos contents)
    (enough : pos.length ≤ rounds) :
    attrLoop (iPosLen + pos.length) rounds pos iPosLen iAttrIndex info =
      (contents.foldl storeAttr (info, iAttrIndex)).1 := by
  induction scans generalizing rounds iAttrIndex iPosLen info with
  | done nowhere => exact attrLoop_done nowhere
  | @found pos content rest contents offset first line plain short next ih =>
    have length := congrArg List.length line
    rw [List.length_drop, List.length_append, List.length_cons, List.length_cons] at length
    obtain ⟨rounds, rfl⟩ : ∃ fewer, rounds = fewer + 1 := ⟨rounds - 1, by omega⟩
    have behind : (pos.drop (2 + content.length)).length ≤ rounds := by
      rw [List.length_drop]
      omega
    have limit : iPosLen + pos.length = iPosLen + ((2 + content.length : Nat) : Int) +
        (pos.drop (2 + content.length)).length := by
      rw [List.length_drop]
      omega
    rw [attrLoop_found first line plain short, limit, ih behind]
    rfl

theorem getLineContent_taken {pszLineName : Text} {iMaxContentLen : Nat}
    (taken : (getLineContent pos pszLineName iMaxContentLen).ret > 0) :
    (getLineContent pos pszLineName iMaxContentLen).iContentLen =
        (getLineContent pos pszLineName iMaxContentLen).szContent.length ∧
      (getLineContent pos pszLineName iMaxContentLen).szContent.length < iMaxContentLen := by
  revert taken
  unfold getLineContent
  split
  · exact fun taken => absurd taken (by decide)
  · dsimp only
    split
    · rename_i short
      exact fun _ => ⟨rfl, short⟩
    · exact fun taken => absurd (show (-1 : Int) > 0 from taken) (by decide)

/-- What every line that is taken keeps, the loop keeps. -/
theorem attrLoop_keeps {Kept : MediaInfo → Prop} {iMaxInLen iPosLen : Int} {rounds iAttrIndex : Nat}
    (step : ∀ info index (line : Text), line.length < sipuaStringLineLen → Kept info →
      Kept (storeAttrLine line line.length info index).1)
    (start : Kept info) : Kept (attrLoop iMaxInLen rounds pos iPosLen iAttrIndex info) := by
  induction rounds generalizing pos iPosLen iAttrIndex info with
  | zero => cases pos <;> exact start
  | succ rounds ih =>
    cases pos with
    | nil => exact start
    | cons char rest =>
      rw [attrLoop.eq_3]
      generalize looked : getLineContent (char :: rest) "a=".toList sipuaStringLineLen = line
      by_cases taken : line.ret > 0
      · rw [if_pos taken, if_pos taken]
        have stored : Kept (storeAttrLine line.szContent line.iContentLen info iAttrIndex).1 := by
          subst looked
          obtain ⟨length, short⟩ := getLineContent_taken taken
          rw [length]
          exact step _ _ _ short start
        split
        · exact stored
        · exact ih stored
      · rw [if_neg taken, if_neg taken]
        split
        · exact start
        · exact ih start

theorem parseMediaSdpBody_cases (info : MediaInfo) (pszInBuff : Text) (iMaxInLen : Int)
    (pszMediaType : Text) :
    parseMediaSdpBody info pszInBuff iMaxInLen pszMediaType = (-1, info) ∨
    parseMediaSdpBody info pszInBuff iMaxInLen pszMediaType = (-1, { info with ucUseFlag := 0 }) ∨
    ∃ line name port proto types rounds pos iPosLen,
      line.length < sipuaStringLineLen ∧ splitString line ' ' = name :: port :: proto :: types ∧
      types ≠ [] ∧ parseMediaSdpBody info pszInBuff iMaxInLen pszMediaType =
        (0, { attrLoop iMaxInLen rounds pos iPosLen 0
          (storePayloadTypes types { info with ucUseFlag := 0, port := atoi port, szProto := proto })
            with ucUseFlag := 1 }) := by
  unfold parseMediaSdpBody
  split
  · exact .inl rfl
  · refine .inr ?_
    dsimp only
    split
    · exact .inl rfl
    · exact .inl rfl
    · rename_i start _ _
      split
      · exact .inl rfl
      · rename_i taken
        obtain ⟨-, short⟩ := getLineContent_taken (Int.not_le.mp taken)
        split
        · rename_i name port proto type types pieces
          exact .inr ⟨_, name, port, proto, type :: types, _, _, _, short, pieces,
            List.cons_ne_nil _ _, rfl⟩
        · exact .inl rfl

theorem bodyText_cons (line : SdpLine) (lines : List SdpLine) :
    bodyText (line :: lines) = line.letter :: '=' :: line.value ++ '\r' :: '\n' :: bodyText lines :=
  joinLines_cons ..

theorem attributes_cons_attr {line : SdpLine} (attr : line.letter = 'a') (lines : List SdpLine) :
    attributes (line :: lines) = line.value :: attributes lines := by
  unfold attributes
  rw [List.filter_cons_of_pos, List.map_cons]
  exact decide_eq_true attr

theorem attributes_cons_other {line : SdpLine} (other : line.letter ≠ 'a') (lines : List SdpLine) :
    attributes (line :: lines) = attributes lines := by
  unfold attributes
  rw [List.filter_cons_of_neg]
  exact fun same => other (of_decide_eq_true same)

theorem drop_behind_line {line : SdpLine} {lines : List SdpLine} {tail : Text} {start : Nat}
    (stands : text.drop start = bodyText (line :: lines) ++ tail) :
    text.drop (start + line.value.length + 4) = bodyText lines ++ tail := by
  have split : text.drop start = (line.letter :: '=' :: line.value ++ ['\r', '\n']) ++
      (bodyText lines ++ tail) := by
    rw [stands, bodyText_cons]
    simp only [List.cons_append, List.append_assoc, List.nil_append]
  have length : start + line.value.length + 4 =
      start + (line.letter :: '=' :: line.value ++ ['\r', '\n']).length := by
    simp only [List.length_append, List.length_cons, List.length_nil]
    omega
  rw [length, ← List.drop_drop, split, List.drop_left]

/-- Where no search goes astray, the loop finds the attribute lines. -/
theorem scans_of_lagClear {lines : List SdpLine} {tail : Text} {begin start : Nat}
    (ahead : begin ≤ start) (stands : text.drop start = bodyText lines ++ tail)
    (short : ∀ attr ∈ attributes lines, attr.length < sipuaStringLineLen)
    (clear : LagClear text begin (attrLines start lines)) :
    Scans (text.drop begin) (attributes lines) := by
  induction lines generalizing begin start with
  | nil =>
    apply Scans.done
    intro offset occurs
    have there := occurs_drop.mp occurs
    exact clear (begin + offset) (lt_length_of_occurs there) (Nat.le_add_right ..) there
  | cons line lines ih =>
    have behind := drop_behind_line stands
    unfold attrLines at clear
    by_cases attr : line.letter = 'a'
    · dsimp only at clear
      rw [if_pos attr] at clear
      obtain ⟨before, next⟩ := clear
      rw [attributes_cons_attr attr] at short ⊢
      obtain ⟨here, there⟩ := List.forall_mem_cons.mp short
      have plain : IsLine line.value :=
        fun char member => line.plain char (List.mem_cons_of_mem _ (List.mem_cons_of_mem _ member))
      have first : strstr (text.drop begin) ['a', '='] = some (start - begin) := by
        apply strstr_eq_some
        · rw [occurs_drop, Nat.add_sub_cancel' ahead, Occurs, stands, bodyText_cons, attr]
          exact ⟨_, rfl⟩
        · intro earlier below occurs
          exact before _ (Nat.add_lt_of_lt_sub' below) (Nat.le_add_right ..) (occurs_drop.mp occurs)
      have found : (text.drop begin).drop (start - begin + 2) =
          line.value ++ '\r' :: '\n' :: (bodyText lines ++ tail) := by
        rw [List.drop_drop, ← Nat.add_assoc, Nat.add_sub_cancel' ahead, ← List.drop_drop, stands,
          bodyText_cons]
        simp only [List.cons_append, List.append_assoc, List.drop_succ_cons, List.drop_zero]
      apply Scans.found first found plain here
      rw [List.drop_drop, ← Nat.add_assoc]
      exact ih (by omega) behind there next
    · dsimp only at clear
      rw [if_neg attr] at clear
      rw [attributes_cons_other attr] at short ⊢
      exact ih (by omega) behind short clear

/-- A line that begins no direction without being it stands for the direction it is. -/
theorem directionOf_eq {attr : Text}
    (apart : ∀ word ∈ directionWords, attr <+: word → attr = word) :
    directionOf attr attr.length = directionNamed attr := by
  have compared : ∀ word ∈ directionWords, strncmpEq attr word attr.length = decide (attr = word) := by
    intro word member
    unfold strncmpEq
    rw [List.take_length, decide_eq_decide, ← List.prefix_iff_eq_take]
    exact ⟨apart word member, fun same => same ▸ List.prefix_rfl⟩
  obtain ⟨sendonly, recvonly, sendrecv, inactive, -⟩ : _ ∧ _ ∧ _ ∧ _ ∧ _ := by
    simpa only [directionWords, List.forall_mem_cons] using compared
  unfold directionOf directionNamed
  rw [sendonly, recvonly, sendrecv, inactive]
  simp only [decide_eq_true_eq]

/-- Sections that differ in their directions and attribute lines at most. -/
structure MediaInfo.Agrees (info other : MediaInfo) : Prop where
  szAddr : other.szAddr = info.szAddr
  port : other.port = info.port
  szProto : other.szProto = info.szProto
  iAttrCount : other.iAttrCount = info.iAttrCount
  payload : ∀ index (inRange : index < sdpMediaAttrMaxCount),
    other.sAttr[index].ePayloadType = info.sAttr[index].ePayloadType

theorem MediaInfo.Agrees.refl (info : MediaInfo) : info.Agrees info := by
  constructor <;> intros <;> rfl

theorem MediaInfo.Agrees.trans {first second third : MediaInfo} (earlier : first.Agrees second)
    (later : second.Agrees third) : first.Agrees third where
  szAddr := later.szAddr.trans earlier.szAddr
  port := later.port.trans earlier.port
  szProto := later.szProto.trans earlier.szProto
  iAttrCount := later.iAttrCount.trans earlier.iAttrCount
  payload := fun index inRange => (later.payload index inRange).trans (earlier.payload index inRange)

/-- An attribute line goes to the slot of its number, if there is one. -/
def MediaInfo.withLine (info : MediaInfo) (iAttrIndex : Nat) (szAttrLine : Text) : MediaInfo :=
  if index : iAttrIndex < sdpMediaAttrMaxCount then
    { info with
      sAttr := info.sAttr.set iAttrIndex { info.sAttr[iAttrIndex] with szAttrLine := szAttrLine } }
  else info

theorem MediaInfo.withLine_agrees (info : MediaInfo) (iAttrIndex : Nat) (szAttrLine : Text) :
    info.Agrees (info.withLine iAttrIndex szAttrLine) := by
  unfold MediaInfo.withLine
  split
  · refine ⟨rfl, rfl, rfl, rfl, ?_⟩
    intro index inRange
    rw [Vector.getElem_set]
    split
    · rename_i same
      subst same
      rfl
    · rfl
  · exact .refl info

theorem MediaInfo.withLine_eDir (info : MediaInfo) (iAttrIndex : Nat) (szAttrLine : Text) :
    (info.withLine iAttrIndex szAttrLine).eDir = info.eDir := by
  unfold MediaInfo.withLine
  split <;> rfl

theorem MediaInfo.withLine_line (info : MediaInfo) (iAttrIndex : Nat) (szAttrLine : Text)
    {index : Nat} (inRange : index < sdpMediaAttrMaxCount) :
    (info.withLine iAttrIndex szAttrLine).sAttr[index].szAttrLine =
      if index = iAttrIndex then szAttrLine else info.sAttr[index].szAttrLine := by
  unfold MediaInfo.withLine
  by_cases same : index = iAttrIndex
  · subst same
    rw [dif_pos inRange, if_pos rfl, Vector.getElem_set_self]
  · rw [if_neg same]
    split
    · rw [Vector.getElem_set_ne _ _ (Ne.symm same)]
    · rfl

variable {attr : Text} {attrs : List Text} {iAttrIndex : Nat}

theorem storeAttr_eq (apart : ∀ word ∈ directionWords, attr <+: word → attr = word)
    (info : MediaInfo) (iAttrIndex : Nat) :
    (∃ dir, directionNamed attr = some dir ∧
      storeAttr (info, iAttrIndex) attr = ({ info with eDir := dir }, iAttrIndex)) ∨
    (directionNamed attr = none ∧
      storeAttr (info, iAttrIndex) attr = (info.withLine iAttrIndex attr, iAttrIndex + 1)) := by
  unfold storeAttr storeAttrLine
  dsimp only
  rw [directionOf_eq apart]
  cases directionNamed attr with
  | some dir => exact .inl ⟨dir, rfl, rfl⟩
  | none =>
    refine .inr ⟨rfl, ?_⟩
    unfold MediaInfo.withLine
    dsimp only
    split <;> rfl

theorem lastDirection_cons_some {dir : TransDir} (named : directionNamed attr = some dir)
    (attrs : List Text) : lastDirection (attr :: attrs) = some ((lastDirection attrs).getD dir) := by
  unfold lastDirection
  rw [List.filterMap_cons_some named, List.getLast?_cons]

theorem lastDirection_cons_none (unnamed : directionNamed attr = none) (attrs : List Text) :
    lastDirection (attr :: attrs) = lastDirection attrs := by
  unfold lastDirection
  rw [List.filterMap_cons_none unnamed]

theorem otherAttributes_cons_some {dir : TransDir} (named : directionNamed attr = some dir)
    (attrs : List Text) : otherAttributes (attr :: attrs) = otherAttributes attrs := by
  unfold otherAttributes
  rw [List.filter_cons_of_neg]
  rw [named]
  exact Bool.false_ne_true

theorem otherAttributes_cons_none (unnamed : directionNamed attr = none) (attrs : List Text) :
    otherAttributes (attr :: attrs) = attr :: otherAttributes attrs := by
  unfold otherAttributes
  rw [List.filter_cons_of_pos]
  rw [unnamed]
  rfl

/-- What is stored of a list of attribute lines. -/
structure Stored (attrs : List Text) (info : MediaInfo) (iAttrIndex : Nat) (stored : MediaInfo) :
    Prop where
  agrees : info.Agrees stored
  direction : stored.eDir = (lastDirection attrs).getD info.eDir
  before : ∀ index (inRange : index < sdpMediaAttrMaxCount), index < iAttrIndex →
    stored.sAttr[index].szAttrLine = info.sAttr[index].szAttrLine
  behind : ∀ index (inRange : iAttrIndex + index < sdpMediaAttrMaxCount),
    stored.sAttr[iAttrIndex + index].szAttrLine =
      (otherAttributes attrs)[index]?.getD info.sAttr[iAttrIndex + index].szAttrLine

theorem foldl_storeAttr (apart : ∀ attr ∈ attrs, ∀ word ∈ directionWords, attr <+: word → attr = word) :
    Stored attrs info iAttrIndex (attrs.foldl storeAttr (info, iAttrIndex)).1 := by
  induction attrs generalizing info iAttrIndex with
  | nil => exact ⟨.refl info, rfl, fun _ _ _ => rfl, fun _ _ => rfl⟩
  | cons attr attrs ih =>
    obtain ⟨here, there⟩ := List.forall_mem_cons.mp apart
    rw [List.foldl_cons]
    rcases storeAttr_eq here info iAttrIndex with ⟨dir, named, step⟩ | ⟨unnamed, step⟩
    · rw [step]
      have rest := @ih { info with eDir := dir } iAttrIndex there
      constructor
      · exact ⟨rest.agrees.szAddr, rest.agrees.port, rest.agrees.szProto, rest.agrees.iAttrCount,
          rest.agrees.payload⟩
      · rw [lastDirection_cons_some named]
        exact rest.direction
      · exact rest.before
      · rw [otherAttributes_cons_some named]
        exact rest.behind
    · rw [step]
      have rest := @ih (info.withLine iAttrIndex attr) (iAttrIndex + 1) there
      constructor
      · exact (info.withLine_agrees iAttrIndex attr).trans rest.agrees
      · rw [lastDirection_cons_none unnamed, rest.direction, MediaInfo.withLine_eDir]
      · intro index inRange below
        rw [rest.before index inRange (Nat.lt_succ_of_lt below), MediaInfo.withLine_line,
          if_neg (Nat.ne_of_lt below)]
      · intro index inRange
        rw [otherAttributes_cons_none unnamed]
        cases index with
        | zero =>
          have own := rest.before iAttrIndex inRange (Nat.lt_succ_self _)
          rw [MediaInfo.withLine_line, if_pos rfl] at own
          exact own
        | succ index =>
          have shifted : iAttrIndex + (index + 1) = iAttrIndex + 1 + index := by omega
          have inRange' : iAttrIndex + 1 + index < sdpMediaAttrMaxCount := shifted ▸ inRange
          have later := rest.behind index inRange'
          rw [MediaInfo.withLine_line, if_neg (by omega)] at later
          simp only [shifted]
          rw [later]
          rfl

section Sections

variable {mediaType : Text} {body : MediaBody mediaType}

theorem MediaBody.text_eq (body : MediaBody mediaType) : body.text =
    bodyText body.before ++ ('m' :: '=' :: body.media.value ++ body.behind) := by
  have m := body.named.1
  unfold MediaBody.text MediaBody.lines
  rw [bodyText, List.map_append, joinLines_append, ← bodyText, ← bodyText, bodyText_cons, m]
  rfl

theorem MediaBody.drop_start (body : MediaBody mediaType) :
    body.text.drop body.start = 'm' :: '=' :: body.media.value ++ body.behind := by
  rw [body.text_eq]
  exact List.drop_left

theorem MediaBody.plain_value (body : MediaBody mediaType) : IsLine body.media.value :=
  fun char member => body.media.plain char (List.mem_cons_of_mem _ (List.mem_cons_of_mem _ member))

theorem MediaBody.strstr_start (readable : body.Readable) :
    strstr body.text ('m' :: '=' :: mediaType) = some body.start := by
  apply strstr_eq_some
  · obtain ⟨more, named⟩ := body.named.2
    rw [Occurs, body.drop_start, ← named]
    exact ⟨' ' :: more ++ body.behind, by simp only [List.append_assoc, List.cons_append,
      List.nil_append]⟩
  · exact readable.first

theorem MediaBody.start_pos (readable : body.Readable) : 0 < body.start := by
  unfold MediaBody.start
  cases before : body.before with
  | nil => exact absurd before readable.headed
  | cons line lines =>
    rw [bodyText_cons]
    exact Nat.succ_pos _

theorem MediaBody.scans (readable : body.Readable) : Scans body.behind (attributes body.inside) := by
  have stands : body.behind.drop 2 = bodyText body.inside ++ bodyText body.after := by
    unfold MediaBody.behind bodyText
    rw [List.map_append, joinLines_append]
    rfl
  exact scans_of_lagClear (Nat.zero_le 2) stands readable.short readable.clear

/-- The media information as the media line leaves it. -/
def mediaLined (info : MediaInfo) (port proto : Text) (types : List Text) : MediaInfo :=
  storePayloadTypes types { info with ucUseFlag := 0, port := atoi port, szProto := proto }

theorem parseMediaSdpBody_found {pszInBuff pszMediaType name port proto type : Text}
    {types : List Text} {iMaxInLen : Int} {before : Nat} {line : LineContent}
    (positive : ¬ iMaxInLen ≤ 0) (found : strstr pszInBuff pszMediaType = some (before + 1))
    (content : getLineContent (pszInBuff.drop (before + 1)) "m=".toList sipuaStringLineLen = line)
    (returned : ¬ line.ret ≤ 0)
    (pieces : splitString line.szContent ' ' = name :: port :: proto :: type :: types) :
    parseMediaSdpBody info pszInBuff iMaxInLen pszMediaType =
      (0, { attrLoop iMaxInLen ((pszInBuff.drop (before + 1)).drop line.ret.toNat).length
              ((pszInBuff.drop (before + 1)).drop line.ret.toNat)
              (((before + 1 : Nat) : Int) + line.ret) 0 (mediaLined info port proto (type :: types))
            with ucUseFlag := 1 }) := by
  unfold parseMediaSdpBody
  rw [if_neg positive, found]
  change (if (getLineContent (pszInBuff.drop (before + 1)) "m=".toList sipuaStringLineLen).ret ≤ 0
    then _ else _) = _
  rw [content, if_neg returned, pieces]
  rfl

theorem MediaBody.parse (readable : body.Readable) {name port proto : Text} {types : List Text}
    (pieces : splitString body.media.value ' ' = name :: port :: proto :: types)
    (info : MediaInfo) : ∃ stored,
      parseMediaSdpBody info body.text body.text.length ('m' :: '=' :: mediaType) =
        (0, { stored with ucUseFlag := 1 }) ∧
      Stored (attributes body.inside) (mediaLined info port proto types) 0 stored := by
  have found := strstr_start readable
  obtain ⟨before, start⟩ : ∃ before, body.start = before + 1 :=
    Nat.exists_eq_succ_of_ne_zero (Nat.ne_of_gt (start_pos readable))
  have there := body.drop_start
  have length : body.text.length = body.start + (2 + body.media.value.length) +
      body.behind.length := by
    rw [body.text_eq]
    simp only [List.length_append, List.length_cons]
    unfold MediaBody.start
    omega
  rw [start] at found there length
  have nonempty : ¬ ((body.text.length : Nat) : Int) ≤ 0 := by omega
  have line : getLineContent (body.text.drop (before + 1)) "m=".toList sipuaStringLineLen =
      ⟨((2 : Nat) : Int) + body.media.value.length, body.media.value, body.media.value.length⟩ := by
    rw [there]
    exact getLineContent_found (strstr_eq_zero ⟨_, rfl⟩) rfl body.plain_value readable.fits
  have some : ¬ ((2 : Nat) : Int) + body.media.value.length ≤ 0 := by omega
  have number : (((2 : Nat) : Int) + body.media.value.length).toNat =
      ('m' :: '=' :: body.media.value).length := by
    simp only [List.length_cons]
    omega
  have rest : ('m' :: '=' :: body.media.value ++ body.behind).drop
      ('m' :: '=' :: body.media.value).length = body.behind := List.drop_left
  have limit : ((body.text.length : Nat) : Int) = ((before + 1 : Nat) : Int) +
      (((2 : Nat) : Int) + body.media.value.length) + body.behind.length := by omega
  obtain ⟨type, others, rfl⟩ : ∃ type others, types = type :: others := by
    have four := readable.pieces.1
    rw [pieces] at four
    cases types with
    | nil => exact absurd four (Nat.lt_irrefl 3)
    | cons type others => exact ⟨type, others, rfl⟩
  have loop := @attrLoop_spec _ _ (mediaLined info port proto (type :: others)) body.behind.length 0
    (((before + 1 : Nat) : Int) + (((2 : Nat) : Int) + body.media.value.length)) (scans readable)
    Nat.le.refl
  refine ⟨_, ?_, foldl_storeAttr readable.apart⟩
  rw [parseMediaSdpBody_found nonempty found line some pieces]
  dsimp only
  rw [there, number, rest, limit, loop]

/-- Where no search goes astray, the section is read. -/
theorem media_section_parsed (readable : body.Readable) (info : MediaInfo) :
    body.Parsed info
      (parseMediaSdpBody info body.text body.text.length ('m' :: '=' :: mediaType)) := by
  obtain ⟨name, port, proto, types, pieces, few⟩ : ∃ name port proto, ∃ types : List Text,
      splitString body.media.value ' ' = name :: port :: proto :: types ∧
        types.length ≤ sdpMediaAttrMaxCount := by
    have enough := readable.pieces
    generalize splitString body.media.value ' ' = pieces at enough ⊢
    match pieces, enough with
    | name :: port :: proto :: types, enough =>
      have most := enough.2
      rw [List.length_cons, List.length_cons, List.length_cons] at most
      exact ⟨name, port, proto, types, rfl, by omega⟩
  obtain ⟨stored, parsed, attrs⟩ := MediaBody.parse readable pieces info
  have agrees := attrs.agrees
  rw [parsed]
  refine ⟨rfl, rfl, ⟨name, port, proto, types, pieces, agrees.port, agrees.szProto,
    agrees.iAttrCount, ?_⟩, ?_, attrs.direction⟩
  · intro index type here
    have inRange : index < sdpMediaAttrMaxCount := by
      obtain ⟨below, -⟩ := List.getElem?_eq_some_iff.mp here
      exact Nat.lt_of_lt_of_le below few
    have payload := agrees.payload index inRange
    dsimp only [mediaLined, storePayloadTypes] at payload
    rw [Vector.getElem_mapIdx, here] at payload
    rw [Vector.getElem?_eq_getElem inRange, Option.map_some, payload]
  · intro index inRange
    have line := attrs.behind index (by rw [Nat.zero_add]; exact inRange)
    simp only [Nat.zero_add] at line
    rw [line]
    dsimp only [mediaLined, storePayloadTypes]
    rw [Vector.getElem_mapIdx]
    split <;> rfl

end Sections

theorem isLine_version : IsLine ('v' :: '=' :: "0".toList) := by
  unfold IsLine
  decide

theorem isLine_origin :
    IsLine ('o' :: '=' :: "34020000002020000001 0 0 IN IP4 192.168.3.81".toList) := by
  unfold IsLine
  decide +kernel

theorem isLine_time : IsLine ('t' :: '=' :: "0 0".toList) := by
  unfold IsLine
  decide

def plainSession : List SdpLine :=
  [⟨'v', "0".toList, isLine_version⟩,
    ⟨'o', "34020000002020000001 0 0 IN IP4 192.168.3.81".toList, isLine_origin⟩,
    ⟨'s', "Play".toList, by unfold IsLine; decide⟩,
    ⟨'t', "0 0".toList, isLine_time⟩]

def videoLine : SdpLine :=
  ⟨'m', "video 6000 RTP/AVP 96".toList, by unfold IsLine; decide +kernel⟩

def videoAttribute : SdpLine :=
  ⟨'a', "rtpmap:96 PS/90000".toList, by unfold IsLine; decide +kernel⟩

def audioLine : SdpLine := ⟨'m', "audio 8000 RTP/AVP 8".toList, by unfold IsLine; decide +kernel⟩

def audioAttribute : SdpLine :=
  ⟨'a', "rtpmap:8 PCMA/8000".toList, by unfold IsLine; decide +kernel⟩

theorem isLine_recvonly : IsLine ('a' :: '=' :: "recvonly".toList) := by
  unfold IsLine
  decide +kernel

/-- Two types, a direction and an attribute for each type. -/
def listLine : SdpLine :=
  ⟨'m', "video 6000 RTP/AVP 96 98".toList, by unfold IsLine; decide +kernel⟩

def listAttributes : List SdpLine :=
  [⟨'a', "recvonly".toList, isLine_recvonly⟩, videoAttribute,
    ⟨'a', "rtpmap:98 H264/90000".toList, by unfold IsLine; decide +kernel⟩]

theorem no_line_behind : ∀ line ∈ ([] : List SdpLine).head?, line.letter = 'm' := nofun

def videoBody : MediaBody "video".toList where
  before := plainSession
  media := listLine
  inside := listAttributes
  after := []
  named := by
    unfold SdpLine.Names
    decide +kernel
  single := by
    unfold SdpLine.Names
    decide +kernel
  within := by decide
  ends := no_line_behind

theorem videoBody_readable : videoBody.Readable := by
  have checked : (∀ offset < videoBody.start,
        ¬ Occurs videoBody.text ('m' :: '=' :: "video".toList) offset) ∧
      videoBody.media.value.length < sipuaStringLineLen ∧
      (4 ≤ (splitString videoBody.media.value ' ').length ∧
        (splitString videoBody.media.value ' ').length ≤ sdpMediaAttrMaxCount + 3) ∧
      (∀ attr ∈ attributes videoBody.inside, attr.length < sipuaStringLineLen) ∧
      (∀ attr ∈ attributes videoBody.inside, ∀ word ∈ directionWords,
        attr <+: word → attr = word) ∧
      LagClear videoBody.behind 0 (attrLines 2 videoBody.inside) := by
    decide +kernel
  obtain ⟨first, fits, pieces, short, apart, clear⟩ := checked
  exact ⟨List.cons_ne_nil _ _, first, fits, pieces, short, apart, clear⟩

theorem videoBody_parsed : videoBody.Parsed .zero
    (parseMediaSdpBody .zero videoBody.text videoBody.text.length
      ('m' :: '=' :: "video".toList)) :=
  media_section_parsed videoBody_readable .zero

/-- A body with both sections: the video section gets the attribute of the audio section. -/
def bothBody : MediaBody "video".toList where
  before := plainSession
  media := videoLine
  inside := [videoAttribute]
  after := [audioLine, audioAttribute]
  named := by
    unfold SdpLine.Names
    decide +kernel
  single := by
    unfold SdpLine.Names
    decide +kernel
  within := by decide
  ends := by decide

theorem bothBody_not_parsed : ¬ bothBody.Parsed .zero
    (parseMediaSdpBody .zero bothBody.text bothBody.text.length
      ('m' :: '=' :: "video".toList)) := by
  intro parsed
  have second := parsed.attrs 1 (by decide)
  revert second
  decide +kernel

end Gb28181.SipUA
