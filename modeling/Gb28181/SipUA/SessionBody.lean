import Gb28181.SipUA.MediaSection

namespace Gb28181.SipUA

open Gb28181.Lib

def sessionLetters : List Char := ['v', 'o', 's', 'u', 'c', 't', 'y', 'f', 'x']

/-- The value of the first line with a letter. -/
def fieldOf (letter : Char) (lines : List SdpLine) : Text :=
  ((lines.find? (·.letter = letter)).map SdpLine.value).getD []

/-- No line in front of the first one with the letter has anything like it inside. -/
def Anchored (letter : Char) (lines : List SdpLine) : Prop :=
  ∀ line ∈ lines.takeWhile (·.letter ≠ letter), ∀ offset < line.text.length,
    ¬ Occurs line.text [letter, '='] offset

/-- The third piece of the connection line. -/
def addressOf (lines : List SdpLine) : Text :=
  match splitString (fieldOf 'c' lines) ' ' with
  | _ :: _ :: addr :: _ => addr
  | _ => []

def timesIn (szTime : Text) : Int × Int :=
  match splitString szTime ' ' with
  | timeBegin :: timeEnd :: _ => (atoll timeBegin, atoll timeEnd)
  | _ => (0, 0)

def timesOf (lines : List SdpLine) : Int × Int := timesIn (fieldOf 't' lines)

/-- The session of a body without an audio section. -/
def sessionOf (lines : List SdpLine) (video : MediaInfo) : SdpInfo where
  szVersion := fieldOf 'v' lines
  szOrigin := fieldOf 'o' lines
  szSessionName := fieldOf 's' lines
  szUri := fieldOf 'u' lines
  szConnection := fieldOf 'c' lines
  i64TimeBegin := (timesOf lines).1
  i64TimeEnd := (timesOf lines).2
  szY := fieldOf 'y' lines
  szF := fieldOf 'f' lines
  szX := fieldOf 'x' lines
  sVideoMediaInfo := { video with szAddr := addressOf lines }
  sAudioMediaInfo := { MediaInfo.zero with szAddr := addressOf lines }

def sectionInfo (port : Int) (proto : Text) (types : List Int) (dir : TransDir)
    (attrs : List Text) : MediaInfo where
  ucUseFlag := 1
  szAddr := []
  port := port
  szProto := proto
  eDir := dir
  iAttrCount := types.length
  sAttr := Vector.ofFn (fun index => ⟨types[index.val]?.getD 0, attrs[index.val]?.getD []⟩)

variable {letter : Char} {lines : List SdpLine} {info : MediaInfo}

theorem bodyText_append (lines others : List SdpLine) :
    bodyText (lines ++ others) = bodyText lines ++ bodyText others := by
  rw [bodyText, List.map_append, joinLines_append]
  rfl

theorem SdpLine.plain_value (line : SdpLine) : IsLine line.value :=
  fun char member => line.plain char (List.mem_cons_of_mem _ (List.mem_cons_of_mem _ member))

theorem not_occurs_bodyText {first : Char} {key rest : Text} {offset : Nat}
    (noReturn : '\r' ∉ first :: key) (noFeed : '\n' ∉ first :: key)
    (free : ∀ line ∈ lines, ∀ offset < line.text.length, ¬ Occurs line.text (first :: key) offset)
    (inside : offset < (bodyText lines).length) :
    ¬ Occurs (bodyText lines ++ rest) (first :: key) offset := by
  apply not_occurs_lines noReturn noFeed _ inside
  intro text member offset occurs
  obtain ⟨line, own, rfl⟩ := List.mem_map.mp member
  exact free line own offset (lt_length_of_occurs occurs) occurs

theorem nowhere_bodyText {first : Char} {key : Text} (noReturn : '\r' ∉ first :: key)
    (noFeed : '\n' ∉ first :: key)
    (free : ∀ line ∈ lines, ∀ offset < line.text.length, ¬ Occurs line.text (first :: key) offset)
    (offset : Nat) : ¬ Occurs (bodyText lines) (first :: key) offset := by
  intro occurs
  have whole := @not_occurs_bodyText _ _ _ [] offset noReturn noFeed free
    (lt_length_of_occurs occurs)
  rw [List.append_nil] at whole
  exact whole occurs

theorem getLineContent_field {size : Nat} (plain : letter ≠ '\r' ∧ letter ≠ '\n')
    (anchored : Anchored letter lines) (short : (fieldOf letter lines).length < size) :
    (getLineContent (bodyText lines) [letter, '='] size).szContent = fieldOf letter lines := by
  have noReturn : '\r' ∉ [letter, '='] := by
    simp only [List.mem_cons, List.not_mem_nil, or_false, not_or]
    exact ⟨Ne.symm plain.1, by decide⟩
  have noFeed : '\n' ∉ [letter, '='] := by
    simp only [List.mem_cons, List.not_mem_nil, or_false, not_or]
    exact ⟨Ne.symm plain.2, by decide⟩
  cases found : lines.find? (·.letter = letter) with
  | none =>
    have other : ∀ line ∈ lines, line.letter ≠ letter := fun line member same =>
      List.find?_eq_none.mp found line member (decide_eq_true same)
    have all : lines.takeWhile (·.letter ≠ letter) = lines :=
      List.takeWhile_eq_self_iff.mpr (fun line member => decide_eq_true (other line member))
    rw [Anchored, all] at anchored
    rw [getLineContent_missing (nowhere_bodyText noReturn noFeed anchored), fieldOf, found]
    rfl
  | some line =>
    obtain ⟨own, front, behind, rfl, other⟩ := List.find?_eq_some_iff_append.mp found
    have own := of_decide_eq_true own
    have first : (front ++ line :: behind).takeWhile (·.letter ≠ letter) = front := by
      rw [List.takeWhile_append_of_pos, List.takeWhile_cons_of_neg, List.append_nil]
      · exact fun apart => of_decide_eq_true apart own
      · intro line member
        have apart := other line member
        rw [Bool.not_eq_true', decide_eq_false_iff_not] at apart
        exact decide_eq_true apart
    rw [Anchored, first] at anchored
    have value : fieldOf letter (front ++ line :: behind) = line.value := by
      rw [fieldOf, found]
      rfl
    have stands : bodyText (front ++ line :: behind) =
        bodyText front ++ ([letter, '='] ++ (line.value ++ '\r' :: '\n' :: bodyText behind)) := by
      rw [bodyText_append, bodyText_cons, own]
      rfl
    have where_ : strstr (bodyText (front ++ line :: behind)) [letter, '='] =
        some (bodyText front).length := by
      rw [stands]
      apply strstr_eq_some
      · rw [Occurs, List.drop_left]
        exact List.prefix_append ..
      · intro earlier before
        exact not_occurs_bodyText noReturn noFeed anchored before
    have content : (bodyText (front ++ line :: behind)).drop
        ((bodyText front).length + [letter, '='].length) =
          line.value ++ '\r' :: '\n' :: bodyText behind := by
      rw [stands, List.drop_length_add_append, List.drop_left]
    rw [value] at short ⊢
    rw [getLineContent_found where_ content line.plain_value short]

theorem parseMediaSdpBody_missing {pszInBuff pszMediaType : Text} {iMaxInLen : Int}
    (nowhere : ∀ offset, ¬ Occurs pszInBuff pszMediaType offset) :
    (parseMediaSdpBody .zero pszInBuff iMaxInLen pszMediaType).2 = .zero := by
  unfold parseMediaSdpBody
  rw [strstr_eq_none nowhere]
  split <;> rfl

theorem SdpInfo.eq_of_noAddress {info : SdpInfo} (video : info.sVideoMediaInfo.szAddr = [])
    (audio : info.sAudioMediaInfo.szAddr = []) : info = { info with
      sVideoMediaInfo := { info.sVideoMediaInfo with szAddr := [] }
      sAudioMediaInfo := { info.sAudioMediaInfo with szAddr := [] } } :=
  congrArg₂ (fun first second => { info with
    sVideoMediaInfo := { info.sVideoMediaInfo with szAddr := first }
    sAudioMediaInfo := { info.sAudioMediaInfo with szAddr := second } }) video audio

theorem SdpInfo.eq_of_noTimes {info : SdpInfo} (begins : info.i64TimeBegin = 0)
    (ends : info.i64TimeEnd = 0) : info = { info with i64TimeBegin := 0, i64TimeEnd := 0 } :=
  congrArg₂ (fun first second => { info with i64TimeBegin := first, i64TimeEnd := second })
    begins ends

theorem storeAddress_lines {info : SdpInfo} (connection : info.szConnection = fieldOf 'c' lines)
    (video : info.sVideoMediaInfo.szAddr = []) (audio : info.sAudioMediaInfo.szAddr = []) :
    storeAddress info = { info with
      sVideoMediaInfo := { info.sVideoMediaInfo with szAddr := addressOf lines }
      sAudioMediaInfo := { info.sAudioMediaInfo with szAddr := addressOf lines } } := by
  have same := SdpInfo.eq_of_noAddress video audio
  unfold storeAddress addressOf
  rw [← connection]
  match splitString info.szConnection ' ' with
  | _ :: _ :: addr :: _ => rfl
  | [] => exact same
  | [_] => exact same
  | [_, _] => exact same

theorem storeTime_lines (info : SdpInfo) (begins : info.i64TimeBegin = 0) (ends : info.i64TimeEnd = 0) :
    storeTime (fieldOf 't' lines) info = { info with
      i64TimeBegin := (timesOf lines).1
      i64TimeEnd := (timesOf lines).2 } := by
  have same := SdpInfo.eq_of_noTimes begins ends
  unfold storeTime timesOf timesIn
  match splitString (fieldOf 't' lines) ' ' with
  | _ :: _ :: _ => rfl
  | [] => exact same
  | [_] => exact same

theorem parseSdpBody_lines (some : lines ≠ [])
    (anchored : ∀ letter ∈ sessionLetters, Anchored letter lines)
    (short : ∀ letter ∈ sessionLetters, (fieldOf letter lines).length < sipuaStringLineLen)
    (video : (parseMediaSdpBody .zero (bodyText lines) (bodyText lines).length "m=video".toList).2 =
      info)
    (fresh : info.szAddr = [])
    (audio : ∀ offset, ¬ Occurs (bodyText lines) "m=audio".toList offset) :
    parseSdpBody (bodyText lines) (bodyText lines).length .zero = (0, sessionOf lines info) := by
  have positive : ¬ ((bodyText lines).length : Int) ≤ 0 := by
    cases lines with
    | nil => exact absurd rfl some
    | cons line lines =>
      rw [bodyText_cons]
      simp only [List.length_append, List.length_cons]
      omega
  have field : ∀ letter ∈ sessionLetters, ∀ name : String, name.toList = [letter, '='] →
      ∀ size, sipuaStringLineLen ≤ size →
        (getLineContent (bodyText lines) name.toList size).szContent = fieldOf letter lines := by
    intro letter member name named size large
    have plain : ∀ letter ∈ sessionLetters, letter ≠ '\r' ∧ letter ≠ '\n' := by decide
    rw [named]
    exact getLineContent_field (plain letter member) (anchored letter member)
      (Nat.lt_of_lt_of_le (short letter member) large)
  have line : sipuaStringLineLen ≤ sipuaStringLineLen := Nat.le.refl
  unfold parseSdpBody
  rw [if_neg positive]
  dsimp only
  rw [field 'v' (by decide) "v=" rfl _ line, field 'o' (by decide) "o=" rfl _ line,
    field 's' (by decide) "s=" rfl _ line, field 'u' (by decide) "u=" rfl _ line,
    field 'c' (by decide) "c=" rfl _ line, field 't' (by decide) "t=" rfl _ line,
    field 'y' (by decide) "y=" rfl _ line, field 'f' (by decide) "f=" rfl _ line,
    field 'x' (by decide) "x=" rfl _ (by decide)]
  have zero : SdpInfo.zero.sVideoMediaInfo = .zero ∧ SdpInfo.zero.sAudioMediaInfo = .zero := ⟨rfl, rfl⟩
  rw [zero.1, zero.2, video, parseMediaSdpBody_missing audio, storeAddress_lines rfl fresh rfl,
    storeTime_lines _ rfl rfl]
  rfl

theorem MediaBody.parse_section {mediaType name port proto : Text} {types : List Text}
    {body : MediaBody mediaType} (readable : body.Readable)
    (pieces : splitString body.media.value ' ' = name :: port :: proto :: types) :
    parseMediaSdpBody .zero body.text body.text.length ('m' :: '=' :: mediaType) =
      (0, sectionInfo (atoi port) proto (types.map atoi)
        ((lastDirection (attributes body.inside)).getD .unknown)
        (otherAttributes (attributes body.inside))) := by
  obtain ⟨stored, parsed, attrs⟩ := MediaBody.parse readable pieces .zero
  have agrees := attrs.agrees
  have slots : stored.sAttr = Vector.ofFn (fun index =>
      ⟨(types.map atoi)[index.val]?.getD 0,
        (otherAttributes (attributes body.inside))[index.val]?.getD []⟩) := by
    apply Vector.ext
    intro index inRange
    have payload := agrees.payload index inRange
    have line := attrs.behind index (by rw [Nat.zero_add]; exact inRange)
    simp only [Nat.zero_add] at line
    dsimp only [mediaLined, storePayloadTypes, MediaInfo.zero] at payload line
    rw [Vector.getElem_mapIdx, Vector.getElem_replicate] at payload line
    rw [Vector.getElem_ofFn, List.getElem?_map]
    dsimp only
    generalize types[index]? = type at payload line ⊢
    generalize stored.sAttr[index] = slot at payload line ⊢
    cases slot
    cases type with
    | none => exact congrArg₂ MediaAttr.mk payload line
    | some type => exact congrArg₂ MediaAttr.mk payload line
  have count : stored.iAttrCount = (types.map atoi).length := by
    rw [agrees.iAttrCount, List.length_map]
    rfl
  rw [parsed, agrees.szAddr, agrees.port, agrees.szProto, count, slots, attrs.direction]
  rfl

end Gb28181.SipUA
