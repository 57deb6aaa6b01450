import Gb28181.SipUA.SessionBody

namespace Gb28181.SipUA

open Gb28181.Lib

/-- The size of the array the content of a line goes to. -/
def fieldSize (letter : Char) : Nat := if letter = 'x' then sdpXLineStringLen else sipuaStringLineLen

/-- What `getLineContent` leaves for the name of a letter. -/
def lineOf (letter : Char) (text : Text) : Text :=
  (getLineContent text [letter, '='] (fieldSize letter)).szContent

/-- What the session is read from, whatever the body is. -/
structure ReadFrom (text : Text) (info : SdpInfo) : Prop where
  szVersion : info.szVersion = lineOf 'v' text
  szOrigin : info.szOrigin = lineOf 'o' text
  szSessionName : info.szSessionName = lineOf 's' text
  szUri : info.szUri = lineOf 'u' text
  szConnection : info.szConnection = lineOf 'c' text
  times : (info.i64TimeBegin, info.i64TimeEnd) = timesIn (lineOf 't' text)
  szY : info.szY = lineOf 'y' text
  szF : info.szF = lineOf 'f' text
  szX : info.szX = lineOf 'x' text
  sections : ∃ szAddr, (szAddr = [] ∨ szAddr ∈ splitString (lineOf 'c' text) ' ') ∧
    info.sVideoMediaInfo = { (parseMediaSdpBody .zero text text.length "m=video".toList).2 with
      szAddr := szAddr } ∧
    info.sAudioMediaInfo = { (parseMediaSdpBody .zero text text.length "m=audio".toList).2 with
      szAddr := szAddr }

/-- The first place where a letter stands in front of `=`, at the beginning of a line or inside
of one, has this content behind it. -/
def FirstHit (letter : Char) (lines : List SdpLine) (content : Text) : Prop :=
  ∃ front line behind offset, lines = front ++ line :: behind ∧
    (∀ own ∈ front, ∀ earlier, ¬ Occurs own.text [letter, '='] earlier) ∧
    Occurs line.text [letter, '='] offset ∧
    (∀ earlier < offset, ¬ Occurs line.text [letter, '='] earlier) ∧
    content = line.text.drop (offset + 2)

/-- Wherever the letter is found first, the same is read as from its own line. -/
def Sound {Value : Type} (read : Text → Value) (letter : Char) (lines : List SdpLine) : Prop :=
  ∀ content, FirstHit letter lines content →
    read (content.take (fieldSize letter)) = read (fieldOf letter lines)

/-- Each field has the content of the first line of its letter. -/
structure SessionRead (lines : List SdpLine) (info : SdpInfo) : Prop where
  szVersion : info.szVersion = fieldOf 'v' lines
  szOrigin : info.szOrigin = fieldOf 'o' lines
  szSessionName : info.szSessionName = fieldOf 's' lines
  szUri : info.szUri = fieldOf 'u' lines
  szConnection : info.szConnection = fieldOf 'c' lines
  times : (info.i64TimeBegin, info.i64TimeEnd) = timesOf lines
  szY : info.szY = fieldOf 'y' lines
  szF : info.szF = fieldOf 'f' lines
  szX : info.szX = fieldOf 'x' lines

variable {letter : Char} {text content : Text} {lines : List SdpLine}

theorem storeAttrLine_szAddr (line : Text) (length : Nat) (info : MediaInfo) (index : Nat) :
    (storeAttrLine line length info index).1.szAddr = info.szAddr := by
  unfold storeAttrLine
  split
  · rfl
  · split <;> rfl

theorem parseMediaSdpBody_szAddr (info : MediaInfo) (iMaxInLen : Int) (pszMediaType : Text) :
    (parseMediaSdpBody info text iMaxInLen pszMediaType).2.szAddr = info.szAddr := by
  rcases parseMediaSdpBody_cases info text iMaxInLen pszMediaType with
    parsed | parsed | ⟨line, name, port, proto, types, rounds, pos, iPosLen, -, -, -, parsed⟩
  · rw [parsed]
  · rw [parsed]
  · have step : ∀ (loop : MediaInfo) index (line : Text), line.length < sipuaStringLineLen →
        loop.szAddr = info.szAddr →
          (storeAttrLine line line.length loop index).1.szAddr = info.szAddr := by
      intro loop index line _ kept
      rw [storeAttrLine_szAddr, kept]
    rw [parsed]
    exact @attrLoop_keeps pos (storePayloadTypes types { info with
      ucUseFlag := 0, port := atoi port, szProto := proto }) _ iMaxInLen iPosLen rounds 0 step rfl

theorem storeAddress_eq (info : SdpInfo) (video : info.sVideoMediaInfo.szAddr = [])
    (audio : info.sAudioMediaInfo.szAddr = []) :
    ∃ szAddr, (szAddr = [] ∨ szAddr ∈ splitString info.szConnection ' ') ∧
      storeAddress info = { info with
        sVideoMediaInfo := { info.sVideoMediaInfo with szAddr := szAddr }
        sAudioMediaInfo := { info.sAudioMediaInfo with szAddr := szAddr } } := by
  have same := SdpInfo.eq_of_noAddress video audio
  unfold storeAddress
  match splitString info.szConnection ' ' with
  | first :: second :: addr :: rest =>
    refine ⟨addr, .inr ?_, rfl⟩
    exact List.mem_cons_of_mem _ (List.mem_cons_of_mem _ List.mem_cons_self)
  | [] => exact ⟨[], .inl rfl, same⟩
  | [_] => exact ⟨[], .inl rfl, same⟩
  | [_, _] => exact ⟨[], .inl rfl, same⟩

theorem storeTime_eq (szTime : Text) (info : SdpInfo) (begins : info.i64TimeBegin = 0)
    (ends : info.i64TimeEnd = 0) : storeTime szTime info = { info with
      i64TimeBegin := (timesIn szTime).1
      i64TimeEnd := (timesIn szTime).2 } := by
  have same := SdpInfo.eq_of_noTimes begins ends
  unfold storeTime timesIn
  match splitString szTime ' ' with
  | _ :: _ :: _ => rfl
  | [] => exact same
  | [_] => exact same

/-- The session of a text, with the address of its sections. -/
def sessionIn (text : Text) (iBodyLen : Int) (szAddr : Text) : SdpInfo where
  szVersion := lineOf 'v' text
  szOrigin := lineOf 'o' text
  szSessionName := lineOf 's' text
  szUri := lineOf 'u' text
  szConnection := lineOf 'c' text
  i64TimeBegin := (timesIn (lineOf 't' text)).1
  i64TimeEnd := (timesIn (lineOf 't' text)).2
  szY := lineOf 'y' text
  szF := lineOf 'f' text
  szX := lineOf 'x' text
  sVideoMediaInfo :=
    { (parseMediaSdpBody .zero text iBodyLen "m=video".toList).2 with szAddr := szAddr }
  sAudioMediaInfo :=
    { (parseMediaSdpBody .zero text iBodyLen "m=audio".toList).2 with szAddr := szAddr }

/-- Whatever the body is, the session is read from its first hits. -/
theorem parseSdpBody_eq {iBodyLen : Int} (positive : 0 < iBodyLen) :
    ∃ szAddr, (szAddr = [] ∨ szAddr ∈ splitString (lineOf 'c' text) ' ') ∧
      parseSdpBody text iBodyLen .zero = (0, sessionIn text iBodyLen szAddr) := by
  unfold parseSdpBody
  rw [if_neg (not_le.mpr positive)]
  dsimp only
  generalize stored : ({ SdpInfo.zero with
    szVersion := _, szOrigin := _, szSessionName := _, szUri := _, szConnection := _, szY := _,
    szF := _, szX := _, sVideoMediaInfo := _, sAudioMediaInfo := _ } : SdpInfo) = info
  have video : info.sVideoMediaInfo.szAddr = [] := by
    rw [← stored]
    exact parseMediaSdpBody_szAddr ..
  have audio : info.sAudioMediaInfo.szAddr = [] := by
    rw [← stored]
    exact parseMediaSdpBody_szAddr ..
  obtain ⟨szAddr, origin, addressed⟩ := storeAddress_eq info video audio
  rw [addressed, storeTime_eq _ _ (by rw [← stored]; rfl) (by rw [← stored]; rfl)]
  subst stored
  exact ⟨szAddr, origin, rfl⟩

theorem parseSdpBody_readFrom (some : text ≠ []) :
    ReadFrom text (parseSdpBody text text.length .zero).2 := by
  have length := List.length_pos_of_ne_nil some
  obtain ⟨szAddr, origin, parsed⟩ := @parseSdpBody_eq text text.length (by omega)
  rw [parsed]
  exact ⟨rfl, rfl, rfl, rfl, rfl, rfl, rfl, rfl, rfl, szAddr, origin, rfl, rfl⟩

theorem szContent_eq {pos pszLineName rest : Text} {iMaxContentLen offset : Nat}
    (first : strstr pos pszLineName = some offset)
    (line : pos.drop (offset + pszLineName.length) = content ++ '\r' :: '\n' :: rest)
    (plain : IsLine content) :
    (getLineContent pos pszLineName iMaxContentLen).szContent = content.take iMaxContentLen := by
  unfold getLineContent
  rw [first]
  dsimp only
  rw [line, takeWhile_content plain]
  split
  · rename_i short
    exact (List.take_of_length_le short.le).symm
  · rfl

theorem key_plain (plain : letter ≠ '\r' ∧ letter ≠ '\n') :
    '\r' ∉ [letter, '='] ∧ '\n' ∉ [letter, '='] := by
  simp only [List.mem_cons, List.not_mem_nil, or_false, not_or]
  exact ⟨⟨Ne.symm plain.1, by decide⟩, Ne.symm plain.2, by decide⟩

theorem lineOf_firstHit (plain : letter ≠ '\r' ∧ letter ≠ '\n')
    (hit : FirstHit letter lines content) :
    lineOf letter (bodyText lines) = content.take (fieldSize letter) := by
  obtain ⟨front, line, behind, offset, rfl, nowhere, occurs, first, rfl⟩ := hit
  obtain ⟨noReturn, noFeed⟩ := key_plain plain
  have inside : offset + 2 ≤ line.text.length := by
    have fits := occurs.length_le
    rw [List.length_drop] at fits
    have long : 2 ≤ line.text.length - offset := fits
    omega
  have stands : bodyText (front ++ line :: behind) =
      bodyText front ++ (line.text ++ '\r' :: '\n' :: bodyText behind) := by
    rw [bodyText_append, bodyText_cons]
    rfl
  have found : strstr (bodyText (front ++ line :: behind)) [letter, '='] =
      some ((bodyText front).length + offset) := by
    rw [stands]
    apply strstr_eq_some
    · rw [Occurs, List.drop_length_add_append, List.drop_append_of_le_length (by omega)]
      exact occurs.trans (List.prefix_append ..)
    · intro earlier before
      by_cases within : earlier < (bodyText front).length
      · exact not_occurs_bodyText noReturn noFeed (fun own member offset _ => nowhere own member offset)
          within
      · obtain ⟨inner, rfl⟩ := Nat.exists_eq_add_of_le (Nat.le_of_not_lt within)
        rw [Occurs, List.drop_length_add_append, List.drop_append_of_le_length (by omega)]
        exact beginsNot_of_prefix noReturn (first inner (by omega)) _
  have content : (bodyText (front ++ line :: behind)).drop
      ((bodyText front).length + offset + [letter, '='].length) =
        line.text.drop (offset + 2) ++ '\r' :: '\n' :: bodyText behind := by
    rw [stands, Nat.add_assoc, List.drop_length_add_append]
    exact List.drop_append_of_le_length inside
  have plainContent : IsLine (line.text.drop (offset + 2)) :=
    fun char member => line.plain char (List.mem_of_mem_drop member)
  exact szContent_eq found content plainContent

/-- Either a letter is found somewhere, or no line has it inside. -/
theorem firstHit_or_nowhere (letter : Char) (lines : List SdpLine) :
    (∃ content, FirstHit letter lines content) ∨
      ∀ line ∈ lines, ∀ offset, ¬ Occurs line.text [letter, '='] offset := by
  induction lines with
  | nil => exact .inr nofun
  | cons line lines ih =>
    cases found : strstr line.text [letter, '='] with
    | some offset =>
      obtain ⟨occurs, first⟩ := occurs_of_strstr found
      exact .inl ⟨_, [], line, lines, offset, rfl, nofun, occurs, first, rfl⟩
    | none =>
      have free := strstr_isNone_iff.mp found
      rcases ih with ⟨content, front, own, behind, offset, rfl, nowhere, occurs, first, same⟩ | nowhere
      · refine .inl ⟨content, line :: front, own, behind, offset, rfl, ?_, occurs, first, same⟩
        exact List.forall_mem_cons.mpr ⟨free, nowhere⟩
      · exact .inr (List.forall_mem_cons.mpr ⟨free, nowhere⟩)

theorem occurs_own (line : SdpLine) : Occurs line.text [line.letter, '='] 0 :=
  ⟨line.value, rfl⟩

theorem fieldOf_nowhere (nowhere : ∀ line ∈ lines, ∀ offset, ¬ Occurs line.text [letter, '='] offset) :
    fieldOf letter lines = [] := by
  have none : lines.find? (·.letter = letter) = none := by
    apply List.find?_eq_none.mpr
    intro line member own
    have own := of_decide_eq_true own
    exact nowhere line member 0 (own ▸ occurs_own line)
  rw [fieldOf, none]
  rfl

/-- What is read for a letter is the same as for its own line iff its first hit is sound. -/
theorem read_lineOf_iff {Value : Type} (read : Text → Value) (plain : letter ≠ '\r' ∧ letter ≠ '\n') :
    read (lineOf letter (bodyText lines)) = read (fieldOf letter lines) ↔ Sound read letter lines := by
  rcases firstHit_or_nowhere letter lines with ⟨content, hit⟩ | nowhere
  · constructor
    · intro same other otherHit
      rw [← lineOf_firstHit plain otherHit]
      exact same
    · intro sound
      rw [lineOf_firstHit plain hit]
      exact sound content hit
  · obtain ⟨noReturn, noFeed⟩ := key_plain plain
    have missing := @getLineContent_missing _ _ (fieldSize letter) (nowhere_bodyText noReturn noFeed
      (fun line member offset _ => nowhere line member offset))
    have nothing : lineOf letter (bodyText lines) = [] := by
      rw [lineOf, missing]
    rw [nothing, fieldOf_nowhere nowhere]
    apply iff_of_true rfl
    rintro content ⟨front, line, behind, offset, rfl, -, occurs, -, -⟩
    exact absurd occurs (nowhere line (List.mem_append_right _ List.mem_cons_self) offset)

theorem sound_nil {Value : Type} (read : Text → Value) (letter : Char) : Sound read letter [] := by
  rintro content ⟨front, line, behind, offset, same, -⟩
  exact absurd same.symm (List.append_ne_nil_of_right_ne_nil _ (List.cons_ne_nil _ _))

/-- Each field is read from the first line of its letter iff the first hit of each letter is
sound. -/
theorem session_fields_iff (lines : List SdpLine) :
    SessionRead lines (parseSdpBody (bodyText lines) (bodyText lines).length .zero).2 ↔
      (∀ letter ∈ ['v', 'o', 's', 'u', 'c', 'y', 'f', 'x'], Sound id letter lines) ∧
        Sound timesIn 't' lines := by
  cases lines with
  | nil =>
    apply iff_of_true
    · exact ⟨rfl, rfl, rfl, rfl, rfl, rfl, rfl, rfl, rfl⟩
    · exact ⟨fun letter _ => sound_nil id letter, sound_nil timesIn 't'⟩
  | cons line lines =>
    have some : bodyText (line :: lines) ≠ [] := by
      rw [bodyText_cons]
      exact List.cons_ne_nil _ _
    have from_ := parseSdpBody_readFrom some
    generalize (parseSdpBody (bodyText (line :: lines)) (bodyText (line :: lines)).length .zero).2 =
      info at from_ ⊢
    have letters : ∀ letter ∈ ['v', 'o', 's', 'u', 'c', 'y', 'f', 'x'],
        letter ≠ '\r' ∧ letter ≠ '\n' := by decide
    have field := fun letter member =>
      @read_lineOf_iff letter (line :: lines) Text id (letters letter member)
    have time := @read_lineOf_iff 't' (line :: lines) _ timesIn (by decide)
    constructor
    · intro read
      constructor
      · intro letter member
        apply (field letter member).mp
        simp only [List.mem_cons, List.not_mem_nil, or_false] at member
        rcases member with rfl | rfl | rfl | rfl | rfl | rfl | rfl | rfl
        · exact from_.szVersion.symm.trans read.szVersion
        · exact from_.szOrigin.symm.trans read.szOrigin
        · exact from_.szSessionName.symm.trans read.szSessionName
        · exact from_.szUri.symm.trans read.szUri
        · exact from_.szConnection.symm.trans read.szConnection
        · exact from_.szY.symm.trans read.szY
        · exact from_.szF.symm.trans read.szF
        · exact from_.szX.symm.trans read.szX
      · exact time.mp (from_.times.symm.trans read.times)
    · rintro ⟨sound, soundTimes⟩
      have own : ∀ letter ∈ ['v', 'o', 's', 'u', 'c', 'y', 'f', 'x'],
          lineOf letter (bodyText (line :: lines)) = fieldOf letter (line :: lines) :=
        fun letter member => (field letter member).mpr (sound letter member)
      exact {
        szVersion := from_.szVersion.trans (own 'v' (by decide))
        szOrigin := from_.szOrigin.trans (own 'o' (by decide))
        szSessionName := from_.szSessionName.trans (own 's' (by decide))
        szUri := from_.szUri.trans (own 'u' (by decide))
        szConnection := from_.szConnection.trans (own 'c' (by decide))
        times := from_.times.trans (time.mpr soundTimes)
        szY := from_.szY.trans (own 'y' (by decide))
        szF := from_.szF.trans (own 'f' (by decide))
        szX := from_.szX.trans (own 'x' (by decide)) }

/-- A body without a `u=` line, whose session name has one inside. -/
def menuSession : List SdpLine :=
  [⟨'v', "0".toList, isLine_version⟩,
    ⟨'o', "34020000002020000001 0 0 IN IP4 192.168.3.81".toList, isLine_origin⟩,
    ⟨'s', "menu=1".toList, by unfold IsLine; decide⟩,
    ⟨'t', "0 0".toList, isLine_time⟩]

theorem menuSession_not_read : (∀ line ∈ menuSession, line.value.length < sipuaStringLineLen) ∧
    ¬ SessionRead menuSession
      (parseSdpBody (bodyText menuSession) (bodyText menuSession).length .zero).2 := by
  refine ⟨by decide, ?_⟩
  intro read
  have uri := read.szUri
  revert uri
  decide +kernel

end Gb28181.SipUA
