import Gb28181.Lib.Text

/-! The SDP part of `SipUA.cpp`: what the server reads out of a body and how it writes
one. Texts are C strings. A print that does not fit its buffer has no result here. -/

namespace Gb28181.SipUA

open Gb28181.Lib

def sipuaStringLineLen : Nat := 128

def sdpXLineStringLen : Nat := 256

def sdpMediaAttrMaxCount : Nat := 8

inductive TransDir where
  | unknown | sendonly | recvonly | sendrecv | inactive
  deriving DecidableEq, Repr

structure MediaAttr where
  ePayloadType : Int
  szAttrLine : Text
  deriving DecidableEq

structure MediaInfo where
  ucUseFlag : Nat
  szAddr : Text
  port : Int
  szProto : Text
  eDir : TransDir
  iAttrCount : Nat
  sAttr : Vector MediaAttr sdpMediaAttrMaxCount
  deriving DecidableEq

structure SdpInfo where
  szVersion : Text
  szOrigin : Text
  szSessionName : Text
  szUri : Text
  szConnection : Text
  i64TimeBegin : Int
  i64TimeEnd : Int
  szY : Text
  szF : Text
  szX : Text
  sVideoMediaInfo : MediaInfo
  sAudioMediaInfo : MediaInfo
  deriving DecidableEq

structure SubjectInfo where
  szSenderId : Text
  szSenderStreamSeq : Text
  szRecverId : Text
  szRecverStreamSeq : Text
  deriving DecidableEq

/-- The structures after `memset` with zero. -/
def MediaInfo.zero : MediaInfo := ⟨0, [], 0, [], .unknown, 0, Vector.replicate _ ⟨0, []⟩⟩

def SdpInfo.zero : SdpInfo := ⟨[], [], [], [], [], 0, 0, [], [], [], .zero, .zero⟩

def SubjectInfo.zero : SubjectInfo := ⟨[], [], [], []⟩

private def splitFrom (separator : Char) (piece : Text) : Text → List Text
  | [] => if piece = [] then [] else [piece]
  | char :: rest =>
    if char = separator then piece :: splitFrom separator [] rest
    else splitFrom separator (piece ++ [char]) rest

/-- `splitString`: an empty last piece is not counted. -/
def splitString (text : Text) (separator : Char) : List Text := splitFrom separator [] text

private theorem splitFrom_append {separator : Char} {piece text rest : Text}
    (free : separator ∉ text) :
    splitFrom separator piece (text ++ rest) = splitFrom separator (piece ++ text) rest := by
  induction text generalizing piece with
  | nil => rw [List.nil_append, List.append_nil]
  | cons char text ih =>
    obtain ⟨here, there⟩ := not_or.mp (mt List.mem_cons.mpr free)
    rw [List.cons_append, splitFrom, if_neg (Ne.symm here), ih there, List.append_assoc,
      List.singleton_append]

theorem splitString_cons {separator : Char} {piece : Text} (free : separator ∉ piece)
    (rest : Text) :
    splitString (piece ++ separator :: rest) separator = piece :: splitString rest separator := by
  unfold splitString
  rw [splitFrom_append free, List.nil_append, splitFrom, if_pos rfl]

theorem splitString_single {separator : Char} {piece : Text} (free : separator ∉ piece)
    (some : piece ≠ []) : splitString piece separator = [piece] := by
  have whole := @splitFrom_append separator [] piece [] free
  rw [List.append_nil, List.nil_append] at whole
  rw [splitString, whole, splitFrom, if_neg some]

theorem splitString_last {separator : Char} {piece : Text} (free : separator ∉ piece) :
    splitString piece separator = if piece = [] then [] else [piece] := by
  by_cases empty : piece = []
  · rw [if_pos empty, empty]
    rfl
  · rw [if_neg empty, splitString_single free empty]

private theorem mem_splitFrom {separator : Char} {piece text own : Text}
    (free : separator ∉ piece) (member : own ∈ splitFrom separator piece text) :
    ∀ char ∈ own, (char ∈ piece ∨ char ∈ text) ∧ char ≠ separator := by
  induction text generalizing piece with
  | nil =>
    intro char within
    rw [splitFrom] at member
    split at member
    · exact absurd member List.not_mem_nil
    · rw [List.mem_singleton.mp member] at within
      exact ⟨.inl within, fun same => free (same ▸ within)⟩
  | cons first text ih =>
    intro char within
    rw [splitFrom] at member
    split at member
    · rcases List.mem_cons.mp member with same | later
      · rw [same] at within
        exact ⟨.inl within, fun same => free (same ▸ within)⟩
      · obtain ⟨own | own, apart⟩ := ih List.not_mem_nil later char within
        · exact absurd own List.not_mem_nil
        · exact ⟨.inr (List.mem_cons_of_mem _ own), apart⟩
    · rename_i other
      have free' : separator ∉ piece ++ [first] := by
        rw [List.mem_append, List.mem_singleton, not_or]
        exact ⟨free, Ne.symm other⟩
      obtain ⟨own | own, apart⟩ := ih free' member char within
      · rcases List.mem_append.mp own with own | own
        · exact ⟨.inl own, apart⟩
        · exact ⟨.inr (List.mem_singleton.mp own ▸ List.mem_cons_self), apart⟩
      · exact ⟨.inr (List.mem_cons_of_mem _ own), apart⟩

/-- The pieces have characters of the text, and no separator. -/
theorem mem_splitString {separator : Char} {text piece : Text}
    (member : piece ∈ splitString text separator) :
    ∀ char ∈ piece, char ∈ text ∧ char ≠ separator := by
  intro char within
  obtain ⟨own | own, apart⟩ := mem_splitFrom List.not_mem_nil member char within
  · exact absurd own List.not_mem_nil
  · exact ⟨own, apart⟩

private theorem length_mem_splitFrom {separator : Char} {piece text own : Text}
    (member : own ∈ splitFrom separator piece text) : own.length ≤ piece.length + text.length := by
  induction text generalizing piece with
  | nil =>
    rw [splitFrom] at member
    split at member
    · exact absurd member List.not_mem_nil
    · exact (congrArg List.length (List.mem_singleton.mp member)).le
  | cons first text ih =>
    rw [splitFrom] at member
    rw [List.length_cons]
    split at member
    · rcases List.mem_cons.mp member with same | later
      · rw [same]
        exact Nat.le_add_right ..
      · have shorter := ih later
        rw [List.length_nil] at shorter
        omega
    · have shorter := ih member
      rw [List.length_append, List.length_singleton] at shorter
      omega

theorem length_mem_splitString {separator : Char} {text piece : Text}
    (member : piece ∈ splitString text separator) : piece.length ≤ text.length := by
  have shorter := length_mem_splitFrom member
  rw [List.length_nil, Nat.zero_add] at shorter
  exact shorter

private theorem length_splitFrom {separator : Char} {piece text : Text} :
    (splitFrom separator piece text).length = text.count separator +
      if piece ++ text = [] ∨ text.getLast? = some separator then 0 else 1 := by
  induction text generalizing piece with
  | nil =>
    rw [splitFrom, List.append_nil]
    by_cases empty : piece = []
    · rw [if_pos empty, if_pos (.inl empty)]
      rfl
    · have apart : ¬ (piece = [] ∨ ([] : Text).getLast? = some separator) := by
        rw [not_or]
        exact ⟨empty, Option.some_ne_none _ ∘ Eq.symm⟩
      rw [if_neg empty, if_neg apart]
      rfl
  | cons char text ih =>
    have nonempty : piece ++ char :: text ≠ [] := List.append_ne_nil_of_right_ne_nil _ (by simp)
    rw [splitFrom]
    by_cases separates : char = separator
    · have ending : (piece ++ char :: text = [] ∨ (char :: text).getLast? = some separator) ↔
          ([] ++ text = [] ∨ text.getLast? = some separator) := by
        cases text with
        | nil => simp [separates]
        | cons next text => simp [List.getLast?_cons_cons]
      rw [if_pos separates, List.length_cons, ih, if_congr ending rfl rfl, separates,
        List.count_cons_self]
      omega
    · have ending : (piece ++ char :: text = [] ∨ (char :: text).getLast? = some separator) ↔
          ((piece ++ [char]) ++ text = [] ∨ text.getLast? = some separator) := by
        cases text with
        | nil => simp [separates]
        | cons next text => simp [List.getLast?_cons_cons]
      rw [if_neg separates, ih, if_congr ending rfl rfl, List.count_cons_of_ne separates]

/-- Every separator ends a piece, and so does the end of the text unless a separator stands
there. -/
theorem length_splitString (text : Text) (separator : Char) :
    (splitString text separator).length = text.count separator +
      if text = [] ∨ text.getLast? = some separator then 0 else 1 :=
  length_splitFrom

def isLineEnd (char : Char) : Bool := char = '\r' || char = '\n'

/-- What `getLineContent` returns and leaves in its two outputs. -/
structure LineContent where
  ret : Int
  szContent : Text
  iContentLen : Nat

/-- `getLineContent`: the name is searched anywhere in the text, and its line ends at
the next line break. A content that fills the buffer is left there without its length. -/
def getLineContent (pszInBuff pszLineName : Text) (iMaxContentLen : Nat) : LineContent :=
  match strstr pszInBuff pszLineName with
  | none => ⟨-1, [], 0⟩
  | some offset =>
    let content := (pszInBuff.drop (offset + pszLineName.length)).takeWhile (!isLineEnd ·)
    if content.length < iMaxContentLen then
      ⟨pszLineName.length + content.length, content, content.length⟩
    else ⟨-1, content.take iMaxContentLen, 0⟩

/-- The direction an attribute line stands for, compared over the length of the line. -/
def directionOf (szAttrLine : Text) (iContentLen : Nat) : Option TransDir :=
  if strncmpEq szAttrLine "sendonly".toList iContentLen then some .sendonly
  else if strncmpEq szAttrLine "recvonly".toList iContentLen then some .recvonly
  else if strncmpEq szAttrLine "sendrecv".toList iContentLen then some .sendrecv
  else if strncmpEq szAttrLine "inactive".toList iContentLen then some .inactive
  else none

/-- What one attribute line does to the media information and the attribute index. -/
def storeAttrLine (szAttrLine : Text) (iContentLen : Nat) (info : MediaInfo)
    (iAttrIndex : Nat) : MediaInfo × Nat :=
  match directionOf szAttrLine iContentLen with
  | some dir => ({ info with eDir := dir }, iAttrIndex)
  | none =>
    if index : iAttrIndex < sdpMediaAttrMaxCount then
      let attr := info.sAttr[iAttrIndex]
      ({ info with sAttr := info.sAttr.set iAttrIndex { attr with szAttrLine := szAttrLine } },
        iAttrIndex + 1)
    else (info, iAttrIndex + 1)

/-- The loop of `parseMediaSdpBody` over the attribute lines; every round moves on by at
least one character. The position moves by the length of the line found, from where the
search began. -/
def attrLoop (iMaxInLen : Int) : Nat → Text → Int → Nat → MediaInfo → MediaInfo
  | 0, _, _, _, info => info
  | _ + 1, [], _, _, info => info
  | rounds + 1, pos@(_ :: _), iPosLen, iAttrIndex, info =>
    let line := getLineContent pos "a=".toList sipuaStringLineLen
    let moved := if line.ret > 0 then line.ret.toNat else 1
    let stored := if line.ret > 0 then storeAttrLine line.szContent line.iContentLen info iAttrIndex
      else (info, iAttrIndex)
    if iPosLen + moved ≥ iMaxInLen then stored.1
    else attrLoop iMaxInLen rounds (pos.drop moved) (iPosLen + moved) stored.2 stored.1

/-- The payload types of the media line, from its fourth piece on. -/
def storePayloadTypes (types : List Text) (info : MediaInfo) : MediaInfo :=
  { info with
    iAttrCount := types.length
    sAttr := info.sAttr.mapIdx (fun index attr =>
      match types[index]? with
      | some type => { attr with ePayloadType := atoi type }
      | none => attr) }

def parseMediaSdpBody (pMediaInfo : MediaInfo) (pszInBuff : Text) (iMaxInLen : Int)
    (pszMediaType : Text) : Int × MediaInfo :=
  if iMaxInLen ≤ 0 then (-1, pMediaInfo)
  else
    let unused := { pMediaInfo with ucUseFlag := 0 }
    match strstr pszInBuff pszMediaType with
    | none => (-1, unused)
    | some 0 => (-1, unused)
    | some iPosLen =>
      let pos := pszInBuff.drop iPosLen
      let line := getLineContent pos "m=".toList sipuaStringLineLen
      if line.ret ≤ 0 then (-1, unused)
      else
        match splitString line.szContent ' ' with
        | _ :: port :: proto :: type :: types =>
          let lined := storePayloadTypes (type :: types)
            { unused with port := atoi port, szProto := proto }
          let rest := pos.drop line.ret.toNat
          let parsed := attrLoop iMaxInLen rest.length rest (iPosLen + line.ret) 0 lined
          (0, { parsed with ucUseFlag := 1 })
        | _ => (-1, unused)

/-- The connection address, which goes to both sections. -/
def storeAddress (info : SdpInfo) : SdpInfo :=
  match splitString info.szConnection ' ' with
  | _ :: _ :: addr :: _ =>
    { info with
      sVideoMediaInfo := { info.sVideoMediaInfo with szAddr := addr }
      sAudioMediaInfo := { info.sAudioMediaInfo with szAddr := addr } }
  | _ => info

def storeTime (szTime : Text) (info : SdpInfo) : SdpInfo :=
  match splitString szTime ' ' with
  | timeBegin :: timeEnd :: _ =>
    { info with i64TimeBegin := atoll timeBegin, i64TimeEnd := atoll timeEnd }
  | _ => info

def parseSdpBody (pszBody : Text) (iBodyLen : Int) (pSdpInfo : SdpInfo) : Int × SdpInfo :=
  if iBodyLen ≤ 0 then (-1, pSdpInfo)
  else
    let line (name : String) (size : Nat) := (getLineContent pszBody name.toList size).szContent
    let info := { pSdpInfo with
      szVersion := line "v=" sipuaStringLineLen
      szOrigin := line "o=" sipuaStringLineLen
      szSessionName := line "s=" sipuaStringLineLen
      szUri := line "u=" sipuaStringLineLen
      szConnection := line "c=" sipuaStringLineLen
      szY := line "y=" sipuaStringLineLen
      szF := line "f=" sipuaStringLineLen
      szX := line "x=" sdpXLineStringLen
      sVideoMediaInfo :=
        (parseMediaSdpBody pSdpInfo.sVideoMediaInfo pszBody iBodyLen "m=video".toList).2
      sAudioMediaInfo :=
        (parseMediaSdpBody pSdpInfo.sAudioMediaInfo pszBody iBodyLen "m=audio".toList).2 }
    (0, storeTime (line "t=" sipuaStringLineLen) (storeAddress info))

def parseSubjectHeader (pSubjectInfo : SubjectInfo) (pszSubject : Text) : Int × SubjectInfo :=
  match splitString pszSubject ',' with
  | [sender, recver] =>
    match splitString sender ':', splitString recver ':' with
    | [senderId, senderSeq], [recverId, recverSeq] =>
      (0, ⟨senderId, senderSeq, recverId, recverSeq⟩)
    | _, _ => (0, pSubjectInfo)
  | _ => (-1, pSubjectInfo)

/-- A text printed into a buffer of a size, with its closing zero. -/
def printed (size : Nat) (text : Text) : Option Text := if text.length < size then some text else none

/-- The loop of `mediaInfo2String`: the payload types and the attribute lines. There is
no result where it reads behind `sAttr`. -/
def attrStrings (info : MediaInfo) : Nat → Nat → Text → Text → Option (Text × Text)
  | 0, _, szAttrList, szAttrs => some (szAttrList, szAttrs)
  | left + 1, i, szAttrList, szAttrs => do
    let attr ← info.sAttr[i]?
    let separator := if i = info.iAttrCount - 1 then "\r\n".toList else " ".toList
    let szAttrList ← printed 256 (szAttrList ++ decimal attr.ePayloadType ++ separator)
    let szALine ← printed sipuaStringLineLen ("a=".toList ++ attr.szAttrLine ++ "\r\n".toList)
    let szAttrs ← printed 1024 (szAttrs ++ szALine)
    attrStrings info left (i + 1) szAttrList szAttrs

def dirString : TransDir → Text
  | .sendonly => "a=sendonly\r\n".toList
  | .recvonly => "a=recvonly\r\n".toList
  | .sendrecv => "a=sendrecv\r\n".toList
  | .inactive => "a=inactive\r\n".toList
  | .unknown => []

def mediaInfo2String (info : MediaInfo) (pszStreamType : Text) : Option Text := do
  let szMLine ← printed 256 ("m=".toList ++ pszStreamType ++ " ".toList ++ decimal info.port ++
    " ".toList ++ info.szProto ++ " ".toList)
  let (szAttrList, szAttrs) ← attrStrings info info.iAttrCount 0 [] []
  let szMLine ← printed 256 (szMLine ++ szAttrList)
  printed 1024 (szMLine ++ dirString info.eDir ++ szAttrs)

/-- `STRCAT_SDP_LINE` on a body of 1024 bytes. -/
def strcatSdpLine (str : Text) (lineName : String) (szValue : Text) : Option Text :=
  if szValue = [] then some str
  else do
    let szSdpLine ← printed sipuaStringLineLen
      (lineName.toList ++ "=".toList ++ szValue ++ "\r\n".toList)
    printed 1024 (str ++ szSdpLine)

def mediaLine (info : MediaInfo) (printedInfo : MediaInfo) (pszStreamType : Text) : Option Text :=
  if info.ucUseFlag = 1 then mediaInfo2String printedInfo pszStreamType else some []

/-- `sdpInfo2BodyString`. The audio section is printed from the video information. -/
def sdpInfo2BodyString (info : SdpInfo) : Option Text := do
  let video ← mediaLine info.sVideoMediaInfo info.sVideoMediaInfo "video".toList
  let audio ← mediaLine info.sAudioMediaInfo info.sVideoMediaInfo "audio".toList
  let body ← strcatSdpLine [] "v" info.szVersion
  let body ← strcatSdpLine body "o" info.szOrigin
  let body ← strcatSdpLine body "s" info.szSessionName
  let body ← strcatSdpLine body "u" info.szUri
  let body ← strcatSdpLine body "c" info.szConnection
  let szTimeLine ← printed sipuaStringLineLen
    (decimal info.i64TimeBegin ++ " ".toList ++ decimal info.i64TimeEnd)
  let body ← strcatSdpLine body "t" szTimeLine
  let body ← printed 1024 (body ++ (video ++ audio))
  let body ← strcatSdpLine body "y" info.szY
  let body ← strcatSdpLine body "f" info.szF
  strcatSdpLine body "x" info.szX

def subjectInfo2String (info : SubjectInfo) : Text :=
  info.szSenderId ++ ":".toList ++ info.szSenderStreamSeq ++ ",".toList ++
    info.szRecverId ++ ":".toList ++ info.szRecverStreamSeq

end Gb28181.SipUA
