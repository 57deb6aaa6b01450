import Gb28181.SipUA.Printing
import Gb28181.SipUA.SessionFields

namespace Gb28181.SipUA

open Gb28181.Lib

/-- A session that can be printed: no section has more attributes than slots, and everything
fits where it is written. -/
structure SdpInfo.Printable (info : SdpInfo) : Prop where
  video : info.sVideoMediaInfo.iAttrCount ≤ sdpMediaAttrMaxCount
  audio : info.sAudioMediaInfo.iAttrCount ≤ sdpMediaAttrMaxCount
  body : (sdpInfo2BodyString info).isSome

/-- The attribute lines that are found behind a position, one after the other. -/
def attrsFrom (iMaxInLen : Int) : Nat → Text → Int → List Text
  | 0, _, _ => []
  | _ + 1, [], _ => []
  | rounds + 1, pos@(_ :: _), iPosLen =>
    let line := getLineContent pos "a=".toList sipuaStringLineLen
    let moved := if line.ret > 0 then line.ret.toNat else 1
    let found := if line.ret > 0 then [line.szContent] else []
    if iPosLen + moved ≥ iMaxInLen then found
    else found ++ attrsFrom iMaxInLen rounds (pos.drop moved) (iPosLen + moved)

/-- A media section, as it is found in a body. -/
structure Found where
  port : Int
  proto : Text
  types : List Int
  dir : TransDir
  attrs : List Text

namespace Found

/-- What stands for a section that is not found. -/
def missing : Found := ⟨0, [], [], .unknown, []⟩

/-- An attribute line is a direction or one attribute more. -/
def read (found : Found) (szAttrLine : Text) : Found :=
  match directionOf szAttrLine szAttrLine.length with
  | some dir => { found with dir := dir }
  | none => { found with attrs := found.attrs ++ [szAttrLine] }

/-- The attribute line of each payload type. -/
def lines (found : Found) : List Text :=
  (List.range found.types.length).map (fun index => found.attrs[index]?.getD [])

def info (found : Found) : MediaInfo :=
  sectionInfo found.port found.proto found.types found.dir found.attrs

end Found

/-- The section behind the first place with the name of a media type. -/
def findSection (pszMediaType text : Text) (iBodyLen : Int) : Option Found :=
  match strstr text pszMediaType with
  | none => none
  | some 0 => none
  | some iPosLen =>
    let pos := text.drop iPosLen
    let line := getLineContent pos "m=".toList sipuaStringLineLen
    if line.ret ≤ 0 then none
    else
      match splitString line.szContent ' ' with
      | _ :: port :: proto :: type :: types =>
        let rest := pos.drop line.ret.toNat
        let lined : Found := ⟨atoi port, proto, (type :: types).map atoi, .unknown, []⟩
        some ((attrsFrom iBodyLen rest.length rest (iPosLen + line.ret)).foldl Found.read lined)
      | _ => none

def videoIn (text : Text) (iBodyLen : Int) : Option Found := findSection "m=video".toList text iBodyLen

def audioIn (text : Text) (iBodyLen : Int) : Option Found := findSection "m=audio".toList text iBodyLen

/-- A section as it is written. Both are written from what was found for the video. -/
def sectionText (pszStreamType : Text) (found video : Option Found) : Text :=
  if found.isSome then
    mediaText pszStreamType (video.getD .missing).info (video.getD .missing).types (video.getD .missing).lines
  else []

/-- The lines in front of the sections and behind them. -/
def linesBefore (text : Text) : List (Char × Text) :=
  ['v', 'o', 's', 'u', 'c'].map (fun letter => (letter, lineOf letter text)) ++
    [('t', decimal (timesIn (lineOf 't' text)).1 ++ " ".toList ++ decimal (timesIn (lineOf 't' text)).2)]

def linesAfter (text : Text) : List (Char × Text) :=
  ['y', 'f', 'x'].map (fun letter => (letter, lineOf letter text))

/-- The body that is written for a text. -/
def writtenBody (text : Text) (iBodyLen : Int) : Text :=
  fieldTexts (linesBefore text) ++
    (sectionText "video".toList (videoIn text iBodyLen) (videoIn text iBodyLen) ++
      sectionText "audio".toList (audioIn text iBodyLen) (videoIn text iBodyLen)) ++
    fieldTexts (linesAfter text)

/-- A media line names eight payload types at most, each line that is written has less than 124
characters behind its `=`, and the whole has less than 1024. -/
structure BodyFits (text : Text) (iBodyLen : Int) : Prop where
  video : ∀ found ∈ videoIn text iBodyLen, found.types.length ≤ sdpMediaAttrMaxCount ∧
    ∀ line ∈ found.lines, line.length + 4 < sipuaStringLineLen
  audio : ∀ found ∈ audioIn text iBodyLen, found.types.length ≤ sdpMediaAttrMaxCount
  fields : ∀ letter ∈ ['v', 'o', 's', 'u', 'c', 'y', 'f', 'x'],
    (lineOf letter text).length + 4 < sipuaStringLineLen
  whole : (writtenBody text iBodyLen).length < 1024

variable {text pos : Text} {found : Found} {iMaxInLen iBodyLen iPosLen : Int} {rounds : Nat}

/-- A section that is still being read. -/
def Found.unused (found : Found) : MediaInfo := { found.info with ucUseFlag := 0 }

/-- One attribute more goes to the slot of its number, if there is one. -/
theorem unused_append (found : Found) (szAttrLine : Text) :
    Found.unused { found with attrs := found.attrs ++ [szAttrLine] } =
      found.unused.withLine found.attrs.length szAttrLine := by
  have slot : ∀ index : Nat, (found.attrs ++ [szAttrLine])[index]?.getD [] =
      if index = found.attrs.length then szAttrLine else found.attrs[index]?.getD [] := by
    intro index
    split
    case isTrue same =>
      rw [same, List.getElem?_concat_length]
      rfl
    case isFalse other =>
      rw [List.getElem?_append]
      split
      · rfl
      · rw [List.getElem?_eq_none (by rw [List.length_singleton]; omega),
          List.getElem?_eq_none (by omega)]
  unfold MediaInfo.withLine
  split
  case isTrue inside =>
    have slots : (Found.unused { found with attrs := found.attrs ++ [szAttrLine] }).sAttr =
        found.unused.sAttr.set found.attrs.length
          { found.unused.sAttr[found.attrs.length] with szAttrLine := szAttrLine } := by
      apply Vector.ext
      intro index inRange
      rw [Vector.getElem_set]
      simp only [Found.unused, Found.info, sectionInfo, Vector.getElem_ofFn, slot]
      by_cases same : index = found.attrs.length
      · subst same
        rw [if_pos rfl, if_pos rfl]
      · rw [if_neg same, if_neg (Ne.symm same)]
    exact congrArg (fun sAttr => { found.unused with sAttr := sAttr }) slots
  case isFalse beyond =>
    have slots : (Found.unused { found with attrs := found.attrs ++ [szAttrLine] }).sAttr =
        found.unused.sAttr := by
      apply Vector.ext
      intro index inRange
      simp only [Found.unused, Found.info, sectionInfo, Vector.getElem_ofFn, slot]
      rw [if_neg (by omega)]
    exact congrArg (fun sAttr => { found.unused with sAttr := sAttr }) slots

theorem storeAttr_found (found : Found) (szAttrLine : Text) :
    storeAttr (found.unused, found.attrs.length) szAttrLine =
      ((found.read szAttrLine).unused, (found.read szAttrLine).attrs.length) := by
  unfold storeAttr storeAttrLine Found.read
  dsimp only
  cases directionOf szAttrLine szAttrLine.length with
  | some dir => rfl
  | none =>
    dsimp only
    rw [unused_append, MediaInfo.withLine, List.length_append, List.length_singleton]
    split <;> rfl

theorem attrLoop_attrsFrom (found : Found) :
    attrLoop iMaxInLen rounds pos iPosLen found.attrs.length found.unused =
      ((attrsFrom iMaxInLen rounds pos iPosLen).foldl Found.read found).unused := by
  induction rounds generalizing pos iPosLen found with
  | zero => cases pos <;> rfl
  | succ rounds ih =>
    cases pos with
    | nil => rfl
    | cons char rest =>
      have content := @getLineContent_taken (char :: rest) "a=".toList sipuaStringLineLen
      rw [attrLoop.eq_3, attrsFrom]
      generalize getLineContent (char :: rest) "a=".toList sipuaStringLineLen = line at content ⊢
      by_cases taken : line.ret > 0
      · have stored := storeAttr_found found line.szContent
        rw [storeAttr, ← (content taken).1] at stored
        rw [if_pos taken, if_pos taken, if_pos taken, stored]
        split
        · rfl
        · rw [List.singleton_append, List.foldl_cons]
          exact ih _
      · rw [if_neg taken, if_neg taken, if_neg taken]
        split
        · rfl
        · exact ih _

theorem storePayloadTypes_zero (port : Int) (proto : Text) (types : List Text) :
    storePayloadTypes types { MediaInfo.zero with ucUseFlag := 0, port := port, szProto := proto } =
      Found.unused ⟨port, proto, types.map atoi, .unknown, []⟩ := by
  have slots : (storePayloadTypes types MediaInfo.zero).sAttr =
      (Found.unused ⟨port, proto, types.map atoi, .unknown, []⟩).sAttr := by
    apply Vector.ext
    intro index inRange
    simp only [storePayloadTypes, MediaInfo.zero, Found.unused, Found.info, sectionInfo,
      Vector.getElem_mapIdx, Vector.getElem_replicate, Vector.getElem_ofFn, List.getElem?_map]
    cases types[index]? with
    | none => rfl
    | some type => rfl
  have count : types.length = (types.map atoi).length := (List.length_map ..).symm
  exact congrArg₂ (fun count sAttr => ({ MediaInfo.zero with
    ucUseFlag := 0, port := port, szProto := proto, iAttrCount := count, sAttr := sAttr } : MediaInfo))
    count slots

/-- The section that is stored is the one that is found. -/
theorem parseMediaSdpBody_eq (pszMediaType text : Text) (positive : 0 < iBodyLen) :
    (parseMediaSdpBody .zero text iBodyLen pszMediaType).2 =
      (findSection pszMediaType text iBodyLen).elim .zero Found.info := by
  unfold parseMediaSdpBody findSection
  rw [if_neg (not_le.mpr positive)]
  cases strstr text pszMediaType with
  | none => rfl
  | some start =>
    cases start with
    | zero => rfl
    | succ before =>
      change ((if (getLineContent (text.drop (before + 1)) "m=".toList sipuaStringLineLen).ret ≤ 0
        then _ else _ : Int × MediaInfo)).2 = Option.elim (if (getLineContent
          (text.drop (before + 1)) "m=".toList sipuaStringLineLen).ret ≤ 0 then _ else _) _ _
      generalize getLineContent (text.drop (before + 1)) "m=".toList sipuaStringLineLen = line
      by_cases missing : line.ret ≤ 0
      · rw [if_pos missing, if_pos missing]
        rfl
      · rw [if_neg missing, if_neg missing]
        match splitString line.szContent ' ' with
        | [] => rfl
        | [_] => rfl
        | [_, _] => rfl
        | [_, _, _] => rfl
        | _ :: port :: proto :: type :: types =>
          have loop := @attrLoop_attrsFrom
            ((text.drop (before + 1)).drop line.ret.toNat) iBodyLen ((before + 1 : Nat) + line.ret)
            ((text.drop (before + 1)).drop line.ret.toNat).length
            ⟨atoi port, proto, (type :: types).map atoi, .unknown, []⟩
          rw [← storePayloadTypes_zero] at loop
          exact congrArg (fun info => { info with ucUseFlag := 1 }) loop

theorem length_lines (found : Found) : found.lines.length = found.types.length := by
  rw [Found.lines, List.length_map, List.length_range]

/-- The media information of a section that was looked for. -/
def infoOf (section_ : Option Found) (szAddr : Text) : MediaInfo :=
  { section_.elim .zero Found.info with szAddr := szAddr }

theorem slots_infoOf (section_ : Option Found) (szAddr : Text) :
    (infoOf section_ szAddr).Slots (section_.getD .missing).types (section_.getD .missing).lines := by
  cases section_ with
  | none => exact ⟨rfl, rfl, fun index inside => absurd inside (Nat.not_lt_zero index)⟩
  | some found =>
    refine ⟨rfl, length_lines found, ?_⟩
    intro index inside filled inRange
    show (Vector.ofFn _)[index]? = _
    rw [Vector.getElem?_eq_getElem inRange, Vector.getElem_ofFn]
    simp only [Option.getD_some, Found.lines, List.getElem_map, List.getElem_range]
    rw [@List.getElem?_eq_getElem _ found.types index inside]
    rfl

theorem length_typeList (types : List Int) (short : ∀ type ∈ types, (decimal type).length ≤ 11) :
    (typeList types).length ≤ 13 * types.length := by
  induction types with
  | nil => exact Nat.le_refl 0
  | cons type types ih =>
    obtain ⟨here, there⟩ := List.forall_mem_cons.mp short
    have rest := ih there
    rw [typeList, List.length_append, List.length_append, List.length_cons]
    split
    · rw [List.length_cons, List.length_singleton]
      omega
    · rw [List.length_singleton]
      omega

/-- What the media line of a section holds is short. -/
structure Found.Short (found : Found) : Prop where
  port : (decimal found.port).length ≤ 11
  proto : found.proto.length < sipuaStringLineLen
  types : ∀ type ∈ found.types, (decimal type).length ≤ 11

theorem short_foldl_read (lines : List Text) (short : found.Short) :
    (lines.foldl Found.read found).Short := by
  induction lines generalizing found with
  | nil => exact short
  | cons line lines ih =>
    apply ih
    unfold Found.read
    split
    · exact ⟨short.port, short.proto, short.types⟩
    · exact ⟨short.port, short.proto, short.types⟩

theorem short_of_findSection {pszMediaType : Text}
    (here : findSection pszMediaType text iBodyLen = some found) : found.Short := by
  unfold findSection at here
  split at here
  · exact nomatch here
  · exact nomatch here
  · dsimp only at here
    split at here
    · exact nomatch here
    · rename_i taken
      obtain ⟨-, fits⟩ := getLineContent_taken (not_le.mp taken)
      split at here
      · rename_i name port proto type types pieces
        obtain rfl := Option.some.inj here
        apply short_foldl_read
        refine ⟨length_decimal_bmod _, ?_, ?_⟩
        · have member : proto ∈ splitString _ ' ' := pieces ▸ List.mem_cons_of_mem _
            (List.mem_cons_of_mem _ List.mem_cons_self)
          exact Nat.lt_of_le_of_lt (length_mem_splitString member) fits
        · intro type member
          obtain ⟨piece, -, rfl⟩ := List.mem_map.mp member
          exact length_decimal_bmod _
      · exact nomatch here

theorem short_getD {pszMediaType : Text} :
    ((findSection pszMediaType text iBodyLen).getD .missing).Short := by
  cases here : findSection pszMediaType text iBodyLen with
  | none => exact ⟨by decide, by decide, nofun⟩
  | some found => exact short_of_findSection here

/-- With eight payload types at most the media line fits. -/
theorem mediaHead_fits {pszStreamType : Text} (short : found.Short) (name : pszStreamType.length = 5)
    (few : found.types.length ≤ sdpMediaAttrMaxCount) :
    (mediaHead pszStreamType found.port found.proto ++ typeList found.types).length < 256 := by
  have list := length_typeList found.types short.types
  have port := short.port
  have proto := short.proto
  unfold sdpMediaAttrMaxCount at few
  unfold sipuaStringLineLen at proto
  have blanks : "m=".toList.length = 2 ∧ " ".toList.length = 1 := by decide
  rw [List.length_append, mediaHead]
  simp only [List.length_append, blanks.1, blanks.2, name]
  omega

theorem mediaLine_eq_some {used video : Option Found} {szAddr pszStreamType out : Text}
    (short : (video.getD .missing).Short) (name : pszStreamType.length = 5)
    (few : (video.getD .missing).types.length ≤ sdpMediaAttrMaxCount) :
    mediaLine (infoOf used szAddr) (infoOf video szAddr) pszStreamType = some out ↔
      (used.isSome → (∀ line ∈ (video.getD .missing).lines, line.length + 4 < sipuaStringLineLen) ∧
        (sectionText pszStreamType used video).length < 1024) ∧
      out = sectionText pszStreamType used video := by
  have text : ∀ types attrs, mediaText pszStreamType (infoOf video szAddr) types attrs =
      mediaText pszStreamType (video.getD .missing).info types attrs := by
    intro types attrs
    cases video <;> rfl
  have head := mediaHead_fits short name few
  have line : (mediaHead pszStreamType (infoOf video szAddr).port (infoOf video szAddr).szProto ++
      typeList (video.getD .missing).types).length < 256 := by
    cases video <;> exact head
  unfold sectionText
  cases used with
  | none =>
    have unused : mediaLine (infoOf none szAddr) (infoOf video szAddr) pszStreamType = some [] :=
      if_neg Nat.zero_ne_one
    rw [unused, Option.some.injEq]
    exact ⟨fun same => ⟨nofun, same.symm⟩, fun right => right.2.symm⟩
  | some found =>
    have printed : mediaLine (infoOf (some found) szAddr) (infoOf video szAddr) pszStreamType =
        mediaInfo2String (infoOf video szAddr) pszStreamType := if_pos rfl
    rw [printed, mediaInfo2String_eq_some (slots_infoOf video szAddr), text, if_pos Option.isSome_some]
    constructor
    · rintro ⟨-, short, -, whole, same⟩
      exact ⟨fun _ => ⟨short, whole⟩, same⟩
    · rintro ⟨fits, same⟩
      obtain ⟨short, whole⟩ := fits rfl
      exact ⟨few, short, line, whole, same⟩

theorem timeLine_fits (szTime : Text) : (decimal (timesIn szTime).1 ++ " ".toList ++
    decimal (timesIn szTime).2).length + 4 < sipuaStringLineLen := by
  have zero : (decimal 0).length ≤ 20 := by decide
  have both : (decimal (timesIn szTime).1).length ≤ 20 ∧ (decimal (timesIn szTime).2).length ≤ 20 := by
    unfold timesIn
    split
    · exact ⟨length_decimal_atoll _, length_decimal_atoll _⟩
    · exact ⟨zero, zero⟩
  have blank : " ".toList.length = 1 := by decide
  unfold sipuaStringLineLen
  rw [List.length_append, List.length_append, blank]
  omega

/-- The lines of the session fit if those with a text of the body do. -/
theorem fields_fit_iff : (∀ field ∈ linesBefore text ++ linesAfter text,
      field.2.length + 4 < sipuaStringLineLen) ↔
    ∀ letter ∈ ['v', 'o', 's', 'u', 'c', 'y', 'f', 'x'],
      (lineOf letter text).length + 4 < sipuaStringLineLen := by
  have time := timeLine_fits (lineOf 't' text)
  simp only [linesBefore, linesAfter, List.map_cons, List.map_nil, List.cons_append, List.nil_append,
    List.forall_mem_cons, List.not_mem_nil, false_implies, implies_true, time, true_and]

/-- What was read can be printed exactly if the body fits. -/
theorem printable_iff (text : Text) (iBodyLen : Int)
    (accepted : (parseSdpBody text iBodyLen .zero).1 = 0) :
    (parseSdpBody text iBodyLen .zero).2.Printable ↔ BodyFits text iBodyLen := by
  have positive : 0 < iBodyLen := by
    by_contra none
    rw [parseSdpBody, if_pos (not_lt.mp none)] at accepted
    exact absurd accepted (by decide)
  obtain ⟨szAddr, -, parsed⟩ := @parseSdpBody_eq text iBodyLen positive
  have video : (sessionIn text iBodyLen szAddr).sVideoMediaInfo = infoOf (videoIn text iBodyLen) szAddr :=
    congrArg (fun info => { info with szAddr := szAddr }) (parseMediaSdpBody_eq _ text positive)
  have audio : (sessionIn text iBodyLen szAddr).sAudioMediaInfo = infoOf (audioIn text iBodyLen) szAddr :=
    congrArg (fun info => { info with szAddr := szAddr }) (parseMediaSdpBody_eq _ text positive)
  have before : (sessionIn text iBodyLen szAddr).fieldsBefore = linesBefore text := rfl
  have after : (sessionIn text iBodyLen szAddr).fieldsAfter = linesAfter text := rfl
  have short : ((videoIn text iBodyLen).getD .missing).Short := short_getD
  have videoName : "video".toList.length = 5 := by decide
  have audioName : "audio".toList.length = 5 := by decide
  have videoCount := (slots_infoOf (videoIn text iBodyLen) szAddr).count
  have audioCount := (slots_infoOf (audioIn text iBodyLen) szAddr).count
  rw [parsed]
  constructor
  · rintro ⟨fewVideo, fewAudio, written⟩
    obtain ⟨out, written⟩ := Option.isSome_iff_exists.mp written
    obtain ⟨videoText, audioText, hasVideo, hasAudio, fields, whole, -⟩ :=
      sdpInfo2BodyString_eq_some.mp written
    rw [video, videoCount] at fewVideo
    rw [audio, audioCount] at fewAudio
    rw [video] at hasVideo hasAudio
    rw [audio] at hasAudio
    rw [before, after] at fields whole
    obtain ⟨videoFits, rfl⟩ := (mediaLine_eq_some short videoName fewVideo).mp hasVideo
    obtain ⟨-, rfl⟩ := (mediaLine_eq_some short audioName fewVideo).mp hasAudio
    refine ⟨?_, ?_, fields_fit_iff.mp fields, whole⟩
    · intro found here
      rw [Option.mem_def.mp here] at fewVideo videoFits
      exact ⟨fewVideo, (videoFits rfl).1⟩
    · intro found here
      rw [Option.mem_def.mp here] at fewAudio
      exact fewAudio
  · rintro ⟨fitsVideo, fewAudio, fields, whole⟩
    have few : ∀ section_ : Option Found,
        (∀ found ∈ section_, found.types.length ≤ sdpMediaAttrMaxCount) →
          (section_.getD .missing).types.length ≤ sdpMediaAttrMaxCount := by
      intro section_ most
      cases section_ with
      | none => exact Nat.zero_le _
      | some found => exact most found rfl
    have fewVideo := few _ (fun found here => (fitsVideo found here).1)
    have lines : ∀ line ∈ ((videoIn text iBodyLen).getD .missing).lines,
        line.length + 4 < sipuaStringLineLen := by
      cases here : videoIn text iBodyLen with
      | none => exact nofun
      | some found => exact (fitsVideo found here).2
    have sections : ∀ own : Text, own.length ≤
        (sectionText "video".toList (videoIn text iBodyLen) (videoIn text iBodyLen) ++
          sectionText "audio".toList (audioIn text iBodyLen) (videoIn text iBodyLen)).length →
        own.length < 1024 := by
      intro own part
      rw [writtenBody, List.length_append, List.length_append] at whole
      omega
    refine ⟨?_, ?_, Option.isSome_iff_exists.mpr ⟨writtenBody text iBodyLen, ?_⟩⟩
    · rw [video, videoCount]
      exact fewVideo
    · rw [audio, audioCount]
      exact few _ fewAudio
    · apply sdpInfo2BodyString_eq_some.mpr
      rw [video, audio, before, after]
      refine ⟨_, _, (mediaLine_eq_some short videoName fewVideo).mpr ⟨fun _ => ⟨lines, ?_⟩, rfl⟩,
        (mediaLine_eq_some short audioName fewVideo).mpr ⟨fun _ => ⟨lines, ?_⟩, rfl⟩,
        fields_fit_iff.mpr fields, whole, rfl⟩
      · apply sections
        rw [List.length_append]
        exact Nat.le_add_right ..
      · apply sections
        rw [List.length_append]
        exact Nat.le_add_left ..

def plainText : Text :=
  "v=0\r\nt=0 0\r\nm=video 6000 RTP/AVP 96 98\r\na=rtpmap:96 PS/90000\r\na=rtpmap:98 H264/90000\r\n".toList

theorem plainText_printable : (parseSdpBody plainText plainText.length .zero).2.Printable := by
  have spelled : plainText = _ := toList_literal _ rfl
  rw [spelled]
  refine (printable_iff _ _ (by decide)).mpr ⟨?_, ?_, ?_, ?_⟩ <;> decide +kernel

/-- A body whose media line names nine payload types. -/
def crowdedText : Text :=
  "v=0\r\ns=Play\r\nt=0 0\r\nm=video 6000 RTP/AVP 0 3 4 8 9 18 96 97 98\r\n".toList

theorem crowdedText_not_printable : ¬ ∀ (text : Text) (iBodyLen : Int),
    (parseSdpBody text iBodyLen .zero).1 = 0 → (parseSdpBody text iBodyLen .zero).2.Printable := by
  intro printable
  have parsed : (parseSdpBody crowdedText crowdedText.length .zero).1 = 0 ∧
      (parseSdpBody crowdedText crowdedText.length .zero).2.sVideoMediaInfo.iAttrCount = 9 := by
    have spelled : crowdedText = _ := toList_literal _ rfl
    rw [spelled]
    decide +kernel
  have few := (printable crowdedText crowdedText.length parsed.1).video
  rw [parsed.2] at few
  exact absurd few (by decide)

end Gb28181.SipUA
