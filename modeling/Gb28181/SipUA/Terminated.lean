import Gb28181.SipUA.SessionFields

namespace Gb28181.SipUA

open Gb28181.Lib

/-- An array that was zero before a text was written into it. -/
def textArray (size : Nat) (text : Text) : Text := text ++ List.replicate (size - text.length) '\x00'

/-- So many characters have been written, none behind the array, and there is a zero in it. -/
structure Terminated (size : Nat) (text : Text) (written : Nat) : Prop where
  inside : written ≤ size
  zero : '\x00' ∈ (textArray size text).take size

/-- A field that `getLineContent` fills. -/
def Filled (size : Nat) (text : Text) : Prop := Terminated size text text.length

/-- A field that `strcpy` fills. -/
def Copied (size : Nat) (text : Text) : Prop := Terminated size text (text.length + 1)

structure MediaInfo.Terminated (info : MediaInfo) : Prop where
  szAddr : Copied sipuaStringLineLen info.szAddr
  szProto : Copied sipuaStringLineLen info.szProto
  szAttrLine : ∀ index (inRange : index < sdpMediaAttrMaxCount),
    Copied sipuaStringLineLen info.sAttr[index].szAttrLine

structure SdpInfo.Terminated (info : SdpInfo) : Prop where
  szVersion : Filled sipuaStringLineLen info.szVersion
  szOrigin : Filled sipuaStringLineLen info.szOrigin
  szSessionName : Filled sipuaStringLineLen info.szSessionName
  szUri : Filled sipuaStringLineLen info.szUri
  szConnection : Filled sipuaStringLineLen info.szConnection
  szY : Filled sipuaStringLineLen info.szY
  szF : Filled sipuaStringLineLen info.szF
  szX : Filled sdpXLineStringLen info.szX
  video : info.sVideoMediaInfo.Terminated
  audio : info.sAudioMediaInfo.Terminated

/-- What stands behind the first place with a letter and `=`, up to the line end, fits. -/
def ShortHit (letter : Char) (text : Text) : Prop :=
  ∀ offset, Occurs text [letter, '='] offset →
    (∀ earlier < offset, ¬ Occurs text [letter, '='] earlier) →
      ((text.drop (offset + 2)).takeWhile (!isLineEnd ·)).length < fieldSize letter

variable {size : Nat} {text : Text} {letter : Char}

theorem zero_of_short (short : text.length < size) : '\x00' ∈ (textArray size text).take size := by
  have length : (textArray size text).length = size := by
    unfold textArray
    rw [List.length_append, List.length_replicate]
    omega
  rw [List.take_of_length_le length.le]
  apply List.mem_append_right
  exact List.mem_replicate.mpr ⟨Nat.sub_ne_zero_of_lt short, rfl⟩

theorem filled_of_short (short : text.length < size) : Filled size text :=
  ⟨short.le, zero_of_short short⟩

theorem copied_of_short (short : text.length < size) : Copied size text :=
  ⟨short, zero_of_short short⟩

theorem short_of_filled (free : '\x00' ∉ text) (filled : Filled size text) : text.length < size := by
  apply Nat.lt_of_not_le
  intro full
  have array : (textArray size text).take size = text.take size := by
    unfold textArray
    rw [Nat.sub_eq_zero_of_le full, List.replicate_zero, List.append_nil]
  exact free (List.mem_of_mem_take (array ▸ filled.zero))

theorem length_lineOf_iff : (lineOf letter text).length < fieldSize letter ↔ ShortHit letter text := by
  unfold lineOf getLineContent
  cases found : strstr text [letter, '='] with
  | none =>
    have positive : 0 < fieldSize letter := by
      unfold fieldSize
      split <;> decide
    have nowhere := strstr_isNone_iff.mp found
    exact iff_of_true positive (fun offset occurs => absurd occurs (nowhere offset))
  | some offset =>
    obtain ⟨occurs, first⟩ := occurs_of_strstr found
    have hit : ShortHit letter text ↔
        ((text.drop (offset + 2)).takeWhile (!isLineEnd ·)).length < fieldSize letter := by
      constructor
      · exact fun short => short offset occurs first
      · intro short other otherOccurs otherFirst
        have same : offset = other := by
          rcases Nat.lt_trichotomy offset other with before | same | behind
          · exact absurd occurs (otherFirst offset before)
          · exact same
          · exact absurd otherOccurs (first other behind)
        exact same ▸ short
    rw [hit]
    dsimp only [List.length_cons, List.length_nil]
    split
    · exact Iff.rfl
    · rename_i long
      apply iff_of_false _ long
      dsimp only
      rw [List.length_take_of_le (Nat.le_of_not_lt long)]
      exact Nat.lt_irrefl _

theorem zero_not_mem_lineOf (free : '\x00' ∉ text) : '\x00' ∉ lineOf letter text := by
  unfold lineOf getLineContent
  split
  · exact List.not_mem_nil
  · have content : ∀ count, '\x00' ∉ (text.drop count).takeWhile (!isLineEnd ·) :=
      fun count member => free (List.mem_of_mem_drop (List.takeWhile_subset _ member))
    dsimp only
    split
    · exact content _
    · exact fun member => content _ (List.mem_of_mem_take member)

/-- What is in the arrays of a section fits. -/
structure MediaInfo.Short (info : MediaInfo) : Prop where
  szProto : info.szProto.length < sipuaStringLineLen
  szAttrLine : ∀ index (inRange : index < sdpMediaAttrMaxCount),
    info.sAttr[index].szAttrLine.length < sipuaStringLineLen

theorem MediaInfo.short_zero : MediaInfo.zero.Short where
  szProto := by decide
  szAttrLine := by
    intro index inRange
    have slot : MediaInfo.zero.sAttr[index] = ⟨0, []⟩ := Vector.getElem_replicate ..
    rw [slot]
    decide

theorem storeAttrLine_short {line : Text} (fits : line.length < sipuaStringLineLen)
    (info : MediaInfo) (index : Nat) (short : info.Short) :
    (storeAttrLine line line.length info index).1.Short := by
  unfold storeAttrLine
  split
  · exact ⟨short.szProto, short.szAttrLine⟩
  · split
    · refine ⟨short.szProto, ?_⟩
      intro other inRange
      dsimp only
      rw [Vector.getElem_set]
      split
      · exact fits
      · exact short.szAttrLine other inRange
    · exact short

theorem parseMediaSdpBody_short (pszMediaType : Text) (iMaxInLen : Int) :
    (parseMediaSdpBody .zero text iMaxInLen pszMediaType).2.Short := by
  rcases parseMediaSdpBody_cases .zero text iMaxInLen pszMediaType with
    parsed | parsed | ⟨line, name, port, proto, types, rounds, pos, iPosLen, fits, pieces, -, parsed⟩
  · rw [parsed]
    exact MediaInfo.short_zero
  · rw [parsed]
    exact ⟨MediaInfo.short_zero.szProto, MediaInfo.short_zero.szAttrLine⟩
  · have piece : proto ∈ splitString line ' ' := by
      rw [pieces]
      exact List.mem_cons_of_mem _ (List.mem_cons_of_mem _ List.mem_cons_self)
    have start : (storePayloadTypes types { MediaInfo.zero with
        ucUseFlag := 0, port := atoi port, szProto := proto }).Short := by
      refine ⟨Nat.lt_of_le_of_lt (length_mem_splitString piece) fits, ?_⟩
      intro index inRange
      have slot := MediaInfo.short_zero.szAttrLine index inRange
      unfold storePayloadTypes
      dsimp only
      rw [Vector.getElem_mapIdx]
      split <;> exact slot
    have loop := @attrLoop_keeps pos _ MediaInfo.Short iMaxInLen iPosLen rounds 0
      (fun info index line fits short => storeAttrLine_short fits info index short) start
    rw [parsed]
    exact ⟨loop.szProto, loop.szAttrLine⟩

theorem terminated_of_short {info : MediaInfo} {szAddr : Text} (short : info.Short)
    (addressFits : szAddr.length < sipuaStringLineLen) :
    { info with szAddr := szAddr }.Terminated where
  szAddr := copied_of_short addressFits
  szProto := copied_of_short short.szProto
  szAttrLine := fun index inRange => copied_of_short (short.szAttrLine index inRange)

theorem terminated_zero : SdpInfo.zero.Terminated := by
  have nothing : ∀ size, 0 < size → Filled size [] := fun size some => filled_of_short some
  have section_ : MediaInfo.zero.Terminated :=
    terminated_of_short MediaInfo.short_zero (by decide)
  exact ⟨nothing _ (by decide), nothing _ (by decide), nothing _ (by decide), nothing _ (by decide),
    nothing _ (by decide), nothing _ (by decide), nothing _ (by decide), nothing _ (by decide),
    section_, section_⟩

/-- Every string of the session is terminated in its array iff what stands behind the first hit
of each letter fits. -/
theorem terminated_iff (free : '\x00' ∉ text) :
    (parseSdpBody text text.length .zero).2.Terminated ↔
      ∀ letter ∈ ['v', 'o', 's', 'u', 'c', 'y', 'f', 'x'], ShortHit letter text := by
  by_cases empty : text = []
  · subst empty
    apply iff_of_true terminated_zero
    intro letter _ offset occurs
    exact absurd (occurs_nil.mp occurs) (List.cons_ne_nil _ _)
  have from_ := parseSdpBody_readFrom empty
  generalize (parseSdpBody text text.length .zero).2 = info at from_ ⊢
  have line : ∀ letter, Filled (fieldSize letter) (lineOf letter text) ↔ ShortHit letter text := by
    intro letter
    rw [← length_lineOf_iff]
    exact ⟨short_of_filled (zero_not_mem_lineOf free), filled_of_short⟩
  constructor
  · intro terminated letter member
    apply (line letter).mp
    simp only [List.mem_cons, List.not_mem_nil, or_false] at member
    rcases member with rfl | rfl | rfl | rfl | rfl | rfl | rfl | rfl
    · exact from_.szVersion ▸ terminated.szVersion
    · exact from_.szOrigin ▸ terminated.szOrigin
    · exact from_.szSessionName ▸ terminated.szSessionName
    · exact from_.szUri ▸ terminated.szUri
    · exact from_.szConnection ▸ terminated.szConnection
    · exact from_.szY ▸ terminated.szY
    · exact from_.szF ▸ terminated.szF
    · exact from_.szX ▸ terminated.szX
  · intro short
    have filled : ∀ letter ∈ ['v', 'o', 's', 'u', 'c', 'y', 'f', 'x'],
        Filled (fieldSize letter) (lineOf letter text) :=
      fun letter member => (line letter).mpr (short letter member)
    obtain ⟨szAddr, origin, video, audio⟩ := from_.sections
    have addressFits : szAddr.length < sipuaStringLineLen := by
      rcases origin with rfl | piece
      · decide
      · have connection : (lineOf 'c' text).length < sipuaStringLineLen :=
          length_lineOf_iff.mpr (short 'c' (by decide))
        exact Nat.lt_of_le_of_lt (length_mem_splitString piece) connection
    exact {
      szVersion := from_.szVersion ▸ filled 'v' (by decide)
      szOrigin := from_.szOrigin ▸ filled 'o' (by decide)
      szSessionName := from_.szSessionName ▸ filled 's' (by decide)
      szUri := from_.szUri ▸ filled 'u' (by decide)
      szConnection := from_.szConnection ▸ filled 'c' (by decide)
      szY := from_.szY ▸ filled 'y' (by decide)
      szF := from_.szF ▸ filled 'f' (by decide)
      szX := from_.szX ▸ filled 'x' (by decide)
      video := video ▸ terminated_of_short (parseMediaSdpBody_short _ _) addressFits
      audio := audio ▸ terminated_of_short (parseMediaSdpBody_short _ _) addressFits }

theorem videoBody_terminated :
    (parseSdpBody videoBody.text videoBody.text.length .zero).2.Terminated := by
  have free : '\x00' ∉ videoBody.text := by decide +kernel
  have short : ∀ letter ∈ ['v', 'o', 's', 'u', 'c', 'y', 'f', 'x'],
      (lineOf letter videoBody.text).length < fieldSize letter := by decide +kernel
  exact (terminated_iff free).mpr (fun letter member => length_lineOf_iff.mp (short letter member))

/-- A version of as many characters as its array has. -/
def longVersion : Text := 'v' :: '=' :: List.replicate sipuaStringLineLen '0' ++ ['\r', '\n']

theorem longVersion_not_terminated : '\x00' ∉ longVersion ∧
    ¬ (parseSdpBody longVersion longVersion.length .zero).2.Terminated := by
  refine ⟨by decide +kernel, ?_⟩
  intro terminated
  have free : '\x00' ∉ (parseSdpBody longVersion longVersion.length .zero).2.szVersion := by
    decide +kernel
  have short := short_of_filled free terminated.szVersion
  revert short
  decide +kernel

end Gb28181.SipUA
