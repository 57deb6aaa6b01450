import Gb28181.StreamPuller.HandleRtpData
import Gb28181.StreamPuller.ProgramStream

/-! RTP packets, and what `handleRtpData` takes for their payload: everything behind the
twelve bytes every packet begins with, less the padding. -/

namespace Gb28181.StreamPuller

open Gb28181.Lib

/-- The header extension: a profile and 32-bit words, with their count. -/
structure RtpExtension where
  profile : UInt16
  words : List UInt32
  wordsFit : words.length ≤ 65535

/-- A packet of version 2. `markerAndType` is the second byte; `padding` are the bytes in
front of the padding count. -/
structure RtpPacket where
  markerAndType : UInt8
  seq : UInt16
  timestamp : UInt32
  ssrc : UInt32
  csrcs : List UInt32
  extension : Option RtpExtension
  payload : List UInt8
  padding : Option (List UInt8)
  csrcsFit : csrcs.length ≤ 15
  paddingFits : ∀ front ∈ padding, front.length < 255

def wordBytes (word : UInt32) : List UInt8 :=
  lengthBytes (word.toNat / 65536) ++ lengthBytes (word.toNat % 65536)

/-- The version, the P and X bits and the CSRC count. -/
def firstByte (padded extended : Bool) (csrcCount : Nat) : UInt8 :=
  0x80 ||| (if padded then 0x20 else 0x00) ||| (if extended then 0x10 else 0x00) |||
    UInt8.ofNat csrcCount

def RtpExtension.bytes (extension : RtpExtension) : List UInt8 :=
  lengthBytes extension.profile.toNat ++ lengthBytes extension.words.length ++
    extension.words.flatMap wordBytes

def RtpPacket.fixedHeader (packet : RtpPacket) : List UInt8 :=
  [firstByte packet.padding.isSome packet.extension.isSome packet.csrcs.length,
    packet.markerAndType] ++ lengthBytes packet.seq.toNat ++ wordBytes packet.timestamp ++
    wordBytes packet.ssrc

/-- The parts of the header that not every packet has. -/
def RtpPacket.furtherHeader (packet : RtpPacket) : List UInt8 :=
  packet.csrcs.flatMap wordBytes ++ packet.extension.toList.flatMap RtpExtension.bytes

def RtpPacket.paddingBytes (packet : RtpPacket) : List UInt8 :=
  packet.padding.toList.flatMap fun front => front ++ [UInt8.ofNat (front.length + 1)]

def RtpPacket.bytes (packet : RtpPacket) : List UInt8 :=
  packet.fixedHeader ++ (packet.furtherHeader ++ packet.payload ++ packet.paddingBytes)

/-- The payload begins with the start code of a pack header. -/
def RtpPacket.startsPack (packet : RtpPacket) : Bool :=
  packet.payload.take 4 == [0x00, 0x00, 0x01, 0xBA]

/-- The test of `handleRtpData` for the beginning of a frame. -/
def packStart (pRtpData : Mem UInt8) : Bool := startCode (advance pRtpData iRtpHdrLen) 0 0xBA

/-- The bytes collected in `m_pPsData`. -/
def Puller.frame (puller : Puller) : List UInt8 := window puller.psData 0 puller.psDataLen.toNat

/-- What is collected in front of a packet: nothing where it begins a frame. -/
def RtpPacket.kept (packet : RtpPacket) (puller : Puller) : List UInt8 :=
  if packet.startsPack then [] else puller.frame

/-- `handleRtpData` treats a packet as its payload: it is handed to `fillFrameBuff`,
which appends it or finds no room, and it decides whether a frame begins. -/
structure RtpPacket.Extracted (packet : RtpPacket) (puller : Puller) (pRtpData : Mem UInt8) :
    Prop where
  handed : ∀ iLen : Int,
    .fillFrameBuff iLen ∈ (handleRtpData puller pRtpData packet.bytes.length).events →
      iLen = packet.payload.length
  appended : ∃ next, (handleRtpData puller pRtpData packet.bytes.length).after = some next ∧
    (next.frame = packet.kept puller ++ packet.payload ∨
      ((packet.kept puller ++ packet.payload).length : Int) > rtpRecvBuffMaxLen ∧ next.frame = [])
  tested : iRtpHdrLen < packet.bytes.length → packStart pRtpData = packet.startsPack

/-- The packet has no header behind the first twelve bytes, and where its payload is too short
for a start code, what follows it in the buffer does not complete one. -/
structure RtpPacket.Plain (packet : RtpPacket) (pRtpData : Mem UInt8) : Prop where
  noCsrcs : packet.csrcs = []
  noExtension : packet.extension = none
  decided : iRtpHdrLen < packet.bytes.length → packet.payload.length < 4 →
    packStart pRtpData = false

variable {packet : RtpPacket} {puller : Puller} {szRecvBuff : Mem UInt8}

theorem ucPadding_firstByte (padded extended : Bool) (csrcCount : Nat) (fits : csrcCount ≤ 15) :
    ((firstByte padded extended csrcCount &&& 0x20) >>> 5 == 1) = padded := by
  have all : ∀ padded extended : Bool, ∀ csrcCount : Fin 16,
      ((firstByte padded extended csrcCount &&& 0x20) >>> 5 == 1) = padded := by decide
  exact all padded extended ⟨csrcCount, by omega⟩

theorem RtpPacket.length_fixedHeader (packet : RtpPacket) :
    packet.fixedHeader.length = iRtpHdrLen := rfl

theorem RtpPacket.length_bytes (packet : RtpPacket) :
    packet.bytes.length = iRtpHdrLen + (packet.furtherHeader.length + packet.payload.length +
      packet.paddingBytes.length) := by
  rw [bytes, List.length_append, length_fixedHeader, List.length_append, List.length_append]

theorem RtpPacket.furtherHeader_eq_nil_iff :
    packet.furtherHeader = [] ↔ packet.csrcs = [] ∧ packet.extension = none := by
  obtain ⟨_, _, _, _, csrcs, extension, _, _, _, _⟩ := packet
  cases csrcs <;> cases extension <;>
    simp [furtherHeader, wordBytes, lengthBytes, RtpExtension.bytes]

theorem RtpPacket.holds_behind (packet : RtpPacket) (szRecvBuff : Mem UInt8) :
    Holds (advance (overlay packet.bytes szRecvBuff) iRtpHdrLen) 0
      (packet.furtherHeader ++ packet.payload ++ packet.paddingBytes) := by
  have whole := (holds_append.mp (holds_overlay packet.bytes szRecvBuff)).2
  apply holds_advance.mpr
  rwa [length_fixedHeader, Nat.zero_add] at whole

theorem RtpPacket.ucPadding_eq (packet : RtpPacket) (szRecvBuff : Mem UInt8) :
    ucPadding (overlay packet.bytes szRecvBuff) = packet.padding.isSome :=
  ucPadding_firstByte _ _ _ packet.csrcsFit

theorem RtpPacket.lastByte {front : List UInt8} (padded : packet.padding = some front) :
    overlay packet.bytes szRecvBuff (packet.bytes.length - 1) =
      UInt8.ofNat (front.length + 1) := by
  have split : packet.bytes = (packet.fixedHeader ++ (packet.furtherHeader ++ packet.payload) ++
      front) ++ [UInt8.ofNat (front.length + 1)] := by
    simp [bytes, paddingBytes, padded]
  rw [split, overlay, List.length_append, List.length_singleton, Nat.add_sub_cancel,
    List.getElem?_concat_length]
  rfl

theorem RtpPacket.iPayloadLen_eq (packet : RtpPacket) (szRecvBuff : Mem UInt8) :
    iPayloadLen (overlay packet.bytes szRecvBuff) packet.bytes.length =
      ((packet.furtherHeader ++ packet.payload).length : Int) := by
  have size := packet.length_bytes
  rw [iPayloadLen, packet.ucPadding_eq szRecvBuff, List.length_append]
  cases padded : packet.padding with
  | none =>
    have none : packet.paddingBytes.length = 0 := by simp [paddingBytes, padded]
    simp only [Option.isSome_none, Bool.false_eq_true, if_false]
    omega
  | some front =>
    have fits := packet.paddingFits front padded
    have last : (overlay packet.bytes szRecvBuff ((packet.bytes.length : Int) - 1).toNat).toNat =
        front.length + 1 := by
      have index : ((packet.bytes.length : Int) - 1).toNat = packet.bytes.length - 1 := by omega
      rw [index, lastByte padded]
      simp only [UInt8.toNat_ofNat']
      omega
    have count : packet.paddingBytes.length = front.length + 1 := by simp [paddingBytes, padded]
    simp only [Option.isSome_some, if_true, last]
    omega

theorem Puller.length_frame (puller : Puller) : puller.frame.length = puller.psDataLen.toNat := by
  rw [frame, length_window]

/-- `fillFrameBuff` appends a block, or throws away what was collected. -/
theorem fillFrameBuff_frame {pData : Mem UInt8} {block : List UInt8} (kept : puller.InRange)
    (held : Holds pData 0 block) :
    ∃ next, (fillFrameBuff puller pData block.length).after = some next ∧
      ((puller.frame.length + block.length : Int) ≤ rtpRecvBuffMaxLen ∧
          next.frame = puller.frame ++ block ∨
        (puller.frame.length + block.length : Int) > rtpRecvBuffMaxLen ∧ next.frame = []) := by
  obtain ⟨low, _⟩ := kept
  have size := puller.length_frame
  unfold fillFrameBuff
  split
  · rename_i full
    exact ⟨_, rfl, .inr ⟨by omega, rfl⟩⟩
  · rename_i room
    rw [if_neg (by omega)]
    refine ⟨_, rfl, .inl ⟨by omega, ?_⟩⟩
    have collected := (holds_window puller.psData 0 puller.psDataLen.toNat).memcpy_append held
    rw [Nat.zero_add, length_window] at collected
    have total : (puller.psDataLen + (block.length : Int)).toNat =
        (window puller.psData 0 puller.psDataLen.toNat ++ block).length := by
      rw [List.length_append, length_window]
      omega
    have filled := collected.window_eq
    rw [← total] at filled
    exact filled

theorem endFrame_frame (kept : puller.InRange) : (endFrame puller).1.frame = [] := by
  unfold endFrame
  split
  · rfl
  · have empty : puller.psDataLen = 0 := by
      obtain ⟨low, _⟩ := kept
      omega
    simp [Puller.frame, empty, window]

/-- The puller whose frame a packet is appended to. -/
def collecting (puller : Puller) (pRtpData : Mem UInt8) : Puller :=
  let tracked := { puller with lastRtpSeq := rtpSeq pRtpData }
  if packStart pRtpData then (endFrame tracked).1 else tracked

theorem collecting_inRange (pRtpData : Mem UInt8) (kept : puller.InRange) :
    (collecting puller pRtpData).InRange := by
  have tracked : Puller.InRange { puller with lastRtpSeq := rtpSeq pRtpData } := kept
  unfold collecting
  split
  · exact endFrame_inRange tracked
  · exact tracked

theorem collecting_frame (pRtpData : Mem UInt8) (kept : puller.InRange) :
    (collecting puller pRtpData).frame = if packStart pRtpData then [] else puller.frame := by
  have tracked : Puller.InRange { puller with lastRtpSeq := rtpSeq pRtpData } := kept
  unfold collecting
  cases packStart pRtpData with
  | true => exact endFrame_frame tracked
  | false => rfl

/-- A packet that is not too short is handed to `fillFrameBuff` once, and nothing else is. -/
theorem handleRtpData_hands (puller : Puller) (pRtpData : Mem UInt8) {iDataLen : Int}
    (long : iRtpHdrLen < iDataLen) :
    (handleRtpData puller pRtpData iDataLen).after =
        (fillFrameBuff (collecting puller pRtpData) (advance pRtpData iRtpHdrLen)
          (iPayloadLen pRtpData iDataLen)).after ∧
      ∀ iLen, .fillFrameBuff iLen ∈ (handleRtpData puller pRtpData iDataLen).events ↔
        iLen = iPayloadLen pRtpData iDataLen := by
  have enough : ¬ iDataLen - iRtpHdrLen ≤ 0 := by omega
  have logged (iLen : Int) : .fillFrameBuff iLen ∉ checkRtpSeq puller.lastRtpSeq (rtpSeq pRtpData) := by
    intro found
    cases checkRtpSeq_mem found
  have delivered (iLen : Int) : .fillFrameBuff iLen ∉
      (endFrame { puller with lastRtpSeq := rtpSeq pRtpData }).2 := by
    intro found
    obtain ⟨_, other⟩ := endFrame_mem found
    cases other
  have filled (collected : Puller) (iLen : Int) :
      .fillFrameBuff iLen ∈ (fillFrameBuff collected (advance pRtpData iRtpHdrLen)
        (iPayloadLen pRtpData iDataLen)).events ↔ iLen = iPayloadLen pRtpData iDataLen := by
    rcases fillFrameBuff_events collected with events | ⟨_, events⟩ <;> rw [events] <;> simp
  unfold handleRtpData collecting packStart
  rw [if_neg enough]
  split
  · refine ⟨rfl, ?_⟩
    intro iLen
    rw [List.mem_append, List.mem_append, filled]
    simp [logged iLen, delivered iLen]
  · refine ⟨rfl, ?_⟩
    intro iLen
    rw [List.mem_append, filled]
    simp [logged iLen]

theorem packStart_of_payload (plain : packet.furtherHeader = []) (long : 4 ≤ packet.payload.length) :
    packStart (overlay packet.bytes szRecvBuff) = packet.startsPack := by
  have behind := packet.holds_behind szRecvBuff
  rw [plain, List.nil_append] at behind
  have payload := (holds_append.mp behind).1
  rw [packStart, RtpPacket.startsPack, Bool.eq_iff_iff, startCode_iff, beq_iff_eq]
  match found : packet.payload, long with
  | first :: second :: third :: fourth :: _, _ =>
    rw [found] at payload
    obtain ⟨b0, b1, b2, b3, _⟩ := payload
    simp [b0, b1, b2, b3]

theorem not_startsPack_of_short (short : packet.payload.length < 4) :
    packet.startsPack = false := by
  rw [RtpPacket.startsPack, beq_eq_false_iff_ne]
  intro same
  have lengths := congrArg List.length same
  simp only [List.length_take, List.length_cons, List.length_nil] at lengths
  omega

/-- In a plain packet the test looks at the payload only. -/
theorem RtpPacket.Plain.tested (plain : packet.Plain (overlay packet.bytes szRecvBuff))
    (long : iRtpHdrLen < packet.bytes.length) :
    packStart (overlay packet.bytes szRecvBuff) = packet.startsPack := by
  by_cases short : packet.payload.length < 4
  · rw [plain.decided long short, not_startsPack_of_short short]
  · exact packStart_of_payload (RtpPacket.furtherHeader_eq_nil_iff.mpr ⟨plain.1, plain.2⟩)
      (by omega)

def packCode : List UInt8 := [0x00, 0x00, 0x01, 0xBA]

theorem RtpPacket.bytes_plain (plain : packet.furtherHeader = []) :
    packet.bytes = packet.fixedHeader ++ (packet.payload ++ packet.paddingBytes) := by
  rw [bytes, plain, List.nil_append]

/-- Whatever the buffer holds behind a packet, the packet is plain exactly when its payload and
padding are not the beginning of a pack header that the rest of the buffer could complete. -/
theorem plain_always_iff :
    (∀ szRecvBuff, packet.Plain (overlay packet.bytes szRecvBuff)) ↔
      packet.csrcs = [] ∧ packet.extension = none ∧
        (iRtpHdrLen < packet.bytes.length → packet.payload.length < 4 →
          ¬ (packet.payload ++ packet.paddingBytes).take 4 <+: packCode) := by
  have held (szRecvBuff : Mem UInt8) (plain : packet.furtherHeader = []) :
      Holds (advance (overlay packet.bytes szRecvBuff) iRtpHdrLen) 0
        (packet.payload ++ packet.paddingBytes) := by
    have behind := packet.holds_behind szRecvBuff
    rwa [plain, List.nil_append] at behind
  constructor
  · intro always
    obtain ⟨noCsrcs, noExtension, _⟩ := always fun _ => 0
    refine ⟨noCsrcs, noExtension, fun long short opens => ?_⟩
    have bytes := RtpPacket.bytes_plain (RtpPacket.furtherHeader_eq_nil_iff.mpr
      ⟨noCsrcs, noExtension⟩)
    have clear := (always fun offset => packCode.getD (offset - iRtpHdrLen) 0).decided long short
    have found : packStart (overlay packet.bytes fun offset =>
        packCode.getD (offset - iRtpHdrLen) 0) = true := by
      apply startCode_iff.mpr
      apply holds_of_get
      intro index bound
      have behind : packet.bytes[iRtpHdrLen + index]? =
          (packet.payload ++ packet.paddingBytes)[index]? := by
        rw [bytes, List.getElem?_append_right (by rw [RtpPacket.length_fixedHeader]; omega),
          RtpPacket.length_fixedHeader, Nat.add_sub_cancel_left]
      rw [advance, Nat.zero_add, overlay, behind]
      by_cases sent : index < (packet.payload ++ packet.paddingBytes).length
      · have inside : index < ((packet.payload ++ packet.paddingBytes).take 4).length := by
          rw [List.length_take]
          exact lt_min bound sent
        have same := opens.getElem inside
        rw [List.getElem_take] at same
        rw [List.getElem?_eq_getElem sent, Option.getD_some, same]
        rfl
      · rw [List.getElem?_eq_none (Nat.le_of_not_lt sent), Option.getD_none,
          Nat.add_sub_cancel_left, List.getD_eq_getElem?_getD,
          List.getElem?_eq_getElem (show index < packCode.length from bound), Option.getD_some]
        rfl
    rw [found] at clear
    cases clear
  · rintro ⟨noCsrcs, noExtension, decided⟩ szRecvBuff
    refine ⟨noCsrcs, noExtension, fun long short => ?_⟩
    by_contra found
    have code := startCode_iff.mp (show startCode _ 0 0xBA = true by simpa [packStart] using found)
    have behind := held szRecvBuff (RtpPacket.furtherHeader_eq_nil_iff.mpr ⟨noCsrcs, noExtension⟩)
    rw [← List.take_append_drop 4 (packet.payload ++ packet.paddingBytes)] at behind
    exact decided long short ((holds_append.mp behind).1.isPrefix code (List.length_take_le ..))

/-- The payload of a plain packet is appended, or found to be too long. -/
theorem RtpPacket.Plain.filled (plain : packet.Plain (overlay packet.bytes szRecvBuff))
    (kept : puller.InRange) (long : iRtpHdrLen < packet.bytes.length) :
    ∃ next, (handleRtpData puller (overlay packet.bytes szRecvBuff) packet.bytes.length).after =
        some next ∧
      (((packet.kept puller).length + packet.payload.length : Int) ≤ rtpRecvBuffMaxLen ∧
          next.frame = packet.kept puller ++ packet.payload ∨
        ((packet.kept puller).length + packet.payload.length : Int) > rtpRecvBuffMaxLen ∧
          next.frame = []) := by
  have further := RtpPacket.furtherHeader_eq_nil_iff.mpr ⟨plain.1, plain.2⟩
  have length := packet.iPayloadLen_eq szRecvBuff
  have behind := packet.holds_behind szRecvBuff
  rw [further, List.nil_append] at length behind
  obtain ⟨next, reached, outcome⟩ :=
    fillFrameBuff_frame (collecting_inRange (overlay packet.bytes szRecvBuff) kept)
      (holds_append.mp behind).1
  rw [collecting_frame _ kept, plain.tested long] at outcome
  rw [(handleRtpData_hands puller _ (Int.ofNat_lt.mpr long)).1, length]
  exact ⟨next, reached, outcome⟩

/-- The payload of a packet is extracted exactly when the packet is plain. -/
theorem extracted_iff (packet : RtpPacket) (szRecvBuff : Mem UInt8) (kept : puller.InRange) :
    packet.Extracted puller (overlay packet.bytes szRecvBuff) ↔
      packet.Plain (overlay packet.bytes szRecvBuff) := by
  have size := packet.length_bytes
  constructor
  · intro extracted
    have plain : packet.furtherHeader = [] := by
      by_cases long : iRtpHdrLen < packet.bytes.length
      · have hands := (handleRtpData_hands puller (overlay packet.bytes szRecvBuff)
          (Int.ofNat_lt.mpr long)).2
        have length := extracted.handed _ ((hands _).mpr rfl)
        rw [packet.iPayloadLen_eq szRecvBuff, List.length_append] at length
        exact List.length_eq_zero_iff.mp (by omega)
      · exact List.length_eq_zero_iff.mp (by omega)
    obtain ⟨noCsrcs, noExtension⟩ := RtpPacket.furtherHeader_eq_nil_iff.mp plain
    refine ⟨noCsrcs, noExtension, ?_⟩
    intro long short
    rw [extracted.tested long, not_startsPack_of_short short]
  · intro plain
    have further := RtpPacket.furtherHeader_eq_nil_iff.mpr ⟨plain.1, plain.2⟩
    refine ⟨?_, ?_, plain.tested⟩
    · intro iLen found
      by_cases long : iRtpHdrLen < packet.bytes.length
      · have hands := ((handleRtpData_hands puller _ (Int.ofNat_lt.mpr long)).2 iLen).mp found
        rw [packet.iPayloadLen_eq szRecvBuff, further, List.nil_append] at hands
        exact hands
      · rw [handleRtpData_short (by omega)] at found
        cases found
    · by_cases long : iRtpHdrLen < packet.bytes.length
      · obtain ⟨next, reached, outcome⟩ := plain.filled kept long
        refine ⟨next, reached, ?_⟩
        rcases outcome with ⟨_, filled⟩ | ⟨full, emptied⟩
        · exact .inl filled
        · refine .inr ⟨?_, emptied⟩
          rw [List.length_append]
          push_cast
          exact full
      · have nothing : packet.payload = [] := List.length_eq_zero_iff.mp (by omega)
        rw [handleRtpData_short (by omega)]
        exact ⟨puller, rfl, .inl (by simp [RtpPacket.kept, RtpPacket.startsPack, nothing])⟩

/-- A packet of dynamic payload type 96 with everything but its payload fixed. -/
def videoPacket (csrcs : List UInt32) (csrcsFit : csrcs.length ≤ 15) (payload : List UInt8)
    (padding : Option (List UInt8)) (paddingFits : ∀ front ∈ padding, front.length < 255) :
    RtpPacket where
  markerAndType := 0x60
  seq := 1
  timestamp := 3600
  ssrc := 1
  csrcs := csrcs
  extension := none
  payload := payload
  padding := padding
  csrcsFit := csrcsFit
  paddingFits := paddingFits

theorem no_csrcs : ([] : List UInt32).length ≤ 15 := Nat.zero_le 15

theorem no_padding : ∀ front ∈ (none : Option (List UInt8)), front.length < 255 := nofun

/-- A short payload with two bytes of padding behind it. -/
def paddedPacket : RtpPacket :=
  videoPacket [] no_csrcs [0x00, 0x00, 0x01] (some [0x00]) (by simp)

theorem paddedPacket_extracted :
    paddedPacket.Extracted (initStreamPuller true fun _ => 0)
      (overlay paddedPacket.bytes fun _ => 0xBA) :=
  (extracted_iff paddedPacket (fun _ => 0xBA) (inRange_of_empty rfl)).mpr
    ⟨rfl, rfl, by decide +kernel⟩

/-- A packet that a mixer made of one source. -/
def mixedPacket : RtpPacket := videoPacket [7] (by decide) [0x41] none no_padding

theorem mixedPacket_not_extracted :
    ¬ ∀ (packet : RtpPacket) (puller : Puller) (szRecvBuff : Mem UInt8), puller.InRange →
      packet.Extracted puller (overlay packet.bytes szRecvBuff) := by
  intro extracted
  have handed := (extracted mixedPacket (initStreamPuller true fun _ => 0) (fun _ => 0)
    (inRange_of_empty rfl)).handed 5 (by decide +kernel)
  exact absurd handed (by decide)

end Gb28181.StreamPuller
