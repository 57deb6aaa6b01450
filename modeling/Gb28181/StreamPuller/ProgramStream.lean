import Mathlib.Algebra.GroupWithZero.Nat
import Gb28181.Lib.SkipScan
import Gb28181.StreamPuller.CutPsHeader

/-! Program stream frames, and what `cutPsHeader` takes out of them. The scan is
compared with the packets the frame was built from. -/

namespace Gb28181.StreamPuller

open Gb28181.Lib

/-- The two bytes of a 16-bit length field. -/
def lengthBytes (length : Nat) : List UInt8 :=
  [UInt8.ofNat (length / 256), UInt8.ofNat length]

/-- A PES packet with its two flag bytes and its optional header data. -/
structure PesPacket where
  streamId : UInt8
  firstFlags : UInt8
  secondFlags : UInt8
  header : List UInt8
  payload : List UInt8
  notPsHeader : streamId ≠ 0xBA ∧ streamId ≠ 0xBB ∧ streamId ≠ 0xBC
  headerFits : header.length ≤ 255
  packetFits : 3 + header.length + payload.length ≤ 65535

def PesPacket.bytes (packet : PesPacket) : List UInt8 :=
  [0x00, 0x00, 0x01, packet.streamId] ++
    lengthBytes (3 + packet.header.length + packet.payload.length) ++
    [packet.firstFlags, packet.secondFlags, UInt8.ofNat packet.header.length] ++
    packet.header ++ packet.payload

def packetBytes (packets : List PesPacket) : List UInt8 := packets.flatMap PesPacket.bytes

/-- The system header and the stream map: a start code, a length and a body. -/
def sectionBytes (streamId : UInt8) (body : List UInt8) : List UInt8 :=
  [0x00, 0x00, 0x01, streamId] ++ lengthBytes body.length ++ body

/-- `packFields` are the bytes of the pack header behind its start code; the low bits of
the tenth count the stuffing bytes. -/
structure PsFrame where
  packFields : List UInt8
  systemHeader : Option (List UInt8)
  programMap : Option (List UInt8)
  packets : List PesPacket
  stuffed : ∃ last, packFields[9]? = some last ∧
    packFields.length = 10 + (last &&& 0x07).toNat
  systemFits : ∀ body ∈ systemHeader, body.length ≤ 65535
  mapFits : ∀ body ∈ programMap, body.length ≤ 65535

def PsFrame.headers (frame : PsFrame) : List UInt8 :=
  [0x00, 0x00, 0x01, 0xBA] ++ frame.packFields ++
    frame.systemHeader.toList.flatMap (sectionBytes 0xBB) ++
    frame.programMap.toList.flatMap (sectionBytes 0xBC)

def PsFrame.bytes (frame : PsFrame) : List UInt8 := frame.headers ++ packetBytes frame.packets

def videoPayload (packets : List PesPacket) : List UInt8 :=
  (packets.filter fun packet => packet.streamId == 0xE0).flatMap PesPacket.payload

/-- The payloads of the `E0` packets that are not empty: where each stands, and its length. -/
def payloadRanges : Nat → List PesPacket → List (Nat × Nat)
  | _, [] => []
  | position, packet :: packets =>
    if packet.streamId = 0xE0 ∧ 0 < packet.payload.length then
      (position + 9 + packet.header.length, packet.payload.length) ::
        payloadRanges (position + packet.bytes.length) packets
    else payloadRanges (position + packet.bytes.length) packets

/-- The bytes a read copies: none where the packet is rejected or has no data. -/
def PesRead.range : PesRead → Option (Nat × Nat)
  | .copied _ dataPos dataLen => if 0 < dataLen then some (dataPos, dataLen) else none
  | .rejected _ => none

/-- The ranges the loop copies from offset `i` on. -/
def cutRanges (pInData : Mem UInt8) (iInLen i iRawDataLen : Nat) : List (Nat × Nat) :=
  (cutReads pInData iInLen i iRawDataLen).filterMap PesRead.range

/-- The scan that starts at `resume` looks at `position`: behind an even number of header
codes in a row, every second of which it jumps over. -/
def Looked (pInData : Mem UInt8) (resume position : Nat) : Prop :=
  Even (marksBefore (psHeaderCode pInData) 4 resume position)

/-- The start code of a packet with data, or of one that is rejected. One without data is
passed like any other byte. -/
def Found (pInData : Mem UInt8) (iInLen position : Nat) : Prop :=
  pesCode pInData position = true ∧
    ¬ (iDataLen pInData position = 0 ∧ iDataPos pInData position ≤ iInLen)

/-- No such start code is looked at between `resume` and `limit`. -/
def Blind (pInData : Mem UInt8) (iInLen resume limit : Nat) : Prop :=
  ∀ position, resume ≤ position → position < limit → Found pInData iInLen position →
    ¬ Looked pInData resume position

/-- The first such start code that is looked at. -/
structure First (pInData : Mem UInt8) (iInLen resume position : Nat) : Prop where
  reached : resume ≤ position
  inside : position + 4 < iInLen
  found : Found pInData iInLen position
  looked : Looked pInData resume position
  blind : Blind pInData iInLen resume position

/-- From where the scan goes on behind one payload, which is its length after the start code,
the first start code it meets is one whose data are the next payload; behind the last payload
it meets none but one that is rejected. -/
def Undisturbed (pInData : Mem UInt8) (iInLen : Nat) : Nat → Nat → List (Nat × Nat) → Prop
  | resume, iRawDataLen, [] => ∀ position, First pInData iInLen resume position →
    (copyBuffError pInData iInLen position || outOfRange pInData iInLen position iRawDataLen) = true
  | resume, iRawDataLen, (dataPos, dataLen) :: ranges =>
    ∃ position, First pInData iInLen resume position ∧ iDataPos pInData position = dataPos ∧
      iDataLen pInData position = dataLen ∧
      Undisturbed pInData iInLen (position + dataLen + 1) (iRawDataLen + dataLen) ranges

/-- `m_pPsData` with a frame collected in it. -/
def PsFrame.collected (frame : PsFrame) (pPsData : Mem UInt8) : Mem UInt8 :=
  overlay frame.bytes pPsData

def PsFrame.Undisturbed (frame : PsFrame) : Prop :=
  StreamPuller.Undisturbed (frame.collected fun _ => 0) frame.bytes.length 0 0
    (payloadRanges frame.headers.length frame.packets)

/-- Every `E0` payload is copied once, nothing else is, and their concatenation is what
the callback gets. -/
def PsFrame.Delivered (frame : PsFrame) (pPsData : Mem UInt8) : Prop :=
  cutRanges (frame.collected pPsData) frame.bytes.length 0 0 =
      payloadRanges frame.headers.length frame.packets ∧
    (cutPsHeader true (frame.collected pPsData) frame.bytes.length).delivered.getD [] =
      videoPayload frame.packets

variable {pInData other : Mem UInt8} {iInLen resume position limit iRawDataLen : Nat}

/-- `00 00 01`, whatever stream id follows. -/
def codePrefix (pInData : Mem UInt8) (i : Nat) : Bool :=
  pInData i == 0x00 && pInData (i + 1) == 0x00 && pInData (i + 2) == 0x01

theorem codePrefix_of_psHeaderCode (i : Nat) (header : psHeaderCode pInData i = true) :
    codePrefix pInData i = true := by
  simp only [psHeaderCode, startCode, Bool.or_eq_true, Bool.and_eq_true] at header
  simp only [codePrefix, Bool.and_eq_true]
  tauto

theorem codePrefix_of_pesCode {i : Nat} (pes : pesCode pInData i = true) :
    codePrefix pInData i = true := by
  simp only [pesCode, startCode, Bool.and_eq_true] at pes
  simp only [codePrefix, Bool.and_eq_true]
  tauto

/-- No start code begins inside the four bytes of a header code. -/
theorem psHeaderCode_apart (i distance : Nat) (header : psHeaderCode pInData i = true)
    (after : 0 < distance) (within : distance < 4) : codePrefix pInData (i + distance) = false := by
  simp only [psHeaderCode, startCode, Bool.or_eq_true, Bool.and_eq_true, beq_iff_eq] at header
  have third : pInData (i + 2) = 0x01 := by tauto
  have fourth : pInData (i + 3) ≠ 0x00 := by
    rcases header with (⟨_, streamId⟩ | ⟨_, streamId⟩) | ⟨_, streamId⟩ <;> simp [streamId]
  obtain rfl | rfl | rfl : distance = 1 ∨ distance = 2 ∨ distance = 3 := by omega
  · simp [codePrefix, third]
  · simp [codePrefix, third]
  · simp [codePrefix, fourth]

/-- The scan of `cutPsHeader` as long as it finds no packet. -/
abbrev Scans (pInData : Mem UInt8) (resume position : Nat) : Prop :=
  Visits (psHeaderCode pInData) 4 resume position

theorem scans_iff_looked (pes : pesCode pInData position = true) (reached : resume ≤ position) :
    Scans pInData resume position ↔ Looked pInData resume position :=
  visits_iff_even (codePrefix pInData) codePrefix_of_psHeaderCode psHeaderCode_apart
    (by omega) (codePrefix_of_pesCode pes) reached

theorem blind_iff :
    Blind pInData iInLen resume limit ↔
      ∀ position, Scans pInData resume position → position < limit →
        ¬ Found pInData iInLen position := by
  constructor
  · intro blind position scanned inside found
    exact blind position scanned.le inside found ((scans_iff_looked found.1 scanned.le).mp scanned)
  · intro plain position reached inside found looked
    exact plain position ((scans_iff_looked found.1 reached).mpr looked) inside found

/-- A byte where no packet is found is passed, also where a packet without data starts. -/
theorem cutRanges_plain (inside : i + 4 < iInLen) (header : psHeaderCode pInData i = false)
    (plain : ¬ Found pInData iInLen i) (room : iRawDataLen ≤ iInLen)
    (fits : (iInLen : Int) ≤ rtpRecvBuffMaxLen) :
    cutRanges pInData iInLen i iRawDataLen = cutRanges pInData iInLen (i + 1) iRawDataLen := by
  unfold cutRanges
  cases pes : pesCode pInData i with
  | false => rw [cutReads_plain inside header pes]
  | true =>
    have empty : iDataLen pInData i = 0 ∧ iDataPos pInData i ≤ iInLen := by
      by_contra data
      exact plain ⟨pes, data⟩
    have start : 0 ≤ iDataPos pInData i := by
      unfold iDataPos
      omega
    have taken : (copyBuffError pInData iInLen i || outOfRange pInData iInLen i iRawDataLen) = false := by
      simp only [copyBuffError, outOfRange, empty.1, Bool.or_eq_false_iff, decide_eq_false_iff_not]
      omega
    rw [cutReads_pes inside header pes, taken]
    simp [empty.1, PesRead.range]

theorem cutRanges_psHeader (inside : i + 4 < iInLen) (header : psHeaderCode pInData i = true) :
    cutRanges pInData iInLen i iRawDataLen = cutRanges pInData iInLen (i + 4 + 1) iRawDataLen := by
  rw [cutRanges, cutReads_psHeader inside header, cutRanges]

theorem cutRanges_found (inside : i + 4 < iInLen) (found : Found pInData iInLen i) :
    cutRanges pInData iInLen i iRawDataLen =
      if copyBuffError pInData iInLen i || outOfRange pInData iInLen i iRawDataLen then []
      else ((iDataPos pInData i).toNat, (iDataLen pInData i).toNat) ::
        cutRanges pInData iInLen (i + (iDataLen pInData i).toNat + 1)
          (iRawDataLen + (iDataLen pInData i).toNat) := by
  rw [cutRanges, cutReads_pes inside (psHeaderCode_of_pesCode found.1) found.1]
  split
  · rfl
  · rename_i accepted
    have data : 0 < (iDataLen pInData i).toNat := by
      simp only [copyBuffError, Bool.or_eq_true, decide_eq_true_eq, not_or] at accepted
      by_contra none
      exact found.2 ⟨by omega, by omega⟩
    rw [List.filterMap_cons, PesRead.range, if_pos data, cutRanges]

/-- Up to a position it scans without finding a packet, the loop only moves on. -/
theorem cutRanges_scan (scanned : Scans pInData resume position) (inside : position + 4 < iInLen)
    (blind : Blind pInData iInLen resume position) (room : iRawDataLen ≤ iInLen)
    (fits : (iInLen : Int) ≤ rtpRecvBuffMaxLen) :
    cutRanges pInData iInLen resume iRawDataLen = cutRanges pInData iInLen position iRawDataLen := by
  have plain := blind_iff.mp blind
  clear blind
  induction scanned with
  | start => rfl
  | @next earlier seen header ih =>
    rw [ih (by omega) fun place scanned before => plain place scanned (by omega)]
    exact cutRanges_plain (by omega) header (plain earlier seen (by omega)) room fits
  | @jump earlier seen header ih =>
    rw [ih (by omega) fun place scanned before => plain place scanned (by omega)]
    exact cutRanges_psHeader (by omega) header

theorem cutRanges_first (first : First pInData iInLen resume position)
    (room : iRawDataLen ≤ iInLen) (fits : (iInLen : Int) ≤ rtpRecvBuffMaxLen) :
    cutRanges pInData iInLen resume iRawDataLen = cutRanges pInData iInLen position iRawDataLen :=
  cutRanges_scan ((scans_iff_looked first.found.1 first.reached).mpr first.looked) first.inside
    first.blind room fits

/-- A scan that finds no packet in the frame copies nothing. -/
theorem cutRanges_blind (blind : Blind pInData iInLen resume (iInLen - 4))
    (room : iRawDataLen ≤ iInLen) (fits : (iInLen : Int) ≤ rtpRecvBuffMaxLen) :
    cutRanges pInData iInLen resume iRawDataLen = [] := by
  have plain := blind_iff.mp blind
  suffices ∀ left position, iInLen - position ≤ left → Scans pInData resume position →
      cutRanges pInData iInLen position iRawDataLen = [] from
    this _ resume (Nat.le_refl _) .start
  have ended : ∀ position, ¬ position + 4 < iInLen →
      cutRanges pInData iInLen position iRawDataLen = [] := by
    intro position done
    rw [cutRanges, cutReads_end (by omega)]
    rfl
  intro left
  induction left with
  | zero => exact fun position done _ => ended position (by omega)
  | succ left ih =>
    intro position bound scanned
    by_cases inside : position + 4 < iInLen
    · cases header : psHeaderCode pInData position with
      | true =>
        rw [cutRanges_psHeader inside header]
        exact ih _ (by omega) (.jump scanned header)
      | false =>
        rw [cutRanges_plain inside header (plain position scanned (by omega)) room fits]
        exact ih _ (by omega) (.next scanned header)
    · exact ended position inside

theorem exists_first (seeing : ¬ Blind pInData iInLen resume (iInLen - 4)) :
    ∃ position, First pInData iInLen resume position := by
  simp only [Blind, not_forall, not_not] at seeing
  obtain ⟨position, reached, inside, found, looked⟩ := seeing
  induction position using Nat.strong_induction_on with
  | _ position ih =>
    by_cases blind : Blind pInData iInLen resume position
    · exact ⟨position, reached, by omega, found, looked, blind⟩
    · simp only [Blind, not_forall, not_not] at blind
      obtain ⟨earlier, behind, before, foundEarlier, lookedEarlier⟩ := blind
      exact ih earlier before behind (by omega) foundEarlier lookedEarlier

/-- The loop copies the given ranges, and nothing else, exactly when it is undisturbed. -/
theorem cutRanges_iff_undisturbed {ranges : List (Nat × Nat)}
    (inside : ∀ range ∈ ranges, range.1 + range.2 ≤ iInLen)
    (room : iRawDataLen + (ranges.map Prod.snd).sum ≤ iInLen)
    (fits : (iInLen : Int) ≤ rtpRecvBuffMaxLen) :
    cutRanges pInData iInLen resume iRawDataLen = ranges ↔
      Undisturbed pInData iInLen resume iRawDataLen ranges := by
  induction ranges generalizing resume iRawDataLen with
  | nil =>
    rw [List.map_nil, List.sum_nil, Nat.add_zero] at room
    constructor
    · intro nothing position first
      rw [cutRanges_first first room fits, cutRanges_found first.inside first.found] at nothing
      by_contra accepted
      rw [if_neg accepted] at nothing
      cases nothing
    · intro rejected
      by_cases blind : Blind pInData iInLen resume (iInLen - 4)
      · exact cutRanges_blind blind room fits
      · obtain ⟨position, first⟩ := exists_first blind
        rw [cutRanges_first first room fits, cutRanges_found first.inside first.found,
          if_pos (rejected position first)]
  | cons range ranges ih =>
    obtain ⟨dataPos, dataLen⟩ := range
    have here : dataPos + dataLen ≤ iInLen := inside _ List.mem_cons_self
    have further := fun range member => inside range (List.mem_cons_of_mem _ member)
    rw [List.map_cons, List.sum_cons] at room
    constructor
    · intro same
      have seeing : ¬ Blind pInData iInLen resume (iInLen - 4) := by
        intro blind
        rw [cutRanges_blind blind (by omega) fits] at same
        cases same
      obtain ⟨position, first⟩ := exists_first seeing
      rw [cutRanges_first first (by omega) fits, cutRanges_found first.inside first.found] at same
      split at same
      · cases same
      · rename_i accepted
        simp only [copyBuffError, Bool.or_eq_true, decide_eq_true_eq, not_or] at accepted
        rw [List.cons.injEq, Prod.mk.injEq] at same
        obtain ⟨⟨start, size⟩, rest⟩ := same
        rw [size] at rest
        exact ⟨position, first, by omega, by omega, (ih further (by omega)).mp rest⟩
    · rintro ⟨position, first, start, size, rest⟩
      have accepted : (copyBuffError pInData iInLen position ||
          outOfRange pInData iInLen position iRawDataLen) = false := by
        simp only [copyBuffError, outOfRange, start, size, Bool.or_eq_false_iff,
          decide_eq_false_iff_not]
        omega
      rw [cutRanges_first first (by omega) fits, cutRanges_found first.inside first.found, accepted,
        start, size]
      simp only [Bool.false_eq_true, if_false, Int.toNat_natCast]
      rw [(ih further (by omega)).mpr rest]

theorem lengthBytes_value {length : Nat} (fits : length ≤ 65535) :
    (UInt8.ofNat (length / 256)).toNat * 256 + (UInt8.ofNat length).toNat = length := by
  simp only [UInt8.toNat_ofNat']
  omega

theorem PesPacket.length_bytes (packet : PesPacket) :
    packet.bytes.length = 9 + packet.header.length + packet.payload.length := by
  simp [bytes, lengthBytes]
  omega

variable {packet : PesPacket} {packets : List PesPacket}

/-- The fields the loop reads from a packet are the ones it was built from. -/
theorem PesPacket.fields (held : Holds pInData position packet.bytes) :
    startCode pInData position packet.streamId = true ∧
      iDataPos pInData position = position + 9 + packet.header.length ∧
      iDataLen pInData position = packet.payload.length ∧
      Holds pInData (position + 9 + packet.header.length) packet.payload := by
  have lengthValue := lengthBytes_value packet.packetFits
  have headValue : (UInt8.ofNat packet.header.length).toNat = packet.header.length := by
    have fits := packet.headerFits
    simp only [UInt8.toNat_ofNat']
    omega
  obtain ⟨front, payload⟩ := holds_append.mp held
  have behindHead : Holds pInData (position + 9 + packet.header.length) packet.payload := by
    convert payload using 1
    simp [lengthBytes]
    omega
  obtain ⟨fixed, _⟩ := holds_append.mp front
  obtain ⟨total, packetLength⟩ : ∃ total, total = 3 + packet.header.length +
    packet.payload.length := ⟨_, rfl⟩
  rw [← packetLength] at fixed lengthValue
  simp only [lengthBytes, List.cons_append, List.nil_append, holds_cons, holds_nil,
    Nat.add_assoc, Nat.reduceAdd] at fixed
  obtain ⟨b0, b1, b2, b3, b4, b5, _, _, b8, _⟩ := fixed
  have pes : usPesLen pInData position = total := by
    rw [usPesLen, b4, b5, lengthValue]
  have head : ucHeadLen pInData position = packet.header.length := by
    rw [ucHeadLen, b8, headValue]
  refine ⟨by simp [startCode, b0, b1, b2, b3], ?_, ?_, behindHead⟩
  · rw [iDataPos, head]
  · rw [iDataLen, pes, head]
    omega

theorem PesPacket.code (video : packet.streamId = 0xE0)
    (held : Holds pInData position packet.bytes) : pesCode pInData position = true := by
  have code := (fields held).1
  rwa [video] at code

theorem packetBytes_cons :
    packetBytes (packet :: packets) = packet.bytes ++ packetBytes packets := rfl

/-- The payloads stand in the packets one behind another. -/
theorem payloadRanges_inside (position : Nat) (packets : List PesPacket) :
    (∀ range ∈ payloadRanges position packets,
      range.1 + range.2 ≤ position + (packetBytes packets).length) ∧
    ((payloadRanges position packets).map Prod.snd).sum ≤ (packetBytes packets).length := by
  induction packets generalizing position with
  | nil => simp [payloadRanges]
  | cons packet packets ih =>
    obtain ⟨inside, total⟩ := ih (position + packet.bytes.length)
    have size := packet.length_bytes
    rw [packetBytes_cons, List.length_append, payloadRanges]
    split
    · rw [List.map_cons, List.sum_cons, List.forall_mem_cons]
      refine ⟨⟨by omega, fun range member => ?_⟩, by omega⟩
      have last := inside range member
      omega
    · refine ⟨fun range member => ?_, by omega⟩
      have last := inside range member
      omega

theorem payloadRanges_bytes (held : Holds pInData position (packetBytes packets)) :
    (payloadRanges position packets).flatMap (fun range => window pInData range.1 range.2) =
      videoPayload packets := by
  induction packets generalizing position with
  | nil => rfl
  | cons packet packets ih =>
    rw [packetBytes_cons] at held
    obtain ⟨here, further⟩ := holds_append.mp held
    obtain ⟨_, _, _, payload⟩ := PesPacket.fields here
    rw [payloadRanges]
    split
    · rename_i video
      rw [List.flatMap_cons, ih further]
      simp [payload.window_eq, videoPayload, video.1]
    · rename_i other
      rw [ih further]
      by_cases video : packet.streamId = 0xE0
      · have empty : packet.payload = [] := by simpa [video] using other
        simp [videoPayload, video, empty]
      · simp [videoPayload, video]

/-- What the loop puts into the raw buffer are the ranges it copies. -/
theorem rawData_eq_ranges :
    rawData pInData iInLen =
      (cutRanges pInData iInLen 0 0).flatMap (fun range => window pInData range.1 range.2) := by
  rw [rawData, cutRanges]
  induction cutReads pInData iInLen 0 0 with
  | nil => rfl
  | cons read reads ih =>
    rw [List.flatMap_cons, ih]
    cases read with
    | rejected i => rfl
    | copied i dataPos dataLen =>
      by_cases data : 0 < dataLen
      · simp [PesRead.range, data, PesRead.bytes]
      · have empty : dataLen = 0 := by omega
        simp [PesRead.range, empty, PesRead.bytes, window]

theorem cutPsHeader_delivered (long : 4 < iInLen) :
    (cutPsHeader true pInData iInLen).delivered.getD [] = rawData pInData iInLen := by
  have enough : ¬ iInLen ≤ 4 := by omega
  cases raw : rawData pInData iInLen <;> simp [cutPsHeader, enough, raw]

theorem startCode_congr {streamId : UInt8} {i : Nat}
    (same : ∀ place < iInLen, other place = pInData place) (inside : i + 3 < iInLen) :
    startCode other i streamId = startCode pInData i streamId := by
  simp only [startCode, same i (by omega), same (i + 1) (by omega), same (i + 2) (by omega),
    same (i + 3) inside]

/-- What stands behind the frame is not read: a packet whose fields reach over it is rejected. -/
theorem cutLoop_congr (same : ∀ place < iInLen, other place = pInData place) (rounds : Nat) :
    cutLoop other iInLen rounds i iRawDataLen = cutLoop pInData iInLen rounds i iRawDataLen := by
  induction rounds generalizing i iRawDataLen with
  | zero => rfl
  | succ rounds ih =>
    rw [cutLoop, cutLoop]
    by_cases inside : i + 4 < iInLen
    · have codes (streamId : UInt8) : startCode other i streamId = startCode pInData i streamId :=
        startCode_congr same (show i + 3 < iInLen by omega)
      have header : psHeaderCode other i = psHeaderCode pInData i := by
        rw [psHeaderCode, codes, codes, codes, psHeaderCode]
      have pes : pesCode other i = pesCode pInData i := codes 0xE0
      rw [header, pes]
      by_cases whole : i + 8 < iInLen
      · have dataPos : iDataPos other i = iDataPos pInData i := by
          rw [iDataPos, ucHeadLen, same (i + 8) whole, iDataPos, ucHeadLen]
        have dataLen : iDataLen other i = iDataLen pInData i := by
          rw [iDataLen, usPesLen, ucHeadLen, same (i + 4) inside, same (i + 5) (by omega),
            same (i + 8) whole, iDataLen, usPesLen, ucHeadLen]
        have error : copyBuffError other iInLen i = copyBuffError pInData iInLen i := by
          rw [copyBuffError, dataPos, dataLen, copyBuffError]
        have range : outOfRange other iInLen i iRawDataLen = outOfRange pInData iInLen i iRawDataLen := by
          rw [outOfRange, dataLen, outOfRange]
        simp only [error, range, dataPos, dataLen, ih]
      · have beyond (memory : Mem UInt8) : copyBuffError memory iInLen i = true := by
          have start : iDataPos memory i > iInLen := by
            unfold iDataPos
            omega
          simp [copyBuffError, start]
        simp only [beyond, Bool.true_or, if_true, ih]
    · rw [if_neg inside, if_neg inside]

theorem cutRanges_congr (same : ∀ place < iInLen, other place = pInData place) :
    cutRanges other iInLen i iRawDataLen = cutRanges pInData iInLen i iRawDataLen := by
  rw [cutRanges, cutReads, cutLoop_congr same, cutRanges, cutReads]

theorem PsFrame.length_headers (frame : PsFrame) : 14 ≤ frame.headers.length := by
  obtain ⟨_, _, stuffed⟩ := frame.stuffed
  simp only [headers, List.length_append, List.length_cons, List.length_nil]
  omega

/-- A collected frame that fits the buffers is delivered as it was built exactly when the
scan is undisturbed. -/
theorem cutPsHeader_delivers_iff (frame : PsFrame) (pPsData : Mem UInt8)
    (fits : (frame.bytes.length : Int) ≤ rtpRecvBuffMaxLen) :
    frame.Delivered pPsData ↔ frame.Undisturbed := by
  have length : frame.bytes.length = frame.headers.length + (packetBytes frame.packets).length := by
    rw [PsFrame.bytes, List.length_append]
  have long := frame.length_headers
  have held : Holds (frame.collected pPsData) frame.headers.length (packetBytes frame.packets) := by
    have whole := holds_append.mp (holds_overlay frame.bytes pPsData)
    simpa [PsFrame.collected] using whole.2
  have same : ∀ place < frame.bytes.length,
      frame.collected pPsData place = frame.collected (fun _ => 0) place := by
    intro place inside
    simp [PsFrame.collected, overlay, inside]
  obtain ⟨inside, total⟩ := payloadRanges_inside frame.headers.length frame.packets
  rw [PsFrame.Undisturbed, ← cutRanges_iff_undisturbed (by rw [length]; exact inside)
    (by omega) fits, ← cutRanges_congr same]
  constructor
  · exact fun delivered => delivered.1
  · intro ranges
    refine ⟨ranges, ?_⟩
    rw [cutPsHeader_delivered (by omega), rawData_eq_ranges, ranges, payloadRanges_bytes held]

theorem video_notPsHeader : (0xE0 : UInt8) ≠ 0xBA ∧ (0xE0 : UInt8) ≠ 0xBB ∧ (0xE0 : UInt8) ≠ 0xBC := by
  decide

/-- A frame with one `E0` packet, whose header data are those of a time stamp pair. -/
def videoFrame (payload : List UInt8) (packetFits : 3 + 10 + payload.length ≤ 65535) : PsFrame where
  packFields := [0x44, 0x00, 0x04, 0x00, 0x04, 0x01, 0x00, 0x03, 0xFF, 0xF8]
  systemHeader := none
  programMap := none
  packets := [{
    streamId := 0xE0
    firstFlags := 0x80
    secondFlags := 0xC0
    header := [0x31, 0x00, 0x01, 0x00, 0x01, 0x11, 0x00, 0x01, 0x00, 0x01]
    payload := payload
    notPsHeader := video_notPsHeader
    headerFits := by decide
    packetFits := packetFits }]
  stuffed := ⟨0xF8, rfl, rfl⟩
  systemFits := by simp
  mapFits := by simp

theorem videoFrame_undisturbed :
    (videoFrame [0x00, 0x00, 0x00, 0x01, 0x41, 0x9A] (by decide)).Undisturbed :=
  (cutPsHeader_delivers_iff _ (fun _ => 0x00) (by decide)).mp
    ⟨by decide +kernel, by decide +kernel⟩

/-- What reads as another packet in this payload reaches over the frame and ends the scan. -/
example : (videoFrame [0x00, 0x00, 0x01, 0xE0, 0xFF, 0xFF, 0x80, 0x00, 0x00] (by decide)).Delivered
    (fun _ => 0x00) :=
  ⟨by decide +kernel, by decide +kernel⟩

/-- The payload ends in what reads as another packet, whose data are taken once more. -/
theorem cutPsHeader_payload_repeated :
    ¬ ∀ (frame : PsFrame) (pPsData : Mem UInt8),
      (frame.bytes.length : Int) ≤ rtpRecvBuffMaxLen → frame.Delivered pPsData := by
  intro delivers
  have repeated := delivers
    (videoFrame [0x00, 0x00, 0x01, 0xE0, 0x00, 0x04, 0x80, 0x00, 0x00, 0x55] (by decide))
    (fun _ => 0x00) (by decide)
  exact absurd repeated.2 (by decide)

end Gb28181.StreamPuller
