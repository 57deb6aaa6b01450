import Gb28181.PushPull.StartCodes

namespace Gb28181.PushPull

open Gb28181.Lib Gb28181.Psmux Gb28181.StreamPuller

variable {memory : Mem UInt8} {position resume iRawDataLen s64Scr : Nat} {segment : List UInt8} {frame : NalFrame}

/-- The bytes of a piece open with a start code other than `streamId`. -/
def OpensOther (streamId : UInt8) (piece : List UInt8) : Prop :=
  ∃ own rest, piece = [0x00, 0x00, 0x01, own] ++ rest ∧ own ≠ streamId

/-- A start code that no piece opens with is not found in quiet pieces. -/
theorem quiet_no_code {streamId : UInt8} (looked : streamId ∈ specialIds)
    {pieces : List (List UInt8)} (quiet : Quiet memory position pieces)
    (held : Holds memory position pieces.flatten)
    (opens : ∀ piece ∈ pieces, OpensOther streamId piece) (place : Nat) (low : position ≤ place)
    (high : place < position + pieces.flatten.length) :
    startCode memory place streamId = false := by
  induction pieces generalizing position with
  | nil => simp at high; omega
  | cons piece pieces ih =>
    rw [List.flatten_cons] at held high
    rw [List.length_append] at high
    obtain ⟨here, further⟩ := holds_append.mp held
    obtain ⟨own, rest, bytes, other⟩ := opens piece (List.mem_cons_self ..)
    by_cases later : position + piece.length ≤ place
    · exact ih quiet.2 further (fun piece member => opens piece (List.mem_cons_of_mem _ member))
        later (by omega)
    · by_contra found
      have code := startCode_iff.mp (by simpa using found)
      by_cases first : place = position
      · subst first
        rw [bytes] at here
        exact other (here.2.2.2.1.symm.trans code.2.2.2.1)
      · have clear := quiet.1 place (by omega) (by omega)
        simp only [specialIds, List.mem_cons, List.not_mem_nil, or_false] at looked
        have found : startCode memory place streamId = true := by simpa using found
        rcases looked with rfl | rfl | rfl | rfl <;>
          simp [special, psHeaderCode, pesCode, found] at clear

def timeStamps (s64Scr : Nat) : List UInt8 :=
  headerBytes (timeStampFields 3 s64Scr) ++ headerBytes (timeStampFields 1 s64Scr)

theorem length_timeStamps (s64Scr : Nat) : (timeStamps s64Scr).length = 10 := by
  obtain ⟨_, _, _, _, _, _, _, _, pts⟩ := timeStampBytes 3 s64Scr rfl
  obtain ⟨_, _, _, _, _, _, _, _, dts⟩ := timeStampBytes 1 s64Scr rfl
  rw [timeStamps, pts, dts]
  rfl

theorem timeStamps_fit (s64Scr : Nat) : (timeStamps s64Scr).length ≤ 255 := by
  rw [length_timeStamps]
  decide

theorem segment_fits (s64Scr : Nat) {segment : List UInt8}
    (fits : segment.length ≤ psPesPayloadSize) :
    3 + (timeStamps s64Scr).length + segment.length ≤ 65535 := by
  rw [psPesPayloadSize] at fits
  rw [length_timeStamps]
  omega

def pesPacket (s64Scr : Nat) (segment : List UInt8) (fits : segment.length ≤ psPesPayloadSize) :
    PesPacket where
  streamId := 0xE0
  firstFlags := 0x80
  secondFlags := 0xC0
  header := timeStamps s64Scr
  payload := segment
  notPsHeader := video_notPsHeader
  headerFits := timeStamps_fit s64Scr
  packetFits := segment_fits s64Scr fits

theorem bytes_pesPacket (fits : segment.length ≤ psPesPayloadSize) :
    (pesPacket s64Scr segment fits).bytes = pesPacketBytes s64Scr segment := by
  have length : 3 + 10 + segment.length = segment.length + 13 := by omega
  simp only [pesPacket, PesPacket.bytes, length_timeStamps, length, lengthBytes, pesPacketBytes,
    pesHeaderBytes]
  simp [timeStamps]

def pesPackets (s64Scr : Nat) (frame : List UInt8) : List PesPacket :=
  (chunks psPesPayloadSize frame).pmap (pesPacket s64Scr)
    fun _ member => (length_of_mem_chunks member).2

theorem map_bytes_pesPackets (frame : List UInt8) :
    (pesPackets s64Scr frame).map PesPacket.bytes = pesPieces s64Scr frame := by
  simp [pesPackets, pesPieces, List.map_pmap, bytes_pesPacket, List.pmap_eq_map]

theorem streamId_pesPackets {frame : List UInt8} {packet : PesPacket}
    (member : packet ∈ pesPackets s64Scr frame) : packet.streamId = 0xE0 := by
  obtain ⟨_, _, rfl⟩ := List.mem_pmap.mp member
  rfl

theorem payload_ne_nil {frame : List UInt8} {packet : PesPacket}
    (member : packet ∈ pesPackets s64Scr frame) : packet.payload ≠ [] := by
  obtain ⟨segment, chunk, rfl⟩ := List.mem_pmap.mp member
  exact List.length_pos_iff.mp (length_of_mem_chunks chunk).1

theorem payload_pesPackets (frame : List UInt8) :
    (pesPackets s64Scr frame).flatMap PesPacket.payload = frame := by
  have segments : (pesPackets s64Scr frame).map PesPacket.payload = chunks psPesPayloadSize frame := by
    simp [pesPackets, List.map_pmap, pesPacket, List.pmap_eq_map]
  rw [List.flatMap_def, segments, flatten_chunks (by decide)]

theorem videoPayload_of_all {packets : List PesPacket}
    (video : ∀ packet ∈ packets, packet.streamId = 0xE0) :
    videoPayload packets = packets.flatMap PesPacket.payload := by
  rw [videoPayload, List.filter_eq_self.mpr (by simpa using video)]

/-- Behind one packet the scan goes on inside it, and meets nothing before the next one. -/
theorem undisturbed_of_quiet {packets : List PesPacket} {iInLen : Nat}
    (quiet : Quiet memory position (packets.map PesPacket.bytes))
    (video : ∀ packet ∈ packets, packet.streamId = 0xE0)
    (data : ∀ packet ∈ packets, packet.payload ≠ [])
    (held : Holds memory position (packetBytes packets))
    (ended : position + (packetBytes packets).length = iInLen)
    (reached : resume ≤ position)
    (noPacket : ∀ place, resume ≤ place → place < position → pesCode memory place = false)
    (noJump : resume + 4 ≤ position → psHeaderCode memory (position - 4) = false) :
    Undisturbed memory iInLen resume iRawDataLen (payloadRanges position packets) := by
  induction packets generalizing resume position iRawDataLen with
  | nil =>
    intro place first
    rw [packetBytes, List.flatMap_nil, List.length_nil] at ended
    have code := first.found.1
    have inside := first.inside
    rw [noPacket place first.reached (by omega)] at code
    cases code
  | cons packet packets ih =>
    have size := packet.length_bytes
    rw [packetBytes_cons, List.length_append] at ended
    rw [packetBytes_cons] at held
    obtain ⟨here, further⟩ := holds_append.mp held
    have own := video packet List.mem_cons_self
    have payload : 0 < packet.payload.length :=
      List.length_pos_iff.mpr (data packet List.mem_cons_self)
    obtain ⟨_, dataPos, dataLen, _⟩ := PesPacket.fields here
    rw [payloadRanges, if_pos ⟨own, payload⟩]
    refine ⟨position, ⟨by omega, by omega, ⟨PesPacket.code own here, ?_⟩, ?_, ?_⟩, by omega,
      dataLen, ?_⟩
    · rintro ⟨empty, _⟩
      omega
    · rw [Looked, marksBefore, if_neg]
      · exact Even.zero
      · rintro ⟨_, reached, jump⟩
        rw [noJump reached] at jump
        cases jump
    · intro place low high found
      rw [Found, noPacket place low high] at found
      cases found.1
    · have silent := quiet.1
      have videoRest : ∀ packet ∈ packets, packet.streamId = 0xE0 :=
        fun packet member => video packet (List.mem_cons_of_mem _ member)
      have dataRest : ∀ packet ∈ packets, packet.payload ≠ [] :=
        fun packet member => data packet (List.mem_cons_of_mem _ member)
      apply ih quiet.2 videoRest dataRest further (by omega) (by omega)
      · intro place low high
        have clear := silent place (by omega) high
        simp only [special, Bool.or_eq_false_iff] at clear
        exact clear.2
      · intro reached
        have clear := silent (position + packet.bytes.length - 4) (by omega) (by omega)
        simp only [special, Bool.or_eq_false_iff] at clear
        exact clear.1

def NalType.startsPack (nalType : NalType) : Bool := nalType = .sps || nalType = .pframe

/-- The frames of a pack, with the time stamps they were multiplexed with. -/
structure Pack where
  first : NalFrame
  firstScr : Nat
  rest : List (NalFrame × Nat)
  starts : NalType.startsPack first.type = true
  continues : ∀ entry ∈ rest, entry.1.type = .pps ∨ entry.1.type = .idr

def Pack.entries (pack : Pack) : List (NalFrame × Nat) := (pack.first, pack.firstScr) :: pack.rest

def Pack.headers (pack : Pack) : List UInt8 := packHeaders pack.first.type pack.firstScr

def Pack.bytes (pack : Pack) : List UInt8 :=
  pack.headers ++ pack.entries.flatMap fun entry => pesBytes entry.2 entry.1.bytes

def Pack.stream (pack : Pack) : List UInt8 := pack.entries.flatMap fun entry => entry.1.bytes

def Pack.packets (pack : Pack) : List PesPacket :=
  pack.entries.flatMap fun entry => pesPackets entry.2 entry.1.bytes

theorem muxed_of_startsPack {nalType : NalType} (starts : NalType.startsPack nalType = true) :
    nalType.muxed = true := by
  cases nalType <;> first | rfl | cases starts

theorem Pack.muxed (pack : Pack) : ∀ entry ∈ pack.entries, entry.1.type.muxed = true := by
  intro entry member
  rcases List.mem_cons.mp member with rfl | later
  · exact muxed_of_startsPack pack.starts
  · rcases pack.continues entry later with type | type <;> rw [type] <;> rfl

theorem flatten_pesPieces (frame : List UInt8) :
    (pesPieces s64Scr frame).flatten = pesBytes s64Scr frame := by
  rw [pesPieces, pesBytes, List.flatMap_def]

theorem packetBytes_pesPackets (frame : List UInt8) :
    packetBytes (pesPackets s64Scr frame) = pesBytes s64Scr frame := by
  rw [packetBytes, List.flatMap_def, map_bytes_pesPackets, flatten_pesPieces]

theorem entries_quiet {entries : List (NalFrame × Nat)}
    (muxed : ∀ entry ∈ entries, entry.1.type.muxed = true)
    (held : Holds memory position (entries.flatMap fun entry => pesBytes entry.2 entry.1.bytes)) :
    Quiet memory position (entries.flatMap fun entry => pesPieces entry.2 entry.1.bytes) := by
  induction entries generalizing position with
  | nil => trivial
  | cons entry entries ih =>
    rw [List.flatMap_cons] at held ⊢
    obtain ⟨here, further⟩ := holds_append.mp held
    refine quiet_append.mpr ⟨pesPieces_quiet (muxed entry (List.mem_cons_self ..)) here, ?_⟩
    rw [flatten_pesPieces]
    exact ih (fun entry member => muxed entry (List.mem_cons_of_mem _ member)) further

theorem Pack.packetBytes_packets (pack : Pack) :
    packetBytes pack.packets =
      pack.entries.flatMap fun entry => pesBytes entry.2 entry.1.bytes := by
  simp only [packetBytes, packets, List.flatMap_assoc]
  congr 1
  funext entry
  exact packetBytes_pesPackets _

theorem Pack.video (pack : Pack) : ∀ packet ∈ pack.packets, packet.streamId = 0xE0 := by
  intro packet member
  obtain ⟨_, _, found⟩ := List.mem_flatMap.mp member
  exact streamId_pesPackets found

theorem Pack.data (pack : Pack) : ∀ packet ∈ pack.packets, packet.payload ≠ [] := by
  intro packet member
  obtain ⟨_, _, found⟩ := List.mem_flatMap.mp member
  exact payload_ne_nil found

theorem Pack.videoPayload_packets (pack : Pack) : videoPayload pack.packets = pack.stream := by
  rw [videoPayload_of_all pack.video, packets, List.flatMap_assoc, stream]
  congr 1
  funext entry
  exact payload_pesPackets _

theorem Pack.stream_ne_nil (pack : Pack) : pack.stream ≠ [] := by
  simp [stream, entries, NalFrame.bytes]

theorem psHeader_opens {streamId : UInt8} (other : 0xBA ≠ streamId) :
    OpensOther streamId (headerBytes (psHeaderFields s64Scr)) := by
  obtain ⟨_, _, _, _, _, _, _, _, _, _, bytes⟩ := psHeaderBytes s64Scr
  exact ⟨0xBA, _, bytes, other⟩

theorem sysHeader_opens {streamId : UInt8} (other : 0xBB ≠ streamId) :
    OpensOther streamId (headerBytes sysHeaderFields) := ⟨0xBB, _, sysHeaderBytes, other⟩

theorem psmHeader_opens {streamId : UInt8} (other : 0xBC ≠ streamId) :
    OpensOther streamId (headerBytes psmHeaderFields) := ⟨0xBC, _, psmHeaderBytes, other⟩

/-- In the headers of a pack no packet starts, and nothing behind them is jumped over. -/
theorem packHeaders_quiet {nalType : NalType} (starts : NalType.startsPack nalType = true)
    (held : Holds memory 0 (packHeaders nalType s64Scr)) :
    (∀ place < (packHeaders nalType s64Scr).length, pesCode memory place = false) ∧
      psHeaderCode memory ((packHeaders nalType s64Scr).length - 4) = false := by
  have quiet := headerPieces_quiet held
  have opens : ∀ piece ∈ headerPieces nalType s64Scr, OpensOther 0xE0 piece := by
    cases nalType <;> simp [headerPieces, psHeader_opens, sysHeader_opens, psmHeader_opens]
  rw [← flatten_headerPieces] at held
  have noPacket := quiet_no_code (by decide) quiet held opens
  rw [flatten_headerPieces] at noPacket
  refine ⟨fun place inside => noPacket place (Nat.zero_le _) (by omega), ?_⟩
  have psLength := length_psHeader s64Scr
  have sysLength : (headerBytes sysHeaderFields).length = 18 := congrArg List.length sysHeaderBytes
  have psmLength : (headerBytes psmHeaderFields).length = 24 := congrArg List.length psmHeaderBytes
  rw [show psHdrLen = 14 from rfl] at psLength
  suffices silent : special memory ((packHeaders nalType s64Scr).length - 4) = false by
    simp only [special, Bool.or_eq_false_iff] at silent
    exact silent.1
  cases nalType with
  | sps =>
    simp only [packHeaders, List.length_append, psLength, sysLength, psmLength]
    exact quiet.2.2.1 _ (by simp [psLength, sysLength]) (by simp [psLength, sysLength, psmLength])
  | pframe =>
    simp only [packHeaders, psLength]
    exact quiet.1 _ (by simp) (by simp [psLength])
  | pps | idr | sei | vps | seiPrefix | seiSuffix | other => cases starts

theorem packHeaders_long (s64Scr : Nat) {nalType : NalType} (starts : NalType.startsPack nalType = true) :
    14 ≤ (packHeaders nalType s64Scr).length := by
  rw [length_packHeaders]
  cases nalType with
  | sps | pframe => decide
  | pps | idr | sei | vps | seiPrefix | seiSuffix | other => cases starts

/-- The puller delivers the frames of a collected pack. -/
theorem Pack.delivered (pack : Pack) (held : Holds memory 0 pack.bytes)
    (fits : (pack.bytes.length : Int) ≤ rtpRecvBuffMaxLen) :
    (cutPsHeader true memory pack.bytes.length).delivered = some pack.stream := by
  obtain ⟨headers, entries⟩ := holds_append.mp held
  rw [Nat.zero_add, ← pack.packetBytes_packets] at entries
  have length : pack.headers.length + (packetBytes pack.packets).length = pack.bytes.length := by
    rw [Pack.bytes, List.length_append, pack.packetBytes_packets]
  have quiet : Quiet memory pack.headers.length (pack.packets.map PesPacket.bytes) := by
    rw [pack.packetBytes_packets] at entries
    have pieces := entries_quiet pack.muxed entries
    simpa [Pack.packets, List.map_flatMap, map_bytes_pesPackets] using pieces
  obtain ⟨noPacket, noJump⟩ := packHeaders_quiet pack.starts headers
  have undisturbed : Undisturbed memory pack.bytes.length 0 0
      (payloadRanges pack.headers.length pack.packets) :=
    undisturbed_of_quiet quiet pack.video pack.data entries length (Nat.zero_le _)
      (fun place _ inside => noPacket place inside) fun _ => noJump
  obtain ⟨inside, total⟩ := payloadRanges_inside pack.headers.length pack.packets
  have ranges : cutRanges memory pack.bytes.length 0 0 =
      payloadRanges pack.headers.length pack.packets :=
    (cutRanges_iff_undisturbed (by rwa [← length]) (by omega) fits).mpr undisturbed
  have raw : rawData memory pack.bytes.length = pack.stream := by
    rw [rawData_eq_ranges, ranges, payloadRanges_bytes entries, pack.videoPayload_packets]
  have headersLength := packHeaders_long pack.firstScr pack.starts
  rw [Pack.headers] at length
  rw [cutPsHeader, if_neg (by simp), if_neg (by omega)]
  simp [raw, List.length_pos_iff, pack.stream_ne_nil]

end Gb28181.PushPull
