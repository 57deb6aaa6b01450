import Gb28181.Lib.Chunks
import Gb28181.Psmux.Headers

/-! `h264PsMux`: one H.264 frame becomes PES packets, behind the headers of a new pack
where the frame starts one. -/

namespace Gb28181.Psmux

open Gb28181.Lib

/-- `NAL_type`. -/
inductive NalType where
  | idr | sps | pps | sei | pframe | vps | seiPrefix | seiSuffix | other
  deriving DecidableEq, Repr

def getH264NALtype (c : UInt8) : NalType :=
  match (c &&& 0x1F).toNat with
  | 6 => .sei
  | 7 => .sps
  | 8 => .pps
  | 5 => .idr
  | 1 => .pframe
  | _ => .other

/-- `PS_PES_PAYLOAD_SIZE`. -/
def psPesPayloadSize : Nat := 65535 - 13

/-- The output buffer and how much of it is filled. -/
structure Muxed where
  pOutPsData : Mem UInt8
  iRetPsLen : Nat

/-- `INT_MAX`. -/
def intMax : Nat := 2147483647

/-- The loop of `addPesHeader`; every round takes at least one byte of the frame. There is no
result where the length of the output leaves the range of its `int`. -/
def addPesLoop (pH264RawData : Mem UInt8) (s64Scr : Nat) : Nat → Nat → Nat → Muxed → Option Muxed
  | 0, _, _, muxed => some muxed
  | rounds + 1, iDataPos, iLeftFrameLen, muxed =>
    if iLeftFrameLen > 0 then
      let nSize := if iLeftFrameLen > psPesPayloadSize then psPesPayloadSize else iLeftFrameLen
      let btPesHeader := makePesHeader 0xE0 nSize s64Scr s64Scr (fun _ => 0) 0
      let withHeader := memcpy muxed.pOutPsData muxed.iRetPsLen btPesHeader pesHdrLen
      let withData := memcpy withHeader (muxed.iRetPsLen + pesHdrLen)
        (advance pH264RawData iDataPos) nSize
      if muxed.iRetPsLen + pesHdrLen + nSize > intMax then none
      else
        addPesLoop pH264RawData s64Scr rounds (iDataPos + nSize) (iLeftFrameLen - nSize)
          ⟨withData, muxed.iRetPsLen + pesHdrLen + nSize⟩
    else some muxed

/-- `addPesHeader` at the end of what is filled already. -/
def addPesHeader (pH264RawData : Mem UInt8) (iH264DataLen s64Scr : Nat) (muxed : Muxed) :
    Option Muxed :=
  addPesLoop pH264RawData s64Scr iH264DataLen 0 iH264DataLen muxed

def h264PsMux (pH264RawData : Mem UInt8) (iH264DataLen : Nat) (nalType : NalType) (s64Scr : Nat)
    (pOutPsData : Mem UInt8) : Option Muxed :=
  match nalType with
  | .sps =>
    let withPs := makePsHeader s64Scr pOutPsData 0
    let withSys := makeSysHeader withPs psHdrLen
    let withPsm := makePsmHeader withSys (psHdrLen + sysHdrLen)
    addPesHeader pH264RawData iH264DataLen s64Scr ⟨withPsm, psHdrLen + sysHdrLen + psmHdrLen⟩
  | .pps | .idr => addPesHeader pH264RawData iH264DataLen s64Scr ⟨pOutPsData, 0⟩
  | .pframe =>
    let withPs := makePsHeader s64Scr pOutPsData 0
    addPesHeader pH264RawData iH264DataLen s64Scr ⟨withPs, psHdrLen⟩
  | _ => some ⟨pOutPsData, 0⟩

/-- One PES packet with a part of the frame. -/
def pesPacketBytes (s64Scr : Nat) (segment : List UInt8) : List UInt8 :=
  headerBytes (pesHeaderFields 0xE0 segment.length s64Scr s64Scr) ++ segment

def pesBytes (s64Scr : Nat) (frame : List UInt8) : List UInt8 :=
  (chunks psPesPayloadSize frame).flatMap (pesPacketBytes s64Scr)

/-- The headers in front of the PES packets. -/
def packHeaders (nalType : NalType) (s64Scr : Nat) : List UInt8 :=
  match nalType with
  | .sps => headerBytes (psHeaderFields s64Scr) ++ headerBytes sysHeaderFields ++
      headerBytes psmHeaderFields
  | .pframe => headerBytes (psHeaderFields s64Scr)
  | _ => []

/-- The frames that go into the stream. -/
def NalType.muxed : NalType → Bool
  | .sps | .pps | .idr | .pframe => true
  | _ => false

def muxBytes (nalType : NalType) (s64Scr : Nat) (frame : List UInt8) : List UInt8 :=
  if nalType.muxed then packHeaders nalType s64Scr ++ pesBytes s64Scr frame else []

theorem length_psHeader (s64Scr : Nat) : (headerBytes (psHeaderFields s64Scr)).length = psHdrLen := by
  obtain ⟨_, _, _, _, _, _, _, _, _, _, bytes⟩ := psHeaderBytes s64Scr
  rw [bytes]
  rfl

theorem length_pesHeader (payloadLen s64Scr : Nat) :
    (headerBytes (pesHeaderFields 0xE0 payloadLen s64Scr s64Scr)).length = pesHdrLen := by
  obtain ⟨_, _, _, _, _, _, _, _, pts⟩ := timeStampBytes 3 s64Scr rfl
  obtain ⟨_, _, _, _, _, _, _, _, dts⟩ := timeStampBytes 1 s64Scr rfl
  rw [pesHeaderBytes, pts, dts]
  rfl

/-- The output buffer starts with `bytes` and nothing else is filled. -/
structure Filled (muxed : Muxed) (bytes : List UInt8) : Prop where
  length : muxed.iRetPsLen = bytes.length
  holds : Holds muxed.pOutPsData 0 bytes

/-- Just these bytes are filled, or they are more than an `int` counts. -/
def Fills (bytes : List UInt8) : Option Muxed → Prop
  | some muxed => Filled muxed bytes ∧ bytes.length ≤ intMax
  | none => intMax < bytes.length

variable {pH264RawData : Mem UInt8} {muxed : Muxed} {bytes frame : List UInt8}

private theorem filled_segment {iDataPos : Nat} {segment : List UInt8} (s64Scr : Nat)
    (filled : Filled muxed bytes) (raw : Holds pH264RawData iDataPos segment) :
    Filled ⟨memcpy (memcpy muxed.pOutPsData muxed.iRetPsLen
        (makePesHeader 0xE0 segment.length s64Scr s64Scr (fun _ => 0) 0) pesHdrLen)
        (muxed.iRetPsLen + pesHdrLen) (advance pH264RawData iDataPos) segment.length,
      muxed.iRetPsLen + pesHdrLen + segment.length⟩ (bytes ++ pesPacketBytes s64Scr segment) := by
  obtain ⟨length, holds⟩ := filled
  have header := (makeHeader_puts (pesHeaderFields 0xE0 segment.length s64Scr s64Scr) pesHdrLen
    0).holds fun _ => 0
  have headerLength := length_pesHeader segment.length s64Scr
  have withHeader := holds.memcpy_append header
  have source : Holds (advance pH264RawData iDataPos) 0 segment :=
    holds_advance.mpr (by simpa using raw)
  have withData := withHeader.memcpy_append source
  rw [List.length_append, headerLength] at withData
  refine ⟨?_, ?_⟩
  · simp only [pesPacketBytes, List.length_append, headerLength, length]
    omega
  · simpa only [makePesHeader, pesPacketBytes, List.append_assoc, Nat.zero_add, length,
      Nat.add_assoc] using withData

theorem addPesLoop_fills (s64Scr rounds iDataPos : Nat) (filled : Filled muxed bytes)
    (counted : bytes.length ≤ intMax) (enough : frame.length ≤ rounds)
    (raw : Holds pH264RawData iDataPos frame) :
    Fills (bytes ++ pesBytes s64Scr frame)
      (addPesLoop pH264RawData s64Scr rounds iDataPos frame.length muxed) := by
  induction rounds generalizing iDataPos frame muxed bytes with
  | zero =>
    have empty : frame = [] := List.length_eq_zero_iff.mp (by omega)
    simpa [addPesLoop, pesBytes, empty, Fills] using ⟨filled, counted⟩
  | succ rounds ih =>
    rw [addPesLoop]
    split
    · rename_i more
      have size : (if frame.length > psPesPayloadSize then psPesPayloadSize else frame.length) =
          (frame.take psPesPayloadSize).length := by
        simp only [List.length_take]
        split <;> omega
      have positive : 0 < psPesPayloadSize := by decide
      have parts := holds_append.mp ((List.take_append_drop psPesPayloadSize frame).symm ▸ raw)
      have fewer : (frame.drop psPesPayloadSize).length ≤ rounds := by
        simp only [List.length_drop]
        omega
      have segment := filled_segment s64Scr filled parts.1
      have left : frame.length - (frame.take psPesPayloadSize).length =
          (frame.drop psPesPayloadSize).length := by
        simp only [List.length_take, List.length_drop]
        omega
      have whole : bytes ++ pesBytes s64Scr frame =
          (bytes ++ pesPacketBytes s64Scr (frame.take psPesPayloadSize)) ++
            pesBytes s64Scr (frame.drop psPesPayloadSize) := by
        simp only [pesBytes, chunks_step positive more, List.flatMap_cons, List.append_assoc]
      have written : muxed.iRetPsLen + pesHdrLen + (frame.take psPesPayloadSize).length =
          (bytes ++ pesPacketBytes s64Scr (frame.take psPesPayloadSize)).length := segment.length
      simp only [size, left]
      rw [whole]
      split
      · rename_i overflows
        rw [Fills, List.length_append]
        omega
      · exact ih _ segment (by omega) fewer parts.2
    · have empty : frame = [] := List.length_eq_zero_iff.mp (by omega)
      simpa [pesBytes, empty, Fills] using ⟨filled, counted⟩

theorem addPesHeader_fills (s64Scr : Nat) (filled : Filled muxed bytes)
    (counted : bytes.length ≤ intMax) (raw : Holds pH264RawData 0 frame) :
    Fills (bytes ++ pesBytes s64Scr frame)
      (addPesHeader pH264RawData frame.length s64Scr muxed) :=
  addPesLoop_fills s64Scr _ 0 filled counted (Nat.le_refl _) raw

/-- The multiplexer fills the output buffer with the headers and packets of the frame. -/
theorem h264PsMux_fills (nalType : NalType) (s64Scr : Nat) (pOutPsData : Mem UInt8)
    (raw : Holds pH264RawData 0 frame) :
    Fills (muxBytes nalType s64Scr frame)
      (h264PsMux pH264RawData frame.length nalType s64Scr pOutPsData) := by
  have none : Filled ⟨pOutPsData, 0⟩ [] := ⟨rfl, trivial⟩
  have ps : Holds (makePsHeader s64Scr pOutPsData 0) 0 (headerBytes (psHeaderFields s64Scr)) :=
    (makeHeader_puts _ _ _).holds _
  have psLength := length_psHeader s64Scr
  cases nalType with
  | sps =>
    have sysPuts := makeHeader_puts sysHeaderFields sysHdrLen
      (0 + (headerBytes (psHeaderFields s64Scr)).length)
    have sys := sysPuts.append ps
    have psmPuts := makeHeader_puts psmHeaderFields psmHdrLen
      (0 + (headerBytes (psHeaderFields s64Scr) ++ headerBytes sysHeaderFields).length)
    have psm := psmPuts.append sys
    have sysLength : (headerBytes sysHeaderFields).length = sysHdrLen :=
      congrArg List.length sysHeaderBytes
    have psmLength : (headerBytes psmHeaderFields).length = psmHdrLen :=
      congrArg List.length psmHeaderBytes
    simp only [List.length_append, psLength, sysLength, Nat.zero_add] at psm
    have filled : Filled ⟨makePsmHeader (makeSysHeader (makePsHeader s64Scr pOutPsData 0) psHdrLen)
        (psHdrLen + sysHdrLen), psHdrLen + sysHdrLen + psmHdrLen⟩ (packHeaders .sps s64Scr) :=
      ⟨by simp [packHeaders, psLength, sysLength, psmLength, Nat.add_assoc], psm⟩
    refine addPesHeader_fills s64Scr filled ?_ raw
    simp [packHeaders, psLength, sysLength, psmLength, psHdrLen, sysHdrLen, psmHdrLen, intMax]
  | pframe =>
    have filled : Filled ⟨makePsHeader s64Scr pOutPsData 0, psHdrLen⟩ (packHeaders .pframe s64Scr) :=
      ⟨psLength.symm, ps⟩
    refine addPesHeader_fills s64Scr filled ?_ raw
    simp [packHeaders, psLength, psHdrLen, intMax]
  | pps | idr => exact addPesHeader_fills s64Scr none (Nat.zero_le _) raw
  | sei | vps | seiPrefix | seiSuffix | other => exact ⟨none, Nat.zero_le _⟩

theorem length_pesBytes (s64Scr : Nat) (frame : List UInt8) :
    (pesBytes s64Scr frame).length = frame.length + pesHdrLen *
      ((frame.length + (psPesPayloadSize - 1)) / psPesPayloadSize) := by
  have positive : 0 < psPesPayloadSize := by decide
  induction frame using chunks_induction positive with
  | nil => simp [pesBytes, psPesPayloadSize]
  | step frame nonempty ih =>
    rw [pesBytes] at ih ⊢
    rw [chunks_step positive nonempty, List.flatMap_cons, List.length_append, ih, pesPacketBytes,
      List.length_append, length_pesHeader]
    simp only [List.length_take, List.length_drop, pesHdrLen, psPesPayloadSize]
    omega

/-- The length of the headers in front of the PES packets. -/
def packHeadersLen (nalType : NalType) : Nat :=
  match nalType with
  | .sps => psHdrLen + sysHdrLen + psmHdrLen
  | .pframe => psHdrLen
  | _ => 0

theorem length_packHeaders (nalType : NalType) (s64Scr : Nat) :
    (packHeaders nalType s64Scr).length = packHeadersLen nalType := by
  have ps := length_psHeader s64Scr
  have sys : (headerBytes sysHeaderFields).length = sysHdrLen :=
    congrArg List.length sysHeaderBytes
  have psm : (headerBytes psmHeaderFields).length = psmHdrLen :=
    congrArg List.length psmHeaderBytes
  cases nalType <;> simp [packHeaders, packHeadersLen, ps, sys, psm, Nat.add_assoc]

/-- The length of a frame of `n` bytes behind the multiplexer: its headers, the frame and 19
bytes for each packet of it. -/
def muxLen (nalType : NalType) (n : Nat) : Nat :=
  if nalType.muxed then
    packHeadersLen nalType + (n + pesHdrLen * ((n + (psPesPayloadSize - 1)) / psPesPayloadSize))
  else 0

theorem length_muxBytes (nalType : NalType) (s64Scr : Nat) (frame : List UInt8) :
    (muxBytes nalType s64Scr frame).length = muxLen nalType frame.length := by
  unfold muxBytes muxLen
  split
  · rw [List.length_append, length_packHeaders, length_pesBytes]
  · rfl

/-- The multiplexer returns the length of what it writes, as far as an `int` counts it. -/
theorem h264PsMux_length (pH264RawData pOutPsData : Mem UInt8) (n : Nat) (nalType : NalType)
    (s64Scr : Nat) :
    (h264PsMux pH264RawData n nalType s64Scr pOutPsData).map Muxed.iRetPsLen =
      if muxLen nalType n ≤ intMax then some (muxLen nalType n) else none := by
  have fills := h264PsMux_fills nalType s64Scr pOutPsData (holds_window pH264RawData 0 n)
  have total := length_muxBytes nalType s64Scr (window pH264RawData 0 n)
  rw [length_window] at fills total
  rw [← total]
  cases result : h264PsMux pH264RawData n nalType s64Scr pOutPsData with
  | none =>
    rw [result] at fills
    rw [if_neg (Nat.not_le.mpr fills)]
    rfl
  | some muxed =>
    rw [result] at fills
    rw [if_pos fills.2, Option.map_some, fills.1.length]

end Gb28181.Psmux
