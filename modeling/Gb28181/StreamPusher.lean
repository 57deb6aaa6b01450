import Gb28181.Psmux.H264PsMux

/-! `CGB28181StreamPusher::inputFrameData`: a frame is multiplexed and sent in RTP
packets of at most 1400 payload bytes. -/

namespace Gb28181.StreamPusher

open Gb28181.Lib Gb28181.Psmux

structure Pusher where
  psBuff : Mem UInt8
  ulSSRC : UInt64
  usSeq : UInt16
  ulTimeStamp : UInt64

/-- The pusher `initStreamPusher` leaves; `m_pPsBuff` is not initialised. -/
def initStreamPusher (pPsBuff : Mem UInt8) (ssrc : UInt64) : Pusher := ⟨pPsBuff, ssrc, 0, 0⟩

/-- The size `initStreamPusher` gives `m_pPsBuff`. -/
def psBuffSize : Nat := 1024 * 512

def rtpHdrLen : Nat := 12

def iMaxSendBufSize : Nat := 2048

def iFrameSizePerCap : Nat := 1400

/-- The four bytes of a 32-bit header field. -/
def fieldBytes (value : UInt64) : List UInt8 :=
  [((value &&& 0xFF000000) >>> 24).toUInt8, ((value &&& 0x00FF0000) >>> 16).toUInt8,
    ((value &&& 0x0000FF00) >>> 8).toUInt8, (value &&& 0x000000FF).toUInt8]

def rtpHeader (pusher : Pusher) (ulIndex ulTimeStamp : UInt64) (bEndHead : Bool) : List UInt8 :=
  [0x80, (if bEndHead then 0xE0 else 0x60 : UInt8), ((ulIndex &&& 0xFF00) >>> 8).toUInt8,
    (ulIndex &&& 0x00FF).toUInt8] ++ fieldBytes ulTimeStamp ++ fieldBytes pusher.ulSSRC

/-- The packet `sendOneBlock` hands to `sendto`, or none where it returns `-1`. -/
def sendOneBlock (pusher : Pusher) (pBlockData : Mem UInt8) (iBlockLen : Nat)
    (ulIndex ulTimeStamp : UInt64) (bEndHead : Bool) : Option (List UInt8) :=
  if iBlockLen > iMaxSendBufSize then none
  else some (rtpHeader pusher ulIndex ulTimeStamp bEndHead ++ window pBlockData 0 iBlockLen)

structure Pushed where
  after : Pusher
  packets : List (List UInt8)
  value : Int

/-- The loop of `inputFrameData`; every round sends at least one byte. -/
def sendLoop : Nat → Nat → Nat → Pusher → Pushed
  | 0, _, _, pusher => ⟨pusher, [], 0⟩
  | rounds + 1, iSentLen, iLeftLen, pusher =>
    if iLeftLen > 0 then
      let counted := { pusher with usSeq := pusher.usSeq + 1 }
      let iBlockLen := if iLeftLen > iFrameSizePerCap then iFrameSizePerCap else iLeftLen
      let sent := sendOneBlock counted (advance counted.psBuff iSentLen) iBlockLen
        counted.usSeq.toUInt64 counted.ulTimeStamp (iLeftLen ≤ iFrameSizePerCap)
      let rest := sendLoop rounds (iSentLen + iBlockLen) (iLeftLen - iBlockLen) counted
      ⟨rest.after, sent.toList ++ rest.packets,
        (match sent with | some packet => (packet.length : Int) | none => -1) + rest.value⟩
    else ⟨pusher, [], 0⟩

/-- A new picture comes 3600 ticks after the one before. -/
def advanceTime (pusher : Pusher) (type : NalType) : Pusher :=
  if type = .sps ∨ type = .pframe then { pusher with ulTimeStamp := pusher.ulTimeStamp + 3600 }
  else pusher

/-- `inputFrameData`, with every `sendto` taking the whole packet. Its own time stamp
argument is never read. There is no result where `h264PsMux` writes past the end of
`m_pPsBuff`. -/
def inputFrameData (pusher : Pusher) (pFrameData : Mem UInt8) (iFrameLen : Nat) : Option Pushed := do
  let type := getH264NALtype (pFrameData 4)
  let timed := advanceTime pusher type
  let muxed ← h264PsMux pFrameData iFrameLen type timed.ulTimeStamp.toNat timed.psBuff
  let filled := { timed with psBuff := muxed.pOutPsData }
  if muxed.iRetPsLen > psBuffSize then none
  else if muxed.iRetPsLen > 0 then some (sendLoop muxed.iRetPsLen 0 muxed.iRetPsLen filled)
  else some ⟨filled, [], -1⟩

/-- A packet is an RTP header of version 2 without padding, and a block. -/
def Carries (packet block : List UInt8) : Prop :=
  ∃ fields : List UInt8, fields.length = 11 ∧ packet = 0x80 :: fields ++ block

/-- The packets that carry these blocks. -/
def rtpPackets (pusher : Pusher) : List (List UInt8) → List (List UInt8)
  | [] => []
  | block :: blocks =>
    let counted := { pusher with usSeq := pusher.usSeq + 1 }
    (rtpHeader counted counted.usSeq.toUInt64 counted.ulTimeStamp blocks.isEmpty ++ block) ::
      rtpPackets counted blocks

variable {pusher : Pusher}

theorem sendOneBlock_sends (pusher : Pusher) {pBlockData : Mem UInt8} {block : List UInt8}
    (ulIndex ulTimeStamp : UInt64) (bEndHead : Bool) (held : Holds pBlockData 0 block)
    (small : block.length ≤ iFrameSizePerCap) :
    sendOneBlock pusher pBlockData block.length ulIndex ulTimeStamp bEndHead =
      some (rtpHeader pusher ulIndex ulTimeStamp bEndHead ++ block) := by
  have fits : ¬ block.length > iMaxSendBufSize := by
    simp only [iFrameSizePerCap] at small
    simp only [iMaxSendBufSize]
    omega
  rw [sendOneBlock, if_neg fits, held.window_eq]

/-- The loop sends the blocks of what is left and counts them. -/
theorem sendLoop_sends (rounds iSentLen : Nat) {left : List UInt8} (enough : left.length ≤ rounds)
    (held : Holds pusher.psBuff iSentLen left) :
    (sendLoop rounds iSentLen left.length pusher).packets =
        rtpPackets pusher (chunks iFrameSizePerCap left) ∧
      (sendLoop rounds iSentLen left.length pusher).after =
        { pusher with
          usSeq := pusher.usSeq + UInt16.ofNat (chunks iFrameSizePerCap left).length } := by
  induction rounds generalizing iSentLen pusher left with
  | zero =>
    have empty : left = [] := List.length_eq_zero_iff.mp (by omega)
    simp [sendLoop, empty, rtpPackets]
  | succ rounds ih =>
    rw [sendLoop]
    split
    · rename_i more
      have positive : 0 < iFrameSizePerCap := by decide
      have size : (if left.length > iFrameSizePerCap then iFrameSizePerCap else left.length) =
          (left.take iFrameSizePerCap).length := by
        simp only [List.length_take]
        split <;> omega
      have rest : left.length - (left.take iFrameSizePerCap).length =
          (left.drop iFrameSizePerCap).length := by
        simp only [List.length_take, List.length_drop]
        omega
      have parts := holds_append.mp ((List.take_append_drop iFrameSizePerCap left).symm ▸ held)
      have fewer : (left.drop iFrameSizePerCap).length ≤ rounds := by
        simp only [List.length_drop]
        omega
      have last : decide (left.length ≤ iFrameSizePerCap) =
          (chunks iFrameSizePerCap (left.drop iFrameSizePerCap)).isEmpty := by
        by_cases small : left.length ≤ iFrameSizePerCap
        · have done : left.drop iFrameSizePerCap = [] := List.drop_eq_nil_of_le small
          simp [small, done]
        · have further : 0 < (left.drop iFrameSizePerCap).length := by
            rw [List.length_drop]
            omega
          rw [chunks_step positive further]
          simp [small]
      have sent := sendOneBlock_sends { pusher with usSeq := pusher.usSeq + 1 }
        (pusher.usSeq + 1).toUInt64 pusher.ulTimeStamp (left.length ≤ iFrameSizePerCap)
        (holds_advance.mpr (by simpa using parts.1)) (by simp only [List.length_take]; omega)
      obtain ⟨packets, after⟩ := @ih { pusher with usSeq := pusher.usSeq + 1 }
        (iSentLen + (left.take iFrameSizePerCap).length) _ fewer parts.2
      simp only [size, rest]
      rw [sent, packets, after, chunks_step positive more, rtpPackets, last]
      refine ⟨rfl, ?_⟩
      simp only [List.length_cons, Pusher.mk.injEq, true_and, and_true]
      rw [Nat.add_comm, UInt16.ofNat_add, UInt16.add_assoc]
      rfl
    · have empty : left = [] := List.length_eq_zero_iff.mp (by omega)
      simp [empty, rtpPackets]

theorem rtpPackets_carry (blocks : List (List UInt8)) :
    List.Forall₂ Carries (rtpPackets pusher blocks) blocks := by
  induction blocks generalizing pusher with
  | nil => exact .nil
  | cons block blocks ih => exact .cons ⟨_, rfl, rfl⟩ ih

theorem psBuffSize_le_intMax : psBuffSize ≤ intMax := by decide

theorem exists_muxed {pFrameData pOutPsData : Mem UInt8} {frame : List UInt8} {type : NalType}
    (s64Scr : Nat) (held : Holds pFrameData 0 frame)
    (fits : muxLen type frame.length ≤ psBuffSize) :
    ∃ muxed, h264PsMux pFrameData frame.length type s64Scr pOutPsData = some muxed ∧
      Filled muxed (muxBytes type s64Scr frame) ∧ muxed.iRetPsLen ≤ psBuffSize := by
  have fills := h264PsMux_fills type s64Scr pOutPsData held
  have total := length_muxBytes type s64Scr frame
  have counted := psBuffSize_le_intMax
  cases ran : h264PsMux pFrameData frame.length type s64Scr pOutPsData with
  | none =>
    rw [ran, Fills] at fills
    omega
  | some muxed =>
    rw [ran] at fills
    have length := fills.1.length
    exact ⟨muxed, rfl, fills.1, by omega⟩

/-- A frame that fits the buffer is sent as the blocks of its multiplexed bytes. -/
theorem inputFrameData_carries (pusher : Pusher) {pFrameData : Mem UInt8} {frame : List UInt8}
    (held : Holds pFrameData 0 frame)
    (fits : muxLen (getH264NALtype (pFrameData 4)) frame.length ≤ psBuffSize) :
    ∃ pushed s64Scr, inputFrameData pusher pFrameData frame.length = some pushed ∧
      List.Forall₂ Carries pushed.packets
        (chunks iFrameSizePerCap (muxBytes (getH264NALtype (pFrameData 4)) s64Scr frame)) := by
  simp only [inputFrameData]
  generalize getH264NALtype (pFrameData 4) = type at fits ⊢
  generalize advanceTime pusher type = timed
  obtain ⟨muxed, ran, ⟨length, holds⟩, room⟩ :=
    @exists_muxed _ timed.psBuff _ _ timed.ulTimeStamp.toNat held fits
  rw [ran]
  simp only [Option.bind_eq_bind, Option.bind_some, if_neg (Nat.not_lt.mpr room), gt_iff_lt]
  by_cases some : 0 < muxed.iRetPsLen
  · refine ⟨_, timed.ulTimeStamp.toNat, if_pos some, ?_⟩
    have filled : Holds (Pusher.psBuff { timed with psBuff := muxed.pOutPsData }) 0
        (muxBytes type _ frame) := holds
    rw [length, (sendLoop_sends _ 0 (Nat.le_refl _) filled).1]
    exact rtpPackets_carry _
  · refine ⟨_, timed.ulTimeStamp.toNat, if_neg some, ?_⟩
    have empty : muxBytes type timed.ulTimeStamp.toNat frame = [] :=
      List.length_eq_zero_iff.mp (by omega)
    simp [empty]

end Gb28181.StreamPusher
