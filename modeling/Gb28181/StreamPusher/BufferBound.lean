import Gb28181.Psmux.Decode
import Gb28181.StreamPusher.RtpStream

/-! How much `inputFrameData` writes into the 512 KiB of `m_pPsBuff`. No layer compares
the length of a frame with that capacity. -/

namespace Gb28181.StreamPusher

open Gb28181.Lib Gb28181.Psmux

/-- A call with another content of `m_pPsBuff`. -/
def Call.withBuff (call : Call) (psBuff : Mem UInt8) : Call :=
  { call with pusher := { call.pusher with psBuff := psBuff } }

/-- The frame is refused and the buffer stays as it is. -/
def Call.Rejected (call : Call) : Prop :=
  ∃ pushed, call.pushed = some pushed ∧ pushed.value = -1 ∧
    pushed.after.psBuff = call.pusher.psBuff

/-- What a call writes fits the buffer, whatever the buffer holds. -/
structure Call.Bounded (call : Call) : Prop where
  written : (∃ muxed, call.muxed = some muxed ∧ muxed.iRetPsLen ≤ psBuffSize) ∨ call.Rejected
  inside : ∀ psBuff muxed, (call.withBuff psBuff).muxed = some muxed →
    ∀ offset, psBuffSize ≤ offset → muxed.pOutPsData offset = psBuff offset

/-- The longest frames that fit behind their headers and with eight PES headers. -/
def FrameFits (nalType : NalType) (iFrameLen : Nat) : Prop :=
  match nalType with
  | .sps => iFrameLen ≤ 524080
  | .pframe => iFrameLen ≤ 524122
  | .pps | .idr => iFrameLen ≤ 524136
  | _ => True

variable {call : Call}

/-- A call leaves in the buffer what `h264PsMux` wrote. -/
theorem Call.after_psBuff {pushed : Pushed} (ran : call.pushed = some pushed) :
    call.muxed.map Muxed.pOutPsData = some pushed.after.psBuff := by
  obtain ⟨muxed, wrote, _, _, after⟩ := Call.pushed_filled ran
  rw [wrote, after]
  rfl

/-- The written length is that of the frame with the headers of its type. -/
theorem Call.length_muxed (call : Call) : call.muxed.map Muxed.iRetPsLen =
    if muxLen call.input.type call.input.iFrameLen ≤ intMax then
      some (muxLen call.input.type call.input.iFrameLen)
    else none :=
  h264PsMux_length _ _ _ _ _

/-- A byte of a longer frame is written behind the capacity: it overwrites some other byte. -/
theorem Call.Bounded.length (bounded : call.Bounded) :
    muxLen call.input.type call.input.iFrameLen ≤ psBuffSize := by
  have length := call.length_muxed
  obtain ⟨muxed, wrote, room⟩ : ∃ muxed, call.muxed = some muxed ∧ muxed.iRetPsLen ≤ psBuffSize := by
    rcases bounded.written with written | ⟨pushed, ran, _⟩
    · exact written
    · obtain ⟨muxed, wrote, room, _⟩ := Call.pushed_filled ran
      exact ⟨muxed, wrote, room⟩
  rw [wrote, Option.map_some] at length
  split at length
  · rw [← Option.some.inj length]
    exact room
  · cases length

theorem Call.bounded_of_length (short : muxLen call.input.type call.input.iFrameLen ≤ psBuffSize) :
    call.Bounded := by
  have counted : muxLen call.input.type call.input.iFrameLen ≤ intMax :=
    Nat.le_trans short psBuffSize_le_intMax
  have size (psBuff : Mem UInt8) {muxed : Muxed} (wrote : (call.withBuff psBuff).muxed = some muxed) :
      muxed.iRetPsLen = muxLen call.input.type call.input.iFrameLen := by
    have length : (call.withBuff psBuff).muxed.map Muxed.iRetPsLen =
        if muxLen call.input.type call.input.iFrameLen ≤ intMax then _ else _ :=
      (call.withBuff psBuff).length_muxed
    rw [wrote, if_pos counted] at length
    exact Option.some.inj length
  constructor
  · left
    obtain ⟨muxed, wrote, length⟩ := Option.map_eq_some_iff.mp (call.length_muxed.trans (if_pos counted))
    exact ⟨muxed, wrote, length ▸ short⟩
  · intro psBuff muxed wrote offset beyond
    have same : (advanceTime (call.withBuff psBuff).pusher call.input.type).psBuff = psBuff := by
      unfold advanceTime
      split <;> rfl
    have behind : muxed.iRetPsLen ≤ offset := by
      rw [size psBuff wrote]
      omega
    exact (h264PsMux_behind wrote behind).trans (congrFun same offset)

/-- A call stays inside the buffer exactly when its frame is short enough for its type. -/
theorem bounded_iff (call : Call) :
    call.Bounded ↔ FrameFits call.input.type call.input.iFrameLen := by
  have fits : muxLen call.input.type call.input.iFrameLen ≤ psBuffSize ↔
      FrameFits call.input.type call.input.iFrameLen := by
    cases call.input.type <;>
      simp only [muxLen, NalType.muxed, if_true, Bool.false_eq_true, if_false, packHeadersLen,
        FrameFits, psHdrLen, sysHdrLen, psmHdrLen, pesHdrLen, psPesPayloadSize, psBuffSize,
        Nat.zero_le] <;>
      omega
  rw [← fits]
  exact ⟨Call.Bounded.length, Call.bounded_of_length⟩

/-- One byte more than fits, of a P frame. -/
def longFrame : Call := ⟨initStreamPusher (fun _ => 0) 1, ⟨fun _ => 0x41, 524123⟩⟩

theorem longFrame_not_bounded : ¬ ∀ call : Call, call.Bounded := by
  intro bounded
  exact absurd (bounded longFrame).length (by decide)

end Gb28181.StreamPusher
