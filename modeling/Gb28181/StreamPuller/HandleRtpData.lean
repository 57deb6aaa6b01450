import Gb28181.StreamPuller.CutPsHeader

/-! `CGB28181StreamPuller::handleRtpData`: RTP payloads are collected until the
next pack header shows that a program stream frame is complete. -/

namespace Gb28181.StreamPuller

open Gb28181.Lib

def iRtpHdrLen : Nat := 12

/-- `iRecvBuffLen`, the size of the receive buffer of `doPullStream`. -/
def iRecvBuffLen : Nat := 4096

/-- `fnStreamCB` says whether a stream callback is set. -/
structure Puller where
  fnStreamCB : Bool
  psData : Mem UInt8
  psDataLen : Int
  lastRtpSeq : UInt16

/-- What an observer sees of one call: log line, calls and copies. -/
inductive PullerEvent where
  | rtpSeqError (last curr : UInt16)
  | fillFrameBuff (iLen : Int)
  | copied (start iLen : Int)
  | streamCB (raw : List UInt8)
  deriving DecidableEq, Repr

/-- The effect of a call. There is no state after a `memcpy` whose length is negative:
as a `size_t` it exceeds every buffer. -/
structure Step where
  after : Option Puller
  events : List PullerEvent

/-- The puller `initStreamPuller` leaves; `m_pPsData` is not initialised. -/
def initStreamPuller (fnStreamCB : Bool) (pPsData : Mem UInt8) : Puller :=
  ⟨fnStreamCB, pPsData, 0, 0⟩

def fillFrameBuff (puller : Puller) (pData : Mem UInt8) (iLen : Int) : Step :=
  if puller.psDataLen + iLen > rtpRecvBuffMaxLen then
    ⟨some { puller with psDataLen := 0 }, [.fillFrameBuff iLen]⟩
  else if iLen < 0 then
    ⟨none, [.fillFrameBuff iLen, .copied puller.psDataLen iLen]⟩
  else
    ⟨some { puller with
        psData := memcpy puller.psData puller.psDataLen.toNat pData iLen.toNat
        psDataLen := puller.psDataLen + iLen },
      [.fillFrameBuff iLen, .copied puller.psDataLen iLen]⟩

def ucPadding (pRtpData : Mem UInt8) : Bool := (pRtpData 0 &&& 0x20) >>> 5 == 1

/-- `iPayloadLen` once the padding is taken off. -/
def iPayloadLen (pRtpData : Mem UInt8) (iDataLen : Int) : Int :=
  if ucPadding pRtpData then
    iDataLen - iRtpHdrLen - (pRtpData (iDataLen - 1).toNat).toNat
  else iDataLen - iRtpHdrLen

def rtpSeq (pRtpData : Mem UInt8) : UInt16 :=
  (pRtpData 2).toUInt16 <<< 8 ||| (pRtpData 3).toUInt16

/-- A gap is only logged, and not when the number wraps or both are still zero. -/
def checkRtpSeq (last seq : UInt16) : List PullerEvent :=
  if last.toNat + 1 ≠ seq.toNat then
    if (last = 0xFFFF ∧ seq = 0) ∨ (last = 0 ∧ seq = 0) then []
    else [.rtpSeqError last seq]
  else []

/-- A pack header ends the frame collected so far. -/
def endFrame (puller : Puller) : Puller × List PullerEvent :=
  if puller.psDataLen > 0 then
    let cut := cutPsHeader puller.fnStreamCB puller.psData puller.psDataLen.toNat
    ({ puller with psDataLen := 0 }, cut.delivered.toList.map .streamCB)
  else (puller, [])

def handleRtpData (puller : Puller) (pRtpData : Mem UInt8) (iDataLen : Int) : Step :=
  let pPayload := advance pRtpData iRtpHdrLen
  if iDataLen - iRtpHdrLen ≤ 0 then ⟨some puller, []⟩
  else
    let seq := rtpSeq pRtpData
    let tracked := { puller with lastRtpSeq := seq }
    let logged := checkRtpSeq puller.lastRtpSeq seq
    if startCode pPayload 0 0xBA then
      let (ended, delivered) := endFrame tracked
      let filled := fillFrameBuff ended pPayload (iPayloadLen pRtpData iDataLen)
      ⟨filled.after, logged ++ delivered ++ filled.events⟩
    else
      let filled := fillFrameBuff tracked pPayload (iPayloadLen pRtpData iDataLen)
      ⟨filled.after, logged ++ filled.events⟩

/-- What one `recvfrom` can return. -/
structure Datagram where
  bytes : List UInt8
  fits : bytes.length ≤ iRecvBuffLen

/-- The loop of `doPullStream`: every datagram is received into the same buffer,
so what is left of longer ones stays behind it. -/
def pullStream : Puller → Mem UInt8 → List Datagram → List (Datagram × Step)
  | _, _, [] => []
  | puller, szRecvBuff, datagram :: datagrams =>
    let received := overlay datagram.bytes szRecvBuff
    let step := handleRtpData puller received datagram.bytes.length
    match step.after with
    | none => [(datagram, step)]
    | some next => (datagram, step) :: pullStream next received datagrams

def Puller.InRange (puller : Puller) : Prop :=
  0 ≤ puller.psDataLen ∧ puller.psDataLen ≤ rtpRecvBuffMaxLen

/-- The collected length stays in range, and every copy lies in the datagram and
in the collected frame. -/
structure Step.Safe (datagram : Datagram) (step : Step) : Prop where
  inRange : ∃ puller, step.after = some puller ∧ puller.InRange
  filled : ∀ iLen, .fillFrameBuff iLen ∈ step.events →
    0 ≤ iLen ∧ iLen ≤ (datagram.bytes.length : Int) - iRtpHdrLen
  copied : ∀ start iLen, .copied start iLen ∈ step.events →
    0 ≤ start ∧ 0 ≤ iLen ∧ start + iLen ≤ rtpRecvBuffMaxLen

/-- The padding count of a datagram does not exceed its payload. -/
def Datagram.PaddingFits (datagram : Datagram) : Prop :=
  ∀ first last, datagram.bytes.head? = some first → datagram.bytes.getLast? = some last →
    (first &&& 0x20) >>> 5 = 1 → iRtpHdrLen < datagram.bytes.length →
      last.toNat + iRtpHdrLen ≤ datagram.bytes.length

variable {puller : Puller} {pRtpData : Mem UInt8} {iDataLen : Int}

theorem checkRtpSeq_mem {event : PullerEvent} {last seq : UInt16}
    (found : event ∈ checkRtpSeq last seq) : event = .rtpSeqError last seq := by
  unfold checkRtpSeq at found
  split at found
  · split at found <;> simp_all
  · simp at found

theorem endFrame_mem {event : PullerEvent} (found : event ∈ (endFrame puller).2) :
    ∃ raw, event = .streamCB raw := by
  unfold endFrame at found
  split at found
  · obtain ⟨raw, _, rfl⟩ := List.mem_map.mp found
    exact ⟨raw, rfl⟩
  · simp at found

theorem inRange_of_empty (empty : puller.psDataLen = 0) : puller.InRange := by
  simp [Puller.InRange, empty, rtpRecvBuffMaxLen]

theorem endFrame_inRange (kept : puller.InRange) : (endFrame puller).1.InRange := by
  unfold endFrame
  split
  · exact inRange_of_empty rfl
  · exact kept

/-- Short datagrams are ignored; every other one ends in one call of `fillFrameBuff`,
with nothing but log lines and callbacks before it. -/
theorem handleRtpData_fills (pRtpData : Mem UInt8) (kept : puller.InRange) (payload : iRtpHdrLen < iDataLen) :
    ∃ (before : List PullerEvent) (collected : Puller),
      collected.InRange ∧
      (∀ event ∈ before, (∃ last seq, event = .rtpSeqError last seq) ∨
        ∃ raw, event = .streamCB raw) ∧
      handleRtpData puller pRtpData iDataLen =
        let filled := fillFrameBuff collected (advance pRtpData iRtpHdrLen)
          (iPayloadLen pRtpData iDataLen)
        ⟨filled.after, before ++ filled.events⟩ := by
  have long : ¬ iDataLen - iRtpHdrLen ≤ 0 := by omega
  have tracked : Puller.InRange { puller with lastRtpSeq := rtpSeq pRtpData } := kept
  unfold handleRtpData
  rw [if_neg long]
  split
  · refine ⟨_, _, endFrame_inRange tracked, fun event found => ?_, rfl⟩
    rcases List.mem_append.mp found with logged | delivered
    · exact .inl ⟨_, _, checkRtpSeq_mem logged⟩
    · exact .inr (endFrame_mem delivered)
  · exact ⟨_, _, tracked, fun event found => .inl ⟨_, _, checkRtpSeq_mem found⟩, rfl⟩

theorem handleRtpData_short (short : iDataLen ≤ iRtpHdrLen) :
    handleRtpData puller pRtpData iDataLen = ⟨some puller, []⟩ := by
  unfold handleRtpData
  rw [if_pos (by omega)]

theorem fillFrameBuff_inRange {pData : Mem UInt8} {iLen : Int} (kept : puller.InRange)
    (natural : 0 ≤ iLen) :
    ∃ next, (fillFrameBuff puller pData iLen).after = some next ∧ next.InRange := by
  obtain ⟨low, _⟩ := kept
  unfold fillFrameBuff
  split
  · exact ⟨_, rfl, inRange_of_empty rfl⟩
  · rename_i room
    rw [if_neg (by omega)]
    exact ⟨_, rfl, by simpa using by omega, by simpa using room⟩

theorem fillFrameBuff_events (puller : Puller) {pData : Mem UInt8} {iLen : Int} :
    (fillFrameBuff puller pData iLen).events = [.fillFrameBuff iLen] ∨
      puller.psDataLen + iLen ≤ rtpRecvBuffMaxLen ∧
      (fillFrameBuff puller pData iLen).events =
        [.fillFrameBuff iLen, .copied puller.psDataLen iLen] := by
  unfold fillFrameBuff
  split
  · exact .inl rfl
  · rename_i room
    refine .inr ⟨by omega, ?_⟩
    split <;> rfl

/-- One datagram is handled safely exactly when its padding fits. -/
theorem handleRtpData_safe_iff (pRtpData : Mem UInt8) (kept : puller.InRange) (datagram : Datagram) :
    (handleRtpData puller pRtpData datagram.bytes.length).Safe datagram ↔
      (iRtpHdrLen < datagram.bytes.length → 0 ≤ iPayloadLen pRtpData datagram.bytes.length) := by
  by_cases long : iRtpHdrLen < datagram.bytes.length
  · obtain ⟨before, collected, inRange, quiet, same⟩ :=
      handleRtpData_fills pRtpData kept (Int.ofNat_lt.mpr long)
    have atMost : iPayloadLen pRtpData datagram.bytes.length ≤
        (datagram.bytes.length : Int) - iRtpHdrLen := by
      unfold iPayloadLen
      split <;> omega
    rw [same]
    simp only [long, true_implies]
    constructor
    · intro safe
      refine (safe.filled _ (List.mem_append_right _ ?_)).1
      rcases fillFrameBuff_events collected with events | ⟨_, events⟩ <;>
        rw [events] <;> simp
    · intro natural
      refine ⟨fillFrameBuff_inRange inRange natural, fun iLen found => ?_,
        fun start iLen found => ?_⟩
      · rcases List.mem_append.mp found with early | late
        · rcases quiet _ early with ⟨_, _, other⟩ | ⟨_, other⟩ <;> cases other
        · rcases fillFrameBuff_events collected with events | ⟨_, events⟩ <;>
            rw [events] at late <;> simp at late <;> subst late <;> exact ⟨natural, atMost⟩
      · rcases List.mem_append.mp found with early | late
        · rcases quiet _ early with ⟨_, _, other⟩ | ⟨_, other⟩ <;> cases other
        · rcases fillFrameBuff_events collected with events | ⟨room, events⟩ <;>
            rw [events] at late <;> simp at late
          obtain ⟨rfl, rfl⟩ := late
          exact ⟨inRange.1, natural, room⟩
  · rw [handleRtpData_short (by omega)]
    refine ⟨fun _ reached => absurd reached long, fun _ => ⟨⟨puller, rfl, kept⟩, ?_, ?_⟩⟩ <;>
      simp

theorem iPayloadLen_natural_iff (datagram : Datagram) (szRecvBuff : Mem UInt8) :
    (iRtpHdrLen < datagram.bytes.length →
        0 ≤ iPayloadLen (overlay datagram.bytes szRecvBuff) datagram.bytes.length) ↔
      datagram.PaddingFits := by
  obtain ⟨bytes, fits⟩ := datagram
  cases bytes with
  | nil => simp [Datagram.PaddingFits]
  | cons first rest =>
    have lastIndex : ((((first :: rest).length : Nat) : Int) - 1).toNat = rest.length := by simp
    have lastByte : overlay (first :: rest) szRecvBuff rest.length =
        (first :: rest).getLast (List.cons_ne_nil _ _) := by
      simp [overlay, List.getLast_eq_getElem]
    have firstByte : overlay (first :: rest) szRecvBuff 0 = first := rfl
    simp only [Datagram.PaddingFits, iPayloadLen, ucPadding, lastIndex, lastByte, firstByte,
      List.head?_cons, Option.some.injEq, List.getLast?_eq_some_getLast (List.cons_ne_nil _ _),
      beq_iff_eq]
    constructor
    · rintro natural _ _ rfl rfl padded long
      have bound := natural long
      rw [if_pos padded] at bound
      omega
    · intro within long
      split
      · have bound := within _ _ rfl rfl (by assumption) long
        omega
      · omega

/-- A run over a stream of datagrams is safe exactly when all their paddings fit. -/
theorem pullStream_safe_iff (fnStreamCB : Bool) (pPsData szRecvBuff : Mem UInt8)
    (datagrams : List Datagram) :
    (∀ handled ∈ pullStream (initStreamPuller fnStreamCB pPsData) szRecvBuff datagrams,
        handled.2.Safe handled.1) ↔
      ∀ datagram ∈ datagrams, datagram.PaddingFits := by
  have start : (initStreamPuller fnStreamCB pPsData).InRange := inRange_of_empty rfl
  generalize initStreamPuller fnStreamCB pPsData = puller at start
  induction datagrams generalizing puller szRecvBuff with
  | nil => simp [pullStream]
  | cons datagram datagrams ih =>
    have first := (handleRtpData_safe_iff (overlay datagram.bytes szRecvBuff)
      start datagram).trans (iPayloadLen_natural_iff datagram szRecvBuff)
    rw [pullStream, List.forall_mem_cons, ← first]
    cases left : (handleRtpData puller (overlay datagram.bytes szRecvBuff)
        datagram.bytes.length).after with
    | none =>
      have faulty : ¬ (handleRtpData puller (overlay datagram.bytes szRecvBuff)
          datagram.bytes.length).Safe datagram := by
        rintro ⟨⟨_, reached, _⟩, _, _⟩
        simp [left] at reached
      simp [faulty]
    | some next =>
      simp only [List.forall_mem_cons]
      refine and_congr_right fun safe => ?_
      obtain ⟨puller', reached, inRange⟩ := safe.inRange
      rw [left] at reached
      cases reached
      exact ih _ _ inRange

/-- One payload byte, which claims 255 bytes of padding. -/
def overpadded : Datagram := ⟨0x20 :: List.replicate 11 0x00 ++ [0xFF], by decide⟩

theorem pullStream_overpadded :
    ¬ ∀ (fnStreamCB : Bool) (pPsData szRecvBuff : Mem UInt8) (datagrams : List Datagram),
      ∀ handled ∈ pullStream (initStreamPuller fnStreamCB pPsData) szRecvBuff datagrams,
        handled.2.Safe handled.1 := by
  intro safe
  have first := safe true (fun _ => 0) (fun _ => 0) [overpadded] _ (List.mem_cons_self ..)
  have filled := first.filled (-254) (by decide)
  exact absurd filled.1 (by decide)

end Gb28181.StreamPuller
