import Gb28181.PushPull.Delivery
import Gb28181.StreamPuller.Confinement
import Gb28181.StreamPuller.RtpPacket

/-! A pack that does not fit the frame buffer: `fillFrameBuff` throws away what is
collected and goes on with the next packet of the same pack. -/

namespace Gb28181.PushPull

open Gb28181.Lib Gb28181.StreamPuller

/-- A packet that one `recvfrom` takes whole. -/
structure SentPacket extends RtpPacket where
  arrives : toRtpPacket.bytes.length ≤ iRecvBuffLen

def SentPacket.datagram (packet : SentPacket) : Datagram := ⟨packet.bytes, packet.arrives⟩

structure RtpPack where
  first : SentPacket
  later : List SentPacket
  starts : first.startsPack = true
  continues : ∀ packet ∈ later, packet.startsPack = false

def RtpPack.packets (pack : RtpPack) : List SentPacket := pack.first :: pack.later

def RtpPack.bytes (pack : RtpPack) : List UInt8 :=
  pack.packets.flatMap fun packet => packet.payload

structure OversizedPack extends RtpPack where
  oversized : rtpRecvBuffMaxLen < (toRtpPack.bytes.length : Int)

/-- What is collected behind one more payload. -/
def collect (collected block : List UInt8) : List UInt8 :=
  if (collected.length + block.length : Int) > rtpRecvBuffMaxLen then [] else collected ++ block

/-- What is collected of a pack when the next one begins. -/
def RtpPack.remains (pack : RtpPack) : List UInt8 :=
  (pack.packets.map fun packet => packet.payload).foldl collect []

/-- The call of the stream callback that a pack header leads to. -/
def ended (puller : Puller) : List (List UInt8) := (endFrame puller).2.filterMap PullerEvent.raw?

def leaves : Puller → List (Datagram × Step) → Option Puller
  | puller, [] => some puller
  | _, handled :: later => handled.2.after.bind fun next => leaves next later

/-- The calls of the stream callback while the packets come in, and the one the next pack
header leads to. -/
def delivered (puller : Puller) (szRecvBuff : Mem UInt8) (packets : List SentPacket) :
    List (List UInt8) :=
  let run := pullStream puller szRecvBuff (packets.map SentPacket.datagram)
  run.flatMap (fun handled => callbacks handled.2) ++ (leaves puller run).toList.flatMap ended

/-- The receive buffer behind some packets. -/
def bufferBehind (szRecvBuff : Mem UInt8) (packets : List SentPacket) : Mem UInt8 :=
  packets.foldl (fun buffer packet => overlay packet.bytes buffer) szRecvBuff

/-- Every packet is plain in the receive buffer as those before it leave it. -/
def AllPlain : Mem UInt8 → List SentPacket → Prop
  | _, [] => True
  | szRecvBuff, packet :: packets =>
    packet.Plain (overlay packet.bytes szRecvBuff) ∧
      AllPlain (overlay packet.bytes szRecvBuff) packets

def frameBuffer (bytes : List UInt8) : Mem UInt8 := overlay bytes fun _ => 0x00

/-- What `cutPsHeader` delivers of collected bytes. -/
def cutFrame (fnStreamCB : Bool) (bytes : List UInt8) : List (List UInt8) :=
  (cutPsHeader fnStreamCB (frameBuffer bytes) bytes.length).delivered.toList

/-- The packets found in collected bytes lie there. -/
def FrameInside (bytes : List UInt8) : Prop := PacketsInFrame (frameBuffer bytes) bytes.length

/-- No packet the scan comes to in collected bytes has data that it copies. -/
def NoData (bytes : List UInt8) : Prop :=
  ∀ state, Comes (frameBuffer bytes) bytes.length cutStart state →
    state.i + 4 < bytes.length → pesCode (frameBuffer bytes) state.i = true →
      state.refused (frameBuffer bytes) bytes.length = true ∨
        iDataLen (frameBuffer bytes) state.i = 0

/-- With the pack `large` sent or not, the callbacks are the same. -/
def AllOrNothing (puller : Puller) (szRecvBuff : Mem UInt8) (before : List SentPacket)
    (large : RtpPack) (after : List RtpPack) : Prop :=
  delivered puller szRecvBuff (before ++ large.packets ++ after.flatMap RtpPack.packets) =
    delivered puller szRecvBuff (before ++ after.flatMap RtpPack.packets)

variable {puller : Puller} {szRecvBuff : Mem UInt8}

theorem fillFrameBuff_kept {pData : Mem UInt8} {iLen : Int} (kept : puller.InRange)
    (natural : 0 ≤ iLen) :
    ∃ next, (fillFrameBuff puller pData iLen).after = some next ∧ next.InRange ∧
      next.fnStreamCB = puller.fnStreamCB := by
  obtain ⟨next, reached, inRange⟩ := @fillFrameBuff_inRange _ pData _ kept natural
  refine ⟨next, reached, inRange, ?_⟩
  unfold fillFrameBuff at reached
  split at reached
  · cases reached
    rfl
  · rw [if_neg (by omega)] at reached
    cases reached
    rfl

theorem collecting_callback (pRtpData : Mem UInt8) :
    (collecting puller pRtpData).fnStreamCB = puller.fnStreamCB := by
  have same (puller : Puller) : (endFrame puller).1.fnStreamCB = puller.fnStreamCB := by
    unfold endFrame
    split <;> rfl
  unfold collecting
  split
  · exact same _
  · rfl

/-- Whatever the header of a packet, its length is handled without a fault. -/
theorem handled_kept (packet : RtpPacket) (szRecvBuff : Mem UInt8) (kept : puller.InRange) :
    ∃ next, (handleRtpData puller (overlay packet.bytes szRecvBuff) packet.bytes.length).after =
        some next ∧ next.InRange ∧ next.fnStreamCB = puller.fnStreamCB := by
  by_cases long : iRtpHdrLen < packet.bytes.length
  · have natural : 0 ≤ iPayloadLen (overlay packet.bytes szRecvBuff) packet.bytes.length := by
      rw [packet.iPayloadLen_eq szRecvBuff]
      omega
    rw [(handleRtpData_hands puller _ (Int.ofNat_lt.mpr long)).1, ← collecting_callback]
    exact fillFrameBuff_kept (collecting_inRange _ kept) natural
  · rw [handleRtpData_short (by omega)]
    exact ⟨puller, rfl, kept, rfl⟩

theorem callbacks_short {pRtpData : Mem UInt8} {iDataLen : Int} (short : iDataLen ≤ iRtpHdrLen) :
    callbacks (handleRtpData puller pRtpData iDataLen) = [] := by
  rw [handleRtpData_short short]
  rfl

theorem ended_tracked (seq : UInt16) : ended { puller with lastRtpSeq := seq } = ended puller := by
  unfold ended endFrame
  split <;> rfl

theorem callbacks_handled (puller : Puller) (pRtpData : Mem UInt8) {iDataLen : Int}
    (long : iRtpHdrLen < iDataLen) :
    callbacks (handleRtpData puller pRtpData iDataLen) =
      if packStart pRtpData then ended puller else [] := by
  have enough : ¬ iDataLen - iRtpHdrLen ≤ 0 := by omega
  have filled (collected : Puller) : (fillFrameBuff collected (advance pRtpData iRtpHdrLen)
      (iPayloadLen pRtpData iDataLen)).events.filterMap PullerEvent.raw? = [] := by
    rcases fillFrameBuff_events collected with events | ⟨_, events⟩ <;> rw [events] <;> rfl
  rw [← ended_tracked (rtpSeq pRtpData)]
  unfold callbacks handleRtpData packStart ended
  rw [if_neg enough]
  split <;> simp [callbacks_checkRtpSeq, filled]

theorem handled_plain {packet : RtpPacket} (plain : packet.Plain (overlay packet.bytes szRecvBuff))
    (kept : puller.InRange) :
    ∃ next, (handleRtpData puller (overlay packet.bytes szRecvBuff) packet.bytes.length).after =
        some next ∧ next.InRange ∧ next.fnStreamCB = puller.fnStreamCB ∧
      next.frame = collect (packet.kept puller) packet.payload ∧
      callbacks (handleRtpData puller (overlay packet.bytes szRecvBuff) packet.bytes.length) =
        if packet.startsPack then ended puller else [] := by
  by_cases long : iRtpHdrLen < packet.bytes.length
  · obtain ⟨next, reached, inRange, callback⟩ := handled_kept packet szRecvBuff kept
    obtain ⟨_, same, outcome⟩ := plain.filled kept long
    rw [reached] at same
    cases same
    refine ⟨next, reached, inRange, callback, ?_, ?_⟩
    · rw [collect]
      rcases outcome with ⟨room, filled⟩ | ⟨full, emptied⟩
      · rw [if_neg (by omega), filled]
      · rw [if_pos full, emptied]
    · rw [callbacks_handled _ _ (Int.ofNat_lt.mpr long), plain.tested long]
  · have size := packet.length_bytes
    have nothing : packet.payload = [] := List.length_eq_zero_iff.mp (by omega)
    have quiet : packet.startsPack = false := by simp [RtpPacket.startsPack, nothing]
    rw [callbacks_short (by omega), handleRtpData_short (by omega), quiet]
    refine ⟨puller, rfl, kept, rfl, ?_, rfl⟩
    have room : ¬ (puller.frame.length : Int) > rtpRecvBuffMaxLen := by
      obtain ⟨_, high⟩ := kept
      rw [puller.length_frame]
      omega
    simp [RtpPacket.kept, quiet, nothing, collect, room]

theorem delivered_nil : delivered puller szRecvBuff [] = ended puller := by
  simp [delivered, pullStream, leaves]

theorem delivered_cons {packet : SentPacket} {packets : List SentPacket} {next : Puller}
    (reached : (handleRtpData puller (overlay packet.bytes szRecvBuff) packet.bytes.length).after =
      some next) :
    delivered puller szRecvBuff (packet :: packets) =
      callbacks (handleRtpData puller (overlay packet.bytes szRecvBuff) packet.bytes.length) ++
        delivered next (overlay packet.bytes szRecvBuff) packets := by
  have run : pullStream puller szRecvBuff ((packet :: packets).map SentPacket.datagram) =
      (packet.datagram, handleRtpData puller (overlay packet.bytes szRecvBuff) packet.bytes.length) ::
        pullStream next (overlay packet.bytes szRecvBuff) (packets.map SentPacket.datagram) := by
    rw [List.map_cons, pullStream]
    simp only [SentPacket.datagram]
    rw [reached]
  rw [delivered, run]
  simp only [List.flatMap_cons, leaves, reached, Option.bind_some, List.append_assoc]
  rfl

/-- What comes first is delivered the same way whatever follows. -/
theorem delivered_append (front : List SentPacket) (kept : puller.InRange) :
    ∃ calls next, next.InRange ∧ next.fnStreamCB = puller.fnStreamCB ∧
      ∀ back, delivered puller szRecvBuff (front ++ back) =
        calls ++ delivered next (bufferBehind szRecvBuff front) back := by
  induction front generalizing puller szRecvBuff with
  | nil => exact ⟨[], puller, kept, rfl, fun _ => rfl⟩
  | cons packet front ih =>
    obtain ⟨middle, reached, inRange, callback⟩ := handled_kept packet.toRtpPacket szRecvBuff kept
    obtain ⟨calls, next, nextInRange, nextCallback, further⟩ :=
      @ih middle (overlay packet.bytes szRecvBuff) inRange
    refine ⟨callbacks (handleRtpData puller (overlay packet.bytes szRecvBuff)
      packet.bytes.length) ++ calls, next, nextInRange, nextCallback.trans callback, ?_⟩
    intro back
    rw [List.cons_append, delivered_cons reached, further, List.append_assoc]
    rfl

theorem delivered_later (later : List SentPacket) (kept : puller.InRange)
    (continues : ∀ packet ∈ later, packet.startsPack = false)
    (plain : AllPlain szRecvBuff later) :
    ∃ next, next.InRange ∧ next.fnStreamCB = puller.fnStreamCB ∧
      next.frame = (later.map fun packet => packet.payload).foldl collect puller.frame ∧
      ∀ back, delivered puller szRecvBuff (later ++ back) =
        delivered next (bufferBehind szRecvBuff later) back := by
  induction later generalizing puller szRecvBuff with
  | nil => exact ⟨puller, kept, rfl, rfl, fun _ => rfl⟩
  | cons packet later ih =>
    have quiet := continues packet (List.mem_cons_self ..)
    obtain ⟨middle, reached, inRange, callback, frame, calls⟩ := handled_plain plain.1 kept
    obtain ⟨next, nextInRange, nextCallback, nextFrame, further⟩ := ih inRange
      (fun packet found => continues packet (List.mem_cons_of_mem _ found)) plain.2
    rw [quiet, if_neg Bool.false_ne_true] at calls
    rw [RtpPacket.kept, quiet, if_neg Bool.false_ne_true] at frame
    refine ⟨next, nextInRange, nextCallback.trans callback, ?_, ?_⟩
    · rw [nextFrame, frame, List.map_cons, List.foldl_cons]
    · intro back
      rw [List.cons_append, delivered_cons reached, calls, further]
      rfl

/-- A pack lets the frame before it be delivered and leaves its own. -/
theorem delivered_pack (pack : RtpPack) (kept : puller.InRange)
    (plain : AllPlain szRecvBuff pack.packets) :
    ∃ next, next.InRange ∧ next.fnStreamCB = puller.fnStreamCB ∧ next.frame = pack.remains ∧
      ∀ back, delivered puller szRecvBuff (pack.packets ++ back) =
        ended puller ++ delivered next (bufferBehind szRecvBuff pack.packets) back := by
  obtain ⟨middle, reached, inRange, callback, frame, calls⟩ := handled_plain plain.1 kept
  rw [pack.starts, if_pos rfl] at calls
  rw [RtpPacket.kept, pack.starts, if_pos rfl] at frame
  obtain ⟨next, nextInRange, nextCallback, nextFrame, further⟩ :=
    delivered_later pack.later inRange pack.continues plain.2
  refine ⟨next, nextInRange, nextCallback.trans callback, ?_, ?_⟩
  · rw [nextFrame, frame]
    rfl
  · intro back
    rw [RtpPack.packets, List.cons_append, delivered_cons reached, calls, further]
    rfl

theorem allPlain_append {front back : List SentPacket} :
    AllPlain szRecvBuff (front ++ back) ↔
      AllPlain szRecvBuff front ∧ AllPlain (bufferBehind szRecvBuff front) back := by
  induction front generalizing szRecvBuff with
  | nil => simp [AllPlain, bufferBehind]
  | cons packet front ih =>
    rw [List.cons_append, AllPlain, AllPlain, ih, and_assoc]
    rfl

theorem startsPack_long {packet : RtpPacket} (starts : packet.startsPack = true) :
    4 ≤ packet.payload.length := by
  by_contra short
  have other := not_startsPack_of_short (Nat.lt_of_not_le short)
  simp [other] at starts

theorem plain_congr {packet : RtpPacket} {other : Mem UInt8}
    (same : ∀ offset < 16, overlay packet.bytes other offset = overlay packet.bytes szRecvBuff offset)
    (plain : packet.Plain (overlay packet.bytes szRecvBuff)) :
    packet.Plain (overlay packet.bytes other) := by
  refine ⟨plain.noCsrcs, plain.noExtension, ?_⟩
  intro long short
  rw [← plain.decided long short]
  simp only [packStart, startCode, advance, iRtpHdrLen, same _ (show 12 + 0 < 16 by decide),
    same _ (show 12 + (0 + 1) < 16 by decide), same _ (show 12 + (0 + 2) < 16 by decide),
    same _ (show 12 + (0 + 3) < 16 by decide)]

/-- Only the first sixteen bytes of the receive buffer matter. -/
theorem allPlain_congr {packets : List SentPacket} {other : Mem UInt8}
    (same : ∀ offset < 16, other offset = szRecvBuff offset) (plain : AllPlain szRecvBuff packets) :
    AllPlain other packets := by
  induction packets generalizing szRecvBuff other with
  | nil => trivial
  | cons packet packets ih =>
    have covered : ∀ offset < 16,
        overlay packet.bytes other offset = overlay packet.bytes szRecvBuff offset := by
      intro offset near
      rw [overlay, overlay, same offset near]
    exact ⟨plain_congr covered plain.1, ih covered plain.2⟩

theorem allPlain_packs {packs : List RtpPack} (other : Mem UInt8)
    (plain : AllPlain szRecvBuff (packs.flatMap RtpPack.packets)) :
    AllPlain other (packs.flatMap RtpPack.packets) := by
  cases packs with
  | nil => trivial
  | cons pack packs =>
    have long := startsPack_long pack.starts
    have size := pack.first.toRtpPacket.length_bytes
    have covered : ∀ offset < 16, overlay pack.first.bytes other offset =
        overlay pack.first.bytes szRecvBuff offset := by
      intro offset near
      have inside : offset < pack.first.bytes.length := by
        rw [iRtpHdrLen] at size
        omega
      simp [overlay, inside]
    exact ⟨plain_congr covered plain.1, allPlain_congr covered plain.2⟩

/-- A frame whose packets lie in it is delivered as its bytes say. -/
theorem ended_eq (kept : puller.InRange) (inside : FrameInside puller.frame) :
    ended puller = cutFrame puller.fnStreamCB puller.frame := by
  have size := puller.length_frame
  have same : ∀ place < puller.frame.length, puller.psData place = frameBuffer puller.frame place := by
    intro place within
    have held := (holds_window puller.psData 0 puller.psDataLen.toNat).get within
    rw [Nat.zero_add] at held
    rw [held, frameBuffer, overlay, List.getElem?_eq_getElem within]
    rfl
  rw [ended, endFrame, cutFrame, ← cutPsHeader_congr puller.fnStreamCB same inside, size]
  split
  · cases raw : (cutPsHeader puller.fnStreamCB puller.psData puller.psDataLen.toNat).delivered <;>
      simp [raw, PullerEvent.raw?]
  · have empty : puller.psDataLen = 0 := by
      obtain ⟨low, _⟩ := kept
      omega
    rw [empty, cutPsHeader]
    split <;> simp

theorem delivered_packs (packs : List RtpPack) (kept : puller.InRange)
    (plain : AllPlain szRecvBuff (packs.flatMap RtpPack.packets))
    (inside : ∀ pack ∈ packs, FrameInside pack.remains) :
    delivered puller szRecvBuff (packs.flatMap RtpPack.packets) =
      ended puller ++ packs.flatMap fun pack => cutFrame puller.fnStreamCB pack.remains := by
  induction packs generalizing puller szRecvBuff with
  | nil => simp [delivered_nil]
  | cons pack packs ih =>
    rw [List.flatMap_cons] at plain
    obtain ⟨here, further⟩ := allPlain_append.mp plain
    obtain ⟨next, inRange, callback, frame, run⟩ := delivered_pack pack kept here
    have first := inside pack (List.mem_cons_self ..)
    have rest := ih inRange further fun pack found => inside pack (List.mem_cons_of_mem _ found)
    rw [← frame] at first
    rw [List.flatMap_cons, run, rest, ended_eq inRange first, frame, callback, List.flatMap_cons]

theorem cutFrame_eq_nil_iff (fnStreamCB : Bool) (bytes : List UInt8) :
    cutFrame fnStreamCB bytes = [] ↔ (fnStreamCB = true → NoData bytes) := by
  cases fnStreamCB with
  | false => simp [cutFrame, cutPsHeader]
  | true =>
    have nothing : cutFrame true bytes = [] ↔
        rawFrom (frameBuffer bytes) bytes.length cutStart = [] := by
      have same : rawFrom (frameBuffer bytes) bytes.length cutStart =
        rawData (frameBuffer bytes) bytes.length := rfl
      rw [same, cutFrame]
      by_cases short : bytes.length ≤ 4
      · have empty : rawData (frameBuffer bytes) bytes.length = [] := by
          rw [rawData, cutReads_end (by omega)]
          rfl
        simp [cutPsHeader, short, empty]
      · cases raw : rawData (frameBuffer bytes) bytes.length <;> simp [cutPsHeader, short, raw]
    rw [nothing, rawFrom_eq_nil_iff]
    simp only [true_implies]
    apply forall_congr'
    intro state
    apply imp_congr_right
    intro _
    exact CutState.copies_nothing_iff

/-- The stream is delivered as without the pack exactly when no data can be copied from
what remains of it. -/
theorem all_or_nothing_iff (large : OversizedPack) (before : List SentPacket) (after : List RtpPack)
    (kept : puller.InRange)
    (plain : AllPlain (bufferBehind szRecvBuff before)
      (large.packets ++ after.flatMap RtpPack.packets))
    (inside : ∀ pack ∈ large.toRtpPack :: after, FrameInside pack.remains) :
    AllOrNothing puller szRecvBuff before large.toRtpPack after ↔
      (puller.fnStreamCB = true → NoData large.remains) := by
  obtain ⟨calls, next, inRange, callback, run⟩ :=
    @delivered_append puller szRecvBuff before kept
  have sent := delivered_packs (large.toRtpPack :: after) inRange plain inside
  have unsent := delivered_packs after inRange
    (allPlain_packs (bufferBehind szRecvBuff before) (allPlain_append.mp plain).2)
    fun pack found => inside pack (List.mem_cons_of_mem _ found)
  rw [List.flatMap_cons] at sent
  rw [← cutFrame_eq_nil_iff, ← callback, AllOrNothing, List.append_assoc, run, run, sent, unsent,
    List.flatMap_cons]
  constructor
  · intro same
    have lengths := congrArg List.length same
    simp only [List.length_append] at lengths
    exact List.length_eq_zero_iff.mp (by omega)
  · intro nothing
    rw [nothing, List.nil_append]

/-- Payloads that fit the frame buffer together are all collected. -/
theorem collect_fits (blocks : List (List UInt8)) (collected : List UInt8)
    (fits : (collected.length + blocks.flatten.length : Int) ≤ rtpRecvBuffMaxLen) :
    blocks.foldl collect collected = collected ++ blocks.flatten := by
  induction blocks generalizing collected with
  | nil => simp
  | cons block blocks ih =>
    rw [List.flatten_cons, List.length_append] at fits
    have room : ¬ (collected.length + block.length : Int) > rtpRecvBuffMaxLen := by omega
    rw [List.foldl_cons, collect, if_neg room, ih _ (by rw [List.length_append]; omega),
      List.flatten_cons, List.append_assoc]

theorem remains_fits (pack : RtpPack) (fits : (pack.bytes.length : Int) ≤ rtpRecvBuffMaxLen) :
    pack.remains = pack.bytes := by
  rw [RtpPack.bytes, List.flatMap_def] at fits ⊢
  rw [RtpPack.remains, collect_fits _ [] (by simpa using fits), List.nil_append]

theorem allPlain_of_long {packets : List SentPacket}
    (bare : ∀ packet ∈ packets, packet.csrcs = [] ∧ packet.extension = none ∧
      4 ≤ packet.payload.length) : AllPlain szRecvBuff packets := by
  induction packets generalizing szRecvBuff with
  | nil => trivial
  | cons packet packets ih =>
    obtain ⟨noCsrcs, noExtension, long⟩ := bare packet (List.mem_cons_self ..)
    refine ⟨⟨noCsrcs, noExtension, fun _ short => absurd long (by omega)⟩, ?_⟩
    exact ih fun packet found => bare packet (List.mem_cons_of_mem _ found)

/-- A packet with nothing but the fixed header and its payload. -/
def barePacket (payload : List UInt8) (fits : payload.length ≤ 4084) : SentPacket where
  toRtpPacket := videoPacket [] no_csrcs payload none no_padding
  arrives := by
    rw [RtpPacket.length_bytes]
    simpa [videoPacket, RtpPacket.furtherHeader, RtpPacket.paddingBytes, iRtpHdrLen,
      iRecvBuffLen, Nat.add_comm] using fits

def filler : SentPacket :=
  barePacket (List.replicate 4084 0xFF) (Nat.le_of_eq List.length_replicate)

theorem filler_continues : filler.startsPack = false := by
  decide

theorem length_fillers (count : Nat) :
    ((List.replicate count filler).flatMap fun packet => packet.payload).length = count * 4084 := by
  have size : filler.payload.length = 4084 := List.length_replicate
  induction count with
  | zero => rfl
  | succ count ih =>
    rw [List.replicate_succ, List.flatMap_cons, List.length_append, ih, size]
    omega

/-- A pack header, fillers up to the one that does not fit any more, and what follows it. -/
def fillingPack (tail : List SentPacket) (continues : ∀ packet ∈ tail, packet.startsPack = false) :
    RtpPack where
  first := barePacket [0x00, 0x00, 0x01, 0xBA] (by decide)
  later := List.replicate 256 filler ++ filler :: tail
  starts := by decide
  continues := by
    intro packet found
    rcases List.mem_append.mp found with filling | behind
    · rw [List.eq_of_mem_replicate filling]
      exact filler_continues
    · rcases List.mem_cons.mp behind with last | further
      · rw [last]
        exact filler_continues
      · exact continues packet further

variable {tail : List SentPacket} (continues : ∀ packet ∈ tail, packet.startsPack = false)

theorem fillingPack_oversized :
    rtpRecvBuffMaxLen < ((fillingPack tail continues).bytes.length : Int) := by
  have size : filler.payload.length = 4084 := List.length_replicate
  simp only [RtpPack.bytes, RtpPack.packets, fillingPack, List.flatMap_cons, List.flatMap_append,
    List.length_append, length_fillers, size]
  simp only [rtpRecvBuffMaxLen]
  omega

theorem fillingPack_remains :
    (fillingPack tail continues).remains =
      (tail.map fun packet => packet.payload).foldl collect [] := by
  have size : filler.payload.length = 4084 := List.length_replicate
  have first : collect [] (barePacket [0x00, 0x00, 0x01, 0xBA] (by decide)).payload =
      [0x00, 0x00, 0x01, 0xBA] := rfl
  have many : ((List.replicate 256 filler).map fun packet => packet.payload).flatten.length =
      256 * 4084 := by
    rw [← List.flatMap_def, length_fillers]
  rw [RtpPack.remains, RtpPack.packets, fillingPack]
  simp only [List.map_cons, List.map_append, List.foldl_cons, List.foldl_append]
  rw [first, collect_fits _ [0x00, 0x00, 0x01, 0xBA] (by rw [many]; decide), collect, if_pos]
  rw [List.length_append, many, size]
  decide

theorem fillingPack_plain (long : ∀ packet ∈ tail, packet.csrcs = [] ∧ packet.extension = none ∧
    4 ≤ packet.payload.length) : AllPlain szRecvBuff (fillingPack tail continues).packets := by
  have size : filler.payload.length = 4084 := List.length_replicate
  apply allPlain_of_long
  intro packet found
  rcases List.mem_cons.mp found with first | later
  · rw [first]
    exact ⟨rfl, rfl, Nat.le_refl 4⟩
  · rcases List.mem_append.mp later with filling | behind
    · rw [List.eq_of_mem_replicate filling]
      exact ⟨rfl, rfl, by omega⟩
    · rcases List.mem_cons.mp behind with last | further
      · rw [last]
        exact ⟨rfl, rfl, by omega⟩
      · exact long packet further

/-- The packet in which the room ends is the last one. -/
def endingPack : OversizedPack where
  toRtpPack := fillingPack [] (by simp)
  oversized := fillingPack_oversized _

theorem endingPack_all_or_nothing :
    AllOrNothing (initStreamPuller true fun _ => 0x00) (fun _ => 0x00) [] endingPack.toRtpPack [] := by
  have continues : ∀ packet ∈ ([] : List SentPacket), packet.startsPack = false := by simp
  have nothing : endingPack.remains = [] := fillingPack_remains continues
  apply (all_or_nothing_iff endingPack [] [] (inRange_of_empty rfl) ?_ ?_).mpr
  · rintro _ state _ inside
    rw [nothing] at inside
    cases inside
  · rw [List.flatMap_nil, List.append_nil]
    exact fillingPack_plain continues (by simp)
  · intro pack found
    rw [List.mem_singleton.mp found, nothing]
    intro state _ inside
    cases inside

/-- A video packet with one byte of data. -/
def lateSegment : SentPacket :=
  barePacket [0x00, 0x00, 0x01, 0xE0, 0x00, 0x04, 0x80, 0x00, 0x00, 0xAA] (by decide)

theorem lateSegment_inside : FrameInside lateSegment.payload := by
  intro state _ inside pes
  have only : ∀ i < 6, pesCode (frameBuffer lateSegment.payload) i = true → i = 0 := by
    decide +kernel
  have start : state.i = 0 := by
    apply only _ _ pes
    exact Nat.lt_sub_of_add_lt inside
  rw [start]
  exact ⟨by decide, fun _ _ => by decide +kernel⟩

/-- The end of an oversized pack is delivered as a frame of its own. -/
theorem late_segment_delivered :
    ¬ ∀ (puller : Puller) (szRecvBuff : Mem UInt8) (before : List SentPacket)
      (large : OversizedPack) (after : List RtpPack), puller.InRange →
      AllOrNothing puller szRecvBuff before large.toRtpPack after := by
  intro same
  have continues : ∀ packet ∈ [lateSegment], packet.startsPack = false := by decide
  have ignored := same (initStreamPuller true fun _ => 0x00) (fun _ => 0x00) []
    { toRtpPack := fillingPack [lateSegment] continues
      oversized := fillingPack_oversized continues } [] (inRange_of_empty rfl)
  have remains : (fillingPack [lateSegment] continues).remains = lateSegment.payload :=
    fillingPack_remains continues
  have sent := @delivered_packs (initStreamPuller true fun _ => 0x00) (fun _ => 0x00)
    [fillingPack [lateSegment] continues] (inRange_of_empty rfl)
    (by
      rw [List.flatMap_cons, List.flatMap_nil, List.append_nil]
      exact fillingPack_plain continues (by decide))
    (by
      intro pack found
      rw [List.mem_singleton.mp found, remains]
      exact lateSegment_inside)
  have data : cutFrame true lateSegment.payload = [[0xAA]] := by decide +kernel
  rw [AllOrNothing, List.nil_append, List.flatMap_nil, List.append_nil, List.append_nil,
    delivered_nil] at ignored
  rw [List.flatMap_cons, List.flatMap_nil, List.append_nil, List.flatMap_cons, List.flatMap_nil,
    List.append_nil, remains, ignored] at sent
  have callback : (initStreamPuller true fun _ => 0x00).fnStreamCB = true := rfl
  rw [callback, data] at sent
  have lengths := congrArg List.length sent
  simp at lengths

end Gb28181.PushPull
