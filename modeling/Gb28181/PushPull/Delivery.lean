import Gb28181.PushPull.Packs
import Gb28181.StreamPuller.HandleRtpData
import Gb28181.StreamPusher
import Mathlib.Data.List.Forall2

namespace Gb28181.PushPull

open Gb28181.Lib Gb28181.Psmux Gb28181.StreamPuller Gb28181.StreamPusher

/-- What `recvfrom` returns of a packet. -/
def receive (packet : List UInt8) : Datagram where
  bytes := packet.take iRecvBuffLen
  fits := by simp

def PullerEvent.raw? : PullerEvent → Option (List UInt8)
  | .streamCB raw => some raw
  | _ => none

/-- The calls of the stream callback in one step. -/
def callbacks (step : Step) : List (List UInt8) := step.events.filterMap PullerEvent.raw?

/-- The packets of each frame, when the frames go into `inputFrameData` one after another;
`behind` is what follows each of them in memory. -/
def pushFrames (behind : Mem UInt8) : Pusher → List NalFrame → Option (List (List (List UInt8)))
  | _, [] => some []
  | pusher, frame :: frames => do
    let pushed ← inputFrameData pusher (overlay frame.bytes behind) frame.bytes.length
    let later ← pushFrames behind pushed.after frames
    return pushed.packets :: later

def muxLength (frame : NalFrame) : Nat := muxLen frame.type frame.bytes.length

/-- The number of packets of at most 1400 bytes that takes. -/
def packetCount (frame : NalFrame) : Nat :=
  (muxLength frame + (iFrameSizePerCap - 1)) / iFrameSizePerCap

/-- The callbacks each packet must lead to: `pending` are the frames since the last pack
header, and the first packet of the next pack delivers them. -/
def deliveries : List UInt8 → List NalFrame → List (List (List UInt8))
  | _, [] => []
  | pending, frame :: rest =>
    if NalType.startsPack frame.type then
      (if pending = [] then [] else [pending]) :: List.replicate (packetCount frame - 1) [] ++
        deliveries frame.bytes rest
    else if frame.type.muxed then
      List.replicate (packetCount frame) [] ++ deliveries (pending ++ frame.bytes) rest
    else deliveries pending rest

/-- The packs that another pack follows, with `pending` what is open of the first. -/
def closedPacks : List UInt8 → List NalFrame → List (List UInt8)
  | _, [] => []
  | pending, frame :: rest =>
    if NalType.startsPack frame.type then
      (if pending = [] then [] else [pending]) ++ closedPacks frame.bytes rest
    else closedPacks (if frame.type.muxed then pending ++ frame.bytes else pending) rest

/-- Every pack fits the receive buffer, of which `collected` bytes are filled. -/
def PacksFit : Nat → List NalFrame → Prop
  | _, [] => True
  | collected, frame :: frames =>
    let total := if NalType.startsPack frame.type then muxLength frame
      else collected + muxLength frame
    (total : Int) ≤ rtpRecvBuffMaxLen ∧ PacksFit total frames

structure Pushable (frames : List NalFrame) : Prop where
  first : ∀ frame ∈ frames.head?, NalType.startsPack frame.type = true
  framesFit : ∀ frame ∈ frames, muxLength frame ≤ psBuffSize
  packsFit : PacksFit 0 frames

theorem length_muxed (s64Scr : Nat) (frame : NalFrame) :
    (muxBytes frame.type s64Scr frame.bytes).length = muxLength frame := length_muxBytes _ _ _

/-- A multiplexed frame is sent in at least one packet. -/
theorem packetCount_pos {frame : NalFrame} (muxed : frame.type.muxed = true) :
    0 < packetCount frame := by
  have long : 0 < frame.bytes.length := by simp [NalFrame.bytes]
  rw [packetCount, muxLength, muxLen, if_pos muxed, iFrameSizePerCap]
  omega

theorem packetCount_other {frame : NalFrame} (other : frame.type.muxed = false) :
    packetCount frame = 0 := by
  simp [packetCount, muxLength, muxLen, other, iFrameSizePerCap]

theorem length_of_carries {s64Scr : Nat} {frame : NalFrame} {packets : List (List UInt8)}
    (carries : List.Forall₂ Carries packets
      (chunks iFrameSizePerCap (muxBytes frame.type s64Scr frame.bytes))) :
    packets.length = packetCount frame := by
  rw [carries.length_eq, length_chunks (by decide), length_muxed, packetCount]

/-- Each closed pack is delivered once, and nothing else is. -/
theorem flatten_deliveries (pending : List UInt8) (frames : List NalFrame) :
    (deliveries pending frames).flatten = closedPacks pending frames := by
  have silent (count : Nat) : (List.replicate count ([] : List (List UInt8))).flatten = [] := by
    simp
  induction frames generalizing pending with
  | nil => rfl
  | cons frame frames ih =>
    rw [deliveries, closedPacks]
    split
    · rw [List.flatten_append, List.flatten_cons, silent, List.append_nil, ih]
    · split
      · rw [List.flatten_append, silent, List.nil_append, ih]
      · exact ih pending

/-- The puller has collected these bytes since the last pack header. -/
structure Collects (puller : Puller) (collected : List UInt8) : Prop where
  callback : puller.fnStreamCB = true
  length : puller.psDataLen = collected.length
  holds : Holds puller.psData 0 collected

variable {puller : Puller} {collected packet block : List UInt8} {szRecvBuff : Mem UInt8}

theorem fillFrameBuff_collects {pData : Mem UInt8} (collects : Collects puller collected)
    (held : Holds pData 0 block) (fits : (collected.length + block.length : Int) ≤ rtpRecvBuffMaxLen) :
    ∃ next, (fillFrameBuff puller pData block.length).after = some next ∧
      Collects next (collected ++ block) ∧
      callbacks (fillFrameBuff puller pData block.length) = [] := by
  obtain ⟨callback, length, holds⟩ := collects
  have room : ¬ puller.psDataLen + block.length > rtpRecvBuffMaxLen := by omega
  have natural : ¬ (block.length : Int) < 0 := by omega
  rw [fillFrameBuff, if_neg room, if_neg natural]
  refine ⟨_, rfl, ⟨callback, ?_, ?_⟩, rfl⟩
  · simp [length]
  · simpa [length] using holds.memcpy_append held

/-- The receive buffer with a packet in it. -/
def received (packet : List UInt8) (szRecvBuff : Mem UInt8) : Mem UInt8 :=
  overlay (receive packet).bytes szRecvBuff

/-- The call of `handleRtpData` for a packet. -/
def handled (puller : Puller) (szRecvBuff : Mem UInt8) (packet : List UInt8) : Step :=
  handleRtpData puller (received packet szRecvBuff) (receive packet).bytes.length

def payload (packet : List UInt8) (szRecvBuff : Mem UInt8) : Mem UInt8 :=
  advance (received packet szRecvBuff) iRtpHdrLen

theorem received_block (szRecvBuff : Mem UInt8) (carries : Carries packet block)
    (small : block.length ≤ iFrameSizePerCap) :
    (receive packet).bytes.length = iRtpHdrLen + block.length ∧
      Holds (payload packet szRecvBuff) 0 block ∧
      iPayloadLen (received packet szRecvBuff) (receive packet).bytes.length = block.length := by
  obtain ⟨fields, length, rfl⟩ := carries
  have whole : (receive (0x80 :: fields ++ block)).bytes = 0x80 :: fields ++ block := by
    apply List.take_of_length_le
    simp only [List.length_append, List.length_cons, length, iRecvBuffLen]
    rw [iFrameSizePerCap] at small
    omega
  have total : (receive (0x80 :: fields ++ block)).bytes.length = iRtpHdrLen + block.length := by
    rw [whole]
    simp only [List.length_append, List.length_cons, length, iRtpHdrLen]
  refine ⟨total, ?_, ?_⟩
  · have held := (holds_append.mp (holds_overlay (0x80 :: fields ++ block) szRecvBuff)).2
    rw [payload, received, whole]
    simpa [holds_advance, length, iRtpHdrLen] using held
  · have first : received (0x80 :: fields ++ block) szRecvBuff 0 = 0x80 := by
      rw [received, whole]
      rfl
    have unpadded : ucPadding (received (0x80 :: fields ++ block) szRecvBuff) = false := by
      rw [ucPadding, first]
      rfl
    rw [iPayloadLen, unpadded, total]
    simp

theorem callbacks_checkRtpSeq (last seq : UInt16) :
    (checkRtpSeq last seq).filterMap PullerEvent.raw? = [] := by
  apply List.filterMap_eq_nil_iff.mpr
  intro event member
  rw [checkRtpSeq_mem member]
  rfl

/-- A block without a pack header is appended to what is collected. -/
theorem handled_continues (szRecvBuff : Mem UInt8) (collects : Collects puller collected) (carries : Carries packet block)
    (filled : 0 < block.length) (small : block.length ≤ iFrameSizePerCap)
    (noPack : startCode (payload packet szRecvBuff) 0 0xBA = false)
    (fits : (collected.length + block.length : Int) ≤ rtpRecvBuffMaxLen) :
    ∃ next, (handled puller szRecvBuff packet).after = some next ∧
      Collects next (collected ++ block) ∧ callbacks (handled puller szRecvBuff packet) = [] := by
  obtain ⟨total, held, length⟩ := received_block szRecvBuff carries small
  have long : ¬ ((receive packet).bytes.length : Int) - iRtpHdrLen ≤ 0 := by omega
  have tracked : Collects { puller with lastRtpSeq := rtpSeq (received packet szRecvBuff) }
    collected := ⟨collects.callback, collects.length, collects.holds⟩
  obtain ⟨next, after, nextCollects, silent⟩ := fillFrameBuff_collects tracked held fits
  rw [payload] at noPack after silent
  rw [handled, handleRtpData, if_neg long, noPack, length]
  refine ⟨next, after, nextCollects, ?_⟩
  simpa [callbacks, callbacks_checkRtpSeq] using silent

theorem endFrame_collects (collects : Collects puller collected) :
    Collects (endFrame puller).1 [] ∧
      (endFrame puller).2.filterMap PullerEvent.raw? =
        if collected = [] then []
        else (cutPsHeader true puller.psData collected.length).delivered.toList := by
  obtain ⟨callback, length, holds⟩ := collects
  rw [endFrame]
  split
  · rename_i started
    have nonempty : collected ≠ [] := by
      rintro rfl
      simp [length] at started
    refine ⟨⟨callback, rfl, trivial⟩, ?_⟩
    simp only [if_neg nonempty, callback, length, Int.toNat_natCast]
    cases (cutPsHeader true puller.psData collected.length).delivered <;> simp [PullerEvent.raw?]
  · have empty : collected = [] := List.length_eq_zero_iff.mp (by omega)
    subst empty
    exact ⟨⟨callback, length, trivial⟩, by simp⟩

/-- A block with a pack header delivers what is collected and starts anew. -/
theorem handled_starts (collects : Collects puller collected) (carries : Carries packet block)
    (filled : 0 < block.length) (small : block.length ≤ iFrameSizePerCap)
    (newPack : startCode (payload packet szRecvBuff) 0 0xBA = true)
    (fits : (block.length : Int) ≤ rtpRecvBuffMaxLen) :
    ∃ next, (handled puller szRecvBuff packet).after = some next ∧ Collects next block ∧
      callbacks (handled puller szRecvBuff packet) =
        if collected = [] then []
        else (cutPsHeader true puller.psData collected.length).delivered.toList := by
  obtain ⟨total, held, length⟩ := received_block szRecvBuff carries small
  have long : ¬ ((receive packet).bytes.length : Int) - iRtpHdrLen ≤ 0 := by omega
  have tracked : Collects { puller with lastRtpSeq := rtpSeq (received packet szRecvBuff) }
    collected := ⟨collects.callback, collects.length, collects.holds⟩
  obtain ⟨ended, delivered⟩ := endFrame_collects tracked
  obtain ⟨next, after, nextCollects, silent⟩ := fillFrameBuff_collects ended held (by simpa using fits)
  rw [payload] at newPack after silent
  rw [handled, handleRtpData, if_neg long, newPack, length]
  refine ⟨next, after, nextCollects, ?_⟩
  simp only [callbacks] at silent
  simpa [callbacks, callbacks_checkRtpSeq, silent] using delivered

/-- In these bytes no pack header stands at `from` or behind it. -/
def NoPackFrom (bytes : List UInt8) (start : Nat) : Prop :=
  ∀ memory, Holds memory 0 bytes → ∀ place, start ≤ place → place < bytes.length →
    startCode memory place 0xBA = false

/-- A block of bytes that hold no pack header does not look like one, whatever stands
behind it in the receive buffer. -/
theorem noPack_of_block {done left : List UInt8} (carries : Carries packet (left.take iFrameSizePerCap))
    (nonempty : 0 < left.length) (noPack : NoPackFrom (done ++ left) done.length)
    (szRecvBuff : Mem UInt8) : startCode (payload packet szRecvBuff) 0 0xBA = false := by
  have small : (left.take iFrameSizePerCap).length ≤ iFrameSizePerCap := by simp
  obtain ⟨_, held, _⟩ := received_block szRecvBuff carries small
  -- the sent bytes, continued as the receive buffer goes on
  let memory := overlay (done ++ left) fun offset => payload packet szRecvBuff (offset - done.length)
  have same (offset : Nat) (near : offset < 4) :
      memory (done.length + offset) = payload packet szRecvBuff offset := by
    by_cases inside : offset < left.length
    · have few : offset < (left.take iFrameSizePerCap).length := by
        simp only [List.length_take, iFrameSizePerCap]
        omega
      have block := held.get? few
      rw [Nat.zero_add, List.getElem?_take_of_lt (by rw [iFrameSizePerCap]; omega)] at block
      simp [memory, overlay, List.getElem?_append_right, block]
    · have beyond : (done ++ left).length ≤ done.length + offset := by
        rw [List.length_append]
        omega
      simp only [memory, overlay_beyond beyond, Nat.add_sub_cancel_left]
  have clear := noPack memory (holds_overlay _ _) done.length (Nat.le_refl _) (by simpa using nonempty)
  have here := same 0 (by omega)
  rw [Nat.add_zero] at here
  simpa [startCode, here, same 1, same 2, same 3] using clear

/-- What is seen of a run is the callbacks of every packet. -/
def seen (puller : Puller) (szRecvBuff : Mem UInt8) (packets : List (List UInt8)) :
    List (List (List UInt8)) :=
  (pullStream puller szRecvBuff (packets.map receive)).map fun step => callbacks step.2

theorem seen_cons {next : Puller} {packets : List (List UInt8)}
    (after : (handled puller szRecvBuff packet).after = some next) :
    seen puller szRecvBuff (packet :: packets) =
      callbacks (handled puller szRecvBuff packet) ::
        seen next (received packet szRecvBuff) packets := by
  rw [handled, received] at after
  simp only [seen, List.map_cons, pullStream, after, handled, received]

/-- Blocks without a pack header are collected silently. -/
theorem seen_blocks (szRecvBuff : Mem UInt8) {done left : List UInt8}
    {packets : List (List UInt8)} (carries : List.Forall₂ Carries packets (chunks iFrameSizePerCap left))
    (collects : Collects puller collected) (noPack : NoPackFrom (done ++ left) done.length)
    (fits : (collected.length + left.length : Int) ≤ rtpRecvBuffMaxLen) :
    ∃ next buffer, Collects next (collected ++ left) ∧
      ∀ later, seen puller szRecvBuff (packets ++ later) =
        List.replicate packets.length [] ++ seen next buffer later := by
  have positive : 0 < iFrameSizePerCap := by decide
  induction left using chunks_induction positive generalizing puller collected szRecvBuff done packets with
  | nil =>
    rw [chunks_nil] at carries
    cases carries
    exact ⟨puller, szRecvBuff, by simpa using collects, fun _ => rfl⟩
  | step left nonempty ih =>
    rw [chunks_step positive nonempty] at carries
    cases carries with
    | @cons packet _ packets _ first rest =>
      have split := List.take_append_drop iFrameSizePerCap left
      have length := congrArg List.length split
      rw [List.length_append] at length
      have small : (left.take iFrameSizePerCap).length ≤ iFrameSizePerCap := by simp
      have filled : 0 < (left.take iFrameSizePerCap).length := by
        simp only [List.length_take]
        omega
      obtain ⟨next, after, nextCollects, silent⟩ := handled_continues szRecvBuff
        collects first filled small (noPack_of_block first nonempty noPack szRecvBuff) (by omega)
      have noPackRest : NoPackFrom ((done ++ left.take iFrameSizePerCap) ++ left.drop iFrameSizePerCap)
          (done ++ left.take iFrameSizePerCap).length := by
        rw [List.append_assoc, split]
        intro memory held place low high
        refine noPack memory held place ?_ high
        rw [List.length_append] at low
        omega
      obtain ⟨last, buffer, lastCollects, run⟩ := ih _ rest nextCollects noPackRest (by
        rw [List.length_append]
        omega)
      refine ⟨last, buffer, by rwa [List.append_assoc, split] at lastCollects, fun later => ?_⟩
      rw [List.cons_append, seen_cons after, silent, run]
      rfl

theorem pesPieces_open {s64Scr : Nat} {frame : List UInt8} {streamId : UInt8}
    (other : 0xE0 ≠ streamId) : ∀ piece ∈ pesPieces s64Scr frame, OpensOther streamId piece := by
  intro piece member
  obtain ⟨segment, _, rfl⟩ := List.mem_map.mp member
  rw [pesPacketBytes, pesHeaderBytes]
  exact ⟨0xE0, _, rfl, other⟩

/-- A pack header stands at the start of a frame that begins a pack, and nowhere else. -/
theorem noPack_behind (s64Scr start : Nat) {frame : NalFrame} (muxed : frame.type.muxed = true)
    (behind : NalType.startsPack frame.type = true → 0 < start) :
    NoPackFrom (muxBytes frame.type s64Scr frame.bytes) start := by
  intro memory held place low high
  rw [muxBytes, if_pos muxed] at held high
  obtain ⟨headers, packets⟩ := holds_append.mp held
  have packetsQuiet := pesPieces_quiet muxed packets
  have headersQuiet := headerPieces_quiet headers
  rw [← flatten_headerPieces] at held headers high packetsQuiet
  rw [← flatten_pesPieces, ← List.flatten_append] at held high
  have quiet := quiet_append.mpr ⟨headersQuiet, packetsQuiet⟩
  have pes : ∀ piece ∈ pesPieces s64Scr frame.bytes, OpensOther 0xBA piece :=
    pesPieces_open (by decide)
  cases type : frame.type with
  | sps | pframe =>
    have positive := behind (by rw [type]; rfl)
    rw [type] at held high quiet
    by_cases inside : place < 0 + (headerBytes (psHeaderFields s64Scr)).length
    · have silent := quiet.1 place (by omega) inside
      simp only [special, psHeaderCode, Bool.or_eq_false_iff] at silent
      exact silent.1.1.1
    · rw [headerPieces, List.cons_append, List.flatten_cons] at held high
      rw [List.length_append] at high
      refine quiet_no_code (by decide) quiet.2 (holds_append.mp held).2 ?_ place (by omega) ?_
      · simpa [sysHeader_opens, psmHeader_opens] using pes
      · rw [Nat.zero_add]
        exact high
  | pps | idr | sei | vps | seiPrefix | seiSuffix | other =>
    rw [type] at held high quiet
    exact quiet_no_code (by decide) quiet held (by simpa [headerPieces] using pes) place
      (Nat.zero_le _) (by omega)

/-- A frame that begins a pack delivers what is collected with its first packet. -/
theorem seen_starts (szRecvBuff : Mem UInt8) {s64Scr : Nat} {frame : NalFrame}
    {packets : List (List UInt8)}
    (starts : NalType.startsPack frame.type = true)
    (carries : List.Forall₂ Carries packets
      (chunks iFrameSizePerCap (muxBytes frame.type s64Scr frame.bytes)))
    (collects : Collects puller collected)
    (fits : (muxLength frame : Int) ≤ rtpRecvBuffMaxLen) :
    ∃ next buffer, Collects next (muxBytes frame.type s64Scr frame.bytes) ∧
      ∀ later, seen puller szRecvBuff (packets ++ later) =
        (if collected = [] then []
          else (cutPsHeader true puller.psData collected.length).delivered.toList) ::
          List.replicate (packets.length - 1) [] ++ seen next buffer later := by
  have muxed := muxed_of_startsPack starts
  have noPack := noPack_behind s64Scr 1 muxed fun _ => Nat.one_pos
  have length := length_muxed s64Scr frame
  have opening : ∃ rest, muxBytes frame.type s64Scr frame.bytes = [0x00, 0x00, 0x01, 0xBA] ++ rest := by
    obtain ⟨_, _, _, _, _, _, _, _, _, _, bytes⟩ := psHeaderBytes s64Scr
    rw [muxBytes, if_pos muxed]
    cases type : frame.type <;> rw [type] at starts <;> cases starts <;>
      rw [packHeaders, bytes] <;> exact ⟨_, rfl⟩
  generalize muxBytes frame.type s64Scr frame.bytes = bytes at *
  obtain ⟨rest, rfl⟩ := opening
  have positive : 0 < iFrameSizePerCap := by decide
  rw [chunks_step positive (by simp)] at carries
  cases carries with
  | @cons packet _ others _ first further =>
    have split := List.take_append_drop iFrameSizePerCap ([0x00, 0x00, 0x01, 0xBA] ++ rest)
    have total := congrArg List.length split
    rw [List.length_append] at total
    have small : (([0x00, 0x00, 0x01, 0xBA] ++ rest).take iFrameSizePerCap).length ≤
        iFrameSizePerCap := by simp
    have newPack : startCode (payload packet szRecvBuff) 0 0xBA = true := by
      have held := (received_block szRecvBuff first small).2.1
      rw [startCode_iff]
      exact ⟨held.1, held.2.1, held.2.2.1, held.2.2.2.1, trivial⟩
    obtain ⟨next, after, nextCollects, delivered⟩ := handled_starts collects first
      (by simp [iFrameSizePerCap]) small newPack (by omega)
    have noPackRest : NoPackFrom
        (([0x00, 0x00, 0x01, 0xBA] ++ rest).take iFrameSizePerCap ++
          ([0x00, 0x00, 0x01, 0xBA] ++ rest).drop iFrameSizePerCap)
        (([0x00, 0x00, 0x01, 0xBA] ++ rest).take iFrameSizePerCap).length := by
      rw [split]
      intro memory held place low high
      refine noPack memory held place (Nat.le_trans ?_ low) high
      simp [iFrameSizePerCap]
    obtain ⟨last, buffer, lastCollects, run⟩ := seen_blocks (received packet szRecvBuff)
      further nextCollects noPackRest (by omega)
    rw [split] at lastCollects
    refine ⟨last, buffer, lastCollects, fun later => ?_⟩
    rw [List.cons_append, seen_cons after, delivered, run]
    rfl

def Pack.start (frame : NalFrame) (s64Scr : Nat) (starts : NalType.startsPack frame.type = true) :
    Pack := ⟨frame, s64Scr, [], starts, by simp⟩

theorem Pack.bytes_start {frame : NalFrame} (s64Scr : Nat)
    (starts : NalType.startsPack frame.type = true) :
    (Pack.start frame s64Scr starts).bytes = muxBytes frame.type s64Scr frame.bytes := by
  simp [start, bytes, headers, entries, muxBytes, muxed_of_startsPack starts]

theorem Pack.stream_start {frame : NalFrame} (s64Scr : Nat)
    (starts : NalType.startsPack frame.type = true) :
    (Pack.start frame s64Scr starts).stream = frame.bytes := by
  simp [start, stream, entries]

/-- The pack that another frame goes on. -/
def Pack.append (pack : Pack) (frame : NalFrame) (s64Scr : Nat)
    (continues : frame.type = .pps ∨ frame.type = .idr) : Pack where
  first := pack.first
  firstScr := pack.firstScr
  rest := pack.rest ++ [(frame, s64Scr)]
  starts := pack.starts
  continues := by
    intro entry member
    rcases List.mem_append.mp member with old | new
    · exact pack.continues entry old
    · obtain rfl := List.mem_singleton.mp new
      exact continues

theorem Pack.bytes_append (pack : Pack) {frame : NalFrame} (s64Scr : Nat)
    (continues : frame.type = .pps ∨ frame.type = .idr) :
    (pack.append frame s64Scr continues).bytes =
      pack.bytes ++ muxBytes frame.type s64Scr frame.bytes := by
  have packets : muxBytes frame.type s64Scr frame.bytes = pesBytes s64Scr frame.bytes := by
    rcases continues with type | type <;> rw [type] <;> rfl
  simp [append, bytes, headers, entries, packets]

theorem Pack.stream_append (pack : Pack) {frame : NalFrame} (s64Scr : Nat)
    (continues : frame.type = .pps ∨ frame.type = .idr) :
    (pack.append frame s64Scr continues).stream = pack.stream ++ frame.bytes := by
  simp [append, stream, entries]

/-- What the puller has collected: nothing, or a pack that is still open. -/
inductive Pending : List UInt8 → List UInt8 → Prop where
  | nothing : Pending [] []
  | pack (pack : Pack) (fits : (pack.bytes.length : Int) ≤ rtpRecvBuffMaxLen) :
    Pending pack.bytes pack.stream

theorem Pack.bytes_ne_nil (pack : Pack) : pack.bytes ≠ [] := by
  have length := packHeaders_long pack.firstScr pack.starts
  intro empty
  have none := List.append_eq_nil_iff.mp empty
  rw [Pack.headers, ← List.length_eq_zero_iff] at none
  omega

theorem Pending.delivered {stream : List UInt8} (pending : Pending collected stream)
    (collects : Collects puller collected) :
    (if collected = [] then []
      else (cutPsHeader true puller.psData collected.length).delivered.toList) =
      if stream = [] then [] else [stream] := by
  cases pending with
  | nothing => rfl
  | pack pack fits =>
    rw [if_neg pack.bytes_ne_nil, if_neg pack.stream_ne_nil, pack.delivered collects.holds fits]
    rfl

theorem continues_of_muxed {nalType : NalType} (muxed : nalType.muxed = true)
    (later : NalType.startsPack nalType = false) : nalType = .pps ∨ nalType = .idr := by
  cases nalType <;> simp [NalType.muxed, NalType.startsPack] at *

theorem pushFrames_cons {behind : Mem UInt8} {pusher : Pusher} {frame : NalFrame}
    {frames : List NalFrame} {pushed : Pushed} {later : List (List (List UInt8))}
    (ran : inputFrameData pusher (overlay frame.bytes behind) frame.bytes.length = some pushed)
    (run : pushFrames behind pushed.after frames = some later) :
    pushFrames behind pusher (frame :: frames) = some (pushed.packets :: later) := by
  simp [pushFrames, ran, run]

/-- The frames are sent in so many packets and delivered in this way. -/
def Relays (behind : Mem UInt8) (pusher : Pusher) (puller : Puller) (szRecvBuff : Mem UInt8)
    (stream : List UInt8) (frames : List NalFrame) : Prop :=
  ∃ packets, pushFrames behind pusher frames = some packets ∧
    packets.map List.length = frames.map packetCount ∧
    seen puller szRecvBuff packets.flatten = deliveries stream frames

/-- From any state of the puller, the frames that follow are delivered pack by pack. -/
theorem relays_frames (behind szRecvBuff : Mem UInt8) (frames : List NalFrame) (pusher : Pusher)
    {stream : List UInt8} (pending : Pending collected stream)
    (collects : Collects puller collected)
    (first : collected = [] → ∀ frame ∈ frames.head?, NalType.startsPack frame.type = true)
    (framesFit : ∀ frame ∈ frames, muxLength frame ≤ psBuffSize)
    (fits : PacksFit collected.length frames) :
    Relays behind pusher puller szRecvBuff stream frames := by
  induction frames generalizing pusher puller collected stream szRecvBuff with
  | nil => exact ⟨[], rfl, rfl, rfl⟩
  | cons frame frames ih =>
    obtain ⟨type, others, nal⟩ := List.exists_cons_of_ne_nil frame.nal_ne_nil
    obtain ⟨frameFits, framesFit⟩ := List.forall_mem_cons.mp framesFit
    have typed : getH264NALtype (overlay frame.bytes behind 4) = frame.type := by
      simp [overlay, NalFrame.bytes, NalFrame.type, nal]
    obtain ⟨pushed, s64Scr, ran, carries⟩ := inputFrameData_carries pusher
      (holds_overlay frame.bytes behind) (by rwa [typed])
    rw [typed] at carries
    have length := length_muxed s64Scr frame
    have count := length_of_carries carries
    rw [PacksFit] at fits
    have relays (front : List (List (List UInt8))) {next : Puller} {buffer : Mem UInt8}
        {nextStream : List UInt8}
        (rest : Relays behind pushed.after next buffer nextStream frames)
        (run : ∀ later, seen puller szRecvBuff (pushed.packets ++ later) =
          front ++ seen next buffer later)
        (delivers : deliveries stream (frame :: frames) = front ++ deliveries nextStream frames) :
        Relays behind pusher puller szRecvBuff stream (frame :: frames) := by
      obtain ⟨later, sent, counts, rest⟩ := rest
      refine ⟨_, pushFrames_cons ran sent, ?_, ?_⟩
      · rw [List.map_cons, List.map_cons, count, counts]
      · rw [List.flatten_cons, run, rest, delivers]
    cases starts : NalType.startsPack frame.type with
    | true =>
      simp only [starts, if_true] at fits
      obtain ⟨next, buffer, nextCollects, run⟩ :=
        seen_starts szRecvBuff starts carries collects fits.1
      have opened := Pack.bytes_start s64Scr starts
      have nowPending := Pending.pack (Pack.start frame s64Scr starts) (by
        rw [opened, length]
        exact fits.1)
      have nonempty := (Pack.start frame s64Scr starts).bytes_ne_nil
      rw [opened, Pack.stream_start] at nowPending
      rw [opened] at nonempty
      refine relays _ (ih _ _ nowPending nextCollects (fun empty => absurd empty nonempty) framesFit
        (length ▸ fits.2)) run ?_
      rw [deliveries, if_pos starts, pending.delivered collects, count]
    | false =>
      simp only [starts, Bool.false_eq_true, if_false] at fits
      cases muxed : frame.type.muxed with
      | true =>
        have continues := continues_of_muxed muxed starts
        cases pending with
        | nothing =>
          have begins := first rfl frame rfl
          rw [starts] at begins
          cases begins
        | pack pack packFits =>
          have total : pack.bytes.length + muxLength frame =
              (pack.append frame s64Scr continues).bytes.length := by
            rw [pack.bytes_append, List.length_append, length]
          have noPack : NoPackFrom ([] ++ muxBytes frame.type s64Scr frame.bytes) 0 :=
            noPack_behind s64Scr 0 muxed fun begins => by rw [starts] at begins; cases begins
          obtain ⟨next, buffer, nextCollects, run⟩ := seen_blocks szRecvBuff carries collects
            noPack (by
              rw [length]
              exact_mod_cast fits.1)
          have nowPending := Pending.pack (pack.append frame s64Scr continues) (by
            rw [← total]
            exact fits.1)
          rw [← pack.bytes_append s64Scr continues] at nextCollects
          rw [total] at fits
          refine relays _ (ih _ _ nowPending nextCollects
            (fun empty => absurd empty (Pack.bytes_ne_nil _)) framesFit fits.2) run ?_
          rw [deliveries, starts, if_neg Bool.false_ne_true, if_pos muxed, pack.stream_append, count]
      | false =>
        have none : pushed.packets = [] := by
          rw [← List.length_eq_zero_iff, count, packetCount_other muxed]
        have zero : muxLength frame = 0 := by simp [muxLength, muxLen, muxed]
        rw [zero, Nat.add_zero] at fits
        refine relays [] (ih szRecvBuff pushed.after pending collects
          (fun empty later found => ?_) framesFit fits.2) (fun later => by rw [none]; rfl) ?_
        · have begins := first empty frame rfl
          rw [starts] at begins
          cases begins
        · rw [deliveries, starts, muxed]
          rfl

/-- Every frame is sent, in as many packets as its multiplexed bytes take; every pack is
delivered whole by the first packet of the next one, and no other packet leads to a callback. -/
theorem push_pull (ssrc : UInt64) (pPsBuff behind pPsData szRecvBuff : Mem UInt8)
    (frames : List NalFrame) (pushable : Pushable frames) :
    ∃ packets, pushFrames behind (initStreamPusher pPsBuff ssrc) frames = some packets ∧
      packets.map List.length = frames.map packetCount ∧
      seen (initStreamPuller true pPsData) szRecvBuff packets.flatten = deliveries [] frames ∧
      (deliveries [] frames).flatten = closedPacks [] frames := by
  have empty : Collects (initStreamPuller true pPsData) [] := ⟨rfl, rfl, trivial⟩
  obtain ⟨packets, sent, counts, run⟩ := relays_frames behind szRecvBuff frames
    (initStreamPusher pPsBuff ssrc) .nothing empty (fun _ => pushable.first)
    pushable.framesFit pushable.packsFit
  exact ⟨packets, sent, counts, run, flatten_deliveries [] frames⟩

/-- A parameter set, a picture that depends on it and the next picture. -/
def threeFrames : List NalFrame :=
  [⟨[0x67, 0x42], by decide, by decide, 0x42, rfl, by decide⟩,
    ⟨[0x65, 0x88], by decide, by decide, 0x88, rfl, by decide⟩,
    ⟨[0x41, 0x9A], by decide, by decide, 0x9A, rfl, by decide⟩]

theorem push_pull_threeFrames :
    ∃ packets, pushFrames (fun _ => 0) (initStreamPusher (fun _ => 0) 1) threeFrames = some packets ∧
      packets.map List.length = threeFrames.map packetCount ∧
      seen (initStreamPuller true fun _ => 0) (fun _ => 0) packets.flatten =
        deliveries [] threeFrames ∧
      (deliveries [] threeFrames).flatten = closedPacks [] threeFrames :=
  push_pull 1 _ _ _ _ threeFrames ⟨by decide, by decide, by decide, by decide, by decide, trivial⟩

example : closedPacks [] threeFrames =
    [[0x00, 0x00, 0x00, 0x01, 0x67, 0x42, 0x00, 0x00, 0x00, 0x01, 0x65, 0x88]] := by decide

end Gb28181.PushPull
