import Mathlib.Data.List.Chain
import Gb28181.StreamPusher

namespace Gb28181.StreamPusher

open Gb28181.Lib Gb28181.Psmux

/-- The arguments of one call of `inputFrameData`. -/
structure FrameInput where
  pFrameData : Mem UInt8
  iFrameLen : Nat

def FrameInput.type (input : FrameInput) : NalType := getH264NALtype (input.pFrameData 4)

/-- An access unit begins with a frame that advances the time. -/
def FrameInput.startsUnit (input : FrameInput) : Bool :=
  input.type = .sps ∨ input.type = .pframe

/-- A call, with the pusher it is made on. -/
structure Call where
  pusher : Pusher
  input : FrameInput

def Call.pushed (call : Call) : Option Pushed :=
  inputFrameData call.pusher call.input.pFrameData call.input.iFrameLen

/-- What `h264PsMux` leaves in `m_pPsBuff` in a call. -/
def Call.muxed (call : Call) : Option Muxed :=
  let timed := advanceTime call.pusher call.input.type
  h264PsMux call.input.pFrameData call.input.iFrameLen call.input.type timed.ulTimeStamp.toNat
    timed.psBuff

def Call.muxedBytes (call : Call) : List UInt8 :=
  call.muxed.elim [] fun muxed => window muxed.pOutPsData 0 muxed.iRetPsLen

/-- The calls of a run, each with what it sent. There is no run where one of them writes past
the end of `m_pPsBuff`. -/
def pushRun : Pusher → List FrameInput → Option (List (Call × Pushed))
  | _, [] => some []
  | pusher, input :: inputs => do
    let call : Call := ⟨pusher, input⟩
    let pushed ← call.pushed
    let later ← pushRun pushed.after inputs
    return (call, pushed) :: later

/-- The number in these bytes, most significant first. -/
def bytesValue (bytes : List UInt8) : Nat :=
  bytes.foldl (fun value byte => 256 * value + byte.toNat) 0

def packetMarker (packet : List UInt8) : Bool := packet.getD 1 0 &&& 0x80 != 0
def packetSeq (packet : List UInt8) : Nat := bytesValue ((packet.drop 2).take 2)
def packetTime (packet : List UInt8) : Nat := bytesValue ((packet.drop 4).take 4)
def packetPayload (packet : List UInt8) : List UInt8 := packet.drop rtpHdrLen

/-- The access unit a frame belongs to: as many units begin up to it. -/
def accessUnit (inputs : List FrameInput) (index : Nat) : Nat :=
  ((inputs.take (index + 1)).filter FrameInput.startsUnit).length

def unitPackets (inputs : List FrameInput) (calls : List (Call × Pushed)) (unitIndex : Nat) :
    List (List UInt8) :=
  (calls.zipIdx.filter fun entry => accessUnit inputs entry.2 = unitIndex).flatMap
    fun entry => entry.1.2.packets

/-- The marker bit is set on the last of these packets and on no other. -/
def MarksLast (packets : List (List UInt8)) : Prop :=
  ∀ front last, packets = front ++ [last] →
    packetMarker last = true ∧ ∀ packet ∈ front, packetMarker packet = false

/-- The law of the stream, its marker bits left out. -/
structure RtpLaw (inputs : List FrameInput) (calls : List (Call × Pushed)) : Prop where
  sequence : (calls.flatMap fun entry => entry.2.packets).IsChain
    fun packet next => packetSeq next = (packetSeq packet + 1) % 2 ^ 16
  sizes : ∀ entry ∈ calls, ∀ packet ∈ entry.2.packets,
    1 ≤ (packetPayload packet).length ∧ (packetPayload packet).length ≤ 1400
  payloads : ∀ entry ∈ calls, entry.2.packets.flatMap packetPayload = entry.1.muxedBytes
  sameTime : ∀ (i j : Nat) (first second : Call × Pushed), calls[i]? = some first →
    calls[j]? = some second → accessUnit inputs j = accessUnit inputs i →
    ∀ packet ∈ first.2.packets, ∀ other ∈ second.2.packets, packetTime other = packetTime packet
  nextTime : ∀ (i j : Nat) (first second : Call × Pushed), calls[i]? = some first →
    calls[j]? = some second → accessUnit inputs j = accessUnit inputs i + 1 →
    ∀ packet ∈ first.2.packets, ∀ other ∈ second.2.packets,
      packetTime other = (packetTime packet + 3600) % 2 ^ 32

variable {pusher : Pusher} {blocks : List (List UInt8)}

theorem toNat_fieldByte (value : UInt64) (width : Nat) (bits : width + 8 ≤ 32) :
    ((value &&& UInt64.ofNat (255 * 2 ^ width)) >>> UInt64.ofNat width).toUInt8.toNat =
      value.toNat / 2 ^ width % 256 := by
  have maskFits : 255 * 2 ^ width < 2 ^ 64 := by
    have bound : 2 ^ width ≤ 2 ^ 24 := Nat.pow_le_pow_right (by decide) (by omega)
    omega
  have widthFits : width % 2 ^ 64 % 64 = width := by omega
  have low : (255 * 2 ^ width) >>> width = 2 ^ 8 - 1 := by
    rw [Nat.shiftRight_eq_div_pow, Nat.mul_div_cancel _ (Nat.two_pow_pos width)]
    rfl
  rw [UInt64.toNat_toUInt8, UInt64.toNat_shiftRight, UInt64.toNat_and, UInt64.toNat_ofNat',
    UInt64.toNat_ofNat', Nat.mod_eq_of_lt maskFits, widthFits, Nat.shiftRight_and_distrib, low,
    Nat.and_two_pow_sub_one_eq_mod, Nat.shiftRight_eq_div_pow]
  omega

theorem packetSeq_header (pusher : Pusher) (ulIndex ulTimeStamp : UInt64) (bEndHead : Bool)
    (block : List UInt8) :
    packetSeq (rtpHeader pusher ulIndex ulTimeStamp bEndHead ++ block) = ulIndex.toNat % 2 ^ 16 := by
  have high : ((ulIndex &&& 0xFF00) >>> 8).toUInt8.toNat = ulIndex.toNat / 2 ^ 8 % 256 :=
    toNat_fieldByte ulIndex 8 (by decide)
  have low : ((ulIndex &&& 0x00FF) >>> 0).toUInt8.toNat = ulIndex.toNat / 2 ^ 0 % 256 :=
    toNat_fieldByte ulIndex 0 (by decide)
  rw [UInt64.shiftRight_zero] at low
  have same : packetSeq (rtpHeader pusher ulIndex ulTimeStamp bEndHead ++ block) =
      256 * (256 * 0 + ((ulIndex &&& 0xFF00) >>> 8).toUInt8.toNat) +
        (ulIndex &&& 0x00FF).toUInt8.toNat := rfl
  rw [same, high, low]
  omega

theorem packetTime_header (pusher : Pusher) (ulIndex ulTimeStamp : UInt64) (bEndHead : Bool)
    (block : List UInt8) :
    packetTime (rtpHeader pusher ulIndex ulTimeStamp bEndHead ++ block) =
      ulTimeStamp.toNat % 2 ^ 32 := by
  have first : ((ulTimeStamp &&& 0xFF000000) >>> 24).toUInt8.toNat =
      ulTimeStamp.toNat / 2 ^ 24 % 256 := toNat_fieldByte ulTimeStamp 24 (by decide)
  have second : ((ulTimeStamp &&& 0x00FF0000) >>> 16).toUInt8.toNat =
      ulTimeStamp.toNat / 2 ^ 16 % 256 := toNat_fieldByte ulTimeStamp 16 (by decide)
  have third : ((ulTimeStamp &&& 0x0000FF00) >>> 8).toUInt8.toNat =
      ulTimeStamp.toNat / 2 ^ 8 % 256 := toNat_fieldByte ulTimeStamp 8 (by decide)
  have fourth : ((ulTimeStamp &&& 0x000000FF) >>> 0).toUInt8.toNat =
      ulTimeStamp.toNat / 2 ^ 0 % 256 := toNat_fieldByte ulTimeStamp 0 (by decide)
  rw [UInt64.shiftRight_zero] at fourth
  have same : packetTime (rtpHeader pusher ulIndex ulTimeStamp bEndHead ++ block) =
      256 * (256 * (256 * (256 * 0 + ((ulTimeStamp &&& 0xFF000000) >>> 24).toUInt8.toNat) +
        ((ulTimeStamp &&& 0x00FF0000) >>> 16).toUInt8.toNat) +
        ((ulTimeStamp &&& 0x0000FF00) >>> 8).toUInt8.toNat) +
        (ulTimeStamp &&& 0x000000FF).toUInt8.toNat := rfl
  rw [same, first, second, third, fourth]
  omega

theorem packetMarker_header (pusher : Pusher) (ulIndex ulTimeStamp : UInt64) (bEndHead : Bool)
    (block : List UInt8) :
    packetMarker (rtpHeader pusher ulIndex ulTimeStamp bEndHead ++ block) = bEndHead := by
  show ((if bEndHead then 0xE0 else 0x60 : UInt8) &&& 0x80 != 0) = bEndHead
  cases bEndHead <;> decide

theorem packetPayload_header (pusher : Pusher) (ulIndex ulTimeStamp : UInt64) (bEndHead : Bool)
    (block : List UInt8) :
    packetPayload (rtpHeader pusher ulIndex ulTimeStamp bEndHead ++ block) = block := rfl

/-- Packets numbered on from a sequence number. -/
def Counts : UInt16 → List (List UInt8) → Prop
  | _, [] => True
  | usSeq, packet :: packets => packetSeq packet = (usSeq + 1).toNat ∧ Counts (usSeq + 1) packets

theorem length_rtpPackets (pusher : Pusher) (blocks : List (List UInt8)) :
    (rtpPackets pusher blocks).length = blocks.length := by
  induction blocks generalizing pusher with
  | nil => rfl
  | cons block blocks ih => rw [rtpPackets, List.length_cons, ih, List.length_cons]

theorem counts_rtpPackets (pusher : Pusher) (blocks : List (List UInt8)) :
    Counts pusher.usSeq (rtpPackets pusher blocks) := by
  induction blocks generalizing pusher with
  | nil => trivial
  | cons block blocks ih =>
    refine ⟨?_, ih { pusher with usSeq := pusher.usSeq + 1 }⟩
    rw [packetSeq_header, UInt16.toNat_toUInt64]
    exact Nat.mod_eq_of_lt (pusher.usSeq + 1).toNat_lt

theorem payloads_rtpPackets (pusher : Pusher) (blocks : List (List UInt8)) :
    (rtpPackets pusher blocks).map packetPayload = blocks := by
  induction blocks generalizing pusher with
  | nil => rfl
  | cons block blocks ih => rw [rtpPackets, List.map_cons, ih, packetPayload_header]

theorem time_rtpPackets (pusher : Pusher) (blocks : List (List UInt8)) :
    ∀ packet ∈ rtpPackets pusher blocks, packetTime packet = pusher.ulTimeStamp.toNat % 2 ^ 32 := by
  induction blocks generalizing pusher with
  | nil => simp [rtpPackets]
  | cons block blocks ih =>
    intro packet found
    rcases List.mem_cons.mp found with first | later
    · rw [first, packetTime_header]
    · exact ih { pusher with usSeq := pusher.usSeq + 1 } packet later

theorem marksLast_rtpPackets (pusher : Pusher) (blocks : List (List UInt8)) :
    MarksLast (rtpPackets pusher blocks) := by
  induction blocks generalizing pusher with
  | nil =>
    intro front last same
    simp [rtpPackets] at same
  | cons block blocks ih =>
    intro front last same
    rw [rtpPackets] at same
    cases front with
    | nil =>
      have single := congrArg List.length same
      rw [List.length_cons, length_rtpPackets] at single
      have empty : blocks = [] := List.length_eq_zero_iff.mp (by simpa using single)
      rw [empty] at same
      obtain ⟨rfl, _⟩ := List.cons.inj same
      exact ⟨packetMarker_header _ _ _ _ _, by simp⟩
    | cons packet front =>
      obtain ⟨first, later⟩ := List.cons.inj same
      obtain ⟨marked, clear⟩ := ih { pusher with usSeq := pusher.usSeq + 1 } front last later
      refine ⟨marked, ?_⟩
      intro other found
      rcases List.mem_cons.mp found with same | behind
      · have more : blocks.isEmpty = false := by
          have lengths := congrArg List.length later
          rw [length_rtpPackets] at lengths
          cases blocks with
          | nil => simp at lengths
          | cons => rfl
        rw [same, ← first, packetMarker_header, more]
      · exact clear other behind

/-- The pusher with what `h264PsMux` wrote, as the loop finds it. -/
def Call.filled (call : Call) (muxed : Muxed) : Pusher :=
  { advanceTime call.pusher call.input.type with psBuff := muxed.pOutPsData }

/-- A call that returns multiplexes into the buffer and sends the blocks of that. -/
theorem Call.pushed_filled {call : Call} {pushed : Pushed} (ran : call.pushed = some pushed) :
    ∃ muxed, call.muxed = some muxed ∧ muxed.iRetPsLen ≤ psBuffSize ∧
      pushed.packets = rtpPackets (call.filled muxed) (chunks iFrameSizePerCap call.muxedBytes) ∧
      pushed.after = { call.filled muxed with
        usSeq := (call.filled muxed).usSeq +
          UInt16.ofNat (chunks iFrameSizePerCap call.muxedBytes).length } := by
  have unfolded : call.pushed = call.muxed.bind fun muxed =>
      if muxed.iRetPsLen > psBuffSize then none
      else if muxed.iRetPsLen > 0 then
        some (sendLoop muxed.iRetPsLen 0 muxed.iRetPsLen (call.filled muxed))
      else some ⟨call.filled muxed, [], -1⟩ := rfl
  rw [unfolded, Option.bind_eq_some_iff] at ran
  obtain ⟨muxed, wrote, ran⟩ := ran
  have bytes : call.muxedBytes = window muxed.pOutPsData 0 muxed.iRetPsLen := by
    rw [Call.muxedBytes, wrote, Option.elim_some]
  have held : Holds (call.filled muxed).psBuff 0 call.muxedBytes := by
    rw [bytes]
    exact holds_window _ _ _
  have size : call.muxedBytes.length = muxed.iRetPsLen := by rw [bytes, length_window]
  split at ran
  · cases ran
  · rename_i room
    refine ⟨muxed, wrote, Nat.le_of_not_lt room, ?_⟩
    split at ran
    · cases ran
      have sent := sendLoop_sends call.muxedBytes.length 0 (Nat.le_refl _) held
      rw [size] at sent
      exact sent
    · cases ran
      have empty : call.muxedBytes = [] := List.length_eq_zero_iff.mp (by omega)
      have unmoved : (call.filled muxed).usSeq + UInt16.ofNat 0 = (call.filled muxed).usSeq := by
        simp
      rw [empty, chunks_nil, List.length_nil, unmoved]
      exact ⟨rfl, rfl⟩

/-- A call sends the blocks of what it multiplexed, all with one time stamp, and leaves the
next sequence number and that time. -/
theorem Call.sends {call : Call} {pushed : Pushed} (ran : call.pushed = some pushed) :
    ∃ filled : Pusher, filled.usSeq = call.pusher.usSeq ∧
      filled.ulTimeStamp = (advanceTime call.pusher call.input.type).ulTimeStamp ∧
      pushed.packets = rtpPackets filled (chunks iFrameSizePerCap call.muxedBytes) ∧
      pushed.after.usSeq = call.pusher.usSeq + UInt16.ofNat pushed.packets.length ∧
      pushed.after.ulTimeStamp = filled.ulTimeStamp := by
  have sameSeq : (advanceTime call.pusher call.input.type).usSeq = call.pusher.usSeq := by
    unfold advanceTime
    split <;> rfl
  obtain ⟨muxed, _, _, packets, after⟩ := Call.pushed_filled ran
  refine ⟨call.filled muxed, sameSeq, rfl, packets, ?_, ?_⟩
  · rw [packets, after, length_rtpPackets, ← sameSeq]
    rfl
  · rw [after]

theorem pushRun_cons {input : FrameInput} {inputs : List FrameInput} {calls : List (Call × Pushed)} :
    pushRun pusher (input :: inputs) = some calls ↔
      ∃ pushed later, Call.pushed ⟨pusher, input⟩ = some pushed ∧
        pushRun pushed.after inputs = some later ∧ (⟨pusher, input⟩, pushed) :: later = calls := by
  simp [pushRun, Option.bind_eq_some_iff]

theorem pushRun_fits (pusher : Pusher) (inputs : List FrameInput)
    (fits : ∀ input ∈ inputs, muxLen input.type input.iFrameLen ≤ psBuffSize) :
    ∃ calls, pushRun pusher inputs = some calls ∧ calls.map (fun entry => entry.1.input) = inputs := by
  induction inputs generalizing pusher with
  | nil => exact ⟨[], rfl, rfl⟩
  | cons input inputs ih =>
    obtain ⟨here, further⟩ := List.forall_mem_cons.mp fits
    have size := length_window input.pFrameData 0 input.iFrameLen
    obtain ⟨pushed, _, ran, _⟩ := inputFrameData_carries pusher
      (holds_window input.pFrameData 0 input.iFrameLen) (by rwa [size])
    rw [size] at ran
    obtain ⟨later, run, inputs⟩ := ih pushed.after further
    refine ⟨(⟨pusher, input⟩, pushed) :: later, pushRun_cons.mpr ⟨_, _, ran, run, rfl⟩, ?_⟩
    rw [List.map_cons, inputs]

theorem pushed_of_mem {inputs : List FrameInput} {calls : List (Call × Pushed)}
    (run : pushRun pusher inputs = some calls) {entry : Call × Pushed} (member : entry ∈ calls) :
    entry.1.pushed = some entry.2 := by
  induction inputs generalizing pusher calls with
  | nil =>
    cases run
    cases member
  | cons input inputs ih =>
    obtain ⟨pushed, later, ran, rest, rfl⟩ := pushRun_cons.mp run
    rcases List.mem_cons.mp member with rfl | member
    · exact ran
    · exact ih rest member

theorem counts_append {usSeq : UInt16} {front back : List (List UInt8)} :
    Counts usSeq (front ++ back) ↔
      Counts usSeq front ∧ Counts (usSeq + UInt16.ofNat front.length) back := by
  induction front generalizing usSeq with
  | nil => simp [Counts]
  | cons packet front ih =>
    have shift : usSeq + 1 + UInt16.ofNat front.length =
        usSeq + UInt16.ofNat (packet :: front).length := by
      rw [List.length_cons, Nat.add_comm, UInt16.ofNat_add, UInt16.add_assoc]
      rfl
    rw [List.cons_append, Counts, Counts, ih, shift, and_assoc]

theorem counts_run {inputs : List FrameInput} {calls : List (Call × Pushed)}
    (run : pushRun pusher inputs = some calls) :
    Counts pusher.usSeq (calls.flatMap fun entry => entry.2.packets) := by
  induction inputs generalizing pusher calls with
  | nil =>
    cases run
    trivial
  | cons input inputs ih =>
    obtain ⟨pushed, later, ran, rest, rfl⟩ := pushRun_cons.mp run
    obtain ⟨filled, seq, _, packets, after, _⟩ := Call.sends ran
    rw [List.flatMap_cons]
    apply counts_append.mpr
    constructor
    · rw [packets]
      have numbered := counts_rtpPackets filled
        (chunks iFrameSizePerCap (Call.muxedBytes ⟨pusher, input⟩))
      rwa [seq] at numbered
    · have further := ih rest
      rwa [after] at further

theorem isChain_of_counts {usSeq : UInt16} {packets : List (List UInt8)}
    (counts : Counts usSeq packets) :
    packets.IsChain fun packet next => packetSeq next = (packetSeq packet + 1) % 2 ^ 16 := by
  induction packets generalizing usSeq with
  | nil => exact .nil
  | cons packet packets ih =>
    obtain ⟨here, further⟩ := counts
    cases packets with
    | nil => exact .singleton _
    | cons next packets =>
      apply List.isChain_cons_cons.mpr
      refine ⟨?_, ih further⟩
      rw [further.1, here, UInt16.toNat_add]
      rfl

/-- The number of units that begin with a frame. -/
def FrameInput.begins (input : FrameInput) : Nat := if input.startsUnit then 1 else 0

theorem accessUnit_zero (input : FrameInput) (inputs : List FrameInput) :
    accessUnit (input :: inputs) 0 = input.begins := by
  unfold accessUnit FrameInput.begins
  cases starts : input.startsUnit <;> simp [starts]

theorem accessUnit_succ (input : FrameInput) (inputs : List FrameInput) (index : Nat) :
    accessUnit (input :: inputs) (index + 1) = input.begins + accessUnit inputs index := by
  unfold accessUnit FrameInput.begins
  rw [List.take_succ_cons, List.filter_cons]
  cases input.startsUnit <;> simp [Nat.add_comm]

theorem advanceTime_time (pusher : Pusher) (input : FrameInput) :
    (advanceTime pusher input.type).ulTimeStamp.toNat % 2 ^ 32 =
      (pusher.ulTimeStamp.toNat + 3600 * input.begins) % 2 ^ 32 := by
  unfold advanceTime FrameInput.begins FrameInput.startsUnit
  by_cases starts : input.type = .sps ∨ input.type = .pframe
  · have sum : (pusher.ulTimeStamp + 3600).toNat = (pusher.ulTimeStamp.toNat + 3600) % 2 ^ 64 := rfl
    simp only [starts, if_true, decide_true, sum]
    omega
  · simp [starts]

/-- The time stamp of a frame counts the access units up to it. -/
theorem time_run {inputs : List FrameInput} {calls : List (Call × Pushed)}
    (run : pushRun pusher inputs = some calls) {index : Nat} {entry : Call × Pushed}
    (here : calls[index]? = some entry) :
    ∀ packet ∈ entry.2.packets, packetTime packet =
      (pusher.ulTimeStamp.toNat + 3600 * accessUnit inputs index) % 2 ^ 32 := by
  induction inputs generalizing pusher calls index with
  | nil =>
    cases run
    simp at here
  | cons input inputs ih =>
    obtain ⟨pushed, later, ran, rest, rfl⟩ := pushRun_cons.mp run
    obtain ⟨filled, _, time, packets, _, left⟩ := Call.sends ran
    have advanced := advanceTime_time pusher input
    cases index with
    | zero =>
      cases here
      intro packet found
      rw [packets] at found
      rw [time_rtpPackets _ _ packet found, time, accessUnit_zero]
      exact advanced
    | succ index =>
      intro packet found
      rw [ih rest here packet found, accessUnit_succ, left, time]
      dsimp only at advanced ⊢
      omega

/-- The packets of a run obey the law, and each frame marks its last packet only. -/
theorem rtpLaw_run {inputs : List FrameInput} {calls : List (Call × Pushed)}
    (run : pushRun pusher inputs = some calls) :
    RtpLaw inputs calls ∧ ∀ entry ∈ calls, MarksLast entry.2.packets := by
  refine ⟨⟨isChain_of_counts (counts_run run), ?_, ?_, ?_, ?_⟩, ?_⟩
  · intro entry member packet found
    obtain ⟨filled, _, _, packets, _⟩ := Call.sends (pushed_of_mem run member)
    rw [packets] at found
    have block : packetPayload packet ∈ chunks iFrameSizePerCap entry.1.muxedBytes := by
      rw [← payloads_rtpPackets filled (chunks iFrameSizePerCap entry.1.muxedBytes)]
      exact List.mem_map_of_mem found
    exact length_of_mem_chunks block
  · intro entry member
    obtain ⟨filled, _, _, packets, _⟩ := Call.sends (pushed_of_mem run member)
    rw [packets, List.flatMap_def, payloads_rtpPackets, flatten_chunks (by decide)]
  · intro i j first second atFirst atSecond same packet found other foundOther
    rw [time_run run atSecond other foundOther, same, time_run run atFirst packet found]
  · intro i j first second atFirst atSecond next packet found other foundOther
    rw [time_run run atSecond other foundOther, next, time_run run atFirst packet found]
    omega
  · intro entry member
    obtain ⟨filled, _, _, packets, _⟩ := Call.sends (pushed_of_mem run member)
    rw [packets]
    exact marksLast_rtpPackets _ _

/-- Frames that fit the buffer are all pushed, and their packets obey the law. -/
theorem rtp_stream_law (pusher : Pusher) (inputs : List FrameInput)
    (fits : ∀ input ∈ inputs, muxLen input.type input.iFrameLen ≤ psBuffSize) :
    ∃ calls, pushRun pusher inputs = some calls ∧
      calls.map (fun entry => entry.1.input) = inputs ∧ RtpLaw inputs calls ∧
      ∀ entry ∈ calls, MarksLast entry.2.packets := by
  obtain ⟨calls, run, whole⟩ := pushRun_fits pusher inputs fits
  exact ⟨calls, run, whole, rtpLaw_run run⟩

/-- A sequence parameter set and the picture parameter set that follows it. -/
def parameterSets : List FrameInput := [⟨fun _ => 0x67, 5⟩, ⟨fun _ => 0x68, 5⟩]

theorem rtp_stream_law_parameterSets :
    ∃ calls, pushRun (initStreamPusher (fun _ => 0) 1) parameterSets = some calls ∧
      calls.map (fun entry => entry.1.input) = parameterSets ∧ RtpLaw parameterSets calls ∧
      ∀ entry ∈ calls, MarksLast entry.2.packets :=
  rtp_stream_law _ parameterSets (by decide)

/-- A frame that is multiplexed is sent in at least one packet, the last of them marked. -/
theorem Call.sends_last {call : Call} {pushed : Pushed} (ran : call.pushed = some pushed)
    (muxed : call.input.type.muxed = true) (nonempty : 0 < call.input.iFrameLen) :
    ∃ front last, pushed.packets = front ++ [last] ∧ packetMarker last = true := by
  obtain ⟨filled, _, _, packets, _⟩ := Call.sends ran
  obtain ⟨result, wrote, _⟩ := Call.pushed_filled ran
  have positive : 0 < call.muxedBytes.length := by
    have length := h264PsMux_length call.input.pFrameData
      (advanceTime call.pusher call.input.type).psBuff call.input.iFrameLen call.input.type
      (advanceTime call.pusher call.input.type).ulTimeStamp.toNat
    have same : call.muxed.map Muxed.iRetPsLen = _ := length
    rw [wrote, Option.map_some] at same
    split at same
    · rw [Call.muxedBytes, wrote, Option.elim_some, length_window, Option.some.inj same, muxLen,
        if_pos muxed]
      omega
    · cases same
  have some : pushed.packets ≠ [] := by
    intro none
    have count := congrArg List.length packets
    rw [none, length_rtpPackets, chunks_step (by decide) positive] at count
    simp at count
  have split := List.dropLast_concat_getLast some
  refine ⟨_, _, split.symm, ?_⟩
  have marks := marksLast_rtpPackets filled (chunks iFrameSizePerCap call.muxedBytes)
  rw [← packets] at marks
  exact (marks _ _ split.symm).1

/-- The marker bit also stands in the middle of an access unit. -/
theorem marker_inside_unit :
    ¬ ∀ (pusher : Pusher) (inputs : List FrameInput) (calls : List (Call × Pushed)),
      pushRun pusher inputs = some calls →
        RtpLaw inputs calls ∧ ∀ unitIndex, MarksLast (unitPackets inputs calls unitIndex) := by
  intro law
  obtain ⟨calls, run, _⟩ :=
    pushRun_fits (initStreamPusher (fun _ => 0) 1) parameterSets (by decide)
  have marks := (law _ _ _ run).2 1
  obtain ⟨first, _, firstRan, rest, rfl⟩ := pushRun_cons.mp run
  obtain ⟨second, _, secondRan, ended, rfl⟩ := pushRun_cons.mp rest
  cases ended
  have unit (sps pps : Call) :
      unitPackets parameterSets [(sps, first), (pps, second)] 1 = first.packets ++ second.packets := by
    have firstUnit : accessUnit parameterSets 0 = 1 := by decide
    have secondUnit : accessUnit parameterSets 1 = 1 := by decide
    simp [unitPackets, firstUnit, secondUnit]
  have sps : (getH264NALtype 0x67).muxed = true := by decide
  have pps : (getH264NALtype 0x68).muxed = true := by decide
  obtain ⟨front, last, packets, marked⟩ := Call.sends_last firstRan sps (Nat.succ_pos 4)
  obtain ⟨later, final, behind, _⟩ := Call.sends_last secondRan pps (Nat.succ_pos 4)
  rw [unit, packets, behind] at marks
  have clear := (marks (front ++ [last] ++ later) final (by simp)).2 last (by simp)
  rw [marked] at clear
  cases clear

end Gb28181.StreamPusher
