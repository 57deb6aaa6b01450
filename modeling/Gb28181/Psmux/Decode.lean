import Mathlib.Data.List.Forall2
import Gb28181.Lib.BitFields
import Gb28181.Psmux.H264PsMux

namespace Gb28181.Psmux

open Gb28181.Lib

/-- The clock of a pack header, base and extension, its rate and its stuffing bytes. -/
structure PackHeader where
  base : Nat
  extension : Nat
  muxRate : Nat
  stuffing : Nat
  deriving DecidableEq, Repr

/-- `packetLength` is the 16-bit length field. -/
structure PesUnit where
  streamId : Nat
  packetLength : Nat
  pts : Option Nat
  dts : Option Nat
  payload : List UInt8
  deriving DecidableEq, Repr

/-- What a program stream consists of. A section is a system header or a stream map. -/
inductive PsUnit where
  | pack (header : PackHeader)
  | section (streamId : Nat) (body : List UInt8)
  | pes (packet : PesUnit)
  deriving DecidableEq, Repr

def PsUnit.size : PsUnit → Nat
  | .pack header => 14 + header.stuffing
  | .section _ body => 6 + body.length
  | .pes packet => 6 + packet.packetLength

/-- Start code, `01`, the clock base in three parts and its extension with a marker behind
each, rate, two markers, reserved bits, stuffing length. -/
def packLayout : List Nat := [32, 2, 3, 1, 15, 1, 15, 1, 9, 1, 22, 1, 1, 5, 3]

def decodePack (bytes : List UInt8) : Option (PackHeader × List UInt8) :=
  match readFields packLayout (byteBits (bytes.take 14)) with
  | [start, version, high, m1, middle, m2, low, m3, extension, m4, muxRate, m5, m6, _, stuffing] =>
    if start = 0x000001BA ∧ version = 1 ∧ [m1, m2, m3, m4, m5, m6] = [1, 1, 1, 1, 1, 1] ∧
        14 + stuffing ≤ bytes.length then
      some (⟨high * 2 ^ 30 + middle * 2 ^ 15 + low, extension, muxRate, stuffing⟩,
        bytes.drop (14 + stuffing))
    else none
  | _ => none

def sectionLayout : List Nat := [24, 8, 16]

def decodeSection (bytes : List UInt8) : Option ((Nat × List UInt8) × List UInt8) :=
  match readFields sectionLayout (byteBits (bytes.take 6)) with
  | [start, streamId, length] =>
    if start = 0x000001 ∧ 6 + length ≤ bytes.length then
      some ((streamId, (bytes.drop 6).take length), bytes.drop (6 + length))
    else none
  | _ => none

/-- The mark of a time stamp, and three parts with a marker behind each. -/
def timeStampLayout : List Nat := [4, 3, 1, 15, 1, 15, 1]

def decodeTimeStamp (mark : Nat) (bytes : List UInt8) : Option Nat :=
  match readFields timeStampLayout (byteBits (bytes.take 5)) with
  | [marked, high, m1, middle, m2, low, m3] =>
    if marked = mark ∧ [m1, m2, m3] = [1, 1, 1] ∧ 5 ≤ bytes.length then
      some (high * 2 ^ 30 + middle * 2 ^ 15 + low)
    else none
  | _ => none

/-- The time stamps that the flags of a packet announce. -/
def decodeTimeStamps (flags : Nat) (bytes : List UInt8) : Option (Option Nat × Option Nat) :=
  match flags with
  | 0 => some (none, none)
  | 2 => (decodeTimeStamp 2 bytes).map fun pts => (some pts, none)
  | 3 => (decodeTimeStamp 3 bytes).bind fun pts =>
      (decodeTimeStamp 1 (bytes.drop 5)).map fun dts => (some pts, some dts)
  | _ => none

/-- Prefix, stream id, length, `10`, scrambling, priority, alignment, copyright, original,
time stamp flags, six further flags, header data length. -/
def pesLayout : List Nat := [24, 8, 16, 2, 2, 1, 1, 1, 1, 2, 1, 1, 1, 1, 1, 1, 8]

def decodePes (bytes : List UInt8) : Option (PesUnit × List UInt8) :=
  match readFields pesLayout (byteBits (bytes.take 9)) with
  | [start, streamId, packetLength, mark, _, _, _, _, _, flags, _, _, _, _, _, _, headerLength] =>
    if start = 0x000001 ∧ mark = 2 ∧ 3 + headerLength ≤ packetLength ∧
        6 + packetLength ≤ bytes.length then
      (decodeTimeStamps flags ((bytes.drop 9).take headerLength)).map fun stamps =>
        (⟨streamId, packetLength, stamps.1, stamps.2,
            (bytes.drop (9 + headerLength)).take (packetLength - 3 - headerLength)⟩,
          bytes.drop (6 + packetLength))
    else none
  | _ => none

def decodeUnit (bytes : List UInt8) : Option (PsUnit × List UInt8) :=
  match bytes with
  | _ :: _ :: _ :: streamId :: _ =>
    if streamId = 0xBA then (decodePack bytes).map fun decoded => (.pack decoded.1, decoded.2)
    else if streamId = 0xBB ∨ streamId = 0xBC then
      (decodeSection bytes).map fun decoded => (.section decoded.1.1 decoded.1.2, decoded.2)
    else (decodePes bytes).map fun decoded => (.pes decoded.1, decoded.2)
  | _ => none

/-- The units of a stream; no unit is empty, so as many rounds as bytes are enough. -/
def decodeUnits : Nat → List UInt8 → Option (List PsUnit)
  | _, [] => some []
  | 0, _ :: _ => none
  | rounds + 1, bytes =>
    (decodeUnit bytes).bind fun decoded =>
      (decodeUnits rounds decoded.2).map fun units => decoded.1 :: units

def decodeStream (bytes : List UInt8) : Option (List PsUnit) := decodeUnits bytes.length bytes

theorem length_headerBytes (count : Nat) {fields : Fields}
    (whole : (fieldBits fields).length = 8 * count) : (headerBytes fields).length = count := by
  rw [headerBytes, length_packBytes, whole]
  omega

theorem readFields_header (count : Nat) {fields : Fields} {layout : List Nat}
    {refined : Fields} (rest : List UInt8) (same : fieldBits fields = writeBits refined)
    (whole : (fieldBits fields).length = 8 * count) (widths : refined.map Prod.fst = layout) :
    readFields layout (byteBits ((headerBytes fields ++ rest).take count)) =
      refined.map fun field => field.2 % 2 ^ field.1 := by
  rw [List.take_left' (length_headerBytes count whole), headerBytes, byteBits_packBytes count whole, same, ← widths,
    readFields_writeBits]

theorem timeParts (time : Nat) (small : time < 2 ^ 33) :
    (time >>> 30 &&& 0x07) % 2 ^ 3 * 2 ^ 30 + (time >>> 15 &&& 0x7FFF) % 2 ^ 15 * 2 ^ 15 +
      (time &&& 0x7FFF) % 2 ^ 15 = time := by
  have high := Nat.and_two_pow_sub_one_eq_mod (time >>> 30) 3
  have middle := Nat.and_two_pow_sub_one_eq_mod (time >>> 15) 15
  have low := Nat.and_two_pow_sub_one_eq_mod time 15
  simp only [Nat.reducePow, Nat.reduceSub, Nat.shiftRight_eq_div_pow] at high middle low small ⊢
  rw [high, middle, low]
  omega

theorem decodePack_header (t : Nat) (small : t < 2 ^ 33) (rest : List UInt8) :
    decodePack (headerBytes (psHeaderFields t) ++ rest) = some (⟨t / 100, t % 100, 255, 0⟩, rest) := by
  have length := length_psHeader t
  have fields := @readFields_header 14 (psHeaderFields t) packLayout
    [(32, 0x000001BA), (2, 1), (3, (t / 100) >>> 30 &&& 0x07), (1, 1),
      (15, (t / 100) >>> 15 &&& 0x7FFF), (1, 1), (15, t / 100 &&& 0x7FFF), (1, 1),
      (9, t % 100 &&& 0x01FF), (1, 1), (22, 255 &&& 0x3FFFFF), (1, 1), (1, 1), (5, 0x1F), (3, 0)]
    rest rfl rfl rfl
  have base := timeParts (t / 100) (by omega)
  have extension : (t % 100 &&& 0x01FF) % 2 ^ 9 = t % 100 := by
    have mask := Nat.and_two_pow_sub_one_eq_mod (t % 100) 9
    simp only [Nat.reducePow, Nat.reduceSub] at mask ⊢
    omega
  rw [decodePack, fields]
  simp only [List.map_cons, List.map_nil, base, extension]
  have long : 14 + 0 % 2 ^ 3 ≤ (headerBytes (psHeaderFields t) ++ rest).length := by
    rw [List.length_append, length]
    simp [psHdrLen]
  have behind : (headerBytes (psHeaderFields t) ++ rest).drop (14 + 0 % 2 ^ 3) = rest :=
    List.drop_left' length
  rw [if_pos ⟨by decide, by decide, by decide, long⟩, behind]
  rfl

theorem length_timeStampFields (mark time : Nat) :
    (headerBytes (timeStampFields mark time)).length = 5 :=
  length_headerBytes 5 rfl

theorem decodeTimeStamp_header (mark time : Nat) (marked : mark < 2 ^ 4) (small : time < 2 ^ 33)
    (rest : List UInt8) :
    decodeTimeStamp mark (headerBytes (timeStampFields mark time) ++ rest) = some time := by
  have fields := @readFields_header 5 (timeStampFields mark time) timeStampLayout
    [(4, mark), (3, time >>> 30 &&& 0x07), (1, 1), (15, time >>> 15 &&& 0x7FFF), (1, 1),
      (15, time &&& 0x7FFF), (1, 1)] rest rfl rfl rfl
  have length : 5 ≤ (headerBytes (timeStampFields mark time) ++ rest).length := by
    rw [List.length_append, length_timeStampFields]
    exact Nat.le_add_right 5 _
  rw [decodeTimeStamp, fields]
  simp only [List.map_cons, List.map_nil]
  rw [if_pos ⟨Nat.mod_eq_of_lt marked, by decide, length⟩, timeParts time small]

/-- The first nine bytes of a PES header. -/
def pesFrontFields (payloadLen : Nat) : Fields :=
  [(24, 0x000001), (8, 0xE0), (16, payloadLen + 13)] ++ pesFlagFields

theorem pesHeader_parts (payloadLen t : Nat) :
    headerBytes (pesHeaderFields 0xE0 payloadLen t t) =
      headerBytes (pesFrontFields payloadLen) ++ (headerBytes (timeStampFields 3 t) ++
        headerBytes (timeStampFields 1 t)) := by
  rw [pesHeaderFields, headerBytes_append 14 (by rfl), headerBytes_append 9 (by rfl),
    List.append_assoc]
  rfl

/-- A packet is decoded into its time, its payload and the length of both. -/
theorem decodePes_packet (t : Nat) (small : t < 2 ^ 33) (segment : List UInt8)
    (fits : segment.length ≤ psPesPayloadSize) (rest : List UInt8) :
    decodePes (pesPacketBytes t segment ++ rest) =
      some (⟨0xE0, segment.length + 13, some t, some t, segment⟩, rest) := by
  have front : (headerBytes (pesFrontFields segment.length)).length = 9 :=
    length_headerBytes 9 rfl
  have header : (headerBytes (pesHeaderFields 0xE0 segment.length t t)).length = 19 :=
    length_pesHeader segment.length t
  have pts := length_timeStampFields 3 t
  have dts := length_timeStampFields 1 t
  have fields := @readFields_header 9 (pesFrontFields segment.length) pesLayout
    [(24, 0x000001), (8, 0xE0), (16, segment.length + 13), (2, 2), (2, 0), (1, 0), (1, 0), (1, 0),
      (1, 0), (2, 3), (1, 0), (1, 0), (1, 0), (1, 0), (1, 0), (1, 0), (8, 10)]
    (headerBytes (timeStampFields 3 t) ++ headerBytes (timeStampFields 1 t) ++ (segment ++ rest))
    rfl rfl rfl
  have split : pesPacketBytes t segment ++ rest = headerBytes (pesFrontFields segment.length) ++
      (headerBytes (timeStampFields 3 t) ++ headerBytes (timeStampFields 1 t) ++
        (segment ++ rest)) := by
    rw [pesPacketBytes, pesHeader_parts]
    simp only [List.append_assoc]
  have packetLength : (segment.length + 13) % 2 ^ 16 = segment.length + 13 := by
    rw [psPesPayloadSize] at fits
    omega
  have stamps : ((pesPacketBytes t segment ++ rest).drop 9).take 10 =
      headerBytes (timeStampFields 3 t) ++ headerBytes (timeStampFields 1 t) := by
    rw [split, List.drop_left' front]
    exact List.take_left' (by rw [List.length_append, pts, dts])
  have payload : ((pesPacketBytes t segment ++ rest).drop (9 + 10)).take segment.length =
      segment := by
    rw [pesPacketBytes, List.append_assoc, List.drop_left' header]
    exact List.take_left' rfl
  have behind : (pesPacketBytes t segment ++ rest).drop (6 + (segment.length + 13)) = rest := by
    apply List.drop_left'
    rw [pesPacketBytes, List.length_append, header]
    omega
  have long : 6 + (segment.length + 13) ≤ (pesPacketBytes t segment ++ rest).length := by
    rw [List.length_append, pesPacketBytes, List.length_append, header]
    omega
  have remaining : segment.length + 13 - 3 - 10 = segment.length := by omega
  have second : (headerBytes (timeStampFields 3 t) ++ headerBytes (timeStampFields 1 t)).drop 5 =
      headerBytes (timeStampFields 1 t) ++ [] := by
    rw [List.drop_left' pts, List.append_nil]
  rw [← split] at fields
  rw [decodePes, fields]
  simp only [List.map_cons, List.map_nil, packetLength]
  rw [if_pos ⟨by decide, by decide, by omega, long⟩]
  simp only [Nat.reducePow, Nat.reduceMod, stamps, decodeTimeStamps, second,
    decodeTimeStamp_header 3 t (by decide) small, decodeTimeStamp_header 1 t (by decide) small,
    Option.bind_some, Option.map_some, remaining, payload, behind]

theorem decodeSection_header (streamId count : Nat) {bytes : List UInt8} (rest : List UInt8)
    (length : bytes.length = 6 + count)
    (fields : readFields sectionLayout (byteBits (bytes.take 6)) = [0x000001, streamId, count]) :
    decodeSection (bytes ++ rest) = some ((streamId, bytes.drop 6), rest) := by
  have front : (bytes ++ rest).take 6 = bytes.take 6 := by
    rw [List.take_append_of_le_length (by omega)]
  have body : ((bytes ++ rest).drop 6).take count = bytes.drop 6 := by
    rw [List.drop_append_of_le_length (by omega)]
    exact List.take_left' (by rw [List.length_drop]; omega)
  have long : 6 + count ≤ (bytes ++ rest).length := by
    rw [List.length_append]
    omega
  rw [decodeSection, front, fields]
  simp only
  rw [if_pos ⟨trivial, long⟩, body, List.drop_left' length]

/-- A piece of a stream that is decoded into one unit, whatever follows it. -/
structure Decodes (piece : List UInt8) (psUnit : PsUnit) : Prop where
  nonempty : piece ≠ []
  size : psUnit.size = piece.length
  unit : ∀ rest, decodeUnit (piece ++ rest) = some (psUnit, rest)

theorem decodes_pack (t : Nat) (small : t < 2 ^ 33) :
    Decodes (headerBytes (psHeaderFields t)) (.pack ⟨t / 100, t % 100, 255, 0⟩) := by
  obtain ⟨c0, c1, c2, c3, c4, c5, _, _, _, _, bytes⟩ := psHeaderBytes t
  refine ⟨by simp [bytes], (length_psHeader t).symm, ?_⟩
  intro rest
  have decoded := decodePack_header t small rest
  rw [bytes] at decoded ⊢
  simp only [List.cons_append] at decoded ⊢
  rw [decodeUnit, if_pos rfl, decoded]
  rfl

theorem decodes_system :
    Decodes (headerBytes sysHeaderFields) (.section 0xBB ((headerBytes sysHeaderFields).drop 6)) := by
  have length : (headerBytes sysHeaderFields).length = 6 + 12 := length_headerBytes 18 rfl
  have fields : readFields sectionLayout (byteBits ((headerBytes sysHeaderFields).take 6)) =
      [0x000001, 0xBB, 12] := by decide +kernel
  refine ⟨by simp [sysHeaderBytes], by rw [PsUnit.size, List.length_drop, length], ?_⟩
  intro rest
  have decoded := decodeSection_header 0xBB 12 rest length fields
  rw [sysHeaderBytes] at decoded ⊢
  simp only [List.cons_append] at decoded ⊢
  rw [decodeUnit, if_neg (by decide), if_pos (by decide), decoded]
  rfl

theorem decodes_map :
    Decodes (headerBytes psmHeaderFields) (.section 0xBC ((headerBytes psmHeaderFields).drop 6)) := by
  have length : (headerBytes psmHeaderFields).length = 6 + 18 := length_headerBytes 24 rfl
  have fields : readFields sectionLayout (byteBits ((headerBytes psmHeaderFields).take 6)) =
      [0x000001, 0xBC, 18] := by decide +kernel
  refine ⟨by simp [psmHeaderBytes], by rw [PsUnit.size, List.length_drop, length], ?_⟩
  intro rest
  have decoded := decodeSection_header 0xBC 18 rest length fields
  rw [psmHeaderBytes] at decoded ⊢
  simp only [List.cons_append] at decoded ⊢
  rw [decodeUnit, if_neg (by decide), if_pos (by decide), decoded]
  rfl

def segmentUnit (t : Nat) (segment : List UInt8) : PsUnit :=
  .pes ⟨0xE0, segment.length + 13, some t, some t, segment⟩

theorem decodes_segment (t : Nat) (small : t < 2 ^ 33) {segment : List UInt8}
    (fits : segment.length ≤ psPesPayloadSize) :
    Decodes (pesPacketBytes t segment) (segmentUnit t segment) := by
  have bytes : ∃ rest, pesPacketBytes t segment = 0x00 :: 0x00 :: 0x01 :: 0xE0 :: rest := by
    rw [pesPacketBytes, pesHeaderBytes]
    exact ⟨_, rfl⟩
  obtain ⟨more, bytes⟩ := bytes
  have size : (segmentUnit t segment).size = (pesPacketBytes t segment).length := by
    rw [pesPacketBytes, List.length_append, length_pesHeader]
    simp only [segmentUnit, PsUnit.size, pesHdrLen]
    omega
  refine ⟨by simp [bytes], size, ?_⟩
  intro rest
  have decoded := decodePes_packet t small segment fits rest
  rw [bytes] at decoded ⊢
  simp only [List.cons_append] at decoded ⊢
  rw [decodeUnit, if_neg (by decide), if_neg (by decide), decoded]
  rfl

theorem decodeUnits_pieces {pieces : List (List UInt8)} {units : List PsUnit} {rounds : Nat}
    (decodes : List.Forall₂ Decodes pieces units) (enough : pieces.flatten.length ≤ rounds) :
    decodeUnits rounds pieces.flatten = some units := by
  induction decodes generalizing rounds with
  | nil => cases rounds <;> rfl
  | @cons piece psUnit pieces units first rest ih =>
    obtain ⟨nonempty, _, decoded⟩ := first
    rw [List.flatten_cons, List.length_append] at enough
    have positive := List.length_pos_iff.mpr nonempty
    obtain ⟨fewer, rfl⟩ : ∃ fewer, rounds = fewer + 1 := ⟨rounds - 1, by omega⟩
    have further := ih (show pieces.flatten.length ≤ fewer by omega)
    rw [List.flatten_cons]
    have step := decoded pieces.flatten
    cases whole : piece ++ pieces.flatten with
    | nil => exact absurd (List.append_eq_nil_iff.mp whole).1 nonempty
    | cons byte bytes =>
      rw [whole] at step
      rw [decodeUnits, step, Option.bind_some, further]
      · rfl
      · simp

theorem decodeStream_pieces {pieces : List (List UInt8)} {units : List PsUnit}
    (decodes : List.Forall₂ Decodes pieces units) :
    decodeStream pieces.flatten = some units :=
  decodeUnits_pieces decodes (Nat.le_refl _)

theorem sizes_of_decodes {pieces : List (List UInt8)} {units : List PsUnit}
    (decodes : List.Forall₂ Decodes pieces units) :
    (units.map PsUnit.size).sum = pieces.flatten.length := by
  induction decodes with
  | nil => rfl
  | cons first _ ih =>
    rw [List.map_cons, List.sum_cons, ih, first.size, List.flatten_cons, List.length_append]

/-- The units in front of the packets of a frame. -/
def headerUnits (nalType : NalType) (t : Nat) : List PsUnit :=
  match nalType with
  | .sps => [.pack ⟨t / 100, t % 100, 255, 0⟩,
      .section 0xBB ((headerBytes sysHeaderFields).drop 6),
      .section 0xBC ((headerBytes psmHeaderFields).drop 6)]
  | .pframe => [.pack ⟨t / 100, t % 100, 255, 0⟩]
  | _ => []

/-- Pack header, system header, stream map. -/
def headerSizes (nalType : NalType) : List Nat :=
  match nalType with
  | .sps => [14, 18, 24]
  | .pframe => [14]
  | _ => []

/-- A frame as a program stream: the headers its type asks for, then the frame in packets
whose length fields do not wrap around. -/
structure FrameUnits (nalType : NalType) (t : Nat) (frame : List UInt8) (units : List PsUnit) : Prop
    where
  sizes : (headerUnits nalType t).map PsUnit.size = headerSizes nalType
  packets : ∃ segments : List (List UInt8),
    units = headerUnits nalType t ++ segments.map (segmentUnit t) ∧
      segments.length = (frame.length + (psPesPayloadSize - 1)) / psPesPayloadSize ∧
      (∀ segment ∈ segments, segment.length + 13 < 2 ^ 16) ∧ segments.flatten = frame

/-- The pieces `h264PsMux` puts together. -/
def muxPieces (nalType : NalType) (t : Nat) (frame : List UInt8) : List (List UInt8) :=
  (match nalType with
    | .sps => [headerBytes (psHeaderFields t), headerBytes sysHeaderFields,
        headerBytes psmHeaderFields]
    | .pframe => [headerBytes (psHeaderFields t)]
    | _ => []) ++ (chunks psPesPayloadSize frame).map (pesPacketBytes t)

theorem muxPieces_flatten {nalType : NalType} (muxed : nalType.muxed = true) (t : Nat)
    (frame : List UInt8) : (muxPieces nalType t frame).flatten = muxBytes nalType t frame := by
  rw [muxBytes, if_pos muxed, pesBytes, List.flatMap_def]
  cases nalType <;> simp [muxPieces, packHeaders]

theorem muxPieces_decodes (nalType : NalType) (t : Nat) (small : t < 2 ^ 33)
    (frame : List UInt8) :
    List.Forall₂ Decodes (muxPieces nalType t frame)
      (headerUnits nalType t ++ (chunks psPesPayloadSize frame).map (segmentUnit t)) := by
  have packets : List.Forall₂ Decodes ((chunks psPesPayloadSize frame).map (pesPacketBytes t))
      ((chunks psPesPayloadSize frame).map (segmentUnit t)) := by
    rw [List.forall₂_map_left_iff, List.forall₂_map_right_iff, List.forall₂_same]
    intro segment member
    exact decodes_segment t small (length_of_mem_chunks member).2
  cases nalType with
  | sps => exact .cons (decodes_pack t small) (.cons decodes_system (.cons decodes_map packets))
  | pframe => exact .cons (decodes_pack t small) packets
  | idr | pps | sei | vps | seiPrefix | seiSuffix | other => exact packets

/-- A header function writes no further than its header reaches. -/
theorem makeHeader_behind {fields : Fields} {headerLen : Nat}
    (whole : (fieldBits fields).length = 8 * headerLen) (memory : Mem UInt8) (start : Nat)
    {offset : Nat} (behind : start + headerLen ≤ offset) :
    makeHeader fields headerLen memory start offset = memory offset := by
  have here : (BitsBuffer.mk start 0x80 (memset memory start 0 headerLen)).At (8 * start) :=
    ⟨by simp, by simp⟩
  rw [makeHeader, (writeFields_wrote here fields).outside offset (.inr (by omega))]
  show memset memory start 0 headerLen offset = memory offset
  exact memcpy_outside (.inr behind)

theorem makePsHeader_behind (t : Nat) (memory : Mem UInt8) (start : Nat) {offset : Nat}
    (behind : start + psHdrLen ≤ offset) : makePsHeader t memory start offset = memory offset :=
  makeHeader_behind rfl memory start behind

theorem makeSysHeader_behind (memory : Mem UInt8) (start : Nat) {offset : Nat}
    (behind : start + sysHdrLen ≤ offset) :
    makeSysHeader memory start offset = memory offset := by
  have whole : (fieldBits sysHeaderFields).length = 8 * sysHdrLen := by
    simp [fieldBits, sysHeaderFields, sysHdrLen]
  exact makeHeader_behind whole memory start behind

theorem makePsmHeader_behind (memory : Mem UInt8) (start : Nat) {offset : Nat}
    (behind : start + psmHdrLen ≤ offset) :
    makePsmHeader memory start offset = memory offset := by
  have whole : (fieldBits psmHeaderFields).length = 8 * psmHdrLen := by
    simp [fieldBits, psmHeaderFields, psmHdrLen]
  exact makeHeader_behind whole memory start behind

theorem addPesLoop_behind {pH264RawData : Mem UInt8} {t rounds iDataPos iLeftFrameLen : Nat}
    {muxed after : Muxed}
    (ran : addPesLoop pH264RawData t rounds iDataPos iLeftFrameLen muxed = some after) :
    muxed.iRetPsLen ≤ after.iRetPsLen ∧
      ∀ offset, after.iRetPsLen ≤ offset → after.pOutPsData offset = muxed.pOutPsData offset := by
  induction rounds generalizing iDataPos iLeftFrameLen muxed with
  | zero =>
    cases ran
    exact ⟨Nat.le_refl _, fun _ _ => rfl⟩
  | succ rounds ih =>
    rw [addPesLoop] at ran
    split at ran
    · generalize (if iLeftFrameLen > psPesPayloadSize then psPesPayloadSize
        else iLeftFrameLen) = nSize at ran
      dsimp only at ran
      split at ran
      · cases ran
      · obtain ⟨further, kept⟩ := ih ran
        refine ⟨Nat.le_trans (by dsimp only; omega) further, ?_⟩
        intro offset behind
        have reached := Nat.le_trans further behind
        rw [kept offset behind]
        dsimp only at reached ⊢
        rw [memcpy_outside (.inr (by omega)), memcpy_outside (.inr (by omega))]
    · cases ran
      exact ⟨Nat.le_refl _, fun _ _ => rfl⟩

theorem h264PsMux_behind {pH264RawData pOutPsData : Mem UInt8} {n : Nat} {nalType : NalType}
    {t : Nat} {after : Muxed} (ran : h264PsMux pH264RawData n nalType t pOutPsData = some after)
    {offset : Nat} (behind : after.iRetPsLen ≤ offset) :
    after.pOutPsData offset = pOutPsData offset := by
  cases nalType with
  | sps =>
    obtain ⟨further, kept⟩ := addPesLoop_behind ran
    have reached := Nat.le_trans further behind
    refine (kept offset behind).trans ?_
    dsimp only at reached ⊢
    rw [makePsmHeader_behind _ _ (by omega), makeSysHeader_behind _ _ (by omega),
      makePsHeader_behind _ _ _ (by omega)]
  | pframe =>
    obtain ⟨further, kept⟩ := addPesLoop_behind ran
    have reached := Nat.le_trans further behind
    refine (kept offset behind).trans ?_
    dsimp only at reached ⊢
    rw [makePsHeader_behind _ _ _ (by omega)]
  | pps | idr => exact (addPesLoop_behind ran).2 offset behind
  | sei | vps | seiPrefix | seiSuffix | other =>
    cases ran
    rfl

/-- The output of the multiplexer is the program stream of the frame, and the returned length
is that of what it wrote, as far as an `int` counts it. -/
theorem h264PsMux_decodes (pH264RawData pOutPsData : Mem UInt8) (n : Nat) {nalType : NalType}
    (muxed : nalType.muxed = true) {t : Nat} (small : t < 2 ^ 33)
    (counted : muxLen nalType n ≤ intMax) :
    ∃ after units, h264PsMux pH264RawData n nalType t pOutPsData = some after ∧
      decodeStream (window after.pOutPsData 0 after.iRetPsLen) = some units ∧
      FrameUnits nalType t (window pH264RawData 0 n) units ∧
      (units.map PsUnit.size).sum = after.iRetPsLen ∧
      ∀ offset, after.iRetPsLen ≤ offset → after.pOutPsData offset = pOutPsData offset := by
  have size := length_window pH264RawData 0 n
  have fills := h264PsMux_fills nalType t pOutPsData (holds_window pH264RawData 0 n)
  have total := length_muxBytes nalType t (window pH264RawData 0 n)
  rw [size] at fills total
  cases ran : h264PsMux pH264RawData n nalType t pOutPsData with
  | none =>
    rw [ran, Fills] at fills
    omega
  | some after =>
    rw [ran] at fills
    obtain ⟨⟨length, holds⟩, -⟩ := fills
    generalize window pH264RawData 0 n = frame at length holds size ⊢
    have output := holds.window_eq
    rw [← length, ← muxPieces_flatten muxed] at output
    have decodes := muxPieces_decodes nalType t small frame
    refine ⟨after, _, rfl, by rw [output]; exact decodeStream_pieces decodes, ⟨?_, ?_⟩, ?_, ?_⟩
    · cases nalType <;> rfl
    · refine ⟨_, rfl, ?_, ?_, flatten_chunks (by decide) frame⟩
      · exact length_chunks (by decide) frame
      · intro segment member
        have fits := (length_of_mem_chunks member).2
        rw [psPesPayloadSize] at fits
        omega
    · rw [sizes_of_decodes decodes, length, ← muxPieces_flatten muxed]
    · exact fun _ behind => h264PsMux_behind ran behind

/-- One byte of a sequence parameter set. -/
theorem h264PsMux_decodes_byte : ∃ after units,
    h264PsMux (fun _ => 0x67) 1 .sps 3600 (fun _ => 0) = some after ∧
      decodeStream (window after.pOutPsData 0 after.iRetPsLen) = some units ∧
      FrameUnits .sps 3600 [0x67] units ∧ (units.map PsUnit.size).sum = after.iRetPsLen ∧
      ∀ offset, after.iRetPsLen ≤ offset → after.pOutPsData offset = 0 :=
  h264PsMux_decodes (fun _ => 0x67) (fun _ => 0) 1 rfl (by decide) (by decide)

/-- Two gigabytes of a sequence parameter set, with a header every 65522 bytes. -/
theorem h264PsMux_overflows :
    ¬ ∀ (pH264RawData pOutPsData : Mem UInt8) (n : Nat) (nalType : NalType) (t : Nat),
      1 ≤ n → n ≤ intMax → nalType.muxed = true → t < 2 ^ 33 →
      ∃ after, h264PsMux pH264RawData n nalType t pOutPsData = some after := by
  intro returns
  obtain ⟨after, ran⟩ := returns (fun _ => 0x67) (fun _ => 0) 2146861100 .sps 3600 (by decide)
    (by decide) rfl (by decide)
  have length := h264PsMux_length (fun _ => 0x67) (fun _ => 0) 2146861100 .sps 3600
  have beyond : ¬ muxLen .sps 2146861100 ≤ intMax := by decide
  rw [ran, if_neg beyond] at length
  cases length

end Gb28181.Psmux
