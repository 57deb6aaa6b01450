import Gb28181.Psmux.H264PsMux
import Gb28181.StreamPuller.ProgramStream
import Mathlib.Tactic.IntervalCases

namespace Gb28181.PushPull

open Gb28181.Lib Gb28181.Psmux Gb28181.StreamPuller

def special (memory : Mem UInt8) (position : Nat) : Bool :=
  psHeaderCode memory position || pesCode memory position

/-- The stream ids of these start codes. -/
def specialIds : List UInt8 := [0xBA, 0xBB, 0xBC, 0xE0]

/-- A frame of an H.264 byte stream: a start code and one NAL unit. -/
structure NalFrame where
  nal : List UInt8
  noStartCode : ¬ [0x00, 0x00, 0x01] <:+: nal
  noZeros : ¬ [0x00, 0x00, 0x00] <:+: nal
  ended : ∃ last, nal.getLast? = some last ∧ last ≠ 0x00

def NalFrame.bytes (frame : NalFrame) : List UInt8 := [0x00, 0x00, 0x00, 0x01] ++ frame.nal

/-- The pieces a frame is multiplexed into. -/
def headerPieces (nalType : NalType) (s64Scr : Nat) : List (List UInt8) :=
  match nalType with
  | .sps => [headerBytes (psHeaderFields s64Scr), headerBytes sysHeaderFields,
      headerBytes psmHeaderFields]
  | .pframe => [headerBytes (psHeaderFields s64Scr)]
  | _ => []

def pesPieces (s64Scr : Nat) (frame : List UInt8) : List (List UInt8) :=
  (chunks psPesPayloadSize frame).map (pesPacketBytes s64Scr)

/-- Nothing inside a piece, behind its own start code, reads as a start code. -/
def Quiet (memory : Mem UInt8) : Nat → List (List UInt8) → Prop
  | _, [] => True
  | position, piece :: pieces =>
    (∀ place, position < place → place < position + piece.length → special memory place = false) ∧
      Quiet memory (position + piece.length) pieces

variable {memory : Mem UInt8} {position s64Scr : Nat} {segment : List UInt8}

theorem codePrefix_of_special (found : special memory position = true) :
    codePrefix memory position = true ∧ memory (position + 3) ∈ specialIds := by
  simp only [special, psHeaderCode, pesCode, startCode, Bool.or_eq_true, Bool.and_eq_true,
    beq_iff_eq] at found
  simp only [codePrefix, Bool.and_eq_true, beq_iff_eq, specialIds, List.mem_cons, List.not_mem_nil,
    or_false]
  tauto

theorem special_of_codePrefix (clear : codePrefix memory position = false) :
    special memory position = false := by
  cases found : special memory position with
  | false => rfl
  | true => simp [(codePrefix_of_special found).1] at clear

theorem quiet_append {front back : List (List UInt8)} :
    Quiet memory position (front ++ back) ↔
      Quiet memory position front ∧ Quiet memory (position + front.flatten.length) back := by
  induction front generalizing position with
  | nil => simp [Quiet]
  | cons piece front ih => simp [Quiet, ih, and_assoc, Nat.add_assoc]

theorem psHeader_silent (held : Holds memory position (headerBytes (psHeaderFields s64Scr)))
    (place : Nat) (low : position < place) (high : place < position + 14) :
    special memory place = false := by
  obtain ⟨c0, c1, c2, c3, c4, c5, n0, n2, n4, n5, bytes⟩ := psHeaderBytes s64Scr
  rw [bytes] at held
  simp only [holds_cons, Nat.add_assoc, Nat.reduceAdd] at held
  obtain ⟨_, b1, b2, b3, b4, b5, b6, b7, b8, b9, b10, b11, b12, b13, _⟩ := held
  obtain ⟨offset, rfl⟩ := Nat.exists_eq_add_of_lt low
  apply special_of_codePrefix
  have small : offset < 13 := by omega
  interval_cases offset <;>
    simp [codePrefix, Nat.add_assoc, b1, b2, b3, b4, b6, b8, b9, b11, b12, b13, n0, n2, n4, n5]

theorem sysHeader_silent (held : Holds memory position (headerBytes sysHeaderFields))
    (followed : memory (position + 19) = 0x00) (place : Nat) (low : position < place)
    (high : place < position + 18) : special memory place = false := by
  rw [sysHeaderBytes] at held
  simp only [holds_cons, Nat.add_assoc, Nat.reduceAdd] at held
  obtain ⟨_, b1, b2, b3, b4, b5, b6, b7, b8, b9, b10, b11, b12, b13, b14, b15, b16, b17, _⟩ := held
  obtain ⟨offset, rfl⟩ := Nat.exists_eq_add_of_lt low
  apply special_of_codePrefix
  have small : offset < 17 := by omega
  interval_cases offset <;>
    simp [codePrefix, Nat.add_assoc, b1, b2, b3, b5, b6, b7, b8, b9, b10, b11, b12, b13, b15, b16,
      followed]

theorem psmHeader_silent (held : Holds memory position (headerBytes psmHeaderFields))
    (place : Nat) (low : position < place) (high : place < position + 24) :
    special memory place = false := by
  rw [psmHeaderBytes] at held
  simp only [holds_cons, Nat.add_assoc, Nat.reduceAdd] at held
  obtain ⟨_, b1, b2, b3, b4, b5, b6, b7, b8, b9, b10, b11, b12, b13, b14, b15, b16, b17, b18, b19,
    b20, b21, b22, b23, _⟩ := held
  obtain ⟨offset, rfl⟩ := Nat.exists_eq_add_of_lt low
  apply special_of_codePrefix
  have small : offset < 23 := by omega
  interval_cases offset <;>
    simp [codePrefix, Nat.add_assoc, b1, b2, b3, b5, b6, b7, b10, b11, b12, b13, b16, b17, b20,
      b21, b22, b23]

/-- Every `00 00 01` in a segment is followed, in the segment, by an id nobody looks for. -/
def PlainSegment (segment : List UInt8) : Prop :=
  ∀ index : Nat, segment[index]? = some 0x00 → segment[index + 1]? = some 0x00 →
    segment[index + 2]? = some 0x01 → ∃ streamId, segment[index + 3]? = some streamId ∧
      streamId ∉ specialIds

/-- No start code can begin in a segment and end behind it. -/
def Closed (memory : Mem UInt8) (position : Nat) (segment : List UInt8) : Prop :=
  segment.getLast? ≠ some 0x00 ∨ memory (position + segment.length + 1) = 0x00 ∧
    memory (position + segment.length) = 0x00

theorem segment_silent (held : Holds memory position segment) (plain : PlainSegment segment)
    (closed : Closed memory position segment) (place : Nat) (low : position ≤ place)
    (high : place < position + segment.length) : special memory place = false := by
  by_contra found
  obtain ⟨code, streamId⟩ := codePrefix_of_special (by simpa using found)
  simp only [codePrefix, Bool.and_eq_true, beq_iff_eq] at code
  obtain ⟨⟨b0, b1⟩, b2⟩ := code
  obtain ⟨index, rfl⟩ := Nat.exists_eq_add_of_le low
  have inside : index < segment.length := by omega
  have first := held.get? inside
  rw [b0] at first
  by_cases more : index + 1 < segment.length
  · have second := held.get? more
    rw [← Nat.add_assoc, b1] at second
    by_cases most : index + 2 < segment.length
    · have third := held.get? most
      rw [← Nat.add_assoc, b2] at third
      obtain ⟨found, fourth, other⟩ := plain index first second third
      have inside' : index + 3 < segment.length := (List.getElem?_eq_some_iff.mp fourth).1
      rw [held.get? inside', Option.some.injEq] at fourth
      exact other (fourth ▸ streamId)
    · -- the second zero is the last byte
      rcases closed with last | ⟨_, next⟩
      · rw [List.getLast?_eq_getElem?, show segment.length - 1 = index + 1 by omega] at last
        exact last second
      · rw [show position + segment.length = position + index + 2 by omega, b2] at next
        cases next
  · -- the first zero is the last byte
    rcases closed with last | ⟨next, _⟩
    · rw [List.getLast?_eq_getElem?, show segment.length - 1 = index by omega] at last
      exact last first
    · rw [show position + segment.length + 1 = position + index + 2 by omega, b2] at next
      cases next

theorem pesPacket_silent (held : Holds memory position (pesPacketBytes s64Scr segment))
    (plain : PlainSegment segment) (closed : Closed memory (position + 19) segment) (place : Nat)
    (low : position < place) (high : place < position + (pesPacketBytes s64Scr segment).length) :
    special memory place = false := by
  obtain ⟨header, payload⟩ := holds_append.mp held
  have headerLength := length_pesHeader segment.length s64Scr
  have total : (pesPacketBytes s64Scr segment).length = 19 + segment.length := by
    rw [pesPacketBytes, List.length_append, headerLength]
    rfl
  rw [headerLength, show pesHdrLen = 19 from rfl] at payload
  by_cases behind : position + 19 ≤ place
  · exact segment_silent payload plain closed place behind (by omega)
  · obtain ⟨t0, t1, t2, t3, t4, n0, n2, n4, pts⟩ := timeStampBytes 3 s64Scr rfl
    obtain ⟨d0, d1, d2, d3, d4, m0, m2, m4, dts⟩ := timeStampBytes 1 s64Scr rfl
    rw [pesHeaderBytes, pts, dts] at header
    simp only [List.cons_append, List.nil_append, holds_cons, Nat.add_assoc,
      Nat.reduceAdd] at header
    obtain ⟨_, b1, b2, b3, b4, b5, b6, b7, b8, b9, b10, b11, b12, b13, b14, b15, b16, b17, b18,
      _⟩ := header
    obtain ⟨offset, rfl⟩ := Nat.exists_eq_add_of_lt low
    apply special_of_codePrefix
    have small : offset < 18 := by omega
    interval_cases offset <;>
      simp [codePrefix, Nat.add_assoc, b2, b3, b6, b7, b8, b9, b11, b13, b14, b16, b18, n0, n2, n4,
        m0, m2, m4]

def NalFrame.type (frame : NalFrame) : NalType := getH264NALtype (frame.nal.headD 0x00)

/-- The first byte of a multiplexed NAL unit is no stream id the puller looks for. -/
theorem not_special_of_muxed {first : UInt8} (muxed : (getH264NALtype first).muxed = true) :
    first ∉ specialIds := by
  intro member
  simp only [specialIds, List.mem_cons, List.not_mem_nil, or_false] at member
  rcases member with rfl | rfl | rfl | rfl <;> revert muxed <;> decide

private theorem infix_of_getElem? {cells : List UInt8} {index : Nat} {first second third : UInt8}
    (one : cells[index]? = some first) (two : cells[index + 1]? = some second)
    (three : cells[index + 2]? = some third) : [first, second, third] <:+: cells := by
  induction cells generalizing index with
  | nil => simp at one
  | cons cell cells ih =>
    cases index with
    | zero =>
      obtain _ | ⟨second', _ | ⟨third', rest⟩⟩ := cells <;> simp at one two three
      subst one two three
      exact ⟨[], rest, rfl⟩
    | succ index => exact List.infix_cons (ih one two three)

theorem plainSegment_of_noStartCode {segment : List UInt8}
    (none : ¬ [0x00, 0x00, 0x01] <:+: segment) : PlainSegment segment :=
  fun _ first second third => absurd (infix_of_getElem? first second third) none

variable {frame : NalFrame}

theorem NalFrame.nal_ne_nil (frame : NalFrame) : frame.nal ≠ [] := by
  obtain ⟨last, ended, _⟩ := frame.ended
  intro empty
  simp [empty] at ended

/-- The first segment of a frame holds its own start code and the type byte behind it. -/
private theorem plain_first (muxed : frame.type.muxed = true) (rest : Nat) :
    PlainSegment ([0x00, 0x00, 0x00, 0x01] ++ frame.nal.take (rest + 1)) := by
  intro index first second third
  obtain ⟨type, others, nal⟩ := List.exists_cons_of_ne_nil frame.nal_ne_nil
  have plain : type ∉ specialIds := by
    rw [NalFrame.type, nal] at muxed
    exact not_special_of_muxed muxed
  match index with
  | 0 => simp at third
  | 1 => exact ⟨type, by simp [nal], plain⟩
  | 2 => simp at second
  | 3 => simp at first
  | index + 4 =>
    have inside : [0x00, 0x00, 0x01] <:+: frame.nal.take (rest + 1) :=
      infix_of_getElem? first second third
    exact absurd (inside.trans (List.take_prefix _ _).isInfix) frame.noStartCode

theorem plain_of_mem_chunks (muxed : frame.type.muxed = true)
    (member : segment ∈ chunks psPesPayloadSize frame.bytes) : PlainSegment segment := by
  rcases infix_of_mem_chunks member with rfl | inside
  · exact plain_first muxed 65517
  · have left : frame.bytes.drop psPesPayloadSize = frame.nal.drop 65518 := by
      simp [NalFrame.bytes, psPesPayloadSize]
    rw [left] at inside
    refine plainSegment_of_noStartCode fun found => frame.noStartCode ?_
    exact found.trans (inside.trans (List.drop_suffix _ _).isInfix)

theorem NalFrame.getLast?_bytes (frame : NalFrame) : frame.bytes.getLast? ≠ some 0x00 := by
  obtain ⟨last, ended, nonzero⟩ := frame.ended
  rw [NalFrame.bytes, List.getLast?_append_of_ne_nil _ frame.nal_ne_nil, ended]
  simpa using nonzero

theorem pes_quiet {segments : List (List UInt8)}
    (held : Holds memory position (segments.flatMap (pesPacketBytes s64Scr)))
    (plain : ∀ segment ∈ segments, PlainSegment segment)
    (filled : ∀ segment ∈ segments, segment ≠ [])
    (ended : segments.flatten.getLast? ≠ some 0x00) :
    Quiet memory position (segments.map (pesPacketBytes s64Scr)) := by
  induction segments generalizing position with
  | nil => trivial
  | cons segment segments ih =>
    rw [List.flatMap_cons] at held
    obtain ⟨here, further⟩ := holds_append.mp held
    have length : (pesPacketBytes s64Scr segment).length = 19 + segment.length := by
      rw [pesPacketBytes, List.length_append, length_pesHeader]
      rfl
    have plainRest : ∀ segment ∈ segments, PlainSegment segment :=
      fun segment member => plain segment (List.mem_cons_of_mem _ member)
    have filledRest : ∀ segment ∈ segments, segment ≠ [] :=
      fun segment member => filled segment (List.mem_cons_of_mem _ member)
    have closed : Closed memory (position + 19) segment ∧
        segments.flatten.getLast? ≠ some 0x00 := by
      cases segments with
      | nil => exact ⟨.inl (by simpa using ended), by simp⟩
      | cons next segments =>
        have nextFilled := filledRest next (List.mem_cons_self ..)
        refine ⟨.inr ?_, ?_⟩
        · rw [List.flatMap_cons, length, ← Nat.add_assoc] at further
          have opening := (holds_append.mp further).1
          rw [pesPacketBytes, pesHeaderBytes] at opening
          simp only [List.cons_append, holds_cons] at opening
          exact ⟨opening.2.1, opening.1⟩
        · rwa [List.flatten_cons, List.getLast?_append_of_ne_nil] at ended
          simp [nextFilled]
    refine ⟨?_, ih further plainRest filledRest closed.2⟩
    exact pesPacket_silent here (plain segment (List.mem_cons_self ..)) closed.1

/-- The packets of a frame are quiet, whatever follows them. -/
theorem pesPieces_quiet (muxed : frame.type.muxed = true)
    (held : Holds memory position (pesBytes s64Scr frame.bytes)) :
    Quiet memory position (pesPieces s64Scr frame.bytes) := by
  apply pes_quiet held
  · exact fun segment member => plain_of_mem_chunks muxed member
  · intro segment member
    exact List.length_pos_iff.mp (length_of_mem_chunks member).1
  · rw [flatten_chunks (by decide)]
    exact frame.getLast?_bytes

theorem flatten_headerPieces (nalType : NalType) :
    (headerPieces nalType s64Scr).flatten = packHeaders nalType s64Scr := by
  cases nalType <;> simp [headerPieces, packHeaders]

theorem headerPieces_quiet {nalType : NalType}
    (held : Holds memory position (packHeaders nalType s64Scr)) :
    Quiet memory position (headerPieces nalType s64Scr) := by
  have psLength := length_psHeader s64Scr
  have sysLength : (headerBytes sysHeaderFields).length = 18 := congrArg List.length sysHeaderBytes
  have psmLength : (headerBytes psmHeaderFields).length = 24 := congrArg List.length psmHeaderBytes
  rw [show psHdrLen = 14 from rfl] at psLength
  cases nalType with
  | sps =>
    obtain ⟨front, psm⟩ := holds_append.mp held
    obtain ⟨ps, sys⟩ := holds_append.mp front
    rw [List.length_append, psLength, sysLength] at psm
    rw [psLength] at sys
    have next : memory (position + 14 + 19) = 0x00 := by
      rw [psmHeaderBytes] at psm
      exact psm.2.1
    refine ⟨?_, ?_, ?_, trivial⟩
    · rw [psLength]
      exact psHeader_silent ps
    · rw [psLength, sysLength]
      exact sysHeader_silent sys next
    · rw [psLength, sysLength, psmLength, Nat.add_assoc]
      exact psmHeader_silent psm
  | pframe =>
    refine ⟨?_, trivial⟩
    rw [psLength]
    exact psHeader_silent held
  | pps | idr | sei | vps | seiPrefix | seiSuffix | other => trivial

end Gb28181.PushPull
