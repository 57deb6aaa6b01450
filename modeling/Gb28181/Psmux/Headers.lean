import Gb28181.Psmux.BitsWrite

namespace Gb28181.Psmux

open Gb28181.Lib

def psHdrLen : Nat := 14
def sysHdrLen : Nat := 18
def psmHdrLen : Nat := 24
def pesHdrLen : Nat := 19

/-- The fields of `gb28181_make_ps_header`. -/
def psHeaderFields (s64Scr : Nat) : Fields :=
  let lScrExt := s64Scr % 100
  let s64Scr := s64Scr / 100
  [(32, 0x000001BA), (2, 1), (3, s64Scr >>> 30 &&& 0x07), (1, 1), (15, s64Scr >>> 15 &&& 0x7FFF),
    (1, 1), (15, s64Scr &&& 0x7FFF), (1, 1), (9, lScrExt &&& 0x01FF), (1, 1),
    (22, 255 &&& 0x3FFFFF), (2, 3), (5, 0x1F), (3, 0)]

/-- The fields of `gb28181_make_sys_header`. -/
def sysHeaderFields : Fields :=
  [(32, 0x000001BB), (16, sysHdrLen - 6), (1, 1), (22, 50000), (1, 1), (6, 1), (1, 0), (1, 1),
    (1, 1), (1, 1), (1, 1), (5, 1), (1, 0), (7, 0x7F), (8, 0xC0), (2, 3), (1, 0), (13, 512),
    (8, 0xE0), (2, 3), (1, 1), (13, 2048)]

/-- The fields of `gb28181_make_psm_header`. -/
def psmHeaderFields : Fields :=
  [(24, 0x000001), (8, 0xBC), (16, 18), (1, 1), (2, 3), (5, 0), (7, 0x7F), (1, 1), (16, 0),
    (16, 8), (8, 0x90), (8, 0xC0), (16, 0), (8, 0x1B), (8, 0xE0), (16, 0), (8, 0x45), (8, 0xBD),
    (8, 0xDC), (8, 0xF4)]

/-- The 40 bits of a time stamp: a marker behind each of its three parts. -/
def timeStampFields (mark time : Nat) : Fields :=
  [(4, mark), (3, time >>> 30 &&& 0x07), (1, 1), (15, time >>> 15 &&& 0x7FFF), (1, 1),
    (15, time &&& 0x7FFF), (1, 1)]

/-- The two flag bytes of a PES header and the length of its time stamps. -/
def pesFlagFields : Fields :=
  [(2, 2), (2, 0), (1, 0), (1, 0), (1, 0), (1, 0), (1, 1), (1, 1), (1, 0), (1, 0), (1, 0), (1, 0),
    (1, 0), (1, 0), (8, 10)]

/-- The fields of `gb28181_make_pes_header`. -/
def pesHeaderFields (streamId payloadLen pts dts : Nat) : Fields :=
  [(24, 0x000001), (8, streamId), (16, payloadLen + 13)] ++ pesFlagFields ++
    timeStampFields 3 pts ++ timeStampFields 1 dts

def makePsHeader (s64Scr : Nat) : Mem UInt8 → Nat → Mem UInt8 :=
  makeHeader (psHeaderFields s64Scr) psHdrLen

def makeSysHeader : Mem UInt8 → Nat → Mem UInt8 := makeHeader sysHeaderFields sysHdrLen

def makePsmHeader : Mem UInt8 → Nat → Mem UInt8 := makeHeader psmHeaderFields psmHdrLen

def makePesHeader (streamId payloadLen pts dts : Nat) : Mem UInt8 → Nat → Mem UInt8 :=
  makeHeader (pesHeaderFields streamId payloadLen pts dts) pesHdrLen

theorem fieldBits_append (front back : Fields) :
    fieldBits (front ++ back) = fieldBits front ++ fieldBits back := by
  simp [fieldBits]

theorem headerBytes_append (count : Nat) {front back : Fields}
    (whole : (fieldBits front).length = 8 * count) :
    headerBytes (front ++ back) = headerBytes front ++ headerBytes back := by
  rw [headerBytes, fieldBits_append, packBytes_append count whole]
  rfl

theorem sysHeaderBytes : headerBytes sysHeaderFields =
    [0x00, 0x00, 0x01, 0xBB, 0x00, 0x0C, 0x81, 0x86, 0xA1, 0x05, 0xE1, 0x7F, 0xC0, 0xC2, 0x00,
      0xE0, 0xE8, 0x00] := by
  decide +kernel

theorem psmHeaderBytes : headerBytes psmHeaderFields =
    [0x00, 0x00, 0x01, 0xBC, 0x00, 0x12, 0xE0, 0xFF, 0x00, 0x00, 0x00, 0x08, 0x90, 0xC0, 0x00,
      0x00, 0x1B, 0xE0, 0x00, 0x00, 0x45, 0xBD, 0xDC, 0xF4] := by
  decide +kernel

/-- The clock bytes of the pack header; markers keep every second one from being zero. -/
theorem psHeaderBytes (s64Scr : Nat) : ∃ c0 c1 c2 c3 c4 c5 : UInt8,
    c0 ≠ 0 ∧ c2 ≠ 0 ∧ c4 ≠ 0 ∧ c5 ≠ 0 ∧
      headerBytes (psHeaderFields s64Scr) =
        [0x00, 0x00, 0x01, 0xBA, c0, c1, c2, c3, c4, c5, 0x00, 0x03, 0xFF, 0xF8] := by
  refine ⟨_, _, _, _, _, _, ?_, ?_, ?_, ?_, rfl⟩
  all_goals
    apply byteOf_ne_zero rfl
    simp

/-- The bytes of a time stamp; markers keep every second one from being zero. -/
theorem timeStampBytes (mark time : Nat) (marked : mark.testBit 0 = true) : ∃ t0 t1 t2 t3 t4 : UInt8,
    t0 ≠ 0 ∧ t2 ≠ 0 ∧ t4 ≠ 0 ∧ headerBytes (timeStampFields mark time) = [t0, t1, t2, t3, t4] := by
  refine ⟨_, _, _, _, _, ?_, ?_, ?_, rfl⟩
  all_goals
    apply byteOf_ne_zero rfl
    simp [marked]

theorem pesHeaderBytes (streamId payloadLen pts dts : Nat) :
    headerBytes (pesHeaderFields streamId payloadLen pts dts) =
      [0x00, 0x00, 0x01, UInt8.ofNat streamId, UInt8.ofNat ((payloadLen + 13) / 256),
        UInt8.ofNat (payloadLen + 13), 0x80, 0xC0, 0x0A] ++
        headerBytes (timeStampFields 3 pts) ++ headerBytes (timeStampFields 1 dts) := by
  have start : headerBytes [(24, 0x000001)] = [0x00, 0x00, 0x01] := by decide
  have flags : headerBytes pesFlagFields = [0x80, 0xC0, 0x0A] := by decide
  have id : headerBytes [(8, streamId)] = [UInt8.ofNat streamId] := by
    simpa [headerBytes, fieldBits] using packBytes_byte streamId
  have length : headerBytes [(16, payloadLen + 13)] =
      [UInt8.ofNat ((payloadLen + 13) / 256), UInt8.ofNat (payloadLen + 13)] := by
    simpa [headerBytes, fieldBits] using packBytes_two (payloadLen + 13)
  rw [pesHeaderFields, headerBytes_append 14 (by rfl),
    headerBytes_append 9 (by rfl), headerBytes_append 6 (by rfl), flags]
  rw [show [(24, 0x000001), (8, streamId), (16, payloadLen + 13)] =
      [(24, 0x000001)] ++ ([(8, streamId)] ++ [(16, payloadLen + 13)]) from rfl,
    headerBytes_append 3 (by rfl), headerBytes_append 1 (by rfl), start, id,
    length]
  simp

end Gb28181.Psmux
