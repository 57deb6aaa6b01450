import Gb28181.Lib.Memory

/-! `CGB28181StreamPuller::cutPsHeader`: the scan that takes the elementary
stream out of a collected program stream frame. -/

namespace Gb28181.StreamPuller

open Gb28181.Lib

/-- `RTP_RECV_BUFF_MAX_LEN`, the size of both buffers of a puller. -/
def rtpRecvBuffMaxLen : Int := 1024 * 1024

/-- `00 00 01` followed by a stream id. -/
def startCode (pInData : Mem UInt8) (i : Nat) (streamId : UInt8) : Bool :=
  pInData i == 0x00 && pInData (i + 1) == 0x00 && pInData (i + 2) == 0x01 &&
    pInData (i + 3) == streamId

/-- The start codes of the pack header, the system header and the stream map. -/
def psHeaderCode (pInData : Mem UInt8) (i : Nat) : Bool :=
  startCode pInData i 0xBA || startCode pInData i 0xBB || startCode pInData i 0xBC

def pesCode (pInData : Mem UInt8) (i : Nat) : Bool := startCode pInData i 0xE0

def usPesLen (pInData : Mem UInt8) (i : Nat) : Nat :=
  (pInData (i + 4)).toNat * 256 + (pInData (i + 5)).toNat

def ucHeadLen (pInData : Mem UInt8) (i : Nat) : Nat := (pInData (i + 8)).toNat

def iDataPos (pInData : Mem UInt8) (i : Nat) : Int := i + 9 + ucHeadLen pInData i

def iDataLen (pInData : Mem UInt8) (i : Nat) : Int :=
  usPesLen pInData i - 2 - 1 - ucHeadLen pInData i

/-- "copy buff error": the data of the packet do not start or end in the frame. -/
def copyBuffError (pInData : Mem UInt8) (iSrcLen i : Nat) : Bool :=
  iDataPos pInData i < 0 || iDataPos pInData i > iSrcLen ||
    iDataLen pInData i < 0 || iDataLen pInData i > iSrcLen

/-- "out of range": the raw buffer has no room for the data of the packet. -/
def outOfRange (pInData : Mem UInt8) (iSrcLen i iRawDataLen : Nat) : Bool :=
  iRawDataLen + iDataLen pInData i > iSrcLen ||
    iRawDataLen + iDataLen pInData i > rtpRecvBuffMaxLen

/-- What the scan does with a packet it finds: the copied range, or the error
that ends the scan. -/
inductive PesRead where
  | copied (i dataPos dataLen : Nat)
  | rejected (i : Nat)
  deriving DecidableEq, Repr

/-- The position of the packet a read is about. -/
def PesRead.position : PesRead → Nat
  | .copied i _ _ => i
  | .rejected i => i

/-- The loop of `cutPsHeader`. Every round moves `i` on, so `iInLen` rounds are enough. -/
def cutLoop (pInData : Mem UInt8) (iInLen : Nat) : Nat → Nat → Nat → List PesRead
  | 0, _, _ => []
  | rounds + 1, i, iRawDataLen =>
    if i + 4 < iInLen then
      if psHeaderCode pInData i then
        cutLoop pInData iInLen rounds (i + 4 + 1) iRawDataLen
      else if pesCode pInData i then
        if copyBuffError pInData iInLen i || outOfRange pInData iInLen i iRawDataLen then
          [.rejected i]
        else
          .copied i (iDataPos pInData i).toNat (iDataLen pInData i).toNat ::
            cutLoop pInData iInLen rounds (i + (iDataLen pInData i).toNat + 1)
              (iRawDataLen + (iDataLen pInData i).toNat)
      else cutLoop pInData iInLen rounds (i + 1) iRawDataLen
    else []

/-- The packets found from offset `i` on. -/
def cutReads (pInData : Mem UInt8) (iInLen i iRawDataLen : Nat) : List PesRead :=
  cutLoop pInData iInLen (iInLen - i) i iRawDataLen

/-- The bytes one read puts into the raw buffer. -/
def PesRead.bytes (pInData : Mem UInt8) : PesRead → List UInt8
  | .copied _ dataPos dataLen => window pInData dataPos dataLen
  | .rejected _ => []

/-- `m_pRawData` up to `iRawDataLen`, once the loop is left. -/
def rawData (pInData : Mem UInt8) (iInLen : Nat) : List UInt8 :=
  (cutReads pInData iInLen 0 0).flatMap (PesRead.bytes pInData)

/-- What `cutPsHeader` returns and what it hands to the stream callback. -/
structure CutResult where
  value : Int
  delivered : Option (List UInt8)
  deriving DecidableEq, Repr

def cutPsHeader (fnStreamCB : Bool) (pInData : Mem UInt8) (iInLen : Nat) : CutResult :=
  if !fnStreamCB then ⟨-1, none⟩
  else if iInLen ≤ 4 then ⟨0, none⟩
  else
    let raw := rawData pInData iInLen
    ⟨raw.length, if raw.length > 0 then some raw else none⟩

variable {pInData : Mem UInt8} {iInLen i iRawDataLen : Nat}

theorem startCode_iff {streamId : UInt8} :
    startCode pInData i streamId = true ↔ Holds pInData i [0x00, 0x00, 0x01, streamId] := by
  simp [startCode, and_assoc]

theorem cutLoop_rounds {rounds more : Nat} (enough : iInLen - i ≤ rounds)
    (alsoEnough : iInLen - i ≤ more) :
    cutLoop pInData iInLen rounds i iRawDataLen = cutLoop pInData iInLen more i iRawDataLen := by
  induction rounds generalizing more i iRawDataLen with
  | zero =>
    cases more with
    | zero => rfl
    | succ more =>
      have done : ¬ i + 4 < iInLen := by omega
      simp [cutLoop, done]
  | succ rounds ih =>
    cases more with
    | zero =>
      have done : ¬ i + 4 < iInLen := by omega
      simp [cutLoop, done]
    | succ more =>
      simp only [cutLoop]
      rw [@ih (i + 4 + 1) _ more (by omega) (by omega), @ih (i + 1) _ more (by omega) (by omega),
        @ih (i + (iDataLen pInData i).toNat + 1) _ more (by omega) (by omega)]

theorem cutReads_end (done : iInLen ≤ i + 4) : cutReads pInData iInLen i iRawDataLen = [] := by
  have stop : ¬ i + 4 < iInLen := by omega
  rw [cutReads]
  cases iInLen - i <;> simp [cutLoop, stop]

private theorem cutReads_step (inside : i + 4 < iInLen) :
    cutReads pInData iInLen i iRawDataLen =
      cutLoop pInData iInLen (iInLen - i - 1 + 1) i iRawDataLen :=
  cutLoop_rounds (Nat.le_refl _) (by omega)

theorem cutReads_psHeader (inside : i + 4 < iInLen) (header : psHeaderCode pInData i = true) :
    cutReads pInData iInLen i iRawDataLen = cutReads pInData iInLen (i + 4 + 1) iRawDataLen := by
  rw [cutReads_step inside, cutLoop, if_pos inside, if_pos header, cutReads]
  exact cutLoop_rounds (by omega) (Nat.le_refl _)

theorem cutReads_plain (inside : i + 4 < iInLen) (header : psHeaderCode pInData i = false)
    (plain : pesCode pInData i = false) :
    cutReads pInData iInLen i iRawDataLen = cutReads pInData iInLen (i + 1) iRawDataLen := by
  rw [cutReads_step inside, cutLoop, if_pos inside, if_neg (by simp [header]),
    if_neg (by simp [plain]), cutReads]
  exact cutLoop_rounds (by omega) (Nat.le_refl _)

/-- One packet is either the error that ends the scan, or copied and passed. -/
theorem cutReads_pes (inside : i + 4 < iInLen) (header : psHeaderCode pInData i = false)
    (pes : pesCode pInData i = true) :
    cutReads pInData iInLen i iRawDataLen =
      if copyBuffError pInData iInLen i || outOfRange pInData iInLen i iRawDataLen then
        [.rejected i]
      else
        .copied i (iDataPos pInData i).toNat (iDataLen pInData i).toNat ::
          cutReads pInData iInLen (i + (iDataLen pInData i).toNat + 1)
            (iRawDataLen + (iDataLen pInData i).toNat) := by
  rw [cutReads_step inside, cutLoop, if_pos inside, if_neg (by simp [header]), if_pos pes]
  split
  · rfl
  · congr 1
    exact cutLoop_rounds (by omega) (Nat.le_refl _)

/-- A packet is not one of the headers the scan jumps over. -/
theorem psHeaderCode_of_pesCode (pes : pesCode pInData i = true) :
    psHeaderCode pInData i = false := by
  have held := startCode_iff.mp pes
  have streamId : pInData (i + 3) = 0xE0 := held.2.2.2.1
  simp [psHeaderCode, startCode, streamId]

end Gb28181.StreamPuller
