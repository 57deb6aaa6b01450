import Mathlib.Logic.Relation
import Gb28181.StreamPuller.ProgramStream

/-! Which bytes of `m_pPsData` the scan of `cutPsHeader` looks at. Both ends of a
packet are compared with the frame length, the end of its data is not. -/

namespace Gb28181.StreamPuller

open Gb28181.Lib

structure CutState where
  i : Nat
  iRawDataLen : Nat
  deriving DecidableEq, Repr

def cutStart : CutState := ⟨0, 0⟩

/-- One of the two range checks ends the scan at a packet. -/
def CutState.refused (pInData : Mem UInt8) (iInLen : Nat) (state : CutState) : Bool :=
  copyBuffError pInData iInLen state.i || outOfRange pInData iInLen state.i state.iRawDataLen

/-- One round of the loop, or `none` where the loop is left. -/
def CutState.next (pInData : Mem UInt8) (iInLen : Nat) (state : CutState) : Option CutState :=
  if state.i + 4 < iInLen then
    if psHeaderCode pInData state.i then some { state with i := state.i + 4 + 1 }
    else if pesCode pInData state.i then
      if state.refused pInData iInLen then none
      else
        some ⟨state.i + (iDataLen pInData state.i).toNat + 1,
          state.iRawDataLen + (iDataLen pInData state.i).toNat⟩
    else some { state with i := state.i + 1 }
  else none

def CutState.read (pInData : Mem UInt8) (iInLen : Nat) (state : CutState) : Option PesRead :=
  if state.i + 4 < iInLen ∧ pesCode pInData state.i then
    if state.refused pInData iInLen then some (.rejected state.i)
    else some (.copied state.i (iDataPos pInData state.i).toNat (iDataLen pInData state.i).toNat)
  else none

/-- What the comparisons with the start codes read: each of them ends at the first
byte that differs, and they differ in the fourth only. -/
def codeIndices (pInData : Mem UInt8) (i : Nat) : List Nat :=
  if pInData i == 0x00 then
    if pInData (i + 1) == 0x00 then
      if pInData (i + 2) == 0x01 then [i, i + 1, i + 2, i + 3] else [i, i + 1, i + 2]
    else [i, i + 1]
  else [i]

/-- The offsets of `m_pPsData` one round reads. -/
def CutState.indices (pInData : Mem UInt8) (iInLen : Nat) (state : CutState) : List Nat :=
  if state.i + 4 < iInLen then
    if psHeaderCode pInData state.i then codeIndices pInData state.i
    else if pesCode pInData state.i then
      codeIndices pInData state.i ++
        [state.i + 4, state.i + 5, state.i + 6, state.i + 7, state.i + 8] ++
          if state.refused pInData iInLen then []
          else List.range' (iDataPos pInData state.i).toNat (iDataLen pInData state.i).toNat
    else codeIndices pInData state.i
  else []

/-- The rounds of the loop lead from one state to the other. -/
def Comes (pInData : Mem UInt8) (iInLen : Nat) : CutState → CutState → Prop :=
  Relation.ReflTransGen fun state later => state.next pInData iInLen = some later

/-- Without a callback `cutPsHeader` returns before it reads anything. -/
def Reads (fnStreamCB : Bool) (pInData : Mem UInt8) (iInLen index : Nat) : Prop :=
  fnStreamCB = true ∧ ∃ state, Comes pInData iInLen cutStart state ∧
    index ∈ state.indices pInData iInLen

/-- The loop ends, reads inside the frame, fills the raw buffer no further than the frame
is long, and what it delivers does not depend on what lies behind the frame. -/
structure Confined (fnStreamCB : Bool) (pInData : Mem UInt8) (iInLen : Nat) : Prop where
  ends : ∀ run : Nat → CutState, run 0 = cutStart →
    ∃ round, (run round).next pInData iInLen ≠ some (run (round + 1))
  reads : ∀ index, Reads fnStreamCB pInData iInLen index → index < iInLen
  writes : (rawData pInData iInLen).length ≤ iInLen ∧
    ((rawData pInData iInLen).length : Int) ≤ rtpRecvBuffMaxLen
  leftOver : ∀ other : Mem UInt8, (∀ place < iInLen, other place = pInData place) →
    cutPsHeader fnStreamCB other iInLen = cutPsHeader fnStreamCB pInData iInLen

/-- The nine bytes in front of a packet's header data lie in the frame, and so do the
data of a packet that no check refuses. -/
def CutState.InFrame (pInData : Mem UInt8) (iInLen : Nat) (state : CutState) : Prop :=
  state.i + 4 < iInLen → pesCode pInData state.i = true →
    state.i + 8 < iInLen ∧
      (state.refused pInData iInLen = false → iDataLen pInData state.i ≠ 0 →
        iDataPos pInData state.i + iDataLen pInData state.i ≤ iInLen)

/-- Every packet the scan comes to lies in the frame. -/
def PacketsInFrame (pInData : Mem UInt8) (iInLen : Nat) : Prop :=
  ∀ state, Comes pInData iInLen cutStart state → state.InFrame pInData iInLen

variable {pInData other : Mem UInt8} {iInLen : Nat} {state later : CutState}

theorem CutState.next_lt (moved : state.next pInData iInLen = some later) :
    state.i < later.i ∧ state.i < iInLen := by
  unfold CutState.next at moved
  split at moved
  · split at moved
    · cases moved
      exact ⟨by dsimp only; omega, by omega⟩
    · split at moved
      · split at moved
        · cases moved
        · cases moved
          exact ⟨by dsimp only; omega, by omega⟩
      · cases moved
        exact ⟨by dsimp only; omega, by omega⟩
  · cases moved

theorem CutState.rounds {motive : CutState → Prop} (pInData : Mem UInt8) (iInLen : Nat)
    (round : ∀ state, (∀ later, CutState.next pInData iInLen state = some later → motive later) →
      motive state) (state : CutState) : motive state := by
  suffices ∀ left state, iInLen - state.i ≤ left → motive state from
    this _ state (Nat.le_refl _)
  intro left
  induction left with
  | zero =>
    intro state bound
    apply round
    intro later moved
    have ahead := CutState.next_lt moved
    omega
  | succ left ih =>
    intro state bound
    apply round
    intro later moved
    have ahead := CutState.next_lt moved
    exact ih later (by omega)

/-- The loop model does what its rounds do, one after the other. -/
theorem cutReads_round (pInData : Mem UInt8) (iInLen : Nat) (state : CutState) :
    cutReads pInData iInLen state.i state.iRawDataLen =
      (state.read pInData iInLen).toList ++
        ((state.next pInData iInLen).toList.flatMap fun later =>
          cutReads pInData iInLen later.i later.iRawDataLen) := by
  by_cases inside : state.i + 4 < iInLen
  · cases pes : pesCode pInData state.i with
    | true =>
      have header := psHeaderCode_of_pesCode pes
      rw [cutReads_pes inside header pes]
      cases refused : state.refused pInData iInLen with
      | true =>
        rw [if_pos (by exact refused)]
        simp [CutState.read, CutState.next, inside, pes, header, refused]
      | false =>
        rw [if_neg (by rw [← CutState.refused, refused]; exact Bool.false_ne_true)]
        simp [CutState.read, CutState.next, inside, pes, header, refused]
    | false =>
      cases header : psHeaderCode pInData state.i with
      | true =>
        rw [cutReads_psHeader inside header]
        simp [CutState.read, CutState.next, inside, pes, header]
      | false =>
        rw [cutReads_plain inside header pes]
        simp [CutState.read, CutState.next, inside, pes, header]
  · rw [cutReads_end (by omega)]
    simp [CutState.read, CutState.next, inside]

theorem cutRun_ends (pInData : Mem UInt8) (iInLen : Nat) (state : CutState) :
    ∀ run : Nat → CutState, run 0 = state →
      ∃ round, (run round).next pInData iInLen ≠ some (run (round + 1)) := by
  induction state using CutState.rounds pInData iInLen with
  | round state ih =>
    intro run start
    by_cases moved : (run 0).next pInData iInLen = some (run 1)
    · rw [start] at moved
      obtain ⟨round, left⟩ := ih _ moved (fun round => run (round + 1)) rfl
      exact ⟨round + 1, left⟩
    · exact ⟨0, moved⟩

/-- What the rounds from a state on put into the raw buffer. -/
def rawFrom (pInData : Mem UInt8) (iInLen : Nat) (state : CutState) : List UInt8 :=
  (cutReads pInData iInLen state.i state.iRawDataLen).flatMap (PesRead.bytes pInData)

theorem rawFrom_round (pInData : Mem UInt8) (iInLen : Nat) (state : CutState) :
    rawFrom pInData iInLen state =
      (state.read pInData iInLen).toList.flatMap (PesRead.bytes pInData) ++
        (state.next pInData iInLen).toList.flatMap (rawFrom pInData iInLen) := by
  rw [rawFrom, cutReads_round, List.flatMap_append, List.flatMap_assoc]
  rfl

/-- A round that goes on copies what it adds to `iRawDataLen`, and stays in range. -/
theorem CutState.next_copied (moved : state.next pInData iInLen = some later) :
    later.iRawDataLen = state.iRawDataLen +
        ((state.read pInData iInLen).toList.flatMap (PesRead.bytes pInData)).length ∧
      (later.iRawDataLen = state.iRawDataLen ∨
        later.iRawDataLen ≤ iInLen ∧ (later.iRawDataLen : Int) ≤ rtpRecvBuffMaxLen) := by
  unfold CutState.next at moved
  split at moved
  · rename_i inside
    split at moved
    · rename_i header
      cases moved
      have plain : pesCode pInData state.i = false := by
        by_contra pes
        have other := psHeaderCode_of_pesCode (Bool.not_eq_false _ ▸ pes)
        simp [header] at other
      simp [CutState.read, plain]
    · split at moved
      · rename_i pes
        split at moved
        · cases moved
        · rename_i accepted
          cases moved
          refine ⟨by simp [CutState.read, inside, pes, accepted, PesRead.bytes], .inr ?_⟩
          simp only [CutState.refused, copyBuffError, outOfRange, Bool.or_eq_true,
            decide_eq_true_eq, not_or] at accepted
          dsimp only
          omega
      · rename_i plain
        cases moved
        simp [CutState.read, plain]
  · cases moved

theorem CutState.read_ended (ended : state.next pInData iInLen = none) :
    (state.read pInData iInLen).toList.flatMap (PesRead.bytes pInData) = [] := by
  unfold CutState.next at ended
  unfold CutState.read
  split
  · rename_i found
    rw [if_pos found.1, if_neg (by simp [psHeaderCode_of_pesCode found.2]),
      if_pos found.2] at ended
    split at ended
    · rename_i refused
      rw [if_pos refused]
      rfl
    · cases ended
  · rfl

theorem length_rawFrom (state : CutState) (short : state.iRawDataLen ≤ iInLen)
    (room : (state.iRawDataLen : Int) ≤ rtpRecvBuffMaxLen) :
    state.iRawDataLen + (rawFrom pInData iInLen state).length ≤ iInLen ∧
      ((state.iRawDataLen + (rawFrom pInData iInLen state).length : Nat) : Int) ≤
        rtpRecvBuffMaxLen := by
  induction state using CutState.rounds pInData iInLen with
  | round state ih =>
    rw [rawFrom_round]
    cases moved : state.next pInData iInLen with
    | none =>
      rw [CutState.read_ended moved]
      exact ⟨by simpa using short, by simpa using room⟩
    | some later =>
      obtain ⟨copied, bound⟩ := CutState.next_copied moved
      have further := ih later moved (by omega) (by omega)
      rw [copied] at further
      simpa [Nat.add_assoc] using further

theorem pesFields_congr (same : ∀ place < iInLen, other place = pInData place) {i : Nat}
    (inside : i + 8 < iInLen) :
    iDataPos other i = iDataPos pInData i ∧ iDataLen other i = iDataLen pInData i := by
  have head : ucHeadLen other i = ucHeadLen pInData i := by
    rw [ucHeadLen, same (i + 8) inside, ucHeadLen]
  have pes : usPesLen other i = usPesLen pInData i := by
    rw [usPesLen, same (i + 4) (by omega), same (i + 5) (by omega), usPesLen]
  exact ⟨by rw [iDataPos, head, iDataPos], by rw [iDataLen, pes, head, iDataLen]⟩

theorem iDataPos_natural (pInData : Mem UInt8) (i : Nat) : 0 ≤ iDataPos pInData i := by
  rw [iDataPos]
  omega

theorem window_congr {start count : Nat}
    (same : ∀ place, start ≤ place → place < start + count → other place = pInData place) :
    window other start count = window pInData start count := by
  have held : Holds other start (window pInData start count) :=
    (holds_window pInData start count).congr fun place low high =>
      same place low (by simpa using high)
  simpa using held.window_eq

/-- A round that stays in the frame sees nothing of what lies behind it. -/
theorem CutState.round_congr (same : ∀ place < iInLen, other place = pInData place)
    (inFrame : state.InFrame pInData iInLen) :
    state.next other iInLen = state.next pInData iInLen ∧
      (state.read other iInLen).toList.flatMap (PesRead.bytes other) =
        (state.read pInData iInLen).toList.flatMap (PesRead.bytes pInData) := by
  by_cases inside : state.i + 4 < iInLen
  · have codes (streamId : UInt8) :
        startCode other state.i streamId = startCode pInData state.i streamId :=
      startCode_congr same (by omega)
    have header : psHeaderCode other state.i = psHeaderCode pInData state.i := by
      simp only [psHeaderCode, codes]
    have pes : pesCode other state.i = pesCode pInData state.i := codes 0xE0
    cases found : pesCode pInData state.i with
    | false => simp [CutState.next, CutState.read, header, pes, found]
    | true =>
      obtain ⟨headed, ended⟩ := inFrame inside found
      obtain ⟨dataPos, dataLen⟩ := pesFields_congr same headed
      have refused : state.refused other iInLen = state.refused pInData iInLen := by
        simp only [CutState.refused, copyBuffError, outOfRange, dataPos, dataLen]
      refine ⟨by simp only [CutState.next, header, pes, refused, dataLen], ?_⟩
      simp only [CutState.read, pes, refused, dataPos, dataLen]
      cases accepted : state.refused pInData iInLen with
      | true => simp [inside, found, PesRead.bytes]
      | false =>
        have within := ended accepted
        have natural := iDataPos_natural pInData state.i
        simp only [inside, found, and_self, if_true, Bool.false_eq_true, if_false,
          Option.toList_some, List.flatMap_cons, List.flatMap_nil, List.append_nil, PesRead.bytes]
        apply window_congr
        intro place low high
        exact same place (by omega)
  · simp [CutState.next, CutState.read, inside]

theorem rawFrom_congr (same : ∀ place < iInLen, other place = pInData place) (state : CutState)
    (inFrame : ∀ reached, Comes pInData iInLen state reached → reached.InFrame pInData iInLen) :
    rawFrom other iInLen state = rawFrom pInData iInLen state := by
  induction state using CutState.rounds pInData iInLen with
  | round state ih =>
    obtain ⟨next, read⟩ := CutState.round_congr same (inFrame state .refl)
    rw [rawFrom_round, rawFrom_round, next, read]
    cases moved : state.next pInData iInLen with
    | none => rfl
    | some later =>
      have further := ih later moved fun reached comes => inFrame reached (.head moved comes)
      simp [further]

theorem cutPsHeader_congr (fnStreamCB : Bool)
    (same : ∀ place < iInLen, other place = pInData place)
    (inFrame : PacketsInFrame pInData iInLen) :
    cutPsHeader fnStreamCB other iInLen = cutPsHeader fnStreamCB pInData iInLen := by
  have raw : rawData other iInLen = rawData pInData iInLen := rawFrom_congr same cutStart inFrame
  rw [cutPsHeader, raw, cutPsHeader]

/-- Nothing is copied exactly when no round copies anything. -/
theorem rawFrom_eq_nil_iff (state : CutState) :
    rawFrom pInData iInLen state = [] ↔ ∀ reached, Comes pInData iInLen state reached →
      (reached.read pInData iInLen).toList.flatMap (PesRead.bytes pInData) = [] := by
  induction state using CutState.rounds pInData iInLen with
  | round state ih =>
    rw [rawFrom_round, List.append_eq_nil_iff]
    constructor
    · rintro ⟨here, further⟩ reached comes
      cases comes.cases_head with
      | inl same =>
        rw [← same]
        exact here
      | inr onward =>
        obtain ⟨later, moved, comes⟩ := onward
        rw [moved] at further
        exact (ih later moved).mp (by simpa using further) reached comes
    · intro nothing
      refine ⟨nothing state .refl, ?_⟩
      cases moved : state.next pInData iInLen with
      | none => rfl
      | some later =>
        have further := (ih later moved).mpr fun reached comes =>
          nothing reached (.head moved comes)
        simpa using further

theorem CutState.copies_nothing_iff :
    (state.read pInData iInLen).toList.flatMap (PesRead.bytes pInData) = [] ↔
      (state.i + 4 < iInLen → pesCode pInData state.i = true →
        state.refused pInData iInLen = true ∨ iDataLen pInData state.i = 0) := by
  by_cases found : state.i + 4 < iInLen ∧ pesCode pInData state.i = true
  · cases refused : state.refused pInData iInLen with
    | true => simp [CutState.read, found, refused, PesRead.bytes]
    | false =>
      have checked := refused
      simp only [CutState.refused, copyBuffError, Bool.or_eq_false_iff,
        decide_eq_false_iff_not] at checked
      rw [CutState.read, if_pos found, refused, if_neg Bool.false_ne_true]
      simp only [Option.toList_some, List.flatMap_cons, List.flatMap_nil, List.append_nil,
        PesRead.bytes, ← List.length_eq_zero_iff, length_window, found.1, found.2, true_implies,
        Bool.false_eq_true, false_or]
      omega
  · rw [CutState.read, if_neg found]
    simp only [Option.toList_none, List.flatMap_nil, true_iff]
    exact fun inside pes => absurd ⟨inside, pes⟩ found

theorem codeIndices_within {i index : Nat} (read : index ∈ codeIndices pInData i) :
    index < i + 4 := by
  unfold codeIndices at read
  split at read
  · split at read
    · split at read <;> simp at read <;> omega
    · simp at read
      omega
  · simp at read
    omega

/-- A round reads inside the frame exactly when the packet it finds lies there. -/
theorem CutState.indices_iff :
    (∀ index ∈ state.indices pInData iInLen, index < iInLen) ↔ state.InFrame pInData iInLen := by
  by_cases inside : state.i + 4 < iInLen
  · have codes : ∀ index ∈ codeIndices pInData state.i, index < iInLen := by
      intro index read
      have within := codeIndices_within read
      omega
    cases pes : pesCode pInData state.i with
    | false => simpa [CutState.indices, CutState.InFrame, inside, pes] using codes
    | true =>
      have header := psHeaderCode_of_pesCode pes
      simp only [CutState.indices, inside, header, pes, if_true, Bool.false_eq_true, if_false,
        CutState.InFrame, true_implies, List.forall_mem_append]
      constructor
      · rintro ⟨⟨_, fields⟩, data⟩
        refine ⟨fields (state.i + 8) (by simp), ?_⟩
        intro accepted some
        rw [accepted] at data
        have checked := accepted
        simp only [CutState.refused, copyBuffError, Bool.or_eq_false_iff,
          decide_eq_false_iff_not] at checked
        have last := data ((iDataPos pInData state.i).toNat +
          ((iDataLen pInData state.i).toNat - 1)) (by
            rw [if_neg Bool.false_ne_true]
            apply List.mem_range'_1.mpr
            omega)
        omega
      · rintro ⟨headed, ended⟩
        refine ⟨⟨codes, ?_⟩, ?_⟩
        · intro index field
          simp only [List.mem_cons, List.not_mem_nil, or_false] at field
          omega
        · intro index data
          cases accepted : state.refused pInData iInLen with
          | true => simp [accepted] at data
          | false =>
            rw [accepted, if_neg Bool.false_ne_true] at data
            have range := List.mem_range'_1.mp data
            have natural := iDataPos_natural pInData state.i
            have within := ended accepted
            omega
  · simp [CutState.indices, CutState.InFrame, inside]

/-- `cutPsHeader` stays inside the frame exactly when every packet it comes to does. -/
theorem confined_iff (fnStreamCB : Bool) (pInData : Mem UInt8) (iInLen : Nat) :
    Confined fnStreamCB pInData iInLen ↔
      (fnStreamCB = true → PacketsInFrame pInData iInLen) := by
  constructor
  · intro confined set state comes
    apply CutState.indices_iff.mp
    intro index read
    exact confined.reads index ⟨set, state, comes, read⟩
  · intro inFrame
    refine ⟨cutRun_ends pInData iInLen cutStart, ?_, ?_, ?_⟩
    · rintro index ⟨set, state, comes, read⟩
      exact CutState.indices_iff.mpr (inFrame set state comes) index read
    · have bound := @length_rawFrom pInData iInLen cutStart (Nat.zero_le iInLen) (by decide)
      simpa [cutStart, rawFrom, rawData] using bound
    · intro other same
      cases fnStreamCB with
      | false => rfl
      | true => exact cutPsHeader_congr true same (inFrame rfl)

/-- Twelve bytes collected of a packet that claims thirteen. -/
def cutShort : List UInt8 :=
  [0x00, 0x00, 0x01, 0xE0, 0x00, 0x07, 0x80, 0x00, 0x00, 0xAA, 0xBB, 0xCC]

theorem cutShort_not_confined :
    ¬ ∀ (fnStreamCB : Bool) (pInData : Mem UInt8) (iInLen : Nat),
      Confined fnStreamCB pInData iInLen := by
  intro confined
  have same : ∀ place < 12,
      overlay cutShort (fun _ => 0xFF) place = overlay cutShort (fun _ => 0x00) place := by
    intro place inside
    have bound : place < cutShort.length := inside
    simp [overlay, bound]
  have delivered := (confined true (overlay cutShort fun _ => 0x00) 12).leftOver _ same
  have zero : (cutPsHeader true (overlay cutShort fun _ => 0x00) 12).delivered =
      some [0xAA, 0xBB, 0xCC, 0x00] := by decide +kernel
  have full : (cutPsHeader true (overlay cutShort fun _ => 0xFF) 12).delivered =
      some [0xAA, 0xBB, 0xCC, 0xFF] := by decide +kernel
  rw [delivered, zero] at full
  exact absurd full (by decide)

end Gb28181.StreamPuller
