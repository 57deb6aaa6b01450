import Gb28181.Lib.Bits

/-! The macro `bits_write` of the multiplexer, which fills a header bit by bit. -/

namespace Gb28181.Psmux

open Gb28181.Lib

/-- `bits_buffer_t`; `i_data` counts from the start of the output buffer, in which the
header begins, and `i_size` is never read. -/
structure BitsBuffer where
  iData : Nat
  iMask : UInt8
  pData : Mem UInt8

/-- One round of the loop in `bits_write`. -/
def writeBit (buffer : BitsBuffer) (bit : Bool) : BitsBuffer :=
  let old := buffer.pData buffer.iData
  let new := if bit then old ||| buffer.iMask else old &&& ~~~buffer.iMask
  let pData : Mem UInt8 := fun offset => if offset = buffer.iData then new else buffer.pData offset
  let iMask := buffer.iMask >>> 1
  if iMask = 0 then ⟨buffer.iData + 1, 0x80, pData⟩ else ⟨buffer.iData, iMask, pData⟩

/-- `bits_write(buffer, count, bits)`. -/
def bitsWrite (buffer : BitsBuffer) : Nat → Nat → BitsBuffer
  | 0, _ => buffer
  | iCount + 1, bits => bitsWrite (writeBit buffer (bits.testBit iCount)) iCount bits

/-- A header as the list of its `bits_write` calls: bit count and value. -/
abbrev Fields := List (Nat × Nat)

def writeFields (buffer : BitsBuffer) (fields : Fields) : BitsBuffer :=
  fields.foldl (fun buffer field => bitsWrite buffer field.1 field.2) buffer

def memset (memory : Mem UInt8) (start : Nat) (value : UInt8) (count : Nat) : Mem UInt8 :=
  memcpy memory start (fun _ => value) count

/-- The common body of the header functions: the header at `start` is cleared, then filled. -/
def makeHeader (fields : Fields) (headerLen : Nat) (pData : Mem UInt8) (start : Nat) : Mem UInt8 :=
  (writeFields ⟨start, 0x80, memset pData start 0 headerLen⟩ fields).pData

def fieldBits (fields : Fields) : List Bool := fields.flatMap fun field => bitsOf field.1 field.2

/-- The bytes its fields make of a header. -/
def headerBytes (fields : Fields) : List UInt8 := packBytes (fieldBits fields)

/-- The next bit written goes to `position`. -/
structure BitsBuffer.At (buffer : BitsBuffer) (position : Nat) : Prop where
  byte : buffer.iData = position / 8
  mask : buffer.iMask = 0x80 >>> UInt8.ofNat (position % 8)

/-- `later` holds `bits` from `position` on and is `earlier` everywhere else. -/
structure Wrote (earlier later : BitsBuffer) (position : Nat) (bits : List Bool) : Prop where
  reached : later.At (position + bits.length)
  spells : Spells later.pData position bits
  kept : ∀ place, place < position ∨ position + bits.length ≤ place →
    bitAt later.pData place = bitAt earlier.pData place
  outside : ∀ offset, 8 * offset + 8 ≤ position ∨ position + bits.length ≤ 8 * offset →
    later.pData offset = earlier.pData offset

private theorem mask_testBit : ∀ low < 8, ∀ index < 8,
    ((0x80 : UInt8) >>> UInt8.ofNat low).toNat.testBit index = decide (index = 7 - low) := by
  decide

private theorem mask_next : ∀ low < 8,
    ((0x80 : UInt8) >>> UInt8.ofNat low) >>> 1 =
      if low = 7 then 0 else (0x80 : UInt8) >>> UInt8.ofNat (low + 1) := by
  decide

private theorem mask_nonzero : ∀ low < 7, (0x80 : UInt8) >>> UInt8.ofNat (low + 1) ≠ 0 := by
  decide

private theorem testBit_set (byte mask : UInt8) (bit : Bool) (index : Nat) (small : index < 8) :
    (if bit then byte ||| mask else byte &&& ~~~mask).toNat.testBit index =
      if mask.toNat.testBit index then bit else byte.toNat.testBit index := by
  simp only [← UInt8.toNat_toBitVec, BitVec.testBit_toNat, BitVec.getLsbD_eq_getElem small]
  cases bit <;> cases set : mask.toBitVec[index] <;> simp [set]

theorem writeBit_wrote {buffer : BitsBuffer} {position : Nat} (here : buffer.At position)
    (bit : Bool) : Wrote buffer (writeBit buffer bit) position [bit] := by
  obtain ⟨byte, mask⟩ := here
  have low : position % 8 < 8 := Nat.mod_lt _ (by omega)
  have data : (writeBit buffer bit).pData = fun offset =>
      if offset = position / 8 then
        if bit then buffer.pData offset ||| buffer.iMask else buffer.pData offset &&& ~~~buffer.iMask
      else buffer.pData offset := by
    funext offset
    unfold writeBit
    split <;> simp only [byte] <;> split <;> simp_all
  have bits (place : Nat) : bitAt (writeBit buffer bit).pData place =
      if place = position then bit else bitAt buffer.pData place := by
    rw [bitAt, data]
    by_cases sameByte : place / 8 = position / 8
    · have index : 7 - place % 8 < 8 := by omega
      have hit : 7 - place % 8 = 7 - position % 8 ↔ place = position := by omega
      simp only [sameByte, if_true]
      rw [testBit_set _ _ _ _ index, mask, mask_testBit _ low _ index, bitAt, sameByte]
      simp only [decide_eq_true_eq, hit]
    · have other : place ≠ position := fun same => sameByte (by rw [same])
      simp [sameByte, other, bitAt]
  refine ⟨?_, ⟨by simp [bits], trivial⟩, fun place away => ?_, fun offset away => ?_⟩
  · have next := mask_next _ low
    rw [← mask] at next
    simp only [List.length_singleton]
    by_cases last : position % 8 = 7
    · rw [if_pos last] at next
      have wrapped : (position + 1) % 8 = 0 := by omega
      exact ⟨by simp only [writeBit, next, if_true, byte]; omega, by simp [writeBit, next, wrapped]⟩
    · rw [if_neg last] at next
      have more := mask_nonzero (position % 8) (by omega)
      have stepped : (position + 1) % 8 = position % 8 + 1 := by omega
      exact ⟨by simp only [writeBit, next, more, if_false, byte]; omega,
        by simp only [writeBit, next, more, if_false, stepped]⟩
  · have other : place ≠ position := by simp at away; omega
    simp [bits, other]
  · have other : offset ≠ position / 8 := by simp at away; omega
    simp [data, other]

theorem Wrote.append {first second third : BitsBuffer} {position : Nat} {front back : List Bool}
    (wrote : Wrote first second position front)
    (further : Wrote second third (position + front.length) back) :
    Wrote first third position (front ++ back) := by
  obtain ⟨_, spells, kept, outside⟩ := wrote
  obtain ⟨reached, spells', kept', outside'⟩ := further
  rw [Nat.add_assoc, ← List.length_append] at reached
  refine ⟨reached, spells_append.mpr ⟨?_, spells'⟩, fun place away => ?_, fun offset away => ?_⟩
  · exact spells.congr fun place _ high => kept' place (.inl (by omega))
  · rw [List.length_append] at away
    rw [kept' place (by omega), kept place (by omega)]
  · rw [List.length_append] at away
    rw [outside' offset (by omega), outside offset (by omega)]

theorem bitsWrite_wrote {buffer : BitsBuffer} {position : Nat} (here : buffer.At position)
    (count bits : Nat) : Wrote buffer (bitsWrite buffer count bits) position (bitsOf count bits) := by
  induction count generalizing buffer position with
  | zero => exact ⟨here, trivial, fun _ _ => rfl, fun _ _ => rfl⟩
  | succ count ih =>
    have first := writeBit_wrote here (bits.testBit count)
    exact first.append (ih first.reached)

theorem writeFields_wrote {buffer : BitsBuffer} {position : Nat} (here : buffer.At position)
    (fields : Fields) :
    Wrote buffer (writeFields buffer fields) position (fieldBits fields) := by
  induction fields generalizing buffer position with
  | nil => exact ⟨here, trivial, fun _ _ => rfl, fun _ _ => rfl⟩
  | cons field fields ih =>
    have first := bitsWrite_wrote here field.1 field.2
    exact first.append (ih first.reached)

/-- A write at `start` that leaves `bytes` there and nothing changed before them. -/
structure Puts (write : Mem UInt8 → Mem UInt8) (start : Nat) (bytes : List UInt8) : Prop where
  holds : ∀ memory, Holds (write memory) start bytes
  before : ∀ memory offset, offset < start → write memory offset = memory offset

theorem Puts.append {write : Mem UInt8 → Mem UInt8} {memory : Mem UInt8} {start : Nat}
    {cells bytes : List UInt8} (puts : Puts write (start + cells.length) bytes)
    (held : Holds memory start cells) : Holds (write memory) start (cells ++ bytes) :=
  holds_append.mpr ⟨held.congr fun _ _ high => puts.before _ _ high, puts.holds _⟩

/-- A header function writes the bytes its fields fill. -/
theorem makeHeader_puts (fields : Fields) (headerLen start : Nat) :
    Puts (fun pData => makeHeader fields headerLen pData start) start
      (headerBytes fields) := by
  have here (memory : Mem UInt8) :
      (BitsBuffer.mk start 0x80 (memset memory start 0 headerLen)).At (8 * start) :=
    ⟨by simp, by simp⟩
  constructor
  · intro memory
    exact (writeFields_wrote (here memory) fields).spells.holds
  · intro memory offset below
    rw [makeHeader, (writeFields_wrote (here memory) fields).outside offset (.inl (by omega))]
    show memset memory start 0 headerLen offset = memory offset
    exact memcpy_outside (.inl below)

end Gb28181.Psmux
