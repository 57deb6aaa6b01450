import Gb28181.Lib.BitFields
import Gb28181.Psmux.BitsWrite

/-! `bits_write` with the integers it computes with, on a buffer of some size. It agrees with
the writer that the headers are stated over as long as the buffer has room. -/

namespace Gb28181.Psmux

open Gb28181.Lib

/-- `bits_buffer_t` with the bytes `p_data` points to, as many as `i_size` says. -/
structure SizedBuffer where
  iData : Int
  iMask : UInt8
  pData : List UInt8
  deriving DecidableEq

namespace SizedBuffer

/-- One round of the loop; without a result where `i_data` is outside of the buffer. -/
def writeBit (buffer : SizedBuffer) (bit : Bool) : Option SizedBuffer :=
  if buffer.iData < 0 then none
  else
    (buffer.pData[buffer.iData.toNat]?).map fun old =>
      let new := if bit then old ||| buffer.iMask else old &&& ~~~buffer.iMask
      let pData := buffer.pData.set buffer.iData.toNat new
      let iMask := buffer.iMask >>> 1
      if iMask = 0 then ⟨(buffer.iData + 1).bmod (2 ^ 32), 0x80, pData⟩
      else ⟨buffer.iData, iMask, pData⟩

/-- `bits_write(buffer, count, bits)`, where `i_bits` is an `uint64_t`. -/
def bitsWrite (buffer : SizedBuffer) : Nat → UInt64 → Option SizedBuffer
  | 0, _ => some buffer
  | iCount + 1, iBits => do
    let next ← buffer.writeBit (iBits >>> UInt64.ofNat iCount &&& 0x01 != 0)
    next.bitsWrite iCount iBits

def writeFields (buffer : SizedBuffer) (fields : List (Nat × UInt64)) : Option SizedBuffer :=
  fields.foldlM (fun buffer field => buffer.bitsWrite field.1 field.2) buffer

end SizedBuffer

/-- The memory that begins with the bytes of a buffer. -/
def memoryOf (bytes : List UInt8) : Mem UInt8 := overlay bytes fun _ => 0

/-- A buffer of a size is at the same place and has the same bytes. -/
structure SizedBuffer.Agrees (sized : SizedBuffer) (buffer : BitsBuffer) : Prop where
  iData : sized.iData = buffer.iData
  iMask : sized.iMask = buffer.iMask
  pData : memoryOf sized.pData = buffer.pData

variable {sized : SizedBuffer} {buffer : BitsBuffer} {position : Nat}

theorem memoryOf_set {bytes : List UInt8} {index : Nat} {byte : UInt8}
    (inside : index < bytes.length) : memoryOf (bytes.set index byte) =
      fun offset => if offset = index then byte else memoryOf bytes offset := by
  funext offset
  unfold memoryOf overlay
  rw [List.getElem?_set]
  by_cases same : index = offset
  · rw [if_pos same, if_pos same.symm, if_pos inside]
    rfl
  · rw [if_neg same, if_neg (Ne.symm same)]

/-- Inside of the buffer both writers write the same bit. -/
theorem SizedBuffer.Agrees.writeBit (agrees : sized.Agrees buffer) (bit : Bool)
    (inside : buffer.iData < sized.pData.length) (small : sized.pData.length < 2 ^ 31) :
    ∃ next, sized.writeBit bit = some next ∧ next.Agrees (Psmux.writeBit buffer bit) ∧
      next.pData.length = sized.pData.length := by
  obtain ⟨iData, iMask, pData⟩ := agrees
  have old : memoryOf sized.pData buffer.iData = sized.pData[buffer.iData] := by
    rw [memoryOf, overlay, List.getElem?_eq_getElem inside]
    rfl
  have index : sized.iData.toNat = buffer.iData := by omega
  have natural : ¬ sized.iData < 0 := by omega
  have next : (sized.iData + 1).bmod (2 ^ 32) = ((buffer.iData + 1 : Nat) : Int) := by
    rw [Int.bmod_eq_of_le (by omega) (by omega)]
    omega
  have set := @memoryOf_set sized.pData buffer.iData (if bit then
    sized.pData[buffer.iData] ||| buffer.iMask else sized.pData[buffer.iData] &&& ~~~buffer.iMask) inside
  unfold SizedBuffer.writeBit Psmux.writeBit
  rw [if_neg natural, index, List.getElem?_eq_getElem inside, iMask, ← pData]
  refine ⟨_, rfl, ?_, ?_⟩
  · dsimp only
    rw [old]
    split
    · exact ⟨next, rfl, set⟩
    · exact ⟨iData, rfl, set⟩
  · dsimp only
    split <;> exact List.length_set

theorem shifted_bit (iBits : UInt64) {iCount : Nat} (short : iCount < 64) :
    (iBits >>> UInt64.ofNat iCount &&& 0x01 != 0) = iBits.toNat.testBit iCount := by
  have shift : iCount % 2 ^ 64 % 64 = iCount := by omega
  rw [Nat.testBit, Bool.eq_iff_iff, bne_iff_ne, bne_iff_ne, ne_eq, ne_eq, not_iff_not,
    ← UInt64.toNat_inj, UInt64.toNat_and, UInt64.toNat_shiftRight, UInt64.toNat_ofNat', shift,
    Nat.and_comm]
  rfl

/-- A field of at most 64 bits that fits is written by both writers. -/
theorem SizedBuffer.Agrees.bitsWrite (agrees : sized.Agrees buffer) (here : buffer.At position)
    {iCount : Nat} {iBits : UInt64} (count : iCount ≤ 64)
    (fits : position + iCount ≤ 8 * sized.pData.length) (small : sized.pData.length < 2 ^ 31) :
    ∃ next, sized.bitsWrite iCount iBits = some next ∧
      next.Agrees (Psmux.bitsWrite buffer iCount iBits.toNat) ∧
      next.pData.length = sized.pData.length := by
  induction iCount generalizing sized buffer position with
  | zero => exact ⟨sized, rfl, agrees, rfl⟩
  | succ iCount ih =>
    have inside : buffer.iData < sized.pData.length := by
      rw [here.byte]
      omega
    obtain ⟨next, wrote, same, size⟩ := agrees.writeBit (iBits.toNat.testBit iCount) inside small
    have reached := (writeBit_wrote here (iBits.toNat.testBit iCount)).reached
    rw [List.length_singleton] at reached
    rw [← size] at fits small ⊢
    rw [SizedBuffer.bitsWrite, shifted_bit iBits (by omega), wrote]
    exact ih same reached (by omega) (by omega) small

/-- The fields as the headers have them. -/
def wideFields (fields : List (Nat × UInt64)) : Fields :=
  fields.map fun field => (field.1, field.2.toNat)

def bitCount (fields : List (Nat × UInt64)) : Nat := (fields.map Prod.fst).sum

theorem length_fieldBits (fields : List (Nat × UInt64)) :
    (fieldBits (wideFields fields)).length = bitCount fields := by
  induction fields with
  | nil => rfl
  | cons field fields ih =>
    have first : fieldBits (wideFields (field :: fields)) =
        bitsOf field.1 field.2.toNat ++ fieldBits (wideFields fields) := rfl
    have sum : bitCount (field :: fields) = field.1 + bitCount fields := List.sum_cons
    rw [first, List.length_append, length_bitsOf, ih, sum]

theorem SizedBuffer.Agrees.writeFields (agrees : sized.Agrees buffer) (here : buffer.At position)
    {fields : List (Nat × UInt64)} (counts : ∀ field ∈ fields, field.1 ≤ 64)
    (fits : position + bitCount fields ≤ 8 * sized.pData.length)
    (small : sized.pData.length < 2 ^ 31) :
    ∃ next, sized.writeFields fields = some next ∧
      next.Agrees (Psmux.writeFields buffer (wideFields fields)) ∧
      next.pData.length = sized.pData.length := by
  induction fields generalizing sized buffer position with
  | nil => exact ⟨sized, rfl, agrees, rfl⟩
  | cons field fields ih =>
    obtain ⟨count, counts⟩ := List.forall_mem_cons.mp counts
    have sum : bitCount (field :: fields) = field.1 + bitCount fields := List.sum_cons
    rw [sum] at fits
    have first : ∃ next, sized.bitsWrite field.1 field.2 = some next ∧
        next.Agrees (Psmux.bitsWrite buffer field.1 field.2.toNat) ∧
        next.pData.length = sized.pData.length := agrees.bitsWrite here count (by omega) small
    obtain ⟨next, wrote, same, size⟩ := first
    have reached := (bitsWrite_wrote here field.1 field.2.toNat).reached
    rw [length_bitsOf] at reached
    rw [← size] at fits small ⊢
    rw [SizedBuffer.writeFields, List.foldlM_cons, wrote]
    exact ih same reached counts (by omega) small

theorem spells_memoryOf (bytes : List UInt8) : Spells (memoryOf bytes) 0 (byteBits bytes) :=
  spells_byteBits (holds_overlay bytes _)

/-- Into a buffer with room for them and whatever it holds, the fields are written one behind
the other from its first bit on, and nothing else is changed. -/
theorem bits_written (bytes : List UInt8) (fields : List (Nat × UInt64))
    (counts : ∀ field ∈ fields, field.1 ≤ 64) (enough : bitCount fields ≤ 8 * bytes.length)
    (small : bytes.length < 2 ^ 31) :
    ∃ written, SizedBuffer.writeFields ⟨0, 0x80, bytes⟩ fields = some written ∧
      byteBits written.pData = (fields.flatMap fun field => bitsOf field.1 field.2.toNat) ++
        (byteBits bytes).drop (bitCount fields) ∧
      written.iData = bitCount fields / 8 ∧
      written.iMask = 0x80 >>> UInt8.ofNat (bitCount fields % 8) := by
  have agrees : SizedBuffer.Agrees ⟨0, 0x80, bytes⟩ ⟨0, 0x80, memoryOf bytes⟩ := ⟨rfl, rfl, rfl⟩
  have here : BitsBuffer.At ⟨0, 0x80, memoryOf bytes⟩ 0 := ⟨rfl, rfl⟩
  obtain ⟨written, wrote, same, size⟩ :=
    agrees.writeFields here counts (by rwa [Nat.zero_add]) small
  obtain ⟨reached, spells, kept, -⟩ := writeFields_wrote here (wideFields fields)
  rw [length_fieldBits] at reached kept
  rw [Nat.zero_add] at reached kept
  refine ⟨written, wrote, ?_, ?_, ?_⟩
  · have split := spells_memoryOf bytes
    rw [← List.take_append_drop (bitCount fields) (byteBits bytes), spells_append] at split
    have short : ((byteBits bytes).take (bitCount fields)).length = bitCount fields :=
      List.length_take_of_le (by rwa [length_byteBits])
    rw [short, Nat.zero_add] at split
    have behind := split.2.congr fun place low _ => kept place (.inr low)
    have whole := spells_memoryOf written.pData
    rw [same.pData] at whole
    have bits : fields.flatMap (fun field => bitsOf field.1 field.2.toNat) =
        fieldBits (wideFields fields) := by
      rw [fieldBits, wideFields, List.flatMap_map]
    rw [bits]
    refine whole.unique (spells_append.mpr ⟨spells, ?_⟩) ?_
    · rwa [length_fieldBits, Nat.zero_add]
    · have size : written.pData.length = bytes.length := size
      rw [length_byteBits, size, List.length_append, length_fieldBits, List.length_drop,
        length_byteBits]
      omega
  · rw [same.iData, reached.byte]
    rfl
  · rw [same.iMask, reached.mask]

theorem bits_written_marker : ∃ written, SizedBuffer.writeFields ⟨0, 0x80, [0x55, 0x55]⟩
    [(4, 3), (3, 0x8000000000000005), (0, 1), (1, 1)] = some written ∧
      byteBits written.pData = byteBits [0x3B, 0x55] ∧ written.iData = 1 ∧
      written.iMask = 0x80 := by
  obtain ⟨written, wrote, bits, iData, iMask⟩ := bits_written [0x55, 0x55]
    [(4, 3), (3, 0x8000000000000005), (0, 1), (1, 1)] (by decide) (by decide) (by decide)
  refine ⟨written, wrote, bits.trans ?_, iData, iMask⟩
  decide

end Gb28181.Psmux
