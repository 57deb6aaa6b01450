import Gb28181.Lib.Bits

namespace Gb28181.Lib

/-- The bits of some bytes, most significant first. -/
def byteBits (bytes : List UInt8) : List Bool := bytes.flatMap fun byte => bitsOf 8 byte.toNat

/-- The numbers that fields of these widths hold. -/
def readFields : List Nat → List Bool → List Nat
  | [], _ => []
  | width :: widths, bits => ofBits (bits.take width) :: readFields widths (bits.drop width)

/-- The bits of fields given by width and value. -/
def writeBits (fields : List (Nat × Nat)) : List Bool :=
  fields.flatMap fun field => bitsOf field.1 field.2

private theorem bitsOf_byteOf {bits : List Bool} (eight : bits.length = 8) :
    bitsOf 8 (byteOf bits).toNat = bits := by
  rw [toNat_byteOf eight, ← eight]
  exact bitsOf_ofBits bits

theorem byteBits_packBytes (count : Nat) {bits : List Bool} (whole : bits.length = 8 * count) :
    byteBits (packBytes bits) = bits := by
  induction bits using packBytes.induct generalizing count with
  | case1 b7 b6 b5 b4 b3 b2 b1 b0 rest ih =>
    simp only [List.length_cons] at whole
    have further := ih (count - 1) (by omega)
    rw [packBytes, byteBits, List.flatMap_cons, ← byteBits, further, bitsOf_byteOf rfl]
    rfl
  | case2 bits short =>
    have few := length_lt_of_short short
    have empty : bits = [] := List.length_eq_zero_iff.mp (by omega)
    rw [empty]
    rfl

/-- Reading fields back gives what fits them of the values written. -/
theorem readFields_writeBits (fields : List (Nat × Nat)) :
    readFields (fields.map Prod.fst) (writeBits fields) =
      fields.map fun field => field.2 % 2 ^ field.1 := by
  induction fields with
  | nil => rfl
  | cons field fields ih =>
    have length := length_bitsOf field.1 field.2
    rw [List.map_cons, List.map_cons, readFields, writeBits, List.flatMap_cons, ← writeBits,
      List.take_left' length, List.drop_left' length, ih, ofBits_bitsOf]

/-- Bytes stored in a memory are spelled there bit by bit. -/
theorem spells_byteBits {bytes : List UInt8} {memory : Mem UInt8} {start : Nat}
    (held : Holds memory start bytes) : Spells memory (8 * start) (byteBits bytes) := by
  induction bytes generalizing start with
  | nil => trivial
  | cons byte bytes ih =>
    obtain ⟨here, there⟩ := held
    have bit (low : Nat) (small : low < 8) :
        bitAt memory (8 * start + low) = byte.toNat.testBit (7 - low) := by
      have quotient : (8 * start + low) / 8 = start := by omega
      have remainder : (8 * start + low) % 8 = low := by omega
      rw [bitAt, quotient, remainder, here]
    have top := bit 0 (by omega)
    rw [Nat.add_zero] at top
    have own : Spells memory (8 * start) (bitsOf 8 byte.toNat) :=
      ⟨top, bit 1 (by omega), bit 2 (by omega), bit 3 (by omega), bit 4 (by omega),
        bit 5 (by omega), bit 6 (by omega), bit 7 (by omega), trivial⟩
    have rest := ih there
    rw [Nat.mul_succ] at rest
    exact spells_append.mpr ⟨own, rest⟩

theorem Spells.unique {memory : Mem UInt8} {position : Nat} {first second : List Bool}
    (spelled : Spells memory position first) (other : Spells memory position second)
    (same : first.length = second.length) : first = second := by
  induction first generalizing position second with
  | nil => exact (List.length_eq_zero_iff.mp same.symm).symm
  | cons bit first ih =>
    cases second with
    | nil => exact absurd same (Nat.succ_ne_zero _)
    | cons bit' second =>
      rw [← spelled.1, ← other.1, ih spelled.2 other.2 (Nat.succ.inj same)]

theorem length_byteBits (bytes : List UInt8) : (byteBits bytes).length = 8 * bytes.length := by
  induction bytes with
  | nil => rfl
  | cons byte bytes ih =>
    rw [byteBits, List.flatMap_cons, List.length_append, length_bitsOf, ← byteBits, ih,
      List.length_cons, Nat.mul_succ, Nat.add_comm]

end Gb28181.Lib
