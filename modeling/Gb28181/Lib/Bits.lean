import Gb28181.Lib.Memory
import Mathlib.Data.Nat.Bitwise
import Mathlib.Tactic.Ring

namespace Gb28181.Lib

/-- The `count` low bits of a number, most significant first. -/
def bitsOf : Nat → Nat → List Bool
  | 0, _ => []
  | count + 1, value => value.testBit count :: bitsOf count value

def ofBits (bits : List Bool) : Nat :=
  bits.foldl (fun value bit => 2 * value + bit.toNat) 0

def byteOf (bits : List Bool) : UInt8 := UInt8.ofNat (ofBits bits)

/-- The bytes filled by a bit string; a last incomplete byte is dropped. -/
def packBytes : List Bool → List UInt8
  | b7 :: b6 :: b5 :: b4 :: b3 :: b2 :: b1 :: b0 :: rest =>
    byteOf [b7, b6, b5, b4, b3, b2, b1, b0] :: packBytes rest
  | _ => []

/-- Bit `position` of a memory, counted from the top bit of its first byte. -/
def bitAt (memory : Mem UInt8) (position : Nat) : Bool :=
  (memory (position / 8)).toNat.testBit (7 - position % 8)

/-- The bit string read from `position` on. -/
def Spells (memory : Mem UInt8) : Nat → List Bool → Prop
  | _, [] => True
  | position, bit :: bits => bitAt memory position = bit ∧ Spells memory (position + 1) bits

@[simp] theorem length_bitsOf (count value : Nat) : (bitsOf count value).length = count := by
  induction count with
  | zero => rfl
  | succ count ih => simp [bitsOf, ih]

private theorem foldl_bits (bits : List Bool) (start : Nat) :
    bits.foldl (fun value bit => 2 * value + bit.toNat) start =
      2 ^ bits.length * start + ofBits bits := by
  induction bits generalizing start with
  | nil => simp [ofBits]
  | cons bit bits ih =>
    simp only [List.foldl_cons, ofBits, List.length_cons]
    rw [ih, ih (2 * 0 + bit.toNat)]
    ring

theorem ofBits_cons (bit : Bool) (bits : List Bool) :
    ofBits (bit :: bits) = 2 ^ bits.length * bit.toNat + ofBits bits := by
  rw [ofBits, List.foldl_cons, foldl_bits]
  simp

/-- Reading back the low bits of a number gives its residue. -/
theorem ofBits_bitsOf (count value : Nat) : ofBits (bitsOf count value) = value % 2 ^ count := by
  induction count with
  | zero => simp [bitsOf, ofBits, Nat.mod_one]
  | succ count ih =>
    rw [bitsOf, ofBits_cons, ih, length_bitsOf, Nat.toNat_testBit]
    have split : value % (2 ^ count * 2) = value % 2 ^ count + 2 ^ count * (value / 2 ^ count % 2) :=
      Nat.mod_mul
    rw [pow_succ, split]
    ring

theorem ofBits_lt (bits : List Bool) : ofBits bits < 2 ^ bits.length := by
  induction bits with
  | nil => exact Nat.one_pos
  | cons bit bits ih =>
    have digit : bit.toNat ≤ 1 := Bool.toNat_le bit
    have scaled := Nat.mul_le_mul_left (2 ^ bits.length) digit
    rw [ofBits_cons, List.length_cons, Nat.pow_succ]
    omega

theorem ofBits_pos {bits : List Bool} (set : true ∈ bits) : 0 < ofBits bits := by
  induction bits with
  | nil => exact absurd set List.not_mem_nil
  | cons bit bits ih =>
    rw [ofBits_cons]
    rcases List.mem_cons.mp set with rfl | later
    · exact Nat.add_pos_left (Nat.mul_pos (Nat.two_pow_pos _) Nat.one_pos) _
    · exact Nat.add_pos_right _ (ih later)

theorem bitsOf_congr {count value other : Nat}
    (same : ∀ place < count, value.testBit place = other.testBit place) :
    bitsOf count value = bitsOf count other := by
  induction count with
  | zero => rfl
  | succ count ih =>
    rw [bitsOf, bitsOf, same count (Nat.lt_succ_self count)]
    exact congrArg _ (ih (fun place below => same place (Nat.lt_succ_of_lt below)))

/-- A bit string is read back from the number it spells. -/
theorem bitsOf_ofBits (bits : List Bool) : bitsOf bits.length (ofBits bits) = bits := by
  induction bits with
  | nil => rfl
  | cons bit bits ih =>
    have place := fun place => Nat.testBit_two_pow_mul_add bit.toNat (ofBits_lt bits) place
    rw [ofBits_cons, List.length_cons, bitsOf]
    refine List.cons_eq_cons.mpr ⟨?_, (bitsOf_congr fun low below => ?_).trans ih⟩
    · rw [place, if_neg (Nat.lt_irrefl _), Nat.sub_self]
      cases bit <;> rfl
    · rw [place, if_pos below]

theorem toNat_byteOf {bits : List Bool} (eight : bits.length = 8) :
    (byteOf bits).toNat = ofBits bits := by
  have small := ofBits_lt bits
  rw [eight] at small
  exact Nat.mod_eq_of_lt small

theorem spells_append {memory : Mem UInt8} {position : Nat} {front back : List Bool} :
    Spells memory position (front ++ back) ↔
      Spells memory position front ∧ Spells memory (position + front.length) back := by
  induction front generalizing position with
  | nil => simp [Spells]
  | cons bit front ih =>
    have shift : position + 1 + front.length = position + (front.length + 1) := by omega
    simp [Spells, ih, and_assoc, shift]

theorem Spells.congr {memory other : Mem UInt8} {position : Nat} {bits : List Bool}
    (spelled : Spells memory position bits)
    (same : ∀ place, position ≤ place → place < position + bits.length →
      bitAt other place = bitAt memory place) : Spells other position bits := by
  induction bits generalizing position with
  | nil => trivial
  | cons bit bits ih =>
    have len : (bit :: bits).length = bits.length + 1 := rfl
    refine ⟨(same position (by omega) (by omega)).trans spelled.1, ih spelled.2 ?_⟩
    intro place low high
    exact same place (by omega) (by omega)

private theorem byteOf_toNat (byte : UInt8) : byteOf (bitsOf 8 byte.toNat) = byte := by
  have small : byte.toNat < 2 ^ 8 := byte.toNat_lt
  rw [byteOf, ofBits_bitsOf, Nat.mod_eq_of_lt small, UInt8.ofNat_toNat]

/-- Bits spelled from a byte boundary on fill whole bytes. -/
theorem Spells.holds {memory : Mem UInt8} {start : Nat} {bits : List Bool}
    (spelled : Spells memory (8 * start) bits) : Holds memory start (packBytes bits) := by
  induction bits using packBytes.induct generalizing start with
  | case1 b7 b6 b5 b4 b3 b2 b1 b0 rest ih =>
    obtain ⟨s7, s6, s5, s4, s3, s2, s1, s0, spelledRest⟩ := spelled
    refine ⟨?_, ih (by simpa [Nat.mul_add] using spelledRest)⟩
    have byte (low : Nat) (small : low < 8) :
        bitAt memory (8 * start + low) = (memory start).toNat.testBit (7 - low) := by
      have quotient : (8 * start + low) / 8 = start := by omega
      have remainder : (8 * start + low) % 8 = low := by omega
      rw [bitAt, quotient, remainder]
    have top := byte 0 (by omega)
    rw [Nat.add_zero] at top
    rw [← byteOf_toNat (memory start), ← s7, ← s6, ← s5, ← s4, ← s3, ← s2, ← s1, ← s0]
    simp only [Nat.add_assoc, Nat.reduceAdd, top, byte 1 (by omega), byte 2 (by omega),
      byte 3 (by omega), byte 4 (by omega), byte 5 (by omega), byte 6 (by omega),
      byte 7 (by omega)]
    rfl
  | case2 bits short => simp [packBytes]

/-- Where no byte can be split off, fewer than eight bits are left. -/
theorem length_lt_of_short {bits : List Bool} (short : ∀ b7 b6 b5 b4 b3 b2 b1 b0 rest,
    bits = b7 :: b6 :: b5 :: b4 :: b3 :: b2 :: b1 :: b0 :: rest → False) : bits.length < 8 := by
  by_contra long
  match bits, long with
  | b7 :: b6 :: b5 :: b4 :: b3 :: b2 :: b1 :: b0 :: rest, _ =>
    exact short b7 b6 b5 b4 b3 b2 b1 b0 rest rfl
  | [], long | [_], long | [_, _], long | [_, _, _], long | [_, _, _, _], long
  | [_, _, _, _, _], long | [_, _, _, _, _, _], long | [_, _, _, _, _, _, _], long => simp at long

theorem packBytes_append (count : Nat) {front back : List Bool} (whole : front.length = 8 * count) :
    packBytes (front ++ back) = packBytes front ++ packBytes back := by
  induction front using packBytes.induct generalizing count with
  | case1 b7 b6 b5 b4 b3 b2 b1 b0 rest ih =>
    simp only [List.length_cons] at whole
    have further := ih (count - 1) (by omega)
    exact congrArg (byteOf [b7, b6, b5, b4, b3, b2, b1, b0] :: ·) further
  | case2 bits short =>
    have few := length_lt_of_short short
    have empty : bits = [] := List.length_eq_zero_iff.mp (by omega)
    rw [empty]
    rfl

theorem length_packBytes (bits : List Bool) : (packBytes bits).length = bits.length / 8 := by
  induction bits using packBytes.induct with
  | case1 b7 b6 b5 b4 b3 b2 b1 b0 rest ih =>
    simp only [packBytes, List.length_cons, ih]
    omega
  | case2 bits short =>
    have few := length_lt_of_short short
    simp [packBytes, Nat.div_eq_of_lt few]

theorem byteOf_ne_zero {bits : List Bool} (eight : bits.length = 8) (set : true ∈ bits) :
    byteOf bits ≠ 0 := by
  intro zero
  have spelled := toNat_byteOf eight
  rw [zero] at spelled
  exact Nat.ne_of_gt (ofBits_pos set) spelled.symm

theorem bitsOf_add (high low value : Nat) :
    bitsOf (high + low) value = bitsOf high (value >>> low) ++ bitsOf low value := by
  induction high with
  | zero => simp [bitsOf]
  | succ high ih =>
    rw [Nat.succ_add, bitsOf, ih, bitsOf, List.cons_append, Nat.testBit_shiftRight,
      Nat.add_comm low high]

theorem byteOf_bitsOf (value : Nat) : byteOf (bitsOf 8 value) = UInt8.ofNat value := by
  rw [byteOf, ofBits_bitsOf]
  simp [← UInt8.toNat_inj]

theorem packBytes_byte (value : Nat) : packBytes (bitsOf 8 value) = [UInt8.ofNat value] := by
  rw [← byteOf_bitsOf]
  rfl

/-- A 16-bit field fills two bytes, the high one first. -/
theorem packBytes_two (value : Nat) :
    packBytes (bitsOf 16 value) = [UInt8.ofNat (value / 256), UInt8.ofNat value] := by
  have whole : (bitsOf 8 (value >>> 8)).length = 8 * 1 := length_bitsOf 8 _
  rw [bitsOf_add 8 8, packBytes_append 1 whole, packBytes_byte, packBytes_byte,
    Nat.shiftRight_eq_div_pow]
  rfl

end Gb28181.Lib
