import Mathlib.Algebra.BigOperators.Group.Finset.Basic
import Mathlib.Data.Nat.Bitwise

/-! Numbers that are packed into a row of bits. A field is given by what it reads
for each of its bits, the least significant one first, and is worth an unsigned or
a two's complement number. -/
namespace SdvGateway.Library.BitField

def field : (width : Nat) → (Nat → Bool) → BitVec width
  | 0, _ => 0#0
  | width + 1, bit => BitVec.cons (bit width) (field width bit)

@[simp] theorem getLsbD_field (width : Nat) (bit : Nat → Bool) (i : Nat) :
    (field width bit).getLsbD i = (decide (i < width) && bit i) := by
  induction width with
  | zero => simp [field]
  | succ width ih =>
    rw [field, BitVec.getLsbD_cons, ih]
    by_cases htop : i = width
    · simp [htop]
    · have hlow : i < width ↔ i < width + 1 := by omega
      simp [htop, hlow]

theorem field_eq_iff (width : Nat) (bit other : Nat → Bool) :
    field width bit = field width other ↔ ∀ i < width, bit i = other i := by
  refine ⟨?_, ?_⟩
  · intro h i hi
    have hbit := congrArg (BitVec.getLsbD · i) h
    simpa only [getLsbD_field, hi, decide_true, Bool.true_and] using hbit
  · intro h
    apply BitVec.eq_of_getLsbD_eq
    intro i hi
    rw [getLsbD_field, getLsbD_field, h i hi]

theorem field_eq {width : Nat} {bit : Nat → Bool} {bits : BitVec width}
    (h : ∀ i < width, bit i = bits.getLsbD i) : field width bit = bits := by
  apply BitVec.eq_of_getLsbD_eq
  intro i hi
  rw [getLsbD_field, decide_eq_true hi, Bool.true_and, h i hi]

theorem toNat_field (width : Nat) (bit : Nat → Bool) :
    (field width bit).toNat = ∑ i ∈ Finset.range width with bit i, 2 ^ i := by
  induction width with
  | zero => rfl
  | succ width ih =>
    rw [field, BitVec.toNat_cons', ih, Finset.range_add_one, Finset.filter_insert]
    cases bit width with
    | true => simp [Nat.one_shiftLeft]
    | false => simp

def value (signed : Bool) (bits : BitVec width) : Int := if signed then bits.toInt else bits.toNat

theorem value_inj {signed : Bool} {bits other : BitVec width} :
    value signed bits = value signed other ↔ bits = other := by
  cases signed with
  | true => exact BitVec.toInt_inj
  | false => exact Int.natCast_inj.trans BitVec.toNat_inj

theorem value_ofInt {width : Nat} {v : Int} (hwidth : 0 < width) (hlow : -2 ^ (width - 1) ≤ v)
    (hhigh : v < 2 ^ (width - 1)) : value true (BitVec.ofInt width v) = v :=
  BitVec.toInt_ofInt_eq_self hwidth hlow hhigh

/-! Single bits of machine words. -/

theorem one_shiftLeft_byte {i : UInt8} (hi : i.toNat < 8) :
    ((1 : UInt8) <<< i).toNat = 2 ^ i.toNat := by
  rw [UInt8.toNat_shiftLeft, Nat.mod_eq_of_lt hi]
  exact (congrArg (· % 2 ^ 8) (Nat.one_shiftLeft _)).trans
    (Nat.mod_eq_of_lt (Nat.pow_lt_pow_right (by decide) hi))

theorem one_shiftLeft_word {i : UInt64} (hi : i.toNat < 64) :
    ((1 : UInt64) <<< i).toNat = 2 ^ i.toNat := by
  rw [UInt64.toNat_shiftLeft, Nat.mod_eq_of_lt hi]
  exact (congrArg (· % 2 ^ 64) (Nat.one_shiftLeft _)).trans
    (Nat.mod_eq_of_lt (Nat.pow_lt_pow_right (by decide) hi))

theorem and_two_pow_ne_zero (n i : Nat) : n &&& 2 ^ i ≠ 0 ↔ n.testBit i = true := by
  rw [Nat.and_two_pow]
  cases n.testBit i <;> simp

theorem testBit_of_byte (byte : UInt8) {i : UInt8} (hi : i.toNat < 8) :
    byte &&& (1 <<< i) ≠ 0 ↔ byte.toNat.testBit i.toNat = true := by
  rw [← and_two_pow_ne_zero, ← one_shiftLeft_byte hi, ← UInt8.toNat_and, ne_eq, ne_eq,
    ← UInt8.toNat_inj]
  rfl

theorem testBit_of_word (word : UInt64) {i : UInt64} (hi : i.toNat < 64) :
    word &&& (1 <<< i) ≠ 0 ↔ word.toNat.testBit i.toNat = true := by
  rw [← and_two_pow_ne_zero, ← one_shiftLeft_word hi, ← UInt64.toNat_and, ne_eq, ne_eq,
    ← UInt64.toNat_inj]
  rfl

theorem testBit_setBit (raw : UInt64) {i : UInt64} (hi : i.toNat < 64) (j : Nat) :
    (raw ||| (1 <<< i)).toNat.testBit j = (raw.toNat.testBit j || decide (i.toNat = j)) := by
  rw [UInt64.toNat_or, one_shiftLeft_word hi, Nat.testBit_or, Nat.testBit_two_pow]

theorem getLsbD_highBits {i : UInt64} (hi : i.toNat < 64) {j : Nat} (hj : j < 64) :
    (~~~((1 <<< i) - 1) : UInt64).toBitVec.getLsbD j = decide (i.toNat ≤ j) := by
  have hone : (1 : UInt64) ≤ 1 <<< i := by
    rw [UInt64.le_iff_toNat_le, one_shiftLeft_word hi]
    exact Nat.one_le_two_pow
  rw [UInt64.toBitVec_not, BitVec.getLsbD_not, decide_eq_true hj, Bool.true_and,
    ← BitVec.testBit_toNat, UInt64.toNat_toBitVec, UInt64.toNat_sub_of_le _ _ hone,
    one_shiftLeft_word hi]
  change (!(2 ^ i.toNat - 1).testBit j) = _
  rw [Nat.testBit_two_pow_sub_one]
  by_cases h : i.toNat ≤ j
  · simp [h]
  · simp [h, Nat.lt_of_not_le h]

end SdvGateway.Library.BitField
