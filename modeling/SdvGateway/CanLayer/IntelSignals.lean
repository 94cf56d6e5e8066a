import Mathlib.Algebra.BigOperators.Ring.Finset
import SdvGateway.CanLayer.RawValue

/-! Intel signals: the start bit is the least significant bit, and the others
follow it upwards through the frame. -/
namespace SdvGateway.CanLayer.IntelSignals
open Common SignalDecoder RawValue Library BitField

def write (frame : CanFrame) (start : Nat) (bits : BitVec width) : CanFrame where
  canId := frame.canId
  dlc := frame.dlc
  data := Vector.ofFn fun byte => UInt8.ofBitVec (field 8 fun i =>
    if start ≤ 8 * byte.val + i ∧ 8 * byte.val + i < start + width then
      bits.getLsbD (8 * byte.val + i - start)
    else (frame.data.get byte).toNat.testBit i)
  dlc_le := frame.dlc_le

theorem bit_write (frame : CanFrame) (start : Nat) (bits : BitVec width) {n : Nat}
    (hn : n < 8 * frame.dlc.toNat) :
    bit (write frame start bits) n =
      if start ≤ n ∧ n < start + width then bits.getLsbD (n - start) else bit frame n := by
  have hdlc := dlc_le frame
  have hbyte : n / 8 < 8 := by omega
  have hbit : n % 8 < 8 := by omega
  have hsplit : 8 * (n / 8) + n % 8 = n := by omega
  have hold : bit frame n = (frame.data.get ⟨n / 8, hbyte⟩).toNat.testBit (n % 8) :=
    dif_pos (by omega)
  rw [bit_ofFn (write frame start bits) rfl hn hbyte, UInt8.toNat_ofBitVec,
    BitVec.testBit_toNat, getLsbD_field, decide_eq_true hbit, Bool.true_and, hsplit, hold]

private theorem intelField_write {d : SignalDef} {frame : CanFrame}
    (hinside : d.startBit.toNat + d.length.toNat ≤ 8 * frame.dlc.toNat)
    (bits : BitVec d.length.toNat) :
    intelField d (write frame d.startBit.toNat bits) = bits := by
  apply field_eq
  intro i hi
  have hin : d.startBit.toNat ≤ d.startBit.toNat + i ∧
      d.startBit.toNat + i < d.startBit.toNat + d.length.toNat := by omega
  rw [intelBit, bit_write frame _ _ (by omega), if_pos hin, Nat.add_sub_cancel_left]

/-- A signed number that is written into a frame is decoded again, whatever else
the frame holds. -/
theorem rawSigned_write {d : SignalDef} (hsigned : d.isSigned = true)
    (hpos : 1 ≤ d.length.toNat) (frame : CanFrame)
    (hinside : d.startBit.toNat + d.length.toNat ≤ 8 * frame.dlc.toNat) {v : Int}
    (hlow : -2 ^ (d.length.toNat - 1) ≤ v) (hhigh : v < 2 ^ (d.length.toNat - 1)) :
    (rawSigned d (write frame d.startBit.toNat (BitVec.ofInt d.length.toNat v))).toInt = v := by
  have hdlc := dlc_le frame
  rw [toInt_rawSigned hpos (by omega), intelField_write hinside, hsigned,
    value_ofInt hpos hlow hhigh, if_neg (by simp), Int.sub_zero]

def intelSignal (startBit length : UInt8) (isSigned : Bool) : SignalDef where
  canId := 180
  startBit := startBit
  length := length
  isLittleEndian := true
  isSigned := isSigned
  scale := ⟨0⟩
  offset := ⟨0⟩
  unit := []

def frameOf (data : Vector UInt8 8) : CanFrame := ⟨180, 8, data, eight_le_eight⟩

/-- Twelve bits that lie in two bytes. -/
theorem rawSigned_write_negative :
    (rawSigned (intelSignal 5 12 true) (write (frameOf (Vector.replicate 8 0xFF)) 5
      (BitVec.ofInt 12 (-1500)))).toInt = -1500 :=
  rawSigned_write (d := intelSignal 5 12 true) rfl (by decide) _ (by decide) (by decide)
    (by decide)

/-- The sum over the bits that are set, below 2 to the length: only a field that
fills eight bytes can miss it. -/
theorem rawSigned_eq_sum_iff {d : SignalDef} (hunsigned : d.isSigned = false)
    (hpos : 1 ≤ d.length.toNat) (frame : CanFrame)
    (hinside : d.startBit.toNat + d.length.toNat ≤ 8 * frame.dlc.toNat) :
    ((rawSigned d frame).toInt = ∑ i ∈ Finset.range d.length.toNat with
          bit frame (d.startBit.toNat + i), (2 : Int) ^ i ∧
        0 ≤ (rawSigned d frame).toInt ∧ (rawSigned d frame).toInt < 2 ^ d.length.toNat) ↔
      ¬(d.length = 64 ∧ bit frame 63 = true) := by
  have hdlc := dlc_le frame
  have hsum : ((intelField d frame).toNat : Int) = ∑ i ∈ Finset.range d.length.toNat with
      bit frame (d.startBit.toNat + i), (2 : Int) ^ i := by
    rw [intelField, toNat_field]
    push_cast
    rfl
  have hbound : ((intelField d frame).toNat : Int) < 2 ^ d.length.toNat := by
    exact_mod_cast (intelField d frame).isLt
  have htop : d.length.toNat = 64 ∧ intelBit d frame 63 = true ↔
      d.length = 64 ∧ bit frame 63 = true := by
    rw [← UInt8.toNat_inj]
    apply and_congr_right
    intro hlength
    have hlength : d.length.toNat = 64 := hlength
    have hstart : d.startBit.toNat + 63 = 63 := by omega
    rw [intelBit, hstart]
  have hvalue := toInt_rawSigned hpos (by omega) frame
  have hunsignedValue : value false (intelField d frame) = (intelField d frame).toNat := rfl
  simp only [hunsigned, htop, true_and, hunsignedValue] at hvalue
  rw [← hsum, hvalue]
  split
  · next hset =>
    have hlength : d.length.toNat = 64 := congrArg UInt8.toNat hset.1
    have hfull : (2 : Int) ^ d.length.toNat = 2 ^ 64 := by rw [hlength]
    refine ⟨?_, ?_⟩
    · intro h
      omega
    · exact absurd hset
  · next hclear =>
    rw [Int.sub_zero]
    exact iff_of_true ⟨rfl, Int.natCast_nonneg _, hbound⟩ hclear

def fifteen : CanFrame := frameOf #v[0xE0, 0x01, 0, 0, 0, 0, 0, 0]

theorem rawSigned_eq_sum_fifteen :
    (rawSigned (intelSignal 5 12 false) fifteen).toInt =
        ∑ i ∈ Finset.range 12 with bit fifteen (5 + i), 2 ^ i ∧
      0 ≤ (rawSigned (intelSignal 5 12 false) fifteen).toInt ∧
      (rawSigned (intelSignal 5 12 false) fifteen).toInt < 2 ^ 12 :=
  (rawSigned_eq_sum_iff (d := intelSignal 5 12 false) rfl (by decide) fifteen (by decide)).mpr
    (by decide)

def topBit : CanFrame := frameOf #v[0, 0, 0, 0, 0, 0, 0, 0x80]

/-- The highest of 64 bits makes the number negative. -/
theorem rawSigned_negative_full_width :
    (intelSignal 0 64 false).isSigned = false ∧ 1 ≤ (intelSignal 0 64 false).length.toNat ∧
      (intelSignal 0 64 false).startBit.toNat + (intelSignal 0 64 false).length.toNat ≤
        8 * topBit.dlc.toNat ∧
      ¬0 ≤ (rawSigned (intelSignal 0 64 false) topBit).toInt := by
  decide

end SdvGateway.CanLayer.IntelSignals
