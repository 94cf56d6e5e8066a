import SdvGateway.CanLayer.SignalDecoder
import SdvGateway.Library.BitField

/-! The integer that a signal is decoded to before it is scaled. The loop over the
bits reads a field of the frame, and the rest of the code extends it to 64 bits. -/
namespace SdvGateway.CanLayer.RawValue
open Common SignalDecoder Library BitField

def bit (frame : CanFrame) (n : Nat) : Bool :=
  if h : n / 8 < frame.dlc.toNat then
    (frame.data.get ⟨n / 8, Nat.lt_of_lt_of_le h frame.dlc_le⟩).toNat.testBit (n % 8)
  else false

theorem dlc_le (frame : CanFrame) : frame.dlc.toNat ≤ 8 := frame.dlc_le

theorem eight_le_eight : (8 : UInt8) ≤ 8 := by decide

theorem byteIdx_lt_eight {frame : CanFrame} {byteIdx : UInt8} (h : byteIdx < frame.dlc) :
    byteIdx.toNat < 8 :=
  Nat.lt_of_lt_of_le h frame.dlc_le

theorem bit_of_end {frame : CanFrame} {n : Nat} (h : 8 * frame.dlc.toNat ≤ n) :
    bit frame n = false := by
  unfold bit
  rw [dif_neg]
  omega

theorem bit_ofFn (frame : CanFrame) {byte : Fin 8 → UInt8} (hdata : frame.data = Vector.ofFn byte)
    {n : Nat} (hn : n < 8 * frame.dlc.toNat) (hbyte : n / 8 < 8) :
    bit frame n = (byte ⟨n / 8, hbyte⟩).toNat.testBit (n % 8) := by
  have hread : n / 8 < frame.dlc.toNat := by omega
  have hget : frame.data.get ⟨n / 8, hbyte⟩ = byte ⟨n / 8, hbyte⟩ := by
    rw [hdata]
    exact Vector.getElem_ofFn hbyte
  rw [bit, dif_pos hread, hget]

/-- The bits that the code tests for a definition, from the least significant one. -/
def intelBit (d : SignalDef) (frame : CanFrame) (i : Nat) : Bool :=
  bit frame (d.startBit.toNat + i)

theorem toNat_bitPos {d : SignalDef} {k : Nat} (hsum : d.startBit.toNat + k < 256) :
    (d.startBit + UInt8.ofNat k).toNat = d.startBit.toNat + k := by
  rw [UInt8.toNat_add, UInt8.toNat_ofNat']
  omega

theorem byteIdx_lt_iff {d : SignalDef} {frame : CanFrame} {k : Nat}
    (hsum : d.startBit.toNat + k < 256) :
    (d.startBit + UInt8.ofNat k) / 8 < frame.dlc ↔
      d.startBit.toNat + k < 8 * frame.dlc.toNat := by
  rw [UInt8.lt_iff_toNat_lt, UInt8.toNat_div, toNat_bitPos hsum]
  change _ / 8 < _ ↔ _
  omega

private theorem extractBits_cons (d : SignalDef) (frame : CanFrame) {k : Nat}
    (hsum : d.startBit.toNat + k < 256) (rest : List UInt8) (raw : UInt64) :
    extractBits d frame (UInt8.ofNat k :: rest) raw =
      if d.startBit.toNat + k < 8 * frame.dlc.toNat then
        extractBits d frame rest
          (if intelBit d frame k then raw ||| (1 <<< UInt64.ofNat k) else raw)
      else raw := by
  have hbyte : ((d.startBit + UInt8.ofNat k) / 8).toNat = (d.startBit.toNat + k) / 8 := by
    rw [UInt8.toNat_div, toNat_bitPos hsum]
    rfl
  have hbit : ((d.startBit + UInt8.ofNat k) % 8).toNat = (d.startBit.toNat + k) % 8 := by
    rw [UInt8.toNat_mod, toNat_bitPos hsum]
    rfl
  have hword : (UInt8.ofNat k).toUInt64 = UInt64.ofNat k := by
    apply UInt64.toNat_inj.mp
    rw [UInt8.toNat_toUInt64, UInt8.toNat_ofNat', UInt64.toNat_ofNat']
    omega
  rw [extractBits]
  by_cases h : d.startBit.toNat + k < 8 * frame.dlc.toNat
  · have hin : (d.startBit.toNat + k) / 8 < frame.dlc.toNat := by omega
    have hbyteIn := Nat.lt_of_lt_of_le hin frame.dlc_le
    have htest : frame.data.get ⟨(d.startBit.toNat + k) / 8, hbyteIn⟩ &&&
        (1 <<< ((d.startBit + UInt8.ofNat k) % 8)) ≠ 0 ↔ intelBit d frame k = true := by
      rw [testBit_of_byte _ (by omega), hbit, intelBit, bit, dif_pos hin]
    rw [dif_pos ((byteIdx_lt_iff hsum).mpr h), if_pos h]
    simp only [hbyte, hword, htest]
    split <;> rfl
  · rw [dif_neg (mt (byteIdx_lt_iff hsum).mp h), if_neg h]

/-- The loop from bit `k` on. A sum that wraps would come after the end of the frame. -/
private theorem extractBits_testBit (d : SignalDef) (frame : CanFrame) (j : Nat) (count : Nat) :
    ∀ (k : Nat) (raw : UInt64), d.startBit.toNat + k < 256 →
      (extractBits d frame ((List.range' k count).map UInt8.ofNat) raw).toNat.testBit j =
        (raw.toNat.testBit j || (decide (k ≤ j ∧ j < k + count) && intelBit d frame j)) := by
  induction count with
  | zero =>
    intro k raw _
    simp [extractBits]
  | succ count ih =>
    intro k raw hsum
    have hdlc := dlc_le frame
    rw [List.range'_succ, List.map_cons, extractBits_cons d frame hsum]
    split
    · next hread =>
      have hk : (UInt64.ofNat k).toNat = k := by
        rw [UInt64.toNat_ofNat']
        omega
      rw [ih (k + 1) _ (by omega)]
      have hset : (if intelBit d frame k then raw ||| (1 <<< UInt64.ofNat k)
          else raw).toNat.testBit j =
          (raw.toNat.testBit j || (decide (k = j) && intelBit d frame j)) := by
        split
        · next hbit =>
          rw [testBit_setBit raw (by omega), hk]
          by_cases hj : k = j
          · simp [← hj, hbit]
          · simp [hj]
        · next hbit =>
          by_cases hj : k = j
          · simp [← hj, hbit]
          · simp [hj]
      rw [hset, Bool.or_assoc, ← Bool.and_or_distrib_right, ← Bool.decide_or]
      have hrange : (k = j ∨ k + 1 ≤ j ∧ j < k + 1 + count) ↔ (k ≤ j ∧ j < k + (count + 1)) := by
        omega
      rw [decide_eq_decide.mpr hrange]
    · next hend =>
      by_cases hj : k ≤ j ∧ j < k + (count + 1)
      · have hnone : intelBit d frame j = false := bit_of_end (by omega)
        simp [hnone]
      · simp [hj]

def intelField (d : SignalDef) (frame : CanFrame) : BitVec d.length.toNat :=
  field d.length.toNat (intelBit d frame)

theorem getLsbD_extractBits (d : SignalDef) (frame : CanFrame) (j : Nat) :
    (extractBits d frame ((List.range d.length.toNat).map UInt8.ofNat) 0).toBitVec.getLsbD j =
      (intelField d frame).getLsbD j := by
  have hstart : d.startBit.toNat + 0 < 256 := d.startBit.toNat_lt
  have hloop := extractBits_testBit d frame j d.length.toNat 0 0 hstart
  rw [List.range_eq_range', intelField, getLsbD_field, ← BitVec.testBit_toNat,
    UInt64.toNat_toBitVec]
  simpa using hloop

private theorem toBitVec_rawSigned_unsigned {d : SignalDef} (hsigned : d.isSigned = false)
    (frame : CanFrame) : (rawSigned d frame).toBitVec = (intelField d frame).setWidth 64 := by
  apply BitVec.eq_of_getLsbD_eq
  intro j hj
  rw [rawSigned, if_neg (by simp [hsigned]), UInt64.toBitVec_toInt64, getLsbD_extractBits,
    BitVec.getLsbD_setWidth, decide_eq_true hj, Bool.true_and]

private theorem toBitVec_rawSigned_signed {d : SignalDef} (hsigned : d.isSigned = true)
    (hpos : 0 < d.length.toNat) (hlength : d.length.toNat ≤ 64) (frame : CanFrame) :
    (rawSigned d frame).toBitVec = (intelField d frame).signExtend 64 := by
  have hlast : (d.length.toUInt64 - 1).toNat = d.length.toNat - 1 := by
    have hle : (1 : UInt64) ≤ d.length.toUInt64 := by
      rw [UInt64.le_iff_toNat_le, UInt8.toNat_toUInt64]
      exact hpos
    rw [UInt64.toNat_sub_of_le _ _ hle, UInt8.toNat_toUInt64]
    rfl
  have hbound : (d.length.toUInt64 - 1).toNat < 64 := by omega
  have hmsb : (intelField d frame).msb = (intelField d frame).getLsbD (d.length.toNat - 1) :=
    BitVec.msb_eq_getLsbD_last _
  have htest := testBit_of_word
    (extractBits d frame ((List.range d.length.toNat).map UInt8.ofNat) 0) hbound
  rw [hlast, ← UInt64.toNat_toBitVec, BitVec.testBit_toNat, getLsbD_extractBits, ← hmsb] at htest
  apply BitVec.eq_of_getLsbD_eq
  intro j hj
  rw [rawSigned, if_pos hsigned, BitVec.getLsbD_signExtend, decide_eq_true hj, Bool.true_and]
  simp only [htest]
  cases hsign : (intelField d frame).msb with
  | true =>
    rw [if_pos rfl, UInt64.toBitVec_toInt64, UInt64.toBitVec_or, BitVec.getLsbD_or,
      getLsbD_extractBits, getLsbD_highBits hbound hj, hlast]
    split
    · next hlow =>
      by_cases htop : d.length.toNat - 1 ≤ j
      · have heq : j = d.length.toNat - 1 := by omega
        rw [heq, ← hmsb, hsign]
        rfl
      · rw [decide_eq_false htop, Bool.or_false]
    · next hhigh => rw [decide_eq_true (by omega), Bool.or_true]
  | false =>
    rw [if_neg (by decide), UInt64.toBitVec_toInt64, getLsbD_extractBits]
    split
    · rfl
    · next hhigh => exact BitVec.getLsbD_of_ge _ _ (by omega)

/-- The integer that is decoded. An unsigned field of the full width loses 2^64
where its top bit is set. -/
theorem toInt_rawSigned {d : SignalDef} (hpos : 0 < d.length.toNat)
    (hlength : d.length.toNat ≤ 64) (frame : CanFrame) :
    (rawSigned d frame).toInt = value d.isSigned (intelField d frame) -
      if d.isSigned = false ∧ d.length.toNat = 64 ∧ intelBit d frame 63 = true then 2 ^ 64
      else 0 := by
  rw [← Int64.toInt_toBitVec]
  cases hsigned : d.isSigned with
  | true =>
    rw [toBitVec_rawSigned_signed hsigned hpos hlength, BitVec.toInt_signExtend_of_le hlength]
    simp [value]
  | false =>
    have htop : ((intelField d frame).setWidth 64).msb = true ↔
        d.length.toNat = 64 ∧ intelBit d frame 63 = true := by
      have hfull : 63 < d.length.toNat ↔ d.length.toNat = 64 := by omega
      rw [BitVec.msb_eq_getLsbD_last, BitVec.getLsbD_setWidth, intelField, getLsbD_field]
      simp [hfull]
    rw [toBitVec_rawSigned_unsigned hsigned, BitVec.toInt_eq_msb_cond,
      BitVec.toNat_setWidth_of_le hlength]
    by_cases hset : d.length.toNat = 64 ∧ intelBit d frame 63 = true
    · rw [if_pos (htop.mpr hset), if_pos ⟨rfl, hset⟩]
      rfl
    · rw [if_neg (mt htop.mp hset), if_neg (fun h => hset h.2), Int.sub_zero]
      rfl

end SdvGateway.CanLayer.RawValue
