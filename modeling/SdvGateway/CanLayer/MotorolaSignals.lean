import SdvGateway.CanLayer.IntelSignals

/-! Motorola signals: the start bit is the most significant bit, and the others
follow it down to bit 0 of the byte and on from bit 7 of the next one. The decoder
keeps the byte order of a definition and does not look at it. -/
namespace SdvGateway.CanLayer.MotorolaSignals
open Common SignalDecoder RawValue IntelSignals Library BitField

def motorolaNext (n : Nat) : Nat := if n % 8 = 0 then n + 15 else n - 1

/-- The place of the bit that comes `k` bits after the most significant one. -/
def motorolaPos (start : Nat) : Nat → Nat
  | 0 => start
  | k + 1 => motorolaNext (motorolaPos start k)

/-- The bits of the definition's big-endian reading, from the least significant one. -/
def motorolaBit (d : SignalDef) (frame : CanFrame) (i : Nat) : Bool :=
  bit frame (motorolaPos d.startBit.toNat (d.length.toNat - 1 - i))

def motorolaField (d : SignalDef) (frame : CanFrame) : BitVec d.length.toNat :=
  field d.length.toNat (motorolaBit d frame)

def LiesInside (d : SignalDef) (dlc : UInt8) : Prop :=
  1 ≤ d.length.toNat ∧ ∀ k < d.length.toNat, motorolaPos d.startBit.toNat k < 8 * dlc.toNat

instance (d : SignalDef) (dlc : UInt8) : Decidable (LiesInside d dlc) :=
  inferInstanceAs (Decidable (_ ∧ ∀ k < _, _))

def ReadsMotorola (d : SignalDef) (frame : CanFrame) : Prop :=
  (rawSigned d frame).toInt = value d.isSigned (motorolaField d frame)

instance (d : SignalDef) (frame : CanFrame) : Decidable (ReadsMotorola d frame) :=
  inferInstanceAs (Decidable (_ = _))

def mirror (n : Nat) : Nat := 8 * (n / 8) + 7 - n % 8

theorem motorolaPos_eq (start k : Nat) : motorolaPos start k = mirror (mirror start + k) := by
  induction k with
  | zero =>
    unfold motorolaPos mirror
    omega
  | succ k ih =>
    rw [motorolaPos, ih]
    unfold motorolaNext mirror
    split <;> omega

theorem motorolaPos_ne {start k : Nat} (hk : 0 < k) : motorolaPos start k ≠ start := by
  rw [motorolaPos_eq]
  unfold mirror
  omega

theorem LiesInside.room {d : SignalDef} {dlc : UInt8} (h : LiesInside d dlc) :
    mirror d.startBit.toNat + d.length.toNat ≤ 8 * dlc.toNat := by
  have hpos := h.1
  have hlast := h.2 (d.length.toNat - 1) (by omega)
  rw [motorolaPos_eq] at hlast
  unfold mirror at hlast ⊢
  omega

theorem readsMotorola_iff {d : SignalDef} {frame : CanFrame}
    (hinside : LiesInside d frame.dlc) :
    ReadsMotorola d frame ↔ ∀ i < d.length.toNat, intelBit d frame i = motorolaBit d frame i := by
  have hdlc := dlc_le frame
  have hroom := hinside.room
  -- Eight bytes of Motorola bits do not start at the first bit.
  have hkeep : ¬(d.isSigned = false ∧ d.length.toNat = 64 ∧ intelBit d frame 63 = true) := by
    intro hlost
    have hfull := hlost.2.1
    have hnone : intelBit d frame 63 = false := by
      apply bit_of_end
      unfold mirror at hroom
      omega
    exact absurd hlost.2.2 (by simp [hnone])
  rw [ReadsMotorola, toInt_rawSigned hinside.1 (by omega), if_neg hkeep, Int.sub_zero, value_inj,
    intelField, motorolaField, field_eq_iff]

def singleBit (dlc : UInt8) (hdlc : dlc ≤ 8) (n : Nat) : CanFrame :=
  write ⟨180, dlc, Vector.ofFn fun _ => 0, hdlc⟩ n 1#1

private theorem bit_singleBit {dlc : UInt8} (hdlc : dlc ≤ 8) (n : Nat) {m : Nat}
    (hm : m < 8 * dlc.toNat) : bit (singleBit dlc hdlc n) m = decide (m = n) := by
  have hle : dlc.toNat ≤ 8 := hdlc
  rw [singleBit, bit_write _ _ _ hm, bit_ofFn _ rfl hm (by omega)]
  by_cases hsame : m = n
  · subst hsame
    rw [if_pos ⟨Nat.le_refl m, Nat.lt_succ_self m⟩, Nat.sub_self, decide_eq_true rfl]
    rfl
  · have hother : ¬(n ≤ m ∧ m < n + 1) := by omega
    rw [if_neg hother, decide_eq_false hsame]
    exact Nat.zero_testBit _

/-- The decoder reads the bits upwards from the start bit. It agrees with the
big-endian reading on the frames where both ways meet the same bits, and a
definition does so on every frame only when it has a single bit. -/
theorem readsMotorola_exact {d : SignalDef} (dlc : UInt8) (hdlc : dlc ≤ 8)
    (hinside : LiesInside d dlc) :
    (∀ frame : CanFrame, frame.dlc = dlc → (ReadsMotorola d frame ↔
        ∀ i < d.length.toNat, intelBit d frame i = motorolaBit d frame i)) ∧
      ((∀ frame : CanFrame, frame.dlc = dlc → ReadsMotorola d frame) ↔ d.length = 1) := by
  have hframe : ∀ frame : CanFrame, frame.dlc = dlc → (ReadsMotorola d frame ↔
      ∀ i < d.length.toNat, intelBit d frame i = motorolaBit d frame i) := by
    intro frame hsame
    subst hsame
    exact readsMotorola_iff hinside
  refine ⟨hframe, ?_⟩
  have hpos := hinside.1
  refine ⟨?_, ?_⟩
  · intro hall
    by_contra hlength
    have hlong : 1 < d.length.toNat := by
      have hne : d.length.toNat ≠ 1 := fun heq => hlength (UInt8.toNat_inj.mp heq)
      omega
    -- Only the least significant bit is set, which is not the start bit.
    have hread := (hframe _ rfl).mp
      (hall (singleBit dlc hdlc (motorolaPos d.startBit.toNat (d.length.toNat - 1))) rfl) 0 hpos
    have hstart : d.startBit.toNat < 8 * dlc.toNat := hinside.2 0 hpos
    rw [intelBit, motorolaBit, Nat.sub_zero, Nat.add_zero, bit_singleBit hdlc _ hstart,
      bit_singleBit hdlc _ (hinside.2 _ (by omega)), decide_eq_true rfl,
      decide_eq_true_iff] at hread
    exact motorolaPos_ne (by omega) hread.symm
  · intro hlength frame hsame
    have hone : d.length.toNat = 1 := congrArg UInt8.toNat hlength
    rw [hframe frame hsame]
    intro i hi
    have hzero : i = 0 := by omega
    subst hzero
    rw [intelBit, motorolaBit, hone]
    rfl

def motorolaSignal (startBit length : UInt8) (isSigned : Bool) : SignalDef :=
  { intelSignal startBit length isSigned with isLittleEndian := false }

theorem readsMotorola_flag :
    (∀ frame : CanFrame, frame.dlc = 8 → (ReadsMotorola (motorolaSignal 7 1 false) frame ↔
        ∀ i < (motorolaSignal 7 1 false).length.toNat,
          intelBit (motorolaSignal 7 1 false) frame i =
            motorolaBit (motorolaSignal 7 1 false) frame i)) ∧
      ((∀ frame : CanFrame, frame.dlc = 8 → ReadsMotorola (motorolaSignal 7 1 false) frame) ↔
        (motorolaSignal 7 1 false).length = 1) :=
  readsMotorola_exact (d := motorolaSignal 7 1 false) 8 (by decide) (by decide)

/-- The bytes 12 34 hold 0x1234 for a signal that starts at bit 7. -/
theorem not_readsMotorola_two_bytes :
    (motorolaSignal 7 16 false).isLittleEndian = false ∧ LiesInside (motorolaSignal 7 16 false) 8 ∧
      value false (motorolaField (motorolaSignal 7 16 false)
        (frameOf #v[0x12, 0x34, 0, 0, 0, 0, 0, 0])) = 0x1234 ∧
      (rawSigned (motorolaSignal 7 16 false)
        (frameOf #v[0x12, 0x34, 0, 0, 0, 0, 0, 0])).toInt = 0x68 := by
  decide

end SdvGateway.CanLayer.MotorolaSignals
