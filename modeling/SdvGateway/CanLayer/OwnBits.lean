import SdvGateway.CanLayer.DecodeCompleteness
import SdvGateway.CanLayer.IntelSignals

/-! What a decoded value depends on. The bytes beyond the frame's length, which the
reader leaves as they were on its stack, are not among it. -/
namespace SdvGateway.CanLayer.OwnBits
open Common SignalDecoder CanReader FrameIdentity DecodeCompleteness RawValue IntelSignals
open Library BitField Grouping

def values (name : Str) (results : List DecodedSignal) : List Double :=
  (group DecodedSignal.name name results).map (·.value)

/-- The frames hold the same bits of the definition, as far as they hold bits. -/
def AgreeOn (d : SignalDef) (frame other : CanFrame) : Prop :=
  ∀ n < d.startBit.toNat + d.length.toNat, d.startBit.toNat ≤ n →
    n < 8 * frame.dlc.toNat → bit frame n = bit other n

instance (d : SignalDef) (frame other : CanFrame) : Decidable (AgreeOn d frame other) :=
  inferInstanceAs (Decidable (∀ n < _, _ → _ → _))

def padded (frame : CanFrame) : CanFrame where
  canId := frame.canId
  dlc := 8
  data := Vector.ofFn fun byte => if byte.val < frame.dlc.toNat then frame.data.get byte else 0
  dlc_le := eight_le_eight

theorem rawSigned_congr {d : SignalDef} {frame other : CanFrame}
    (h : ∀ i < d.length.toNat, intelBit d frame i = intelBit d other i) :
    rawSigned d frame = rawSigned d other := by
  have hfield : intelField d frame = intelField d other :=
    (field_eq_iff _ (intelBit d frame) (intelBit d other)).mpr h
  have hraw : extractBits d frame ((List.range d.length.toNat).map UInt8.ofNat) 0 =
      extractBits d other ((List.range d.length.toNat).map UInt8.ofNat) 0 := by
    apply UInt64.toBitVec_inj.mp
    apply BitVec.eq_of_getLsbD_eq
    intro j _
    rw [getLsbD_extractBits, getLsbD_extractBits, hfield]
  unfold rawSigned
  rw [hraw]

theorem rawSigned_agreeOn {d : SignalDef} {frame other : CanFrame}
    (hdlc : frame.dlc = other.dlc) (h : AgreeOn d frame other) :
    rawSigned d frame = rawSigned d other := by
  apply rawSigned_congr
  intro i hi
  unfold intelBit
  by_cases hin : d.startBit.toNat + i < 8 * frame.dlc.toNat
  · exact h _ (by omega) (by omega) hin
  · rw [bit_of_end (by omega), bit_of_end (by rw [← hdlc]; omega)]

theorem bit_translate (uninitialised other : Vector UInt8 8) (raw : KernelFrame) (n : Nat) :
    bit (translate uninitialised raw) n = bit (translate other raw) n := by
  by_cases hn : n < 8 * raw.canDlc.toNat
  · have hle : raw.canDlc.toNat ≤ 8 := raw.canDlc_le
    have hread : n / 8 < raw.canDlc.toNat := by omega
    rw [bit_ofFn (translate uninitialised raw) rfl hn (by omega),
      bit_ofFn (translate other raw) rfl hn (by omega), if_pos hread, if_pos hread]
  · rw [bit_of_end (show 8 * raw.canDlc.toNat ≤ n by omega),
      bit_of_end (show 8 * raw.canDlc.toNat ≤ n by omega)]

theorem bit_padded (frame : CanFrame) (n : Nat) : bit (padded frame) n = bit frame n := by
  by_cases hn : n < 64
  · rw [bit_ofFn (padded frame) rfl hn (by omega)]
    by_cases hread : n / 8 < frame.dlc.toNat
    · rw [if_pos hread, bit, dif_pos hread]
    · rw [if_neg hread, bit, dif_neg hread]
      exact Nat.zero_testBit _
  · have hdlc := dlc_le frame
    rw [bit_of_end (show 8 * 8 ≤ n by omega), bit_of_end (by omega)]

private theorem decode_congr (fpu : Fpu) (clock : Str → Int) (signals : SignalTable)
    {frame other : CanFrame} (hid : frame.canId = other.canId)
    (h : ∀ n, bit frame n = bit other n) :
    decode fpu clock signals frame = decode fpu clock signals other := by
  have hraw (d : SignalDef) : rawSigned d frame = rawSigned d other :=
    rawSigned_congr fun i _ => h _
  simp only [decode, hid, hraw]

private theorem values_decode_agreeOn (fpu : Fpu) (clock clock' : Str → Int) (signals : SignalTable)
    {frame other : CanFrame} (hid : frame.canId = other.canId) (hdlc : frame.dlc = other.dlc)
    {name : Str} {d : SignalDef} (hlookup : signals.lookup name = some d)
    (h : AgreeOn d frame other) :
    values name (decode fpu clock signals frame) =
      values name (decode fpu clock' signals other) := by
  unfold values
  rw [group_decode, group_decode, hlookup, hid]
  by_cases hmatch : d.canId = other.canId
  · simp [hmatch, entry, rawSigned_agreeOn hdlc h]
  · simp [hmatch]

/-- Other bits of the frame, what the reader's stack held and zeros after the end
make no difference to a value. -/
theorem decode_own_bits (fpu : Fpu) (signals : SignalTable) :
    (∀ (clock clock' : Str → Int) (frame other : CanFrame), frame.canId = other.canId →
        frame.dlc = other.dlc → ∀ name d, signals.lookup name = some d →
        AgreeOn d frame other →
        values name (decode fpu clock signals frame) =
          values name (decode fpu clock' signals other)) ∧
      (∀ clock uninitialised uninitialised' raw,
        decode fpu clock signals (translate uninitialised raw) =
          decode fpu clock signals (translate uninitialised' raw)) ∧
      ∀ clock frame, decode fpu clock signals (padded frame) = decode fpu clock signals frame := by
  refine ⟨?_, ?_, ?_⟩
  · intro clock clock' frame other hid hdlc name d hlookup h
    exact values_decode_agreeOn fpu clock clock' signals hid hdlc hlookup h
  · intro clock uninitialised uninitialised' raw
    apply decode_congr
    · rfl
    · exact bit_translate uninitialised uninitialised' raw
  · intro clock frame
    apply decode_congr
    · rfl
    · exact bit_padded frame

def speedTable : SignalTable := AList.singleton speed (intelSignal 40 16 false)

theorem decode_own_bits_speed :
    values speed (decode sampleFpu (fun _ => 0) speedTable
        (frameOf #v[1, 2, 3, 4, 5, 0x10, 0x27, 8])) =
      values speed (decode sampleFpu (fun _ => 1) speedTable
        (frameOf #v[0, 0, 0, 0, 0, 0x10, 0x27, 0])) :=
  (decode_own_bits sampleFpu speedTable).1 (fun _ => 0) (fun _ => 1) _ _ rfl rfl speed
    (intelSignal 40 16 false) (by decide) (by decide)

end SdvGateway.CanLayer.OwnBits
