import SdvGateway.CanLayer.FrameIdentity
import SdvGateway.CanLayer.OwnBits

/-! The operands that decoding meets. An index past the data and a shift by less
than zero or by the whole width have no meaning in the language of the source. -/
namespace SdvGateway.CanLayer.DefinedDecoding
open Common DbcLine SignalDecoder FrameIdentity RawValue IntelSignals

inductive Operation where
  /-- `position` is the sum before it is cut to eight bits. -/
  | read (position : Nat) (byteIdx : UInt8)
  | shift (amount : Int)
deriving DecidableEq

/-- The index is below the frame's length and the sum has not wrapped; the amount is
below 64. -/
def Operation.Defined (frame : CanFrame) : Operation → Prop
  | read position byteIdx => byteIdx < frame.dlc ∧ position < 256
  | shift amount => 0 ≤ amount ∧ amount ≤ 63

instance (frame : CanFrame) : (operation : Operation) → Decidable (operation.Defined frame)
  | .read _ _ => inferInstanceAs (Decidable (_ ∧ _))
  | .shift _ => inferInstanceAs (Decidable (_ ∧ _))

def loggedBits (d : SignalDef) (frame : CanFrame) :
    List UInt8 → UInt64 → List Operation × UInt64
  | [], raw => ([], raw)
  | i :: rest, raw =>
    let bitPos := d.startBit + i
    let byteIdx := bitPos / 8
    let bitIdx := bitPos % 8
    if h : byteIdx < frame.dlc then
      let byte := frame.data.get ⟨byteIdx.toNat, byteIdx_lt_eight h⟩
      let test := [.read (d.startBit.toNat + i.toNat) byteIdx, .shift bitIdx.toNat]
      if byte &&& (1 <<< bitIdx) ≠ 0 then
        let (operations, result) := loggedBits d frame rest (raw ||| (1 <<< i.toUInt64))
        (test ++ .shift i.toNat :: operations, result)
      else
        let (operations, result) := loggedBits d frame rest raw
        (test ++ operations, result)
    else ([], raw)

def loggedRaw (d : SignalDef) (frame : CanFrame) : List Operation × Int64 :=
  let (operations, raw) := loggedBits d frame ((List.range d.length.toNat).map UInt8.ofNat) 0
  if d.isSigned then
    let signBit : UInt64 := 1 <<< (d.length.toUInt64 - 1)
    (operations ++ [.shift (d.length.toNat - 1)],
      if raw &&& signBit ≠ 0 then (raw ||| ~~~(signBit - 1)).toInt64 else raw.toInt64)
  else (operations, raw.toInt64)

def operations (signals : SignalTable) (frame : CanFrame) : List Operation :=
  signals.entries.flatMap fun entry =>
    if entry.2.canId ≠ frame.canId then [] else (loggedRaw entry.2 frame).1

private theorem loggedBits_snd (d : SignalDef) (frame : CanFrame) (bits : List UInt8)
    (raw : UInt64) : (loggedBits d frame bits raw).2 = extractBits d frame bits raw := by
  induction bits generalizing raw with
  | nil => rfl
  | cons i rest ih =>
    unfold loggedBits extractBits
    dsimp only
    split
    · split
      · exact ih _
      · exact ih _
    · rfl

private theorem loggedRaw_snd (d : SignalDef) (frame : CanFrame) :
    (loggedRaw d frame).2 = rawSigned d frame := by
  have hbits := loggedBits_snd d frame ((List.range d.length.toNat).map UInt8.ofNat) 0
  unfold loggedRaw rawSigned
  dsimp only
  rw [hbits]
  split <;> rfl

theorem decode_logged (fpu : Fpu) (clock : Str → Int) (signals : SignalTable)
    (frame : CanFrame) :
    decode fpu clock signals frame = signals.entries.filterMap fun entry =>
      if entry.2.canId ≠ frame.canId then none
      else some {
        name := entry.1
        value := fpu.mulAdd (fpu.ofInt64 (loggedRaw entry.2 frame).2) entry.2.scale entry.2.offset
        unit := entry.2.unit
        timestamp := clock entry.1 } := by
  simp only [loggedRaw_snd]
  rfl

private theorem loggedBits_defined (d : SignalDef) (frame : CanFrame) (count : Nat) :
    ∀ (k : Nat) (raw : UInt64), d.startBit.toNat + k < 256 →
      ∀ operation ∈ (loggedBits d frame ((List.range' k count).map UInt8.ofNat) raw).1,
        operation.Defined frame := by
  induction count with
  | zero =>
    intro k raw _ operation hmem
    cases hmem
  | succ count ih =>
    intro k raw hsum
    have hdlc := dlc_le frame
    rw [List.range'_succ, List.map_cons, loggedBits]
    dsimp only
    split
    · next hread =>
      have hin := (byteIdx_lt_iff hsum).mp hread
      have hk : (UInt8.ofNat k).toNat = k := by
        rw [UInt8.toNat_ofNat']
        omega
      have hbit : ((d.startBit + UInt8.ofNat k) % 8).toNat < 8 := by
        rw [UInt8.toNat_mod]
        exact Nat.mod_lt _ (by decide)
      have hposition : (Operation.read (d.startBit.toNat + (UInt8.ofNat k).toNat)
          ((d.startBit + UInt8.ofNat k) / 8)).Defined frame := ⟨hread, by omega⟩
      have htest : (Operation.shift ((d.startBit + UInt8.ofNat k) % 8).toNat).Defined frame :=
        ⟨by omega, by omega⟩
      have hset : (Operation.shift (UInt8.ofNat k).toNat).Defined frame := ⟨by omega, by omega⟩
      have hrest (raw' : UInt64) := ih (k + 1) raw' (by omega)
      split
      · simp only [List.cons_append, List.nil_append, List.forall_mem_cons]
        exact ⟨hposition, htest, hset, hrest _⟩
      · simp only [List.cons_append, List.nil_append, List.forall_mem_cons]
        exact ⟨hposition, htest, hrest _⟩
    · intro operation hmem
      contradiction

private theorem loggedRaw_defined_iff (d : SignalDef) (frame : CanFrame) :
    (∀ operation ∈ (loggedRaw d frame).1, operation.Defined frame) ↔
      (d.isSigned = true → 1 ≤ d.length.toNat ∧ d.length.toNat ≤ 64) := by
  have hloop : ∀ operation ∈ (loggedBits d frame ((List.range d.length.toNat).map UInt8.ofNat)
      0).1, operation.Defined frame := by
    rw [List.range_eq_range']
    exact loggedBits_defined d frame d.length.toNat 0 0 d.startBit.toNat_lt
  unfold loggedRaw
  dsimp only
  cases d.isSigned with
  | true =>
    have hshift : (Operation.shift (d.length.toNat - 1)).Defined frame ↔
        1 ≤ d.length.toNat ∧ d.length.toNat ≤ 64 := by
      unfold Operation.Defined
      omega
    rw [if_pos rfl, List.forall_mem_append, List.forall_mem_singleton, hshift]
    refine ⟨?_, ?_⟩
    · intro h _
      exact h.2
    · intro h
      exact ⟨hloop, h rfl⟩
  | false => simpa using hloop

/-- Everything that decoding a frame does is defined exactly when its signed signals
have lengths that a 64-bit number can hold. -/
theorem decode_defined_iff (signals : SignalTable) (frame : CanFrame) :
    (∀ operation ∈ operations signals frame, operation.Defined frame) ↔
      ∀ name d, signals.lookup name = some d → d.canId = frame.canId → d.isSigned = true →
        1 ≤ d.length.toNat ∧ d.length.toNat ≤ 64 := by
  unfold operations
  rw [List.forall_mem_flatMap]
  refine ⟨?_, ?_⟩
  · intro h name d hlookup hid
    have hentry := h ⟨name, d⟩ (AList.mem_lookup_iff.mp hlookup)
    rw [if_neg (not_not.mpr hid)] at hentry
    exact (loggedRaw_defined_iff d frame).mp hentry
  · intro h entry hentry
    split
    · intro operation hmem
      cases hmem
    · next hid =>
      have hlookup : signals.lookup entry.1 = some entry.2 := AList.mem_lookup_iff.mpr hentry
      exact (loggedRaw_defined_iff entry.2 frame).mpr (h entry.1 entry.2 hlookup (not_not.mp hid))

def emptySignal : Str :=
  lit "BO_ 180 ENGINE_DATA: 8 ECU\n" ++
    lit " SG_ VEHICLE_SPEED : 40|0@1- (0.01,0) [0|250] \"km/h\" TCU\n"

theorem decode_undefined_empty_signal :
    (load sampleFpu (some emptySignal) [speed] ∅).1 = .ok true ∧
      Operation.shift (-1) ∈ operations (load sampleFpu (some emptySignal) [speed] ∅).2
        (frameOf (Vector.replicate 8 0)) ∧
      ¬(Operation.shift (-1)).Defined (frameOf (Vector.replicate 8 0)) := by
  decide +kernel

end SdvGateway.CanLayer.DefinedDecoding
