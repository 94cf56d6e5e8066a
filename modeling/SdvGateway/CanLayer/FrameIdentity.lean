import SdvGateway.CanLayer.CanReader
import SdvGateway.CanLayer.SignalDecoder

/-! Which frames a signal is decoded from. In a DBC file bit 31 of a `BO_` number
marks an extended identifier; the loader keeps that bit in the number, while the
reader takes all flags off the frame. -/
namespace SdvGateway.CanLayer.FrameIdentity
open Common DbcLine SignalDecoder CanReader

def boNumber (line : Str) : Option Nat := (boSearch line).map decimal

def declares (name line : Str) : Bool :=
  boSearch line = none && (sgSearch line).map (·.name) = some name

def blockAbove (linesUpwards : List Str) : Option Nat := linesUpwards.findSome? boNumber

/-- The block of a signal: the one its last `SG_` line stands in, which is
`some none` when there is no `BO_` line above it. -/
def blockOf (name : Str) : List Str → Option (Option Nat)
  | [] => none
  | line :: above => if declares name line then some (blockAbove above) else blockOf name above

def IsFrameOf (number : Nat) (raw : KernelFrame) : Prop :=
  raw.isData = true ∧ raw.isExtended = number.testBit 31 ∧
    raw.identifier.toNat = if number.testBit 31 then number - 2 ^ 31 else number

instance (number : Nat) (raw : KernelFrame) : Decidable (IsFrameOf number raw) :=
  inferInstanceAs (Decidable (_ ∧ _))

def tableId (block : Option Nat) : UInt32 := UInt32.ofNat (block.getD 0)

structure Loaded (signalNames : List Str) (above : List Str) (state : LoadState) : Prop where
  current : state.currentCanId = tableId (blockAbove above)
  canId : ∀ name, (state.signals.lookup name).map (·.canId) =
    if name ∈ signalNames then (blockOf name above).map tableId else none

theorem signalDef_canId {fpu : Fpu} {currentCanId : UInt32} {m : SgMatch} {d : SignalDef}
    (h : signalDef fpu currentCanId m = .ok d) : d.canId = currentCanId := by
  simp only [signalDef, bind_eq_ok] at h
  obtain ⟨_, _, _, _, _, _, _, _, h⟩ := h
  cases h
  rfl

theorem stoul_boSearch {line number : Str} {canId : UInt64} (hbo : boSearch line = some number)
    (h : stoul number = .ok canId) : canId.toUInt32 = tableId (some (decimal number)) := by
  have hdigits := boSearch_digits hbo
  rw [stoul_digits hdigits.1 hdigits.2] at h
  split at h
  · contradiction
  · cases h
    apply UInt32.toNat_inj.mp
    simp [tableId]

private theorem blockAbove_cons_none {line : Str} (hbo : boSearch line = none) (above : List Str) :
    blockAbove (line :: above) = blockAbove above := by
  simp [blockAbove, boNumber, hbo]

private theorem blockAbove_cons_some {line number : Str} (hbo : boSearch line = some number)
    (above : List Str) : blockAbove (line :: above) = some (decimal number) := by
  simp [blockAbove, boNumber, hbo]

theorem current_line {fpu : Fpu} {signalNames above : List Str} {state state' : LoadState}
    {line : Str} (h : state.currentCanId = tableId (blockAbove above))
    (hline : LoadStep fpu signalNames state line state') :
    state'.currentCanId = tableId (blockAbove (line :: above)) := by
  cases hline with
  | block hbo hnumber =>
    rw [blockAbove_cons_some hbo]
    exact stoul_boSearch hbo hnumber
  | other hbo | unwanted hbo | signal hbo =>
    rw [blockAbove_cons_none hbo]
    exact h

theorem blockOf_cons_false {name line : Str} (h : declares name line = false)
    (above : List Str) : blockOf name (line :: above) = blockOf name above := by
  simp [blockOf, h]

theorem loaded_nil (signalNames : List Str) : Loaded signalNames [] ⟨0, ∅⟩ := by
  constructor
  · rfl
  · intro name
    simp [blockOf]

theorem loaded_line {fpu : Fpu} {signalNames above : List Str} {state state' : LoadState}
    {line : Str} (h : Loaded signalNames above state)
    (hline : LoadStep fpu signalNames state line state') :
    Loaded signalNames (line :: above) state' := by
  constructor
  · exact current_line h.current hline
  · intro name
    cases hline with
    | block hbo hnumber =>
      rw [blockOf_cons_false (by simp [declares, hbo])]
      exact h.canId name
    | other hbo hsg =>
      rw [blockOf_cons_false (by simp [declares, hsg])]
      exact h.canId name
    | @unwanted m hbo hsg hname =>
      by_cases hsame : m.name = name
      · subst hsame
        have hbefore := h.canId m.name
        rw [if_neg hname] at hbefore ⊢
        exact hbefore
      · rw [blockOf_cons_false (by simp [declares, hbo, hsg, hsame])]
        exact h.canId name
    | @signal m d hbo hsg hname hd =>
      by_cases hsame : m.name = name
      · subst hsame
        simp [blockOf, declares, hbo, hsg, hname, signalDef_canId hd, h.current]
      · have hne : name ≠ m.name := fun heq => hsame heq.symm
        rw [blockOf_cons_false (by simp [declares, hbo, hsg, hsame]), AList.lookup_insert_ne hne]
        exact h.canId name

theorem load_canId {fpu : Fpu} {text : Str} {signalNames : List Str}
    (hload : (load fpu (some text) signalNames ∅).1 = .ok true) {name : Str}
    (hname : name ∈ signalNames) :
    ((load fpu (some text) signalNames ∅).2.lookup name).map (·.canId) =
      (blockOf name (getlines text).reverse).map tableId := by
  obtain ⟨last, hlast, htable⟩ :=
    load_invariant (loaded_nil signalNames) (fun _ _ _ _ h hline => loaded_line h hline) hload
  rw [htable, hlast.canId name, if_pos hname]

/-- Where the kept id tells the frames of a block from all others: an extended
block is not met by its own frames, whose flag the reader has removed, and an id
is met by frames of every kind that carry the number modulo 2^32. -/
def Distinguished (block : Option (Option Nat)) (raw : KernelFrame) : Prop :=
  match block with
  | none => True
  | some none => raw.identifier ≠ 0
  | some (some number) =>
    (number.testBit 31 = true → ¬IsFrameOf number raw) ∧
      (raw.identifier.toNat = number % 2 ^ 32 →
        number < 2 ^ 32 ∧ raw.isData = true ∧ raw.isExtended = false)

instance (block : Option (Option Nat)) (raw : KernelFrame) :
    Decidable (Distinguished block raw) :=
  match block with
  | none => isTrue trivial
  | some none => inferInstanceAs (Decidable (_ ≠ _))
  | some (some _) => inferInstanceAs (Decidable (_ ∧ _))

theorem tableId_eq_iff (number : Nat) (id : UInt32) :
    tableId (some number) = id ↔ id.toNat = number % 2 ^ 32 := by
  rw [← UInt32.toNat_inj]
  simp only [tableId, Option.getD_some, UInt32.toNat_ofNat']
  exact eq_comm

private theorem testBit_of_kept {number : Nat} {raw : KernelFrame}
    (h : raw.identifier.toNat = number % 2 ^ 32) : number.testBit 31 = false := by
  have hlow : raw.identifier.toNat < 2 ^ 31 :=
    Nat.lt_of_lt_of_le raw.identifier_lt (by decide)
  have hbit : (number % 2 ^ 32).testBit 31 = number.testBit 31 := by
    rw [Nat.testBit_mod_two_pow]
    rfl
  rw [← hbit, ← h]
  exact Nat.testBit_lt_two_pow hlow

theorem identity_iff (block : Option (Option Nat)) (raw : KernelFrame) :
    (block.map tableId = some raw.identifier ↔
      ∃ number ∈ block.join, IsFrameOf number raw) ↔
    Distinguished block raw := by
  cases block with
  | none => simp [Distinguished]
  | some declared =>
    cases declared with
    | none =>
      simp only [Distinguished, Option.map_some, Option.some.injEq, Option.join_some,
        Option.not_mem_none, false_and, exists_false, iff_false]
      exact not_congr eq_comm
    | some number =>
      simp only [Distinguished, Option.map_some, Option.some.injEq, tableId_eq_iff,
        Option.join_some, Option.mem_some, exists_eq_left']
      constructor
      · intro h
        constructor
        · intro hextended hframe
          have hnone := testBit_of_kept (h.mpr hframe)
          simp [hextended] at hnone
        · intro hkept
          obtain ⟨hdata, hformat, hid⟩ := h.mp hkept
          have hbit := testBit_of_kept hkept
          simp only [hbit, Bool.false_eq_true, if_false] at hformat hid
          have hlow := raw.identifier_lt
          exact ⟨by omega, hdata, hformat⟩
      · rintro ⟨hextended, hstandard⟩
        constructor
        · intro hkept
          obtain ⟨hlt, hdata, hformat⟩ := hstandard hkept
          have hbit := testBit_of_kept hkept
          refine ⟨hdata, ?_, ?_⟩
          · rw [hformat, hbit]
          · rw [hkept, hbit, Nat.mod_eq_of_lt hlt]
            rfl
        · intro hframe
          have hbit : number.testBit 31 = false := by
            rw [← Bool.not_eq_true]
            exact fun hset => hextended hset hframe
          have hid := hframe.2.2
          have hlow := raw.identifier_lt
          simp only [hbit, Bool.false_eq_true, if_false] at hid
          omega

/-- The frame gives a value for the signal exactly when it is a frame of the
signal's block. -/
def Identified (name : Str) (block : Option (Option Nat)) (raw : KernelFrame)
    (values : List DecodedSignal) : Prop :=
  (∃ sig ∈ values, sig.name = name) ↔
    ∃ number ∈ block.join, IsFrameOf number raw

instance (name : Str) (block : Option (Option Nat)) (raw : KernelFrame)
    (values : List DecodedSignal) : Decidable (Identified name block raw values) :=
  inferInstanceAs (Decidable (_ ↔ _))

/-- Over all frames of a run, values come from the frames of the signal's block and
from no others exactly when every frame is distinguished. -/
theorem frame_identity_iff (fpu : Fpu) (clock : Str → Int) (text : Str) (signalNames : List Str)
    (listing : SignalTable) (hload : (load fpu (some text) signalNames ∅).1 = .ok true)
    (hlisting : listing.entries.Perm (load fpu (some text) signalNames ∅).2.entries)
    (reads : List (ReadResult × Vector UInt8 8)) (name : Str) (hname : name ∈ signalNames) :
    let block := blockOf name (getlines text).reverse
    List.Forall₂ (fun read values => Identified name block read.1 values)
        (framesRead reads) ((run reads).map (decode fpu clock listing)) ↔
      ∀ read ∈ framesRead reads, Distinguished block read.1 := by
  intro block
  rw [run_eq_map, List.map_map, List.forall₂_map_right_iff, List.forall₂_same]
  apply forall₂_congr
  intro read _
  rw [← identity_iff, ← load_canId hload hname]
  simp only [Identified, Function.comp_apply, decode_names, AList.perm_lookup hlisting]
  simp [CanReader.translate, KernelFrame.identifier]

def speed : Str := lit "VEHICLE_SPEED"

def speedDbc (number : Str) : Str :=
  lit "BO_ " ++ number ++ lit " ENGINE_DATA: 8 ECU\n" ++
    lit " SG_ VEHICLE_SPEED : 40|16@1+ (0.01,0) [0|250] \"km/h\" TCU\n"

def sampleFpu : Fpu where
  stod text := if text = lit "0.01" then .ok ⟨0x3F847AE147AE147B⟩ else .ok ⟨0⟩
  ofInt64 _ := ⟨0⟩
  mulAdd _ _ _ := ⟨0⟩

def zeros : Vector UInt8 8 := Vector.replicate 8 0

def zeroFrame (canId : UInt32) : KernelFrame := ⟨canId, 8, zeros, by decide⟩

theorem frame_identity_standard :
    let table := (load sampleFpu (some (speedDbc (lit "180"))) [speed] ∅).2
    let block := blockOf speed (getlines (speedDbc (lit "180"))).reverse
    let reads := [(.complete (zeroFrame 180), zeros)]
    List.Forall₂ (fun read values => Identified speed block read.1 values)
        (framesRead reads) ((run reads).map (decode sampleFpu (fun _ => 0) table)) := by
  apply (frame_identity_iff sampleFpu (fun _ => 0) (speedDbc (lit "180")) [speed] _
    (by decide +kernel) (List.Perm.refl _) _ speed List.mem_cons_self).mpr
  intro read hread
  obtain rfl : read = (zeroFrame 180, zeros) := List.mem_singleton.mp hread
  decide +kernel

def speedIdentified (number : Str) (canId : UInt32) : Prop :=
  Identified speed (blockOf speed (getlines (speedDbc number)).reverse) (zeroFrame canId)
    (decode sampleFpu (fun _ => 0) (load sampleFpu (some (speedDbc number)) [speed] ∅).2
      (translate zeros (zeroFrame canId)))

/-- An extended block is missed by its own frame, and a standard block gives values
for an extended frame and for a remote request with its number. -/
theorem frame_identity_fails :
    (load sampleFpu (some (speedDbc (lit "2147483828"))) [speed] ∅).1 = .ok true ∧
      (load sampleFpu (some (speedDbc (lit "180"))) [speed] ∅).1 = .ok true ∧
      ¬speedIdentified (lit "2147483828") 0x800000B4 ∧
      ¬speedIdentified (lit "180") 0x800000B4 ∧
      ¬speedIdentified (lit "180") 0x400000B4 := by
  unfold speedIdentified
  decide +kernel

end SdvGateway.CanLayer.FrameIdentity
