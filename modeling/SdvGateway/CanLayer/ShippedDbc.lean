import SdvGateway.CanLayer.DecodeCompleteness

/-! The DBC file of the repository, and which signals its frames give. -/
namespace SdvGateway.CanLayer.ShippedDbc
open Common DbcLine SignalDecoder FrameIdentity DecodeCompleteness

def toyotaCorolla : Str :=
  lit "VERSION \"\"\n\nNS_ :\n\nBS_:\n\nBU_: ECU TCU\n\n" ++
  lit "BO_ 180 ENGINE_DATA: 8 ECU\n" ++
  lit " SG_ VEHICLE_SPEED : 40|16@1+ (0.01,0) [0|250] \"km/h\" TCU\n" ++
  lit " SG_ ENGINE_RPM : 24|16@1+ (0.25,0) [0|8000] \"rpm\" TCU\n" ++
  lit " SG_ GEAR_SHIFT : 0|8@1+ (1,0) [0|4] \"\" TCU\n\n" ++
  lit "BO_ 452 ENGINE_TEMP: 8 ECU\n" ++
  lit " SG_ ENGINE_COOLANT_TEMP : 0|8@1+ (1,-40) [-40|215] \"degC\" TCU\n\n" ++
  lit "BO_ 947 BATTERY_DATA: 8 ECU\n" ++
  lit " SG_ BATTERY_VOLTAGE : 0|8@1+ (0.1,0) [0|25.5] \"V\" TCU\n"

def blocks (linesUpwards : List Str) : List (Str × Option Nat) :=
  (declarations linesUpwards).map fun declared => (declared.line.name, declared.block)

def shippedIds : List (Str × Nat) := [
  (lit "BATTERY_VOLTAGE", 947),
  (lit "ENGINE_COOLANT_TEMP", 452),
  (lit "GEAR_SHIFT", 180),
  (lit "ENGINE_RPM", 180),
  (lit "VEHICLE_SPEED", 180)]

theorem blockOf_eq_lookup (name : Str) (linesUpwards : List Str) :
    blockOf name linesUpwards = (blocks linesUpwards).lookup name := by
  induction linesUpwards with
  | nil => rfl
  | cons line above ih =>
    by_cases hother : boSearch line ≠ none ∨ sgSearch line = none
    · have hdeclares : declares name line = false := by
        rcases hother with hbo | hsg
        · simp [declares, hbo]
        · simp [declares, hsg]
      rw [blockOf_cons_false hdeclares, ih, blocks, blocks, declarations_other hother]
    · push Not at hother
      obtain ⟨m, hsg⟩ := Option.ne_none_iff_exists'.mp hother.2
      rw [blocks, declarations_signal hother.1 hsg, List.map_cons, List.lookup_cons]
      by_cases hname : m.name = name
      · simp [blockOf, declares, hother.1, hsg, hname]
      · have hdeclares : declares name line = false := by simp [declares, hsg, hname]
        have hne : (name == m.name) = false := by
          rw [beq_eq_false_iff_ne]
          exact fun h => hname h.symm
        rw [blockOf_cons_false hdeclares, ih, hne]
        rfl

private theorem shipped_blocks : blocks (getlines toyotaCorolla).reverse =
    shippedIds.map fun entry => (entry.1, some entry.2) := by
  decide +kernel

private theorem lookup_map_snd (name : Str) (f : α → β) (entries : List (Str × α)) :
    (entries.map fun entry => (entry.1, f entry.2)).lookup name =
      (entries.lookup name).map f := by
  induction entries with
  | nil => rfl
  | cons entry rest ih =>
    rw [List.map_cons, List.lookup_cons, List.lookup_cons, ih]
    cases name == entry.1 <;> rfl

theorem shipped_decodes {fpu : Fpu} {signalNames : List Str} {listing : SignalTable}
    (hload : (load fpu (some toyotaCorolla) signalNames ∅).1 = .ok true)
    (hlisting : listing.entries.Perm (load fpu (some toyotaCorolla) signalNames ∅).2.entries)
    (clock : Str → Int) (frame : CanFrame) (name : Str) :
    (∃ sig ∈ decode fpu clock listing frame, sig.name = name) ↔
      name ∈ signalNames ∧ (shippedIds.lookup name).map UInt32.ofNat = some frame.canId := by
  have htable : (∃ d, listing.lookup name = some d ∧ d.canId = frame.canId) ↔
      ((load fpu (some toyotaCorolla) signalNames ∅).2.lookup name).map (·.canId) =
        some frame.canId := by
    rw [AList.perm_lookup hlisting, Option.map_eq_some_iff]
  rw [decode_names, htable]
  by_cases hname : name ∈ signalNames
  · rw [load_canId hload hname, blockOf_eq_lookup, shipped_blocks, lookup_map_snd,
      Option.map_map, and_iff_right hname]
    rfl
  · rw [Option.map_eq_some_iff]
    constructor
    · rintro ⟨d, hlookup, _⟩
      exact absurd (load_names hload hlookup).1 hname
    · intro h
      exact absurd h.1 hname

end SdvGateway.CanLayer.ShippedDbc
