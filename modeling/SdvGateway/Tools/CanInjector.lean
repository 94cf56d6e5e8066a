import SdvGateway.CanLayer.RawValue
import SdvGateway.CanLayer.ShippedDbc

/-! The injector's frames, which are built by hand, and what the gateway reads from them
with the DBC file of the repository. -/
namespace SdvGateway.Tools.CanInjector
open Common Library BitField Grouping CanLayer DbcLine SignalDecoder CanReader
open FrameIdentity DecodeCompleteness ShippedDbc RawValue

/-- The floats of the script. `int` raises on what is not finite. -/
structure Floats where
  literal : Str → Double
  add : Double → Double → Double
  div : Double → Double → Double
  int : Double → Option Int

def lowByte (n : Int) : UInt8 := UInt8.ofInt n

def buildEngineDataFrame (floats : Floats) (speedKmh rpm : Double) (gear : Int) :
    Option (Vector UInt8 8) := do
  let speedRaw ← floats.int (floats.div speedKmh (floats.literal (lit "0.01")))
  let rpmRaw ← floats.int (floats.div rpm (floats.literal (lit "0.25")))
  return #v[lowByte gear, 0, 0, lowByte rpmRaw, lowByte (rpmRaw >>> (8 : Nat)), lowByte speedRaw,
    lowByte (speedRaw >>> (8 : Nat)), 0]

def buildCoolantFrame (floats : Floats) (tempC : Double) : Option (Vector UInt8 8) := do
  let raw ← floats.int (floats.add tempC (floats.literal (lit "40")))
  return #v[lowByte raw, 0, 0, 0, 0, 0, 0, 0]

def buildBatteryFrame (floats : Floats) (voltageV : Double) : Option (Vector UInt8 8) := do
  let raw ← floats.int (floats.div voltageV (floats.literal (lit "0.1")))
  return #v[lowByte raw, 0, 0, 0, 0, 0, 0, 0]

structure Message where
  arbitrationId : UInt32
  data : Vector UInt8 8

def Message.kernelFrame (message : Message) : KernelFrame where
  canId := message.arbitrationId
  canDlc := 8
  data := message.data
  canDlc_le := eight_le_eight

/-- The lines of the shipped file. -/
def batteryVoltage : SgMatch :=
  ⟨lit "BATTERY_VOLTAGE", lit "0", lit "8", lit "1", lit "+", lit "0.1", lit "0", lit "V"⟩

def engineCoolantTemp : SgMatch :=
  ⟨lit "ENGINE_COOLANT_TEMP", lit "0", lit "8", lit "1", lit "+", lit "1", lit "-40", lit "degC"⟩

def gearShift : SgMatch :=
  ⟨lit "GEAR_SHIFT", lit "0", lit "8", lit "1", lit "+", lit "1", lit "0", []⟩

def engineRpm : SgMatch :=
  ⟨lit "ENGINE_RPM", lit "24", lit "16", lit "1", lit "+", lit "0.25", lit "0", lit "rpm"⟩

def vehicleSpeed : SgMatch :=
  ⟨lit "VEHICLE_SPEED", lit "40", lit "16", lit "1", lit "+", lit "0.01", lit "0", lit "km/h"⟩

def shippedLines : List (Option Nat × SgMatch) := [
  (some 947, batteryVoltage),
  (some 452, engineCoolantTemp),
  (some 180, gearShift),
  (some 180, engineRpm),
  (some 180, vehicleSpeed)]

theorem shipped_lines : (declarations (getlines toyotaCorolla).reverse).map
    (fun declared => (declared.block, declared.line)) = shippedLines := by
  decide +kernel

/-- What a message of the injector carries: for each line of its block an integer, cut to
the width of the signal. -/
inductive Carries (floats : Floats) : Message → List (SgMatch × Nat) → Prop
  | engineData {speedKmh rpm : Double} {gear speedRaw rpmRaw : Int} {data : Vector UInt8 8}
      (hbuild : buildEngineDataFrame floats speedKmh rpm gear = some data)
      (hspeed : floats.int (floats.div speedKmh (floats.literal (lit "0.01"))) = some speedRaw)
      (hrpm : floats.int (floats.div rpm (floats.literal (lit "0.25"))) = some rpmRaw) :
      Carries floats ⟨0x0B4, data⟩ [
        (gearShift, (gear % 2 ^ 8).toNat),
        (engineRpm, (rpmRaw % 2 ^ 16).toNat),
        (vehicleSpeed, (speedRaw % 2 ^ 16).toNat)]
  | coolant {tempC : Double} {raw : Int} {data : Vector UInt8 8}
      (hbuild : buildCoolantFrame floats tempC = some data)
      (hraw : floats.int (floats.add tempC (floats.literal (lit "40"))) = some raw) :
      Carries floats ⟨0x1C4, data⟩ [(engineCoolantTemp, (raw % 2 ^ 8).toNat)]
  | battery {voltageV : Double} {raw : Int} {data : Vector UInt8 8}
      (hbuild : buildBatteryFrame floats voltageV = some data)
      (hraw : floats.int (floats.div voltageV (floats.literal (lit "0.1"))) = some raw) :
      Carries floats ⟨0x3B3, data⟩ [(batteryVoltage, (raw % 2 ^ 8).toNat)]

def number (fpu : Fpu) (text : Str) : Double :=
  match fpu.stod text with
  | .ok d => d
  | .error _ => ⟨0⟩

def signalOf (fpu : Fpu) (clock : Str → Int) (m : SgMatch) (raw : Nat) : DecodedSignal where
  name := m.name
  value := fpu.mulAdd (fpu.ofInt64 (Int64.ofNat raw)) (number fpu m.scale) (number fpu m.offset)
  unit := m.unit
  timestamp := clock m.name

theorem rawSigned_bytes {d : SignalDef} {frame : CanFrame} {first count n : Nat}
    (hsigned : d.isSigned = false) (hstart : d.startBit.toNat = 8 * first)
    (hlength : d.length.toNat = 8 * count) (hcount : 0 < count) (hfew : count < 8)
    (hinside : first + count ≤ frame.dlc.toNat)
    (hbytes : ∀ (k : Nat) (h : first + k < 8), k < count →
      (frame.data.get ⟨first + k, h⟩).toNat = n / 2 ^ (8 * k) % 2 ^ 8)
    (hn : n < 2 ^ (8 * count)) : rawSigned d frame = Int64.ofNat n := by
  have hdlc := dlc_le frame
  have hfield : intelField d frame = BitVec.ofNat d.length.toNat n := by
    apply field_eq
    intro i hi
    have hread : (d.startBit.toNat + i) / 8 < frame.dlc.toNat := by omega
    have hindex : (d.startBit.toNat + i) / 8 = first + i / 8 := by omega
    have hmod : (d.startBit.toNat + i) % 8 = i % 8 := by omega
    have hback : 8 * (i / 8) + i % 8 = i := by omega
    have hbyte := hbytes (i / 8) (by omega) (by omega)
    rw [intelBit, bit, dif_pos hread]
    simp only [hindex, hmod, hbyte]
    rw [Nat.testBit_mod_two_pow, Nat.testBit_div_two_pow, BitVec.getLsbD_ofNat,
      decide_eq_true (Nat.mod_lt i (by decide)), decide_eq_true hi, Nat.add_comm, hback]
  have hsmall : n < 2 ^ 56 := Nat.lt_of_lt_of_le hn (Nat.pow_le_pow_right (by decide) (by omega))
  apply Int64.toInt_inj.mp
  rw [toInt_rawSigned (by omega) (by omega), hfield, hsigned, if_neg (by omega),
    Int64.toInt_ofNat_of_lt (by omega)]
  simp [value, hlength, Nat.mod_eq_of_lt hn]

theorem toNat_lowByte (n : Int) : (lowByte n).toNat = (n % 2 ^ 8).toNat := by
  rw [lowByte, UInt8.ofInt, UInt8.toNat_ofNat']
  omega

theorem lowByte_shift (n : Int) : (lowByte n).toNat = (n % 2 ^ 16).toNat % 2 ^ 8 ∧
    (lowByte (n >>> (8 : Nat))).toNat = (n % 2 ^ 16).toNat / 2 ^ 8 % 2 ^ 8 := by
  rw [toNat_lowByte, toNat_lowByte, Int.shiftRight_eq_div_pow]
  omega

section
variable {fpu : Fpu} {m : SgMatch} {canId : UInt32} {d : SignalDef}

theorem signalDef_eq {startBit length : UInt8} (hstart : stoul m.startBit = .ok startBit.toUInt64)
    (hlength : stoul m.length = .ok length.toUInt64) (hsign : m.sign = lit "+")
    (hd : signalDef fpu canId m = .ok d) :
    d = ⟨canId, startBit, length, m.byteOrder = [0x31], false, number fpu m.scale,
      number fpu m.offset, m.unit⟩ := by
  simp only [signalDef, hstart, hlength, bind_eq_ok] at hd
  obtain ⟨_, hstart', _, hlength', scale, hscale, offset, hoffset, hd⟩ := hd
  cases hstart'
  cases hlength'
  cases hd
  simp only [number, hscale, hoffset, hsign, UInt8.toUInt8_toUInt64]
  rfl

end

private theorem find_shipped : ∀ line ∈ shippedLines,
    (shippedLines.find? fun other => other.2.name = line.2.name) = some line := by
  decide

theorem shipped_lookup {fpu : Fpu} {signalNames : List Str} {listing : SignalTable}
    (hload : (load fpu (some toyotaCorolla) signalNames ∅).1 = .ok true)
    (hlisting : listing.entries.Perm (load fpu (some toyotaCorolla) signalNames ∅).2.entries)
    (name : Str) (d : SignalDef) :
    listing.lookup name = some d ↔ name ∈ signalNames ∧ ∃ line ∈ shippedLines,
      line.2.name = name ∧ signalDef fpu (tableId line.1) line.2 = .ok d := by
  obtain ⟨last, hlast, htable⟩ := load_invariant (lastKept_nil fpu signalNames)
    (fun _ _ _ _ h hline => lastKept_line h hline) hload
  rw [AList.perm_lookup hlisting]
  by_cases hname : name ∈ signalNames
  · have hfind : (load fpu (some toyotaCorolla) signalNames ∅).2.lookup name =
        (shippedLines.find? fun line => line.2.name = name).bind fun line =>
          (signalDef fpu (tableId line.1) line.2).toOption := by
      rw [htable, hlast.kept name hname, named, group, List.head?_filter, ← shipped_lines,
        List.find?_map, Option.bind_map]
      rfl
    rw [hfind, Option.bind_eq_some_iff]
    refine ⟨?_, ?_⟩
    · rintro ⟨line, hline, hd⟩
      refine ⟨hname, line, List.mem_of_find?_eq_some hline, ?_, ?_⟩
      · simpa using List.find?_some hline
      · cases hdef : signalDef fpu (tableId line.1) line.2 with
        | ok found =>
          rw [hdef] at hd
          exact congrArg Except.ok (Option.some.inj hd)
        | error e =>
          rw [hdef] at hd
          cases hd
    · rintro ⟨-, line, hline, rfl, hd⟩
      exact ⟨line, find_shipped line hline, by rw [hd]; rfl⟩
  · exact ⟨fun hlookup => absurd (load_names hload hlookup).1 hname, fun h => absurd h.1 hname⟩

theorem shipped_readable {fpu : Fpu} {signalNames : List Str}
    (hload : (load fpu (some toyotaCorolla) signalNames ∅).1 = .ok true)
    {line : Option Nat × SgMatch} (hline : line ∈ shippedLines)
    (hname : line.2.name ∈ signalNames) : ∃ d, signalDef fpu (tableId line.1) line.2 = .ok d := by
  obtain ⟨last, hlast, -⟩ := load_invariant (lastKept_nil fpu signalNames)
    (fun _ _ _ _ h hline => lastKept_line h hline) hload
  rw [← shipped_lines] at hline
  obtain ⟨declared, hdeclared, rfl⟩ := List.mem_map.mp hline
  exact hlast.readable declared hdeclared hname

theorem mem_decode {fpu : Fpu} {clock : Str → Int} {listing : SignalTable} {frame : CanFrame}
    {signal : DecodedSignal} :
    signal ∈ decode fpu clock listing frame ↔ ∃ name d, listing.lookup name = some d ∧
      d.canId = frame.canId ∧ signal = entry fpu clock frame name d := by
  simp only [decode, List.mem_filterMap]
  refine ⟨?_, ?_⟩
  · rintro ⟨⟨name, d⟩, hentry, hsignal⟩
    split at hsignal
    · cases hsignal
    · next hid =>
      exact ⟨name, d, AList.mem_lookup_iff.mpr hentry, not_not.mp hid,
        (Option.some.inj hsignal).symm⟩
  · rintro ⟨name, d, hlookup, hid, rfl⟩
    exact ⟨⟨name, d⟩, AList.mem_lookup_iff.mp hlookup, if_neg (not_not.mpr hid)⟩

theorem entry_eq_signalOf (startBit length : UInt8) (first count : Nat) {m : SgMatch} {n : Nat}
    {frame : CanFrame} (hstart : stoul m.startBit = .ok startBit.toUInt64)
    (hlength : stoul m.length = .ok length.toUInt64) (hsign : m.sign = lit "+")
    (hfirst : startBit.toNat = 8 * first) (hwidth : length.toNat = 8 * count) (hcount : 0 < count)
    (hfew : count < 8) (hinside : first + count ≤ frame.dlc.toNat)
    (hbytes : ∀ (k : Nat) (h : first + k < 8), k < count →
      (frame.data.get ⟨first + k, h⟩).toNat = n / 2 ^ (8 * k) % 2 ^ 8)
    (hn : n < 2 ^ (8 * count)) {fpu : Fpu} {canId : UInt32} {d : SignalDef}
    (hd : signalDef fpu canId m = .ok d) (clock : Str → Int) :
    entry fpu clock frame m.name d = signalOf fpu clock m n := by
  obtain rfl := signalDef_eq hstart hlength hsign hd
  rw [entry, rawSigned_bytes rfl hfirst hwidth hcount hfew hinside hbytes hn]
  rfl

theorem translate_get (uninitialised : Vector UInt8 8) (message : Message) (i : Fin 8) :
    (translate uninitialised message.kernelFrame).data.get i = message.data.get i := by
  have hget : (translate uninitialised message.kernelFrame).data.get i =
      if i.val < 8 then message.data.get i else uninitialised.get i := Vector.getElem_ofFn i.isLt
  rw [hget, if_pos i.isLt]

section
variable {uninitialised : Vector UInt8 8} {message : Message} {m : SgMatch} {raw : Int}
variable {fpu : Fpu} {canId : UInt32} {d : SignalDef}

theorem reads_byte (hstart : stoul m.startBit = .ok 0) (hlength : stoul m.length = .ok 8)
    (hsign : m.sign = lit "+") (hdata : message.data.get 0 = lowByte raw)
    (hd : signalDef fpu canId m = .ok d) (clock : Str → Int) :
    entry fpu clock (translate uninitialised message.kernelFrame) m.name d =
      signalOf fpu clock m (raw % 2 ^ 8).toNat := by
  refine entry_eq_signalOf 0 8 0 1 hstart hlength hsign rfl rfl (by decide) (by decide)
    (Nat.le_of_ble_eq_true rfl) (fun k hk hcount => ?_) (by omega) hd clock
  obtain rfl : k = 0 := by omega
  have hbyte : message.data.get ⟨0 + 0, hk⟩ = lowByte raw := hdata
  rw [translate_get, hbyte, toNat_lowByte]
  omega

private theorem reads_word (startBit : UInt8) (first : Nat) (hfirst : first < 7)
    (hbit : startBit.toNat = 8 * first) (hstart : stoul m.startBit = .ok startBit.toUInt64)
    (hlength : stoul m.length = .ok 16) (hsign : m.sign = lit "+")
    (hlow : message.data.get ⟨first, by omega⟩ = lowByte raw)
    (hhigh : message.data.get ⟨first + 1, by omega⟩ = lowByte (raw >>> (8 : Nat)))
    (hd : signalDef fpu canId m = .ok d) (clock : Str → Int) :
    entry fpu clock (translate uninitialised message.kernelFrame) m.name d =
      signalOf fpu clock m (raw % 2 ^ 16).toNat := by
  have hinside : first + 2 ≤ (translate uninitialised message.kernelFrame).dlc.toNat :=
    Nat.succ_le_succ hfirst
  refine entry_eq_signalOf startBit 16 first 2 hstart hlength hsign hbit rfl (by decide)
    (by decide) hinside (fun k hk hcount => ?_) (by omega) hd clock
  obtain ⟨hlowByte, hhighByte⟩ := lowByte_shift raw
  obtain rfl | rfl : k = 0 ∨ k = 1 := by omega
  · have hbyte : message.data.get ⟨first + 0, hk⟩ = lowByte raw := hlow
    rw [translate_get, hbyte, hlowByte]
    omega
  · rw [translate_get, hhigh, hhighByte]

end

structure ReadsOff (message : Message) (fields : List (SgMatch × Nat))
    (uninitialised : Vector UInt8 8) : Prop where
  lines : fields.map Prod.fst =
    (shippedLines.filter (·.1 = some message.arbitrationId.toNat)).map Prod.snd
  identifier : (translate uninitialised message.kernelFrame).canId = message.arbitrationId
  values : ∀ field ∈ fields, ∀ (fpu : Fpu) (canId : UInt32) (d : SignalDef),
    signalDef fpu canId field.1 = .ok d → ∀ clock : Str → Int,
      entry fpu clock (translate uninitialised message.kernelFrame) field.1.name d =
        signalOf fpu clock field.1 field.2

theorem carries_readsOff {floats : Floats} {message : Message} {fields : List (SgMatch × Nat)}
    (h : Carries floats message fields) (uninitialised : Vector UInt8 8) :
    ReadsOff message fields uninitialised := by
  cases h with
  | engineData hbuild hspeed hrpm =>
    simp only [buildEngineDataFrame, hspeed, hrpm, Option.bind_eq_bind, Option.bind_some,
      Option.pure_def, Option.some.injEq] at hbuild
    subst hbuild
    have hlines : [gearShift, engineRpm, vehicleSpeed] =
        (shippedLines.filter (·.1 = some (0x0B4 : UInt32).toNat)).map Prod.snd := by decide
    have hid : (0x0B4 : UInt32) &&& CAN_EFF_MASK = 0x0B4 := by decide
    refine ⟨hlines, hid, ?_⟩
    simp only [List.forall_mem_cons]
    refine ⟨fun _ _ _ hd clock => ?_, fun _ _ _ hd clock => ?_, fun _ _ _ hd clock => ?_, ?_⟩
    · exact reads_byte rfl rfl rfl rfl hd clock
    · exact reads_word 24 3 (by decide) rfl rfl rfl rfl rfl rfl hd clock
    · exact reads_word 40 5 (by decide) rfl rfl rfl rfl rfl rfl hd clock
    · exact fun _ hfield => absurd hfield List.not_mem_nil
  | coolant hbuild hraw =>
    simp only [buildCoolantFrame, hraw, Option.bind_eq_bind, Option.bind_some,
      Option.pure_def, Option.some.injEq] at hbuild
    subst hbuild
    have hlines : [engineCoolantTemp] =
        (shippedLines.filter (·.1 = some (0x1C4 : UInt32).toNat)).map Prod.snd := by decide
    have hid : (0x1C4 : UInt32) &&& CAN_EFF_MASK = 0x1C4 := by decide
    refine ⟨hlines, hid, fun field hfield _ _ _ hd clock => ?_⟩
    obtain rfl := List.mem_singleton.mp hfield
    exact reads_byte rfl rfl rfl rfl hd clock
  | battery hbuild hraw =>
    simp only [buildBatteryFrame, hraw, Option.bind_eq_bind, Option.bind_some,
      Option.pure_def, Option.some.injEq] at hbuild
    subst hbuild
    have hlines : [batteryVoltage] =
        (shippedLines.filter (·.1 = some (0x3B3 : UInt32).toNat)).map Prod.snd := by decide
    have hid : (0x3B3 : UInt32) &&& CAN_EFF_MASK = 0x3B3 := by decide
    refine ⟨hlines, hid, fun field hfield _ _ _ hd clock => ?_⟩
    obtain rfl := List.mem_singleton.mp hfield
    exact reads_byte rfl rfl rfl rfl hd clock

theorem ReadsOff.names_nodup {message : Message} {fields : List (SgMatch × Nat)}
    {uninitialised : Vector UInt8 8} (h : ReadsOff message fields uninitialised) :
    (fields.map fun field => field.1.name).Nodup := by
  have hall : (shippedLines.map fun line => line.2.name).Nodup := by decide
  have hnames : (fields.map fun field => field.1.name) =
      (shippedLines.filter (·.1 = some message.arbitrationId.toNat)).map
        fun line => line.2.name := by
    have hlines := congrArg (List.map SgMatch.name) h.lines
    rw [List.map_map, List.map_map] at hlines
    exact hlines
  rw [hnames]
  exact hall.sublist (List.filter_sublist.map _)

theorem ReadsOff.mem_lines {message : Message} {fields : List (SgMatch × Nat)}
    {uninitialised : Vector UInt8 8} (h : ReadsOff message fields uninitialised) (m : SgMatch) :
    (∃ raw, (m, raw) ∈ fields) ↔
      ∃ line ∈ shippedLines, line.2 = m ∧ tableId line.1 = message.arbitrationId := by
  have hids : ∀ line ∈ shippedLines, line.1 = some (tableId line.1).toNat := by decide
  have hmem : (∃ raw, (m, raw) ∈ fields) ↔ m ∈ fields.map Prod.fst := by
    rw [List.mem_map, Prod.exists]
    refine ⟨fun ⟨raw, hraw⟩ => ⟨m, raw, hraw, rfl⟩, ?_⟩
    rintro ⟨_, raw, hraw, rfl⟩
    exact ⟨raw, hraw⟩
  rw [hmem, h.lines, List.mem_map]
  refine exists_congr fun line => ?_
  rw [List.mem_filter, decide_eq_true_iff]
  refine ⟨?_, ?_⟩
  · rintro ⟨⟨hline, hid⟩, hm⟩
    exact ⟨hline, hm, by rw [hid, tableId_toNat]⟩
  · rintro ⟨hline, hm, hid⟩
    exact ⟨⟨hline, by rw [hids line hline, hid]⟩, hm⟩

/-- The gateway reads from a message of the injector the wanted signals of its block, each
once and with the integer that was put in. What does not fit its field wraps. -/
theorem injected_decode {fpu : Fpu} {signalNames : List Str} {listing : SignalTable}
    (hload : (load fpu (some toyotaCorolla) signalNames ∅).1 = .ok true)
    (hlisting : listing.entries.Perm (load fpu (some toyotaCorolla) signalNames ∅).2.entries)
    {floats : Floats} {message : Message} {fields : List (SgMatch × Nat)}
    (h : Carries floats message fields) (uninitialised : Vector UInt8 8) (clock : Str → Int) :
    (decode fpu clock listing (translate uninitialised message.kernelFrame)).Perm
      ((fields.filter (·.1.name ∈ signalNames)).map fun field =>
        signalOf fpu clock field.1 field.2) := by
  have hreads := carries_readsOff h uninitialised
  have hnodup : (decode fpu clock listing (translate uninitialised message.kernelFrame)).Nodup :=
    (decode_nodup fpu clock listing _).of_map _
  have hnodup' : ((fields.filter (·.1.name ∈ signalNames)).map fun field =>
      signalOf fpu clock field.1 field.2).Nodup := by
    apply List.Nodup.of_map DecodedSignal.name
    rw [List.map_map]
    exact hreads.names_nodup.sublist (List.filter_sublist.map _)
  rw [List.perm_ext_iff_of_nodup hnodup hnodup']
  intro signal
  rw [mem_decode, List.mem_map]
  refine ⟨?_, ?_⟩
  · rintro ⟨name, d, hlookup, hid, rfl⟩
    obtain ⟨hname, line, hline, rfl, hd⟩ := (shipped_lookup hload hlisting name d).mp hlookup
    rw [hreads.identifier, signalDef_canId hd] at hid
    obtain ⟨raw, hraw⟩ := (hreads.mem_lines line.2).mpr ⟨line, hline, rfl, hid⟩
    refine ⟨(line.2, raw), List.mem_filter.mpr ⟨hraw, decide_eq_true hname⟩, ?_⟩
    exact (hreads.values _ hraw fpu _ d hd clock).symm
  · rintro ⟨⟨m, raw⟩, hfield, rfl⟩
    obtain ⟨hraw, hname⟩ := List.mem_filter.mp hfield
    obtain ⟨line, hline, rfl, hid⟩ := (hreads.mem_lines m).mp ⟨raw, hraw⟩
    obtain ⟨d, hd⟩ := shipped_readable hload hline (of_decide_eq_true hname)
    refine ⟨line.2.name, d, ?_, ?_, (hreads.values _ hraw fpu _ d hd clock).symm⟩
    · exact (shipped_lookup hload hlisting _ d).mpr ⟨of_decide_eq_true hname, line, hline, rfl, hd⟩
    · rw [hreads.identifier, signalDef_canId hd, hid]

def sampleFloats : Floats where
  literal _ := ⟨0x4044000000000000⟩
  add a b := if a = ⟨0x4055400000000000⟩ ∧ b = ⟨0x4044000000000000⟩ then ⟨0x405F400000000000⟩ else a
  div a _ := a
  int a := if a = ⟨0x405F400000000000⟩ then some 125 else none

def coolantFpu : Fpu where
  stod text := if text = lit "1" then .ok ⟨0x3FF0000000000000⟩ else .ok ⟨0xC044000000000000⟩
  ofInt64 n := if n = 125 then ⟨0x405F400000000000⟩ else ⟨0⟩
  mulAdd a scale offset :=
    if a = ⟨0x405F400000000000⟩ ∧ scale = ⟨0x3FF0000000000000⟩ ∧ offset = ⟨0xC044000000000000⟩ then
      ⟨0x4055400000000000⟩
    else ⟨0⟩

private theorem coolant_load :
    (load coolantFpu (some toyotaCorolla) [engineCoolantTemp.name] ∅).1 = .ok true := by
  decide +kernel

theorem injected_decode_coolant :
    decode coolantFpu (fun _ => 0)
        (load coolantFpu (some toyotaCorolla) [engineCoolantTemp.name] ∅).2
        (translate zeros (Message.kernelFrame ⟨0x1C4, #v[125, 0, 0, 0, 0, 0, 0, 0]⟩)) =
      [⟨lit "ENGINE_COOLANT_TEMP", ⟨0x4055400000000000⟩, lit "degC", 0⟩] := by
  have hbuild : buildCoolantFrame sampleFloats ⟨0x4055400000000000⟩ =
      some #v[125, 0, 0, 0, 0, 0, 0, 0] := rfl
  have hdecode := injected_decode coolant_load (List.Perm.refl _) (.coolant hbuild rfl) zeros
    fun _ => 0
  exact List.perm_singleton.mp hdecode

end SdvGateway.Tools.CanInjector
