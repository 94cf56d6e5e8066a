import SdvGateway.CanLayer.FrameIdentity
import SdvGateway.Gateway.AnomalyDetector

/-! What a DBC file can do to the anomaly thread. The names of signals are made of
word characters, but the unit of a signal is whatever stands between the quotes. -/
namespace SdvGateway.Gateway.AnomalyAlerts
open Common CanLayer DbcLine SignalDecoder AnomalyDetector

structure Arrival where
  frame : CanFrame
  clock : Str → Int

def pushed (fpu : Fpu) (listing : SignalTable) (arrivals : List Arrival) : List DecodedSignal :=
  arrivals.flatMap fun arrival => decode fpu arrival.clock listing arrival.frame

def consumed (turns : List Turn) : List DecodedSignal := turns.filterMap Turn.signal?

/-- The alert for a signal, if there is one, can be serialized. -/
def Serializable (env : Env) (signal : DecodedSignal) : Prop :=
  fires env signal = true → isUtf8 signal.unit = true ∧ isUtf8 env.uin = true

instance (env : Env) : DecidablePred (Serializable env) := fun signal =>
  inferInstanceAs (Decidable
    (fires env signal = true → isUtf8 signal.unit = true ∧ isUtf8 env.uin = true))

private theorem ascii_of_signalName {name : Str} (h : isSignalName name = true) : IsAscii name := by
  intro b hb
  have hword : isWord b = true := List.all_eq_true.mp (Bool.and_eq_true_iff.mp h).2 b hb
  simp only [isWord, isAlpha, isDigit, Bool.or_eq_true, Bool.and_eq_true, decide_eq_true_eq,
    UInt8.le_iff_toNat_le, ← UInt8.toNat_inj] at hword
  rw [UInt8.lt_iff_toNat_lt]
  simp at hword ⊢
  omega

private theorem pushed_name {fpu : Fpu} {text : Str} {signalNames : List Str}
    {listing : SignalTable} (hload : (load fpu (some text) signalNames ∅).1 = .ok true)
    (hlisting : listing.entries.Perm (load fpu (some text) signalNames ∅).2.entries)
    {arrivals : List Arrival} {signal : DecodedSignal}
    (h : signal ∈ pushed fpu listing arrivals) : isUtf8 signal.name = true := by
  obtain ⟨arrival, _, hsignal⟩ := List.mem_flatMap.mp h
  have hname := decode_admitted hload hlisting hsignal
  exact isUtf8_of_ascii (ascii_of_signalName (List.mem_filter.mp hname).2)

private theorem run_ends_iff (env : Env) (turns : List Turn)
    (hnames : ∀ signal ∈ consumed turns, isUtf8 signal.name = true) :
    (run env turns).2 = none ↔ ∀ signal ∈ consumed turns, Serializable env signal := by
  induction turns with
  | nil => simp [run, consumed]
  | cons turn rest ih =>
    cases turn with
    | timeout => exact ih hnames
    | popped signal now published =>
      change ∀ s ∈ signal :: consumed rest, isUtf8 s.name = true at hnames
      change _ ↔ ∀ s ∈ signal :: consumed rest, Serializable env s
      rw [List.forall_mem_cons] at hnames ⊢
      have herror := handle_error_iff env signal now published hnames.1
      unfold run Serializable
      cases hhandle : handle env signal now published with
      | error e =>
        have hbad := herror.mp ⟨e, hhandle⟩
        simp only [reduceCtorEq, false_iff]
        exact fun h => hbad h.1
      | ok alert =>
        have hgood := not_not.mp (mt herror.mpr (by simp [hhandle]))
        exact (ih hnames.2).trans ⟨fun h => ⟨hgood, h⟩, fun h => h.2⟩

/-- For a DBC text that was loaded, no exception leaves the thread exactly when
every signal that it takes and that scores above the threshold has a unit that is
UTF-8, as the vehicle's number has to be for any alert. -/
theorem no_exception_iff (env : Env) (fpu : Fpu) (text : Str) (signalNames : List Str)
    (listing : SignalTable) (hload : (load fpu (some text) signalNames ∅).1 = .ok true)
    (hlisting : listing.entries.Perm (load fpu (some text) signalNames ∅).2.entries)
    (arrivals : List Arrival) (turns : List Turn)
    (hturns : consumed turns <+: pushed fpu listing arrivals) :
    (run env turns).2 = none ↔ ∀ signal ∈ consumed turns, Serializable env signal := by
  apply run_ends_iff
  intro signal hsignal
  exact pushed_name hload hlisting (hturns.subset hsignal)

def coolant : Str := lit "ENGINE_COOLANT_TEMP"

def coolantDbc (unit : Str) : Str :=
  lit "BO_ 452 ENGINE_TEMP: 8 ECU\n SG_ ENGINE_COOLANT_TEMP : 0|8@1+ (1,0) [0|255] \"" ++ unit ++
    lit "\" TCU\n"

def coolantFpu : Fpu where
  stod text := if text = lit "1" then .ok ⟨0x3FF0000000000000⟩ else .ok ⟨0⟩
  ofInt64 _ := ⟨0⟩
  mulAdd _ _ _ := ⟨0⟩

def coolantTable (unit : Str) : SignalTable :=
  (load coolantFpu (some (coolantDbc unit)) [coolant] ∅).2

def coolantArrival : Arrival :=
  ⟨CanReader.translate FrameIdentity.zeros (FrameIdentity.zeroFrame 452), fun _ => 0⟩

def coolantTurns (unit : Str) : List Turn :=
  [.timeout, .popped ⟨coolant, ⟨0⟩, unit, 0⟩ 0 true]

theorem no_exception_utf8 : (run sampleEnv (coolantTurns [0xC2, 0xB0, 0x43])).2 = none :=
  (no_exception_iff sampleEnv coolantFpu (coolantDbc [0xC2, 0xB0, 0x43]) [coolant]
    (coolantTable [0xC2, 0xB0, 0x43]) (by decide +kernel) (List.Perm.refl _) [coolantArrival]
    (coolantTurns [0xC2, 0xB0, 0x43]) (by decide +kernel)).mpr (by decide +kernel)

/-- The degree sign in Latin-1: the file loads, and the first alert ends the thread. -/
theorem exception_latin1 :
    (load coolantFpu (some (coolantDbc [0xB0, 0x43])) [coolant] ∅).1 = .ok true ∧
      consumed (coolantTurns [0xB0, 0x43]) <+:
        pushed coolantFpu (coolantTable [0xB0, 0x43]) [coolantArrival] ∧
      (run sampleEnv (coolantTurns [0xB0, 0x43])).2 = some .typeError := by
  decide +kernel

end SdvGateway.Gateway.AnomalyAlerts
