import Mathlib.Data.List.AList
import SdvGateway.CanLayer.DbcLine
import SdvGateway.Common.Types

/-! Loading the signals of a DBC file and decoding frames with them. Floating
point and the order in which the signal map lists itself are parameters. -/
namespace SdvGateway.CanLayer.SignalDecoder
open Common DbcLine

structure Fpu where
  stod : Str → Except StdException Double
  ofInt64 : Int64 → Double
  mulAdd : Double → Double → Double → Double

structure SignalDef where
  canId : UInt32
  startBit : UInt8
  length : UInt8
  isLittleEndian : Bool
  isSigned : Bool
  scale : Double
  offset : Double
  unit : Str
deriving DecidableEq

abbrev SignalTable := AList fun _ : Str => SignalDef

structure LoadState where
  currentCanId : UInt32
  signals : SignalTable

def signalDef (fpu : Fpu) (currentCanId : UInt32) (m : SgMatch) :
    Except StdException SignalDef := do
  let startBit ← stoul m.startBit
  let length ← stoul m.length
  let scale ← fpu.stod m.scale
  let offset ← fpu.stod m.offset
  return {
    canId := currentCanId
    startBit := startBit.toUInt8
    length := length.toUInt8
    isLittleEndian := m.byteOrder = [0x31]
    isSigned := m.sign = [0x2D]
    scale, offset
    unit := m.unit }

def loadLine (fpu : Fpu) (signalNames : List Str) (state : LoadState) (line : Str) :
    Except StdException LoadState :=
  match boSearch line with
  | some number => do
    let canId ← stoul number
    return { state with currentCanId := canId.toUInt32 }
  | none =>
    match sgSearch line with
    | none => return state
    | some m =>
      if m.name ∈ signalNames then do
        let d ← signalDef fpu state.currentCanId m
        return { state with signals := state.signals.insert m.name d }
      else return state

inductive LoadStep (fpu : Fpu) (signalNames : List Str) (state : LoadState) (line : Str) :
    LoadState → Prop
  | block {number : Str} {canId : UInt64} (hbo : boSearch line = some number)
      (hnumber : stoul number = .ok canId) :
      LoadStep fpu signalNames state line { state with currentCanId := canId.toUInt32 }
  | other (hbo : boSearch line = none) (hsg : sgSearch line = none) :
      LoadStep fpu signalNames state line state
  | unwanted {m : SgMatch} (hbo : boSearch line = none) (hsg : sgSearch line = some m)
      (hname : m.name ∉ signalNames) : LoadStep fpu signalNames state line state
  | signal {m : SgMatch} {d : SignalDef} (hbo : boSearch line = none)
      (hsg : sgSearch line = some m) (hname : m.name ∈ signalNames)
      (hd : signalDef fpu state.currentCanId m = .ok d) :
      LoadStep fpu signalNames state line { state with signals := state.signals.insert m.name d }

private theorem loadStep_of_loadLine {fpu : Fpu} {signalNames : List Str} {state state' : LoadState}
    {line : Str} (h : loadLine fpu signalNames state line = .ok state') :
    LoadStep fpu signalNames state line state' := by
  unfold loadLine at h
  cases hbo : boSearch line with
  | some number =>
    simp only [hbo, bind_eq_ok] at h
    obtain ⟨canId, hnumber, h⟩ := h
    cases h
    exact .block hbo hnumber
  | none =>
    simp only [hbo] at h
    cases hsg : sgSearch line with
    | none =>
      simp only [hsg] at h
      cases h
      exact .other hbo hsg
    | some m =>
      simp only [hsg] at h
      split at h
      · next hname =>
        rw [bind_eq_ok] at h
        obtain ⟨d, hd, h⟩ := h
        cases h
        exact .signal hbo hsg hname hd
      · next hname =>
        cases h
        exact .unwanted hbo hsg hname

def loadLines (fpu : Fpu) (signalNames : List Str) :
    LoadState → List Str → Except StdException Bool × SignalTable
  | state, [] => (.ok true, state.signals)
  | state, line :: rest =>
    match loadLine fpu signalNames state line with
    | .ok state' => loadLines fpu signalNames state' rest
    | .error e => (.error e, state.signals)

/-- What every line keeps holds of the table after the last one. `above` are the
lines that have been read, the latest first. -/
theorem loadLines_invariant {fpu : Fpu} {signalNames : List Str}
    {P : List Str → LoadState → Prop}
    (hstep : ∀ above state line state', P above state →
      LoadStep fpu signalNames state line state' → P (line :: above) state')
    {lines above : List Str} {state : LoadState} (h : P above state)
    (hload : (loadLines fpu signalNames state lines).1 = .ok true) :
    ∃ last, P (lines.reverse ++ above) last ∧
      (loadLines fpu signalNames state lines).2 = last.signals := by
  induction lines generalizing above state with
  | nil => exact ⟨state, h, rfl⟩
  | cons line rest ih =>
    unfold loadLines at hload ⊢
    cases hline : loadLine fpu signalNames state line with
    | error e => simp [hline] at hload
    | ok state' =>
      simp only [hline] at hload ⊢
      have hnext := ih (hstep _ _ _ _ h (loadStep_of_loadLine hline)) hload
      simpa using hnext

/-- `none` is a file that cannot be opened. -/
def load (fpu : Fpu) (file : Option Str) (signalNames : List Str) (signals : SignalTable) :
    Except StdException Bool × SignalTable :=
  match file with
  | none => (.ok false, signals)
  | some text => loadLines fpu signalNames ⟨0, signals⟩ (getlines text)

/-- The lines on which the two searches of `std::regex` stay within the stack. Both recurse
with the length of what they match, and the process dies where the stack ends. -/
structure RegexStack where
  bo : Str → Bool
  sg : Str → Bool

def RegexStack.suffices (stack : RegexStack) (line : Str) : Bool :=
  stack.bo line && ((boSearch line).isSome || stack.sg line)

/-- The loop on a stack of this size; `none` when the process dies. -/
def loadLinesOn (stack : RegexStack) (fpu : Fpu) (signalNames : List Str) :
    LoadState → List Str → Option (Except StdException Bool × SignalTable)
  | state, [] => some (.ok true, state.signals)
  | state, line :: rest =>
    if stack.suffices line then
      match loadLine fpu signalNames state line with
      | .ok state' => loadLinesOn stack fpu signalNames state' rest
      | .error e => some (.error e, state.signals)
    else none

def loadOn (stack : RegexStack) (fpu : Fpu) (file : Option Str) (signalNames : List Str)
    (signals : SignalTable) : Option (Except StdException Bool × SignalTable) :=
  match file with
  | none => some (.ok false, signals)
  | some text => loadLinesOn stack fpu signalNames ⟨0, signals⟩ (getlines text)

private theorem loadLinesOn_eq {stack : RegexStack} {fpu : Fpu} {signalNames : List Str}
    {lines : List Str} (h : ∀ line ∈ lines, stack.suffices line = true) (state : LoadState) :
    loadLinesOn stack fpu signalNames state lines =
      some (loadLines fpu signalNames state lines) := by
  induction lines generalizing state with
  | nil => rfl
  | cons line rest ih =>
    obtain ⟨hline, hrest⟩ := List.forall_mem_cons.mp h
    rw [loadLinesOn, if_pos hline, loadLines]
    cases loadLine fpu signalNames state line with
    | error e => rfl
    | ok state' => exact ih hrest state'

theorem loadOn_eq {stack : RegexStack} {text : Str}
    (h : ∀ line ∈ getlines text, stack.suffices line = true) (fpu : Fpu) (signalNames : List Str)
    (signals : SignalTable) : loadOn stack fpu (some text) signalNames signals =
      some (load fpu (some text) signalNames signals) :=
  loadLinesOn_eq h _

theorem load_invariant {fpu : Fpu} {signalNames : List Str} {P : List Str → LoadState → Prop}
    (hstart : P [] ⟨0, ∅⟩)
    (hstep : ∀ above state line state', P above state →
      LoadStep fpu signalNames state line state' → P (line :: above) state')
    {text : Str} (hload : (load fpu (some text) signalNames ∅).1 = .ok true) :
    ∃ last, P (getlines text).reverse last ∧
      (load fpu (some text) signalNames ∅).2 = last.signals := by
  obtain ⟨last, hlast, htable⟩ := loadLines_invariant hstep hstart hload
  rw [List.append_nil] at hlast
  exact ⟨last, hlast, htable⟩

theorem load_names {fpu : Fpu} {text : Str} {signalNames : List Str}
    (hload : (load fpu (some text) signalNames ∅).1 = .ok true) {name : Str} {d : SignalDef}
    (hlookup : (load fpu (some text) signalNames ∅).2.lookup name = some d) :
    name ∈ signalNames ∧ isSignalName name = true := by
  have hstart : ∀ name d, (∅ : SignalTable).lookup name = some d →
      name ∈ signalNames ∧ isSignalName name = true := by
    intro name d hnone
    cases hnone
  have hstep : ∀ (_ : List Str) (state : LoadState) (line : Str) (state' : LoadState),
      (∀ name d, state.signals.lookup name = some d →
        name ∈ signalNames ∧ isSignalName name = true) →
      LoadStep fpu signalNames state line state' →
      ∀ name d, state'.signals.lookup name = some d →
        name ∈ signalNames ∧ isSignalName name = true := by
    intro _ state line state' hnames hline
    cases hline with
    | block | other | unwanted => exact hnames
    | @signal m d hbo hsg hname hd =>
      intro name kept hkept
      by_cases hsame : name = m.name
      · subst hsame
        exact ⟨hname, sgSearch_name hsg⟩
      · rw [AList.lookup_insert_ne hsame] at hkept
        exact hnames name kept hkept
  obtain ⟨last, hlast, htable⟩ :=
    load_invariant (P := fun _ state => ∀ name d, state.signals.lookup name = some d →
      name ∈ signalNames ∧ isSignalName name = true) hstart hstep hload
  rw [htable] at hlookup
  exact hlast name d hlookup

/-- The loop over the bits of a signal, from the least significant one. It ends
where the frame does. -/
def extractBits (d : SignalDef) (frame : CanFrame) : List UInt8 → UInt64 → UInt64
  | [], raw => raw
  | i :: rest, raw =>
    let bitPos := d.startBit + i
    let byteIdx := bitPos / 8
    let bitIdx := bitPos % 8
    if h : byteIdx < frame.dlc then
      let byte := frame.data.get ⟨byteIdx.toNat, Nat.lt_of_lt_of_le h frame.dlc_le⟩
      if byte &&& (1 <<< bitIdx) ≠ 0 then extractBits d frame rest (raw ||| (1 <<< i.toUInt64))
      else extractBits d frame rest raw
    else raw

/-- The integer that is scaled. Shift amounts count modulo the width. -/
def rawSigned (d : SignalDef) (frame : CanFrame) : Int64 :=
  let raw := extractBits d frame ((List.range d.length.toNat).map UInt8.ofNat) 0
  if d.isSigned then
    let signBit : UInt64 := 1 <<< (d.length.toUInt64 - 1)
    if raw &&& signBit ≠ 0 then (raw ||| ~~~(signBit - 1)).toInt64 else raw.toInt64
  else raw.toInt64

/-- `clock` is the time at which a signal is decoded. -/
def decode (fpu : Fpu) (clock : Str → Int) (signals : SignalTable) (frame : CanFrame) :
    List DecodedSignal :=
  signals.entries.filterMap fun entry =>
    if entry.2.canId ≠ frame.canId then none
    else some {
      name := entry.1
      value := fpu.mulAdd (fpu.ofInt64 (rawSigned entry.2 frame)) entry.2.scale entry.2.offset
      unit := entry.2.unit
      timestamp := clock entry.1 }

theorem decode_names (fpu : Fpu) (clock : Str → Int) (signals : SignalTable) (frame : CanFrame)
    (name : Str) :
    (∃ sig ∈ decode fpu clock signals frame, sig.name = name) ↔
      ∃ d, signals.lookup name = some d ∧ d.canId = frame.canId := by
  simp only [decode, List.mem_filterMap]
  constructor
  · rintro ⟨sig, ⟨⟨key, d⟩, hentry, hsig⟩, rfl⟩
    split at hsig
    · contradiction
    · next hid =>
      obtain rfl := Option.some.inj hsig
      exact ⟨d, AList.mem_lookup_iff.mpr hentry, not_not.mp hid⟩
  · rintro ⟨d, hlookup, hid⟩
    have hentry : ⟨name, d⟩ ∈ signals.entries := AList.mem_lookup_iff.mp hlookup
    exact ⟨_, ⟨⟨name, d⟩, hentry, if_neg (not_not.mpr hid)⟩, rfl⟩

theorem decode_nodup (fpu : Fpu) (clock : Str → Int) (signals : SignalTable) (frame : CanFrame) :
    ((decode fpu clock signals frame).map (·.name)).Nodup := by
  unfold decode
  rw [List.Nodup, List.pairwise_map, List.pairwise_filterMap]
  apply (List.nodupKeys_iff_pairwise.mp signals.nodupKeys).imp
  intro entry other hkeys sig hsig sig' hsig'
  split at hsig
  · cases hsig
  · split at hsig'
    · cases hsig'
    · rw [← Option.some.inj hsig, ← Option.some.inj hsig']
      exact hkeys

def admitted (signalNames : List Str) : List Str := signalNames.filter isSignalName

theorem decode_admitted {fpu : Fpu} {text : Str} {signalNames : List Str}
    {listing : SignalTable} (hload : (load fpu (some text) signalNames ∅).1 = .ok true)
    (hlisting : listing.entries.Perm (load fpu (some text) signalNames ∅).2.entries)
    {clock : Str → Int} {frame : CanFrame} {signal : DecodedSignal}
    (h : signal ∈ decode fpu clock listing frame) : signal.name ∈ admitted signalNames := by
  obtain ⟨d, hlookup, _⟩ := (decode_names fpu clock listing frame signal.name).mp ⟨signal, h, rfl⟩
  rw [AList.perm_lookup hlisting] at hlookup
  exact List.mem_filter.mpr (load_names hload hlookup)

end SdvGateway.CanLayer.SignalDecoder
