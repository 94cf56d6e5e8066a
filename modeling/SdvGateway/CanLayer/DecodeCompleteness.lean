import SdvGateway.CanLayer.FrameIdentity
import SdvGateway.Library.Grouping

/-! What a frame gives for all `SG_` lines of a DBC file together. The loader has
one place per signal name, so the lines of one name compete for it. -/
namespace SdvGateway.CanLayer.DecodeCompleteness
open Common DbcLine SignalDecoder CanReader FrameIdentity Library Grouping

structure Declaration where
  block : Option Nat
  line : SgMatch

def declarations : List Str → List Declaration
  | [] => []
  | line :: above =>
    match boSearch line, sgSearch line with
    | none, some m => ⟨blockAbove above, m⟩ :: declarations above
    | _, _ => declarations above

def named (name : Str) (linesUpwards : List Str) : List Declaration :=
  group (·.line.name) name (declarations linesUpwards)

def entry (fpu : Fpu) (clock : Str → Int) (frame : CanFrame) (name : Str) (d : SignalDef) :
    DecodedSignal where
  name := name
  value := fpu.mulAdd (fpu.ofInt64 (rawSigned d frame)) d.scale d.offset
  unit := d.unit
  timestamp := clock name

def expectedEntry (fpu : Fpu) (clock : Str → Int) (signalNames : List Str) (frame : CanFrame)
    (declared : Declaration) : Option DecodedSignal :=
  if declared.line.name ∈ signalNames ∧ declared.block = some frame.canId.toNat then
    (signalDef fpu frame.canId declared.line).toOption.map
      (entry fpu clock frame declared.line.name)
  else none

def expected (fpu : Fpu) (clock : Str → Int) (text : Str) (signalNames : List Str)
    (frame : CanFrame) : List DecodedSignal :=
  (declarations (getlines text).reverse).filterMap (expectedEntry fpu clock signalNames frame)

/-- Exactly one entry for each wanted line under a block with the frame's id. -/
def Complete (fpu : Fpu) (clock : Str → Int) (text : Str) (signalNames : List Str)
    (listing : SignalTable) (frame : CanFrame) : Prop :=
  (decode fpu clock listing frame).Perm (expected fpu clock text signalNames frame)

instance (fpu : Fpu) (clock : Str → Int) (text : Str) (signalNames : List Str)
    (listing : SignalTable) (frame : CanFrame) :
    Decidable (Complete fpu clock text signalNames listing frame) :=
  inferInstanceAs (Decidable (List.Perm _ _))

def NumbersFit (text : Str) : Prop :=
  ∀ line ∈ getlines text, ∀ number ∈ boNumber line, number < 2 ^ 32

instance (text : Str) : Decidable (NumbersFit text) :=
  inferInstanceAs (Decidable (∀ line ∈ getlines text, ∀ number ∈ boNumber line, number < 2 ^ 32))

/-- No wanted line under a block with this id is followed by another line of its
name, and for id 0 the last line of a wanted name stands under some block. -/
def Unshadowed (signalNames : List Str) (linesUpwards : List Str) (canId : UInt32) : Prop :=
  ∀ name ∈ signalNames,
    (∀ declared ∈ (named name linesUpwards).tail, declared.block ≠ some canId.toNat) ∧
      (canId = 0 → ∀ declared ∈ (named name linesUpwards).head?, declared.block ≠ none)

instance (signalNames : List Str) (linesUpwards : List Str) (canId : UInt32) :
    Decidable (Unshadowed signalNames linesUpwards canId) :=
  inferInstanceAs (Decidable (∀ name ∈ signalNames,
    (∀ declared ∈ (named name linesUpwards).tail, declared.block ≠ some canId.toNat) ∧
      (canId = 0 → ∀ declared ∈ (named name linesUpwards).head?, declared.block ≠ none)))

/-- What the loader keeps of the lines it has read: of each wanted name the last
line. -/
structure LastKept (fpu : Fpu) (signalNames above : List Str) (state : LoadState) : Prop where
  loaded : Loaded signalNames above state
  readable : ∀ declared ∈ declarations above, declared.line.name ∈ signalNames →
    ∃ d, signalDef fpu (tableId declared.block) declared.line = .ok d
  kept : ∀ name ∈ signalNames, state.signals.lookup name =
    (named name above).head?.bind fun declared =>
      (signalDef fpu (tableId declared.block) declared.line).toOption

theorem declarations_other {line : Str} (h : boSearch line ≠ none ∨ sgSearch line = none)
    (above : List Str) : declarations (line :: above) = declarations above := by
  cases hbo : boSearch line with
  | some number => simp [declarations, hbo]
  | none =>
    have hsg : sgSearch line = none := h.resolve_left (not_not.mpr hbo)
    simp [declarations, hbo, hsg]

theorem declarations_signal {line : Str} {m : SgMatch} (hbo : boSearch line = none)
    (hsg : sgSearch line = some m) (above : List Str) :
    declarations (line :: above) = ⟨blockAbove above, m⟩ :: declarations above := by
  simp [declarations, hbo, hsg]

theorem named_other {line : Str} (h : boSearch line ≠ none ∨ sgSearch line = none) (name : Str)
    (above : List Str) : named name (line :: above) = named name above := by
  simp only [named, declarations_other h]

theorem named_signal {line : Str} {m : SgMatch} (hbo : boSearch line = none)
    (hsg : sgSearch line = some m) (above : List Str) :
    named m.name (line :: above) = ⟨blockAbove above, m⟩ :: named m.name above := by
  simp [named, group, declarations_signal hbo hsg]

theorem named_signal_ne {line name : Str} {m : SgMatch} (hbo : boSearch line = none)
    (hsg : sgSearch line = some m) (hne : m.name ≠ name) (above : List Str) :
    named name (line :: above) = named name above := by
  simp [named, group, declarations_signal hbo hsg, hne]

theorem lastKept_nil (fpu : Fpu) (signalNames : List Str) :
    LastKept fpu signalNames [] ⟨0, ∅⟩ := by
  constructor
  · exact loaded_nil signalNames
  · intro declared hdeclared
    cases hdeclared
  · intro name _
    rfl

private theorem lastKept_other {fpu : Fpu} {signalNames above : List Str} {state state' : LoadState}
    {line : Str} (h : LastKept fpu signalNames above state)
    (hother : boSearch line ≠ none ∨ sgSearch line = none)
    (hloaded : Loaded signalNames (line :: above) state')
    (hsignals : state'.signals = state.signals) :
    LastKept fpu signalNames (line :: above) state' := by
  constructor
  · exact hloaded
  · rw [declarations_other hother]
    exact h.readable
  · intro name hname
    rw [named_other hother, hsignals]
    exact h.kept name hname

theorem lastKept_line {fpu : Fpu} {signalNames above : List Str} {state state' : LoadState}
    {line : Str} (h : LastKept fpu signalNames above state)
    (hline : LoadStep fpu signalNames state line state') :
    LastKept fpu signalNames (line :: above) state' := by
  have hloaded := loaded_line h.loaded hline
  cases hline with
  | block hbo hnumber => exact lastKept_other h (Or.inl (by simp [hbo])) hloaded rfl
  | other hbo hsg => exact lastKept_other h (Or.inr hsg) hloaded rfl
  | @unwanted m hbo hsg hunwanted =>
    constructor
    · exact hloaded
    · rw [declarations_signal hbo hsg, List.forall_mem_cons]
      exact ⟨fun hname => absurd hname hunwanted, h.readable⟩
    · intro name hname
      have hne : m.name ≠ name := fun heq => hunwanted (heq ▸ hname)
      rw [h.kept name hname, named_signal_ne hbo hsg hne]
  | @signal m d hbo hsg hwanted hd =>
    have hread : signalDef fpu (tableId (blockAbove above)) m = .ok d := by
      rw [← h.loaded.current]
      exact hd
    constructor
    · exact hloaded
    · rw [declarations_signal hbo hsg, List.forall_mem_cons]
      exact ⟨fun _ => ⟨d, hread⟩, h.readable⟩
    · intro name hname
      by_cases hsame : m.name = name
      · subst hsame
        simp [named_signal hbo hsg, hread, Except.toOption]
      · have hne : name ≠ m.name := fun heq => hsame heq.symm
        rw [AList.lookup_insert_ne hne, h.kept name hname, named_signal_ne hbo hsg hsame]

theorem mem_declarations {lines : List Str} {declared : Declaration}
    (h : declared ∈ declarations lines) :
    ∃ line above, line :: above <:+ lines ∧ boSearch line = none ∧
      sgSearch line = some declared.line ∧ declared.block = blockAbove above := by
  induction lines with
  | nil => cases h
  | cons line above ih =>
    have hlater (hmem : declared ∈ declarations above) :
        ∃ found below, found :: below <:+ line :: above ∧ boSearch found = none ∧
          sgSearch found = some declared.line ∧ declared.block = blockAbove below := by
      obtain ⟨found, below, hsuffix, hfound⟩ := ih hmem
      exact ⟨found, below, hsuffix.trans (List.suffix_cons line above), hfound⟩
    by_cases hother : boSearch line ≠ none ∨ sgSearch line = none
    · rw [declarations_other hother] at h
      exact hlater h
    · push Not at hother
      obtain ⟨m, hsg⟩ := Option.ne_none_iff_exists'.mp hother.2
      rw [declarations_signal hother.1 hsg] at h
      cases List.mem_cons.mp h with
      | inl heq =>
        subst heq
        exact ⟨line, above, List.suffix_refl _, hother.1, hsg, rfl⟩
      | inr hmem => exact hlater hmem

private theorem block_none_of_above {lines : List Str} (h : blockAbove lines = none) :
    ∀ declared ∈ declarations lines, declared.block = none := by
  intro declared hdeclared
  obtain ⟨line, above, hsuffix, _, _, hblock⟩ := mem_declarations hdeclared
  rw [hblock]
  apply List.findSome?_eq_none_iff.mpr
  intro l hl
  exact List.findSome?_eq_none_iff.mp h l (hsuffix.subset (List.mem_cons_of_mem _ hl))

theorem block_lt {lines : List Str} {bound : Nat}
    (h : ∀ line ∈ lines, ∀ number ∈ boNumber line, number < bound) :
    ∀ declared ∈ declarations lines, ∀ number ∈ declared.block, number < bound := by
  intro declared hdeclared number hnumber
  obtain ⟨line, above, hsuffix, _, _, hblock⟩ := mem_declarations hdeclared
  rw [hblock] at hnumber
  obtain ⟨l, hl, hbo⟩ := List.exists_of_findSome?_eq_some hnumber
  exact h l (hsuffix.subset (List.mem_cons_of_mem _ hl)) number hbo

theorem declarations_pairwise (lines : List Str) :
    (declarations lines).Pairwise fun later earlier =>
      later.block = none → earlier.block = none := by
  induction lines with
  | nil => exact List.Pairwise.nil
  | cons line above ih =>
    by_cases hother : boSearch line ≠ none ∨ sgSearch line = none
    · rw [declarations_other hother]
      exact ih
    · push Not at hother
      obtain ⟨m, hsg⟩ := Option.ne_none_iff_exists'.mp hother.2
      rw [declarations_signal hother.1 hsg]
      apply List.Pairwise.cons
      · intro declared hdeclared hnone
        exact block_none_of_above hnone declared hdeclared
      · exact ih

theorem group_decode (fpu : Fpu) (clock : Str → Int) (listing : SignalTable) (frame : CanFrame)
    (name : Str) :
    group DecodedSignal.name name (decode fpu clock listing frame) =
      (listing.lookup name).toList.filterMap fun d =>
        if d.canId ≠ frame.canId then none else some (entry fpu clock frame name d) := by
  unfold decode
  rw [@group_filterMap _ _ _ _ Sigma.fst, group_entries, List.filterMap_map]
  · rfl
  · intro listed sig hsig
    split at hsig
    · contradiction
    · rw [← Option.some.inj hsig]

theorem group_expected (fpu : Fpu) (clock : Str → Int) (text : Str) (signalNames : List Str)
    (frame : CanFrame) (name : Str) :
    group DecodedSignal.name name (expected fpu clock text signalNames frame) =
      (named name (getlines text).reverse).filterMap
        (expectedEntry fpu clock signalNames frame) := by
  unfold expected named
  rw [group_filterMap]
  intro declared sig hsig
  unfold expectedEntry at hsig
  split at hsig
  · obtain ⟨d, _, rfl⟩ := Option.map_eq_some_iff.mp hsig
    rfl
  · contradiction

theorem tableId_toNat (canId : UInt32) : tableId (some canId.toNat) = canId := by
  simp [tableId]

section
variable {fpu : Fpu} {clock : Str → Int} {signalNames : List Str} {frame : CanFrame}

theorem expectedEntry_eq {declared : Declaration} (hwanted : declared.line.name ∈ signalNames)
    {d : SignalDef} (hd : signalDef fpu (tableId declared.block) declared.line = .ok d) :
    expectedEntry fpu clock signalNames frame declared =
      if declared.block = some frame.canId.toNat then
        some (entry fpu clock frame declared.line.name d)
      else none := by
  unfold expectedEntry
  by_cases hblock : declared.block = some frame.canId.toNat
  · rw [hblock, tableId_toNat] at hd
    simp [hwanted, hblock, hd, Except.toOption]
  · simp [hblock]

private theorem filterMap_expectedEntry_eq_nil {lines : List Declaration}
    (hwanted : ∀ declared ∈ lines, declared.line.name ∈ signalNames)
    (hreadable : ∀ declared ∈ lines,
      ∃ d, signalDef fpu (tableId declared.block) declared.line = .ok d) :
    lines.filterMap (expectedEntry fpu clock signalNames frame) = [] ↔
      ∀ declared ∈ lines, declared.block ≠ some frame.canId.toNat := by
  rw [List.filterMap_eq_nil_iff]
  apply forall₂_congr
  intro declared hdeclared
  obtain ⟨d, hd⟩ := hreadable declared hdeclared
  rw [expectedEntry_eq (hwanted declared hdeclared) hd]
  simp

private theorem group_complete_iff {name : Str} {lines : List Declaration} {kept : Option SignalDef}
    (hname : ∀ declared ∈ lines, declared.line.name = name ∧ name ∈ signalNames)
    (hreadable : ∀ declared ∈ lines,
      ∃ d, signalDef fpu (tableId declared.block) declared.line = .ok d)
    (hbound : ∀ declared ∈ lines, ∀ number ∈ declared.block, number < 2 ^ 32)
    (hpairwise : lines.Pairwise fun later earlier => later.block = none → earlier.block = none)
    (hkept : kept = lines.head?.bind fun declared =>
      (signalDef fpu (tableId declared.block) declared.line).toOption) :
    (kept.toList.filterMap fun d =>
        if d.canId ≠ frame.canId then none else some (entry fpu clock frame name d)).Perm
        (lines.filterMap (expectedEntry fpu clock signalNames frame)) ↔
      (∀ declared ∈ lines.tail, declared.block ≠ some frame.canId.toNat) ∧
        (frame.canId = 0 → ∀ declared ∈ lines.head?, declared.block ≠ none) := by
  cases lines with
  | nil => simp [hkept]
  | cons last rest =>
    obtain ⟨d, hd⟩ := hreadable last List.mem_cons_self
    obtain ⟨hlastName, hwanted⟩ := hname last List.mem_cons_self
    have hrest : rest.filterMap (expectedEntry fpu clock signalNames frame) = [] ↔
        ∀ declared ∈ rest, declared.block ≠ some frame.canId.toNat := by
      apply filterMap_expectedEntry_eq_nil
      · intro declared hdeclared
        rw [(hname declared (List.mem_cons_of_mem _ hdeclared)).1]
        exact hwanted
      · intro declared hdeclared
        exact hreadable declared (List.mem_cons_of_mem _ hdeclared)
    have hkept' : kept = some d := by simp [hkept, hd, Except.toOption]
    have hid : d.canId = tableId last.block := signalDef_canId hd
    simp only [hkept', Option.toList_some, List.filterMap_cons, List.filterMap_nil,
      expectedEntry_eq (hlastName ▸ hwanted) hd, hlastName, hid, List.tail_cons, List.head?_cons,
      Option.mem_some, forall_eq']
    by_cases hasks : last.block = some frame.canId.toNat
    · have hid : tableId (some frame.canId.toNat) = frame.canId := tableId_toNat _
      simp [hasks, hid, ← hrest, List.nil_perm]
    · by_cases horphan : last.block = none ∧ frame.canId = 0
      · -- All lines of the name stand above the first block.
        have hid : tableId none = 0 := rfl
        have hnone : rest.filterMap (expectedEntry fpu clock signalNames frame) = [] := by
          rw [hrest]
          intro declared hdeclared
          rw [List.rel_of_pairwise_cons hpairwise hdeclared horphan.1]
          simp
        simp [horphan, hid, hnone]
      · have hother : tableId last.block ≠ frame.canId := by
          intro heq
          cases hblock : last.block with
          | none =>
            apply horphan
            rw [← heq, hblock]
            exact ⟨rfl, rfl⟩
          | some number =>
            have hlt : number < 2 ^ 32 := hbound last List.mem_cons_self number hblock
            rw [hblock, tableId_eq_iff, Nat.mod_eq_of_lt hlt] at heq
            exact hasks (by rw [hblock, heq])
        have hlast : frame.canId = 0 → last.block ≠ none := fun h0 hnone => horphan ⟨hnone, h0⟩
        simp [hasks, hother, ← hrest, List.nil_perm, -List.filterMap_eq_nil_iff]
        exact fun _ => hlast

end

/-- A frame gives one entry for each wanted `SG_` line of its blocks exactly when
none of them is shadowed. -/
theorem decode_complete_iff (fpu : Fpu) (clock : Str → Int) (text : Str)
    (signalNames : List Str) (listing : SignalTable)
    (hload : (load fpu (some text) signalNames ∅).1 = .ok true) (hfit : NumbersFit text)
    (hlisting : listing.entries.Perm (load fpu (some text) signalNames ∅).2.entries)
    (frame : CanFrame) :
    Complete fpu clock text signalNames listing frame ↔
      Unshadowed signalNames (getlines text).reverse frame.canId := by
  obtain ⟨last, hlast, htable⟩ := load_invariant (lastKept_nil fpu signalNames)
    (fun _ _ _ _ h hline => lastKept_line h hline) hload
  rw [htable] at hlisting
  have hnumbers : ∀ line ∈ (getlines text).reverse, ∀ number ∈ boNumber line,
      number < 2 ^ 32 := by
    intro line hline
    exact hfit line (List.mem_reverse.mp hline)
  unfold Complete Unshadowed
  rw [perm_iff_perm_group DecodedSignal.name]
  apply forall_congr'
  intro name
  rw [group_decode, group_expected, AList.perm_lookup hlisting]
  by_cases hwanted : name ∈ signalNames
  · have hmem : ∀ declared ∈ named name (getlines text).reverse,
        declared ∈ declarations (getlines text).reverse ∧ declared.line.name = name := by
      intro declared hdeclared
      simpa [named, group] using hdeclared
    rw [group_complete_iff]
    · simp [hwanted]
    · intro declared hdeclared
      exact ⟨(hmem declared hdeclared).2, hwanted⟩
    · intro declared hdeclared
      obtain ⟨hin, hsame⟩ := hmem declared hdeclared
      exact hlast.readable declared hin (hsame ▸ hwanted)
    · intro declared hdeclared
      exact block_lt hnumbers declared (hmem declared hdeclared).1
    · exact (declarations_pairwise _).filter _
    · exact hlast.kept name hwanted
  · have hnone : last.signals.lookup name = none := by
      have hid := hlast.loaded.canId name
      rw [if_neg hwanted] at hid
      exact Option.map_eq_none_iff.mp hid
    have hexpected : (named name (getlines text).reverse).filterMap
        (expectedEntry fpu clock signalNames frame) = [] := by
      rw [List.filterMap_eq_nil_iff]
      intro declared hdeclared
      have hsame : declared.line.name = name := by
        simpa [group] using (List.mem_filter.mp hdeclared).2
      simp [expectedEntry, hsame, hwanted]
    simp [hnone, hexpected, hwanted]

theorem decode_complete_speed :
    Complete sampleFpu (fun _ => 0) (speedDbc (lit "180")) [speed]
      (load sampleFpu (some (speedDbc (lit "180"))) [speed] ∅).2
      (translate zeros (zeroFrame 180)) :=
  (decode_complete_iff sampleFpu (fun _ => 0) (speedDbc (lit "180")) [speed] _
    (by decide +kernel) (by decide +kernel) (List.Perm.refl _) _).mpr (by decide +kernel)

def twoSpeeds : Str := speedDbc (lit "180") ++ speedDbc (lit "181")

theorem decode_incomplete_two_messages :
    (load sampleFpu (some twoSpeeds) [speed] ∅).1 = .ok true ∧ NumbersFit twoSpeeds ∧
      ¬Complete sampleFpu (fun _ => 0) twoSpeeds [speed]
        (load sampleFpu (some twoSpeeds) [speed] ∅).2 (translate zeros (zeroFrame 180)) := by
  decide +kernel

end SdvGateway.CanLayer.DecodeCompleteness
