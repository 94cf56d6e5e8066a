import SdvGateway.CanLayer.DecodeCompleteness

/-! What a load makes of the numbers in a DBC file. The conversions throw on some of
them and are cut to the width of the field on others, with the table half filled. -/
namespace SdvGateway.CanLayer.ExactLoading
open Common DbcLine SignalDecoder FrameIdentity DecodeCompleteness

structure ReadsOff (declared : Declaration) (d : SignalDef) : Prop where
  canId : declared.block = some d.canId.toNat
  startBit : d.startBit.toNat = decimal declared.line.startBit
  length : d.length.toNat = decimal declared.line.length
  byteOrder : d.isLittleEndian = true ↔ declared.line.byteOrder = lit "1"
  sign : d.isSigned = true ↔ declared.line.sign = lit "-"

structure Fits (fpu : Fpu) (m : SgMatch) : Prop where
  startBit : decimal m.startBit < 2 ^ 8
  length : decimal m.length < 2 ^ 8
  scale : (fpu.stod m.scale).isOk = true
  offset : (fpu.stod m.offset).isOk = true

instance (fpu : Fpu) (m : SgMatch) : Decidable (Fits fpu m) :=
  decidable_of_iff (decimal m.startBit < 2 ^ 8 ∧ decimal m.length < 2 ^ 8 ∧
      (fpu.stod m.scale).isOk = true ∧ (fpu.stod m.offset).isOk = true)
    ⟨fun h => ⟨h.1, h.2.1, h.2.2.1, h.2.2.2⟩, fun h => ⟨h.startBit, h.length, h.scale, h.offset⟩⟩

/-- The line holds no number that cannot be represented or parsed. Of the `SG_` lines
those of certain signals count. -/
structure Readable (fpu : Fpu) (counted : Str → Prop) (line : Str) : Prop where
  block : ∀ number ∈ boSearch line, decimal number < 2 ^ 32
  signal : boSearch line = none → ∀ m ∈ sgSearch line, counted m.name → Fits fpu m

instance (fpu : Fpu) (counted : Str → Prop) [DecidablePred counted] (line : Str) :
    Decidable (Readable fpu counted line) :=
  decidable_of_iff ((∀ number ∈ boSearch line, decimal number < 2 ^ 32) ∧
      (boSearch line = none → ∀ m ∈ sgSearch line, counted m.name → Fits fpu m))
    ⟨fun h => ⟨h.1, h.2⟩, fun h => ⟨h.block, h.signal⟩⟩

/-- The load returns; what it stores, it reads off the text; and it stores nothing of
a text with a number that it cannot keep. -/
structure LoadsExactly (stack : RegexStack) (fpu : Fpu) (counted : Str → Prop) (text : Str)
    (signalNames : List Str) (signals : SignalTable) : Prop where
  total : ∃ result table,
    loadOn stack fpu (some text) signalNames signals = some (.ok result, table)
  exact : ∀ table, loadOn stack fpu (some text) signalNames signals = some (.ok true, table) →
    ∀ name ∈ signalNames, ∀ declared ∈ (named name (getlines text).reverse).head?,
      ∀ d ∈ table.lookup name, ReadsOff declared d
  atomic : ¬(∀ line ∈ getlines text, Readable fpu counted line) →
    loadOn stack fpu (some text) signalNames signals = some (.ok false, signals)

def Placed (text : Str) (signalNames : List Str) : Prop :=
  ∀ name ∈ signalNames, ∀ declared ∈ (named name (getlines text).reverse).head?,
    declared.block ≠ none

instance (text : Str) (signalNames : List Str) : Decidable (Placed text signalNames) :=
  inferInstanceAs (Decidable (∀ name ∈ signalNames, ∀ declared ∈ _, _))

structure Stored (fpu : Fpu) (signalNames above : List Str) (state : LoadState) : Prop where
  current : state.currentCanId = tableId (blockAbove above)
  stored : ∀ name ∈ signalNames, ∀ declared ∈ (named name above).head?,
    ∃ d, state.signals.lookup name = some d ∧
      signalDef fpu (tableId declared.block) declared.line = .ok d

theorem stored_nil (fpu : Fpu) (signalNames : List Str) (signals : SignalTable) :
    Stored fpu signalNames [] ⟨0, signals⟩ := by
  refine ⟨?_, ?_⟩
  · rfl
  · intro name _ declared hdeclared
    cases hdeclared

theorem stored_line {fpu : Fpu} {signalNames above : List Str} {state state' : LoadState}
    {line : Str} (h : Stored fpu signalNames above state)
    (hline : LoadStep fpu signalNames state line state') :
    Stored fpu signalNames (line :: above) state' := by
  refine ⟨?_, ?_⟩
  · exact current_line h.current hline
  · intro name hname
    cases hline with
    | block hbo hnumber =>
      rw [named_other (Or.inl (by simp [hbo]))]
      exact h.stored name hname
    | other hbo hsg =>
      rw [named_other (Or.inr hsg)]
      exact h.stored name hname
    | @unwanted m hbo hsg hunwanted =>
      have hne : m.name ≠ name := fun heq => hunwanted (heq ▸ hname)
      rw [named_signal_ne hbo hsg hne]
      exact h.stored name hname
    | @signal m d hbo hsg hwanted hd =>
      by_cases hsame : m.name = name
      · subst hsame
        rw [named_signal hbo hsg]
        intro declared hdeclared
        obtain rfl := Option.some.inj hdeclared
        refine ⟨d, AList.lookup_insert _, ?_⟩
        rw [← h.current]
        exact hd
      · have hne : name ≠ m.name := fun heq => hsame heq.symm
        rw [named_signal_ne hbo hsg hsame, AList.lookup_insert_ne hne]
        exact h.stored name hname

theorem loadLinesOn_ne_false (stack : RegexStack) (fpu : Fpu) (signalNames : List Str)
    (lines : List Str) (table : SignalTable) :
    ∀ state : LoadState,
      loadLinesOn stack fpu signalNames state lines ≠ some (.ok false, table) := by
  induction lines with
  | nil =>
    intro state h
    cases h
  | cons line rest ih =>
    intro state
    unfold loadLinesOn
    split
    · cases loadLine fpu signalNames state line with
      | error e =>
        intro h
        cases h
      | ok state' => exact ih state'
    · intro h
      cases h

private theorem stoul_byte {digits : Str} (hne : digits ≠ []) (h : ∀ b ∈ digits, isDigit b = true)
    (hfits : decimal digits < 2 ^ 8) :
    ∃ number, stoul digits = .ok number ∧ number.toUInt8.toNat = decimal digits := by
  refine ⟨UInt64.ofNat (decimal digits), ?_, ?_⟩
  · rw [stoul_digits hne h, if_neg (by omega)]
  · rw [UInt64.toNat_toUInt8, UInt64.toNat_ofNat']
    omega

private theorem exists_of_isOk {result : Except StdException α} (h : result.isOk = true) :
    ∃ a, result = .ok a := by
  cases result with
  | error e => cases h
  | ok a => exact ⟨a, rfl⟩

theorem signalDef_fits {fpu : Fpu} {line : Str} {m : SgMatch} (hsg : sgSearch line = some m)
    (h : Fits fpu m) (canId : UInt32) :
    ∃ d, signalDef fpu canId m = .ok d ∧ d.canId = canId ∧
      d.startBit.toNat = decimal m.startBit ∧ d.length.toNat = decimal m.length ∧
      (d.isLittleEndian = true ↔ m.byteOrder = lit "1") ∧
      (d.isSigned = true ↔ m.sign = lit "-") := by
  obtain ⟨scale, hscale⟩ := exists_of_isOk h.scale
  obtain ⟨offset, hoffset⟩ := exists_of_isOk h.offset
  have hdigits := sgSearch_digits hsg
  obtain ⟨start, hstart, hstartBit⟩ := stoul_byte hdigits.1.1 hdigits.1.2 h.startBit
  obtain ⟨length, hlength, hlengthBits⟩ := stoul_byte hdigits.2.1 hdigits.2.2 h.length
  refine ⟨⟨canId, start.toUInt8, length.toUInt8, m.byteOrder = [0x31], m.sign = [0x2D], scale,
    offset, m.unit⟩, ?_, rfl, hstartBit, hlengthBits, decide_eq_true_iff, decide_eq_true_iff⟩
  simp [signalDef, hstart, hlength, hscale, hoffset, bind, Except.bind, pure, Except.pure]

theorem loadLine_readable {fpu : Fpu} {counted : Str → Prop} {signalNames : List Str}
    (hcounted : ∀ name ∈ signalNames, counted name) {line : Str}
    (h : Readable fpu counted line) (state : LoadState) :
    ∃ state', loadLine fpu signalNames state line = .ok state' := by
  unfold loadLine
  cases hbo : boSearch line with
  | some number =>
    have hdigits := boSearch_digits hbo
    have hfits := h.block number hbo
    simp only [stoul_digits hdigits.1 hdigits.2]
    rw [if_neg (by omega)]
    exact ⟨_, rfl⟩
  | none =>
    cases hsg : sgSearch line with
    | none => exact ⟨state, rfl⟩
    | some m =>
      dsimp only
      split
      · next hname =>
        obtain ⟨d, hd, _⟩ := signalDef_fits hsg (h.signal hbo m hsg (hcounted m.name hname))
          state.currentCanId
        rw [hd]
        exact ⟨_, rfl⟩
      · exact ⟨state, rfl⟩

theorem loadLines_readable {fpu : Fpu} {counted : Str → Prop} {signalNames : List Str}
    (hcounted : ∀ name ∈ signalNames, counted name) {lines : List Str}
    (h : ∀ line ∈ lines, Readable fpu counted line) :
    ∀ state : LoadState, (loadLines fpu signalNames state lines).1 = .ok true := by
  induction lines with
  | nil =>
    intro state
    rfl
  | cons line rest ih =>
    intro state
    obtain ⟨state', hline⟩ := loadLine_readable hcounted (h line List.mem_cons_self) state
    unfold loadLines
    simp only [hline]
    exact ih (fun l hl => h l (List.mem_cons_of_mem _ hl)) state'

/-- A text without an unreadable number is read to its end, or kills the process. -/
private theorem suffices_of_loadLinesOn {stack : RegexStack} {fpu : Fpu} {counted : Str → Prop}
    {signalNames : List Str} (hcounted : ∀ name ∈ signalNames, counted name) {lines : List Str}
    (h : ∀ line ∈ lines, Readable fpu counted line) {state : LoadState}
    (hreturns : loadLinesOn stack fpu signalNames state lines ≠ none) :
    ∀ line ∈ lines, stack.suffices line = true := by
  induction lines generalizing state with
  | nil => exact fun _ hline => absurd hline List.not_mem_nil
  | cons line rest ih =>
    obtain ⟨hline, hrest⟩ := List.forall_mem_cons.mp h
    obtain ⟨state', hstate⟩ := loadLine_readable hcounted hline state
    rw [loadLinesOn] at hreturns
    split at hreturns
    · next hsuffices =>
      rw [hstate] at hreturns
      exact List.forall_mem_cons.mpr ⟨hsuffices, ih hrest hreturns⟩
    · exact absurd rfl hreturns

private theorem readsOff_of_readable {fpu : Fpu} {counted : Str → Prop} {text name : Str}
    (hreadable : ∀ line ∈ getlines text, Readable fpu counted line) (hcounted : counted name)
    {declared : Declaration} (hdeclared : declared ∈ (named name (getlines text).reverse).head?)
    (hplaced : declared.block ≠ none) {d : SignalDef}
    (hd : signalDef fpu (tableId declared.block) declared.line = .ok d) : ReadsOff declared d := by
  have hmem := List.mem_filter.mp (List.mem_of_mem_head? hdeclared)
  have hname : declared.line.name = name := of_decide_eq_true hmem.2
  obtain ⟨line, above, hsuffix, hbo, hsg, _⟩ := mem_declarations hmem.1
  have hline : line ∈ (getlines text).reverse := hsuffix.subset List.mem_cons_self
  have hfits := (hreadable line (List.mem_reverse.mp hline)).signal hbo declared.line hsg
    (hname ▸ hcounted)
  obtain ⟨d', hd', hid, hstart, hlength, horder, hsign⟩ :=
    signalDef_fits hsg hfits (tableId declared.block)
  obtain rfl := Except.ok.inj (hd'.symm.trans hd)
  have hblock : declared.block = some d'.canId.toNat := by
    obtain ⟨number, hnumber⟩ := Option.ne_none_iff_exists'.mp hplaced
    have hlt : number < 2 ^ 32 := by
      apply block_lt _ declared hmem.1 number hnumber
      intro above habove number hnumber
      obtain ⟨digits, hdigits, rfl⟩ := Option.map_eq_some_iff.mp hnumber
      exact (hreadable above (List.mem_reverse.mp habove)).block digits hdigits
    rw [hid, hnumber, tableId, Option.getD_some, UInt32.toNat_ofNat', Nat.mod_eq_of_lt hlt]
  exact ⟨hblock, hstart, hlength, horder, hsign⟩

/-- A load is exact exactly when the stack suffices for the searches, every number fits and
the wanted signals are placed: then the conversions lose nothing, and otherwise nothing
undoes them. -/
theorem loadsExactly_iff (stack : RegexStack) (fpu : Fpu) {counted : Str → Prop} (text : Str)
    {signalNames : List Str} (hcounted : ∀ name ∈ signalNames, counted name)
    (signals : SignalTable) :
    LoadsExactly stack fpu counted text signalNames signals ↔
      (∀ line ∈ getlines text, stack.suffices line = true) ∧
        (∀ line ∈ getlines text, Readable fpu counted line) ∧ Placed text signalNames := by
  have hstored (hload : (load fpu (some text) signalNames signals).1 = .ok true) :
      ∃ last, Stored fpu signalNames (getlines text).reverse last ∧
        (load fpu (some text) signalNames signals).2 = last.signals := by
    obtain ⟨last, hlast, htable⟩ := loadLines_invariant
      (fun _ _ _ _ h hline => stored_line h hline) (stored_nil fpu signalNames signals) hload
    rw [List.append_nil] at hlast
    exact ⟨last, hlast, htable⟩
  refine ⟨?_, ?_⟩
  · intro h
    have hreadable : ∀ line ∈ getlines text, Readable fpu counted line := by
      by_contra hnot
      exact loadLinesOn_ne_false stack fpu signalNames (getlines text) signals _ (h.atomic hnot)
    have hreturns : loadLinesOn stack fpu signalNames ⟨0, signals⟩ (getlines text) ≠ none := by
      obtain ⟨result, table, htotal⟩ := h.total
      exact fun hnone => Option.some_ne_none _ (htotal.symm.trans hnone)
    have hsuffices := suffices_of_loadLinesOn hcounted hreadable hreturns
    have hload : (load fpu (some text) signalNames signals).1 = .ok true :=
      loadLines_readable hcounted hreadable _
    have heq : loadOn stack fpu (some text) signalNames signals =
        some (.ok true, (load fpu (some text) signalNames signals).2) :=
      (loadOn_eq hsuffices fpu signalNames signals).trans (congrArg some (Prod.ext hload rfl))
    obtain ⟨last, hlast, htable⟩ := hstored hload
    refine ⟨hsuffices, hreadable, ?_⟩
    intro name hname declared hdeclared
    obtain ⟨d, hlookup, _⟩ := hlast.stored name hname declared hdeclared
    rw [← htable] at hlookup
    rw [(h.exact _ heq name hname declared hdeclared d hlookup).canId]
    exact Option.some_ne_none _
  · rintro ⟨hsuffices, hreadable, hplaced⟩
    have hload : (load fpu (some text) signalNames signals).1 = .ok true :=
      loadLines_readable hcounted hreadable _
    have heq : loadOn stack fpu (some text) signalNames signals =
        some (.ok true, (load fpu (some text) signalNames signals).2) :=
      (loadOn_eq hsuffices fpu signalNames signals).trans (congrArg some (Prod.ext hload rfl))
    refine ⟨?_, ?_, ?_⟩
    · exact ⟨true, _, heq⟩
    · intro table htable' name hname declared hdeclared d hlookup
      obtain ⟨last, hlast, htable⟩ := hstored hload
      obtain ⟨d', hlookup', hd'⟩ := hlast.stored name hname declared hdeclared
      obtain rfl : (load fpu (some text) signalNames signals).2 = table := by
        rw [heq] at htable'
        exact congrArg Prod.snd (Option.some.inj htable')
      have hsame : d' = d := by
        rw [← htable] at hlookup'
        exact Option.some.inj (hlookup'.symm.trans hlookup)
      subst hsame
      exact readsOff_of_readable hreadable (hcounted name hname) hdeclared
        (hplaced name hname declared hdeclared) hd'
    · intro hnot
      exact absurd hreadable hnot

def sampleStack : RegexStack := ⟨fun line => line.length ≤ 4096, fun line => line.length ≤ 4096⟩

theorem loadsExactly_speed :
    LoadsExactly sampleStack sampleFpu (· ∈ [speed]) (speedDbc (lit "180")) [speed] ∅ :=
  (loadsExactly_iff sampleStack sampleFpu (speedDbc (lit "180")) (fun _ h => h) ∅).mpr
    (by decide +kernel)

def farSignal : Str :=
  lit "BO_ 180 ENGINE_DATA: 8 ECU\n" ++
    lit " SG_ VEHICLE_SPEED : 300|16@1+ (0.01,0) [0|250] \"km/h\" TCU\n"

/-- One number is cut to eight bits and the load succeeds; another one, 2^64, raises
an exception. -/
theorem not_loadsExactly :
    ((load sampleFpu (some farSignal) [speed] ∅).2.lookup speed).map (·.startBit) = some 44 ∧
      (load sampleFpu (some farSignal) [speed] ∅).1 = .ok true ∧
      (load sampleFpu (some (speedDbc (lit "18446744073709551616"))) [speed] ∅).1 =
        .error .outOfRange ∧
      ¬LoadsExactly sampleStack sampleFpu (· ∈ [speed]) (speedDbc (lit "18446744073709551616"))
        [speed] ∅ := by
  have hthrows : (load sampleFpu (some (speedDbc (lit "18446744073709551616"))) [speed] ∅).1 =
      .error .outOfRange := by decide +kernel
  have hsuffices : ∀ line ∈ getlines (speedDbc (lit "18446744073709551616")),
      sampleStack.suffices line = true := by decide +kernel
  refine ⟨by decide +kernel, by decide +kernel, hthrows, ?_⟩
  intro h
  obtain ⟨result, table, hresult⟩ := h.total
  rw [loadOn_eq hsuffices] at hresult
  rw [Option.some.inj hresult] at hthrows
  cases hthrows

end SdvGateway.CanLayer.ExactLoading
