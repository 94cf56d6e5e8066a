import SdvGateway.CanLayer.ShippedDbc
import SdvGateway.Gateway.FrameQueue

/-! What one frame puts into the accumulators, and what is there between two pops while
no frame has been cut. -/
namespace SdvGateway.Gateway.EngineFrames
open Common Library Batching CanLayer SignalDecoder ShippedDbc
open TelemetryPublisher TelemetryBatches EarlyPublish FrameQueue

/-- What the decoder makes of one frame: the configured engine signals, or at most one
of the others. -/
structure FrameShape (configured : List Str) (signals : List DecodedSignal) : Prop where
  within : names signals ⊆ telemetryNames
  nodup : (names signals).Nodup
  engine : (∀ name, name ∈ names signals ↔ name ∈ configured) ∨
    signals.length ≤ 1 ∧ ∀ name ∈ names signals, name ∉ engineNames

def TaggedFrame (configured : List Str) (frame : List Tagged) : Prop :=
  ∃ n signals, frame = tagged n signals ∧ FrameShape configured signals

structure Whole (configured : List Str) (batch : List Tagged) : Prop where
  within : names (untag batch) ⊆ telemetryNames
  known : ∀ name ∈ names (untag batch), name ∈ engineNames → name ∈ configured
  oneFrame : OneFrame batch
  allOrNone : configured ⊆ names (untag batch) ∨
    ∀ name ∈ engineNames, name ∉ names (untag batch)

theorem whole_nil (configured : List Str) : Whole configured [] := by
  constructor
  · exact List.nil_subset _
  · exact fun _ h => absurd h List.not_mem_nil
  · intro name _ name' _ signal hsignal
    cases hsignal
  · exact Or.inr fun _ _ => List.not_mem_nil

private theorem whole_engine {configured : List Str} {batch : List Tagged}
    (h : Whole configured batch) {signals : List DecodedSignal}
    (hwithin : names signals ⊆ telemetryNames)
    (hall : ∀ name, name ∈ names signals ↔ name ∈ configured) (n : Nat) :
    Whole configured (batch ++ tagged n signals) := by
  have hnames : names (untag (batch ++ tagged n signals)) =
      names (untag batch) ++ names signals := by simp
  have hknown : ∀ name ∈ names (untag (batch ++ tagged n signals)), name ∈ engineNames →
      name ∈ configured := by
    intro name hname hthree
    rw [hnames] at hname
    rcases List.mem_append.mp hname with hbefore | hframe
    · exact h.known name hbefore hthree
    · exact (hall name).mp hframe
  have hsource : ∀ name ∈ engineNames, ∀ signal ∈ source name (batch ++ tagged n signals),
      signal.1 = n := by
    intro name hthree signal hsignal
    have hmem : name ∈ names (untag (batch ++ tagged n signals)) := by
      by_contra hmissing
      rw [source_eq_none.mpr hmissing] at hsignal
      cases hsignal
    have hframe : source name (tagged n signals) ≠ none := by
      rw [ne_eq, source_eq_none, untag_tagged, not_not]
      exact (hall name).mpr (hknown name hmem hthree)
    obtain ⟨found, hfound⟩ := Option.ne_none_iff_exists'.mp hframe
    rw [source_append, hfound, Option.some_or] at hsignal
    exact source_tagged (hfound.trans hsignal)
  constructor
  · rw [hnames]
    exact List.append_subset_of_subset_of_subset h.within hwithin
  · exact hknown
  · intro name hname name' hname' signal hsignal signal' hsignal'
    rw [hsource name hname signal hsignal, hsource name' hname' signal' hsignal']
  · left
    intro name hname
    rw [hnames]
    exact List.mem_append_right _ ((hall name).mpr hname)

private theorem whole_other {configured : List Str} {batch : List Tagged}
    (h : Whole configured batch)
    {signals : List DecodedSignal} (hwithin : names signals ⊆ telemetryNames)
    (hnone : ∀ name ∈ names signals, name ∉ engineNames) (n : Nat) :
    Whole configured (batch ++ tagged n signals) := by
  have hnames : names (untag (batch ++ tagged n signals)) =
      names (untag batch) ++ names signals := by simp
  have hsource : ∀ name ∈ engineNames,
      source name (batch ++ tagged n signals) = source name batch := by
    intro name hname
    have hframe : source name (tagged n signals) = none := by
      rw [source_eq_none, untag_tagged]
      exact fun hmem => hnone name hmem hname
    rw [source_append, hframe, Option.none_or]
  constructor
  · rw [hnames]
    exact List.append_subset_of_subset_of_subset h.within hwithin
  · intro name hname hthree
    rw [hnames] at hname
    rcases List.mem_append.mp hname with hbefore | hframe
    · exact h.known name hbefore hthree
    · exact absurd hthree (hnone name hframe)
  · intro name hname name' hname'
    rw [hsource name hname, hsource name' hname']
    exact h.oneFrame name hname name' hname'
  · rw [hnames]
    rcases h.allOrNone with hall | habsent
    · exact Or.inl fun name hname => List.mem_append_left _ (hall hname)
    · right
      intro name hname hmem
      rcases List.mem_append.mp hmem with hbefore | hframe
      · exact habsent name hname hbefore
      · exact hnone name hframe hname

theorem whole_append {configured : List Str} {batch : List Tagged}
    (h : Whole configured batch) {signals : List DecodedSignal}
    (hshape : FrameShape configured signals) (n : Nat) :
    Whole configured (batch ++ tagged n signals) := by
  rcases hshape.engine with hall | ⟨_, hnone⟩
  · exact whole_engine h hshape.within hall n
  · exact whole_other h hshape.within hnone n

/-- The publisher between two pops: the signals that wait and the rest of the frame that
is being popped make up whole frames, and as long as there is such a rest, one of the
five signals is missing. -/
structure Between (configured : List Str) (waiting : List Tagged) (queue : Queue) : Prop where
  whole : Whole configured (waiting ++ queue.rest)
  frames : ∀ frame ∈ queue.more, TaggedFrame configured frame
  missing : (∃ name ∈ telemetryNames, name ∉ names (untag (waiting ++ queue.rest))) ∨
    (names (untag queue.rest)).Nodup ∧
      ∀ name ∈ names (untag queue.rest), name ∉ names (untag waiting)

theorem nothing_left (waiting : List Tagged) :
    (names (untag [])).Nodup ∧ ∀ name ∈ names (untag []), name ∉ names (untag waiting) :=
  ⟨List.nodup_nil, fun _ hname => absurd hname List.not_mem_nil⟩

theorem untag_cons (signal : Tagged) (rest : List Tagged) :
    names (untag (signal :: rest)) = signal.2.name :: names (untag rest) :=
  rfl

theorem fresh_rest {waiting rest : List Tagged} {signal : Tagged}
    (hnodup : (names (untag (signal :: rest))).Nodup)
    (hfresh : ∀ name ∈ names (untag rest), name ∉ names (untag waiting)) :
    (names (untag rest)).Nodup ∧
      ∀ name ∈ names (untag rest), name ∉ names (untag (waiting ++ [signal])) := by
  rw [untag_cons, List.nodup_cons] at hnodup
  refine ⟨hnodup.2, ?_⟩
  intro name hname hmem
  rw [untag_append, names_append, List.mem_append] at hmem
  rcases hmem with hbefore | hfirst
  · exact hfresh name hname hbefore
  · have heq : name = signal.2.name := List.mem_singleton.mp hfirst
    exact hnodup.1 (heq ▸ hname)

private theorem between_next {configured : List Str} {waiting : List Tagged} {signal : Tagged}
    {rest : List Tagged} {more : List (List Tagged)}
    (h : Between configured waiting ⟨signal :: rest, more⟩) :
    Between configured (waiting ++ [signal]) ⟨rest, more⟩ := by
  have hsame : waiting ++ [signal] ++ rest = waiting ++ signal :: rest := by simp
  constructor
  · change Whole configured (waiting ++ [signal] ++ rest)
    rw [hsame]
    exact h.whole
  · exact h.frames
  · dsimp only
    rw [hsame]
    rcases h.missing with habsent | ⟨hnodup, hfresh⟩
    · exact Or.inl habsent
    · right
      apply fresh_rest hnodup
      exact fun name hname => hfresh name (List.mem_cons_of_mem _ hname)

/-- At the first pop of a frame: if it is an engine frame, the engine signals are all
there already, so that another one is missing, or none of them is there yet. -/
private theorem between_first {configured : List Str} (hengine : configured ⊆ engineNames)
    {waiting : List Tagged} {signal : Tagged} {rest : List Tagged} {more : List (List Tagged)}
    (h : Between configured waiting ⟨[], (signal :: rest) :: more⟩)
    (hincomplete : ¬Received (untag waiting)) :
    Between configured (waiting ++ [signal]) ⟨rest, more⟩ := by
  obtain ⟨n, signals, hframe, hshape⟩ := h.frames _ List.mem_cons_self
  have hsame : waiting ++ [signal] ++ rest = waiting ++ tagged n signals := by
    rw [← hframe]
    simp
  have hbefore : Whole configured waiting := by
    have hwhole := h.whole
    rwa [List.append_nil] at hwhole
  have hnames : names signals = signal.2.name :: names (untag rest) := by
    rw [← untag_cons, hframe, untag_tagged]
  constructor
  · change Whole configured (waiting ++ [signal] ++ rest)
    rw [hsame]
    exact whole_append hbefore hshape n
  · exact fun frame hmem => h.frames frame (List.mem_cons_of_mem _ hmem)
  · dsimp only
    rw [hsame, untag_append, untag_tagged, names_append]
    rcases hshape.engine with hall | ⟨hlength, _⟩
    · rcases hbefore.allOrNone with hpresent | habsent
      · left
        have hmissing : ∃ name ∈ telemetryNames, name ∉ names (untag waiting) := by
          by_contra hnone
          push Not at hnone
          exact hincomplete hnone
        obtain ⟨name, hfive, hname⟩ := hmissing
        refine ⟨name, hfive, ?_⟩
        rw [List.mem_append, not_or]
        exact ⟨hname, fun hmem => hname (hpresent ((hall name).mp hmem))⟩
      · right
        apply fresh_rest
        · rw [untag_cons, ← hnames]
          exact hshape.nodup
        · intro name hname
          have hconfigured : name ∈ configured := by
            rw [← hall, hnames]
            exact List.mem_cons_of_mem _ hname
          exact habsent name (hengine hconfigured)
    · right
      have hrest : rest = [] := by
        have hcount : (names signals).length = signals.length := List.length_map _
        rw [hnames, List.length_cons] at hcount
        apply List.eq_nil_of_length_eq_zero
        have htail : (names (untag rest)).length = rest.length := by simp [names, untag]
        omega
      subst hrest
      exact nothing_left _

private theorem between_pop {configured : List Str} (hengine : configured ⊆ engineNames)
    {waiting rest : List Tagged} {more : List (List Tagged)}
    (h : Between configured waiting ⟨rest, more⟩) (hincomplete : ¬Received (untag waiting)) :
    Between configured (waiting ++ (pop rest more).1.toList) (pop rest more).2 := by
  induction more generalizing rest with
  | nil =>
    cases rest with
    | nil => simpa [pop] using h
    | cons signal rest => exact between_next h
  | cons frame more ih =>
    cases rest with
    | cons signal rest => exact between_next h
    | nil =>
      cases frame with
      | cons signal rest =>
        rw [pop, pop]
        exact between_first hengine h hincomplete
      | nil =>
        apply ih
        constructor
        · exact h.whole
        · exact fun frame hmem => h.frames frame (List.mem_cons_of_mem _ hmem)
        · exact h.missing

theorem between_take {configured : List Str} (hengine : configured ⊆ engineNames)
    {waiting : List Tagged} {queue : Queue} (h : Between configured waiting queue)
    (hincomplete : ¬Received (untag waiting)) (slot : Slot) :
    Between configured (waiting ++ (queue.take slot).1.toList) (queue.take slot).2 := by
  unfold Queue.take
  split
  · exact between_pop hengine h hincomplete
  · simpa using h

theorem incomplete_inside {configured : List Str} {waiting : List Tagged} {queue : Queue}
    (h : Between configured waiting queue) (hinside : queue.rest ≠ []) :
    ¬Received (untag waiting) := by
  intro hreceived
  rcases h.missing with ⟨name, hfive, habsent⟩ | ⟨_, hfresh⟩
  · apply habsent
    rw [untag_append, names_append]
    exact List.mem_append_left _ (hreceived hfive)
  · obtain ⟨signal, rest, hrest⟩ := List.exists_cons_of_ne_nil hinside
    have hname : signal.2.name ∈ names (untag queue.rest) := by
      rw [hrest, untag_cons]
      exact List.mem_cons_self
    have hfive : signal.2.name ∈ telemetryNames := by
      apply h.whole.within
      rw [untag_append, names_append]
      exact List.mem_append_right _ hname
    exact hfresh _ hname (hreceived hfive)

theorem between_restart {configured : List Str} {waiting : List Tagged} {queue : Queue}
    (h : Between configured waiting queue) (hend : queue.rest = []) :
    Between configured [] queue := by
  constructor
  · rw [hend]
    exact whole_nil configured
  · exact h.frames
  · rw [hend]
    exact Or.inr (nothing_left _)

theorem between_enqueue {configured : List Str} {arrivals : List Arrival}
    (h : ∀ arrival ∈ arrivals, FrameShape configured arrival.signals) :
    Between configured [] (enqueue arrivals) := by
  constructor
  · exact whole_nil configured
  · intro frame hframe
    obtain ⟨k, arrival, harrival, rfl⟩ := mem_number hframe
    exact ⟨k, arrival.signals, rfl, h arrival harrival⟩
  · exact Or.inr (nothing_left _)

def configuredEngine (signalNames : List Str) : List Str :=
  engineNames.filter (· ∈ signalNames)

theorem shipped_lookup {name : Str} {id : UInt32}
    (h : (shippedIds.lookup name).map UInt32.ofNat = some id) :
    name ∈ engineNames ∧ id = 180 ∨ name = engineCoolantTemp ∧ id = 452 ∨
      name = batteryVoltage ∧ id = 947 := by
  obtain ⟨n, hlookup, rfl⟩ := Option.map_eq_some_iff.mp h
  obtain ⟨before, after, hentries, _⟩ := List.lookup_eq_some_iff.mp hlookup
  have hmem : (name, n) ∈ shippedIds := by
    rw [hentries]
    simp
  simp only [shippedIds, List.mem_cons, Prod.mk.injEq, List.not_mem_nil, or_false] at hmem
  rcases hmem with ⟨rfl, rfl⟩ | ⟨rfl, rfl⟩ | ⟨rfl, rfl⟩ | ⟨rfl, rfl⟩ | ⟨rfl, rfl⟩ <;> decide

private theorem shipped_engine {name : Str} (h : name ∈ engineNames) :
    (shippedIds.lookup name).map UInt32.ofNat = some 180 := by
  have hall : ∀ name ∈ engineNames,
      (shippedIds.lookup name).map UInt32.ofNat = some 180 := by
    decide
  exact hall name h

private theorem shipped_alone {name name' : Str} {id : UInt32} (hid : id ≠ 180)
    (h : (shippedIds.lookup name).map UInt32.ofNat = some id)
    (h' : (shippedIds.lookup name').map UInt32.ofNat = some id) : name = name' := by
  rcases shipped_lookup h with ⟨_, hengine⟩ | ⟨rfl, hcoolant⟩ | ⟨rfl, hbattery⟩
  · exact absurd hengine hid
  · subst hcoolant
    rcases shipped_lookup h' with ⟨_, hother⟩ | ⟨rfl, _⟩ | ⟨_, hother⟩
    · cases hother
    · rfl
    · cases hother
  · subst hbattery
    rcases shipped_lookup h' with ⟨_, hother⟩ | ⟨_, hother⟩ | ⟨rfl, _⟩
    · cases hother
    · cases hother
    · rfl

/-- With the DBC file of the repository the engine signals come together, and all other
signals alone. -/
theorem shipped_shape {fpu : Fpu} {signalNames : List Str} {listing : SignalTable}
    (hload : (load fpu (some toyotaCorolla) signalNames ∅).1 = .ok true)
    (hlisting : listing.entries.Perm (load fpu (some toyotaCorolla) signalNames ∅).2.entries)
    {arrival : Arrival} (hdecoded : Decoded fpu listing arrival) :
    FrameShape (configuredEngine signalNames) arrival.signals := by
  have hperm : (names arrival.signals).Perm
      (names (decode fpu arrival.clock listing arrival.frame)) := hdecoded.map _
  have hnames (name : Str) : name ∈ names arrival.signals ↔
      name ∈ signalNames ∧
        (shippedIds.lookup name).map UInt32.ofNat = some arrival.frame.canId := by
    rw [hperm.mem_iff, ← shipped_decodes hload hlisting arrival.clock arrival.frame name]
    exact List.mem_map
  have hnodup : (names arrival.signals).Nodup :=
    hperm.nodup_iff.mpr (decode_nodup fpu arrival.clock listing arrival.frame)
  constructor
  · intro name hname
    rcases shipped_lookup ((hnames name).mp hname).2 with ⟨hthree, _⟩ | ⟨rfl, _⟩ | ⟨rfl, _⟩
    · have hsubset : engineNames ⊆ telemetryNames := by decide
      exact hsubset hthree
    · decide
    · decide
  · exact hnodup
  · by_cases hid : arrival.frame.canId = 180
    · left
      intro name
      rw [hnames, configuredEngine, List.mem_filter, hid, decide_eq_true_eq]
      constructor
      · rintro ⟨hwanted, hlookup⟩
        rcases shipped_lookup hlookup with ⟨hthree, _⟩ | ⟨_, hother⟩ | ⟨_, hother⟩
        · exact ⟨hthree, hwanted⟩
        · exact absurd hother (by decide)
        · exact absurd hother (by decide)
      · rintro ⟨hthree, hwanted⟩
        exact ⟨hwanted, shipped_engine hthree⟩
    · right
      constructor
      · have hlength : (names arrival.signals).length = arrival.signals.length :=
          List.length_map _
        rw [← hlength]
        cases hlist : names arrival.signals with
        | nil => exact Nat.zero_le 1
        | cons first rest =>
          rw [hlist] at hnames hnodup
          have hsingle : first :: rest ⊆ [first] := by
            intro name hname
            have hfirst := ((hnames first).mp List.mem_cons_self).2
            rw [shipped_alone hid ((hnames name).mp hname).2 hfirst]
            exact List.mem_singleton_self first
          exact (List.subperm_of_subset hnodup hsingle).length_le
      · intro name hname hthree
        have hlookup := ((hnames name).mp hname).2
        rw [shipped_engine hthree] at hlookup
        exact hid (Option.some.inj hlookup).symm

end SdvGateway.Gateway.EngineFrames
