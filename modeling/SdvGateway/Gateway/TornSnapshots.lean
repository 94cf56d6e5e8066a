import SdvGateway.Gateway.EngineFrames

/-! Which frames a message is made from. A timer that has expired cuts through a
frame. -/
namespace SdvGateway.Gateway.TornSnapshots
open Common Library Batching CanLayer SignalDecoder ShippedDbc
open TelemetryPublisher TelemetryBatches EarlyPublish FrameQueue EngineFrames

/-- What a check decides: with whole frames it can publish, inside a frame it waits, and
what it leaves waiting is not complete. -/
structure Checked (waiting : List Tagged) (queue : Queue) (built : Bool) : Prop where
  atEnd : built = true → queue.rest = []
  incomplete : built = false → ¬Received (untag waiting)

theorem checked_of_between {configured : List Str} {waiting : List Tagged} {queue : Queue}
    (h : Between configured waiting queue) (env : Env) (lastPublish now : Int)
    (htimely : queue.rest ≠ [] → timerFired (holding env lastPublish waiting) now = false) :
    Checked waiting queue (publishes (holding env lastPublish waiting) now) := by
  have hwithin : names (untag waiting) ⊆ telemetryNames := by
    have hall := h.whole.within
    rw [untag_append, names_append] at hall
    exact fun name hname => hall (List.mem_append_left _ hname)
  have hexact := allSignals_iff_received
    (Or.inr (Or.inr (List.Subset.refl telemetryNames))) env lastPublish hwithin
  have hpublishes := publishes_collect env lastPublish (untag waiting) now
  constructor
  · intro hbuilt
    by_contra hinside
    rcases hpublishes.mp hbuilt with hall | ⟨htimer, _⟩
    · exact incomplete_inside h hinside (hexact.mp hall)
    · rw [← holding, htimely hinside] at htimer
      cases htimer
  · intro hbuilt hreceived
    rw [holding, hpublishes.mpr (Or.inl (hexact.mpr hreceived))] at hbuilt
    cases hbuilt

theorem timely_take {env : Env} {lastPublish : Int} {waiting : List Tagged} {queue : Queue}
    {slot : Slot} {rest : List Slot}
    (htimely : Timely (deliver env (holding env lastPublish waiting) queue (slot :: rest)))
    (hinside : (queue.take slot).2.rest ≠ []) :
    timerFired (holding env lastPublish (waiting ++ (queue.take slot).1.toList))
      slot.timing.now = false := by
  have htimer := (iterate_check env (holding env lastPublish waiting)
    (turnOf (queue.take slot).1 slot)).2.2
  rw [afterPop_holding] at htimer
  change _ = timerFired _ slot.timing.now at htimer
  rw [← htimer]
  rw [deliver_cons] at htimely
  apply htimely _ List.mem_cons_self
  simpa using hinside

/-- The state after a turn that raised no exception, and how it stands between the next
two pops. -/
private theorem between_after {configured : List Str} {env : Env} {lastPublish : Int}
    {waiting : List Tagged} {queue : Queue} {turn : Turn} {s after : State}
    (hpop : afterPop env s turn = holding env lastPublish waiting)
    (hbetween : Between configured waiting queue)
    (hchecked : Checked waiting queue
      (publishes (holding env lastPublish waiting) turn.timing.now))
    (hafter : (iterate env s turn).2 = some after) :
    ∃ lastPublish' waiting', after = holding env lastPublish' waiting' ∧
      Between configured waiting' queue ∧ ¬Received (untag waiting') ∧
      waiting' = if (iterate env s turn).1.built then [] else waiting := by
  have hstate := iterate_after hafter
  have hbuilt := iterate_built env s turn
  rw [hpop] at hstate hbuilt
  rw [← hbuilt] at hstate hchecked
  cases hcut : (iterate env s turn).1.built with
  | false =>
    rw [hcut] at hstate hchecked
    exact ⟨lastPublish, waiting, hstate, hbetween, hchecked.incomplete rfl, rfl⟩
  | true =>
    rw [hcut] at hstate hchecked
    exact ⟨turn.timing.restart, [], hstate, between_restart hbetween (hchecked.atEnd rfl),
      not_received_nil, rfl⟩

theorem deliver_oneFrame {configured : List Str} (hengine : configured ⊆ engineNames) (env : Env)
    {slots : List Slot} {lastPublish : Int} {waiting : List Tagged} {queue : Queue}
    (hbetween : Between configured waiting queue) (hincomplete : ¬Received (untag waiting))
    (htimely : Timely (deliver env (holding env lastPublish waiting) queue slots))
    {earlier later : List Delivery} {delivery : Delivery}
    (hsplit : deliver env (holding env lastPublish waiting) queue slots =
      earlier ++ delivery :: later) {msg : TelemetryMsg}
    (hmsg : delivery.record.publication.map (·.msg) = some msg) :
    Summarizes env (untag ((split (·.record.built) Delivery.origin waiting earlier).2 ++
        delivery.origin.toList)) msg ∧
      OneFrame ((split (·.record.built) Delivery.origin waiting earlier).2 ++
        delivery.origin.toList) := by
  induction slots generalizing lastPublish waiting queue earlier with
  | nil => simp [deliver] at hsplit
  | cons slot rest ih =>
    have hnext := between_take hengine hbetween hincomplete slot
    have hchecked := checked_of_between hnext env lastPublish slot.timing.now (timely_take htimely)
    have hpop := afterPop_holding env lastPublish waiting (queue.take slot).1 slot
    rw [deliver_cons] at htimely hsplit
    cases earlier with
    | nil =>
      obtain ⟨rfl, _⟩ := List.cons.inj hsplit
      have hbuilt := iterate_msg env (holding env lastPublish waiting)
        (turnOf (queue.take slot).1 slot)
      rw [hmsg, hpop] at hbuilt
      split at hbuilt
      · next hpublishes =>
        have hwhole := hnext.whole
        rw [hchecked.atEnd hpublishes, List.append_nil] at hwhole
        rw [Option.some.inj hbuilt]
        exact ⟨summarizes_collect env _ _ _, hwhole.oneFrame⟩
      · cases hbuilt
    | cons first earlier =>
      obtain ⟨hfirst, hrest⟩ := List.cons.inj hsplit
      cases hafter : (iterate env (holding env lastPublish waiting)
          (turnOf (queue.take slot).1 slot)).2 with
      | none => simp [hafter] at hrest
      | some after =>
        obtain ⟨lastPublish', waiting', rfl, hbetween', hincomplete', hwaiting⟩ :=
          between_after hpop hnext hchecked hafter
        rw [hafter] at hrest htimely
        have hbatch : (split (·.record.built) Delivery.origin waiting (first :: earlier)).2 =
            (split (·.record.built) Delivery.origin waiting' earlier).2 := by
          rw [split_waiting_cons, hwaiting, ← hfirst]
        rw [hbatch]
        exact ih hbetween' hincomplete'
          (fun d hd => htimely d (List.mem_cons_of_mem _ hd)) hrest

/-- Two publishers that wait with the same values, once the frame is popped that is being
popped. -/
structure Same (waiting waiting' : List Tagged) (queue queue' : Queue) : Prop where
  sources : ∀ name, source name (waiting ++ queue.rest) = source name (waiting' ++ queue'.rest)
  length : queue.rest.length = queue'.rest.length
  more : List.Forall₂ List.Perm queue.more queue'.more

private theorem same_next {waiting waiting' : List Tagged} {signal signal' : Tagged}
    {rest rest' : List Tagged} {more more' : List (List Tagged)}
    (h : Same waiting waiting' ⟨signal :: rest, more⟩ ⟨signal' :: rest', more'⟩) :
    Same (waiting ++ [signal]) (waiting' ++ [signal']) ⟨rest, more⟩ ⟨rest', more'⟩ := by
  constructor
  · intro name
    simpa using h.sources name
  · exact Nat.succ.inj h.length
  · exact h.more

private theorem same_first {waiting waiting' frame frame' : List Tagged}
    {more more' : List (List Tagged)}
    (h : Same waiting waiting' ⟨[], frame :: more⟩ ⟨[], frame' :: more'⟩)
    (hnodup : (names (untag frame)).Nodup) :
    Same waiting waiting' ⟨frame, more⟩ ⟨frame', more'⟩ := by
  obtain ⟨hperm, hmore⟩ := List.forall₂_cons.mp h.more
  constructor
  · intro name
    have hbefore := h.sources name
    rw [List.append_nil, List.append_nil] at hbefore
    have hkeys : (frame.map fun signal => signal.2.name).Nodup := by
      simpa [names, untag, Function.comp_def] using hnodup
    have hframe : source name frame = source name frame' := latest_perm hperm hkeys name
    rw [source_append, source_append, hbefore, hframe]
  · exact hperm.length_eq
  · exact hmore

private theorem same_pop {waiting waiting' rest rest' : List Tagged}
    {more more' : List (List Tagged)} (h : Same waiting waiting' ⟨rest, more⟩ ⟨rest', more'⟩)
    (hnodup : ∀ frame ∈ more, (names (untag frame)).Nodup) :
    Same (waiting ++ (pop rest more).1.toList) (waiting' ++ (pop rest' more').1.toList)
      (pop rest more).2 (pop rest' more').2 := by
  induction more generalizing rest rest' more' with
  | nil =>
    cases h.more
    cases rest with
    | nil =>
      cases rest' with
      | nil => simpa [pop] using h
      | cons signal' rest' => cases h.length
    | cons signal rest =>
      cases rest' with
      | nil => cases h.length
      | cons signal' rest' => exact same_next h
  | cons frame more ih =>
    cases rest with
    | cons signal rest =>
      cases rest' with
      | nil => cases h.length
      | cons signal' rest' =>
        rw [pop]
        cases more' <;> exact same_next h
    | nil =>
      cases rest' with
      | cons signal' rest' => cases h.length
      | nil =>
        cases more' with
        | nil => cases h.more
        | cons frame' more' =>
          rw [pop, pop]
          apply ih (same_first h (hnodup frame List.mem_cons_self))
          exact fun f hf => hnodup f (List.mem_cons_of_mem _ hf)

theorem same_take {waiting waiting' : List Tagged} {queue queue' : Queue}
    (h : Same waiting waiting' queue queue')
    (hnodup : ∀ frame ∈ queue.more, (names (untag frame)).Nodup) (slot : Slot) :
    Same (waiting ++ (queue.take slot).1.toList) (waiting' ++ (queue'.take slot).1.toList)
      (queue.take slot).2 (queue'.take slot).2 := by
  unfold Queue.take
  split
  · exact same_pop h hnodup
  · simpa using h

private theorem names_congr {waiting waiting' : List Tagged}
    (h : ∀ name, source name waiting = source name waiting') (name : Str) :
    name ∈ names (untag waiting) ↔ name ∈ names (untag waiting') := by
  rw [← not_iff_not, ← source_eq_none, ← source_eq_none, h]

theorem publishes_congr {waiting waiting' : List Tagged}
    (h : ∀ name, source name waiting = source name waiting') (env : Env) (lastPublish now : Int) :
    publishes (holding env lastPublish waiting) now =
      publishes (holding env lastPublish waiting') now := by
  have hnumeric : numericNames (names (untag waiting)) = numericNames (names (untag waiting')) := by
    ext name
    rw [mem_numericNames, mem_numericNames, names_congr h]
  have hempty : untag waiting = [] ↔ untag waiting' = [] := by
    have hnames : names (untag waiting) = [] ↔ names (untag waiting') = [] := by
      rw [List.eq_nil_iff_forall_not_mem, List.eq_nil_iff_forall_not_mem]
      exact forall_congr' fun name => not_congr (names_congr h name)
    rwa [names, names, List.map_eq_nil_iff, List.map_eq_nil_iff] at hnames
  have htimer : timerFired (holding env lastPublish waiting) now =
      timerFired (holding env lastPublish waiting') now := by
    rw [timerFired, timerFired, holding, holding, collect_lastPublish, collect_lastPublish]
  rw [Bool.eq_iff_iff, holding, holding, publishes_collect, publishes_collect, allSignals_collect,
    allSignals_collect, hnumeric, names_congr h, ← holding, ← holding, htimer, ne_eq, hempty]

theorem telemetryMsg_congr {waiting waiting' : List Tagged}
    (h : ∀ name, source name waiting = source name waiting') (env : Env) (lastPublish : Int)
    (wallClock : Int64) :
    telemetryMsg env (holding env lastPublish waiting) wallClock =
      telemetryMsg env (holding env lastPublish waiting') wallClock := by
  have hlatest (name : Str) : latestOf name (untag waiting) = latestOf name (untag waiting') := by
    rw [latestOf_untag, latestOf_untag, h]
  have hvalue {name : Str} (hname : name ≠ gearShift) :
      numericOr0 (holding env lastPublish waiting) name =
        numericOr0 (holding env lastPublish waiting') name := by
    rw [holding, holding, numericOr0_collect env _ _ hname, numericOr0_collect env _ _ hname,
      latestValue, latestValue, hlatest]
  have hgear : (holding env lastPublish waiting).gear =
      (holding env lastPublish waiting').gear := by
    rw [holding, holding, collect_gear, collect_gear, hlatest]
  have hreceived : (holding env lastPublish waiting).gearReceived =
      (holding env lastPublish waiting').gearReceived := by
    rw [holding, holding, collect_gearReceived, collect_gearReceived, hlatest]
  unfold telemetryMsg
  rw [hvalue (by decide), hvalue (by decide), hvalue (by decide), hvalue (by decide), hgear,
    hreceived]

theorem publishNow_congr {env : Env} {s s' : State} {timing : Timing}
    (h : telemetryMsg env s timing.wallClock = telemetryMsg env s' timing.wallClock) :
    publishNow env s timing = publishNow env s' timing := by
  unfold publishNow
  rw [h]

theorem nodup_frames {configured : List Str} {waiting : List Tagged} {queue : Queue}
    (h : Between configured waiting queue) :
    ∀ frame ∈ queue.more, (names (untag frame)).Nodup := by
  intro frame hframe
  obtain ⟨n, signals, rfl, hshape⟩ := h.frames frame hframe
  rw [untag_tagged]
  exact hshape.nodup

theorem Same.atEnd {waiting waiting' : List Tagged} {queue queue' : Queue}
    (h : Same waiting waiting' queue queue') : queue.rest = [] ↔ queue'.rest = [] := by
  rw [← List.length_eq_zero_iff, ← List.length_eq_zero_iff, h.length]

theorem Same.source_eq {waiting waiting' : List Tagged} {queue queue' : Queue}
    (h : Same waiting waiting' queue queue') (hrest : queue.rest = []) (name : Str) :
    source name waiting = source name waiting' := by
  have hall := h.sources name
  rwa [hrest, h.atEnd.mp hrest, List.append_nil, List.append_nil] at hall

theorem Same.restart {waiting waiting' : List Tagged} {queue queue' : Queue}
    (h : Same waiting waiting' queue queue') (hrest : queue.rest = []) :
    Same [] [] queue queue' := by
  constructor
  · intro name
    rw [hrest, h.atEnd.mp hrest]
  · exact h.length
  · exact h.more

/-- Inside a frame neither publishes. -/
theorem Same.publishes_eq {waiting waiting' : List Tagged} {queue queue' : Queue}
    (h : Same waiting waiting' queue queue') {env : Env} {lastPublish now : Int}
    (hchecked : Checked waiting queue (publishes (holding env lastPublish waiting) now))
    (hchecked' : Checked waiting' queue' (publishes (holding env lastPublish waiting') now)) :
    publishes (holding env lastPublish waiting) now =
      publishes (holding env lastPublish waiting') now := by
  by_cases hrest : queue.rest = []
  · exact publishes_congr (h.source_eq hrest) env lastPublish now
  · rw [Bool.eq_false_iff.mpr (mt hchecked.atEnd hrest),
      Bool.eq_false_iff.mpr (mt hchecked'.atEnd (mt h.atEnd.mpr hrest))]

private theorem deliver_same {configured : List Str} (hengine : configured ⊆ engineNames)
    (env : Env) {slots : List Slot} {lastPublish : Int} {waiting waiting' : List Tagged}
    {queue queue' : Queue} (hsame : Same waiting waiting' queue queue')
    (hbetween : Between configured waiting queue)
    (hbetween' : Between configured waiting' queue')
    (hincomplete : ¬Received (untag waiting)) (hincomplete' : ¬Received (untag waiting'))
    (htimely : Timely (deliver env (holding env lastPublish waiting) queue slots)) :
    published (deliver env (holding env lastPublish waiting) queue slots) =
      published (deliver env (holding env lastPublish waiting') queue' slots) := by
  induction slots generalizing lastPublish waiting waiting' queue queue' with
  | nil => rfl
  | cons slot rest ih =>
    have hnext := between_take hengine hbetween hincomplete slot
    have hnext' := between_take hengine hbetween' hincomplete' slot
    have hsame' := same_take hsame (nodup_frames hbetween) slot
    have hpop := afterPop_holding env lastPublish waiting (queue.take slot).1 slot
    have hpop' := afterPop_holding env lastPublish waiting' (queue'.take slot).1 slot
    have hchecked := checked_of_between hnext env lastPublish slot.timing.now (timely_take htimely)
    have hchecked' := checked_of_between hnext' env lastPublish slot.timing.now (by
      intro hinside
      have htimer := timely_take htimely (mt hsame'.atEnd.mp hinside)
      rw [timerFired, holding, collect_lastPublish] at htimer ⊢
      exact htimer)
    have hboth := hsame'.publishes_eq hchecked hchecked'
    rw [deliver_cons] at htimely
    rw [deliver_cons, deliver_cons]
    cases hpublishes : publishes (holding env lastPublish
        (waiting ++ (queue.take slot).1.toList)) slot.timing.now with
    | true =>
      rw [hpublishes] at hchecked hboth
      have hrest := hchecked.atEnd rfl
      have hnow : publishNow env (holding env lastPublish
            (waiting ++ (queue.take slot).1.toList)) slot.timing =
          publishNow env (holding env lastPublish
            (waiting' ++ (queue'.take slot).1.toList)) slot.timing :=
        publishNow_congr (telemetryMsg_congr (hsame'.source_eq hrest) env lastPublish _)
      rw [iterate_publish hpop hpublishes] at htimely ⊢
      rw [iterate_publish hpop' hboth.symm, published_cons, published_cons]
      change (some (publishNow env _ slot.timing).1).toList ++ _ =
        (some (publishNow env _ slot.timing).1).toList ++ _
      rw [hnow]
      apply congrArg (_ ++ ·)
      change Timely (_ :: ((publishNow env _ slot.timing).2.map _).getD []) at htimely
      change published (((publishNow env _ slot.timing).2.map _).getD []) =
        published (((publishNow env _ slot.timing).2.map _).getD [])
      rw [hnow] at htimely ⊢
      cases hafter : (publishNow env (holding env lastPublish
          (waiting' ++ (queue'.take slot).1.toList)) slot.timing).2 with
      | none => rfl
      | some after =>
        obtain rfl := publishNow_after hafter
        rw [hafter] at htimely
        apply @ih slot.timing.restart [] []
        · exact hsame'.restart hrest
        · exact between_restart hnext hrest
        · exact between_restart hnext' (hsame'.atEnd.mp hrest)
        · exact not_received_nil
        · exact not_received_nil
        · exact fun d hd => htimely d (List.mem_cons_of_mem _ hd)
    | false =>
      rw [hpublishes] at hchecked hboth
      rw [← hboth] at hchecked'
      rw [iterate_keep hpop hpublishes] at htimely ⊢
      rw [iterate_keep hpop' hboth.symm, published_cons, published_cons]
      exact ih hsame' hnext hnext' (hchecked.incomplete rfl) (hchecked'.incomplete rfl)
        fun d hd => htimely d (List.mem_cons_of_mem _ hd)

/-- With the shipped DBC file, and as long as no check inside a frame finds the timer
expired, every message takes what it has of the engine signals from one frame, and the
order of the signals in a frame does not change what is published. -/
theorem no_torn_snapshots (env : Env) (fpu : Fpu) (signalNames : List Str)
    (listing : SignalTable) (hload : (load fpu (some toyotaCorolla) signalNames ∅).1 = .ok true)
    (hlisting : listing.entries.Perm (load fpu (some toyotaCorolla) signalNames ∅).2.entries)
    (start : Int) (arrivals arrivals' : List Arrival)
    (hdecoded : ∀ arrival ∈ arrivals, Decoded fpu listing arrival)
    (hreordered : List.Forall₂ Reordered arrivals arrivals') (slots : List Slot)
    (htimely : Timely (deliver env (.cleared start) (enqueue arrivals) slots)) :
    (∀ earlier delivery later,
        deliver env (.cleared start) (enqueue arrivals) slots = earlier ++ delivery :: later →
        ∀ msg, delivery.record.publication.map (·.msg) = some msg →
          Summarizes env (untag (sources earlier delivery)) msg ∧
            OneFrame (sources earlier delivery)) ∧
      published (deliver env (.cleared start) (enqueue arrivals) slots) =
        published (deliver env (.cleared start) (enqueue arrivals') slots) := by
  have hengine : configuredEngine signalNames ⊆ engineNames :=
    List.filter_subset_self _
  have hshapes : ∀ arrival ∈ arrivals,
      FrameShape (configuredEngine signalNames) arrival.signals :=
    fun arrival harrival => shipped_shape hload hlisting (hdecoded arrival harrival)
  have hshapes' : ∀ arrival ∈ arrivals',
      FrameShape (configuredEngine signalNames) arrival.signals := fun arrival harrival =>
    shipped_shape hload hlisting (decoded_reordered hreordered hdecoded arrival harrival)
  constructor
  · intro earlier delivery later hsplit msg hmsg
    exact deliver_oneFrame hengine env (between_enqueue hshapes) not_received_nil htimely hsplit
      hmsg
  · apply deliver_same hengine env _ (between_enqueue hshapes) (between_enqueue hshapes')
      not_received_nil not_received_nil htimely
    constructor
    · exact fun _ => rfl
    · rfl
    · exact number_reordered hreordered 0

def shippedFpu : Fpu where
  stod text :=
    if text = lit "0.01" then .ok ⟨0x3F847AE147AE147B⟩
    else if text = lit "0.25" then .ok ⟨0x3FD0000000000000⟩
    else if text = lit "1" then .ok ⟨0x3FF0000000000000⟩
    else if text = lit "-40" then .ok ⟨0xC044000000000000⟩
    else if text = lit "0.1" then .ok ⟨0x3FB999999999999A⟩
    else .ok ⟨0⟩
  ofInt64 _ := ⟨0⟩
  mulAdd _ _ offset := offset

def shippedTable : SignalTable := (load shippedFpu (some toyotaCorolla) telemetryNames ∅).2

theorem load_shipped :
    (load shippedFpu (some toyotaCorolla) telemetryNames ∅).1 = .ok true := by
  decide +kernel

def engineArrival : Arrival where
  frame := CanReader.translate FrameIdentity.zeros (FrameIdentity.zeroFrame 180)
  clock _ := 0
  signals := decode shippedFpu (fun _ => 0) shippedTable
    (CanReader.translate FrameIdentity.zeros (FrameIdentity.zeroFrame 180))

theorem decoded_engineArrival : Decoded shippedFpu shippedTable engineArrival := by
  rw [Decoded, engineArrival]

def engineArrivalBackwards : Arrival :=
  { engineArrival with signals := engineArrival.signals.reverse }

def slotAt (pops : Bool) (now : Int) : Slot := ⟨pops, ⟨now, 0, true, now⟩⟩

def oneMessage : List Slot :=
  [slotAt true 0, slotAt true 0, slotAt true 0, slotAt false 5000000000]

theorem no_torn_snapshots_shipped :
    published (deliver sampleEnv (.cleared 0) (enqueue [engineArrival]) oneMessage) =
      published (deliver sampleEnv (.cleared 0) (enqueue [engineArrivalBackwards]) oneMessage) :=
  (no_torn_snapshots sampleEnv shippedFpu telemetryNames shippedTable load_shipped
    (List.Perm.refl _) 0 [engineArrival] [engineArrivalBackwards]
    (List.forall_mem_singleton.mpr decoded_engineArrival)
    (.cons ⟨rfl, rfl, (List.reverse_perm _).symm⟩ .nil) oneMessage (by decide +kernel)).2

/-- The timer expires after the first signal of a frame, and again after the first
signal of the next frame. -/
def lateSlots : List Slot :=
  [slotAt true 5000000000, slotAt true 5000000000, slotAt true 5000000000, slotAt true 10000000000]

/-- The second message has two engine signals of the one frame and the third one of the
other frame, and the first message depends on the order in the frame. -/
theorem torn_snapshot :
    (load shippedFpu (some toyotaCorolla) telemetryNames ∅).1 = .ok true ∧
      (∀ arrival ∈ [engineArrival, engineArrival], Decoded shippedFpu shippedTable arrival) ∧
      (∃ earlier delivery later,
        deliver sampleEnv (.cleared 0) (enqueue [engineArrival, engineArrival]) lateSlots =
            earlier ++ delivery :: later ∧
          delivery.record.built = true ∧ ¬OneFrame (sources earlier delivery)) ∧
      (published (deliver sampleEnv (.cleared 0) (enqueue [engineArrival]) lateSlots)).map
          (·.msg.gear) ≠
        (published (deliver sampleEnv (.cleared 0) (enqueue [engineArrivalBackwards])
          lateSlots)).map (·.msg.gear) := by
  refine ⟨load_shipped, ?_, ⟨[_, _, _], _, [], rfl, ?_, ?_⟩, by decide +kernel⟩
  · intro arrival harrival
    have heq : arrival = engineArrival := by simpa using harrival
    rw [heq]
    exact decoded_engineArrival
  · decide +kernel
  · decide +kernel

end SdvGateway.Gateway.TornSnapshots
