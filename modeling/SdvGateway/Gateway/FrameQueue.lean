import SdvGateway.CanLayer.SignalDecoder
import SdvGateway.Gateway.EarlyPublish

/-! The queue of the publisher with the frames that its signals come from. The publisher
pops the signals of a frame one by one and checks after each. -/
namespace SdvGateway.Gateway.FrameQueue
open Common Library Batching CanLayer SignalDecoder
open TelemetryPublisher TelemetryBatches EarlyPublish

def engineNames : List Str := [vehicleSpeed, engineRpm, gearShift]

structure Arrival where
  frame : CanFrame
  clock : Str → Int
  signals : List DecodedSignal

def Decoded (fpu : Fpu) (table : SignalTable) (arrival : Arrival) : Prop :=
  arrival.signals.Perm (decode fpu arrival.clock table arrival.frame)

def Reordered (arrival arrival' : Arrival) : Prop :=
  arrival'.frame = arrival.frame ∧ arrival'.clock = arrival.clock ∧
    arrival.signals.Perm arrival'.signals

abbrev Tagged := Nat × DecodedSignal

def tagged (number : Nat) (signals : List DecodedSignal) : List Tagged := signals.map (number, ·)

/-- The queue of the publisher: `rest` is what is left of the frame that is being
popped. -/
structure Queue where
  rest : List Tagged
  more : List (List Tagged)

def pop : List Tagged → List (List Tagged) → Option Tagged × Queue
  | signal :: rest, more => (some signal, ⟨rest, more⟩)
  | [], frame :: more => pop frame more
  | [], [] => (none, ⟨[], []⟩)

def number : Nat → List Arrival → List (List Tagged)
  | _, [] => []
  | n, arrival :: rest => tagged n arrival.signals :: number (n + 1) rest

def enqueue (arrivals : List Arrival) : Queue := ⟨[], number 0 arrivals⟩

/-- One turn: whether `pop_for` gets a signal, and the clocks. -/
structure Slot where
  pops : Bool
  timing : Timing

def Queue.take (queue : Queue) (slot : Slot) : Option Tagged × Queue :=
  if slot.pops then pop queue.rest queue.more else (none, queue)

/-- A turn with the frame of the popped signal. `inside` says that a part of a frame has
been popped and a part has not. -/
structure Delivery where
  origin : Option Tagged
  inside : Bool
  record : Record

def turnOf (origin : Option Tagged) (slot : Slot) : Turn := ⟨origin.map (·.2), slot.timing⟩

def deliver (env : Env) : State → Queue → List Slot → List Delivery
  | _, _, [] => []
  | s, queue, slot :: rest =>
    let (origin, queue) := queue.take slot
    match iterate env s (turnOf origin slot) with
    | (record, none) => [⟨origin, !queue.rest.isEmpty, record⟩]
    | (record, some after) =>
      ⟨origin, !queue.rest.isEmpty, record⟩ :: deliver env after queue rest

def turnsOf : Queue → List Slot → List Turn
  | _, [] => []
  | queue, slot :: rest =>
    turnOf (queue.take slot).1 slot :: turnsOf (queue.take slot).2 rest

def sources (earlier : List Delivery) (delivery : Delivery) : List Tagged :=
  waitingAfter (·.record.built) Delivery.origin earlier ++ delivery.origin.toList

/-- The popped signal that gives a field its value. -/
def source (name : Str) (batch : List Tagged) : Option Tagged :=
  latest (fun signal => signal.2.name) name batch

/-- All that is there of the three engine signals comes from one frame. -/
def OneFrame (batch : List Tagged) : Prop :=
  ∀ name ∈ engineNames, ∀ name' ∈ engineNames,
    ∀ signal ∈ source name batch, ∀ signal' ∈ source name' batch, signal.1 = signal'.1

instance : DecidablePred OneFrame := fun batch =>
  inferInstanceAs (Decidable (∀ name ∈ engineNames, ∀ name' ∈ engineNames,
    ∀ signal ∈ source name batch, ∀ signal' ∈ source name' batch, signal.1 = signal'.1))

/-- No check inside a frame finds the timer expired. -/
def Timely (deliveries : List Delivery) : Prop :=
  ∀ delivery ∈ deliveries, delivery.inside = true → delivery.record.timerFired = false

instance : DecidablePred Timely := fun deliveries =>
  inferInstanceAs (Decidable (∀ delivery ∈ deliveries,
    delivery.inside = true → delivery.record.timerFired = false))

def published (deliveries : List Delivery) : List Publication :=
  deliveries.filterMap (·.record.publication)

/-- The deliveries are the turns of the publisher on what it pops. -/
theorem deliver_run (env : Env) (s : State) (queue : Queue) (slots : List Slot) :
    (deliver env s queue slots).map (·.record) = run env s (turnsOf queue slots) := by
  induction slots generalizing s queue with
  | nil => rfl
  | cons slot rest ih =>
    unfold deliver turnsOf run
    dsimp only
    cases iterate env s (turnOf (queue.take slot).1 slot) with
    | mk record after =>
      cases after with
      | none => rfl
      | some after => simp [ih]

def untag (batch : List Tagged) : List DecodedSignal := batch.map (·.2)

@[simp] theorem untag_append (batch more : List Tagged) :
    untag (batch ++ more) = untag batch ++ untag more :=
  List.map_append

@[simp] theorem untag_tagged (n : Nat) (signals : List DecodedSignal) :
    untag (tagged n signals) = signals := by
  simp [untag, tagged]

theorem latestOf_untag (name : Str) (batch : List Tagged) :
    latestOf name (untag batch) = (source name batch).map (·.2) :=
  latest_map name batch

theorem source_append (name : Str) (batch more : List Tagged) :
    source name (batch ++ more) = (source name more).or (source name batch) :=
  latest_append name batch more

theorem source_eq_none {name : Str} {batch : List Tagged} :
    source name batch = none ↔ name ∉ names (untag batch) := by
  rw [source, latest_eq_none]
  simp [names, untag]

theorem source_tagged {name : Str} {n : Nat} {signals : List DecodedSignal} {signal : Tagged}
    (h : signal ∈ source name (tagged n signals)) : signal.1 = n := by
  have hmem := (key_latest h).1
  obtain ⟨_, _, rfl⟩ := List.mem_map.mp hmem
  rfl

theorem mem_number {n : Nat} {arrivals : List Arrival} {frame : List Tagged}
    (h : frame ∈ number n arrivals) :
    ∃ k, ∃ arrival ∈ arrivals, frame = tagged k arrival.signals := by
  induction arrivals generalizing n with
  | nil => cases h
  | cons arrival rest ih =>
    cases List.mem_cons.mp h with
    | inl hfirst => exact ⟨n, arrival, List.mem_cons_self, hfirst⟩
    | inr hrest =>
      obtain ⟨k, found, hfound, hframe⟩ := ih hrest
      exact ⟨k, found, List.mem_cons_of_mem _ hfound, hframe⟩

theorem number_reordered {arrivals arrivals' : List Arrival}
    (h : List.Forall₂ Reordered arrivals arrivals') (n : Nat) :
    List.Forall₂ List.Perm (number n arrivals) (number n arrivals') := by
  induction h generalizing n with
  | nil => exact .nil
  | cons hfirst _ ih => exact .cons (hfirst.2.2.map _) (ih (n + 1))

theorem decoded_reordered {fpu : Fpu} {table : SignalTable} {arrivals arrivals' : List Arrival}
    (h : List.Forall₂ Reordered arrivals arrivals')
    (hdecoded : ∀ arrival ∈ arrivals, Decoded fpu table arrival) :
    ∀ arrival ∈ arrivals', Decoded fpu table arrival := by
  induction h with
  | nil => exact hdecoded
  | cons hfirst _ ih =>
    rw [List.forall_mem_cons] at hdecoded ⊢
    obtain ⟨hframe, hclock, hperm⟩ := hfirst
    refine ⟨?_, ih hdecoded.2⟩
    unfold Decoded
    rw [hframe, hclock]
    exact hperm.symm.trans hdecoded.1

theorem not_received_nil : ¬Received (untag []) := by decide

def holding (env : Env) (lastPublish : Int) (waiting : List Tagged) : State :=
  collect env (.cleared lastPublish) (untag waiting)

theorem afterPop_holding (env : Env) (lastPublish : Int) (waiting : List Tagged)
    (origin : Option Tagged) (slot : Slot) :
    afterPop env (holding env lastPublish waiting) (turnOf origin slot) =
      holding env lastPublish (waiting ++ origin.toList) := by
  rw [holding, afterPop_collect, holding, untag_append]
  cases origin <;> rfl

theorem deliver_cons (env : Env) (s : State) (queue : Queue) (slot : Slot) (rest : List Slot) :
    deliver env s queue (slot :: rest) =
      ⟨(queue.take slot).1, !(queue.take slot).2.rest.isEmpty,
          (iterate env s (turnOf (queue.take slot).1 slot)).1⟩ ::
        ((iterate env s (turnOf (queue.take slot).1 slot)).2.map fun after =>
          deliver env after (queue.take slot).2 rest).getD [] := by
  rw [deliver]
  dsimp only
  cases iterate env s (turnOf (queue.take slot).1 slot) with
  | mk record after => cases after <;> rfl

theorem published_cons (delivery : Delivery) (rest : List Delivery) :
    published (delivery :: rest) = delivery.record.publication.toList ++ published rest := by
  cases h : delivery.record.publication with
  | none => simp [published, h]
  | some publication => simp [published, h]

end SdvGateway.Gateway.FrameQueue
