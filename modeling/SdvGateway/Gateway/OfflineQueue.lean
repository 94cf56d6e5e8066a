import SdvGateway.Gateway.OfflineBuffer
import SdvGateway.Library.DropOldest

/-! What the buffer is for: a queue of messages that drops its oldest entry when
it is full. The table refines it as long as the statements succeed and the
messages survive the round trip through their payload. -/
namespace SdvGateway.Gateway.OfflineQueue
open Common Library TelemetryJson OfflineBuffer

def replayed (msg : TelemetryMsg) : TelemetryMsg :=
  { msg with timestamp := truncateToMilliseconds msg.timestamp, fromBuffer := true }

def fifo (capacity : Nat) : Transducer (DropOldest TelemetryMsg capacity) Call Answer :=
  fun queue c =>
    match c with
    | .store _ msg => (.stored true, queue.push msg)
    | .drain _ limit =>
      (.drained ((queue.entries.take limit.toNat).map fun entry => (entry.1, replayed entry.2)),
        queue)
    | .markSent _ rowId => (.marked true, queue.withdraw rowId)

def smooth : Call → Bool
  | .store o _ => o = {}
  | .drain o _ => o = {}
  | .markSent o _ => o = {}

/-- A message with finite doubles and strings without a NUL, on which the JSON
library is lossless. -/
structure Storable (rj : Rapidjson) (msg : TelemetryMsg) : Prop where
  finite : finite msg = true
  uin : (0 : UInt8) ∉ msg.uin
  gear : (0 : UInt8) ∉ msg.gear
  lossless : Lossless rj msg

def pendingRow (rj : Rapidjson) (entry : Int × TelemetryMsg) : Int × Row :=
  (entry.1, ⟨toJson rj entry.2, 0⟩)

structure Related (rj : Rapidjson) (maxRows : Nat) (b : Buffer)
    (queue : DropOldest TelemetryMsg maxRows) : Prop where
  opened : ∃ table, b = ⟨maxRows, some table⟩ ∧
    table.select isPending = queue.entries.map (pendingRow rj) ∧
    table.sequence = queue.issued
  issued_lt : queue.issued < 2 ^ 63
  storable : ∀ entry ∈ queue.entries, Storable rj entry.2

theorem decodeRow_pendingRow {rj : Rapidjson} {entry : Int × TelemetryMsg}
    (h : Storable rj entry.2) :
    decodeRow rj (pendingRow rj entry) = some (entry.1, replayed entry.2) := by
  simp only [decodeRow, pendingRow, toJson_cStr, fromJson_document (h.lossless h.finite),
    cStr_of_notMem h.uin, cStr_of_notMem h.gear, Option.map_some]
  rfl

private theorem sqlLimit_eq_take (limit : UInt64) {rows : List (Int × Row)}
    (h : rows.length < 2 ^ 63) : sqlLimit limit rows = rows.take limit.toNat := by
  have hlt := limit.toNat_lt
  have hnat : limit.toBitVec.toNat = limit.toNat := rfl
  simp only [sqlLimit, BitVec.toInt_eq_toNat_cond, hnat]
  split
  · next hsmall => rw [if_neg (by omega), Int.toNat_natCast]
  · next hlarge => rw [if_pos (by omega), List.take_of_length_le (by omega)]

theorem related_store {rj : Rapidjson} {maxRows : Nat} {b : Buffer}
    {queue : DropOldest TelemetryMsg maxRows} {msg : TelemetryMsg}
    (h : Related rj maxRows b queue) (hmsg : Storable rj msg) (hkey : queue.issued + 1 < 2 ^ 63) :
    (store rj {} msg b).1 = true ∧
      Related rj maxRows (store rj {} msg b).2 (queue.push msg) := by
  obtain ⟨table, rfl, hpending, hsequence⟩ := h.opened
  have hfree : table.sequence < maxRowId := by
    rw [hsequence, maxRowId]
    omega
  have hstored := store_inserted (o := {}) rfl rfl rj msg maxRows hfree
  rcases store_open rj {} msg maxRows table with ⟨inserted, hinsert, hstore⟩ | hstore
  · rw [hstore]
    have hnext := (AutoTable.sequence_insert hinsert).1
    rw [sequence_enforceCapacity] at hnext
    have hcount : pendingCount true ⟨maxRows, some table⟩ = queue.entries.length := by
      rw [pendingCount_eq]
      exact (congrArg List.length hpending).trans (List.length_map _)
    have hselect := AutoTable.select_insert hinsert isPending
    rw [select_enforceCapacity_pending, hcount, hpending, sequence_enforceCapacity,
      hsequence] at hselect
    refine ⟨rfl, ⟨inserted, rfl, ?_, ?_⟩, hkey, ?_⟩
    · rw [hselect]
      by_cases hfull : maxRows ≤ queue.entries.length <;>
        simp [DropOldest.push, hfull, pendingRow, isPending, toJson_cStr, List.map_tail]
    · rw [hnext, hsequence]
      rfl
    · intro entry hentry
      rcases List.mem_append.mp hentry with hentry | hentry
      · split at hentry
        · exact h.storable entry (List.mem_of_mem_tail hentry)
        · exact h.storable entry hentry
      · rw [List.mem_singleton.mp hentry]
        exact hmsg
  · simp [hstore] at hstored

theorem drain_related {rj : Rapidjson} {maxRows : Nat} {b : Buffer}
    {queue : DropOldest TelemetryMsg maxRows} (h : Related rj maxRows b queue)
    (limit : UInt64) :
    drain rj {} limit b =
      (queue.entries.take limit.toNat).map fun entry => (entry.1, replayed entry.2) := by
  obtain ⟨table, rfl, hpending, _⟩ := h.opened
  have hlength : (queue.entries.map (pendingRow rj)).length < 2 ^ 63 := by
    have hissued := h.issued_lt
    have hle := queue.length_le_issued
    rw [List.length_map]
    omega
  have hdecode (entries : List (Int × TelemetryMsg))
      (hstorable : ∀ entry ∈ entries, Storable rj entry.2) :
      (entries.map (pendingRow rj)).filterMap (decodeRow rj) =
        entries.map fun entry => (entry.1, replayed entry.2) := by
    induction entries with
    | nil => rfl
    | cons entry rest ih =>
      rw [List.forall_mem_cons] at hstorable
      rw [List.map_cons, List.filterMap_cons_some (decodeRow_pendingRow hstorable.1),
        ih hstorable.2, List.map_cons]
  change (sqlLimit limit (table.select isPending)).filterMap (decodeRow rj) = _
  rw [hpending, sqlLimit_eq_take limit hlength, ← List.map_take]
  exact hdecode _ fun entry hentry => h.storable entry (List.mem_of_mem_take hentry)

theorem related_markSent {rj : Rapidjson} {maxRows : Nat} {b : Buffer}
    {queue : DropOldest TelemetryMsg maxRows} (h : Related rj maxRows b queue) (rowId : Int) :
    (markSent {} rowId b).1 = true ∧
      Related rj maxRows (markSent {} rowId b).2 (queue.withdraw rowId) := by
  obtain ⟨table, rfl, hpending, hsequence⟩ := h.opened
  refine ⟨rfl, ⟨⟨_, rfl, ?_, hsequence⟩, h.issued_lt, ?_⟩⟩
  · rw [AutoTable.select_update table rowId (by simp [isPending]), hpending, List.filter_map]
    rfl
  · intro entry hentry
    exact h.storable entry (List.mem_of_mem_filter hentry)

def isStore : Call → Bool
  | .store _ _ => true
  | _ => false

/-- The buffer and the queue, and the calls that are still to come: the keys do not run out
before the last of them. -/
structure Ready (rj : Rapidjson) (maxRows : Nat) (calls : List Call) (b : Buffer)
    (queue : DropOldest TelemetryMsg maxRows) : Prop where
  related : Related rj maxRows b queue
  smooth : ∀ c ∈ calls, smooth c = true
  storable : ∀ o msg, Call.store o msg ∈ calls → Storable rj msg
  keys : queue.issued + calls.countP isStore < 2 ^ 63

private theorem ready_call {rj : Rapidjson} {maxRows : Nat} (c : Call) (rest : List Call)
    (b : Buffer)
    (queue : DropOldest TelemetryMsg maxRows) (h : Ready rj maxRows (c :: rest) b queue) :
    (call rj b c).1 = (fifo maxRows queue c).1 ∧
      Ready rj maxRows rest (call rj b c).2 (fifo maxRows queue c).2 := by
  obtain ⟨hrelated, hsmooth, hstorable, hkeys⟩ := h
  obtain ⟨hfirst, hlater⟩ := List.forall_mem_cons.mp hsmooth
  have hrest (o : StoreOutcomes) (msg : TelemetryMsg) (hmem : Call.store o msg ∈ rest) :
      Storable rj msg := hstorable o msg (List.mem_cons_of_mem _ hmem)
  cases c with
  | store o msg =>
    obtain rfl : o = {} := by simpa [OfflineQueue.smooth] using hfirst
    rw [List.countP_cons_of_pos rfl] at hkeys
    obtain ⟨hstored, hnext⟩ :=
      related_store hrelated (hstorable _ msg List.mem_cons_self) (by omega)
    refine ⟨congrArg Answer.stored hstored, hnext, hlater, hrest, ?_⟩
    change queue.issued + 1 + _ < _
    omega
  | drain o limit =>
    obtain rfl : o = {} := by simpa [OfflineQueue.smooth] using hfirst
    rw [List.countP_cons_of_neg Bool.false_ne_true] at hkeys
    exact ⟨congrArg Answer.drained (drain_related hrelated limit), hrelated, hlater, hrest, hkeys⟩
  | markSent o rowId =>
    obtain rfl : o = {} := by simpa [OfflineQueue.smooth] using hfirst
    rw [List.countP_cons_of_neg Bool.false_ne_true] at hkeys
    obtain ⟨hmarked, hnext⟩ := related_markSent hrelated rowId
    exact ⟨congrArg Answer.marked hmarked, hnext, hlater, hrest, hkeys⟩

private theorem related_opened (rj : Rapidjson) (maxRows : Nat) :
    Related rj maxRows (OfflineBuffer.opened maxRows) DropOldest.empty :=
  ⟨⟨AutoTable.empty, rfl, rfl, rfl⟩, Nat.two_pow_pos 63, by simp [DropOldest.empty]⟩

/-- On an empty database the buffer gives the answers of the reference queue, and
its pending rows are the entries of that queue, in order. An insertion is a statement that
fails when the keys of the table have run out. -/
theorem buffer_refines_fifo (rj : Rapidjson) (maxRows : Nat) (hmax : 1 ≤ maxRows)
    (calls : List Call) (hsmooth : ∀ c ∈ calls, smooth c = true)
    (hkeys : calls.countP isStore < 2 ^ 63)
    (hmessages : ∀ o msg, Call.store o msg ∈ calls →
      finite msg = true ∧ (0 : UInt8) ∉ msg.uin ∧ (0 : UInt8) ∉ msg.gear)
    (hlossless : ∀ o msg, Call.store o msg ∈ calls → Lossless rj msg) :
    let (answers, b) := (call rj).run (OfflineBuffer.opened maxRows) calls
    let (expected, queue) := (fifo maxRows).run DropOldest.empty calls
    answers = expected ∧
      pendingRows b = queue.entries.map (pendingRow rj) ∧
      pendingCount true b = queue.entries.length ∧
      queue.entries.length ≤ maxRows := by
  have hstorable (o : StoreOutcomes) (msg : TelemetryMsg) (hc : Call.store o msg ∈ calls) :
      Storable rj msg := by
    obtain ⟨hfinite, huin, hgear⟩ := hmessages o msg hc
    exact ⟨hfinite, huin, hgear, hlossless o msg hc⟩
  have hready : Ready rj maxRows calls (OfflineBuffer.opened maxRows) DropOldest.empty :=
    ⟨related_opened rj maxRows, hsmooth, hstorable, by simpa [DropOldest.empty] using hkeys⟩
  obtain ⟨hanswers, hfinal⟩ := Transducer.run_simulates ready_call calls hready
  obtain ⟨table, hb, hpending, _⟩ := hfinal.related.opened
  have hrows : pendingRows ((call rj).run (OfflineBuffer.opened maxRows) calls).2 =
      ((fifo maxRows).run DropOldest.empty calls).2.entries.map (pendingRow rj) := by
    rw [hb]
    exact hpending
  refine ⟨hanswers, hrows, ?_, ?_⟩
  · rw [pendingCount_eq, hrows, List.length_map]
  · have hlength := ((fifo maxRows).run DropOldest.empty calls).2.length_le
    omega

def sampleCalls : List Call :=
  [.store {} sampleMessage, .store {} sampleMessage, .drain {} 100, .markSent {} 2]

theorem buffer_refines_fifo_one_row :
    let (answers, b) := (call sampleRapidjson).run (OfflineBuffer.opened 1) sampleCalls
    let (expected, queue) := (fifo 1).run DropOldest.empty sampleCalls
    answers = expected ∧
      pendingRows b = queue.entries.map (pendingRow sampleRapidjson) ∧
      pendingCount true b = queue.entries.length ∧
      queue.entries.length ≤ 1 := by
  have honly : ∀ o msg, Call.store o msg ∈ sampleCalls → msg = sampleMessage := by
    intro o msg h
    simp only [sampleCalls, List.mem_cons, Call.store.injEq, reduceCtorEq, List.not_mem_nil,
      or_false] at h
    rcases h with ⟨_, rfl⟩ | ⟨_, rfl⟩ <;> rfl
  refine buffer_refines_fifo sampleRapidjson 1 (Nat.le_refl 1) sampleCalls (by decide) (by decide)
    ?_ ?_
  · intro o msg h
    rw [honly o msg h]
    decide
  · intro o msg h
    rw [honly o msg h]
    exact sample_lossless

end SdvGateway.Gateway.OfflineQueue
