import SdvGateway.Gateway.TelemetryJson
import SdvGateway.Library.AutoTable
import SdvGateway.Library.Transducer

/-! The store-and-forward buffer over its SQLite table. Each statement is a
transaction of its own; whether it succeeds is an input, and a failed statement
changes nothing. -/
namespace SdvGateway.Gateway.OfflineBuffer
open Common Library TelemetryJson

structure Row where
  payload : Str
  sent : Int
deriving DecidableEq

abbrev Table := AutoTable Row

/-- `db` is `none` while the database is not open. -/
structure Buffer where
  maxRows : Nat
  db : Option Table

/-- The largest key of a SQLite table. -/
def maxRowId : Int := 2 ^ 63 - 1

def isPending (row : Row) : Bool := row.sent = 0

def isSent (row : Row) : Bool := row.sent = 1

structure StoreOutcomes where
  counted : Bool := true
  evicted : Bool := true
  prepared : Bool := true
  stepped : Bool := true
deriving DecidableEq

/-- `stepsUntilError` is the number of rows read before a step fails. -/
structure DrainOutcomes where
  prepared : Bool := true
  stepsUntilError : Option Nat := none
deriving DecidableEq

structure MarkOutcomes where
  prepared : Bool := true
  stepped : Bool := true
deriving DecidableEq

/-- A count that cannot be read is taken for 0. -/
def pendingCount (counted : Bool) (b : Buffer) : Nat :=
  match b.db with
  | none => 0
  | some table => if counted then (table.select isPending).length else 0

/-- `DELETE .. WHERE id = (SELECT id .. WHERE sent=0 ORDER BY id ASC LIMIT 1)`,
whose result is dropped. -/
def evictOldest (o : StoreOutcomes) (table : Table) : Table :=
  if o.evicted then table.deleteFirst isPending else table

def enforceCapacity (o : StoreOutcomes) (b : Buffer) (table : Table) : Table :=
  if b.maxRows ≤ pendingCount o.counted b then evictOldest o table else table

def store (rj : Rapidjson) (o : StoreOutcomes) (msg : TelemetryMsg) (b : Buffer) :
    Bool × Buffer :=
  match b.db with
  | none => (false, b)
  | some table =>
    let table := enforceCapacity o b table
    let payload := toJson rj msg
    if !o.prepared then (false, { b with db := some table })
    else if !o.stepped then (false, { b with db := some table })
    else
      match table.insert maxRowId ⟨cStr payload, 0⟩ with
      | none => (false, { b with db := some table })
      | some table => (true, { b with db := some table })

/-- `LIMIT ?` with the bound 64-bit value; a negative one is no limit. -/
def sqlLimit (limit : UInt64) (rows : List (Int × Row)) : List (Int × Row) :=
  let bound := limit.toBitVec.toInt
  if bound < 0 then rows else rows.take bound.toNat

/-- The local `TelemetryMsg msg;` with `from_buffer` set; the rest is
indeterminate until `from_json` fills it. -/
def blankMessage : TelemetryMsg where
  uin := []
  vehicleSpeedKmh := ⟨0⟩
  engineRpm := ⟨0⟩
  engineCoolantTempC := ⟨0⟩
  batteryVoltageV := ⟨0⟩
  gear := []
  timestamp := 0
  fromBuffer := true

def decodeRow (rj : Rapidjson) (row : Int × Row) : Option (Int × TelemetryMsg) :=
  (fromJson rj (cStr row.2.payload) blankMessage).map (row.1, ·)

/-- A row that cannot be decoded is skipped. -/
def drain (rj : Rapidjson) (o : DrainOutcomes) (limit : UInt64) (b : Buffer) :
    List (Int × TelemetryMsg) :=
  match b.db with
  | none => []
  | some table =>
    if !o.prepared then []
    else
      let rows := sqlLimit limit (table.select isPending)
      let rows :=
        match o.stepsUntilError with
        | none => rows
        | some steps => rows.take steps
      rows.filterMap (decodeRow rj)

def markSent (o : MarkOutcomes) (rowId : Int) (b : Buffer) : Bool × Buffer :=
  match b.db with
  | none => (false, b)
  | some table =>
    if !o.prepared then (false, b)
    else if !o.stepped then (false, b)
    else (true, { b with db := some (table.update rowId fun row => { row with sent := 1 }) })

inductive Call where
  | store (o : StoreOutcomes) (msg : TelemetryMsg)
  | drain (o : DrainOutcomes) (limit : UInt64)
  | markSent (o : MarkOutcomes) (rowId : Int)

inductive Answer where
  | stored (ok : Bool)
  | drained (messages : List (Int × TelemetryMsg))
  | marked (ok : Bool)
deriving DecidableEq

def call (rj : Rapidjson) : Transducer Buffer Call Answer := fun b c =>
  match c with
  | .store o msg => let (ok, b) := store rj o msg b; (.stored ok, b)
  | .drain o limit => (.drained (drain rj o limit b), b)
  | .markSent o rowId => let (ok, b) := markSent o rowId b; (.marked ok, b)

def opened (maxRows : Nat) : Buffer := ⟨maxRows, some AutoTable.empty⟩

def pendingRows (b : Buffer) : List (Int × Row) := (b.db.map (·.select isPending)).getD []

def sentRows (b : Buffer) : List (Int × Row) := (b.db.map (·.select isSent)).getD []

theorem pendingCount_eq (b : Buffer) : pendingCount true b = (pendingRows b).length := by
  obtain ⟨maxRows, db⟩ := b
  cases db <;> rfl

private theorem sent_of_pending (row : Row) (h : isPending row = true) : isSent row = false := by
  simp_all [isPending, isSent]

theorem select_enforceCapacity_sent (o : StoreOutcomes) (b : Buffer) (table : Table) :
    (enforceCapacity o b table).select isSent = table.select isSent := by
  unfold enforceCapacity evictOldest
  split
  · split
    · exact AutoTable.select_deleteFirst_of_disjoint table sent_of_pending
    · rfl
  · rfl

theorem select_enforceCapacity_pending (o : StoreOutcomes) (b : Buffer) (table : Table) :
    (enforceCapacity o b table).select isPending =
      if b.maxRows ≤ pendingCount o.counted b ∧ o.evicted = true then
        (table.select isPending).tail
      else table.select isPending := by
  unfold enforceCapacity evictOldest
  by_cases hfull : b.maxRows ≤ pendingCount o.counted b
  · cases hevicted : o.evicted
    · simp [hfull]
    · simp [hfull, AutoTable.select_deleteFirst]
  · simp [hfull]

theorem sequence_enforceCapacity (o : StoreOutcomes) (b : Buffer) (table : Table) :
    (enforceCapacity o b table).sequence = table.sequence := by
  unfold enforceCapacity evictOldest
  split
  · split <;> rfl
  · rfl

/-- The two ways `store` ends on an open buffer: the new row follows the ones
that the ceiling left, or nothing was inserted. -/
theorem store_open (rj : Rapidjson) (o : StoreOutcomes) (msg : TelemetryMsg) (maxRows : Nat)
    (table : Table) :
    let room := enforceCapacity o ⟨maxRows, some table⟩ table
    (∃ inserted, room.insert maxRowId ⟨cStr (toJson rj msg), 0⟩ = some inserted ∧
      store rj o msg ⟨maxRows, some table⟩ = (true, ⟨maxRows, some inserted⟩)) ∨
    store rj o msg ⟨maxRows, some table⟩ = (false, ⟨maxRows, some room⟩) := by
  intro room
  have hroom : enforceCapacity o ⟨maxRows, some table⟩ table = room := rfl
  simp only [store, hroom]
  split
  · exact .inr rfl
  · split
    · exact .inr rfl
    · cases hinsert : room.insert maxRowId ⟨cStr (toJson rj msg), 0⟩ with
      | none => exact .inr rfl
      | some inserted => exact .inl ⟨inserted, rfl, rfl⟩

theorem store_inserted {o : StoreOutcomes} (hprepared : o.prepared = true)
    (hstepped : o.stepped = true) (rj : Rapidjson) (msg : TelemetryMsg) (maxRows : Nat)
    {table : Table} (hkey : table.sequence < maxRowId) :
    (store rj o msg ⟨maxRows, some table⟩).1 = true := by
  have hroom := sequence_enforceCapacity o ⟨maxRows, some table⟩ table
  simp only [store, hprepared, hstepped, AutoTable.insert, hroom, if_pos hkey]
  rfl

theorem sentRows_store (rj : Rapidjson) (o : StoreOutcomes) (msg : TelemetryMsg) (b : Buffer) :
    sentRows (store rj o msg b).2 = sentRows b := by
  obtain ⟨maxRows, db⟩ := b
  cases db with
  | none => rfl
  | some table =>
    have hroom := select_enforceCapacity_sent o ⟨maxRows, some table⟩ table
    rcases store_open rj o msg maxRows table with ⟨inserted, hinsert, hstore⟩ | hstore
    · have hselect := AutoTable.select_insert hinsert isSent
      have hnew : isSent ⟨cStr (toJson rj msg), 0⟩ = false := rfl
      rw [hnew, if_neg Bool.false_ne_true, List.append_nil, hroom] at hselect
      rw [hstore]
      exact hselect
    · rw [hstore]
      exact hroom

theorem pendingRows_store_failed {rj : Rapidjson} {o : StoreOutcomes} {msg : TelemetryMsg}
    {b : Buffer} (hfailed : (store rj o msg b).1 = false) :
    pendingRows (store rj o msg b).2 = pendingRows b ∨
      b.maxRows ≤ pendingCount o.counted b ∧
        pendingRows (store rj o msg b).2 = (pendingRows b).tail := by
  obtain ⟨maxRows, db⟩ := b
  cases db with
  | none => exact .inl rfl
  | some table =>
    rcases store_open rj o msg maxRows table with ⟨inserted, _, hstore⟩ | hstore
    · simp [hstore] at hfailed
    · rw [hstore]
      have hpending := select_enforceCapacity_pending o ⟨maxRows, some table⟩ table
      by_cases hevicted : maxRows ≤ pendingCount o.counted ⟨maxRows, some table⟩ ∧
          o.evicted = true
      · rw [if_pos hevicted] at hpending
        exact .inr ⟨hevicted.1, hpending⟩
      · rw [if_neg hevicted] at hpending
        exact .inl hpending

theorem markSent_open (o : MarkOutcomes) (id : Int) (maxRows : Nat) (table : Table) :
    markSent o id ⟨maxRows, some table⟩ =
      if o.prepared && o.stepped then
        (true, ⟨maxRows, some (table.update id fun row => { row with sent := 1 })⟩)
      else (false, ⟨maxRows, some table⟩) := by
  unfold markSent
  cases o.prepared <;> cases o.stepped <;> rfl

theorem markSent_failed {o : MarkOutcomes} {id : Int} {b : Buffer}
    (h : (markSent o id b).1 = false) : (markSent o id b).2 = b := by
  obtain ⟨maxRows, db⟩ := b
  cases db with
  | none => rfl
  | some table =>
    rw [markSent_open] at h ⊢
    split at h
    · cases h
    · next hfails => rw [if_neg hfails]

theorem markSent_ok {o : MarkOutcomes} {id : Int} {b : Buffer}
    (h : (markSent o id b).1 = true) :
    ∃ table, b.db = some table ∧ (markSent o id b).2 =
      ⟨b.maxRows, some (table.update id fun row => { row with sent := 1 })⟩ := by
  obtain ⟨maxRows, db⟩ := b
  cases db with
  | none => cases h
  | some table =>
    refine ⟨table, rfl, ?_⟩
    rw [markSent_open] at h ⊢
    split at h
    · next hsucceeds => rw [if_pos hsucceeds]
    · cases h

theorem pendingRows_markSent {o : MarkOutcomes} {id : Int} {b : Buffer}
    (h : (markSent o id b).1 = true) :
    pendingRows (markSent o id b).2 = (pendingRows b).filter fun row => row.1 ≠ id := by
  obtain ⟨table, htable, hafter⟩ := markSent_ok h
  rw [hafter, pendingRows, pendingRows, htable]
  exact AutoTable.select_update table id (by simp [isPending])

theorem pendingRows_markSent_sublist (o : MarkOutcomes) (id : Int) (b : Buffer) :
    (pendingRows (markSent o id b).2).Sublist (pendingRows b) := by
  cases hmarked : (markSent o id b).1 with
  | false =>
    rw [markSent_failed hmarked]
  | true =>
    rw [pendingRows_markSent hmarked]
    exact List.filter_sublist

/-- A failed `store` leaves the rows as they were, except that a buffer found
full may have lost its oldest pending row. -/
theorem store_failed_rows (rj : Rapidjson) (o : StoreOutcomes) (msg : TelemetryMsg) (b : Buffer)
    (hfailed : (store rj o msg b).1 = false) :
    sentRows (store rj o msg b).2 = sentRows b ∧
      (pendingRows (store rj o msg b).2 = pendingRows b ∨
        b.maxRows ≤ pendingCount o.counted b ∧
          pendingRows (store rj o msg b).2 = (pendingRows b).tail) :=
  ⟨sentRows_store rj o msg b, pendingRows_store_failed hfailed⟩

def fullBuffer : Buffer := (store sampleRapidjson {} sampleMessage (opened 1)).2

theorem store_failed_rows_of_full :
    sentRows (store sampleRapidjson { stepped := false } sampleMessage fullBuffer).2 =
        sentRows fullBuffer ∧
      (pendingRows (store sampleRapidjson { stepped := false } sampleMessage fullBuffer).2 =
          pendingRows fullBuffer ∨
        fullBuffer.maxRows ≤ pendingCount true fullBuffer ∧
          pendingRows (store sampleRapidjson { stepped := false } sampleMessage fullBuffer).2 =
            (pendingRows fullBuffer).tail) :=
  store_failed_rows sampleRapidjson { stepped := false } sampleMessage fullBuffer
    (by decide +kernel)

/-- The eviction has taken effect when the insertion fails. -/
theorem store_failed_evicts :
    (store sampleRapidjson { stepped := false } sampleMessage fullBuffer).1 = false ∧
      pendingRows (store sampleRapidjson { stepped := false } sampleMessage fullBuffer).2 ≠
        pendingRows fullBuffer := by
  decide +kernel

end SdvGateway.Gateway.OfflineBuffer
