import SdvGateway.Gateway.OfflineReplay
import SdvGateway.Gateway.OfflineQueue

/-! What an acknowledgement does to the table. Between a drain and the acknowledgement
the drained row may be evicted and other rows stored, but its id is not used again. -/
namespace SdvGateway.Gateway.Acknowledgement
open Common Library TelemetryJson OfflineBuffer

def rowAt (b : Buffer) (id : Int) : Option Row := b.db.bind (·.row? id)

def issued (b : Buffer) : Int := (b.db.map (·.sequence)).getD 0

/-- The row with this id is marked, no other row changes, and if the row has been
evicted nothing does. -/
structure Marks (id : Int) (payload : Str) (b after : Buffer) : Prop where
  target : ∀ row, rowAt b id = some row →
    row.payload = payload ∧ rowAt after id = some { row with sent := 1 }
  evicted : rowAt b id = none → after = b
  others : ∀ other ≠ id, rowAt after other = rowAt b other

theorem markSent_twice {o : MarkOutcomes} {id : Int} {b : Buffer}
    (h : (markSent o id b).1 = true) (again : MarkOutcomes) :
    (markSent again id (markSent o id b).2).2 = (markSent o id b).2 := by
  obtain ⟨table, _, hmarked⟩ := markSent_ok h
  have htable := AutoTable.update_update table id (f := fun row => { row with sent := 1 })
    fun _ => rfl
  rw [hmarked, markSent_open]
  split
  · rw [htable]
  · rfl

/-- An id that an open database has issued belongs to the row with this payload, or to
none. -/
structure Owned (id : Int) (payload : Str) (b : Buffer) : Prop where
  opened : b.db.isSome = true
  issued : id ≤ issued b
  payload : ∀ row, rowAt b id = some row → row.payload = payload

private theorem row?_enforceCapacity (o : StoreOutcomes) (b : Buffer) (table : Table) (id : Int) :
    (enforceCapacity o b table).row? id = none ∨
      (enforceCapacity o b table).row? id = table.row? id := by
  unfold enforceCapacity evictOldest
  split
  · split
    · exact AutoTable.row?_deleteFirst _ _ _
    · exact Or.inr rfl
  · exact Or.inr rfl

theorem issued_store (rj : Rapidjson) (o : StoreOutcomes) (msg : TelemetryMsg) (b : Buffer) :
    issued b ≤ issued (store rj o msg b).2 := by
  obtain ⟨maxRows, db⟩ := b
  cases db with
  | none => exact Int.le_refl _
  | some table =>
    have hroom := sequence_enforceCapacity o ⟨maxRows, some table⟩ table
    rcases store_open rj o msg maxRows table with ⟨inserted, hinsert, hstore⟩ | hstore
    · have hnext := (AutoTable.sequence_insert hinsert).1
      rw [hstore]
      change table.sequence ≤ inserted.sequence
      omega
    · rw [hstore]
      exact le_of_eq hroom.symm

theorem rowAt_store (rj : Rapidjson) (o : StoreOutcomes) (msg : TelemetryMsg) {b : Buffer}
    {id : Int} (hissued : id ≤ issued b) :
    rowAt (store rj o msg b).2 id = none ∨ rowAt (store rj o msg b).2 id = rowAt b id := by
  obtain ⟨maxRows, db⟩ := b
  cases db with
  | none => exact Or.inr rfl
  | some table =>
    have hroom := row?_enforceCapacity o ⟨maxRows, some table⟩ table id
    rcases store_open rj o msg maxRows table with ⟨inserted, hinsert, hstore⟩ | hstore
    · have hold : id ≤ (enforceCapacity o ⟨maxRows, some table⟩ table).sequence := by
        rw [sequence_enforceCapacity]
        exact hissued
      rw [hstore]
      change inserted.row? id = none ∨ inserted.row? id = table.row? id
      rw [AutoTable.row?_insert hinsert hold]
      exact hroom
    · rw [hstore]
      exact hroom

theorem rowAt_markSent (o : MarkOutcomes) (rowId id : Int) (b : Buffer) :
    rowAt (markSent o rowId b).2 id = rowAt b id ∨
      id = rowId ∧ rowAt (markSent o rowId b).2 id =
        (rowAt b id).map fun row => { row with sent := 1 } := by
  cases hmarked : (markSent o rowId b).1 with
  | false => exact Or.inl (by rw [markSent_failed hmarked])
  | true =>
    obtain ⟨table, htable, hafter⟩ := markSent_ok hmarked
    have hbefore : rowAt b id = table.row? id := by rw [rowAt, htable]; rfl
    have hupdated : rowAt (markSent o rowId b).2 id =
        if id = rowId then (table.row? id).map fun row => { row with sent := 1 }
        else table.row? id := by
      rw [hafter]
      exact AutoTable.row?_update _ _ _ _
    rw [hupdated, hbefore]
    by_cases hid : id = rowId
    · exact Or.inr ⟨hid, if_pos hid⟩
    · exact Or.inl (if_neg hid)

theorem issued_call (rj : Rapidjson) (b : Buffer) (c : Call) :
    issued b ≤ issued (call rj b c).2 := by
  cases c with
  | store o msg => exact issued_store rj o msg b
  | drain o limit => exact Int.le_refl _
  | markSent o rowId =>
    change issued b ≤ issued (markSent o rowId b).2
    cases hmarked : (markSent o rowId b).1 with
    | false => rw [markSent_failed hmarked]
    | true =>
      obtain ⟨table, htable, hafter⟩ := markSent_ok hmarked
      rw [hafter, issued, htable]
      exact Int.le_refl _

private theorem opened_call (rj : Rapidjson) {b : Buffer} (h : b.db.isSome = true) (c : Call) :
    (call rj b c).2.db.isSome = true := by
  obtain ⟨maxRows, db⟩ := b
  cases db with
  | none => cases h
  | some table =>
    cases c with
    | store o msg =>
      change (store rj o msg ⟨maxRows, some table⟩).2.db.isSome = true
      rcases store_open rj o msg maxRows table with ⟨inserted, _, hstore⟩ | hstore
      · rw [hstore]
        rfl
      · rw [hstore]
        rfl
    | drain o limit => rfl
    | markSent o rowId =>
      change (markSent o rowId ⟨maxRows, some table⟩).2.db.isSome = true
      rw [markSent_open]
      split <;> rfl

private theorem owned_call {rj : Rapidjson} {b : Buffer} {id : Int} {payload : Str}
    (h : Owned id payload b) (c : Call) : Owned id payload (call rj b c).2 := by
  refine ⟨?_, ?_, ?_⟩
  · exact opened_call rj h.opened c
  · exact Int.le_trans h.issued (issued_call rj b c)
  · intro row hrow
    cases c with
    | store o msg =>
      change rowAt (store rj o msg b).2 id = some row at hrow
      rcases rowAt_store rj o msg h.issued with hgone | hkept
      · rw [hgone] at hrow
        cases hrow
      · rw [hkept] at hrow
        exact h.payload row hrow
    | drain o limit => exact h.payload row hrow
    | markSent o rowId =>
      change rowAt (markSent o rowId b).2 id = some row at hrow
      rcases rowAt_markSent o rowId id b with hsame | ⟨_, hmarked⟩
      · rw [hsame] at hrow
        exact h.payload row hrow
      · rw [hmarked] at hrow
        obtain ⟨before, hbefore, rfl⟩ := Option.map_eq_some_iff.mp hrow
        exact h.payload before hbefore

/-- An id whose row has been evicted stays without a row. -/
private theorem gone_call {rj : Rapidjson} {b : Buffer} {id : Int} (hissued : id ≤ issued b)
    (hgone : rowAt b id = none) (c : Call) : rowAt (call rj b c).2 id = none := by
  cases c with
  | store o msg =>
    change rowAt (store rj o msg b).2 id = none
    rcases rowAt_store rj o msg hissued with hnone | hkept
    · exact hnone
    · rw [hkept, hgone]
  | drain o limit => exact hgone
  | markSent o rowId =>
    change rowAt (markSent o rowId b).2 id = none
    rcases rowAt_markSent o rowId id b with hsame | ⟨_, hmarked⟩
    · rw [hsame, hgone]
    · rw [hmarked, hgone]
      rfl

theorem owned_run (rj : Rapidjson) {b : Buffer} {id : Int} {payload : Str}
    (h : Owned id payload b) (calls : List Call) :
    Owned id payload ((call rj).run b calls).2 :=
  Transducer.invariant_run (I := Owned id payload) (fun _ c howned => owned_call howned c) h calls

theorem gone_run {rj : Rapidjson} {b : Buffer} {id : Int} (hissued : id ≤ issued b)
    (hgone : rowAt b id = none) (calls : List Call) :
    rowAt ((call rj).run b calls).2 id = none := by
  have hrun : id ≤ issued ((call rj).run b calls).2 ∧
      rowAt ((call rj).run b calls).2 id = none := by
    apply Transducer.invariant_run (I := fun b => id ≤ issued b ∧ rowAt b id = none)
    · rintro b c ⟨hissued, hgone⟩
      exact ⟨Int.le_trans hissued (issued_call rj b c), gone_call hissued hgone c⟩
    · exact ⟨hissued, hgone⟩
  exact hrun.2

theorem marks_markSent {id : Int} {payload : Str} {b : Buffer} (howned : Owned id payload b)
    {o : MarkOutcomes} (h : (markSent o id b).1 = true) :
    Marks id payload b (markSent o id b).2 := by
  obtain ⟨table, htable, hafter⟩ := markSent_ok h
  have hbefore (other : Int) : rowAt b other = table.row? other := by
    rw [rowAt, htable]
    rfl
  have hupdated (other : Int) : rowAt (markSent o id b).2 other =
      if other = id then (table.row? other).map fun row => { row with sent := 1 }
      else table.row? other := by
    rw [hafter]
    exact AutoTable.row?_update _ _ _ _
  constructor
  · intro row hrow
    refine ⟨howned.payload row hrow, ?_⟩
    rw [hupdated, if_pos rfl, ← hbefore, hrow]
    rfl
  · intro hgone
    rw [hbefore] at hgone
    rw [hafter, AutoTable.update_eq_of_row?_none hgone]
    obtain ⟨maxRows, db⟩ := b
    exact congrArg (Buffer.mk maxRows) htable.symm
  · intro other hother
    rw [hupdated, if_neg hother, hbefore]

private theorem drained_owned {rj : Rapidjson} {b : Buffer} {o : DrainOutcomes} {limit : UInt64}
    {id : Int} {msg : TelemetryMsg} (h : (id, msg) ∈ drain rj o limit b) :
    ∃ payload, (id, ⟨payload, 0⟩) ∈ pendingRows b ∧
      fromJson rj (cStr payload) blankMessage = some msg ∧ Owned id payload b := by
  obtain ⟨maxRows, db⟩ := b
  cases db with
  | none => cases h
  | some table =>
    simp only [drain] at h
    split at h
    · cases h
    · obtain ⟨row, hread, hdecoded⟩ := List.mem_filterMap.mp h
      have hlimited : row ∈ sqlLimit limit (table.select isPending) := by
        split at hread
        · exact hread
        · exact List.mem_of_mem_take hread
      have hpending := OfflineReplay.mem_sqlLimit hlimited
      obtain ⟨hmem, hsent⟩ := List.mem_filter.mp hpending
      obtain ⟨key, payload, sent⟩ := row
      obtain ⟨found, hfound, hpair⟩ := Option.map_eq_some_iff.mp hdecoded
      cases hpair
      obtain rfl : sent = 0 := by simpa [isPending] using hsent
      refine ⟨payload, hpending, hfound, rfl, ?_, ?_⟩
      · exact table.bounded _ hmem
      · intro other hother
        have hsame := (AutoTable.row?_eq_some_iff.mpr hmem).symm.trans hother
        cases Option.some.inj hsame
        rfl

private theorem markSent_answer {b : Buffer} (h : b.db.isSome = true) (o : MarkOutcomes)
    (id : Int) : (markSent o id b).1 = (o.prepared && o.stepped) := by
  obtain ⟨maxRows, db⟩ := b
  cases db with
  | none => cases h
  | some table =>
    rw [markSent_open]
    cases hsucceeds : o.prepared && o.stepped <;> rfl

/-- Whatever happens between a drain and an acknowledgement, an acknowledgement whose
statement succeeds marks the row that was drained, or nothing once that row is gone. A second
one changes nothing. -/
theorem drained_id_marks_its_row (rj : Rapidjson) (b : Buffer) (o : DrainOutcomes)
    (limit : UInt64) (id : Int) (msg : TelemetryMsg) (hdrained : (id, msg) ∈ drain rj o limit b) :
    ∃ payload, (id, ⟨payload, 0⟩) ∈ pendingRows b ∧
      fromJson rj (cStr payload) blankMessage = some msg ∧
      ∀ calls, let later := ((call rj).run b calls).2
        (∀ first second, calls = first ++ second →
          rowAt ((call rj).run b first).2 id = none → rowAt later id = none) ∧
        ∀ mark, let after := (markSent mark id later).2
          ((mark.prepared && mark.stepped) = false →
            (markSent mark id later).1 = false ∧ after = later) ∧
          (mark.prepared = true → mark.stepped = true →
            (markSent mark id later).1 = true ∧ Marks id payload later after ∧
            ∀ again, (markSent again id after).2 = after) := by
  obtain ⟨payload, hpending, hfound, howned⟩ := drained_owned hdrained
  refine ⟨payload, hpending, hfound, fun calls => ⟨?_, fun mark => ?_⟩⟩
  · rintro first second rfl hgone
    have hfirst := owned_run rj howned first
    rw [Transducer.run_append]
    exact gone_run hfirst.issued hgone second
  · have hlater := owned_run rj howned calls
    have hanswer := markSent_answer hlater.opened mark id
    refine ⟨fun hfails => ?_, fun hprepared hstepped => ?_⟩
    · rw [hfails] at hanswer
      exact ⟨hanswer, markSent_failed hanswer⟩
    · rw [hprepared, hstepped] at hanswer
      exact ⟨hanswer, marks_markSent hlater hanswer, markSent_twice hanswer⟩

/-- The one row of a full buffer is drained. It is marked when it is acknowledged at once,
and nothing is when it has been evicted before. -/
theorem drained_id_marks_row_one :
    rowAt (markSent {} 1 fullBuffer).2 1 =
        (rowAt fullBuffer 1).map (fun row => { row with sent := 1 }) ∧
      (rowAt fullBuffer 1).isSome = true ∧
      let later := ((call sampleRapidjson).run fullBuffer [.store {} sampleMessage]).2
      (markSent {} 1 later).2 = later := by
  obtain ⟨_, _, _, hlater⟩ := drained_id_marks_its_row sampleRapidjson fullBuffer {} 1 1
    (OfflineQueue.replayed sampleMessage) (by decide +kernel)
  have hthere : (rowAt fullBuffer 1).isSome = true := by decide +kernel
  obtain ⟨row, hrow⟩ := Option.isSome_iff_exists.mp hthere
  obtain ⟨_, hnow, _⟩ := ((hlater []).2 {}).2 rfl rfl
  obtain ⟨_, hevicted, _⟩ := ((hlater [.store {} sampleMessage]).2 {}).2 rfl rfl
  refine ⟨?_, hthere, hevicted.evicted (by decide +kernel)⟩
  rw [hrow]
  exact (hnow.target row hrow).2

end SdvGateway.Gateway.Acknowledgement
