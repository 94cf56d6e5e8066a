import SdvGateway.Gateway.OfflineReplay

/-! The capacity ceiling on a database that was not empty when it was opened. A store
removes one row at most, and only when the count says that the buffer is full. -/
namespace SdvGateway.Gateway.OfflineCapacity
open Common Library TelemetryJson OfflineBuffer OfflineReplay

def reopened (maxRows : Nat) (found : Table) : Buffer := ⟨maxRows, some found⟩

/-- A store that returns true ends with at most `max_rows` pending rows. -/
def Capped (rj : Rapidjson) (b : Buffer) (c : Call) : Prop :=
  ∀ o msg, c = .store o msg → (store rj o msg b).1 = true →
    pendingCount true (store rj o msg b).2 ≤ b.maxRows

/-- It finds room, or exactly one row too many, which it counts and evicts. -/
def RoomMade (rj : Rapidjson) (b : Buffer) (c : Call) : Prop :=
  ∀ o msg, c = .store o msg → (store rj o msg b).1 = true →
    pendingCount true b < b.maxRows ∨
      pendingCount true b = b.maxRows ∧ 0 < b.maxRows ∧ o.counted = true ∧ o.evicted = true

def Evicting (rj : Rapidjson) (b : Buffer) (c : Call) : Prop :=
  ∀ o msg, c = .store o msg → (store rj o msg b).1 = true →
    pendingCount true b = b.maxRows → o.counted = true ∧ o.evicted = true

def WithinCapacity (b : Buffer) : Prop := 0 < b.maxRows ∧ pendingCount true b ≤ b.maxRows

theorem pendingCount_le (counted : Bool) (b : Buffer) :
    pendingCount counted b = if counted then pendingCount true b else 0 := by
  obtain ⟨maxRows, db⟩ := b
  cases db <;> cases counted <;> rfl

private theorem pendingCount_store {rj : Rapidjson} {o : StoreOutcomes} {msg : TelemetryMsg}
    {b : Buffer} (h : (store rj o msg b).1 = true) :
    pendingCount true (store rj o msg b).2 =
      (if b.maxRows ≤ pendingCount o.counted b ∧ o.evicted = true then
        pendingCount true b - 1
      else pendingCount true b) + 1 := by
  obtain ⟨maxRows, db⟩ := b
  cases db with
  | none => cases h
  | some table =>
    rcases store_open rj o msg maxRows table with ⟨inserted, hinsert, hstore⟩ | hstore
    · have hselect := AutoTable.select_insert hinsert isPending
      have hnew : isPending ⟨cStr (toJson rj msg), 0⟩ = true := rfl
      rw [select_enforceCapacity_pending, hnew, if_pos rfl] at hselect
      rw [hstore, pendingCount_eq, pendingCount_eq]
      change (inserted.select isPending).length =
        (if maxRows ≤ pendingCount o.counted ⟨maxRows, some table⟩ ∧ o.evicted = true then
          (table.select isPending).length - 1
        else (table.select isPending).length) + 1
      rw [hselect, List.length_append, List.length_singleton, apply_ite List.length,
        List.length_tail]
    · rw [hstore] at h
      cases h

theorem maxRows_store (rj : Rapidjson) (o : StoreOutcomes) (msg : TelemetryMsg) (b : Buffer) :
    (store rj o msg b).2.maxRows = b.maxRows := by
  obtain ⟨maxRows, db⟩ := b
  cases db with
  | none => rfl
  | some table =>
    rcases store_open rj o msg maxRows table with ⟨_, _, hstore⟩ | hstore <;> rw [hstore]

theorem capped_iff (rj : Rapidjson) (b : Buffer) (c : Call) :
    Capped rj b c ↔ RoomMade rj b c := by
  apply forall₂_congr
  intro o msg
  apply forall₂_congr
  intro _ hstored
  have hcount := pendingCount_store hstored
  have hread := pendingCount_le o.counted b
  rw [hcount, hread]
  clear hcount hread
  generalize pendingCount true b = pending
  generalize b.maxRows = capacity
  -- without a count the buffer passes for empty, without an eviction nothing is removed
  cases o.counted <;> cases o.evicted <;>
    simp only [Bool.false_eq_true, if_true, if_false, and_true, and_false, or_false] <;>
    (try split) <;> omega

/-- From any database, the stores of a run that return true keep the ceiling exactly
when each of them finds room or makes it. -/
theorem capacity_iff (rj : Rapidjson) (maxRows : Nat) (found : Table) (calls : List Call) :
    (machine rj maxRows).Along (Capped rj) (reopened maxRows found) calls ↔
      (machine rj maxRows).Along (RoomMade rj) (reopened maxRows found) calls := by
  apply Machine.along_congr
  intro b c _
  exact capped_iff rj b c

def twoPending : Table :=
  let first := (store sampleRapidjson {} sampleMessage (opened 10)).2
  (store sampleRapidjson {} sampleMessage first).2.db.getD AutoTable.empty

/-- A ceiling below what was found is not reached by removing one row, and a failed
eviction lets a full buffer grow. -/
theorem capacity_exceeded :
    ¬(machine sampleRapidjson 1).Along (Capped sampleRapidjson) (reopened 1 twoPending)
        [.store {} sampleMessage] ∧
      ¬(machine sampleRapidjson 1).Along (Capped sampleRapidjson) (opened 1)
        [.store {} sampleMessage, .store { evicted := false } sampleMessage] := by
  constructor
  · intro h
    have hcapped := h.1 {} sampleMessage rfl (by decide +kernel)
    exact absurd hcapped (by decide +kernel)
  · intro h
    have hcapped := h.2.1 { evicted := false } sampleMessage rfl (by decide +kernel)
    exact absurd hcapped (by decide +kernel)

theorem maxRows_call (rj : Rapidjson) (b : Buffer) (c : Call) :
    (call rj b c).2.maxRows = b.maxRows := by
  cases c with
  | store o msg => exact maxRows_store rj o msg b
  | drain o limit => rfl
  | markSent o rowId =>
    change (markSent o rowId b).2.maxRows = b.maxRows
    cases hmarked : (markSent o rowId b).1 with
    | false => rw [markSent_failed hmarked]
    | true =>
      obtain ⟨table, _, hafter⟩ := markSent_ok hmarked
      rw [hafter]

private theorem pendingCount_markSent_le (o : MarkOutcomes) (rowId : Int) (b : Buffer) :
    pendingCount true (markSent o rowId b).2 ≤ pendingCount true b := by
  rw [pendingCount_eq, pendingCount_eq]
  exact (pendingRows_markSent_sublist o rowId b).length_le

private theorem pendingCount_store_failed {rj : Rapidjson} {o : StoreOutcomes} {msg : TelemetryMsg}
    {b : Buffer} (h : (store rj o msg b).1 = false) :
    pendingCount true (store rj o msg b).2 ≤ pendingCount true b := by
  rw [pendingCount_eq, pendingCount_eq]
  rcases pendingRows_store_failed h with hsame | ⟨_, hevicted⟩
  · rw [hsame]
  · rw [hevicted, List.length_tail]
    exact Nat.sub_le _ _

private theorem withinCapacity_step (rj : Rapidjson) (b : Buffer) (c : Call)
    (h : WithinCapacity b) : WithinCapacity (call rj b c).2 ↔ Evicting rj b c := by
  obtain ⟨hpositive, hcount⟩ := h
  unfold WithinCapacity
  rw [maxRows_call, and_iff_right hpositive]
  cases c with
  | drain o limit => simp [Evicting, call, hcount]
  | markSent o rowId =>
    have hle : pendingCount true (markSent o rowId b).2 ≤ b.maxRows :=
      Nat.le_trans (pendingCount_markSent_le o rowId b) hcount
    simp [Evicting, call, hle]
  | store o msg =>
    have hroom := capped_iff rj b (.store o msg)
    change pendingCount true (store rj o msg b).2 ≤ b.maxRows ↔ _
    cases hstored : (store rj o msg b).1 with
    | false =>
      have hle := pendingCount_store_failed hstored
      have hvacuous : Evicting rj b (.store o msg) := by
        intro o' msg' hcall htrue
        cases hcall
        rw [hstored] at htrue
        cases htrue
      exact iff_of_true (Nat.le_trans hle hcount) hvacuous
    | true =>
      constructor
      · intro hle o' msg' hcall _ hfull
        cases hcall
        have hcapped : Capped rj b (.store o msg) := by
          intro o' msg' hcall _
          cases hcall
          exact hle
        rcases hroom.mp hcapped o msg rfl hstored with hless | hmade
        · omega
        · exact hmade.2.2
      · intro hevicting
        apply hroom.mpr _ o msg rfl hstored
        intro o' msg' hcall _
        cases hcall
        rcases Nat.lt_or_eq_of_le hcount with hless | hfull
        · exact Or.inl hless
        · have hboth := hevicting o msg rfl hstored hfull
          exact Or.inr ⟨hfull, hpositive, hboth.1, hboth.2⟩

theorem withinCapacity_iff (rj : Rapidjson) {b : Buffer} (h : WithinCapacity b)
    (calls : List Call) :
    (machine rj b.maxRows).Always WithinCapacity b calls ↔
      (machine rj b.maxRows).Along (Evicting rj) b calls := by
  apply Machine.always_iff_along _ h
  intro b c b' hstep hb
  obtain rfl := Option.some.inj hstep
  exact withinCapacity_step rj b c hb

end SdvGateway.Gateway.OfflineCapacity
