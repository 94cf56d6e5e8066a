import SdvGateway.Gateway.Acknowledgement

/-! The rows that have been acknowledged. The ceiling counts and evicts pending rows
only, and no other statement deletes any. -/
namespace SdvGateway.Gateway.AcknowledgedRows
open Common Library TelemetryJson OfflineBuffer Acknowledgement

def rows (b : Buffer) : List (Int × Row) := (b.db.map (·.rows)).getD []

def acknowledges (b : Buffer) (c : Call) : Bool :=
  match c with
  | .markSent o rowId => o.prepared && o.stepped && (pendingRows b).any (·.1 = rowId)
  | _ => false

def acknowledgements (rj : Rapidjson) : Buffer → List Call → Nat
  | _, [] => 0
  | b, c :: rest => (acknowledges b c).toNat + acknowledgements rj (call rj b c).2 rest

def storedCount (answers : List Answer) : Nat := answers.count (.stored true)

def Flagged (b : Buffer) : Prop := ∀ row ∈ rows b, row.2.sent = 0 ∨ row.2.sent = 1

theorem flagged_length {b : Buffer} (h : Flagged b) :
    (rows b).length = (pendingRows b).length + (sentRows b).length := by
  obtain ⟨maxRows, db⟩ := b
  cases db with
  | none => rfl
  | some table =>
    change table.rows.length = (table.select isPending).length + (table.select isSent).length
    have hsent : table.select isSent = table.rows.filter fun row => !isPending row.2 := by
      apply List.filter_congr
      intro row hrow
      rcases h row hrow with hzero | hone
      · simp [isPending, isSent, hzero]
      · simp [isPending, isSent, hone]
    rw [hsent, AutoTable.select, List.length_eq_length_filter_add fun row => isPending row.2]

theorem rows_store (rj : Rapidjson) (o : StoreOutcomes) (msg : TelemetryMsg) (b : Buffer) :
    ∃ kept, kept.Sublist (rows b) ∧
      ((store rj o msg b).1 = false ∧ rows (store rj o msg b).2 = kept ∨
        ∃ row, (store rj o msg b).1 = true ∧ row.2.sent = 0 ∧
          rows (store rj o msg b).2 = kept ++ [row]) := by
  obtain ⟨maxRows, db⟩ := b
  cases db with
  | none => exact ⟨[], List.Sublist.refl _, Or.inl ⟨rfl, rfl⟩⟩
  | some table =>
    have hkept : (enforceCapacity o ⟨maxRows, some table⟩ table).rows.Sublist table.rows := by
      unfold enforceCapacity evictOldest
      split
      · split
        · exact List.eraseP_sublist
        · exact List.Sublist.refl _
      · exact List.Sublist.refl _
    refine ⟨_, hkept, ?_⟩
    rcases store_open rj o msg maxRows table with ⟨inserted, hinsert, hstore⟩ | hstore
    · right
      rw [hstore]
      have hall := AutoTable.select_insert hinsert fun _ => true
      simp only [AutoTable.select, List.filter_true, if_true] at hall
      exact ⟨_, rfl, rfl, hall⟩
    · left
      rw [hstore]
      exact ⟨rfl, rfl⟩

theorem rows_markSent {o : MarkOutcomes} {id : Int} {b : Buffer}
    (h : (markSent o id b).1 = true) :
    rows (markSent o id b).2 =
      (rows b).map fun row => if row.1 = id then (row.1, { row.2 with sent := 1 }) else row := by
  obtain ⟨table, htable, hafter⟩ := markSent_ok h
  rw [hafter, rows, rows, htable]
  rfl

theorem flagged_call (rj : Rapidjson) {b : Buffer} (h : Flagged b) (c : Call) :
    Flagged (call rj b c).2 := by
  cases c with
  | drain o limit => exact h
  | store o msg =>
    change Flagged (store rj o msg b).2
    unfold Flagged
    obtain ⟨kept, hkept, ⟨_, hrows⟩ | ⟨new, _, hnew, hrows⟩⟩ := rows_store rj o msg b
    · rw [hrows]
      exact fun row hrow => h row (hkept.subset hrow)
    · rw [hrows, List.forall_mem_append, List.forall_mem_singleton]
      exact ⟨fun row hrow => h row (hkept.subset hrow), Or.inl hnew⟩
  | markSent o rowId =>
    change Flagged (markSent o rowId b).2
    cases hmarked : (markSent o rowId b).1 with
    | false => rwa [markSent_failed hmarked]
    | true =>
      unfold Flagged
      rw [rows_markSent hmarked, List.forall_mem_map]
      intro row hrow
      split
      · exact Or.inr rfl
      · exact h row hrow

private theorem acknowledges_markSent {o : MarkOutcomes} {id : Int} {b : Buffer} :
    acknowledges b (.markSent o id) =
      ((markSent o id b).1 && (pendingRows b).any (·.1 = id)) := by
  obtain ⟨maxRows, db⟩ := b
  cases db with
  | none =>
    change (o.prepared && o.stepped && false) = false
    rw [Bool.and_false]
  | some table =>
    rw [markSent_open, acknowledges]
    cases o.prepared && o.stepped <;> rfl

theorem sentRows_call (rj : Rapidjson) {b : Buffer} (h : Flagged b) (c : Call) :
    (sentRows (call rj b c).2).length = (sentRows b).length + (acknowledges b c).toNat := by
  cases c with
  | drain o limit => rfl
  | store o msg => exact congrArg List.length (sentRows_store rj o msg b)
  | markSent o rowId =>
    have hafter := flagged_length (flagged_call rj h (.markSent o rowId))
    have hbefore := flagged_length h
    change (sentRows (markSent o rowId b).2).length = _
    change (rows (markSent o rowId b).2).length =
      (pendingRows (markSent o rowId b).2).length +
        (sentRows (markSent o rowId b).2).length at hafter
    rw [acknowledges_markSent]
    cases hmarked : (markSent o rowId b).1 with
    | false =>
      rw [markSent_failed hmarked]
      rfl
    | true =>
      have hfilter : ((pendingRows b).filter fun row => row.1 ≠ rowId).length +
          ((pendingRows b).any (·.1 = rowId)).toNat = (pendingRows b).length := by
        obtain ⟨maxRows, db⟩ := b
        cases db with
        | none => rfl
        | some table => exact AutoTable.length_filter_key (table.ascending.filter _) rowId
      rw [rows_markSent hmarked, List.length_map, pendingRows_markSent hmarked] at hafter
      rw [Bool.true_and]
      omega

theorem flagged_run (rj : Rapidjson) {b : Buffer} (h : Flagged b) (calls : List Call) :
    Flagged ((call rj).run b calls).2 :=
  Transducer.invariant_run (I := Flagged) (fun _ c hflagged => flagged_call rj hflagged c) h calls

theorem sentRows_run (rj : Rapidjson) {b : Buffer} (h : Flagged b) (calls : List Call) :
    (sentRows ((call rj).run b calls).2).length =
      (sentRows b).length + acknowledgements rj b calls := by
  induction calls generalizing b with
  | nil => rfl
  | cons c rest ih =>
    rw [Transducer.run_cons, acknowledgements, ih (flagged_call rj h c), sentRows_call rj h c,
      Nat.add_assoc]

private theorem rows_call (rj : Rapidjson) (b : Buffer) (c : Call) :
    (rows (call rj b c).2).length ≤ (rows b).length + storedCount [(call rj b c).1] := by
  cases c with
  | drain o limit => exact Nat.le_add_right _ _
  | store o msg =>
    change (rows (store rj o msg b).2).length ≤
      (rows b).length + storedCount [.stored (store rj o msg b).1]
    obtain ⟨kept, hkept, ⟨hstored, hrows⟩ | ⟨new, hstored, _, hrows⟩⟩ := rows_store rj o msg b
    · rw [hstored, hrows]
      exact Nat.le_trans hkept.length_le (Nat.le_add_right _ _)
    · rw [hstored, hrows, List.length_append]
      exact Nat.add_le_add_right hkept.length_le 1
  | markSent o rowId =>
    change (rows (markSent o rowId b).2).length ≤ _
    cases hmarked : (markSent o rowId b).1 with
    | false =>
      rw [markSent_failed hmarked]
      exact Nat.le_add_right _ _
    | true =>
      rw [rows_markSent hmarked, List.length_map]
      exact Nat.le_add_right _ _

theorem rows_run (rj : Rapidjson) (b : Buffer) (calls : List Call) :
    (rows ((call rj).run b calls).2).length ≤
      (rows b).length + storedCount ((call rj).run b calls).1 := by
  induction calls generalizing b with
  | nil => exact Nat.le_refl _
  | cons c rest ih =>
    have hstep := rows_call rj b c
    have hrest := ih (call rj b c).2
    rw [Transducer.run_cons]
    unfold storedCount at hstep hrest ⊢
    rw [List.count_cons]
    rw [List.count_singleton] at hstep
    dsimp only at *
    omega

theorem flagged_opened (maxRows : Nat) : Flagged (opened maxRows) :=
  fun _ hrow => absurd hrow List.not_mem_nil

/-- Every message that was stored has been acknowledged, and there were `n` of them. -/
structure AllSent (n : Nat) (b : Buffer) : Prop where
  table : ∃ table, b.db = some table ∧ table.sequence = n ∧ table.select isPending = []
  flagged : Flagged b
  count : (sentRows b).length = n

private theorem allSent_next (rj : Rapidjson) {n : Nat} {b : Buffer} (h : AllSent n b)
    (hroom : n + 1 < 2 ^ 63) :
    AllSent (n + 1) (markSent {} (n + 1) (store rj {} sampleMessage b).2).2 := by
  obtain ⟨maxRows, db⟩ := b
  obtain ⟨⟨table, hdb, hsequence, hpending⟩, hflagged, hcount⟩ := h
  obtain rfl : db = some table := hdb
  have hfree : (enforceCapacity {} ⟨maxRows, some table⟩ table).sequence < maxRowId := by
    rw [sequence_enforceCapacity, hsequence, maxRowId]
    omega
  have hinsert : ∃ inserted,
      (enforceCapacity {} ⟨maxRows, some table⟩ table).insert maxRowId
        ⟨cStr (toJson rj sampleMessage), 0⟩ = some inserted := by
    rw [AutoTable.insert, if_pos hfree]
    exact ⟨_, rfl⟩
  obtain ⟨inserted, hinsert⟩ := hinsert
  have hstore : store rj {} sampleMessage ⟨maxRows, some table⟩ =
      (true, ⟨maxRows, some inserted⟩) := by
    simp only [store, Bool.not_true, Bool.false_eq_true, if_false, hinsert]
  have hone : inserted.select isPending =
      [((n : Int) + 1, ⟨cStr (toJson rj sampleMessage), 0⟩)] := by
    have hselect := AutoTable.select_insert hinsert isPending
    rw [select_enforceCapacity_pending, sequence_enforceCapacity, hpending, hsequence] at hselect
    rw [hselect]
    simp [isPending]
  have hstored : Flagged ⟨maxRows, some inserted⟩ := by
    have hcall := flagged_call rj hflagged (.store {} sampleMessage)
    change Flagged (store rj {} sampleMessage ⟨maxRows, some table⟩).2 at hcall
    rwa [hstore] at hcall
  have hsent : (sentRows ⟨maxRows, some inserted⟩).length = n := by
    have hsame := sentRows_store rj {} sampleMessage ⟨maxRows, some table⟩
    rw [hstore] at hsame
    rw [hsame, hcount]
  rw [hstore]
  constructor
  · refine ⟨_, rfl, ?_, ?_⟩
    · change inserted.sequence = _
      rw [(AutoTable.sequence_insert hinsert).1, sequence_enforceCapacity, hsequence]
      norm_cast
    · rw [AutoTable.select_update inserted _ (by simp [isPending]), hone]
      simp
  · exact flagged_call rj hstored (.markSent {} (n + 1))
  · have hcall := sentRows_call rj hstored (.markSent {} (n + 1))
    have hacknowledges : acknowledges ⟨maxRows, some inserted⟩ (.markSent {} (n + 1)) = true := by
      change (inserted.select isPending).any (·.1 = (n : Int) + 1) = true
      rw [hone]
      simp
    rw [hacknowledges, hsent] at hcall
    exact hcall

def storeAndMark (n : Nat) : List Call :=
  (List.range n).flatMap fun k => [.store {} sampleMessage, .markSent {} (k + 1)]

theorem allSent_storeAndMark (rj : Rapidjson) (maxRows : Nat) {n : Nat} (h : n < 2 ^ 63) :
    AllSent n ((call rj).run (opened maxRows) (storeAndMark n)).2 := by
  induction n with
  | zero => exact ⟨⟨AutoTable.empty, rfl, rfl, rfl⟩, flagged_opened maxRows, rfl⟩
  | succ n ih =>
    have hbefore := ih (Nat.lt_of_succ_lt h)
    have hsplit : storeAndMark (n + 1) =
        storeAndMark n ++ [.store {} sampleMessage, .markSent {} (n + 1)] := by
      simp [storeAndMark, List.range_succ]
    rw [hsplit, Transducer.run_append]
    exact allSent_next rj hbefore h

/-- Acknowledged rows are never removed: there are as many as acknowledgements that found
their row pending, and no capacity keeps their number down. -/
theorem acknowledged_rows_stay (rj : Rapidjson) (maxRows : Nat) :
    (∀ calls, let (answers, b) := (call rj).run (opened maxRows) calls
      (sentRows b).length = acknowledgements rj (opened maxRows) calls ∧
        (sentRows b).length ≤ storedCount answers) ∧
      ∀ n < 2 ^ 63, ∃ calls,
        (sentRows ((call rj).run (opened maxRows) calls).2).length = n := by
  constructor
  · intro calls
    have hflagged : Flagged ((call rj).run (opened maxRows) calls).2 :=
      flagged_run rj (flagged_opened maxRows) calls
    have hcount := sentRows_run rj (flagged_opened maxRows) calls
    have hrows := rows_run rj (opened maxRows) calls
    rw [flagged_length hflagged] at hrows
    have hnone : (rows (opened maxRows)).length = 0 ∧ (sentRows (opened maxRows)).length = 0 :=
      ⟨rfl, rfl⟩
    constructor
    · rw [hcount, hnone.2, Nat.zero_add]
    · omega
  · intro n hn
    exact ⟨storeAndMark n, (allSent_storeAndMark rj maxRows hn).count⟩

/-- With the default ceiling of 10000 rows, no bound below the number of ids that there
are holds in all runs. -/
theorem acknowledged_rows_accumulate :
    ¬∃ bound < 2 ^ 63, ∀ calls,
      (sentRows ((call sampleRapidjson).run (opened 10000) calls).2).length < bound := by
  rintro ⟨bound, hbound, hbelow⟩
  have hcalls := hbelow (storeAndMark bound)
  rw [(allSent_storeAndMark sampleRapidjson 10000 hbound).count] at hcalls
  exact Nat.lt_irrefl _ hcalls

end SdvGateway.Gateway.AcknowledgedRows
