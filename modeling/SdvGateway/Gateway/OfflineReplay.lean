import Mathlib.Logic.Function.Iterate
import SdvGateway.Gateway.OfflineBuffer
import SdvGateway.Library.Machine

/-! Replaying what has been buffered. A row that cannot be decoded is skipped but
stays pending, so replay goes on to the end exactly when there is none. -/
namespace SdvGateway.Gateway.OfflineReplay
open Common Library TelemetryJson OfflineBuffer

def replayOnce (rj : Rapidjson) (limit : UInt64) (b : Buffer) : Buffer :=
  (drain rj {} limit b).foldl (fun b message => (markSent {} message.1 b).2) b

/-- With any limit, something is drained while rows are pending, and replaying
empties the buffer. -/
def Progress (rj : Rapidjson) (b : Buffer) : Prop :=
  ∀ limit, 1 ≤ limit →
    (0 < pendingCount true b → drain rj {} limit b ≠ []) ∧
    pendingCount true ((replayOnce rj limit)^[pendingCount true b] b) = 0

def decodable (rj : Rapidjson) (row : Int × Row) : Bool := (decodeRow rj row).isSome

def Decodable (rj : Rapidjson) (b : Buffer) : Prop :=
  ∀ row ∈ pendingRows b, decodable rj row = true

theorem drain_eq (rj : Rapidjson) (limit : UInt64) (b : Buffer) :
    drain rj {} limit b = (sqlLimit limit (pendingRows b)).filterMap (decodeRow rj) := by
  obtain ⟨maxRows, db⟩ := b
  cases db with
  | none => simp [drain, pendingRows, sqlLimit]
  | some table => rfl

private theorem pendingRows_marked (rowId : Int) (b : Buffer) :
    pendingRows (markSent {} rowId b).2 = (pendingRows b).filter fun row => row.1 ≠ rowId := by
  obtain ⟨maxRows, db⟩ := b
  cases db with
  | none => rfl
  | some table => exact pendingRows_markSent rfl

theorem pendingRows_replayOnce (rj : Rapidjson) (limit : UInt64) (b : Buffer) :
    pendingRows (replayOnce rj limit b) =
      (pendingRows b).filter fun row => row.1 ∉ (drain rj {} limit b).map Prod.fst := by
  unfold replayOnce
  generalize drain rj {} limit b = messages
  induction messages generalizing b with
  | nil => simp
  | cons message rest ih =>
    rw [List.foldl_cons, ih, pendingRows_marked, List.filter_filter]
    apply List.filter_congr
    intro row _
    by_cases hkey : row.1 = message.1 <;> simp [hkey]

theorem decodeRow_fst {rj : Rapidjson} {row : Int × Row} {message : Int × TelemetryMsg}
    (h : decodeRow rj row = some message) : message.1 = row.1 := by
  simp only [decodeRow, Option.map_eq_some_iff] at h
  obtain ⟨_, _, rfl⟩ := h
  rfl

theorem mem_sqlLimit {limit : UInt64} {rows : List (Int × Row)} {row : Int × Row}
    (h : row ∈ sqlLimit limit rows) : row ∈ rows := by
  simp only [sqlLimit] at h
  split at h
  · exact h
  · exact List.mem_of_mem_take h

theorem head_mem_sqlLimit {limit : UInt64} (hlimit : 1 ≤ limit) (row : Int × Row)
    (rest : List (Int × Row)) : row ∈ sqlLimit limit (row :: rest) := by
  have hpos : 1 ≤ limit.toBitVec.toNat := hlimit
  simp only [sqlLimit]
  split
  · exact List.mem_cons_self
  · next hnonneg =>
    obtain ⟨n, hn⟩ : ∃ n, limit.toBitVec.toInt.toNat = n + 1 := by
      rw [BitVec.toInt_eq_toNat_cond] at hnonneg ⊢
      exact ⟨limit.toBitVec.toNat - 1, by omega⟩
    rw [hn, List.take_succ_cons]
    exact List.mem_cons_self

theorem undecodable_stays {rj : Rapidjson} {limit : UInt64} {b : Buffer} {row : Int × Row}
    (hrow : row ∈ pendingRows b) (hbad : decodable rj row = false) :
    row ∈ pendingRows (replayOnce rj limit b) := by
  rw [pendingRows_replayOnce, List.mem_filter]
  refine ⟨hrow, decide_eq_true ?_⟩
  rw [drain_eq, List.mem_map]
  rintro ⟨message, hmessage, hkey⟩
  obtain ⟨other, hother, hdecoded⟩ := List.mem_filterMap.mp hmessage
  have hsame : other = row := by
    obtain ⟨maxRows, db⟩ := b
    cases db with
    | none => simp [pendingRows] at hrow
    | some table =>
      exact AutoTable.eq_of_key_eq (mem_sqlLimit hother) hrow
        ((decodeRow_fst hdecoded).symm.trans hkey)
  rw [hsame] at hdecoded
  simp [decodable, hdecoded] at hbad

private theorem decodable_replayOnce {rj : Rapidjson} {b : Buffer} (h : Decodable rj b)
    (limit : UInt64) : Decodable rj (replayOnce rj limit b) := by
  intro row hrow
  rw [pendingRows_replayOnce] at hrow
  exact h row (List.mem_of_mem_filter hrow)

theorem replayOnce_length_lt {rj : Rapidjson} {limit : UInt64} {b : Buffer}
    (hlimit : 1 ≤ limit) (h : Decodable rj b) (hpending : pendingRows b ≠ []) :
    drain rj {} limit b ≠ [] ∧
      (pendingRows (replayOnce rj limit b)).length < (pendingRows b).length := by
  obtain ⟨row, rest, hrows⟩ := List.exists_cons_of_ne_nil hpending
  obtain ⟨message, hmessage⟩ : ∃ message, decodeRow rj row = some message :=
    Option.isSome_iff_exists.mp (h row (hrows ▸ List.mem_cons_self))
  have hdrained : message ∈ drain rj {} limit b := by
    rw [drain_eq, hrows]
    exact List.mem_filterMap.mpr ⟨row, head_mem_sqlLimit hlimit row rest, hmessage⟩
  refine ⟨List.ne_nil_of_mem hdrained, ?_⟩
  rw [pendingRows_replayOnce]
  have hkey : row.1 ∈ (drain rj {} limit b).map Prod.fst :=
    decodeRow_fst hmessage ▸ List.mem_map_of_mem hdrained
  apply List.length_filter_lt_length_iff_exists.mpr
  exact ⟨row, hrows ▸ List.mem_cons_self, by simpa using hkey⟩

private theorem replay_empties {rj : Rapidjson} {limit : UInt64} (hlimit : 1 ≤ limit) (n : Nat)
    {b : Buffer} (h : Decodable rj b) (hlength : (pendingRows b).length ≤ n) :
    pendingRows ((replayOnce rj limit)^[n] b) = [] := by
  induction n generalizing b with
  | zero => exact List.length_eq_zero_iff.mp (Nat.le_zero.mp hlength)
  | succ n ih =>
    rw [Function.iterate_succ_apply]
    apply ih (decodable_replayOnce h limit)
    by_cases hpending : pendingRows b = []
    · rw [pendingRows_replayOnce, hpending]
      exact Nat.zero_le n
    · have hshorter := (replayOnce_length_lt hlimit h hpending).2
      omega

private theorem undecodable_stays_forever {rj : Rapidjson} {limit : UInt64} {row : Int × Row}
    (hbad : decodable rj row = false) (n : Nat) {b : Buffer} (hrow : row ∈ pendingRows b) :
    row ∈ pendingRows ((replayOnce rj limit)^[n] b) := by
  induction n generalizing b with
  | zero => exact hrow
  | succ n ih =>
    rw [Function.iterate_succ_apply]
    exact ih (undecodable_stays hrow hbad)

theorem progress_iff_decodable (rj : Rapidjson) (b : Buffer) :
    Progress rj b ↔ Decodable rj b := by
  constructor
  · intro hprogress row hrow
    obtain ⟨-, hempty⟩ := hprogress 1 (by decide)
    rw [pendingCount_eq, List.length_eq_zero_iff] at hempty
    by_contra hbad
    have hstays : row ∈ pendingRows ((replayOnce rj 1)^[pendingCount true b] b) :=
      undecodable_stays_forever (Bool.eq_false_iff.mpr hbad) _ hrow
    rw [hempty] at hstays
    exact List.not_mem_nil hstays
  · intro h limit hlimit
    constructor
    · intro hpending
      rw [pendingCount_eq] at hpending
      exact (replayOnce_length_lt hlimit h (List.ne_nil_of_length_pos hpending)).1
    · rw [pendingCount_eq, pendingCount_eq,
        replay_empties hlimit _ h (Nat.le_refl _), List.length_nil]

def machine (rj : Rapidjson) (maxRows : Nat) : Machine Buffer Call where
  init := opened maxRows
  step b c := some (call rj b c).2

def StoresDecodable (rj : Rapidjson) (b : Buffer) (c : Call) : Prop :=
  ∀ o msg, c = .store o msg → (store rj o msg b).1 = true →
    (fromJson rj (toJson rj msg) blankMessage).isSome = true

def StoresFinite (rj : Rapidjson) (b : Buffer) (c : Call) : Prop :=
  ∀ o msg, c = .store o msg → (store rj o msg b).1 = true → finite msg = true

private theorem decodable_store (rj : Rapidjson) (o : StoreOutcomes) (msg : TelemetryMsg)
    {b : Buffer} (h : Decodable rj b) :
    Decodable rj (store rj o msg b).2 ↔
      ((store rj o msg b).1 = true →
        (fromJson rj (toJson rj msg) blankMessage).isSome = true) := by
  obtain ⟨maxRows, db⟩ := b
  cases db with
  | none => simpa [store] using h
  | some table =>
    -- what the ceiling leaves can be decoded
    have hroom : ∀ row ∈ (enforceCapacity o ⟨maxRows, some table⟩ table).select isPending,
        decodable rj row = true := by
      intro row hrow
      rw [select_enforceCapacity_pending] at hrow
      split at hrow
      · exact h row (List.mem_of_mem_tail hrow)
      · exact h row hrow
    rcases store_open rj o msg maxRows table with ⟨inserted, hinsert, hstore⟩ | hstore
    · have hselect := AutoTable.select_insert hinsert isPending
      have hnew : decodable rj
          ((enforceCapacity o ⟨maxRows, some table⟩ table).sequence + 1,
            ⟨cStr (toJson rj msg), 0⟩) =
          (fromJson rj (toJson rj msg) blankMessage).isSome := by
        simp [decodable, decodeRow, toJson_cStr]
      rw [hstore]
      simp only [Decodable, pendingRows, Option.map_some, Option.getD_some, hselect,
        List.forall_mem_append, forall_const]
      constructor
      · rintro ⟨_, hlast⟩
        rw [← hnew]
        exact hlast _ (by simp [isPending])
      · intro hdecodes
        refine ⟨hroom, fun row hrow => ?_⟩
        rw [if_pos (by simp [isPending]), List.mem_singleton] at hrow
        rw [hrow, hnew, hdecodes]
    · rw [hstore]
      simp only [Bool.false_eq_true, false_implies, iff_true]
      exact hroom

private theorem decodable_markSent {rj : Rapidjson} {o : MarkOutcomes} {rowId : Int} {b : Buffer}
    (h : Decodable rj b) : Decodable rj (markSent o rowId b).2 :=
  fun row hrow => h row ((pendingRows_markSent_sublist o rowId b).subset hrow)

/-- Replay makes progress in every state of a run exactly when every message
that the run stores has finite doubles. -/
theorem replay_progress_iff (rj : Rapidjson) (maxRows : Nat) (calls : List Call)
    (hreadable : ∀ o msg, Call.store o msg ∈ calls → Readable rj msg)
    (hrejecting : ∀ o msg, Call.store o msg ∈ calls → Rejecting rj msg) :
    (machine rj maxRows).Always (Progress rj) (machine rj maxRows).init calls ↔
      (machine rj maxRows).Along (StoresFinite rj) (machine rj maxRows).init calls := by
  have hprogress : Progress rj = Decodable rj :=
    funext fun b => propext (progress_iff_decodable rj b)
  have hguard : ∀ b, ∀ c ∈ calls, StoresDecodable rj b c ↔ StoresFinite rj b c := by
    intro b c hc
    apply forall₂_congr
    intro o msg
    apply forall₂_congr
    intro hstore _
    subst hstore
    cases hfinite : finite msg with
    | true =>
      obtain ⟨speed, rpm, coolant, batt, hparse⟩ := hreadable o msg hc hfinite
      simp [fromJson_document hparse]
    | false => simp [fromJson_eq_none (hrejecting o msg hc) hfinite]
  rw [hprogress, ← Machine.along_congr hguard]
  apply Machine.always_iff_along
  · intro b c b' hstep hdecodable
    obtain rfl := Option.some.inj hstep
    cases c with
    | store o msg => simpa [StoresDecodable, call] using decodable_store rj o msg hdecodable
    | drain o limit => simp [StoresDecodable, call, hdecodable]
    | markSent o rowId => simp [StoresDecodable, call, decodable_markSent hdecodable]
  · intro row hrow
    exact absurd hrow List.not_mem_nil

theorem replay_progress_sample :
    (machine sampleRapidjson 10).Always (Progress sampleRapidjson)
      (machine sampleRapidjson 10).init [.store {} sampleMessage] := by
  apply (replay_progress_iff sampleRapidjson 10 [.store {} sampleMessage] ?_ ?_).mpr
  · refine ⟨?_, trivial⟩
    intro o msg hcall _
    cases hcall
    decide
  · intro o msg hcall
    cases List.mem_singleton.mp hcall
    intro hfinite
    exact ⟨_, _, _, _, sample_lossless hfinite⟩
  · intro o msg hcall
    cases List.mem_singleton.mp hcall
    intro hinfinite
    exact absurd hinfinite (by decide)

def nanMessage : TelemetryMsg := { sampleMessage with vehicleSpeedKmh := ⟨0x7FF8000000000000⟩ }

/-- The row of `nanMessage` stays pending at the head, and with a limit of one
nothing is drained any more. -/
theorem nan_blocks_replay :
    Readable sampleRapidjson nanMessage ∧ Rejecting sampleRapidjson nanMessage ∧
      ¬(machine sampleRapidjson 10).Always (Progress sampleRapidjson)
        (machine sampleRapidjson 10).init [.store {} nanMessage] := by
  refine ⟨fun hfinite => absurd hfinite (by decide), fun _ => by decide +kernel, ?_⟩
  intro h
  have hprogress : Progress sampleRapidjson
      (call sampleRapidjson (opened 10) (.store {} nanMessage)).2 := h.2
  exact (hprogress 1 (by decide)).1 (by decide +kernel) (by decide +kernel)

end SdvGateway.Gateway.OfflineReplay
