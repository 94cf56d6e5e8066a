import Mathlib.Data.List.TakeDrop
import SdvGateway.Common.Convert
import SdvGateway.Gateway.CommandHandler

/-! How long the duplicate guard remembers a command. The set of remembered ids
is emptied when it is full, so the protection lasts as long as the ids that come
in between fit into it. -/
namespace SdvGateway.Gateway.Redelivery
open Common Library CommandHandler

def explicitId (env : Env) (payload : Str) : Option Str :=
  match env.json.parse payload with
  | .ok (.object members) =>
    match Json.member? (lit "correlation_id") members with
    | some (.string id) => some id
    | _ => none
  | _ => none

def consumedIds (records : List Record) : List Str := records.filterMap (·.handled.id?)

def idsBetween (records : List Record) (i j : Nat) : List Str :=
  consumedIds ((records.take j).drop (i + 1))

/-- A command that was routed is not routed again when it is redelivered within
a window. The window is a condition on the ids remembered right after the first
delivery and on the other ids consumed in between. -/
def RedeliveryGuarded (env : Env) (window : Finset Str → Finset Str → Prop) : Prop :=
  ∀ turns i j id first second, i < j →
    let records := run env CappedSet.empty turns
    records[i]? = some first → records[j]? = some second →
    first.handled.routed = true →
    explicitId env first.message.payload = some id →
    explicitId env second.message.payload = some id →
    window first.seen.keys ((idsBetween records i j).toFinset.erase id) →
    second.handled.routed = false

theorem readCommand_explicitId {env : Env} {payload id : Str} {cmd : Command}
    (hcmd : readCommand env payload = .ok cmd) (hid : explicitId env payload = some id) :
    cmd.correlationId = id := by
  simp only [readCommand, bind_eq_ok] at hcmd
  obtain ⟨j, hparse, _, _, _, _, correlationId, hvalue, _, _, _, _, hcmd⟩ := hcmd
  cases hcmd
  simp only [explicitId, hparse] at hid
  cases j with
  | object members =>
    simp only [Json.valueString] at hvalue
    cases hmember : Json.member? (lit "correlation_id") members with
    | none => simp [hmember] at hid
    | some value =>
      cases value with
      | string text =>
        simp only [hmember, Option.some.injEq] at hid
        simp only [hmember, Json.getString, Except.ok.injEq] at hvalue
        exact hvalue.symm.trans hid
      | _ => simp [hmember] at hid
  | _ => simp at hid

theorem run_consumed (env : Env) (seen : SeenIds) (message : Message) (rest : List Turn) :
    run env seen (.consumed message :: rest) =
      ⟨message, (handle env seen message).1, (handle env seen message).2⟩ ::
        run env (handle env seen message).2 rest := rfl

theorem consumedIds_cons (record : Record) (records : List Record) :
    consumedIds (record :: records) = record.handled.id?.toList ++ consumedIds records := by
  unfold consumedIds
  cases hid : record.handled.id? <;> simp [hid]

theorem handle_seen (env : Env) (seen : SeenIds) (message : Message) :
    (handle env seen message).2 =
      seen.rememberAll (handle env seen message).1.id?.toList := by
  have h := handle_handles env seen message
  generalize handle env seen message = result at h
  cases h with
  | diagnosis | malformed => rfl
  | duplicate _ cmd _ hseen =>
    simp [Handled.id?, CappedSet.rememberAll, CappedSet.remember_of_mem hseen]
  | accepted => rfl

theorem run_append {env : Env} {seen : SeenIds} {turns : List Turn}
    {records rest : List Record} (h : run env seen turns = records ++ rest) :
    ∃ turns', rest = run env (seen.rememberAll (consumedIds records)) turns' := by
  induction turns generalizing seen records with
  | nil =>
    have hrest : records = [] ∧ rest = [] := by simpa [run] using h.symm
    exact ⟨[], by simp [hrest, run]⟩
  | cons turn turns ih =>
    cases turn with
    | timeout | nothing => exact ih h
    | consumed message =>
      cases records with
      | nil => exact ⟨.consumed message :: turns, h.symm⟩
      | cons record records =>
        rw [run_consumed, List.cons_append, List.cons.injEq] at h
        obtain ⟨rfl, h⟩ := h
        obtain ⟨turns', hrest⟩ := ih h
        refine ⟨turns', hrest.trans ?_⟩
        rw [consumedIds_cons, CappedSet.rememberAll_append, ← handle_seen]

theorem run_append_turns (env : Env) (seen : SeenIds) (first second : List Turn) :
    run env seen (first ++ second) = run env seen first ++
      run env (seen.rememberAll (consumedIds (run env seen first))) second := by
  induction first generalizing seen with
  | nil => rfl
  | cons turn first ih =>
    cases turn with
    | timeout | nothing => exact ih seen
    | consumed message =>
      rw [List.cons_append, run_consumed, run_consumed, ih, consumedIds_cons,
        CappedSet.rememberAll_append, ← handle_seen, List.cons_append]

theorem run_head {env : Env} {seen : SeenIds} {turns : List Turn} {record : Record}
    {rest : List Record} (h : run env seen turns = record :: rest) :
    handle env seen record.message = (record.handled, record.seen) ∧
      ∃ turns', rest = run env record.seen turns' := by
  induction turns with
  | nil => simp [run] at h
  | cons turn turns ih =>
    cases turn with
    | timeout | nothing => exact ih h
    | consumed message =>
      rw [run_consumed, List.cons.injEq] at h
      obtain ⟨rfl, rfl⟩ := h
      exact ⟨rfl, turns, rfl⟩

private theorem routed_inv {env : Env} {seen : SeenIds} {record : Record} {id : Str}
    (h : handle env seen record.message = (record.handled, record.seen))
    (hrouted : record.handled.routed = true)
    (hid : explicitId env record.message.payload = some id) :
    id ∉ seen.keys ∧ id ∈ record.seen.keys := by
  have hhandles := handle_handles env seen record.message
  obtain ⟨message, handled, after⟩ := record
  dsimp only at *
  rw [h] at hhandles
  cases hhandles with
  | diagnosis | malformed | duplicate => simp [Handled.routed] at hrouted
  | accepted _ cmd hread hnew =>
    rw [readCommand_explicitId hread hid] at hnew ⊢
    exact ⟨hnew, CappedSet.mem_remember _ _⟩

/-- The guard holds as long as the ids remembered at the first delivery and the
other ids consumed in between fit into it together. -/
theorem redeliveryGuarded_within_capacity (env : Env) :
    RedeliveryGuarded env fun seen others => (seen ∪ others).card ≤ maxSeenIds := by
  intro turns i j id first second hij records hfirst hsecond hrouted hid hid' hroom
  -- split the run at the two deliveries
  obtain ⟨hi, rfl⟩ := List.getElem?_eq_some_iff.mp hfirst
  obtain ⟨hj, rfl⟩ := List.getElem?_eq_some_iff.mp hsecond
  have hsplit : records = records.take i ++ records[i] :: records.drop (i + 1) := by
    rw [← List.drop_eq_getElem_cons, List.take_append_drop]
  have hsplit' : records.drop (i + 1) =
      (records.take j).drop (i + 1) ++ records[j] :: records.drop (j + 1) := by
    have hdrop : (records.drop (i + 1)).drop (j - (i + 1)) = records.drop j := by
      rw [List.drop_drop, Nat.add_sub_cancel' hij]
    rw [List.drop_take, ← List.drop_eq_getElem_cons, ← hdrop, List.take_append_drop]
  obtain ⟨turns₁, hrun₁⟩ := run_append hsplit
  obtain ⟨hhandled, turns₂, hrun₂⟩ := run_head hrun₁.symm
  obtain ⟨-, hmem⟩ := routed_inv hhandled hrouted hid
  rw [hsplit'] at hrun₂
  obtain ⟨turns₃, hrun₃⟩ := run_append hrun₂.symm
  obtain ⟨hhandled', -⟩ := run_head hrun₃.symm
  -- the guard at the second delivery still holds the id
  have hkept : id ∈ (records[i].seen.rememberAll (idsBetween records i j)).keys := by
    have hunion : records[i].seen.keys ∪ (idsBetween records i j).toFinset =
        records[i].seen.keys ∪ (idsBetween records i j).toFinset.erase id := by
      ext other
      by_cases hother : other = id
      · simp [hother, hmem]
      · simp [hother]
    rw [CappedSet.rememberAll_keys (hunion ▸ hroom)]
    exact Finset.mem_union_left _ hmem
  apply Bool.eq_false_iff.mpr
  intro hrouted'
  exact (routed_inv hhandled' hrouted' hid').1 hkept

def sampleId (n : Nat) : Str := List.replicate n 0x61

def samplePayload (id : Str) : Str :=
  0x7B :: lit "\"correlation_id\":\"" ++ id ++ lit "\",\"type\":\"HORN_LIGHT\"" ++ [0x7D]

def sampleEnv : Env where
  json :=
    { parse := fun text =>
        let id := (text.drop 19).takeWhile (· ≠ 0x22)
        if text = samplePayload id then
          .ok (.object [(lit "correlation_id", .string id),
            (lit "type", .string (lit "HORN_LIGHT"))])
        else .error .parseError
      floatText := fun _ => lit "0.0" }
  uin := lit "2T1BURHE0JC123456"

def sampleMessage (n : Nat) : Message := ⟨topic sampleEnv.uin, samplePayload (sampleId n)⟩

def sampleTurns (ns : List Nat) : List Turn := ns.map fun n => .consumed (sampleMessage n)

theorem sample_parse (n : Nat) :
    sampleEnv.json.parse (samplePayload (sampleId n)) =
      .ok (.object [(lit "correlation_id", .string (sampleId n)),
        (lit "type", .string (lit "HORN_LIGHT"))]) := by
  have hid : ((samplePayload (sampleId n)).drop 19).takeWhile (· ≠ 0x22) = sampleId n := by
    have hplain : ∀ byte ∈ sampleId n, decide (byte ≠ 0x22) = true := by
      intro byte hbyte
      rw [List.eq_of_mem_replicate hbyte]
      rfl
    have hquote : (lit "\",\"type\":\"HORN_LIGHT\"" ++ [0x7D]).takeWhile (· ≠ 0x22) = [] := by
      decide
    rw [samplePayload, List.append_assoc, List.append_assoc, List.drop_left' (by rfl),
      List.takeWhile_append_of_pos hplain, hquote, List.append_nil]
  simp only [sampleEnv, hid, if_true]

private theorem sample_readCommand (n : Nat) :
    readCommand sampleEnv (samplePayload (sampleId n)) =
      .ok ⟨.hornLight, sampleId n, [0x7B, 0x7D]⟩ := by
  simp only [readCommand, sample_parse]
  rfl

theorem sample_handled (seen : SeenIds) (n : Nat) :
    (handle sampleEnv seen (sampleMessage n)).1.id? = some (sampleId n) ∧
      (sampleId n ∉ seen.keys → (handle sampleEnv seen (sampleMessage n)).1.routed = true) := by
  have h := handle_handles sampleEnv seen (sampleMessage n)
  have htopic : (sampleMessage n).topic ≠ diagnosisTopic sampleEnv.uin := by
    change topic sampleEnv.uin ≠ diagnosisTopic sampleEnv.uin
    decide
  have hread := sample_readCommand n
  generalize handle sampleEnv seen (sampleMessage n) = result at h
  cases h with
  | diagnosis heq => exact absurd heq htopic
  | malformed _ e hbad => simp [sampleMessage, hread] at hbad
  | duplicate _ cmd hcmd hseen =>
    obtain rfl := Except.ok.inj (hread.symm.trans hcmd)
    exact ⟨rfl, fun hnew => absurd hseen hnew⟩
  | accepted _ cmd hcmd hnew =>
    obtain rfl := Except.ok.inj (hread.symm.trans hcmd)
    exact ⟨rfl, fun _ => rfl⟩

theorem sample_consumedIds (seen : SeenIds) (ns : List Nat) :
    consumedIds (run sampleEnv seen (sampleTurns ns)) = ns.map sampleId := by
  induction ns generalizing seen with
  | nil => rfl
  | cons n rest ih =>
    rw [sampleTurns, List.map_cons, run_consumed, consumedIds_cons, (sample_handled seen n).1]
    exact congrArg (sampleId n :: ·) (ih _)

theorem sampleId_injective : Function.Injective sampleId := by
  intro m n h
  have hlength := congrArg List.length h
  simpa [sampleId] using hlength

theorem sample_seen {n : Nat} (h : n ≤ maxSeenIds) :
    (CappedSet.rememberAll (CappedSet.empty : SeenIds) ((List.range n).map sampleId)).keys =
      (Finset.range n).image sampleId := by
  have himage : ((List.range n).map sampleId).toFinset = (Finset.range n).image sampleId := by
    ext id
    simp
  have hcard : ((Finset.range n).image sampleId).card = n := by
    rw [Finset.card_image_of_injective _ sampleId_injective, Finset.card_range]
  have hroom : ((CappedSet.empty : SeenIds).keys ∪
      ((List.range n).map sampleId).toFinset).card ≤ maxSeenIds := by
    simpa [CappedSet.empty, himage, hcard] using h
  rw [CappedSet.rememberAll_keys hroom, himage]
  exact Finset.empty_union _

theorem sample_length (seen : SeenIds) (ns : List Nat) :
    (run sampleEnv seen (sampleTurns ns)).length = ns.length := by
  induction ns generalizing seen with
  | nil => rfl
  | cons n rest ih => exact congrArg (· + 1) (ih _)

def sampleRecord (seen : SeenIds) (n : Nat) : Record :=
  ⟨sampleMessage n, (handle sampleEnv seen (sampleMessage n)).1,
    (handle sampleEnv seen (sampleMessage n)).2⟩

theorem sampleRecord_seen (seen : SeenIds) (n : Nat) :
    (sampleRecord seen n).seen = (seen.remember (sampleId n)).2 := by
  rw [sampleRecord, handle_seen, (sample_handled seen n).1]
  rfl

theorem sampleRecord_routed {seen : SeenIds} {n : Nat} (h : sampleId n ∉ seen.keys) :
    (sampleRecord seen n).handled.routed = true :=
  (sample_handled seen n).2 h

private theorem sampleRecord_id (seen : SeenIds) (n : Nat) :
    (sampleRecord seen n).handled.id? = some (sampleId n) :=
  (sample_handled seen n).1

private theorem run_sampleTurns (seen : SeenIds) (n : Nat) (ns : List Nat) :
    run sampleEnv seen (sampleTurns (n :: ns)) =
      sampleRecord seen n :: run sampleEnv (sampleRecord seen n).seen (sampleTurns ns) := by
  simp only [sampleTurns, List.map_cons, run_consumed, sampleRecord]

/-- The last free place is taken, the set is emptied, and the id is new again. -/
private theorem sample_overflow {seen : SeenIds}
    (hseen : seen.keys = (Finset.range 199).image sampleId) :
    ∃ first second third, run sampleEnv seen (sampleTurns [199, 200, 199]) =
        [first, second, third] ∧
      first.message = sampleMessage 199 ∧ first.handled.routed = true ∧
      second.handled.id? = some (sampleId 200) ∧
      third.message = sampleMessage 199 ∧ third.handled.routed = true := by
  have hinsert : insert (sampleId 199) seen.keys = (Finset.range 200).image sampleId := by
    rw [hseen, ← Finset.image_insert, ← Finset.range_add_one]
  have hcard : ((Finset.range 200).image sampleId).card = maxSeenIds := by
    rw [Finset.card_image_of_injective _ sampleId_injective, Finset.card_range, maxSeenIds]
  have hfirst : (sampleRecord seen 199).seen.keys = (Finset.range 200).image sampleId := by
    rw [sampleRecord_seen, CappedSet.remember_keys (hinsert ▸ hcard.le), hinsert]
  have hsecond : (sampleRecord (sampleRecord seen 199).seen 200).seen.keys = {sampleId 200} := by
    have hnew : sampleId 200 ∉ (sampleRecord seen 199).seen.keys := by
      simp [hfirst, sampleId_injective.eq_iff]
    rw [sampleRecord_seen, CappedSet.remember_keys_of_full hnew (hfirst ▸ hcard.ge)]
  have hrouted : (sampleRecord seen 199).handled.routed = true :=
    sampleRecord_routed (by simp [hseen, sampleId_injective.eq_iff])
  have hrouted' : (sampleRecord (sampleRecord (sampleRecord seen 199).seen 200).seen
      199).handled.routed = true :=
    sampleRecord_routed (by simp [hsecond, sampleId_injective.eq_iff])
  rw [run_sampleTurns, run_sampleTurns, run_sampleTurns]
  exact ⟨_, _, _, rfl, rfl, hrouted, sampleRecord_id _ 200, rfl, hrouted'⟩

/-- The 200th id fills the set and the 201st empties it, so that the 200th is
routed again with a single other id in between. -/
theorem redeliveryGuarded_fails_at_capacity :
    ¬RedeliveryGuarded sampleEnv fun _ others => others.card < maxSeenIds := by
  intro h
  have hrun := run_append_turns sampleEnv CappedSet.empty (sampleTurns (List.range 199))
    (sampleTurns [199, 200, 199])
  obtain ⟨first, second, third, htail, hmessage, hrouted, hid, hmessage', hrouted'⟩ :=
    sample_overflow (sample_seen (show 199 ≤ maxSeenIds by decide))
  have hlength := sample_length CappedSet.empty (List.range 199)
  rw [sample_consumedIds, htail] at hrun
  have hguarded := h (sampleTurns (List.range 199) ++ sampleTurns [199, 200, 199]) 199 201
    (sampleId 199) first third (by decide)
  rw [hrun] at hguarded
  generalize run sampleEnv CappedSet.empty (sampleTurns (List.range 199)) = head
    at hguarded hlength
  rw [List.length_range] at hlength
  have hexplicit : explicitId sampleEnv (sampleMessage 199).payload = some (sampleId 199) := by
    rw [explicitId, sampleMessage, sample_parse]
    rfl
  have hbetween : idsBetween (head ++ [first, second, third]) 199 201 = [sampleId 200] := by
    have htake : head.take 201 = head := List.take_of_length_le (by omega)
    have hdrop : head.drop 200 = [] := List.drop_eq_nil_of_le (by omega)
    simp [idsBetween, consumedIds, List.take_append, List.drop_append, hlength, htake, hdrop, hid]
  have hfew : ((idsBetween (head ++ [first, second, third]) 199 201).toFinset.erase
      (sampleId 199)).card < maxSeenIds := by
    apply (Finset.card_erase_le).trans_lt
    rw [hbetween, maxSeenIds]
    simp
  rw [hmessage] at hguarded
  have hfalse := hguarded (by simp [hlength]) (by simp [hlength]) hrouted hexplicit
    (hmessage' ▸ hexplicit) hfew
  simp [hrouted'] at hfalse

end SdvGateway.Gateway.Redelivery
