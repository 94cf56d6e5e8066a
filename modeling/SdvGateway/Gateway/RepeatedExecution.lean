import SdvGateway.Gateway.Redelivery

/-! How often one command can be executed. The duplicate guard forgets everything when
it is full, so an id gets through once in each lap of `MAX_SEEN_IDS` commands. -/
namespace SdvGateway.Gateway.RepeatedExecution
open Common Library CommandHandler Redelivery

def routedId? : Handled → Option Str
  | .accepted cmd _ => some cmd.correlationId
  | _ => none

def routedIds (records : List Record) : List Str := records.filterMap (routedId? ·.handled)

private theorem routedIds_cons (record : Record) (records : List Record) :
    routedIds (record :: records) = (routedId? record.handled).toList ++ routedIds records := by
  unfold routedIds
  cases hid : routedId? record.handled <;> simp [hid]

theorem routedIds_run (env : Env) (seen : SeenIds) (turns : List Turn) :
    routedIds (run env seen turns) = seen.misses (consumedIds (run env seen turns)) := by
  induction turns generalizing seen with
  | nil => rfl
  | cons turn rest ih =>
    cases turn with
    | timeout | nothing => exact ih seen
    | consumed message =>
      rw [run_consumed, routedIds_cons, consumedIds_cons, ih]
      have hhandles := handle_handles env seen message
      generalize handle env seen message = result at hhandles
      cases hhandles with
      | diagnosis | malformed => rfl
      | duplicate _ cmd _ hseen =>
        change _ = seen.misses (cmd.correlationId :: _)
        rw [CappedSet.misses, if_pos hseen]
        rfl
      | accepted _ cmd _ hnew =>
        change cmd.correlationId :: _ = seen.misses (cmd.correlationId :: _)
        rw [CappedSet.misses, if_neg hnew]
        rfl

private theorem not_routed_of_seen {env : Env} {seen : SeenIds} {message : Message} {id : Str}
    (hid : (handle env seen message).1.id? = some id) (hseen : id ∈ seen.keys) :
    (handle env seen message).1.routed = false := by
  have hhandles := handle_handles env seen message
  generalize handle env seen message = result at hid hhandles
  cases hhandles with
  | diagnosis | malformed | duplicate => rfl
  | accepted _ cmd _ hnew =>
    obtain rfl : cmd.correlationId = id := Option.some.inj hid
    exact absurd hseen hnew

private theorem seen_after_handle {env : Env} {seen : SeenIds} {message : Message} {id : Str}
    (hid : (handle env seen message).1.id? = some id) :
    id ∈ (handle env seen message).2.keys := by
  rw [handle_seen, hid]
  exact CappedSet.mem_remember seen id

/-- After any number of accepted commands, no id has been routed more often than the
guard has been filled, the guard has kept its size, and a redelivery right after the
first delivery is not routed. -/
theorem repeated_execution_bounded (env : Env) (turns : List Turn) :
    let records := run env CappedSet.empty turns
    (∀ id, (routedIds records).count id ≤ 1 + ((routedIds records).length - 1) / maxSeenIds) ∧
      (∀ record ∈ records, record.seen.keys.card ≤ maxSeenIds) ∧
      ∀ earlier first second later id, records = earlier ++ first :: second :: later →
        first.handled.id? = some id → second.handled.id? = some id →
        ¬(first.handled.routed = true ∧ second.handled.routed = true) := by
  refine ⟨?_, ?_, ?_⟩
  · intro id
    rw [routedIds_run]
    apply CappedSet.count_misses_le
  · exact fun record _ => record.seen.card_le
  · intro earlier first second later id hsplit hfirst hsecond hboth
    obtain ⟨turns₁, hrest⟩ := run_append hsplit
    obtain ⟨hhandle, turns₂, htail⟩ := run_head hrest.symm
    obtain ⟨hhandle', _⟩ := run_head htail.symm
    have hremembered : id ∈ first.seen.keys := by
      have hafter := seen_after_handle (by rw [hhandle]; exact hfirst)
      rwa [hhandle] at hafter
    have hdropped := not_routed_of_seen (by rw [hhandle']; exact hsecond) hremembered
    rw [hhandle', hboth.2] at hdropped
    cases hdropped

end SdvGateway.Gateway.RepeatedExecution
