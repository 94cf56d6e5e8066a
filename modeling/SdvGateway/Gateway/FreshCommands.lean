import SdvGateway.Gateway.Redelivery

/-! When a command is dropped as a duplicate. A command without a correlation id
is parsed with the empty id, and the duplicate guard takes that for an id like
any other. -/
namespace SdvGateway.Gateway.FreshCommands
open Common Library CommandHandler Redelivery

def remembered (records : List Record) : SeenIds :=
  CappedSet.empty.rememberAll (consumedIds records)

/-- A command that is dropped as a duplicate carries its id itself, as an earlier
message of the run did. -/
def Genuine (env : Env) (earlier : List Record) (record : Record) : Prop :=
  ∀ cmd, record.handled = .duplicate cmd →
    explicitId env record.message.payload = some cmd.correlationId ∧
      ∃ before ∈ earlier, explicitId env before.message.payload = some cmd.correlationId

/-- When the guard holds the empty id, a command that is parsed with it carries it
itself, as an earlier message did. -/
def EmptyIdNamed (env : Env) (earlier : List Record) (message : Message) : Prop :=
  message.topic ≠ diagnosisTopic env.uin →
    ∀ cmd, readCommand env message.payload = .ok cmd → cmd.correlationId = [] →
      [] ∈ (remembered earlier).keys →
      explicitId env message.payload = some [] ∧
        ∃ before ∈ earlier, explicitId env before.message.payload = some []

theorem readCommand_id {env : Env} {payload : Str} {cmd : Command}
    (h : readCommand env payload = .ok cmd) :
    explicitId env payload = some cmd.correlationId ∨ cmd.correlationId = [] := by
  simp only [readCommand, bind_eq_ok] at h
  obtain ⟨j, hparse, _, _, _, _, correlationId, hvalue, _, _, _, _, h⟩ := h
  cases h
  simp only [explicitId, hparse]
  cases j with
  | object members =>
    simp only [Json.valueString] at hvalue
    cases hmember : Json.member? (lit "correlation_id") members with
    | none =>
      simp only [hmember] at hvalue
      right
      exact (Except.ok.inj hvalue).symm
    | some value =>
      left
      cases value with
      | string text =>
        simp only [hmember, Json.getString] at hvalue
        simp [hmember, Except.ok.inj hvalue]
      | _ => simp [hmember, Json.getString] at hvalue
  | _ => simp [Json.valueString] at hvalue

theorem handle_id {env : Env} {seen : SeenIds} {message : Message} {id : Str}
    (h : (handle env seen message).1.id? = some id) :
    ∃ cmd, readCommand env message.payload = .ok cmd ∧ cmd.correlationId = id := by
  have hhandles := handle_handles env seen message
  generalize handle env seen message = result at h hhandles
  cases hhandles with
  | diagnosis | malformed => simp [Handled.id?] at h
  | duplicate _ cmd hread | accepted _ cmd hread => exact ⟨cmd, hread, Option.some.inj h⟩

theorem handle_duplicate_iff (env : Env) (seen : SeenIds) (message : Message) (cmd : Command) :
    (handle env seen message).1 = .duplicate cmd ↔
      message.topic ≠ diagnosisTopic env.uin ∧ readCommand env message.payload = .ok cmd ∧
        cmd.correlationId ∈ seen.keys := by
  have hhandles := handle_handles env seen message
  generalize handle env seen message = result at hhandles
  cases hhandles with
  | diagnosis htopic => simp [htopic]
  | malformed _ e hread => simp [hread]
  | duplicate htopic other hread hseen =>
    simp only [hread, Except.ok.injEq, Handled.duplicate.injEq]
    constructor
    · rintro rfl
      exact ⟨htopic, rfl, hseen⟩
    · exact fun h => h.2.1
  | accepted _ other hread hnew =>
    simp only [hread, Except.ok.injEq, reduceCtorEq, false_iff]
    rintro ⟨_, rfl, hseen⟩
    exact hnew hseen

theorem run_split {env : Env} {turns : List Turn} {earlier later : List Record}
    {record : Record} (h : run env CappedSet.empty turns = earlier ++ record :: later) :
    record.handled = (handle env (remembered earlier) record.message).1 := by
  obtain ⟨turns', hrest⟩ := run_append h
  obtain ⟨hhandle, _⟩ := run_head hrest.symm
  exact (congrArg Prod.fst hhandle).symm

private theorem explicit_of_remembered {env : Env} {turns : List Turn} {earlier later : List Record}
    (h : run env CappedSet.empty turns = earlier ++ later) {id : Str} (hne : id ≠ [])
    (hid : id ∈ (remembered earlier).keys) :
    ∃ before ∈ earlier, explicitId env before.message.payload = some id := by
  have hconsumed : id ∈ consumedIds earlier := by
    apply (CappedSet.mem_of_mem_rememberAll hid).resolve_left
    exact Finset.notMem_empty id
  obtain ⟨before, hbefore, hbeforeId⟩ := List.mem_filterMap.mp hconsumed
  obtain ⟨first, second, hsplit⟩ := List.append_of_mem hbefore
  rw [hsplit, List.append_assoc, List.cons_append] at h
  rw [run_split h] at hbeforeId
  obtain ⟨cmd, hread, hcmd⟩ := handle_id hbeforeId
  refine ⟨before, hbefore, ?_⟩
  rw [← hcmd]
  apply (readCommand_id hread).resolve_right
  rw [hcmd]
  exact hne

/-- No fresh command of a run is mistaken for a duplicate exactly when the empty
id is never remembered for messages that do not carry it. -/
theorem fresh_iff (env : Env) (turns : List Turn) :
    (∀ earlier record later, run env CappedSet.empty turns = earlier ++ record :: later →
        Genuine env earlier record) ↔
      ∀ earlier record later, run env CappedSet.empty turns = earlier ++ record :: later →
        EmptyIdNamed env earlier record.message := by
  apply forall₄_congr
  intro earlier record later hsplit
  unfold Genuine EmptyIdNamed
  simp only [run_split hsplit, handle_duplicate_iff]
  constructor
  · intro h htopic cmd hread hempty hseen
    rw [← hempty] at hseen ⊢
    exact h cmd ⟨htopic, hread, hseen⟩
  · rintro h cmd ⟨htopic, hread, hseen⟩
    by_cases hempty : cmd.correlationId = []
    · rw [hempty] at hseen ⊢
      exact h htopic cmd hread hempty hseen
    · constructor
      · exact (readCommand_id hread).resolve_right hempty
      · exact explicit_of_remembered hsplit hempty hseen

def hornPayload : Str := 0x7B :: lit "\"type\":\"HORN_LIGHT\"" ++ [0x7D]

def hornEnv : Env where
  json :=
    { parse := fun text =>
        if text = hornPayload then .ok (.object [(lit "type", .string (lit "HORN_LIGHT"))])
        else .error .parseError
      floatText := fun _ => lit "0.0" }
  uin := lit "2T1BURHE0JC123456"

def hornMessage : Message := ⟨topic hornEnv.uin, hornPayload⟩

theorem fresh_fails_without_id :
    ¬∀ earlier record later,
      run hornEnv CappedSet.empty [.consumed hornMessage, .consumed hornMessage] =
        earlier ++ record :: later → Genuine hornEnv earlier record := by
  intro h
  have hgenuine := h [_] _ [] rfl ⟨.hornLight, [], [0x7B, 0x7D]⟩ rfl
  have hnone : explicitId hornEnv hornPayload = none := by decide +kernel
  change explicitId hornEnv hornPayload = some [] ∧ _ at hgenuine
  rw [hnone] at hgenuine
  exact absurd hgenuine.1 (by simp)

end SdvGateway.Gateway.FreshCommands
