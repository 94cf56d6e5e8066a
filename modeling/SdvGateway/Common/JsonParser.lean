import SdvGateway.Common.JsonStrings

/-! The parser of the JSON library: `sax_parse_internal` with the events of
`json_sax_dom_parser`. Its vector of states and the stack of references are one stack
of open containers, and each `get_token` is one step. -/
namespace SdvGateway.Common.JsonParser
open JsonLexer

/-- `object_element`: the member stands where its key belongs, and a later value for
the key replaces the earlier one. -/
def assign (key : Str) (value : Json) : List (Str × Json) → List (Str × Json)
  | [] => [(key, value)]
  | (name, old) :: rest =>
    if key < name then (key, value) :: (name, old) :: rest
    else if key = name then (name, value) :: rest
    else (name, old) :: assign key value rest

inductive Frame where
  | array (items : List Json)
  | object (members : List (Str × Json)) (key : Str)

/-- Which token the parser asks for. `value` is the switch over `last_token`, and the
states that begin with `after` evaluate the innermost container. -/
inductive State where
  | value (frames : List Frame)
  | firstItem (frames : List Frame)
  | afterItem (frames : List Frame) (items : List Json)
  | firstKey (frames : List Frame)
  | nextKey (frames : List Frame) (members : List (Str × Json))
  | separator (frames : List Frame) (members : List (Str × Json)) (key : Str)
  | afterMember (frames : List Frame) (members : List (Str × Json))
  | done (root : Json)

def deliver (value : Json) : List Frame → State
  | [] => .done value
  | .array items :: frames => .afterItem frames (items ++ [value])
  | .object members key :: frames => .afterMember frames (assign key value members)

def readValue (frames : List Frame) : Token → Except JsonError State
  | .beginObject => .ok (.firstKey frames)
  | .beginArray => .ok (.firstItem frames)
  | .valueFloat x => if x.isFinite then .ok (deliver (.float x) frames) else .error .outOfRange
  | .literalFalse => .ok (deliver (.boolean false) frames)
  | .literalNull => .ok (deliver .null frames)
  | .literalTrue => .ok (deliver (.boolean true) frames)
  | .valueInteger n => .ok (deliver (.integer n) frames)
  | .valueString s => .ok (deliver (.string s) frames)
  | .valueUnsigned n => .ok (deliver (.integer n) frames)
  | _ => .error .parseError

def step (state : State) (token : Token) : Except JsonError State :=
  match state, token with
  | .value frames, token => readValue frames token
  | .firstItem frames, .endArray => .ok (deliver (.array []) frames)
  | .firstItem frames, token => readValue (.array [] :: frames) token
  | .afterItem frames items, .valueSeparator => .ok (.value (.array items :: frames))
  | .afterItem frames items, .endArray => .ok (deliver (.array items) frames)
  | .firstKey frames, .endObject => .ok (deliver (.object []) frames)
  | .firstKey frames, .valueString key => .ok (.separator frames [] key)
  | .nextKey frames members, .valueString key => .ok (.separator frames members key)
  | .separator frames members key, .nameSeparator => .ok (.value (.object members key :: frames))
  | .afterMember frames members, .valueSeparator => .ok (.nextKey frames members)
  | .afterMember frames members, .endObject => .ok (deliver (.object members) frames)
  | .done root, .endOfInput => .ok (.done root)
  | _, _ => .error .parseError

def result : State → Except JsonError Json
  | .done root => .ok root
  | _ => .error .parseError

/-- `json::parse`, which throws on the first token that does not fit. -/
def parse (strtod : Str → Double) (input : Str) : Except JsonError Json := do
  let state ← (lex strtod input).foldlM step (.value [])
  result state

end SdvGateway.Common.JsonParser

namespace SdvGateway.Common.Json

mutual

/-- Integers of 64 bits, finite numbers and strings in UTF-8, with a condition on the
keys of an object in their order. -/
def Stored (before : Str → Str → Prop) : Json → Prop
  | .integer n => -2 ^ 63 ≤ n ∧ n < 2 ^ 64
  | .float x => x.isFinite = true
  | .string s => isUtf8 s = true
  | .array items => StoredItems before items
  | .object members =>
    members.Pairwise (fun a b => before a.1 b.1) ∧ StoredMembers before members
  | _ => True

def StoredItems (before : Str → Str → Prop) : List Json → Prop
  | [] => True
  | item :: rest => item.Stored before ∧ StoredItems before rest

def StoredMembers (before : Str → Str → Prop) : List (Str × Json) → Prop
  | [] => True
  | (key, value) :: rest =>
    isUtf8 key = true ∧ value.Stored before ∧ StoredMembers before rest

end

/-- What the library's container can hold and its serializer accepts. -/
def Canonical (j : Json) : Prop := j.Stored (· < ·)

section
variable {before : Str → Str → Prop}

theorem storedItems_iff {items : List Json} :
    StoredItems before items ↔ ∀ item ∈ items, item.Stored before := by
  induction items with
  | nil => simp [StoredItems]
  | cons item rest ih => simp [StoredItems, ih]

theorem storedMembers_iff {members : List (Str × Json)} :
    StoredMembers before members ↔
      ∀ member ∈ members, isUtf8 member.1 = true ∧ member.2.Stored before := by
  induction members with
  | nil => simp [StoredMembers]
  | cons member rest ih => simp [StoredMembers, ih, and_assoc]

end

end SdvGateway.Common.Json

namespace SdvGateway.Common.JsonLexer

def Token.Valid : Token → Prop
  | .valueString s => isUtf8 s = true
  | .valueUnsigned n => n < 2 ^ 64
  | .valueInteger n => -2 ^ 63 ≤ n ∧ n < 2 ^ 64
  | _ => True

private theorem convertNumber_valid (strtod : Str → Double) (number : Number) :
    (convertNumber strtod number).Valid := by
  fun_cases convertNumber strtod number with
  | case1 token h => exact h
  | case2 => trivial
  | case3 token h =>
    have hle : (decimal (token.drop 1) : Int) ≤ 2 ^ 63 := by exact_mod_cast h
    refine ⟨?_, ?_⟩ <;> omega
  | case4 => trivial
  | case5 => trivial

private theorem scanValue_valid {strtod : Str → Double} {byte : UInt8} {input rest : Str}
    {token : Token} (h : scanValue strtod byte input = some (token, rest)) : token.Valid := by
  have hliteral {kind : Token} {scanned : Option Str}
      (hscan : scanned.map (kind, ·) = some (token, rest)) (hkind : kind.Valid) : token.Valid := by
    obtain ⟨_, _, heq⟩ := Option.map_eq_some_iff.mp hscan
    cases heq
    exact hkind
  unfold scanValue at h
  split at h
  · next kind hkind =>
    cases h
    unfold structural at hkind
    split_ifs at hkind <;> cases hkind <;> trivial
  split at h
  · exact hliteral h trivial
  split at h
  · exact hliteral h trivial
  split at h
  · exact hliteral h trivial
  split at h
  · obtain ⟨⟨s, _⟩, hscan, heq⟩ := Option.map_eq_some_iff.mp h
    cases heq
    exact scanString_utf8 hscan
  split at h
  · obtain ⟨_, _, heq⟩ := Option.map_eq_some_iff.mp h
    cases heq
    exact convertNumber_valid strtod _
  split at h
  · cases h
    trivial
  · cases h

private theorem scan_valid (strtod : Str → Double) (input : Str) : (scan strtod input).1.Valid := by
  unfold scan
  split
  · trivial
  · next byte rest _ =>
    cases hvalue : scanValue strtod byte rest with
    | none => trivial
    | some scanned => exact scanValue_valid hvalue

private theorem tokens_valid (strtod : Str → Double) (input : Str) :
    ∀ token ∈ tokens strtod input, token.Valid := by
  fun_induction tokens strtod input with
  | case1 input _ => simpa using scan_valid strtod input
  | case2 input _ ih => simpa using ⟨scan_valid strtod input, ih⟩

theorem lex_valid (strtod : Str → Double) (input : Str) :
    ∀ token ∈ lex strtod input, token.Valid := by
  unfold lex
  split
  · exact tokens_valid strtod _
  · simp [Token.Valid]

end SdvGateway.Common.JsonLexer

namespace SdvGateway.Common.JsonParser
open JsonLexer

theorem mem_assign {key : Str} {value : Json} {members : List (Str × Json)} {member : Str × Json}
    (h : member ∈ assign key value members) : member = (key, value) ∨ member ∈ members := by
  induction members with
  | nil => exact Or.inl (List.mem_singleton.mp h)
  | cons first rest ih =>
    rw [assign] at h
    split_ifs at h with hless hsame
    · exact List.mem_cons.mp h
    · rcases List.mem_cons.mp h with rfl | h
      · exact Or.inl (by rw [hsame])
      · exact Or.inr (List.mem_cons_of_mem _ h)
    · rcases List.mem_cons.mp h with rfl | h
      · exact Or.inr List.mem_cons_self
      · exact (ih h).imp_right (List.mem_cons_of_mem _)

abbrev Sorted (members : List (Str × Json)) : Prop := members.Pairwise fun a b => a.1 < b.1

private theorem assign_sorted {key : Str} {value : Json} {members : List (Str × Json)}
    (h : Sorted members) : Sorted (assign key value members) := by
  induction members with
  | nil => exact List.pairwise_singleton _ _
  | cons first rest ih =>
    obtain ⟨hfirst, hrest⟩ := List.pairwise_cons.mp h
    rw [assign]
    split_ifs with hless hsame
    · refine List.pairwise_cons.mpr ⟨fun member hmember => ?_, h⟩
      rcases List.mem_cons.mp hmember with rfl | hmember
      · exact hless
      · exact List.lt_trans hless (hfirst member hmember)
    · exact List.pairwise_cons.mpr ⟨hfirst, hrest⟩
    · refine List.pairwise_cons.mpr ⟨fun member hmember => ?_, ih hrest⟩
      rcases mem_assign hmember with rfl | hmember
      · by_contra hle
        exact hsame (List.le_antisymm hle hless)
      · exact hfirst member hmember

def Members (members : List (Str × Json)) : Prop :=
  (Json.object members).Canonical

theorem Members.assign {key : Str} {value : Json} {members : List (Str × Json)}
    (h : Members members) (hkey : isUtf8 key = true)
    (hvalue : value.Canonical) : Members (assign key value members) := by
  obtain ⟨hsorted, hmembers⟩ := h
  rw [Json.storedMembers_iff] at hmembers
  refine ⟨assign_sorted hsorted, Json.storedMembers_iff.mpr fun member hmember => ?_⟩
  rcases mem_assign hmember with rfl | hmember
  · exact ⟨hkey, hvalue⟩
  · exact hmembers member hmember

def Frame.Stored : Frame → Prop
  | .array items => (Json.array items).Canonical
  | .object members key => Members members ∧ isUtf8 key = true

def State.Stored : State → Prop
  | .value frames => ∀ frame ∈ frames, frame.Stored
  | .firstItem frames => ∀ frame ∈ frames, frame.Stored
  | .afterItem frames items => (∀ frame ∈ frames, frame.Stored) ∧ (Frame.array items).Stored
  | .firstKey frames => ∀ frame ∈ frames, frame.Stored
  | .nextKey frames members => (∀ frame ∈ frames, frame.Stored) ∧ Members members
  | .separator frames members key =>
    (∀ frame ∈ frames, frame.Stored) ∧ (Frame.object members key).Stored
  | .afterMember frames members => (∀ frame ∈ frames, frame.Stored) ∧ Members members
  | .done root => root.Canonical

theorem deliver_stored {value : Json} {frames : List Frame}
    (hvalue : value.Canonical) (hframes : ∀ frame ∈ frames, frame.Stored) :
    (deliver value frames).Stored := by
  cases frames with
  | nil => exact hvalue
  | cons frame frames =>
    obtain ⟨hframe, hrest⟩ := List.forall_mem_cons.mp hframes
    cases frame with
    | array items =>
      have hitems := Json.storedItems_iff.mp hframe
      refine ⟨hrest, Json.storedItems_iff.mpr fun item hitem => ?_⟩
      rcases List.mem_append.mp hitem with hitem | hitem
      · exact hitems item hitem
      · rw [List.mem_singleton.mp hitem]
        exact hvalue
    | object members key => exact ⟨hrest, hframe.1.assign hframe.2 hvalue⟩

private theorem readValue_stored {frames : List Frame} {token : Token} {after : State}
    (hframes : ∀ frame ∈ frames, frame.Stored) (htoken : token.Valid)
    (h : readValue frames token = .ok after) : after.Stored := by
  have hdeliver {value : Json}
      (hafter : Except.ok (deliver value frames) = (Except.ok after : Except JsonError State))
      (hvalue : value.Canonical) : after.Stored := by
    cases hafter
    exact deliver_stored hvalue hframes
  cases token with
  | beginArray =>
    cases h
    exact hframes
  | beginObject =>
    cases h
    exact hframes
  | valueFloat x =>
    rw [readValue] at h
    split at h
    · next hfinite => exact hdeliver h hfinite
    · cases h
  | valueString s => exact hdeliver h htoken
  | valueInteger n => exact hdeliver h htoken
  | valueUnsigned n =>
    have hlt : (n : Int) < 2 ^ 64 := by exact_mod_cast htoken
    exact hdeliver h ⟨by omega, hlt⟩
  | literalTrue => exact hdeliver h trivial
  | literalFalse => exact hdeliver h trivial
  | literalNull => exact hdeliver h trivial
  | _ => cases h

private theorem step_stored {state after : State} {token : Token} (hstate : state.Stored)
    (htoken : token.Valid) (h : step state token = .ok after) : after.Stored := by
  have hempty : (Frame.array []).Stored := trivial
  have hnone : Members [] := ⟨List.Pairwise.nil, trivial⟩
  unfold step at h
  split at h
  · exact readValue_stored hstate htoken h
  · cases h
    exact deliver_stored hempty hstate
  · exact readValue_stored (List.forall_mem_cons.mpr ⟨hempty, hstate⟩) htoken h
  · cases h
    exact List.forall_mem_cons.mpr ⟨hstate.2, hstate.1⟩
  · cases h
    exact deliver_stored hstate.2 hstate.1
  · cases h
    exact deliver_stored hnone hstate
  · cases h
    exact ⟨hstate, hnone, htoken⟩
  · cases h
    exact ⟨hstate.1, hstate.2, htoken⟩
  · cases h
    exact List.forall_mem_cons.mpr ⟨hstate.2, hstate.1⟩
  · cases h
    exact hstate
  · cases h
    exact deliver_stored hstate.2 hstate.1
  · cases h
    exact hstate
  · cases h

private theorem run_stored {tokens : List Token} {state after : State} (hstate : state.Stored)
    (htokens : ∀ token ∈ tokens, token.Valid) (h : tokens.foldlM step state = .ok after) :
    after.Stored := by
  induction tokens generalizing state with
  | nil =>
    cases h
    exact hstate
  | cons token tokens ih =>
    obtain ⟨htoken, htokens⟩ := List.forall_mem_cons.mp htokens
    rw [List.foldlM_cons, bind_eq_ok] at h
    obtain ⟨next, hnext, h⟩ := h
    exact ih (step_stored hstate htoken hnext) htokens h

theorem parse_canonical {strtod : Str → Double} {input : Str} {j : Json}
    (h : parse strtod input = .ok j) : j.Canonical := by
  rw [parse, bind_eq_ok] at h
  obtain ⟨state, hrun, hresult⟩ := h
  have hstored := run_stored (by simp [State.Stored]) (lex_valid strtod input) hrun
  cases state with
  | done root =>
    cases hresult
    exact hstored
  | _ => cases hresult

end SdvGateway.Common.JsonParser
