import SdvGateway.Common.JsonParser

/-! The parser keeps its open containers on the heap, the serializer keeps them on the
call stack. How much stack it needs, and what an accepted text says about that. -/
namespace SdvGateway.Common.JsonText

private theorem depth_pos (j : Json) : 0 < j.depth := by
  cases j <;> simp [Json.depth]

section
variable {text : JsonText}

theorem writeString_eq (s : Str) :
    writeString s = ExceptT.mk (some (if isUtf8 s then .ok (quoted s) else .error .typeError)) := by
  rw [writeString]
  split <;> rfl

mutual

theorem dumpOn_eq {stack : Nat} (j : Json) (h : j.depth ≤ stack) :
    text.dumpOn stack j = ExceptT.mk (some (text.dump j)) := by
  obtain ⟨stack, rfl⟩ : ∃ room, stack = room + 1 :=
    ⟨stack - 1, by have := depth_pos j; omega⟩
  match j with
  | .null => rfl
  | .boolean _ => rfl
  | .integer _ => rfl
  | .float _ => rfl
  | .string s => exact writeString_eq s
  | .array [] => rfl
  | .array (item :: rest) =>
    obtain ⟨hitem, hrest⟩ := Nat.max_le.mp (Nat.le_of_succ_le_succ h)
    rw [dumpOn, dumpOn_eq item hitem, dumpItemsOn_eq rest hrest, dump, dump, Json.printable,
      Json.printableItems, JsonText.compact]
    cases item.printable <;> cases Json.printableItems rest <;> rfl
  | .object [] => rfl
  | .object ((key, value) :: rest) =>
    obtain ⟨hvalue, hrest⟩ := Nat.max_le.mp (Nat.le_of_succ_le_succ h)
    rw [dumpOn, writeString_eq, dumpOn_eq value hvalue, dumpMembersOn_eq rest hrest, dump, dump,
      Json.printable, Json.printableMembers, JsonText.compact]
    cases isUtf8 key <;> cases value.printable <;> cases Json.printableMembers rest <;> rfl

private theorem dumpItemsOn_eq {stack : Nat} (items : List Json)
    (h : Json.depthItems items ≤ stack) :
    text.dumpItemsOn stack items = ExceptT.mk (some (if Json.printableItems items then
      .ok (text.compactItems items) else .error .typeError)) := by
  match items with
  | [] => rfl
  | item :: rest =>
    obtain ⟨hitem, hrest⟩ := Nat.max_le.mp h
    rw [dumpItemsOn, dumpOn_eq item hitem, dumpItemsOn_eq rest hrest, dump, Json.printableItems,
      compactItems]
    cases item.printable <;> cases Json.printableItems rest <;> rfl

private theorem dumpMembersOn_eq {stack : Nat} (members : List (Str × Json))
    (h : Json.depthMembers members ≤ stack) :
    text.dumpMembersOn stack members = ExceptT.mk (some
      (if Json.printableMembers members then .ok (text.compactMembers members)
        else .error .typeError)) := by
  match members with
  | [] => rfl
  | (key, value) :: rest =>
    obtain ⟨hvalue, hrest⟩ := Nat.max_le.mp h
    rw [dumpMembersOn, writeString_eq, dumpOn_eq value hvalue, dumpMembersOn_eq rest hrest, dump,
      Json.printableMembers, compactMembers]
    cases isUtf8 key <;> cases value.printable <;> cases Json.printableMembers rest <;> rfl

end

mutual

theorem dumpOn_overflow {stack : Nat} (j : Json) (hj : j.printable = true)
    (h : stack < j.depth) : text.dumpOn stack j = overflow := by
  match stack, j with
  | 0, j => rw [dumpOn]
  | _ + 1, .null => exact absurd h (by simp [Json.depth])
  | _ + 1, .boolean _ => exact absurd h (by simp [Json.depth])
  | _ + 1, .integer _ => exact absurd h (by simp [Json.depth])
  | _ + 1, .float _ => exact absurd h (by simp [Json.depth])
  | _ + 1, .string _ => exact absurd h (by simp [Json.depth])
  | _ + 1, .array [] => exact absurd h (by simp [Json.depth, Json.depthItems])
  | stack + 1, .array (item :: rest) =>
    obtain ⟨hitem, hrest⟩ : item.printable = true ∧ Json.printableItems rest = true := by
      simpa [Json.printable, Json.printableItems] using hj
    rw [dumpOn]
    by_cases hroom : item.depth ≤ stack
    · have hdeep : stack < Json.depthItems rest :=
        (lt_max_iff.mp (Nat.lt_of_succ_lt_succ h)).resolve_left hroom.not_gt
      rw [dumpOn_eq item hroom, dumpItemsOn_overflow rest hrest hdeep, dump, if_pos hitem]
      rfl
    · rw [dumpOn_overflow item hitem (Nat.lt_of_not_le hroom)]
      rfl
  | _ + 1, .object [] => exact absurd h (by simp [Json.depth, Json.depthMembers])
  | stack + 1, .object ((key, value) :: rest) =>
    obtain ⟨⟨hkey, hvalue⟩, hrest⟩ : (isUtf8 key = true ∧ value.printable = true) ∧
        Json.printableMembers rest = true := by
      simpa [Json.printable, Json.printableMembers] using hj
    rw [dumpOn, writeString_eq, if_pos hkey]
    by_cases hroom : value.depth ≤ stack
    · have hdeep : stack < Json.depthMembers rest :=
        (lt_max_iff.mp (Nat.lt_of_succ_lt_succ h)).resolve_left hroom.not_gt
      rw [dumpOn_eq value hroom, dumpMembersOn_overflow rest hrest hdeep, dump, if_pos hvalue]
      rfl
    · rw [dumpOn_overflow value hvalue (Nat.lt_of_not_le hroom)]
      rfl

private theorem dumpItemsOn_overflow {stack : Nat} (items : List Json)
    (hitems : Json.printableItems items = true) (h : stack < Json.depthItems items) :
    text.dumpItemsOn stack items = overflow := by
  match items with
  | [] => exact absurd h (Nat.not_lt_zero _)
  | item :: rest =>
    obtain ⟨hitem, hrest⟩ : item.printable = true ∧ Json.printableItems rest = true := by
      simpa [Json.printableItems] using hitems
    rw [dumpItemsOn]
    by_cases hroom : item.depth ≤ stack
    · have hdeep := (lt_max_iff.mp h).resolve_left hroom.not_gt
      rw [dumpOn_eq item hroom, dumpItemsOn_overflow rest hrest hdeep, dump, if_pos hitem]
      rfl
    · rw [dumpOn_overflow item hitem (Nat.lt_of_not_le hroom)]
      rfl

private theorem dumpMembersOn_overflow {stack : Nat} (members : List (Str × Json))
    (hmembers : Json.printableMembers members = true) (h : stack < Json.depthMembers members) :
    text.dumpMembersOn stack members = overflow := by
  match members with
  | [] => exact absurd h (Nat.not_lt_zero _)
  | (key, value) :: rest =>
    obtain ⟨⟨hkey, hvalue⟩, hrest⟩ : (isUtf8 key = true ∧ value.printable = true) ∧
        Json.printableMembers rest = true := by
      simpa [Json.printableMembers] using hmembers
    rw [dumpMembersOn, writeString_eq, if_pos hkey]
    by_cases hroom : value.depth ≤ stack
    · have hdeep := (lt_max_iff.mp h).resolve_left hroom.not_gt
      rw [dumpOn_eq value hroom, dumpMembersOn_overflow rest hrest hdeep, dump, if_pos hvalue]
      rfl
    · rw [dumpOn_overflow value hvalue (Nat.lt_of_not_le hroom)]
      rfl

end

end

end SdvGateway.Common.JsonText

namespace SdvGateway.Common.JsonLexer

private theorem tokens_length (strtod : Str → Double) (input : Str) :
    (tokens strtod input).length ≤ input.length + 1 := by
  fun_induction tokens strtod input with
  | case1 input _ => simp
  | case2 input hlast ih =>
    have hshorter := scan_length strtod input (Bool.eq_false_iff.mpr hlast)
    rw [List.length_cons]
    omega

theorem lex_length (strtod : Str → Double) (input : Str) :
    (lex strtod input).length ≤ input.length + 1 := by
  unfold lex
  split
  · next rest hskip =>
    have hrest : rest.length ≤ input.length := by
      unfold skipBom at hskip
      split at hskip
      · split at hskip
        · cases hskip
          simp only [List.length_cons]
          omega
        · cases hskip
      · cases hskip
        exact le_rfl
    exact (tokens_length strtod rest).trans (by omega)
  · simp

end SdvGateway.Common.JsonLexer

namespace SdvGateway.Common.JsonParser
open JsonLexer

theorem depthItems_append (items more : List Json) :
    Json.depthItems (items ++ more) = max (Json.depthItems items) (Json.depthItems more) := by
  induction items with
  | nil => simp [Json.depthItems]
  | cons item rest ih => rw [List.cons_append, Json.depthItems, Json.depthItems, ih, max_assoc]

theorem depthMembers_assign (key : Str) (value : Json) (members : List (Str × Json)) :
    Json.depthMembers (assign key value members) ≤
      max value.depth (Json.depthMembers members) := by
  induction members with
  | nil => simp [assign, Json.depthMembers]
  | cons member rest ih =>
    rw [assign]
    split_ifs
    · exact le_rfl
    · simp only [Json.depthMembers]
      omega
    · simp only [Json.depthMembers]
      omega

def Frame.depth : Frame → Nat
  | .array items => Json.depthItems items + 1
  | .object members _ => Json.depthMembers members + 1

/-- How deep the root has become, the innermost container standing first. -/
def rootDepth : List Frame → Nat
  | [] => 0
  | frame :: frames => max (frame.depth + frames.length) (rootDepth frames)

def State.rootDepth : State → Nat
  | .value frames => JsonParser.rootDepth frames
  | .firstItem frames => JsonParser.rootDepth (.array [] :: frames)
  | .afterItem frames items => JsonParser.rootDepth (.array items :: frames)
  | .firstKey frames => JsonParser.rootDepth (.object [] [] :: frames)
  | .nextKey frames members => JsonParser.rootDepth (.object members [] :: frames)
  | .separator frames members key => JsonParser.rootDepth (.object members key :: frames)
  | .afterMember frames members => JsonParser.rootDepth (.object members [] :: frames)
  | .done root => root.depth

private theorem length_le_rootDepth (frames : List Frame) : frames.length ≤ rootDepth frames := by
  cases frames with
  | nil => exact le_rfl
  | cons frame frames =>
    refine le_max_of_le_left ?_
    cases frame <;> simp only [Frame.depth, List.length_cons] <;> omega

theorem deliver_rootDepth (value : Json) (frames : List Frame) :
    (deliver value frames).rootDepth ≤ max (value.depth + frames.length) (rootDepth frames) := by
  match frames with
  | [] => exact le_max_left _ _
  | .array items :: frames =>
    simp only [deliver, State.rootDepth, rootDepth, Frame.depth, depthItems_append,
      Json.depthItems, List.length_cons]
    omega
  | .object members key :: frames =>
    have hassign := depthMembers_assign key value members
    simp only [deliver, State.rootDepth, rootDepth, Frame.depth, List.length_cons]
    omega

private theorem readValue_rootDepth {frames : List Frame} {token : Token} {after : State}
    (h : readValue frames token = .ok after) : after.rootDepth ≤ rootDepth frames + 1 := by
  have hframes := length_le_rootDepth frames
  have hscalar {value : Json} (hdepth : value.depth = 1)
      (hafter : Except.ok (deliver value frames) = (Except.ok after : Except JsonError State)) :
      after.rootDepth ≤ rootDepth frames + 1 := by
    cases hafter
    have hdeliver := deliver_rootDepth value frames
    omega
  cases token with
  | beginArray =>
    cases h
    simp only [State.rootDepth, rootDepth, Frame.depth, Json.depthItems]
    omega
  | beginObject =>
    cases h
    simp only [State.rootDepth, rootDepth, Frame.depth, Json.depthMembers]
    omega
  | valueFloat x =>
    rw [readValue] at h
    split at h
    · exact hscalar rfl h
    · cases h
  | valueString => exact hscalar rfl h
  | valueInteger => exact hscalar rfl h
  | valueUnsigned => exact hscalar rfl h
  | literalTrue => exact hscalar rfl h
  | literalFalse => exact hscalar rfl h
  | literalNull => exact hscalar rfl h
  | _ => cases h

private theorem step_rootDepth {state after : State} {token : Token}
    (h : step state token = .ok after) : after.rootDepth ≤ state.rootDepth + 1 := by
  unfold step at h
  split at h
  · exact readValue_rootDepth h
  · next frames =>
    cases h
    have hdeliver := deliver_rootDepth (.array []) frames
    simp only [State.rootDepth, rootDepth, Frame.depth, Json.depth] at hdeliver ⊢
    omega
  · exact readValue_rootDepth h
  · cases h
    exact Nat.le_succ _
  · next frames items =>
    cases h
    have hdeliver := deliver_rootDepth (.array items) frames
    simp only [State.rootDepth, rootDepth, Frame.depth, Json.depth] at hdeliver ⊢
    omega
  · next frames =>
    cases h
    have hdeliver := deliver_rootDepth (.object []) frames
    simp only [State.rootDepth, rootDepth, Frame.depth, Json.depth] at hdeliver ⊢
    omega
  · cases h
    exact Nat.le_succ _
  · cases h
    exact Nat.le_succ _
  · cases h
    exact Nat.le_succ _
  · cases h
    exact Nat.le_succ _
  · next frames members =>
    cases h
    have hdeliver := deliver_rootDepth (.object members) frames
    simp only [State.rootDepth, rootDepth, Frame.depth, Json.depth] at hdeliver ⊢
    omega
  · cases h
    exact Nat.le_succ _
  · cases h

private theorem run_rootDepth {tokens : List Token} {state after : State}
    (h : tokens.foldlM step state = .ok after) :
    after.rootDepth ≤ state.rootDepth + tokens.length := by
  induction tokens generalizing state with
  | nil =>
    cases h
    exact le_rfl
  | cons token tokens ih =>
    rw [List.foldlM_cons, bind_eq_ok] at h
    obtain ⟨next, hnext, h⟩ := h
    have hstep := step_rootDepth hnext
    have hrun := ih h
    rw [List.length_cons]
    omega

theorem depth_le_of_parse {strtod : Str → Double} {input : Str} {j : Json}
    (h : parse strtod input = .ok j) : j.depth ≤ input.length + 1 := by
  rw [parse, bind_eq_ok] at h
  obtain ⟨state, hrun, hresult⟩ := h
  have hdepth := run_rootDepth hrun
  have hlength := lex_length strtod input
  cases state with
  | done root =>
    cases hresult
    simp only [State.rootDepth, rootDepth] at hdepth
    omega
  | _ => cases hresult

end SdvGateway.Common.JsonParser
