import SdvGateway.Common.Json
import SdvGateway.Common.JsonLexer

/-! Strings through the lexer. Every token that it accepts is UTF-8, and it reads back
what the serializer writes for a UTF-8 string. -/
namespace SdvGateway.Common

theorem isUtf8_iff (s : Str) : isUtf8 s = true ↔ s.foldlM Utf8State.next .start = some .start := by
  rw [isUtf8, beq_iff_eq]

theorem isUtf8_append {s t : Str} (hs : isUtf8 s = true) (ht : isUtf8 t = true) :
    isUtf8 (s ++ t) = true := by
  rw [isUtf8_iff] at hs ht ⊢
  rw [List.foldlM_append, hs]
  exact ht

theorem forall_byte {p : UInt8 → Prop} (h : ∀ n : Fin 256, p (UInt8.ofNat n)) (byte : UInt8) :
    p byte := by
  have hbyte := h ⟨byte.toNat, byte.toNat_lt⟩
  rwa [UInt8.ofNat_toNat] at hbyte

def Utf8State.ranges : Utf8State → List (UInt8 × UInt8)
  | .start => []
  | .one => [(0x80, 0xBF)]
  | .two => [(0x80, 0xBF), (0x80, 0xBF)]
  | .three => [(0x80, 0xBF), (0x80, 0xBF), (0x80, 0xBF)]
  | .afterE0 => [(0xA0, 0xBF), (0x80, 0xBF)]
  | .afterED => [(0x80, 0x9F), (0x80, 0xBF)]
  | .afterF0 => [(0x90, 0xBF), (0x80, 0xBF), (0x80, 0xBF)]
  | .afterF4 => [(0x80, 0x8F), (0x80, 0xBF), (0x80, 0xBF)]

theorem Utf8State.eq_start {state : Utf8State} (h : state.ranges = []) : state = .start := by
  cases state <;> first | rfl | cases h

theorem Utf8State.next_ranges {state : Utf8State} {low high : UInt8} {ranges : List (UInt8 × UInt8)}
    (h : state.ranges = (low, high) :: ranges) :
    0x80 ≤ low ∧ ∃ after : Utf8State, after.ranges = ranges ∧
      ∀ byte, state.next byte = if low ≤ byte ∧ byte ≤ high then some after else none := by
  cases state <;> cases h <;> refine ⟨by decide, ?_⟩
  · exact ⟨.start, rfl, fun _ => rfl⟩
  · exact ⟨.one, rfl, fun _ => rfl⟩
  · exact ⟨.two, rfl, fun _ => rfl⟩
  · exact ⟨.one, rfl, fun _ => rfl⟩
  · exact ⟨.one, rfl, fun _ => rfl⟩
  · exact ⟨.two, rfl, fun _ => rfl⟩
  · exact ⟨.two, rfl, fun _ => rfl⟩

end SdvGateway.Common

namespace SdvGateway.Common.JsonLexer

set_option maxRecDepth 1000 in
theorem followRanges_eq (byte : UInt8) : 0x7F < byte →
    followRanges byte = (Utf8State.start.next byte).map Utf8State.ranges := by
  apply forall_byte (p := fun byte => 0x7F < byte →
    followRanges byte = (Utf8State.start.next byte).map Utf8State.ranges)
  decide

theorem nextByteInRange_utf8 {state : Utf8State} {input bytes rest : Str}
    (h : nextByteInRange state.ranges input = some (bytes, rest)) :
    bytes.foldlM Utf8State.next state = some .start := by
  generalize hranges : state.ranges = ranges at h
  induction ranges generalizing state input bytes with
  | nil =>
    cases h
    rw [Utf8State.eq_start hranges]
    rfl
  | cons range ranges ih =>
    obtain ⟨low, high⟩ := range
    obtain ⟨_, after, hafter, hnext⟩ := Utf8State.next_ranges hranges
    cases input with
    | nil => cases h
    | cons byte input =>
      rw [nextByteInRange] at h
      split at h
      · next hbyte =>
        obtain ⟨⟨following, left⟩, hfollowing, heq⟩ := Option.map_eq_some_iff.mp h
        cases heq
        rw [List.foldlM_cons, hnext, if_pos hbyte]
        exact ih hafter hfollowing
      · cases h

theorem nextByteInRange_of_utf8 {state : Utf8State} {s : Str}
    (h : s.foldlM Utf8State.next state = some .start) :
    ∃ bytes left, s = bytes ++ left ∧ isUtf8 left = true ∧ (∀ byte ∈ bytes, 0x80 ≤ byte) ∧
      ∀ rest, nextByteInRange state.ranges (bytes ++ rest) = some (bytes, rest) := by
  generalize hranges : state.ranges = ranges
  induction ranges generalizing state s with
  | nil =>
    rw [Utf8State.eq_start hranges] at h
    exact ⟨[], s, rfl, (isUtf8_iff s).mpr h, by simp, fun _ => rfl⟩
  | cons range ranges ih =>
    obtain ⟨low, high⟩ := range
    obtain ⟨hlow, after, hafter, hnext⟩ := Utf8State.next_ranges hranges
    cases s with
    | nil =>
      cases h
      cases hranges
    | cons byte s =>
      rw [List.foldlM_cons, hnext] at h
      split at h
      · next hbyte =>
        obtain ⟨bytes, left, rfl, hleft, hbytes, hscan⟩ := ih h hafter
        refine ⟨byte :: bytes, left, rfl, hleft, ?_, fun rest => ?_⟩
        · intro c hc
          rcases List.mem_cons.mp hc with rfl | hc
          · exact UInt8.le_trans hlow hbyte.1
          · exact hbytes c hc
        · rw [List.cons_append, nextByteInRange, if_pos hbyte, hscan]
          rfl
      · cases h

theorem next_tail : ∀ n : Fin 64,
    Utf8State.next .one (UInt8.ofNat (0x80 + n)) = some .start ∧
      Utf8State.next .two (UInt8.ofNat (0x80 + n)) = some .one ∧
      Utf8State.next .three (UInt8.ofNat (0x80 + n)) = some .two := by
  decide

theorem next_lead_two : ∀ n : Fin 32, 2 ≤ n.val →
    Utf8State.next .start (UInt8.ofNat (0xC0 + n)) = some .one := by
  decide

/-- No overlong form and no surrogate has such bytes. -/
theorem next_lead_three : ∀ (m : Fin 16) (n : Fin 64), (m.val = 0 → 32 ≤ n.val) →
    (m.val = 13 → n.val < 32) →
    ([UInt8.ofNat (0xE0 + m), UInt8.ofNat (0x80 + n)] : Str).foldlM Utf8State.next .start =
      some .one := by
  decide

private theorem next_lead_four : ∀ (m : Fin 5) (n : Fin 64), (m.val = 0 → 16 ≤ n.val) →
    (m.val = 4 → n.val < 16) →
    ([UInt8.ofNat (0xF0 + m), UInt8.ofNat (0x80 + n)] : Str).foldlM Utf8State.next .start =
      some .two := by
  decide

theorem next_ascii : ∀ n : Fin 128, Utf8State.next .start (UInt8.ofNat n) = some .start := by
  decide

theorem codepointBytes_utf8 {codepoint : Nat} (hmax : codepoint < 0x110000)
    (hsurrogate : codepoint < 0xD800 ∨ 0xDFFF < codepoint) :
    isUtf8 (codepointBytes codepoint) = true := by
  have htail (n : Nat) := next_tail ⟨n % 0x40, Nat.mod_lt _ (by decide)⟩
  rw [isUtf8_iff]
  unfold codepointBytes
  split_ifs with h1 h2 h3
  · rw [List.foldlM_cons, next_ascii ⟨codepoint, h1⟩]
    rfl
  · rw [List.foldlM_cons, next_lead_two ⟨codepoint / 0x40, by omega⟩ (by simp only; omega),
      Option.bind_eq_bind, Option.bind_some, List.foldlM_cons, (htail codepoint).1]
    rfl
  · have hlead := next_lead_three ⟨codepoint / 0x1000, by omega⟩
      ⟨codepoint / 0x40 % 0x40, by omega⟩ (by simp only; omega) (by simp only; omega)
    show ([_, _] ++ [_] : Str).foldlM Utf8State.next .start = some .start
    rw [List.foldlM_append, hlead, Option.bind_eq_bind, Option.bind_some, List.foldlM_cons,
      (htail codepoint).1]
    rfl
  · have hlead := next_lead_four ⟨codepoint / 0x40000, by omega⟩
      ⟨codepoint / 0x1000 % 0x40, by omega⟩ (by simp only; omega) (by simp only; omega)
    show ([_, _] ++ [_, _] : Str).foldlM Utf8State.next .start = some .start
    rw [List.foldlM_append, hlead, Option.bind_eq_bind, Option.bind_some, List.foldlM_cons,
      (htail (codepoint / 0x40)).2.1, Option.bind_eq_bind, Option.bind_some, List.foldlM_cons,
      (htail codepoint).1]
    rfl

private theorem hexValue_lt {byte : UInt8} {n : Nat} (h : hexValue byte = some n) : n < 16 := by
  simp only [hexValue, UInt8.le_iff_toNat_le] at h
  split_ifs at h with h1 h2 h3 <;> cases h
  · have hle : byte.toNat ≤ 0x39 := h1.2
    omega
  · have hle : byte.toNat ≤ 0x46 := h2.2
    omega
  · have hle : byte.toNat ≤ 0x66 := h3.2
    omega

private theorem getCodepoint_lt {input rest : Str} {codepoint : Nat}
    (h : getCodepoint input = some (codepoint, rest)) : codepoint < 0x10000 := by
  unfold getCodepoint at h
  split at h
  · simp only [Option.bind_eq_bind, Option.bind_eq_some_iff, Option.pure_def, Option.some.injEq,
      Prod.mk.injEq] at h
    obtain ⟨n1, h1, n2, h2, n3, h3, n4, h4, rfl, _⟩ := h
    have h1 := hexValue_lt h1
    have h2 := hexValue_lt h2
    have h3 := hexValue_lt h3
    have h4 := hexValue_lt h4
    omega
  · cases h

private theorem scanUnicode_utf8 {input bytes rest : Str}
    (h : scanUnicode input = some (bytes, rest)) :
    isUtf8 bytes = true := by
  unfold scanUnicode at h
  simp only [Option.bind_eq_bind, Option.bind_eq_some_iff] at h
  obtain ⟨⟨codepoint1, left⟩, hfirst, h⟩ := h
  have hmax := getCodepoint_lt hfirst
  split_ifs at h with hhigh hlow
  · unfold scanLowSurrogate at h
    split at h
    · split at h
      · simp only [Option.bind_eq_bind, Option.bind_eq_some_iff] at h
        obtain ⟨⟨codepoint2, last⟩, _, h⟩ := h
        split at h
        · obtain ⟨rfl, _⟩ := Prod.mk.inj (Option.some.inj h)
          exact codepointBytes_utf8 (by unfold joinSurrogates; omega)
            (by unfold joinSurrogates; omega)
        · cases h
      · cases h
    · cases h
  · cases h
    exact codepointBytes_utf8 (by omega) (by omega)

theorem scanEscape_utf8 {input bytes rest : Str} (h : scanEscape input = some (bytes, rest)) :
    isUtf8 bytes = true := by
  cases input with
  | nil => cases h
  | cons byte input =>
    simp only [scanEscape] at h
    split_ifs at h with hsame
    rotate_right
    · exact scanUnicode_utf8 h
    all_goals cases h
    · rcases hsame with rfl | rfl | rfl <;> decide
    all_goals decide

theorem next_of_ascii {byte : UInt8} (h : byte ≤ 0x7F) :
    Utf8State.start.next byte = some .start := by
  have hnext := next_ascii ⟨byte.toNat, Nat.lt_succ_of_le (UInt8.le_iff_toNat_le.mp h)⟩
  simpa only [UInt8.ofNat_toNat] using hnext

private theorem utf8_of_ascii {byte : UInt8} (h : byte ≤ 0x7F) : isUtf8 [byte] = true := by
  rw [isUtf8_iff, List.foldlM_cons, next_of_ascii h]
  rfl

private theorem scanUnit_utf8 {byte : UInt8} {input bytes rest : Str}
    (h : scanUnit byte input = some (bytes, rest)) : isUtf8 bytes = true := by
  unfold scanUnit at h
  split_ifs at h with hescape hcontrol hplain
  · exact scanEscape_utf8 h
  · cases h
    exact utf8_of_ascii hplain
  · rw [followRanges_eq byte (UInt8.not_le.mp hplain)] at h
    cases hnext : Utf8State.start.next byte with
    | none =>
      rw [hnext] at h
      cases h
    | some state =>
      rw [hnext] at h
      obtain ⟨⟨following, left⟩, hfollowing, heq⟩ := Option.map_eq_some_iff.mp h
      cases heq
      rw [isUtf8_iff, List.foldlM_cons, hnext]
      exact nextByteInRange_utf8 hfollowing

theorem scanString_utf8 {input s rest : Str} (h : scanString input = some (s, rest)) :
    isUtf8 s = true := by
  fun_induction scanString input generalizing s with
  | case1 => cases h
  | case2 left =>
    cases h
    rfl
  | case3 => cases h
  | case4 byte input hquote bytes left hunit ih =>
    obtain ⟨⟨following, last⟩, hscan, heq⟩ := Option.map_eq_some_iff.mp h
    cases heq
    exact isUtf8_append (scanUnit_utf8 hunit) (ih hscan)

theorem isUtf8_cons {byte : UInt8} {s : Str} (h : isUtf8 (byte :: s) = true) :
    ∃ state, Utf8State.start.next byte = some state ∧
      s.foldlM Utf8State.next state = some .start := by
  rw [isUtf8_iff, List.foldlM_cons] at h
  exact Option.bind_eq_some_iff.mp h

set_option maxRecDepth 1000 in
theorem escapeByte_high : ∀ byte : UInt8, 0x80 ≤ byte → escapeByte byte = [byte] := by
  apply forall_byte (p := fun byte => 0x80 ≤ byte → escapeByte byte = [byte])
  decide

theorem flatMap_escapeByte_high {bytes : Str} (h : ∀ byte ∈ bytes, 0x80 ≤ byte) :
    bytes.flatMap escapeByte = bytes := by
  induction bytes with
  | nil => rfl
  | cons byte bytes ih =>
    rw [List.flatMap_cons, escapeByte_high byte (h byte List.mem_cons_self),
      ih fun c hc => h c (List.mem_cons_of_mem _ hc)]
    rfl

set_option maxRecDepth 1000 in
private theorem hexValue_hexDigit : ∀ byte : UInt8, byte ≤ 0x1F →
    hexValue (hexDigit (byte / 16)) = some (byte.toNat / 16) ∧
      hexValue (hexDigit (byte % 16)) = some (byte.toNat % 16) := by
  apply forall_byte (p := fun byte => byte ≤ 0x1F →
    hexValue (hexDigit (byte / 16)) = some (byte.toNat / 16) ∧
      hexValue (hexDigit (byte % 16)) = some (byte.toNat % 16))
  decide

private theorem scanUnicode_control {byte : UInt8} (h : byte ≤ 0x1F) (rest : Str) :
    scanUnicode (0x30 :: 0x30 :: hexDigit (byte / 16) :: hexDigit (byte % 16) :: rest) =
      some ([byte], rest) := by
  obtain ⟨hhigh, hlow⟩ := hexValue_hexDigit byte h
  have hle : byte.toNat ≤ 0x1F := UInt8.le_iff_toNat_le.mp h
  have hzero : hexValue 0x30 = some 0 := by decide
  have hcodepoint : 0 * 0x1000 + 0 * 0x100 + byte.toNat / 16 * 0x10 + byte.toNat % 16 =
      byte.toNat := by omega
  rw [scanUnicode, getCodepoint, hzero, hhigh, hlow]
  simp only [Option.bind_eq_bind, Option.bind_some, Option.pure_def, hcodepoint]
  rw [if_neg (by omega), if_neg (by omega), codepointBytes, if_pos (by omega), UInt8.ofNat_toNat]

theorem scanUnit_escapeByte {byte : UInt8} (h : byte ≤ 0x7F) :
    ∃ first following, escapeByte byte = first :: following ∧ first ≠ 0x22 ∧
      ∀ rest, scanUnit first (following ++ rest) = some ([byte], rest) := by
  have hslash : (0x5C : UInt8) ≠ 0x22 := by decide
  unfold escapeByte
  split_ifs with h1 h2 h3 h4 h5 h6 h7 h8
  rotate_right 2
  · exact ⟨_, _, rfl, hslash, fun rest => scanUnicode_control h8 rest⟩
  · refine ⟨_, _, rfl, h6, fun rest => ?_⟩
    rw [scanUnit, if_neg h7, if_neg h8, if_pos h]
    rfl
  all_goals
    subst byte
    exact ⟨_, _, rfl, hslash, fun rest => rfl⟩

theorem scanString_unit {byte : UInt8} {input bytes left : Str} (hquote : byte ≠ 0x22)
    (hunit : scanUnit byte input = some (bytes, left)) :
    scanString (byte :: input) =
      (scanString left).map fun (following, last) => (bytes ++ following, last) := by
  rw [scanString, if_neg hquote]
  split
  · next hnone =>
    rw [hunit] at hnone
    cases hnone
  · next hsome =>
    rw [hunit] at hsome
    cases hsome
    rfl

set_option maxRecDepth 1000 in
private theorem not_ascii : ∀ byte : UInt8, ¬ byte ≤ 0x7F →
    byte ≠ 0x22 ∧ byte ≠ 0x5C ∧ ¬ byte ≤ 0x1F ∧ 0x80 ≤ byte := by
  apply forall_byte (p := fun byte => ¬ byte ≤ 0x7F →
    byte ≠ 0x22 ∧ byte ≠ 0x5C ∧ ¬ byte ≤ 0x1F ∧ 0x80 ≤ byte)
  decide

theorem scanString_escaped {s : Str} (h : isUtf8 s = true) (rest : Str) :
    scanString (s.flatMap escapeByte ++ 0x22 :: rest) = some (s, rest) := by
  induction hlength : s.length using Nat.strong_induction_on generalizing s with
  | h n ih =>
    cases s with
    | nil => rw [List.flatMap_nil, List.nil_append, scanString, if_pos rfl]
    | cons byte s =>
      obtain ⟨state, hnext, hs⟩ := isUtf8_cons h
      rw [List.length_cons] at hlength
      rw [List.flatMap_cons, List.append_assoc]
      by_cases hascii : byte ≤ 0x7F
      · obtain ⟨first, following, hescape, hquote, hunit⟩ := scanUnit_escapeByte hascii
        rw [next_of_ascii hascii] at hnext
        cases hnext
        have hrest := ih s.length (by omega) ((isUtf8_iff s).mpr hs) rfl
        rw [hescape, List.cons_append, scanString_unit hquote (hunit _), hrest]
        rfl
      · obtain ⟨hquote, hslash, hcontrol, hhigh⟩ := not_ascii byte hascii
        obtain ⟨bytes, left, rfl, hleft, hbytes, hscan⟩ := nextByteInRange_of_utf8 hs
        rw [List.length_append] at hlength
        have hrest := ih left.length (by omega) hleft rfl
        have hranges : followRanges byte = some state.ranges := by
          rw [followRanges_eq byte (UInt8.not_le.mp hascii), hnext]
          rfl
        have hunit (input : Str) :
            scanUnit byte (bytes ++ input) = some (byte :: bytes, input) := by
          rw [scanUnit, if_neg hslash, if_neg hcontrol, if_neg hascii, hranges]
          simp only [hscan, Option.map_some]
        rw [escapeByte_high byte hhigh, List.flatMap_append, flatMap_escapeByte_high hbytes,
          List.singleton_append, List.append_assoc, scanString_unit hquote (hunit _), hrest]
        rfl

end SdvGateway.Common.JsonLexer
