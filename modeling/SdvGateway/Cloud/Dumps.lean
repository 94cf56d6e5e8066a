import SdvGateway.Cloud.Python
import SdvGateway.Common.JsonRoundTrip

/-! `json.dumps` with its defaults: ASCII only, `", "` between items and `": "` after a
key. The gateway's parser reads its texts back. -/
namespace SdvGateway.Cloud.Dumps
open Common JsonLexer JsonParser

def codepoints : Str → List Nat
  | [] => []
  | b0 :: s =>
    if b0 < 0x80 then b0.toNat :: codepoints s
    else
      match s with
      | [] => []
      | b1 :: s =>
        if b0 < 0xE0 then ((b0.toNat - 0xC0) * 0x40 + (b1.toNat - 0x80)) :: codepoints s
        else
          match s with
          | [] => []
          | b2 :: s =>
            if b0 < 0xF0 then
              ((b0.toNat - 0xE0) * 0x1000 + (b1.toNat - 0x80) * 0x40 + (b2.toNat - 0x80)) ::
                codepoints s
            else
              match s with
              | [] => []
              | b3 :: s =>
                ((b0.toNat - 0xF0) * 0x40000 + (b1.toNat - 0x80) * 0x1000 +
                  (b2.toNat - 0x80) * 0x40 + (b3.toNat - 0x80)) :: codepoints s

/-- `'\\u{0:04x}'.format(n)` -/
def unicodeEscape (n : Nat) : Str :=
  let digit (d : Nat) : UInt8 := hexDigit (UInt8.ofNat d)
  [0x5C, 0x75, digit (n / 0x1000), digit (n / 0x100 % 16), digit (n / 0x10 % 16), digit (n % 16)]

/-- `ESCAPE_DCT`, and `\u` escapes for everything that is not printable ASCII. -/
def escapeCodepoint (n : Nat) : Str :=
  if n = 0x22 then [0x5C, 0x22]
  else if n = 0x5C then [0x5C, 0x5C]
  else if n = 0x08 then [0x5C, 0x62]
  else if n = 0x0C then [0x5C, 0x66]
  else if n = 0x0A then [0x5C, 0x6E]
  else if n = 0x0D then [0x5C, 0x72]
  else if n = 0x09 then [0x5C, 0x74]
  else if 0x20 ≤ n ∧ n ≤ 0x7E then [UInt8.ofNat n]
  else if n < 0x10000 then unicodeEscape n
  else
    unicodeEscape (0xD800 + (n - 0x10000) / 0x400) ++ unicodeEscape (0xDC00 + (n - 0x10000) % 0x400)

def encodeString (s : Str) : Str := 0x22 :: (codepoints s).flatMap escapeCodepoint ++ [0x22]

mutual

def dumps (floats : FloatText) : Json → Str
  | .null => lit "null"
  | .boolean true => lit "true"
  | .boolean false => lit "false"
  | .integer n => intText n
  | .float x => floats.floatText x
  | .string s => encodeString s
  | .array [] => lit "[]"
  | .array (item :: rest) => 0x5B :: dumps floats item ++ dumpsItems floats rest
  | .object [] => [0x7B, 0x7D]
  | .object ((key, value) :: rest) =>
    0x7B :: encodeString key ++ 0x3A :: 0x20 :: dumps floats value ++ dumpsMembers floats rest

def dumpsItems (floats : FloatText) : List Json → Str
  | [] => [0x5D]
  | item :: rest => 0x2C :: 0x20 :: dumps floats item ++ dumpsItems floats rest

def dumpsMembers (floats : FloatText) : List (Str × Json) → Str
  | [] => [0x7D]
  | (key, value) :: rest =>
    0x2C :: 0x20 :: encodeString key ++ 0x3A :: 0x20 :: dumps floats value ++
      dumpsMembers floats rest

end

private theorem hexValue_digit :
    ∀ d : Fin 16, hexValue (hexDigit (UInt8.ofNat d)) = some d.val := by
  decide

theorem getCodepoint_digits {n : Nat} (h : n < 0x10000) (rest : Str) :
    getCodepoint ((unicodeEscape n).drop 2 ++ rest) = some (n, rest) := by
  have hdigit (d : Nat) (hd : d < 16) := hexValue_digit ⟨d, hd⟩
  have hsum : n / 0x1000 * 0x1000 + n / 0x100 % 16 * 0x100 + n / 0x10 % 16 * 0x10 + n % 16 = n := by
    omega
  simp only [unicodeEscape, List.drop_succ_cons, List.drop_zero, List.cons_append, List.nil_append,
    getCodepoint]
  rw [hdigit _ (by omega), hdigit _ (by omega), hdigit _ (by omega), hdigit _ (by omega)]
  simp only [Option.bind_eq_bind, Option.bind_some, Option.pure_def, hsum]

def IsScalar (n : Nat) : Prop := n < 0x110000 ∧ (n < 0xD800 ∨ 0xDFFF < n)

theorem scanUnicode_digits {n : Nat} (h : IsScalar n) (hsmall : n < 0x10000) (rest : Str) :
    scanUnicode ((unicodeEscape n).drop 2 ++ rest) = some (codepointBytes n, rest) := by
  have hscalar := h.2
  rw [scanUnicode, getCodepoint_digits hsmall]
  simp only [Option.bind_eq_bind, Option.bind_some]
  rw [if_neg (by omega), if_neg (by omega)]

theorem joinSurrogates_split {n : Nat} (h : 0x10000 ≤ n) :
    joinSurrogates (0xD800 + (n - 0x10000) / 0x400) (0xDC00 + (n - 0x10000) % 0x400) = n := by
  unfold joinSurrogates
  omega

private theorem scanLowSurrogate_escape {high low : Nat} (hmin : 0xDC00 ≤ low) (hmax : low ≤ 0xDFFF)
    (rest : Str) :
    scanLowSurrogate high (unicodeEscape low ++ rest) =
      some (codepointBytes (joinSurrogates high low), rest) := by
  have hescape : unicodeEscape low = 0x5C :: 0x75 :: (unicodeEscape low).drop 2 := rfl
  have hlow : low < 0x10000 := Nat.lt_of_le_of_lt hmax (by decide)
  rw [hescape, List.cons_append, List.cons_append, scanLowSurrogate, if_pos ⟨rfl, rfl⟩,
    getCodepoint_digits hlow]
  simp only [Option.bind_eq_bind, Option.bind_some, if_pos (And.intro hmin hmax)]

private theorem scanUnicode_pair {high low : Nat} (hhigh : 0xD800 ≤ high) (hhighMax : high ≤ 0xDBFF)
    (hlow : 0xDC00 ≤ low) (hlowMax : low ≤ 0xDFFF) (rest : Str) :
    scanUnicode ((unicodeEscape high).drop 2 ++ (unicodeEscape low ++ rest)) =
      some (codepointBytes (joinSurrogates high low), rest) := by
  have hfirst : high < 0x10000 := Nat.lt_of_le_of_lt hhighMax (by decide)
  rw [scanUnicode, getCodepoint_digits hfirst]
  simp only [Option.bind_eq_bind, Option.bind_some, if_pos (And.intro hhigh hhighMax)]
  exact scanLowSurrogate_escape hlow hlowMax rest

private theorem printable_ascii : ∀ n : Fin 0x7F, 0x20 ≤ n.val → n.val ≠ 0x22 → n.val ≠ 0x5C →
    UInt8.ofNat n ≠ 0x22 ∧ UInt8.ofNat n ≠ 0x5C ∧ ¬UInt8.ofNat n ≤ 0x1F ∧
      UInt8.ofNat n ≤ 0x7F := by
  decide

theorem scanUnit_escapeCodepoint {n : Nat} (h : IsScalar n) :
    ∃ first following, escapeCodepoint n = first :: following ∧ first ≠ 0x22 ∧
      ∀ rest, scanUnit first (following ++ rest) = some (codepointBytes n, rest) := by
  have hslash : (0x5C : UInt8) ≠ 0x22 := by decide
  have hmax := h.1
  unfold escapeCodepoint
  split_ifs with h1 h2 h3 h4 h5 h6 h7 h8 h9
  rotate_right 3
  · obtain ⟨hquote, hbackslash, hcontrol, hascii⟩ :=
      printable_ascii ⟨n, by omega⟩ h8.1 h1 h2
    refine ⟨_, _, rfl, hquote, fun rest => ?_⟩
    rw [scanUnit, if_neg hbackslash, if_neg hcontrol, if_pos hascii, codepointBytes,
      if_pos (by omega)]
    rfl
  · exact ⟨_, _, rfl, hslash, fun rest => scanUnicode_digits h h9 rest⟩
  · have hlarge : 0x10000 ≤ n := by omega
    have hjoin := joinSurrogates_split hlarge
    have hhigh : 0xD800 ≤ 0xD800 + (n - 0x10000) / 0x400 ∧
        0xD800 + (n - 0x10000) / 0x400 ≤ 0xDBFF := by omega
    have hlow : 0xDC00 ≤ 0xDC00 + (n - 0x10000) % 0x400 ∧
        0xDC00 + (n - 0x10000) % 0x400 ≤ 0xDFFF := by omega
    generalize 0xD800 + (n - 0x10000) / 0x400 = high at hjoin hhigh ⊢
    generalize 0xDC00 + (n - 0x10000) % 0x400 = low at hjoin hlow ⊢
    have hpair := scanUnicode_pair hhigh.1 hhigh.2 hlow.1 hlow.2
    rw [hjoin] at hpair
    exact ⟨_, _, rfl, hslash, fun rest => hpair rest⟩
  all_goals
    subst n
    exact ⟨_, _, rfl, hslash, fun rest => rfl⟩

theorem uncons_ranges {state : Utf8State} {low high : UInt8} {ranges : List (UInt8 × UInt8)}
    {s : Str} (hranges : state.ranges = (low, high) :: ranges)
    (h : s.foldlM Utf8State.next state = some .start) :
    ∃ byte rest after, s = byte :: rest ∧ low.toNat ≤ byte.toNat ∧ byte.toNat ≤ high.toNat ∧
      Utf8State.ranges after = ranges ∧ rest.foldlM Utf8State.next after = some .start := by
  obtain ⟨_, after, hafter, hnext⟩ := Utf8State.next_ranges hranges
  cases s with
  | nil =>
    cases h
    cases hranges
  | cons byte rest =>
    rw [List.foldlM_cons, hnext] at h
    split at h
    · next hbyte =>
      exact ⟨byte, rest, after, rfl, UInt8.le_iff_toNat_le.mp hbyte.1,
        UInt8.le_iff_toNat_le.mp hbyte.2, hafter, h⟩
    · cases h

def FirstChar (s left : Str) : Prop :=
  ∃ n bytes, s = bytes ++ left ∧ IsScalar n ∧ codepoints s = n :: codepoints left ∧
    codepointBytes n = bytes

theorem firstChar_two {b0 b1 : UInt8} {left : Str} (h0 : 0xC2 ≤ b0.toNat ∧ b0.toNat ≤ 0xDF)
    (h1 : 0x80 ≤ b1.toNat ∧ b1.toNat ≤ 0xBF) : FirstChar (b0 :: b1 :: left) left := by
  have hlead : ¬b0 < 0x80 ∧ b0 < 0xE0 := by
    rw [UInt8.lt_iff_toNat_lt, UInt8.lt_iff_toNat_lt]
    show ¬b0.toNat < 0x80 ∧ b0.toNat < 0xE0
    omega
  refine ⟨_, [b0, b1], rfl, ?_,
    by rw [codepoints.eq_def]; exact (if_neg hlead.1).trans (if_pos hlead.2), ?_⟩
  · unfold IsScalar
    omega
  · generalize hn : (b0.toNat - 0xC0) * 0x40 + (b1.toNat - 0x80) = n
    have hb0 : 0xC0 + n / 0x40 = b0.toNat := by omega
    have hb1 : 0x80 + n % 0x40 = b1.toNat := by omega
    rw [codepointBytes, if_neg (by omega), if_pos (by omega), hb0, hb1, UInt8.ofNat_toNat,
      UInt8.ofNat_toNat]

theorem firstChar_three {b0 b1 b2 : UInt8} {left : Str} (h0 : 0xE0 ≤ b0.toNat ∧ b0.toNat ≤ 0xEF)
    (h1 : 0x80 ≤ b1.toNat ∧ b1.toNat ≤ 0xBF) (h2 : 0x80 ≤ b2.toNat ∧ b2.toNat ≤ 0xBF)
    (hlong : b0.toNat = 0xE0 → 0xA0 ≤ b1.toNat) (hsurrogate : b0.toNat = 0xED → b1.toNat ≤ 0x9F) :
    FirstChar (b0 :: b1 :: b2 :: left) left := by
  have hlead : ¬b0 < 0x80 ∧ ¬b0 < 0xE0 ∧ b0 < 0xF0 := by
    rw [UInt8.lt_iff_toNat_lt, UInt8.lt_iff_toNat_lt, UInt8.lt_iff_toNat_lt]
    show ¬b0.toNat < 0x80 ∧ ¬b0.toNat < 0xE0 ∧ b0.toNat < 0xF0
    omega
  refine ⟨_, [b0, b1, b2], rfl, ?_,
    by
      rw [codepoints.eq_def]
      exact (if_neg hlead.1).trans ((if_neg hlead.2.1).trans (if_pos hlead.2.2)), ?_⟩
  · unfold IsScalar
    omega
  · generalize hn : (b0.toNat - 0xE0) * 0x1000 + (b1.toNat - 0x80) * 0x40 + (b2.toNat - 0x80) = n
    have hb0 : 0xE0 + n / 0x1000 = b0.toNat := by omega
    have hb1 : 0x80 + n / 0x40 % 0x40 = b1.toNat := by omega
    have hb2 : 0x80 + n % 0x40 = b2.toNat := by omega
    rw [codepointBytes, if_neg (by omega), if_neg (by omega), if_pos (by omega), hb0, hb1, hb2]
    simp only [UInt8.ofNat_toNat]

theorem firstChar_four {b0 b1 b2 b3 : UInt8} {left : Str}
    (h0 : 0xF0 ≤ b0.toNat ∧ b0.toNat ≤ 0xF4) (h1 : 0x80 ≤ b1.toNat ∧ b1.toNat ≤ 0xBF)
    (h2 : 0x80 ≤ b2.toNat ∧ b2.toNat ≤ 0xBF) (h3 : 0x80 ≤ b3.toNat ∧ b3.toNat ≤ 0xBF)
    (hlong : b0.toNat = 0xF0 → 0x90 ≤ b1.toNat) (hmax : b0.toNat = 0xF4 → b1.toNat ≤ 0x8F) :
    FirstChar (b0 :: b1 :: b2 :: b3 :: left) left := by
  have hlead : ¬b0 < 0x80 ∧ ¬b0 < 0xE0 ∧ ¬b0 < 0xF0 := by
    rw [UInt8.lt_iff_toNat_lt, UInt8.lt_iff_toNat_lt, UInt8.lt_iff_toNat_lt]
    show ¬b0.toNat < 0x80 ∧ ¬b0.toNat < 0xE0 ∧ ¬b0.toNat < 0xF0
    omega
  refine ⟨_, [b0, b1, b2, b3], rfl, ?_,
    by
      rw [codepoints.eq_def]
      exact (if_neg hlead.1).trans ((if_neg hlead.2.1).trans (if_neg hlead.2.2)), ?_⟩
  · unfold IsScalar
    omega
  · generalize hn : (b0.toNat - 0xF0) * 0x40000 + (b1.toNat - 0x80) * 0x1000 +
      (b2.toNat - 0x80) * 0x40 + (b3.toNat - 0x80) = n
    have hb0 : 0xF0 + n / 0x40000 = b0.toNat := by omega
    have hb1 : 0x80 + n / 0x1000 % 0x40 = b1.toNat := by omega
    have hb2 : 0x80 + n / 0x40 % 0x40 = b2.toNat := by omega
    have hb3 : 0x80 + n % 0x40 = b3.toNat := by omega
    rw [codepointBytes, if_neg (by omega), if_neg (by omega), if_neg (by omega), hb0, hb1, hb2, hb3]
    simp only [UInt8.ofNat_toNat]

theorem firstChar_ascii {byte : UInt8} (h : byte ≤ 0x7F) (left : Str) :
    FirstChar (byte :: left) left := by
  have hle : byte.toNat ≤ 0x7F := UInt8.le_iff_toNat_le.mp h
  have hlt : byte < 0x80 := UInt8.lt_iff_toNat_lt.mpr (Nat.lt_succ_of_le hle)
  refine ⟨byte.toNat, [byte], rfl, ?_, by rw [codepoints.eq_def]; exact if_pos hlt, ?_⟩
  · unfold IsScalar
    omega
  · rw [codepointBytes, if_pos (Nat.lt_succ_of_le hle), UInt8.ofNat_toNat]

section
variable {byte : UInt8} {s : Str} {state : Utf8State}
  (hs : s.foldlM Utf8State.next state = some .start)
include hs

theorem utf8_two (hranges : state.ranges = [(0x80, 0xBF)])
    (hlead : 0xC2 ≤ byte.toNat ∧ byte.toNat ≤ 0xDF) :
    ∃ left, FirstChar (byte :: s) left ∧ isUtf8 left = true ∧ left.length ≤ s.length := by
  obtain ⟨b1, left, after, rfl, hlow, hhigh, hafter, hleft⟩ := uncons_ranges hranges hs
  rw [Utf8State.eq_start hafter] at hleft
  exact ⟨left, firstChar_two hlead ⟨hlow, hhigh⟩, (isUtf8_iff _).mpr hleft, Nat.le_succ _⟩

private theorem utf8_three {low high : UInt8} (hranges : state.ranges = [(low, high), (0x80, 0xBF)])
    (hbounds : 0x80 ≤ low.toNat ∧ high.toNat ≤ 0xBF)
    (hlead : 0xE0 ≤ byte.toNat ∧ byte.toNat ≤ 0xEF)
    (hlong : byte.toNat = 0xE0 → 0xA0 ≤ low.toNat)
    (hsurrogate : byte.toNat = 0xED → high.toNat ≤ 0x9F) :
    ∃ left, FirstChar (byte :: s) left ∧ isUtf8 left = true ∧ left.length ≤ s.length := by
  obtain ⟨b1, s, after1, rfl, hlow, hhigh, hafter1, hs⟩ := uncons_ranges hranges hs
  obtain ⟨b2, left, after2, rfl, hlow2, hhigh2, hafter2, hleft⟩ := uncons_ranges hafter1 hs
  rw [Utf8State.eq_start hafter2] at hleft
  refine ⟨left, firstChar_three hlead ⟨by omega, by omega⟩ ⟨hlow2, hhigh2⟩ ?_ ?_,
    (isUtf8_iff _).mpr hleft, by simp only [List.length_cons]; omega⟩
  · exact fun h => (hlong h).trans hlow
  · exact fun h => hhigh.trans (hsurrogate h)

private theorem utf8_four {low high : UInt8}
    (hranges : state.ranges = [(low, high), (0x80, 0xBF), (0x80, 0xBF)])
    (hbounds : 0x80 ≤ low.toNat ∧ high.toNat ≤ 0xBF)
    (hlead : 0xF0 ≤ byte.toNat ∧ byte.toNat ≤ 0xF4)
    (hlong : byte.toNat = 0xF0 → 0x90 ≤ low.toNat)
    (hmax : byte.toNat = 0xF4 → high.toNat ≤ 0x8F) :
    ∃ left, FirstChar (byte :: s) left ∧ isUtf8 left = true ∧ left.length ≤ s.length := by
  obtain ⟨b1, s, after1, rfl, hlow, hhigh, hafter1, hs⟩ := uncons_ranges hranges hs
  obtain ⟨b2, s, after2, rfl, hlow2, hhigh2, hafter2, hs⟩ := uncons_ranges hafter1 hs
  obtain ⟨b3, left, after3, rfl, hlow3, hhigh3, hafter3, hleft⟩ := uncons_ranges hafter2 hs
  rw [Utf8State.eq_start hafter3] at hleft
  refine ⟨left, firstChar_four hlead ⟨by omega, by omega⟩ ⟨hlow2, hhigh2⟩ ⟨hlow3, hhigh3⟩ ?_ ?_,
    (isUtf8_iff _).mpr hleft, by simp only [List.length_cons]; omega⟩
  · exact fun h => (hlong h).trans hlow
  · exact fun h => hhigh.trans (hmax h)

end

private theorem firstChar_of_utf8 {byte : UInt8} {s : Str} (h : isUtf8 (byte :: s) = true) :
    ∃ left, FirstChar (byte :: s) left ∧ isUtf8 left = true ∧ left.length ≤ s.length := by
  obtain ⟨state, hnext, hs⟩ := isUtf8_cons h
  by_cases hascii : byte ≤ 0x7F
  · rw [next_of_ascii hascii] at hnext
    cases hnext
    exact ⟨s, firstChar_ascii hascii s, (isUtf8_iff s).mpr hs, le_rfl⟩
  · have hranges : followRanges byte = some state.ranges := by
      rw [followRanges_eq byte (UInt8.not_le.mp hascii), hnext]
      rfl
    simp only [followRanges, UInt8.le_iff_toNat_le, ← UInt8.toNat_inj, UInt8.reduceToNat]
      at hranges
    split_ifs at hranges with h1 h2 h3 h4 h5 h6 h7
    · exact utf8_two hs (Option.some.inj hranges).symm h1
    · exact utf8_three hs (Option.some.inj hranges).symm (by decide) ⟨by omega, by omega⟩
        (fun _ => by decide) (fun _ => by omega)
    · exact utf8_three hs (Option.some.inj hranges).symm (by decide) ⟨by omega, by omega⟩
        (fun _ => by omega) (fun _ => by omega)
    · exact utf8_three hs (Option.some.inj hranges).symm (by decide) ⟨by omega, by omega⟩
        (fun _ => by omega) (fun _ => by decide)
    · exact utf8_four hs (Option.some.inj hranges).symm (by decide) ⟨by omega, by omega⟩
        (fun _ => by decide) (fun _ => by omega)
    · exact utf8_four hs (Option.some.inj hranges).symm (by decide) ⟨by omega, by omega⟩
        (fun _ => by omega) (fun _ => by omega)
    · exact utf8_four hs (Option.some.inj hranges).symm (by decide) ⟨by omega, by omega⟩
        (fun _ => by omega) (fun _ => by decide)

private theorem codepoints_utf8 {s : Str} (h : isUtf8 s = true) :
    (∀ n ∈ codepoints s, IsScalar n) ∧ (codepoints s).flatMap codepointBytes = s := by
  induction hlength : s.length using Nat.strong_induction_on generalizing s with
  | h k ih =>
    cases s with
    | nil => exact ⟨by simp [codepoints], rfl⟩
    | cons byte s =>
      obtain ⟨left, ⟨n, bytes, heq, hn, hcodepoints, hbytes⟩, hleft, hshort⟩ := firstChar_of_utf8 h
      rw [List.length_cons] at hlength
      obtain ⟨hscalar, hmake⟩ := ih left.length (by omega) hleft rfl
      rw [hcodepoints]
      refine ⟨List.forall_mem_cons.mpr ⟨hn, hscalar⟩, ?_⟩
      rw [List.flatMap_cons, hbytes, hmake, heq]

private theorem scanString_codepoints {chars : List Nat} (h : ∀ n ∈ chars, IsScalar n)
    (rest : Str) : scanString (chars.flatMap escapeCodepoint ++ 0x22 :: rest) =
      some (chars.flatMap codepointBytes, rest) := by
  induction chars with
  | nil => rw [List.flatMap_nil, List.nil_append, scanString, if_pos rfl]; rfl
  | cons n chars ih =>
    obtain ⟨hn, hchars⟩ := List.forall_mem_cons.mp h
    obtain ⟨first, following, hescape, hquote, hunit⟩ := scanUnit_escapeCodepoint hn
    rw [List.flatMap_cons, hescape, List.append_assoc, List.cons_append,
      scanString_unit hquote (hunit _), ih hchars]
    rfl

private theorem scanString_encodeString {s : Str} (h : isUtf8 s = true) (rest : Str) :
    scanString ((codepoints s).flatMap escapeCodepoint ++ 0x22 :: rest) = some (s, rest) := by
  obtain ⟨hscalar, hbytes⟩ := codepoints_utf8 h
  rw [scanString_codepoints hscalar, hbytes]

section
variable {floats : FloatText} {before : Str → Str → Prop}

theorem tokens_encodeString {s : Str} (h : isUtf8 s = true) (rest : Str) :
    tokens floats.strtod (encodeString s ++ rest) =
      .valueString s :: tokens floats.strtod rest := by
  have hencoded : encodeString s ++ rest =
      0x22 :: ((codepoints s).flatMap escapeCodepoint ++ 0x22 :: rest) := by
    simp [encodeString]
  rw [hencoded]
  exact tokens_string (scanString_encodeString h) rest

theorem delimited_items (items : List Json) (rest : Str) :
    Delimited (dumpsItems floats items ++ rest) := by
  cases items with
  | nil => exact delimited_bracket rest
  | cons item items => exact delimited_comma _

theorem delimited_members (members : List (Str × Json)) (rest : Str) :
    Delimited (dumpsMembers floats members ++ rest) := by
  cases members with
  | nil => exact delimited_brace rest
  | cons member members => exact delimited_comma _

mutual

theorem tokens_dumps (j : Json) (hj : j.Stored before) {rest : Str} (hrest : Delimited rest) :
    tokens floats.strtod (dumps floats j ++ rest) = valueTokens j ++ tokens floats.strtod rest := by
  match j with
  | .null => exact tokens_null rest
  | .boolean true => exact tokens_true rest
  | .boolean false => exact tokens_false rest
  | .integer n => exact tokens_int hrest hj.1 hj.2
  | .float x =>
    have hnumber : tokens floats.strtod (floats.floatText x ++ rest) = _ :=
      tokens_number hrest (floats.scans x hj)
    rw [convertNumber, floats.strtod_floatText x hj] at hnumber
    exact hnumber
  | .string s => exact tokens_encodeString hj rest
  | .array [] =>
    have hlit : lit "[]" = [0x5B, 0x5D] := by decide
    rw [dumps, hlit, List.cons_append, tokens_structural rfl rfl rfl, List.cons_append,
      tokens_structural rfl rfl rfl]
    rfl
  | .array (item :: items) =>
    rw [dumps, List.append_assoc, List.cons_append, tokens_structural rfl rfl rfl,
      tokens_dumps item hj.1 (delimited_items items rest), tokens_dumpsItems items hj.2,
      valueTokens, List.cons_append, List.cons_append, List.append_assoc]
  | .object [] =>
    rw [dumps, List.cons_append, tokens_structural rfl rfl rfl, List.cons_append,
      tokens_structural rfl rfl rfl]
    rfl
  | .object ((key, value) :: members) =>
    obtain ⟨_, hkey, hvalue, hmembers⟩ := hj
    have hsplit : dumps floats (.object ((key, value) :: members)) ++ rest =
        0x7B :: (encodeString key ++ 0x3A :: 0x20 :: (dumps floats value ++
          (dumpsMembers floats members ++ rest))) := by
      simp [dumps]
    rw [hsplit, tokens_structural rfl rfl rfl, tokens_encodeString hkey,
      tokens_structural rfl rfl rfl, tokens_space,
      tokens_dumps value hvalue (delimited_members members rest),
      tokens_dumpsMembers members hmembers]
    simp [valueTokens]

private theorem tokens_dumpsItems (items : List Json) (hitems : Json.StoredItems before items)
    (rest : Str) :
    tokens floats.strtod (dumpsItems floats items ++ rest) =
      itemTokens items ++ tokens floats.strtod rest := by
  match items with
  | [] => exact tokens_structural rfl rfl rfl rest
  | item :: items =>
    rw [dumpsItems, List.append_assoc, List.cons_append, tokens_structural rfl rfl rfl,
      List.cons_append, tokens_space, tokens_dumps item hitems.1 (delimited_items items rest),
      tokens_dumpsItems items hitems.2, itemTokens, List.cons_append, List.cons_append,
      List.append_assoc]

private theorem tokens_dumpsMembers (members : List (Str × Json))
    (hmembers : Json.StoredMembers before members) (rest : Str) :
    tokens floats.strtod (dumpsMembers floats members ++ rest) =
      memberTokens members ++ tokens floats.strtod rest := by
  match members with
  | [] => exact tokens_structural rfl rfl rfl rest
  | (key, value) :: members =>
    obtain ⟨hkey, hvalue, hmembers⟩ := hmembers
    have hsplit : dumpsMembers floats ((key, value) :: members) ++ rest =
        0x2C :: 0x20 :: (encodeString key ++ 0x3A :: 0x20 :: (dumps floats value ++
          (dumpsMembers floats members ++ rest))) := by
      simp [dumpsMembers]
    rw [hsplit, tokens_structural rfl rfl rfl, tokens_space, tokens_encodeString hkey,
      tokens_structural rfl rfl rfl, tokens_space,
      tokens_dumps value hvalue (delimited_members members rest),
      tokens_dumpsMembers members hmembers]
    simp [memberTokens]

end

private theorem dumps_head (floats : FloatText) (j : Json) (hj : j.Stored before) :
    ∃ byte rest, dumps floats j = byte :: rest ∧ byte ≠ 0xEF := by
  match j with
  | .string _ => exact ⟨0x22, _, rfl, by decide⟩
  | .object ((_, _) :: _) => exact ⟨0x7B, _, rfl, by decide⟩
  | .array (_ :: _) => exact ⟨0x5B, _, rfl, by decide⟩
  | .float x =>
    have hx : x.isFinite = true := hj
    have hhead := compact_head floats (.float x) hj
    rwa [JsonText.compact, if_pos hx] at hhead
  | .null => exact compact_head floats .null hj
  | .boolean true => exact compact_head floats (.boolean true) hj
  | .boolean false => exact compact_head floats (.boolean false) hj
  | .integer n => exact compact_head floats (.integer n) hj
  | .array [] => exact compact_head floats (.array []) hj
  | .object [] => exact compact_head floats (.object []) hj

theorem parse_dumps (floats : FloatText) {j : Json} (hj : j.Stored before) :
    floats.json.parse (dumps floats j) = .ok j.byKey := by
  obtain ⟨byte, rest, hdumps, hbyte⟩ := dumps_head floats j hj
  have htokens : tokens floats.strtod (dumps floats j ++ []) = _ :=
    tokens_dumps j hj (by rintro _ ⟨⟩)
  rw [List.append_nil, tokens_nil] at htokens
  apply parse_of_tokens hj
  rw [hdumps] at htokens ⊢
  rw [lex_of_head hbyte, htokens]

end

end SdvGateway.Cloud.Dumps
