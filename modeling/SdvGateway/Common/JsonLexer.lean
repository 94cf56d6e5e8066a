import SdvGateway.Common.Convert
import SdvGateway.Common.Types

/-! The lexer of the JSON library. A scan function takes the input from the byte it
reads next and returns what it leaves; `none` is the token `parse_error`. -/
namespace SdvGateway.Common.JsonLexer

inductive Token where
  | beginArray
  | endArray
  | beginObject
  | endObject
  | nameSeparator
  | valueSeparator
  | literalTrue
  | literalFalse
  | literalNull
  | valueString (s : Str)
  | valueUnsigned (n : Nat)
  | valueInteger (n : Int)
  | valueFloat (x : Double)
  | endOfInput
  | parseError
deriving DecidableEq

def hexValue (byte : UInt8) : Option Nat :=
  if 0x30 ≤ byte ∧ byte ≤ 0x39 then some (byte.toNat - 0x30)
  else if 0x41 ≤ byte ∧ byte ≤ 0x46 then some (byte.toNat - 0x37)
  else if 0x61 ≤ byte ∧ byte ≤ 0x66 then some (byte.toNat - 0x57)
  else none

def getCodepoint : Str → Option (Nat × Str)
  | c1 :: c2 :: c3 :: c4 :: rest => do
    return ((← hexValue c1) * 0x1000 + (← hexValue c2) * 0x100 + (← hexValue c3) * 0x10 +
      (← hexValue c4), rest)
  | _ => none

def codepointBytes (codepoint : Nat) : Str :=
  if codepoint < 0x80 then [UInt8.ofNat codepoint]
  else if codepoint ≤ 0x7FF then
    [UInt8.ofNat (0xC0 + codepoint / 0x40), UInt8.ofNat (0x80 + codepoint % 0x40)]
  else if codepoint ≤ 0xFFFF then
    [UInt8.ofNat (0xE0 + codepoint / 0x1000), UInt8.ofNat (0x80 + codepoint / 0x40 % 0x40),
      UInt8.ofNat (0x80 + codepoint % 0x40)]
  else
    [UInt8.ofNat (0xF0 + codepoint / 0x40000), UInt8.ofNat (0x80 + codepoint / 0x1000 % 0x40),
      UInt8.ofNat (0x80 + codepoint / 0x40 % 0x40), UInt8.ofNat (0x80 + codepoint % 0x40)]

/-- Shifted left by ten bits, with what both surrogates have too much taken off. -/
def joinSurrogates (codepoint1 codepoint2 : Nat) : Nat :=
  codepoint1 * 0x400 + codepoint2 - 0x35FDC00

/-- The second escape, which a high surrogate needs. -/
def scanLowSurrogate (codepoint1 : Nat) (input : Str) : Option (Str × Str) :=
  match input with
  | slash :: letter :: rest =>
    if slash = 0x5C ∧ letter = 0x75 then do
      let (codepoint2, rest) ← getCodepoint rest
      if 0xDC00 ≤ codepoint2 ∧ codepoint2 ≤ 0xDFFF then
        some (codepointBytes (joinSurrogates codepoint1 codepoint2), rest)
      else none
    else none
  | _ => none

def scanUnicode (input : Str) : Option (Str × Str) := do
  let (codepoint1, rest) ← getCodepoint input
  if 0xD800 ≤ codepoint1 ∧ codepoint1 ≤ 0xDBFF then scanLowSurrogate codepoint1 rest
  else if 0xDC00 ≤ codepoint1 ∧ codepoint1 ≤ 0xDFFF then none
  else some (codepointBytes codepoint1, rest)

def scanEscape : Str → Option (Str × Str)
  | [] => none
  | byte :: rest =>
    if byte = 0x22 ∨ byte = 0x5C ∨ byte = 0x2F then some ([byte], rest)
    else if byte = 0x62 then some ([0x08], rest)
    else if byte = 0x66 then some ([0x0C], rest)
    else if byte = 0x6E then some ([0x0A], rest)
    else if byte = 0x72 then some ([0x0D], rest)
    else if byte = 0x74 then some ([0x09], rest)
    else if byte = 0x75 then scanUnicode rest
    else none

/-- The ranges that `scan_string` passes to `next_byte_in_range` after a lead byte. -/
def followRanges (lead : UInt8) : Option (List (UInt8 × UInt8)) :=
  if 0xC2 ≤ lead ∧ lead ≤ 0xDF then some [(0x80, 0xBF)]
  else if lead = 0xE0 then some [(0xA0, 0xBF), (0x80, 0xBF)]
  else if (0xE1 ≤ lead ∧ lead ≤ 0xEC) ∨ lead = 0xEE ∨ lead = 0xEF then
    some [(0x80, 0xBF), (0x80, 0xBF)]
  else if lead = 0xED then some [(0x80, 0x9F), (0x80, 0xBF)]
  else if lead = 0xF0 then some [(0x90, 0xBF), (0x80, 0xBF), (0x80, 0xBF)]
  else if 0xF1 ≤ lead ∧ lead ≤ 0xF3 then some [(0x80, 0xBF), (0x80, 0xBF), (0x80, 0xBF)]
  else if lead = 0xF4 then some [(0x80, 0x8F), (0x80, 0xBF), (0x80, 0xBF)]
  else none

def nextByteInRange : List (UInt8 × UInt8) → Str → Option (Str × Str)
  | [], input => some ([], input)
  | _ :: _, [] => none
  | (low, high) :: ranges, byte :: rest =>
    if low ≤ byte ∧ byte ≤ high then
      (nextByteInRange ranges rest).map fun (bytes, rest) => (byte :: bytes, rest)
    else none

/-- One turn of the loop in `scan_string` for a byte that is not the closing quote:
the bytes added to the token and the input left. -/
def scanUnit (byte : UInt8) (rest : Str) : Option (Str × Str) :=
  if byte = 0x5C then scanEscape rest
  else if byte ≤ 0x1F then none
  else if byte ≤ 0x7F then some ([byte], rest)
  else
    match followRanges byte with
    | none => none
    | some ranges =>
      (nextByteInRange ranges rest).map fun (bytes, rest) => (byte :: bytes, rest)

theorem getCodepoint_length {input rest : Str} {codepoint : Nat}
    (h : getCodepoint input = some (codepoint, rest)) : rest.length < input.length := by
  unfold getCodepoint at h
  split at h
  · simp only [Option.bind_eq_bind, Option.bind_eq_some_iff, Option.pure_def, Option.some.injEq,
      Prod.mk.injEq] at h
    obtain ⟨_, _, _, _, _, _, _, _, _, rfl⟩ := h
    simp only [List.length_cons]
    omega
  · cases h

private theorem scanLowSurrogate_length {codepoint1 : Nat} {input bytes rest : Str}
    (h : scanLowSurrogate codepoint1 input = some (bytes, rest)) : rest.length < input.length := by
  unfold scanLowSurrogate at h
  split at h
  · split at h
    · simp only [Option.bind_eq_bind, Option.bind_eq_some_iff] at h
      obtain ⟨⟨codepoint2, left⟩, hsecond, h⟩ := h
      have hleft := getCodepoint_length hsecond
      split at h
      · simp only [Option.some.injEq, Prod.mk.injEq] at h
        obtain ⟨_, rfl⟩ := h
        simp only [List.length_cons]
        omega
      · cases h
    · cases h
  · cases h

private theorem scanUnicode_length {input bytes rest : Str}
    (h : scanUnicode input = some (bytes, rest)) :
    rest.length < input.length := by
  unfold scanUnicode at h
  simp only [Option.bind_eq_bind, Option.bind_eq_some_iff] at h
  obtain ⟨⟨codepoint1, left⟩, hfirst, h⟩ := h
  have hleft := getCodepoint_length hfirst
  split_ifs at h
  · exact (scanLowSurrogate_length h).trans hleft
  · simp only [Option.some.injEq, Prod.mk.injEq] at h
    obtain ⟨_, rfl⟩ := h
    exact hleft

private theorem scanEscape_length {input bytes rest : Str}
    (h : scanEscape input = some (bytes, rest)) :
    rest.length < input.length := by
  cases input with
  | nil => cases h
  | cons byte left =>
    simp only [scanEscape] at h
    split_ifs at h
    rotate_right
    · exact Nat.lt_succ_of_lt (scanUnicode_length h)
    all_goals
      simp only [Option.some.injEq, Prod.mk.injEq] at h
      obtain ⟨_, rfl⟩ := h
      exact Nat.lt_succ_self _

private theorem nextByteInRange_length {ranges : List (UInt8 × UInt8)} {input bytes rest : Str}
    (h : nextByteInRange ranges input = some (bytes, rest)) : rest.length ≤ input.length := by
  induction ranges generalizing input bytes with
  | nil =>
    simp only [nextByteInRange, Option.some.injEq, Prod.mk.injEq] at h
    obtain ⟨_, rfl⟩ := h
    exact le_rfl
  | cons range ranges ih =>
    cases input with
    | nil => cases h
    | cons byte left =>
      unfold nextByteInRange at h
      split at h
      · simp only [Option.map_eq_some_iff, Prod.mk.injEq] at h
        obtain ⟨⟨following, last⟩, hnext, _, rfl⟩ := h
        exact Nat.le_succ_of_le (ih hnext)
      · cases h

theorem scanUnit_length {byte : UInt8} {input bytes rest : Str}
    (h : scanUnit byte input = some (bytes, rest)) : rest.length ≤ input.length := by
  unfold scanUnit at h
  split_ifs at h with hescape hcontrol hplain
  · exact (scanEscape_length h).le
  · simp only [Option.some.injEq, Prod.mk.injEq] at h
    obtain ⟨_, rfl⟩ := h
    exact le_rfl
  · split at h
    · cases h
    · simp only [Option.map_eq_some_iff, Prod.mk.injEq] at h
      obtain ⟨⟨following, last⟩, hnext, _, rfl⟩ := h
      exact nextByteInRange_length hnext

def scanString (input : Str) : Option (Str × Str) :=
  match input with
  | [] => none
  | byte :: rest =>
    if byte = 0x22 then some ([], rest)
    else
      match _h : scanUnit byte rest with
      | none => none
      | some (bytes, left) =>
        (scanString left).map fun (following, last) => (bytes ++ following, last)
termination_by input.length
decreasing_by exact Nat.lt_succ_of_le (scanUnit_length _h)

inductive NumberType where
  | unsigned
  | integer
  | float
deriving DecidableEq

abbrev Number := NumberType × Str

def scanNumberAny2 (token input : Str) : Option (Number × Str) :=
  some ((.float, token ++ input.takeWhile isDigit), input.dropWhile isDigit)

def scanNumberSign (token : Str) : Str → Option (Number × Str)
  | [] => none
  | byte :: rest => if isDigit byte then scanNumberAny2 (token ++ [byte]) rest else none

def scanNumberExponent (token : Str) : Str → Option (Number × Str)
  | [] => none
  | byte :: rest =>
    if byte = 0x2B ∨ byte = 0x2D then scanNumberSign (token ++ [byte]) rest
    else if isDigit byte then scanNumberAny2 (token ++ [byte]) rest
    else none

def scanNumberDecimal2 (token input : Str) : Option (Number × Str) :=
  let digits := token ++ input.takeWhile isDigit
  match input.dropWhile isDigit with
  | [] => some ((.float, digits), [])
  | byte :: rest =>
    if byte = 0x65 ∨ byte = 0x45 then scanNumberExponent (digits ++ [byte]) rest
    else some ((.float, digits), byte :: rest)

def scanNumberDecimal1 (token : Str) : Str → Option (Number × Str)
  | [] => none
  | byte :: rest => if isDigit byte then scanNumberDecimal2 (token ++ [byte]) rest else none

def scanNumberZero (type : NumberType) (token : Str) : Str → Option (Number × Str)
  | [] => some ((type, token), [])
  | byte :: rest =>
    if byte = 0x2E then scanNumberDecimal1 (token ++ [byte]) rest
    else if byte = 0x65 ∨ byte = 0x45 then scanNumberExponent (token ++ [byte]) rest
    else some ((type, token), byte :: rest)

/-- The digits, and then what the label shares with `scan_number_zero`. -/
def scanNumberAny1 (type : NumberType) (token input : Str) : Option (Number × Str) :=
  scanNumberZero type (token ++ input.takeWhile isDigit) (input.dropWhile isDigit)

def scanNumberStart (type : NumberType) (token : Str) : Str → Option (Number × Str)
  | [] => none
  | byte :: rest =>
    if byte = 0x30 then scanNumberZero type (token ++ [byte]) rest
    else if isDigit byte then scanNumberAny1 type (token ++ [byte]) rest
    else none

/-- From a minus sign or a digit up to `scan_number_done`, before the conversion. -/
def scanNumber : Str → Option (Number × Str)
  | [] => none
  | byte :: rest =>
    if byte = 0x2D then scanNumberStart .integer [byte] rest
    else scanNumberStart .unsigned [] (byte :: rest)

/-- `strtoull` and `strtoll` fail beyond 64 bits, and the text is read as a double. -/
def convertNumber (strtod : Str → Double) : Number → Token
  | (.unsigned, token) =>
    if decimal token < 2 ^ 64 then .valueUnsigned (decimal token) else .valueFloat (strtod token)
  | (.integer, token) =>
    if decimal (token.drop 1) ≤ 2 ^ 63 then .valueInteger (-decimal (token.drop 1))
    else .valueFloat (strtod token)
  | (.float, token) => .valueFloat (strtod token)

def scanLiteral : Str → Str → Option Str
  | [], input => some input
  | _ :: _, [] => none
  | letter :: letters, byte :: rest => if byte = letter then scanLiteral letters rest else none

def isWhitespace (byte : UInt8) : Bool :=
  byte = 0x20 || byte = 0x09 || byte = 0x0A || byte = 0x0D

def structural (byte : UInt8) : Option Token :=
  if byte = 0x5B then some .beginArray
  else if byte = 0x5D then some .endArray
  else if byte = 0x7B then some .beginObject
  else if byte = 0x7D then some .endObject
  else if byte = 0x3A then some .nameSeparator
  else if byte = 0x2C then some .valueSeparator
  else none

def scanValue (strtod : Str → Double) (byte : UInt8) (rest : Str) : Option (Token × Str) :=
  match structural byte with
  | some token => some (token, rest)
  | none =>
    if byte = 0x74 then (scanLiteral (lit "rue") rest).map (.literalTrue, ·)
    else if byte = 0x66 then (scanLiteral (lit "alse") rest).map (.literalFalse, ·)
    else if byte = 0x6E then (scanLiteral (lit "ull") rest).map (.literalNull, ·)
    else if byte = 0x22 then (scanString rest).map fun (s, rest) => (.valueString s, rest)
    else if byte = 0x2D ∨ isDigit byte then
      (scanNumber (byte :: rest)).map fun (number, rest) => (convertNumber strtod number, rest)
    else if byte = 0x00 then some (.endOfInput, rest)
    else none

def skipWhitespace (input : Str) : Str := input.dropWhile isWhitespace

def scan (strtod : Str → Double) (input : Str) : Token × Str :=
  match skipWhitespace input with
  | [] => (.endOfInput, [])
  | byte :: rest => (scanValue strtod byte rest).getD (.parseError, [])

/-- The byte order mark, which only the first call skips. -/
def skipBom : Str → Option Str
  | 0xEF :: rest =>
    match rest with
    | 0xBB :: 0xBF :: rest => some rest
    | _ => none
  | input => some input

theorem scanString_length {input s rest : Str} (h : scanString input = some (s, rest)) :
    rest.length < input.length := by
  fun_induction scanString input generalizing s with
  | case1 => cases h
  | case2 left =>
    simp only [Option.some.injEq, Prod.mk.injEq] at h
    obtain ⟨_, rfl⟩ := h
    exact Nat.lt_succ_self _
  | case3 => cases h
  | case4 byte input hquote bytes left hunit ih =>
    simp only [Option.map_eq_some_iff, Prod.mk.injEq] at h
    obtain ⟨⟨following, last⟩, hscan, _, rfl⟩ := h
    have hleft := scanUnit_length hunit
    have hlast : last.length < left.length := ih hscan
    simp only [List.length_cons]
    omega

theorem scanLiteral_length {letters input rest : Str} (h : scanLiteral letters input = some rest) :
    rest.length ≤ input.length := by
  fun_induction scanLiteral letters input with
  | case1 =>
    cases h
    exact le_rfl
  | case2 => cases h
  | case3 _ _ _ ih => exact Nat.le_succ_of_le (ih h)
  | case4 => cases h

def Takes (token input : Str) (scanned : Option (Number × Str)) : Prop :=
  ∀ type text rest, scanned = some ((type, text), rest) →
    ∃ more, text = token ++ more ∧ input = more ++ rest

theorem takes_none (token input : Str) : Takes token input none := by
  rintro _ _ _ ⟨⟩

theorem takes_some (type : NumberType) (token more rest : Str) :
    Takes token (more ++ rest) (some ((type, token ++ more), rest)) := by
  rintro _ _ _ ⟨⟩
  exact ⟨more, rfl, rfl⟩

theorem takes_append {token input : Str} (more : Str) {scanned : Option (Number × Str)}
    (h : Takes (token ++ more) input scanned) : Takes token (more ++ input) scanned := by
  intro type text rest hscanned
  obtain ⟨later, rfl, rfl⟩ := h type text rest hscanned
  exact ⟨more ++ later, by rw [List.append_assoc], by rw [List.append_assoc]⟩

theorem takes_any2 (token input : Str) : Takes token input (scanNumberAny2 token input) := by
  have h := takes_some .float token (input.takeWhile isDigit) (input.dropWhile isDigit)
  rwa [List.takeWhile_append_dropWhile] at h

private theorem takes_sign (token input : Str) :
    Takes token input (scanNumberSign token input) := by
  fun_cases scanNumberSign token input with
  | case1 => exact takes_none _ _
  | case2 byte rest => exact takes_append [byte] (takes_any2 _ _)
  | case3 => exact takes_none _ _

theorem takes_exponent (token input : Str) :
    Takes token input (scanNumberExponent token input) := by
  fun_cases scanNumberExponent token input with
  | case1 => exact takes_none _ _
  | case2 byte rest => exact takes_append [byte] (takes_sign _ _)
  | case3 byte rest => exact takes_append [byte] (takes_any2 _ _)
  | case4 => exact takes_none _ _

private theorem takes_decimal2 (token input : Str) :
    Takes token input (scanNumberDecimal2 token input) := by
  have h : Takes token (input.takeWhile isDigit ++ input.dropWhile isDigit)
      (scanNumberDecimal2 token input) := by
    apply takes_append
    fun_cases scanNumberDecimal2 token input with
    | case1 digits hnil =>
      have h := takes_some .float digits [] []
      rw [hnil]
      rwa [List.append_nil, List.append_nil] at h
    | case2 digits byte rest hcons =>
      rw [hcons]
      exact takes_append [byte] (takes_exponent _ _)
    | case3 digits byte rest hcons =>
      have h := takes_some .float digits [] (byte :: rest)
      rw [hcons]
      rwa [List.append_nil, List.nil_append] at h
  rwa [List.takeWhile_append_dropWhile] at h

private theorem takes_decimal1 (token input : Str) :
    Takes token input (scanNumberDecimal1 token input) := by
  fun_cases scanNumberDecimal1 token input with
  | case1 => exact takes_none _ _
  | case2 byte rest => exact takes_append [byte] (takes_decimal2 _ _)
  | case3 => exact takes_none _ _

theorem takes_zero (type : NumberType) (token input : Str) :
    Takes token input (scanNumberZero type token input) := by
  fun_cases scanNumberZero type token input with
  | case1 =>
    have h := takes_some type token [] []
    rwa [List.append_nil, List.append_nil] at h
  | case2 rest => exact takes_append [0x2E] (takes_decimal1 _ _)
  | case3 byte rest => exact takes_append [byte] (takes_exponent _ _)
  | case4 byte rest =>
    have h := takes_some type token [] (byte :: rest)
    rwa [List.append_nil] at h

private theorem takes_any1 (type : NumberType) (token input : Str) :
    Takes token input (scanNumberAny1 type token input) := by
  have h := takes_append _ (takes_zero type (token ++ input.takeWhile isDigit)
    (input.dropWhile isDigit))
  rwa [List.takeWhile_append_dropWhile] at h

private theorem takes_start (type : NumberType) (token : Str) {byte : UInt8} {rest : Str} :
    ∀ type' text left, scanNumberStart type token (byte :: rest) = some ((type', text), left) →
      ∃ more, text = token ++ byte :: more ∧ rest = more ++ left := by
  intro type' text left h
  simp only [scanNumberStart] at h
  split_ifs at h
  · obtain ⟨more, rfl, rfl⟩ := takes_zero _ _ _ _ _ _ h
    exact ⟨more, by rw [List.append_assoc, List.singleton_append], rfl⟩
  · obtain ⟨more, rfl, rfl⟩ := takes_any1 _ _ _ _ _ _ h
    exact ⟨more, by rw [List.append_assoc, List.singleton_append], rfl⟩

private theorem scanNumber_text {byte : UInt8} {input text rest : Str} {type : NumberType}
    (h : scanNumber (byte :: input) = some ((type, text), rest)) :
    ∃ more, text = byte :: more ∧ input = more ++ rest := by
  simp only [scanNumber] at h
  split at h
  · cases input with
    | nil => cases h
    | cons digit input =>
      obtain ⟨more, rfl, rfl⟩ := takes_start _ _ _ _ _ h
      exact ⟨digit :: more, rfl, rfl⟩
  · obtain ⟨more, rfl, rfl⟩ := takes_start _ _ _ _ _ h
    exact ⟨more, rfl, rfl⟩

/-- The parser asks for no token after one of these two. -/
def Token.isLast (token : Token) : Bool := token = .endOfInput || token = .parseError

private theorem scanValue_length {strtod : Str → Double} {byte : UInt8} {input rest : Str}
    {token : Token}
    (h : scanValue strtod byte input = some (token, rest)) : rest.length ≤ input.length := by
  have hmap {α : Type} {scanned : Option α} {value : α → Token × Str}
      (hscan : scanned.map value = some (token, rest))
      (hlength : ∀ a, scanned = some a → (value a).2.length ≤ input.length) :
      rest.length ≤ input.length := by
    obtain ⟨a, ha, hvalue⟩ := Option.map_eq_some_iff.mp hscan
    simpa [hvalue] using hlength a ha
  have hhere {kind : Token} (hsome : some (kind, input) = some (token, rest)) :
      rest.length ≤ input.length := by
    cases hsome
    exact le_rfl
  unfold scanValue at h
  split at h
  · exact hhere h
  split at h
  · exact hmap h fun _ => scanLiteral_length
  split at h
  · exact hmap h fun _ => scanLiteral_length
  split at h
  · exact hmap h fun _ => scanLiteral_length
  split at h
  · exact hmap h fun _ hscan => (scanString_length hscan).le
  split at h
  · refine hmap h fun ⟨⟨type, text⟩, left⟩ hscan => ?_
    obtain ⟨more, _, rfl⟩ := scanNumber_text hscan
    show left.length ≤ (more ++ left).length
    rw [List.length_append]
    omega
  split at h
  · exact hhere h
  · cases h

theorem scan_length (strtod : Str → Double) (input : Str)
    (hlast : (scan strtod input).1.isLast = false) :
    (scan strtod input).2.length < input.length := by
  have hskipped : (skipWhitespace input).length ≤ input.length :=
    (List.dropWhile_suffix isWhitespace).length_le
  unfold scan at hlast ⊢
  split at hlast
  · cases hlast
  · next byte rest hcons =>
    cases hvalue : scanValue strtod byte rest with
    | none =>
      rw [hvalue] at hlast
      cases hlast
    | some scanned =>
      have hlength := scanValue_length hvalue
      rw [hcons, List.length_cons] at hskipped
      rw [Option.getD_some]
      omega

def tokens (strtod : Str → Double) (input : Str) : List Token :=
  if _h : (scan strtod input).1.isLast then [(scan strtod input).1]
  else (scan strtod input).1 :: tokens strtod (scan strtod input).2
termination_by input.length
decreasing_by exact scan_length strtod input (Bool.eq_false_iff.mpr _h)

def lex (strtod : Str → Double) (input : Str) : List Token :=
  match skipBom input with
  | some rest => tokens strtod rest
  | none => [.parseError]

end SdvGateway.Common.JsonLexer
