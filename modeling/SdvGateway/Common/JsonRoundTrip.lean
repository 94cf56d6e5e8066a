import SdvGateway.Common.JsonStack
import SdvGateway.Common.TimestampOrder

/-! What the serializer writes, the parser reads back. -/
namespace SdvGateway.Common.JsonLexer
open TimestampOrder (asciiDigit natText_eq)

/-- `strtod`, and the shortest text of a finite double that it reads back. The text
always has a fraction or an exponent. -/
structure FloatText where
  strtod : Str → Double
  floatText : Double → Str
  scans : ∀ x, x.isFinite = true → scanNumber (floatText x) = some ((.float, floatText x), [])
  strtod_floatText : ∀ x, x.isFinite = true → strtod (floatText x) = x

def FloatText.json (floats : FloatText) : JsonText where
  parse := JsonParser.parse floats.strtod
  floatText := floats.floatText

mutual

def valueTokens : Json → List Token
  | .null => [.literalNull]
  | .boolean true => [.literalTrue]
  | .boolean false => [.literalFalse]
  | .integer (.ofNat n) => [.valueUnsigned n]
  | .integer (.negSucc n) => [.valueInteger (.negSucc n)]
  | .float x => [.valueFloat x]
  | .string s => [.valueString s]
  | .array [] => [.beginArray, .endArray]
  | .array (item :: rest) => .beginArray :: valueTokens item ++ itemTokens rest
  | .object [] => [.beginObject, .endObject]
  | .object ((key, value) :: rest) =>
    .beginObject :: .valueString key :: .nameSeparator :: valueTokens value ++ memberTokens rest

def itemTokens : List Json → List Token
  | [] => [.endArray]
  | item :: rest => .valueSeparator :: valueTokens item ++ itemTokens rest

def memberTokens : List (Str × Json) → List Token
  | [] => [.endObject]
  | (key, value) :: rest =>
    .valueSeparator :: .valueString key :: .nameSeparator :: valueTokens value ++ memberTokens rest

end

def Delimited (rest : Str) : Prop :=
  ∀ byte ∈ rest.head?, isDigit byte = false ∧ byte ≠ 0x2E ∧ byte ≠ 0x65 ∧ byte ≠ 0x45

/-- A scan that ends with its input takes the same bytes when more text follows. -/
def Extends (scan : Str → Option (Number × Str)) : Prop :=
  ∀ input rest number, Delimited rest → scan input = some (number, []) →
    scan (input ++ rest) = some (number, rest)

private theorem takeWhile_delimited {rest : Str} (h : Delimited rest) :
    rest.takeWhile isDigit = [] := by
  cases rest with
  | nil => rfl
  | cons byte rest => rw [List.takeWhile_cons_of_neg (by simp [(h byte rfl).1])]

private theorem dropWhile_delimited {rest : Str} (h : Delimited rest) :
    rest.dropWhile isDigit = rest := by
  cases rest with
  | nil => rfl
  | cons byte rest => rw [List.dropWhile_cons_of_neg (by simp [(h byte rfl).1])]

theorem takeWhile_append_delimited (input : Str) {rest : Str} (h : Delimited rest) :
    (input ++ rest).takeWhile isDigit = input.takeWhile isDigit := by
  rw [List.takeWhile_append, takeWhile_delimited h]
  split
  · next hlength =>
    rw [List.append_nil]
    exact ((List.takeWhile_prefix isDigit).eq_of_length hlength).symm
  · rfl

theorem dropWhile_append_delimited (input : Str) {rest : Str} (h : Delimited rest) :
    (input ++ rest).dropWhile isDigit = input.dropWhile isDigit ++ rest := by
  rw [List.dropWhile_append, dropWhile_delimited h]
  split
  · next hempty => rw [List.isEmpty_iff.mp hempty, List.nil_append]
  · rfl

theorem extends_any2 (token : Str) : Extends (scanNumberAny2 token) := by
  intro input rest number hrest h
  rw [scanNumberAny2, takeWhile_append_delimited input hrest,
    dropWhile_append_delimited input hrest]
  rw [scanNumberAny2] at h
  obtain ⟨rfl, hnil⟩ := Prod.mk.inj (Option.some.inj h)
  rw [hnil, List.nil_append]

private theorem extends_sign (token : Str) : Extends (scanNumberSign token) := by
  intro input rest number hrest h
  fun_cases scanNumberSign token input with
  | case1 => cases h
  | case2 byte input hdigit =>
    rw [scanNumberSign, if_pos hdigit] at h
    rw [List.cons_append, scanNumberSign, if_pos hdigit]
    exact extends_any2 _ _ _ _ hrest h
  | case3 byte input hdigit =>
    rw [scanNumberSign, if_neg hdigit] at h
    cases h

theorem extends_exponent (token : Str) : Extends (scanNumberExponent token) := by
  intro input rest number hrest h
  cases input with
  | nil => cases h
  | cons byte input =>
    simp only [List.cons_append, scanNumberExponent] at h ⊢
    split_ifs at h ⊢ with hsign hdigit
    · exact extends_sign _ _ _ _ hrest h
    · exact extends_any2 _ _ _ _ hrest h

private theorem extends_decimal2 (token : Str) : Extends (scanNumberDecimal2 token) := by
  intro input rest number hrest h
  rw [scanNumberDecimal2, takeWhile_append_delimited input hrest,
    dropWhile_append_delimited input hrest]
  rw [scanNumberDecimal2] at h
  cases hleft : input.dropWhile isDigit with
  | nil =>
    rw [hleft] at h
    obtain ⟨rfl, _⟩ := Prod.mk.inj (Option.some.inj h)
    cases rest with
    | nil => rfl
    | cons byte rest =>
      obtain ⟨_, _, he, hE⟩ := hrest byte rfl
      simp [he, hE]
  | cons byte left =>
    simp only [hleft, List.cons_append] at h ⊢
    split_ifs at h ⊢
    · exact extends_exponent _ _ _ _ hrest h
    · cases h

private theorem extends_decimal1 (token : Str) : Extends (scanNumberDecimal1 token) := by
  intro input rest number hrest h
  cases input with
  | nil => cases h
  | cons byte input =>
    simp only [List.cons_append, scanNumberDecimal1] at h ⊢
    split_ifs at h ⊢
    exact extends_decimal2 _ _ _ _ hrest h

theorem extends_zero (type : NumberType) (token : Str) : Extends (scanNumberZero type token) := by
  intro input rest number hrest h
  cases input with
  | nil =>
    obtain ⟨rfl, _⟩ := Prod.mk.inj (Option.some.inj h)
    cases rest with
    | nil => rfl
    | cons byte rest =>
      obtain ⟨_, hpoint, he, hE⟩ := hrest byte rfl
      simp [scanNumberZero, hpoint, he, hE]
  | cons byte input =>
    simp only [List.cons_append, scanNumberZero] at h ⊢
    split_ifs at h ⊢
    · exact extends_decimal1 _ _ _ _ hrest h
    · exact extends_exponent _ _ _ _ hrest h
    · cases h

private theorem extends_any1 (type : NumberType) (token : Str) :
    Extends (scanNumberAny1 type token) := by
  intro input rest number hrest h
  rw [scanNumberAny1, takeWhile_append_delimited input hrest,
    dropWhile_append_delimited input hrest]
  exact extends_zero _ _ _ _ _ hrest h

private theorem extends_start (type : NumberType) (token : Str) :
    Extends (scanNumberStart type token) := by
  intro input rest number hrest h
  cases input with
  | nil => cases h
  | cons byte input =>
    simp only [List.cons_append, scanNumberStart] at h ⊢
    split_ifs at h ⊢
    · exact extends_zero _ _ _ _ _ hrest h
    · exact extends_any1 _ _ _ _ _ hrest h

theorem extends_scanNumber : Extends scanNumber := by
  intro input rest number hrest h
  cases input with
  | nil => cases h
  | cons byte input =>
    simp only [List.cons_append, scanNumber] at h ⊢
    split_ifs at h ⊢
    · exact extends_start _ _ _ _ _ hrest h
    · exact extends_start _ _ (byte :: input) _ _ hrest h

theorem asciiDigit_isDigit : ∀ d < 10, isDigit (asciiDigit d) = true ∧
    (asciiDigit d).toNat - 0x30 = d := by
  decide

theorem natText_digits (n : Nat) : ∀ byte ∈ natText n, isDigit byte = true := by
  induction n using Nat.strong_induction_on with
  | h n ih =>
    rw [natText_eq]
    split
    · next hsmall => simpa using (asciiDigit_isDigit n hsmall).1
    · have hlast := (asciiDigit_isDigit (n % 10) (Nat.mod_lt _ (by decide))).1
      have hrest := ih (n / 10) (by omega)
      intro byte hbyte
      rcases List.mem_append.mp hbyte with hbyte | hbyte
      · exact hrest byte hbyte
      · rw [List.mem_singleton.mp hbyte]
        exact hlast

private theorem decimal_append (digits : Str) (byte : UInt8) :
    decimal (digits ++ [byte]) = 10 * decimal digits + (byte.toNat - 0x30) := by
  rw [decimal, List.foldl_append]
  rfl

theorem decimal_natText (n : Nat) : decimal (natText n) = n := by
  induction n using Nat.strong_induction_on with
  | h n ih =>
    rw [natText_eq]
    split
    · next hsmall =>
      have hdigit := (asciiDigit_isDigit n hsmall).2
      simpa [decimal] using hdigit
    · have hdigit := (asciiDigit_isDigit (n % 10) (Nat.mod_lt _ (by decide))).2
      rw [decimal_append, ih (n / 10) (by omega), hdigit]
      omega

private theorem natText_head {n : Nat} (h : 0 < n) : ∃ byte digits, natText n = byte :: digits ∧
    byte ≠ 0x30 := by
  induction n using Nat.strong_induction_on with
  | h n ih =>
    rw [natText_eq]
    split
    · next hsmall =>
      have hzero : ∀ d < 10, 0 < d → asciiDigit d ≠ 0x30 := by decide
      exact ⟨_, [], rfl, hzero n hsmall h⟩
    · obtain ⟨byte, digits, hdigits, hbyte⟩ := ih (n / 10) (by omega) (by omega)
      rw [hdigits]
      exact ⟨byte, _, rfl, hbyte⟩

theorem scanNumberStart_natText (type : NumberType) (token : Str) (n : Nat) {rest : Str}
    (hrest : ∀ byte ∈ rest.head?, isDigit byte = false) :
    scanNumberStart type token (natText n ++ rest) =
      scanNumberZero type (token ++ natText n) rest := by
  have hdigits := natText_digits n
  cases Nat.eq_zero_or_pos n with
  | inl hzero =>
    subst hzero
    rfl
  | inr hpos =>
    obtain ⟨byte, digits, heq, hbyte⟩ := natText_head hpos
    rw [heq] at hdigits ⊢
    obtain ⟨hfirst, hlater⟩ := List.forall_mem_cons.mp hdigits
    have hstop : rest.takeWhile isDigit = [] ∧ rest.dropWhile isDigit = rest := by
      cases rest with
      | nil => exact ⟨rfl, rfl⟩
      | cons c rest => simp [hrest c rfl]
    rw [List.cons_append, scanNumberStart, if_neg hbyte, if_pos hfirst, scanNumberAny1,
      List.takeWhile_append_of_pos hlater, List.dropWhile_append_of_pos hlater, hstop.1, hstop.2,
      List.append_nil, List.append_assoc, List.singleton_append]

theorem scanNumber_natText_append (n : Nat) {rest : Str}
    (hrest : ∀ byte ∈ rest.head?, isDigit byte = false) :
    scanNumber (natText n ++ rest) = scanNumberZero .unsigned (natText n) rest := by
  have hstart := scanNumberStart_natText .unsigned [] n hrest
  have hdigits := natText_digits n
  cases htext : natText n with
  | nil =>
    have hvalue := decimal_natText n
    rw [htext] at hvalue
    subst hvalue
    cases htext
  | cons byte digits =>
    rw [htext] at hstart hdigits
    have hminus : byte ≠ 0x2D := by
      rintro rfl
      exact absurd (hdigits _ List.mem_cons_self) (by decide)
    rw [List.cons_append, scanNumber, if_neg hminus]
    exact hstart

theorem scanNumber_natText (n : Nat) :
    scanNumber (natText n) = some ((.unsigned, natText n), []) := by
  have h : scanNumber (natText n ++ []) = _ := scanNumber_natText_append n (by rintro _ ⟨⟩)
  rwa [List.append_nil] at h

private theorem lit_fraction : lit ".0" = [0x2E, 0x30] := by decide

private theorem scanNumber_fraction (n : Nat) :
    scanNumber (natText n ++ lit ".0") = some ((.float, natText n ++ lit ".0"), []) := by
  rw [lit_fraction, scanNumber_natText_append n (by rintro _ ⟨⟩; decide)]
  simp [scanNumberZero, scanNumberDecimal1, scanNumberDecimal2, isDigit]

private theorem decimal_fraction (x : Double) :
    (⟨BitVec.ofNat 64 (decimal ((natText x.bits.toNat ++ lit ".0").takeWhile isDigit))⟩ : Double) =
      x := by
  have hstop : (lit ".0").takeWhile isDigit = [] := by decide
  rw [List.takeWhile_append_of_pos (natText_digits _), hstop, List.append_nil, decimal_natText,
    BitVec.ofNat_toNat, BitVec.setWidth_eq]

/-- Each double as the number that its bits make, with the usual text of zero. -/
def bitText : FloatText where
  strtod text := ⟨BitVec.ofNat 64 (decimal (text.takeWhile isDigit))⟩
  floatText x := natText x.bits.toNat ++ lit ".0"
  scans x _ := scanNumber_fraction x.bits.toNat
  strtod_floatText x _ := decimal_fraction x

section
variable {strtod : Str → Double}

private theorem tokens_of_scan {input rest : Str} {token : Token}
    (hscan : scan strtod input = (token, rest)) (hlast : token.isLast = false) :
    tokens strtod input = token :: tokens strtod rest := by
  rw [tokens, hscan]
  simp [hlast]

theorem tokens_cons {byte : UInt8} {input rest : Str} {token : Token}
    (hbyte : isWhitespace byte = false)
    (hvalue : scanValue strtod byte input = some (token, rest)) (hlast : token.isLast = false) :
    tokens strtod (byte :: input) = token :: tokens strtod rest := by
  apply tokens_of_scan _ hlast
  rw [scan, skipWhitespace, List.dropWhile_cons_of_neg (by simp [hbyte])]
  simp only [hvalue, Option.getD_some]

theorem tokens_space (rest : Str) : tokens strtod (0x20 :: rest) = tokens strtod rest := by
  have hscan : scan strtod (0x20 :: rest) = scan strtod rest := by
    rw [scan, scan, skipWhitespace, List.dropWhile_cons_of_pos (by decide), skipWhitespace]
  conv_lhs => rw [tokens, hscan]
  conv_rhs => rw [tokens]

theorem tokens_structural {byte : UInt8} {token : Token} (hbyte : isWhitespace byte = false)
    (hstructural : structural byte = some token) (hlast : token.isLast = false) (rest : Str) :
    tokens strtod (byte :: rest) = token :: tokens strtod rest := by
  apply tokens_cons hbyte _ hlast
  rw [scanValue, hstructural]

theorem tokens_nil : tokens strtod [] = [.endOfInput] := by
  rw [tokens]
  rfl

theorem scanLiteral_append (letters rest : Str) :
    scanLiteral letters (letters ++ rest) = some rest := by
  induction letters with
  | nil => rfl
  | cons letter letters ih => rw [List.cons_append, scanLiteral, if_pos rfl, ih]

theorem tokens_null (rest : Str) :
    tokens strtod (lit "null" ++ rest) = .literalNull :: tokens strtod rest := by
  have hlit : lit "null" = 0x6E :: lit "ull" := by decide
  rw [hlit, List.cons_append]
  apply tokens_cons rfl _ rfl
  show (scanLiteral (lit "ull") (lit "ull" ++ rest)).map _ = _
  rw [scanLiteral_append]
  rfl

theorem tokens_true (rest : Str) :
    tokens strtod (lit "true" ++ rest) = .literalTrue :: tokens strtod rest := by
  have hlit : lit "true" = 0x74 :: lit "rue" := by decide
  rw [hlit, List.cons_append]
  apply tokens_cons rfl _ rfl
  show (scanLiteral (lit "rue") (lit "rue" ++ rest)).map _ = _
  rw [scanLiteral_append]
  rfl

theorem tokens_false (rest : Str) :
    tokens strtod (lit "false" ++ rest) = .literalFalse :: tokens strtod rest := by
  have hlit : lit "false" = 0x66 :: lit "alse" := by decide
  rw [hlit, List.cons_append]
  apply tokens_cons rfl _ rfl
  show (scanLiteral (lit "alse") (lit "alse" ++ rest)).map _ = _
  rw [scanLiteral_append]
  rfl

theorem tokens_string {text s : Str}
    (h : ∀ rest, scanString (text ++ 0x22 :: rest) = some (s, rest)) (rest : Str) :
    tokens strtod (0x22 :: (text ++ 0x22 :: rest)) = .valueString s :: tokens strtod rest := by
  apply tokens_cons rfl _ rfl
  show (scanString (text ++ 0x22 :: rest)).map _ = _
  rw [h]
  rfl

theorem tokens_quoted {s : Str} (h : isUtf8 s = true) (rest : Str) :
    tokens strtod (quoted s ++ rest) = .valueString s :: tokens strtod rest := by
  have hquoted : quoted s ++ rest = 0x22 :: (s.flatMap escapeByte ++ 0x22 :: rest) := by
    simp [quoted]
  rw [hquoted]
  exact tokens_string (scanString_escaped h) rest

theorem scanNumber_head {text : Str} {scanned : Number × Str} (h : scanNumber text = some scanned) :
    ∃ byte following, text = byte :: following ∧ (byte = 0x2D ∨ isDigit byte = true) := by
  cases text with
  | nil => cases h
  | cons byte following =>
    refine ⟨byte, following, rfl, ?_⟩
    simp only [scanNumber, scanNumberStart] at h
    split_ifs at h with hminus hzero hdigit
    · exact Or.inl hminus
    · exact Or.inr (by rw [hzero]; rfl)
    · exact Or.inr hdigit

set_option maxRecDepth 1000 in
private theorem starts_number : ∀ byte : UInt8, byte = 0x2D ∨ isDigit byte = true →
    isWhitespace byte = false ∧ structural byte = none ∧ byte ≠ 0x74 ∧ byte ≠ 0x66 ∧
      byte ≠ 0x6E ∧ byte ≠ 0x22 := by
  apply forall_byte (p := fun byte => byte = 0x2D ∨ isDigit byte = true →
    isWhitespace byte = false ∧ structural byte = none ∧ byte ≠ 0x74 ∧ byte ≠ 0x66 ∧
      byte ≠ 0x6E ∧ byte ≠ 0x22)
  decide

private theorem convertNumber_isLast (number : Number) :
    (convertNumber strtod number).isLast = false := by
  fun_cases convertNumber strtod number <;> rfl

theorem tokens_number {text rest : Str} {number : Number} (hrest : Delimited rest)
    (h : scanNumber text = some (number, [])) :
    tokens strtod (text ++ rest) = convertNumber strtod number :: tokens strtod rest := by
  have hextended := extends_scanNumber text rest number hrest h
  obtain ⟨byte, following, rfl, hbyte⟩ := scanNumber_head h
  obtain ⟨hspace, hstructural, htrue, hfalse, hnull, hquote⟩ := starts_number byte hbyte
  rw [List.cons_append] at hextended ⊢
  apply tokens_cons hspace _ (convertNumber_isLast number)
  rw [scanValue, hstructural]
  simp only [if_neg htrue, if_neg hfalse, if_neg hnull, if_neg hquote, if_pos hbyte, hextended,
    Option.map_some]

theorem tokens_int {n : Int} {rest : Str} (hrest : Delimited rest)
    (hlow : -2 ^ 63 ≤ n) (hhigh : n < 2 ^ 64) :
    tokens strtod (intText n ++ rest) = valueTokens (.integer n) ++ tokens strtod rest := by
  cases n with
  | ofNat n =>
    have hfits : n < 2 ^ 64 := Int.ofNat_lt.mp hhigh
    rw [intText, tokens_number hrest (scanNumber_natText n), convertNumber, decimal_natText,
      if_pos hfits]
    rfl
  | negSucc n =>
    have hscan : scanNumber (0x2D :: natText (n + 1)) =
        some ((.integer, 0x2D :: natText (n + 1)), []) := by
      have hstart : scanNumberStart .integer [0x2D] (natText (n + 1) ++ []) = _ :=
        scanNumberStart_natText .integer [0x2D] (n + 1) (by rintro _ ⟨⟩)
      rw [List.append_nil] at hstart
      rw [scanNumber, if_pos rfl, hstart]
      rfl
    rw [intText, tokens_number hrest hscan, convertNumber, List.drop_one, List.tail_cons,
      decimal_natText, if_pos (by omega)]
    rfl

theorem delimited_comma (rest : Str) : Delimited (0x2C :: rest) := by
  rintro _ ⟨⟩
  decide

theorem delimited_bracket (rest : Str) : Delimited (0x5D :: rest) := by
  rintro _ ⟨⟩
  decide

theorem delimited_brace (rest : Str) : Delimited (0x7D :: rest) := by
  rintro _ ⟨⟩
  decide

end

section
variable {floats : FloatText} {before : Str → Str → Prop}

theorem delimited_items (items : List Json) (rest : Str) :
    Delimited (floats.json.compactItems items ++ rest) := by
  cases items with
  | nil => exact delimited_bracket rest
  | cons item items => exact delimited_comma _

theorem delimited_members (members : List (Str × Json)) (rest : Str) :
    Delimited (floats.json.compactMembers members ++ rest) := by
  cases members with
  | nil => exact delimited_brace rest
  | cons member members => exact delimited_comma _

mutual

theorem tokens_compact (j : Json) (hj : j.Stored before) {rest : Str}
    (hrest : Delimited rest) :
    tokens floats.strtod (floats.json.compact j ++ rest) =
      valueTokens j ++ tokens floats.strtod rest := by
  match j with
  | .null => exact tokens_null rest
  | .boolean true => exact tokens_true rest
  | .boolean false => exact tokens_false rest
  | .integer n => exact tokens_int hrest hj.1 hj.2
  | .float x =>
    have hx : x.isFinite = true := hj
    have hnumber : tokens floats.strtod (floats.floatText x ++ rest) = _ :=
      tokens_number hrest (floats.scans x hx)
    rw [convertNumber, floats.strtod_floatText x hx] at hnumber
    rw [JsonText.compact, if_pos hx]
    exact hnumber
  | .string s => exact tokens_quoted hj rest
  | .array [] =>
    have hlit : lit "[]" = [0x5B, 0x5D] := by decide
    rw [JsonText.compact, hlit, List.cons_append, tokens_structural rfl rfl rfl, List.cons_append,
      tokens_structural rfl rfl rfl]
    rfl
  | .array (item :: items) =>
    rw [JsonText.compact, List.append_assoc, List.cons_append, tokens_structural rfl rfl rfl,
      tokens_compact item hj.1 (delimited_items items rest), tokens_compactItems items hj.2,
      valueTokens, List.cons_append, List.cons_append, List.append_assoc]
  | .object [] =>
    rw [JsonText.compact, List.cons_append, tokens_structural rfl rfl rfl, List.cons_append,
      tokens_structural rfl rfl rfl]
    rfl
  | .object ((key, value) :: members) =>
    obtain ⟨_, hkey, hvalue, hmembers⟩ := hj
    have hsplit : floats.json.compact (.object ((key, value) :: members)) ++ rest =
        0x7B :: (quoted key ++ 0x3A :: (floats.json.compact value ++
          (floats.json.compactMembers members ++ rest))) := by
      simp [JsonText.compact]
    rw [hsplit, tokens_structural rfl rfl rfl, tokens_quoted hkey, tokens_structural rfl rfl rfl,
      tokens_compact value hvalue (delimited_members members rest),
      tokens_compactMembers members hmembers]
    simp [valueTokens]

private theorem tokens_compactItems (items : List Json)
    (hitems : Json.StoredItems before items) (rest : Str) :
    tokens floats.strtod (floats.json.compactItems items ++ rest) =
      itemTokens items ++ tokens floats.strtod rest := by
  match items with
  | [] => exact tokens_structural rfl rfl rfl rest
  | item :: items =>
    rw [JsonText.compactItems, List.append_assoc, List.cons_append, tokens_structural rfl rfl rfl,
      tokens_compact item hitems.1 (delimited_items items rest),
      tokens_compactItems items hitems.2, itemTokens, List.cons_append, List.cons_append,
      List.append_assoc]

private theorem tokens_compactMembers (members : List (Str × Json))
    (hmembers : Json.StoredMembers before members) (rest : Str) :
    tokens floats.strtod (floats.json.compactMembers members ++ rest) =
      memberTokens members ++ tokens floats.strtod rest := by
  match members with
  | [] => exact tokens_structural rfl rfl rfl rest
  | (key, value) :: members =>
    obtain ⟨hkey, hvalue, hmembers⟩ := hmembers
    have hsplit : floats.json.compactMembers ((key, value) :: members) ++ rest =
        0x2C :: (quoted key ++ 0x3A :: (floats.json.compact value ++
          (floats.json.compactMembers members ++ rest))) := by
      simp [JsonText.compactMembers]
    rw [hsplit, tokens_structural rfl rfl rfl, tokens_quoted hkey, tokens_structural rfl rfl rfl,
      tokens_compact value hvalue (delimited_members members rest),
      tokens_compactMembers members hmembers]
    simp [memberTokens]

end

end

end SdvGateway.Common.JsonLexer

namespace SdvGateway.Common.JsonParser
open JsonLexer

private theorem key_cases (a b : Str) : a < b ∨ a = b ∨ b < a := by
  by_cases hless : a < b
  · exact Or.inl hless
  · by_cases hmore : b < a
    · exact Or.inr (Or.inr hmore)
    · exact Or.inr (Or.inl (List.le_antisymm hmore hless))

/-- Of two members with one key the one inserted from the front gives way. -/
private theorem assign_insertMember (key name : Str) (value old : Json)
    (members : List (Str × Json)) : assign key value (Json.insertMember name old members) =
      Json.insertMember name old (assign key value members) := by
  have hcases := key_cases
  have hasymm : ∀ a b : Str, a < b → ¬ b < a := fun _ _ => List.lt_asymm
  have htrans : ∀ a b c : Str, a < b → b < c → a < c := fun _ _ _ => List.lt_trans
  induction members with
  | nil => grind [Json.insertMember, assign]
  | cons member rest ih => grind [Json.insertMember, assign]

def assignAll (members more : List (Str × Json)) : List (Str × Json) :=
  more.foldl (fun members member => assign member.1 member.2.byKey members) members

private theorem assignAll_insertMember (name : Str) (old : Json)
    (members more : List (Str × Json)) : assignAll (Json.insertMember name old members) more =
      Json.insertMember name old (assignAll members more) := by
  induction more generalizing members with
  | nil => rfl
  | cons member more ih =>
    rw [assignAll, List.foldl_cons, assign_insertMember]
    exact ih _

theorem assignAll_nil (members : List (Str × Json)) :
    assignAll [] members = Json.byKeyMembers members := by
  induction members with
  | nil => rfl
  | cons member rest ih =>
    have hfirst : assign member.1 member.2.byKey [] =
        Json.insertMember member.1 member.2.byKey [] := rfl
    rw [assignAll, List.foldl_cons, hfirst, Json.byKeyMembers, ← ih]
    exact assignAll_insertMember _ _ _ _

private theorem firstItem_eq (j : Json) (frames : List Frame) (rest : List Token) :
    (valueTokens j ++ rest).foldlM step (.firstItem frames) =
      (valueTokens j ++ rest).foldlM step (.value (.array [] :: frames)) := by
  match j with
  | .null => rfl
  | .boolean true => rfl
  | .boolean false => rfl
  | .integer (.ofNat _) => rfl
  | .integer (.negSucc _) => rfl
  | .float _ => rfl
  | .string _ => rfl
  | .array [] => rfl
  | .array (_ :: _) => rfl
  | .object [] => rfl
  | .object ((_, _) :: _) => rfl

theorem run_cons {state after : State} {token : Token} (h : step state token = .ok after)
    (rest : List Token) : (token :: rest).foldlM step state = rest.foldlM step after := by
  rw [List.foldlM_cons, h]
  rfl

section
variable {before : Str → Str → Prop}

mutual

/-- The parser delivers the value, with its members in the order of their keys, and goes
on with the next token. By recursion over the value. -/
theorem run_value (j : Json) (hj : j.Stored before) (frames : List Frame) (rest : List Token) :
    (valueTokens j ++ rest).foldlM step (.value frames) =
      rest.foldlM step (deliver j.byKey frames) := by
  match j with
  | .null => rfl
  | .boolean true => rfl
  | .boolean false => rfl
  | .integer (.ofNat _) => rfl
  | .integer (.negSucc _) => rfl
  | .float x =>
    have hx : x.isFinite = true := hj
    apply run_cons
    rw [step, readValue, if_pos hx, Json.byKey]
    all_goals simp
  | .string _ => rfl
  | .array [] => rfl
  | .array (item :: items) =>
    rw [valueTokens, List.cons_append, List.cons_append, run_cons rfl, List.append_assoc,
      firstItem_eq, run_value item hj.1]
    exact run_items items hj.2 frames [item.byKey] rest
  | .object [] => rfl
  | .object ((key, value) :: members) =>
    obtain ⟨_, _, hvalue, hmembers⟩ := hj
    simp only [valueTokens, List.cons_append, List.append_assoc]
    rw [run_cons rfl, run_cons rfl, run_cons rfl, run_value value hvalue, deliver,
      run_members members hmembers, Json.byKey, ← assignAll_nil]
    rfl

private theorem run_items (items : List Json) (hitems : Json.StoredItems before items)
    (frames : List Frame) (done : List Json) (rest : List Token) :
    (itemTokens items ++ rest).foldlM step (.afterItem frames done) =
      rest.foldlM step (deliver (.array (done ++ Json.byKeyItems items)) frames) := by
  match items with
  | [] =>
    rw [Json.byKeyItems, List.append_nil]
    rfl
  | item :: items =>
    rw [itemTokens, List.cons_append, List.cons_append, run_cons rfl, List.append_assoc,
      run_value item hitems.1, deliver, run_items items hitems.2, Json.byKeyItems,
      List.append_assoc, List.singleton_append]

private theorem run_members (members : List (Str × Json))
    (hmembers : Json.StoredMembers before members)
    (frames : List Frame) (done : List (Str × Json)) (rest : List Token) :
    (memberTokens members ++ rest).foldlM step (.afterMember frames done) =
      rest.foldlM step (deliver (.object (assignAll done members)) frames) := by
  match members with
  | [] => rfl
  | (key, value) :: members =>
    obtain ⟨_, hvalue, hmembers⟩ := hmembers
    simp only [memberTokens, List.cons_append, List.append_assoc]
    rw [run_cons rfl, run_cons rfl, run_cons rfl, run_value value hvalue, deliver,
      run_members members hmembers]
    rfl

end

theorem parse_of_tokens {strtod : Str → Double} {input : Str} {j : Json} (hj : j.Stored before)
    (htokens : lex strtod input = valueTokens j ++ [.endOfInput]) :
    parse strtod input = .ok j.byKey := by
  rw [parse, htokens, run_value j hj]
  rfl

end

theorem insertMember_first {key : Str} {value : Json} {members : List (Str × Json)}
    (h : ∀ member ∈ members, key < member.1) :
    Json.insertMember key value members = (key, value) :: members := by
  cases members with
  | nil => rfl
  | cons member rest => rw [Json.insertMember, if_pos (h member List.mem_cons_self)]

mutual

theorem byKey_canonical (j : Json) (hj : j.Canonical) : j.byKey = j := by
  match j with
  | .null => rfl
  | .boolean _ => rfl
  | .integer _ => rfl
  | .float _ => rfl
  | .string _ => rfl
  | .array items => rw [Json.byKey, byKeyItems_canonical items hj]
  | .object members => rw [Json.byKey, byKeyMembers_canonical members hj.1 hj.2]

private theorem byKeyItems_canonical (items : List Json) (hitems : Json.StoredItems (· < ·) items) :
    Json.byKeyItems items = items := by
  match items with
  | [] => rfl
  | item :: items =>
    rw [Json.byKeyItems, byKey_canonical item hitems.1, byKeyItems_canonical items hitems.2]

private theorem byKeyMembers_canonical (members : List (Str × Json)) (hsorted : Sorted members)
    (hmembers : Json.StoredMembers (· < ·) members) : Json.byKeyMembers members = members := by
  match members with
  | [] => rfl
  | (key, value) :: members =>
    obtain ⟨hfirst, hsorted⟩ := List.pairwise_cons.mp hsorted
    rw [Json.byKeyMembers, byKey_canonical value hmembers.2.1,
      byKeyMembers_canonical members hsorted hmembers.2.2, insertMember_first hfirst]

end

section
variable {before : Str → Str → Prop}

theorem lex_of_head {strtod : Str → Double} {byte : UInt8} {rest : Str} (h : byte ≠ 0xEF) :
    lex strtod (byte :: rest) = tokens strtod (byte :: rest) := by
  have hbom : skipBom (byte :: rest) = some (byte :: rest) := by
    unfold skipBom
    split
    · next heq => exact absurd (List.cons.inj heq).1 h
    · rfl
  rw [lex, hbom]

theorem compact_head (floats : FloatText) (j : Json) (hj : j.Stored before) :
    ∃ byte rest, floats.json.compact j = byte :: rest ∧ byte ≠ 0xEF := by
  have hnumber {text : Str} {scanned : Number × Str} (hscan : scanNumber text = some scanned) :
      ∃ byte rest, text = byte :: rest ∧ byte ≠ 0xEF := by
    obtain ⟨byte, rest, rfl, hbyte⟩ := scanNumber_head hscan
    refine ⟨byte, rest, rfl, ?_⟩
    rintro rfl
    exact absurd hbyte (by decide)
  match j with
  | .null => exact ⟨0x6E, lit "ull", rfl, by decide⟩
  | .boolean true => exact ⟨0x74, lit "rue", rfl, by decide⟩
  | .boolean false => exact ⟨0x66, lit "alse", rfl, by decide⟩
  | .integer (.ofNat n) => exact hnumber (scanNumber_natText n)
  | .integer (.negSucc _) => exact ⟨0x2D, _, rfl, by decide⟩
  | .float x =>
    have hx : x.isFinite = true := hj
    rw [JsonText.compact, if_pos hx]
    exact hnumber (floats.scans x hx)
  | .string _ => exact ⟨0x22, _, rfl, by decide⟩
  | .array [] => exact ⟨0x5B, _, rfl, by decide⟩
  | .array (_ :: _) => exact ⟨0x5B, _, rfl, by decide⟩
  | .object [] => exact ⟨0x7B, _, rfl, by decide⟩
  | .object ((_, _) :: _) => exact ⟨0x7B, _, rfl, by decide⟩

theorem parse_compact (floats : FloatText) {j : Json} (hj : j.Stored before) :
    floats.json.parse (floats.json.compact j) = .ok j.byKey := by
  obtain ⟨byte, rest, hcompact, hbyte⟩ := compact_head floats j hj
  have htokens : tokens floats.strtod (floats.json.compact j ++ []) = _ :=
    tokens_compact j hj (by rintro _ ⟨⟩)
  rw [List.append_nil, tokens_nil] at htokens
  apply parse_of_tokens hj
  rw [hcompact] at htokens ⊢
  rw [lex_of_head hbyte, htokens]

mutual

theorem printable_of_stored (j : Json) (hj : j.Stored before) : j.printable = true := by
  match j with
  | .null => rfl
  | .boolean _ => rfl
  | .integer _ => rfl
  | .float _ => rfl
  | .string _ => exact hj
  | .array items => exact printableItems_of_stored items hj
  | .object members => exact printableMembers_of_stored members hj.2

private theorem printableItems_of_stored (items : List Json)
    (hitems : Json.StoredItems before items) :
    Json.printableItems items = true := by
  match items with
  | [] => rfl
  | item :: items =>
    rw [Json.printableItems, printable_of_stored item hitems.1,
      printableItems_of_stored items hitems.2]
    rfl

private theorem printableMembers_of_stored (members : List (Str × Json))
    (hmembers : Json.StoredMembers before members) : Json.printableMembers members = true := by
  match members with
  | [] => rfl
  | (key, value) :: members =>
    obtain ⟨hkey, hvalue, hmembers⟩ := hmembers
    rw [Json.printableMembers, hkey, printable_of_stored value hvalue,
      printableMembers_of_stored members hmembers]
    rfl

end

end

theorem dump_canonical (floats : FloatText) {j : Json} (hj : j.Canonical) :
    floats.json.dump j = .ok (floats.json.compact j) ∧
      floats.json.parse (floats.json.compact j) = .ok j := by
  refine ⟨?_, ?_⟩
  · rw [JsonText.dump, if_pos (printable_of_stored j hj)]
  · rw [parse_compact floats hj, byKey_canonical j hj]

/-- On a stack that holds the recursion over the value, and on no other, the value is
dumped, and its text is parsed to it. No other value is dumped to that text. -/
theorem dump_round_trip (floats : FloatText) (stack : Nat) {j : Json} (hj : j.Canonical) :
    (j.depth ≤ stack → ∃ text, floats.json.dumpOn stack j = pure text ∧
        floats.json.parse text = .ok j) ∧
      (stack < j.depth → floats.json.dumpOn stack j = JsonText.overflow) ∧
      ∀ k : Json, k.Canonical → ∀ text, floats.json.dumpOn stack j = pure text →
        floats.json.dumpOn stack k = pure text → k = j := by
  have hfits {k : Json} (hk : k.Canonical) (hdepth : k.depth ≤ stack) :
      floats.json.dumpOn stack k = pure (floats.json.compact k) := by
    rw [JsonText.dumpOn_eq k hdepth, (dump_canonical floats hk).1]
    rfl
  have hdeep {k : Json} (hk : k.Canonical) (hdepth : stack < k.depth) :
      floats.json.dumpOn stack k = JsonText.overflow :=
    JsonText.dumpOn_overflow k (printable_of_stored k hk) hdepth
  have htext {k : Json} (hk : k.Canonical) {text : Str}
      (h : floats.json.dumpOn stack k = pure text) : floats.json.compact k = text := by
    rcases le_or_gt k.depth stack with hdepth | hdepth
    · rw [hfits hk hdepth] at h
      cases h
      rfl
    · rw [hdeep hk hdepth] at h
      cases h
  refine ⟨fun hdepth => ⟨_, hfits hj hdepth, (dump_canonical floats hj).2⟩, hdeep hj,
    fun k hk text hdump hdump' => ?_⟩
  have hparse := (dump_canonical floats hj).2
  have hparse' := (dump_canonical floats hk).2
  rw [htext hj hdump] at hparse
  rw [htext hk hdump', hparse] at hparse'
  exact (Except.ok.inj hparse').symm

def sampleValue : Json :=
  .object [
    (lit "a", .array [.integer (-1), .float ⟨0#64⟩, .string [0xC3, 0xA9, 0x0A]]),
    (lit "b", .null)]

theorem sampleValue_canonical : sampleValue.Canonical := by
  have hkeys : lit "a" < lit "b" ∧ isUtf8 (lit "a") = true ∧ isUtf8 (lit "b") = true ∧
      isUtf8 [0xC3, 0xA9, 0x0A] = true := by decide
  have hzero : Double.isFinite ⟨0#64⟩ = true := by decide
  simp [sampleValue, Json.Canonical, Json.Stored, Json.StoredItems, Json.StoredMembers, hkeys,
    hzero]

theorem dump_round_trip_sample :
    (∃ text, bitText.json.dumpOn 3 sampleValue = pure text ∧
        bitText.json.parse text = .ok sampleValue) ∧
      bitText.json.dumpOn 1 sampleValue = JsonText.overflow :=
  ⟨(dump_round_trip bitText 3 sampleValue_canonical).1 (by decide),
    (dump_round_trip bitText 1 sampleValue_canonical).2.1 (by decide)⟩

/-- Whatever bytes were accepted, the value that they denote is well formed, it can be
dumped where the stack holds a call for each byte, and the parser reads the dumped text
as the same value. -/
theorem parse_dump_parse (floats : FloatText) (stack : Nat) {input : Str} {j : Json}
    (h : floats.json.parse input = .ok j) :
    j.Canonical ∧ j.depth ≤ input.length + 1 ∧
      (j.depth ≤ stack → ∃ text, floats.json.dumpOn stack j = pure text ∧
        floats.json.parse text = .ok j) := by
  have hj : j.Canonical := parse_canonical h
  have hdump := dump_canonical floats hj
  refine ⟨hj, depth_le_of_parse h, fun hdepth => ⟨_, ?_, hdump.2⟩⟩
  rw [JsonText.dumpOn_eq j hdepth, hdump.1]
  rfl

theorem parse_dump_parse_sample :
    ∃ text, bitText.json.dumpOn 3 sampleValue = pure text ∧
      bitText.json.parse text = .ok sampleValue :=
  (parse_dump_parse bitText 3 (dump_canonical bitText sampleValue_canonical).2).2.2 (by decide)

end SdvGateway.Common.JsonParser
