import SdvGateway.Gateway.OtaStatus

/-! The check of the downloaded file, on whole files: what reaches the hash, and
which expected hashes are accepted. -/
namespace SdvGateway.Gateway.WholeFile
open Common FirmwareHash OtaAgent OtaFlow

def lowerHexValue (digit : UInt8) : Option UInt8 :=
  if 0x30 ≤ digit ∧ digit ≤ 0x39 then some (digit - 0x30)
  else if 0x61 ≤ digit ∧ digit ≤ 0x66 then some (digit - 0x61 + 10)
  else none

def readHex : Str → Option Bytes
  | [] => some []
  | [_] => none
  | high :: low :: rest => do
    let highValue ← lowerHexValue high
    let lowValue ← lowerHexValue low
    let bytes ← readHex rest
    return (16 * highValue + lowValue) :: bytes

theorem lowerHexValue_hexDigit {n : UInt8} (h : n < 16) : lowerHexValue (hexDigit n) = some n := by
  unfold hexDigit lowerHexValue
  grind

theorem hexDigit_of_lowerHexValue {digit n : UInt8} (h : lowerHexValue digit = some n) :
    n < 16 ∧ hexDigit n = digit := by
  unfold lowerHexValue at h
  unfold hexDigit
  grind

private theorem halves (byte : UInt8) :
    byte / 16 < 16 ∧ byte % 16 < 16 ∧ 16 * (byte / 16) + byte % 16 = byte := by
  grind

private theorem halves_of_pair {high low : UInt8} (hhigh : high < 16) (hlow : low < 16) :
    (16 * high + low) / 16 = high ∧ (16 * high + low) % 16 = low := by
  grind

theorem readHex_hex (bytes : Bytes) : readHex (bytes.flatMap hexByte) = some bytes := by
  induction bytes with
  | nil => rfl
  | cons byte rest ih =>
    obtain ⟨hhigh, hlow, hsum⟩ := halves byte
    rw [List.flatMap_cons, hexByte]
    simp [readHex, lowerHexValue_hexDigit hhigh, lowerHexValue_hexDigit hlow, ih, hsum]

private theorem hex_of_readHex {text : Str} {bytes : Bytes} (h : readHex text = some bytes) :
    text = bytes.flatMap hexByte := by
  induction text using readHex.induct generalizing bytes with
  | case1 =>
    cases h
    rfl
  | case2 => cases h
  | case3 high low rest ih =>
    simp only [readHex, Option.bind_eq_bind, Option.bind_eq_some_iff] at h
    obtain ⟨highValue, hhigh, lowValue, hlow, bytes, hrest, h⟩ := h
    cases h
    obtain ⟨hhighLt, hhighDigit⟩ := hexDigit_of_lowerHexValue hhigh
    obtain ⟨hlowLt, hlowDigit⟩ := hexDigit_of_lowerHexValue hlow
    obtain ⟨hdiv, hmod⟩ := halves_of_pair hhighLt hlowLt
    rw [List.flatMap_cons, hexByte, hdiv, hmod, hhighDigit, hlowDigit, ← ih hrest]
    rfl

/-- The lowercase digits of a digest, each byte as two of them. -/
def IsHexOf (text : Str) (digest : Vector UInt8 32) : Prop :=
  text.length = 64 ∧ readHex text = some digest.toList

private theorem isHexOf_iff (text : Str) (digest : Vector UInt8 32) :
    IsHexOf text digest ↔ hex digest = text := by
  unfold IsHexOf hex
  refine ⟨?_, ?_⟩
  · intro h
    exact (hex_of_readHex h.2).symm
  · rintro rfl
    refine ⟨?_, ?_⟩
    · simp [List.length_flatMap, hexByte]
    · exact readHex_hex _

/-- The hash sees all bytes of the file and no others, in finitely many rounds, and
an expected hash is accepted when its digits are those of the file's digest. -/
theorem verifySha256_whole_file (env : Env) {o : Outcomes} (hopens : o.verifyOpens = true)
    {files : Files} {bytes : Bytes} (hfile : files .firmware = some bytes)
    (expectedHash : Str) :
    (∀ fuel, bytes.length + 2 ≤ fuel →
        ∃ chunks, readLoop fuel (.ofBytes bytes) = some chunks ∧ chunks.flatten = bytes) ∧
      ∃ accepted, (verifySha256 env o expectedHash files).outcome = .ok accepted ∧
        (accepted = true ↔ IsHexOf expectedHash (env.sha.digest bytes)) := by
  refine ⟨?_, ?_⟩
  · intro fuel hfuel
    exact readLoop_flatten fuel (.ofBytes bytes) rfl hfuel
  · refine ⟨accepts env o expectedHash files, ?_, ?_⟩
    · rw [verifySha256_run]
    · rw [isHexOf_iff, accepts]
      simp [hfile, hopens]

theorem verifySha256_whole_file_abc :
    (∀ fuel, (lit "abc").length + 2 ≤ fuel →
        ∃ chunks, readLoop fuel (.ofBytes (lit "abc")) = some chunks ∧
          chunks.flatten = lit "abc") ∧
      ∃ accepted, (verifySha256 OtaStatus.sampleEnv OtaStatus.sampleOutcomes OtaStatus.sampleHash
          fun _ => some (lit "abc")).outcome = .ok accepted ∧
        (accepted = true ↔
          IsHexOf OtaStatus.sampleHash (OtaStatus.sampleEnv.sha.digest (lit "abc"))) :=
  verifySha256_whole_file OtaStatus.sampleEnv (o := OtaStatus.sampleOutcomes) rfl rfl
    OtaStatus.sampleHash

end SdvGateway.Gateway.WholeFile
