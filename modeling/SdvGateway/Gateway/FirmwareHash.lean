import SdvGateway.Common.Json

/-! The digest of the downloaded file. The file is read in 64 KiB blocks and
each block goes to the incremental hash; the loop ends on the first read that
fails without delivering a byte. -/
namespace SdvGateway.Gateway.FirmwareHash
open Common

/-- The incremental SHA-256 of the crypto library. Its result depends only on
the concatenation of the updates. -/
structure Sha256 where
  Context : Type
  init : Context
  update : Context → Bytes → Context
  final : Context → Vector UInt8 32
  digest : Bytes → Vector UInt8 32
  final_updates : ∀ chunks : List Bytes, final (chunks.foldl update init) = digest chunks.flatten

def Sha256.ofDigest (digest : Bytes → Vector UInt8 32) : Sha256 where
  Context := Bytes
  init := []
  update := (· ++ ·)
  final := digest
  digest := digest
  final_updates := by
    intro chunks
    have h : ∀ start : Bytes, chunks.foldl (· ++ ·) start = start ++ chunks.flatten := by
      induction chunks with
      | nil => intro start; simp
      | cons chunk rest ih => intro start; simp [ih, List.append_assoc]
    rw [h, List.nil_append]

/-- An open `std::ifstream`: `good` is false once a read came up short. -/
structure Ifstream where
  rest : Bytes
  good : Bool
  gcount : Nat

def Ifstream.ofBytes (bytes : Bytes) : Ifstream := ⟨bytes, true, 0⟩

def Ifstream.read (file : Ifstream) (size : Nat) : Bytes × Ifstream :=
  if file.good then
    if size ≤ file.rest.length then
      (file.rest.take size, ⟨file.rest.drop size, true, size⟩)
    else (file.rest, ⟨[], false, file.rest.length⟩)
  else ([], { file with gcount := 0 })

def bufferSize : Nat := 65536

/-- `while (file.read(buf, sizeof(buf)) || file.gcount() > 0)`, collecting the
chunks passed to the hash. -/
def readLoop : Nat → Ifstream → Option (List Bytes)
  | 0, _ => none
  | fuel + 1, file =>
    let (chunk, next) := file.read bufferSize
    if next.good || 0 < next.gcount then
      (readLoop fuel next).map (chunk :: ·)
    else some []

/-- The chunks `EVP_DigestUpdate` sees for a file. Every iteration but the last
two consumes a full buffer, so the length bounds their number. -/
def hashedChunks (bytes : Bytes) : Option (List Bytes) :=
  readLoop (bytes.length + 2) (.ofBytes bytes)

def hashFile (sha : Sha256) (bytes : Bytes) : Option (Vector UInt8 32) :=
  (hashedChunks bytes).map fun chunks => sha.final (chunks.foldl sha.update sha.init)

def hexByte (byte : UInt8) : Str := [hexDigit (byte / 16), hexDigit (byte % 16)]

def hex (digest : Vector UInt8 32) : Str := digest.toList.flatMap hexByte

private theorem readLoop_closed (fuel : Nat) (file : Ifstream) (h : file.good = false) :
    readLoop (fuel + 1) file = some [] := by
  simp [readLoop, Ifstream.read, h]

theorem readLoop_flatten (fuel : Nat) (file : Ifstream) (hgood : file.good = true)
    (hfuel : file.rest.length + 2 ≤ fuel) :
    ∃ chunks, readLoop fuel file = some chunks ∧ chunks.flatten = file.rest := by
  induction fuel generalizing file with
  | zero => omega
  | succ fuel ih =>
    by_cases hfull : bufferSize ≤ file.rest.length
    · have hread : file.read bufferSize =
          (file.rest.take bufferSize, ⟨file.rest.drop bufferSize, true, bufferSize⟩) := by
        simp [Ifstream.read, hgood, hfull]
      have hrest : (file.rest.drop bufferSize).length + 2 ≤ fuel := by
        simp only [List.length_drop, bufferSize] at hfull ⊢
        omega
      obtain ⟨chunks, hchunks, hflat⟩ :=
        ih ⟨file.rest.drop bufferSize, true, bufferSize⟩ rfl hrest
      refine ⟨file.rest.take bufferSize :: chunks, ?_, ?_⟩
      · simp [readLoop, hread, hchunks]
      · simp [hflat]
    · have hread : file.read bufferSize = (file.rest, ⟨[], false, file.rest.length⟩) := by
        simp [Ifstream.read, hgood, hfull]
      obtain ⟨fuel, rfl⟩ : ∃ m, fuel = m + 1 := ⟨fuel - 1, by omega⟩
      by_cases hempty : file.rest = []
      · exact ⟨[], by simp [readLoop, hread, hempty], by simp [hempty]⟩
      · refine ⟨[file.rest], ?_, by simp⟩
        have hpos : 0 < file.rest.length := List.length_pos_iff.mpr hempty
        rw [readLoop, hread]
        simp [hpos, readLoop_closed]

private theorem hashedChunks_flatten (bytes : Bytes) :
    ∃ chunks, hashedChunks bytes = some chunks ∧ chunks.flatten = bytes :=
  readLoop_flatten _ _ rfl (le_refl _)

@[simp] theorem hashFile_eq (sha : Sha256) (bytes : Bytes) :
    hashFile sha bytes = some (sha.digest bytes) := by
  obtain ⟨chunks, hchunks, hflat⟩ := hashedChunks_flatten bytes
  simp [hashFile, hchunks, sha.final_updates, hflat]

end SdvGateway.Gateway.FirmwareHash
