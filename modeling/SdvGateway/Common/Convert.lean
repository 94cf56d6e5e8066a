import SdvGateway.Common.Text

/-! Character classes and conversions of the standard library, in the "C" locale
and with 64-bit `unsigned long`. -/
namespace SdvGateway.Common

def isSpace (byte : UInt8) : Bool := byte = 0x20 || (0x09 ≤ byte && byte ≤ 0x0D)

def isDigit (byte : UInt8) : Bool := 0x30 ≤ byte && byte ≤ 0x39

def isAlpha (byte : UInt8) : Bool :=
  (0x41 ≤ byte && byte ≤ 0x5A) || (0x61 ≤ byte && byte ≤ 0x7A)

def isWord (byte : UInt8) : Bool := isAlpha byte || isDigit byte || byte = 0x5F

inductive StdException where
  | invalidArgument
  | outOfRange
deriving DecidableEq

theorem bind_eq_ok (x : Except ε α) (next : α → Except ε β) (b : β) :
    (x >>= next) = .ok b ↔ ∃ a, x = .ok a ∧ next a = .ok b := by
  cases x with
  | error e => simp [bind, Except.bind]
  | ok a => simp [bind, Except.bind]

theorem exists_of_mapM {f : α → Except ε β} {l : List α} {results : List β}
    (h : l.mapM f = .ok results) {a : α} (ha : a ∈ l) : ∃ b ∈ results, f a = .ok b := by
  induction l generalizing results with
  | nil => cases ha
  | cons first rest ih =>
    simp only [List.mapM_cons, bind_eq_ok] at h
    obtain ⟨b, hb, others, hothers, h⟩ := h
    cases h
    cases List.mem_cons.mp ha with
    | inl heq =>
      subst heq
      exact ⟨b, List.mem_cons_self, hb⟩
    | inr hmem =>
      obtain ⟨c, hc, hfc⟩ := ih hothers hmem
      exact ⟨c, List.mem_cons_of_mem _ hc, hfc⟩

def decimal (digits : Str) : Nat :=
  digits.foldl (fun n digit => 10 * n + (digit.toNat - 0x30)) 0

/-- `std::stoul` reads the longest number at the start of the string. -/
def stoul (s : Str) : Except StdException UInt64 :=
  let body := s.dropWhile isSpace
  let (negative, digits) := match body with
    | 0x2B :: rest => (false, rest.takeWhile isDigit)
    | 0x2D :: rest => (true, rest.takeWhile isDigit)
    | _ => (false, body.takeWhile isDigit)
  if digits = [] then .error .invalidArgument
  else if 2 ^ 64 ≤ decimal digits then .error .outOfRange
  else .ok (if negative then -UInt64.ofNat (decimal digits) else UInt64.ofNat (decimal digits))

private theorem isSpace_of_isDigit {byte : UInt8} (h : isDigit byte = true) :
    isSpace byte = false := by
  simp only [isDigit, Bool.and_eq_true, decide_eq_true_eq, UInt8.le_iff_toNat_le] at h
  simp only [isSpace, Bool.or_eq_false_iff, decide_eq_false_iff_not, Bool.and_eq_false_iff,
    UInt8.le_iff_toNat_le, ← UInt8.toNat_inj]
  simp at h ⊢
  omega

theorem stoul_digits {digits : Str} (hne : digits ≠ []) (h : ∀ byte ∈ digits, isDigit byte = true) :
    stoul digits =
      if 2 ^ 64 ≤ decimal digits then .error .outOfRange
      else .ok (UInt64.ofNat (decimal digits)) := by
  obtain ⟨first, rest, rfl⟩ := List.exists_cons_of_ne_nil hne
  have hfirst : isDigit first = true := h first List.mem_cons_self
  have hbody : (first :: rest).dropWhile isSpace = first :: rest := by
    rw [List.dropWhile_cons_of_neg]
    simp [isSpace_of_isDigit hfirst]
  have hdigits : (first :: rest).takeWhile isDigit = first :: rest :=
    List.takeWhile_eq_self_iff.mpr h
  have hplus : first ≠ 0x2B := by
    rintro rfl
    exact absurd hfirst (by decide)
  have hminus : first ≠ 0x2D := by
    rintro rfl
    exact absurd hfirst (by decide)
  unfold stoul
  simp only [hbody]
  split
  · next hcons => exact absurd (List.cons.inj hcons).1 hplus
  · next hcons => exact absurd (List.cons.inj hcons).1 hminus
  · simp [hdigits]

end SdvGateway.Common
