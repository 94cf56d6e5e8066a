import Mathlib.Algebra.Ring.Nat
import Mathlib.Data.List.Forall2

/-! Numbers written with a fixed number of digits. Records of such numbers are
ordered as texts the way they are ordered as sequences of numbers. -/
namespace SdvGateway.Library.FixedWidth

def digits (base : Nat) (digit : Nat → α) : Nat → Nat → List α
  | 0, _ => []
  | width + 1, n => digits base digit width (n / base) ++ [digit (n % base)]

@[simp] theorem length_digits (base : Nat) (digit : Nat → α) (width n : Nat) :
    (digits base digit width n).length = width := by
  induction width generalizing n with
  | zero => rfl
  | succ width ih => rw [digits, List.length_append, ih, List.length_singleton]

theorem append_lt_append [LT α] {a a' : List α} (hlength : a.length = a'.length) (h : a < a')
    (b b' : List α) : a ++ b < a' ++ b' := by
  induction a generalizing a' with
  | nil =>
    rw [List.eq_nil_of_length_eq_zero hlength.symm] at h
    exact absurd h (List.not_lt_nil [])
  | cons x rest ih =>
    cases a' with
    | nil => cases hlength
    | cons x' rest' =>
      rw [List.cons_lt_cons_iff] at h
      rw [List.cons_append, List.cons_append, List.cons_lt_cons_iff]
      cases h with
      | inl hfirst => exact Or.inl hfirst
      | inr hrest => exact Or.inr ⟨hrest.1, ih (Nat.succ.inj hlength) hrest.2⟩

section
variable [LT α] {base : Nat} {digit : Nat → α}

theorem digits_lt (hdigit : ∀ a b, a < b → b < base → digit a < digit b) {width n n' : Nat}
    (h : n < n') (hfits : n' < base ^ width) :
    digits base digit width n < digits base digit width n' := by
  induction width generalizing n n' with
  | zero =>
    rw [Nat.pow_zero] at hfits
    omega
  | succ width ih =>
    have hbase : 0 < base := by
      apply Nat.pos_of_ne_zero
      rintro rfl
      simp at hfits
    have hhigh : n' / base < base ^ width := by
      rw [Nat.div_lt_iff_lt_mul hbase, ← Nat.pow_succ]
      exact hfits
    have hsplit := Nat.div_add_mod n base
    have hsplit' := Nat.div_add_mod n' base
    unfold digits
    by_cases hsame : n / base = n' / base
    · rw [hsame] at hsplit ⊢
      have hlow : n % base < n' % base := by omega
      apply List.append_left_lt
      rw [List.cons_lt_cons_iff]
      exact Or.inl (hdigit _ _ hlow (Nat.mod_lt _ hbase))
    · have hle : n / base ≤ n' / base := Nat.div_le_div_right (Nat.le_of_lt h)
      apply append_lt_append
      · rw [length_digits, length_digits]
      · exact ih (by omega) hhigh

/-- A record is laid out as numbers of given widths with fixed text after each. -/
def render (base : Nat) (digit : Nat → α) : List (Nat × List α) → List Nat → List α
  | (width, after) :: layout, n :: values =>
    digits base digit width n ++ after ++ render base digit layout values
  | _, _ => []

def Fits (base : Nat) : List (Nat × List α) → List Nat → Prop :=
  List.Forall₂ fun field n => n < base ^ field.1

theorem render_lt (hdigit : ∀ a b, a < b → b < base → digit a < digit b)
    {layout : List (Nat × List α)} {values values' : List Nat} (hfits : Fits base layout values)
    (hfits' : Fits base layout values') (h : values < values') :
    render base digit layout values < render base digit layout values' := by
  induction hfits generalizing values' with
  | nil =>
    cases hfits'
    exact absurd h (List.not_lt_nil [])
  | @cons field n layout values hn hrest ih =>
    cases hfits' with
    | @cons _ n' _ values' hn' hrest' =>
      unfold render
      rw [List.append_assoc, List.append_assoc]
      rw [List.cons_lt_cons_iff] at h
      cases h with
      | inl hfirst =>
        apply append_lt_append
        · rw [length_digits, length_digits]
        · exact digits_lt hdigit hfirst hn'
      | inr hlater =>
        rw [hlater.1]
        exact List.append_left_lt (List.append_left_lt (ih hrest' hlater.2))

end

end SdvGateway.Library.FixedWidth
