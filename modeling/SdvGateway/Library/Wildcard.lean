import Mathlib.Data.List.Infix

/-! Patterns with two wildcards: `star` stands for any text, `any` for one symbol. -/
namespace SdvGateway.Library.Wildcard

variable {α : Type} {star any : α}

def Literal (star any : α) (text : List α) : Prop := star ∉ text ∧ any ∉ text

theorem Literal.append {text more : List α} (h : Literal star any text)
    (hmore : Literal star any more) : Literal star any (text ++ more) :=
  ⟨by simp [h.1, hmore.1], by simp [h.2, hmore.2]⟩

theorem eq_of_append_cons_eq {sep : α} {before before' after after' : List α}
    (h : before ++ sep :: after = before' ++ sep :: after') (hafter : sep ∉ after)
    (hafter' : sep ∉ after') : after = after' := by
  rcases List.append_eq_append_iff.mp h with ⟨middle, _, hmiddle⟩ | ⟨middle, _, hmiddle⟩
  · cases middle with
    | nil => exact (List.cons.inj hmiddle).2
    | cons first rest =>
      rw [List.cons_append, List.cons.injEq] at hmiddle
      exact absurd (hmiddle.2 ▸ by simp) hafter
  · cases middle with
    | nil => exact (List.cons.inj hmiddle).2.symm
    | cons first rest =>
      rw [List.cons_append, List.cons.injEq] at hmiddle
      exact absurd (hmiddle.2 ▸ by simp) hafter'

variable [DecidableEq α]

instance : DecidablePred (Literal star any) := fun _ => inferInstanceAs (Decidable (_ ∧ _))

/-- A first symbol that the given one stands for, and a rest. -/
def takesOne (any symbol : α) (rest : List α → Bool) : List α → Bool
  | [] => false
  | first :: text => (symbol = any || symbol = first) && rest text

def accepts (star any : α) : List α → List α → Bool
  | [], text => text.isEmpty
  | symbol :: pattern, text =>
    if symbol = star then text.tails.any (accepts star any pattern)
    else takesOne any symbol (accepts star any pattern) text

theorem accepts_star {pattern text : List α} :
    accepts star any (star :: pattern) text = true ↔
      ∃ skipped rest, text = skipped ++ rest ∧ accepts star any pattern rest = true := by
  rw [accepts, if_pos rfl, List.any_eq_true]
  constructor
  · rintro ⟨rest, hrest, hmatch⟩
    obtain ⟨skipped, rfl⟩ := (List.mem_tails _ _).mp hrest
    exact ⟨skipped, rest, rfl, hmatch⟩
  · rintro ⟨skipped, rest, rfl, hmatch⟩
    exact ⟨rest, (List.mem_tails _ _).mpr ⟨skipped, rfl⟩, hmatch⟩

theorem accepts_literal_append {literal pattern text : List α}
    (h : Literal star any literal) :
    accepts star any (literal ++ pattern) text = true ↔
      ∃ rest, text = literal ++ rest ∧ accepts star any pattern rest = true := by
  induction literal generalizing text with
  | nil => simp
  | cons symbol literal ih =>
    obtain ⟨hstar, hany⟩ := h
    rw [List.mem_cons, not_or] at hstar hany
    rw [List.cons_append, accepts, if_neg (Ne.symm hstar.1)]
    cases text with
    | nil => simp [takesOne]
    | cons first rest =>
      have hrest : accepts star any (literal ++ pattern) rest = true ↔
          ∃ tail, rest = literal ++ tail ∧ accepts star any pattern tail = true :=
        ih ⟨hstar.2, hany.2⟩
      simp only [takesOne, Bool.and_eq_true, Bool.or_eq_true, decide_eq_true_eq, Ne.symm hany.1,
        false_or, hrest, List.cons_append, List.cons.injEq]
      constructor
      · rintro ⟨rfl, tail, hsplit, hmatch⟩
        exact ⟨tail, ⟨rfl, hsplit⟩, hmatch⟩
      · rintro ⟨tail, ⟨hfirst, hsplit⟩, hmatch⟩
        exact ⟨hfirst.symm, tail, hsplit, hmatch⟩

theorem accepts_literal {literal text : List α} (h : Literal star any literal) :
    accepts star any literal text = true ↔ text = literal := by
  have happend : accepts star any (literal ++ []) text = true ↔
      ∃ rest, text = literal ++ rest ∧ accepts star any [] rest = true :=
    accepts_literal_append h
  rw [List.append_nil] at happend
  simp [happend, accepts]

end SdvGateway.Library.Wildcard
