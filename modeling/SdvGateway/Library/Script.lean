import SdvGateway.Library.Execution

/-! Scripts that call a service. A call may be refused, and it may take effect and fail all
the same; the script may end between any two calls. -/
namespace SdvGateway.Library

inductive Reply where
  | done
  | refused
  | lost
deriving DecidableEq

/-- The service and how the next calls go. Where no reply is left, the script ends. -/
structure Session (σ : Type) where
  service : σ
  replies : List Reply

abbrev Script (ε σ α : Type) := Program ε (Session σ) Unit α

namespace Script

/-- A call, and what the caller raises when it gets no answer. -/
def call (failure : ε) (operation : σ → Except ε α × σ) : Script ε σ α :=
  fun s =>
    match s.replies with
    | [] => ⟨.error failure, s, []⟩
    | .refused :: rest => ⟨.error failure, ⟨s.service, rest⟩, []⟩
    | .lost :: rest => ⟨.error failure, ⟨(operation s.service).2, rest⟩, []⟩
    | .done :: rest => ⟨(operation s.service).1, ⟨(operation s.service).2, rest⟩, []⟩

/-- From a service with `P` the script returns with `Q` or raises with `E`. -/
def Spec (P : σ → Prop) (script : Script ε σ α) (Q : α → σ → Prop) (E : ε → σ → Prop) : Prop :=
  ∀ s, P s.service →
    match script s with
    | ⟨.ok a, s', _⟩ => Q a s'.service
    | ⟨.error e, s', _⟩ => E e s'.service

section
variable {P : σ → Prop} {Q : α → σ → Prop} {E : ε → σ → Prop}

theorem Spec.pure {a : α} (h : ∀ s, P s → Q a s) : Spec P (pure a : Script ε σ α) Q E :=
  fun s hs => h s.service hs

theorem Spec.assume {script : Script ε σ α} {fact : Prop} (h : fact → Spec P script Q E) :
    Spec (fun s => fact ∧ P s) script Q E :=
  fun s hs => h hs.1 s hs.2

theorem Spec.weaken {P' : σ → Prop} {Q' : α → σ → Prop} {script : Script ε σ α}
    (h : Spec P script Q E) (hP : ∀ s, P' s → P s) (hQ : ∀ a s, Q a s → Q' a s) :
    Spec P' script Q' E := by
  intro s hs
  have hrun := h s (hP _ hs)
  cases hscript : script s with
  | mk outcome s' trace =>
    rw [hscript] at hrun
    cases outcome with
    | ok a => exact hQ a _ hrun
    | error e => exact hrun

theorem Spec.throw {e : ε} (h : ∀ s, P s → E e s) :
    Spec P (Program.throw e : Script ε σ α) Q E :=
  fun s hs => h s.service hs

theorem Spec.bind {script : Script ε σ β} {next : β → Script ε σ α} {R : β → σ → Prop}
    (h : Spec P script R E) (hnext : ∀ b, Spec (R b) (next b) Q E) :
    Spec P (script >>= next) Q E := by
  intro s hs
  have hfirst := h s hs
  cases hrun : script s with
  | mk outcome s' trace =>
    rw [hrun] at hfirst
    cases outcome with
    | ok b =>
      rw [Program.bind_ok hrun]
      have hsecond := hnext b s' hfirst
      cases hlast : next b s' with
      | mk outcome s'' trace' =>
        rw [hlast] at hsecond
        cases outcome <;> exact hsecond
    | error e =>
      rw [Program.bind_error hrun]
      exact hfirst

theorem Spec.tryCatch {script : Script ε σ α} {handler : ε → Script ε σ α} {F : ε → σ → Prop}
    (h : Spec P script Q F) (hhandler : ∀ e, Spec (F e) (handler e) Q E) :
    Spec P (Program.tryCatch script handler) Q E := by
  intro s hs
  have hfirst := h s hs
  cases hrun : script s with
  | mk outcome s' trace =>
    rw [hrun] at hfirst
    cases outcome with
    | ok a =>
      rw [Program.tryCatch_ok hrun]
      exact hfirst
    | error e =>
      rw [Program.tryCatch_error hrun]
      have hsecond := hhandler e s' hfirst
      cases hlast : handler e s' with
      | mk outcome s'' trace' =>
        rw [hlast] at hsecond
        cases outcome <;> exact hsecond

/-- The effect of a call has to be fine also when its answer does not arrive. -/
theorem Spec.call {failure : ε} {operation : σ → Except ε α × σ}
    (hnone : ∀ s, P s → E failure s) (hlost : ∀ s, P s → E failure (operation s).2)
    (hdone : ∀ s, P s → match operation s with
      | (.ok a, s') => Q a s'
      | (.error e, s') => E e s') :
    Spec P (call failure operation) Q E := by
  rintro ⟨service, replies⟩ hs
  cases replies with
  | nil => exact hnone service hs
  | cons reply rest =>
    cases reply with
    | refused => exact hnone service hs
    | lost => exact hlost service hs
    | done =>
      have hservice := hdone service hs
      unfold Script.call
      dsimp only
      cases hrun : operation service with
      | mk outcome service' =>
        rw [hrun] at hservice
        cases outcome <;> exact hservice

end

section
variable {γ : Type}

def runs (script : γ → Script ε σ α) : σ → List (γ × List Reply) → σ
  | s, [] => s
  | s, (argument, replies) :: rest =>
    runs script (script argument ⟨s, replies⟩).state.service rest

def Completes (script : Script ε σ α) (s : σ) (replies : List Reply) : Prop :=
  ∃ a, (script ⟨s, replies⟩).outcome = .ok a

theorem runs_append (script : γ → Script ε σ α) (s : σ) (first second : List (γ × List Reply)) :
    runs script s (first ++ second) = runs script (runs script s first) second := by
  induction first generalizing s with
  | nil => rfl
  | cons run rest ih => exact ih _

theorem Spec.service {P : σ → Prop} {script : Script ε σ α} {Q : α → σ → Prop} {R : σ → Prop}
    (h : Spec P script Q fun _ => R) (hQ : ∀ a s, Q a s → R s) {s : σ} (hs : P s)
    (replies : List Reply) :
    R (script ⟨s, replies⟩).state.service ∧
      (Completes script s replies → ∃ a, Q a (script ⟨s, replies⟩).state.service) := by
  have hrun := h ⟨s, replies⟩ hs
  unfold Completes
  cases hscript : script ⟨s, replies⟩ with
  | mk outcome s' trace =>
    rw [hscript] at hrun
    cases outcome with
    | ok a => exact ⟨hQ a _ hrun, fun _ => ⟨a, hrun⟩⟩
    | error e => exact ⟨hrun, fun ⟨_, hok⟩ => by cases hok⟩

end

end Script

end SdvGateway.Library
