import Mathlib.Logic.Basic

/-! Machines that answer every call, and the simulation rule between two of
them. -/
namespace SdvGateway.Library

abbrev Transducer (σ ι ο : Type) := σ → ι → ο × σ

namespace Transducer

def run (machine : Transducer σ ι ο) : σ → List ι → List ο × σ
  | s, [] => ([], s)
  | s, call :: rest =>
    let (answer, s') := machine s call
    let (answers, final) := run machine s' rest
    (answer :: answers, final)

theorem run_cons (machine : Transducer σ ι ο) (s : σ) (call : ι) (rest : List ι) :
    machine.run s (call :: rest) =
      ((machine s call).1 :: (machine.run (machine s call).2 rest).1,
        (machine.run (machine s call).2 rest).2) :=
  rfl

theorem run_append (machine : Transducer σ ι ο) (s : σ) (first second : List ι) :
    (machine.run s (first ++ second)).2 = (machine.run (machine.run s first).2 second).2 := by
  induction first generalizing s with
  | nil => rfl
  | cons call rest ih =>
    rw [List.cons_append, run_cons, run_cons]
    exact ih _

theorem invariant_run {machine : Transducer σ ι ο} {I : σ → Prop}
    (hstep : ∀ s call, I s → I (machine s call).2) {s : σ} (hs : I s) (calls : List ι) :
    I (machine.run s calls).2 := by
  induction calls generalizing s with
  | nil => exact hs
  | cons call rest ih =>
    rw [run_cons]
    exact ih (hstep s call hs)

/-- The relation may speak of the calls that are still to come. -/
theorem run_simulates {concrete : Transducer σ ι ο} {abstract : Transducer τ ι ο}
    {R : List ι → σ → τ → Prop}
    (hstep : ∀ call rest s t, R (call :: rest) s t →
      (concrete s call).1 = (abstract t call).1 ∧
        R rest (concrete s call).2 (abstract t call).2)
    {s : σ} {t : τ} (calls : List ι) (hrelated : R calls s t) :
    (concrete.run s calls).1 = (abstract.run t calls).1 ∧
      R [] (concrete.run s calls).2 (abstract.run t calls).2 := by
  induction calls generalizing s t with
  | nil => exact ⟨rfl, hrelated⟩
  | cons call rest ih =>
    obtain ⟨hanswer, hnext⟩ := hstep call rest s t hrelated
    obtain ⟨hanswers, hfinal⟩ := ih hnext
    rw [run_cons, run_cons, hanswer, hanswers]
    exact ⟨rfl, hfinal⟩

end Transducer

end SdvGateway.Library
