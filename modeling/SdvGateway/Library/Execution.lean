import Mathlib.Logic.Basic

/-! Straight-line code with a state, exceptions and observable events. A run
keeps its final state and the events it emitted also when it ends in an
exception. -/
namespace SdvGateway.Library

structure Execution (ε σ ω α : Type) where
  outcome : Except ε α
  state : σ
  trace : List ω

def Execution.after (earlier : List ω) (run : Execution ε σ ω α) : Execution ε σ ω α :=
  { run with trace := earlier ++ run.trace }

@[simp] theorem Execution.after_after (first second : List ω) (run : Execution ε σ ω α) :
    (run.after second).after first = run.after (first ++ second) := by
  simp [Execution.after, List.append_assoc]

def Program (ε σ ω α : Type) := σ → Execution ε σ ω α

namespace Program

def bind (program : Program ε σ ω α) (next : α → Program ε σ ω β) : Program ε σ ω β :=
  fun s =>
    match program s with
    | ⟨.ok a, s', trace⟩ => (next a s').after trace
    | ⟨.error e, s', trace⟩ => ⟨.error e, s', trace⟩

instance : Monad (Program ε σ ω) where
  pure a := fun s => ⟨.ok a, s, []⟩
  bind := bind

theorem pure_apply (a : α) (s : σ) : (pure a : Program ε σ ω α) s = ⟨.ok a, s, []⟩ := rfl

theorem bind_ok {program : Program ε σ ω α} {s s' : σ} {a : α} {trace : List ω}
    (h : program s = ⟨.ok a, s', trace⟩) (next : α → Program ε σ ω β) :
    (program >>= next) s = (next a s').after trace := by
  change bind program next s = _
  rw [bind, h]

theorem bind_error {program : Program ε σ ω α} {s s' : σ} {e : ε} {trace : List ω}
    (h : program s = ⟨.error e, s', trace⟩) (next : α → Program ε σ ω β) :
    (program >>= next) s = ⟨.error e, s', trace⟩ := by
  change bind program next s = _
  rw [bind, h]

def emit (event : σ → ω) : Program ε σ ω Unit :=
  fun s => ⟨.ok (), s, [event s]⟩

def modify (change : σ → σ) : Program ε σ ω Unit :=
  fun s => ⟨.ok (), change s, []⟩

theorem emit_apply (event : σ → ω) (s : σ) :
    (emit event : Program ε σ ω Unit) s = ⟨.ok (), s, [event s]⟩ := rfl

theorem modify_apply (change : σ → σ) (s : σ) :
    (modify change : Program ε σ ω Unit) s = ⟨.ok (), change s, []⟩ := rfl

def throw (e : ε) : Program ε σ ω α :=
  fun s => ⟨.error e, s, []⟩

def ofExcept (x : Except ε α) : Program ε σ ω α :=
  fun s => ⟨x, s, []⟩

theorem ofExcept_bind_ok {x : Except ε α} {a : α} (h : x = .ok a)
    (next : α → Program ε σ ω β) (s : σ) : (ofExcept x >>= next) s = next a s := by
  have hrun : (ofExcept x : Program ε σ ω α) s = ⟨.ok a, s, []⟩ := by rw [h, ofExcept]
  rw [bind_ok hrun]
  rfl

theorem ofExcept_bind_error {x : Except ε α} {e : ε} (h : x = .error e)
    (next : α → Program ε σ ω β) (s : σ) :
    (ofExcept x >>= next) s = ⟨.error e, s, []⟩ := by
  have hrun : (ofExcept x : Program ε σ ω α) s = ⟨.error e, s, []⟩ := by rw [h, ofExcept]
  rw [bind_error hrun]

theorem ofExcept_bind_rule {P : Execution ε σ ω β → Prop} {x : Except ε α}
    {next : α → Program ε σ ω β} {s : σ}
    (herror : ∀ e, x = .error e → P ⟨.error e, s, []⟩)
    (hok : ∀ a, x = .ok a → P (next a s)) : P ((ofExcept x >>= next) s) := by
  cases hx : x with
  | error e =>
    rw [ofExcept_bind_error rfl]
    exact herror e hx
  | ok a =>
    rw [ofExcept_bind_ok rfl]
    exact hok a hx

theorem bind_rule {P : Execution ε σ ω β → Prop} {program : Program ε σ ω α}
    {next : α → Program ε σ ω β} {s : σ}
    (herror : ∀ e s' trace, program s = ⟨.error e, s', trace⟩ → P ⟨.error e, s', trace⟩)
    (hok : ∀ a s' trace, program s = ⟨.ok a, s', trace⟩ → P ((next a s').after trace)) :
    P ((program >>= next) s) := by
  cases hrun : program s with
  | mk outcome s' trace =>
    cases outcome with
    | error e =>
      rw [bind_error hrun]
      exact herror e s' trace hrun
    | ok a =>
      rw [bind_ok hrun]
      exact hok a s' trace hrun

theorem trace_bind_pure (program : Program ε σ ω α) (b : β) (s : σ) :
    ((program >>= fun _ => pure b) s).trace = (program s).trace := by
  apply bind_rule (P := fun run => run.trace = (program s).trace)
  · intro e s' trace hrun
    rw [hrun]
  · intro a s' trace hrun
    rw [hrun]
    exact List.append_nil trace

/-- Runs the program on a local variable, and gives its final value back. -/
def withLocal (init : τ) (program : Program ε τ ω α) : Program ε σ ω (α × τ) :=
  fun s => ⟨(program init).outcome.map (·, (program init).state), s, (program init).trace⟩

theorem withLocal_ok {program : Program ε τ ω α} {init final : τ} {a : α} {trace : List ω}
    (h : program init = ⟨.ok a, final, trace⟩) (s : σ) :
    (withLocal init program : Program ε σ ω (α × τ)) s = ⟨.ok (a, final), s, trace⟩ := by
  rw [withLocal, h]
  rfl

/-- `try program catch handler`: the handler starts in the state that the
exception left behind. -/
def tryCatch (program : Program ε σ ω α) (handler : ε → Program ε σ ω α) :
    Program ε σ ω α :=
  fun s =>
    match program s with
    | ⟨.ok a, s', trace⟩ => ⟨.ok a, s', trace⟩
    | ⟨.error e, s', trace⟩ => (handler e s').after trace

theorem tryCatch_ok {program : Program ε σ ω α} {s s' : σ} {a : α} {trace : List ω}
    (h : program s = ⟨.ok a, s', trace⟩) (handler : ε → Program ε σ ω α) :
    tryCatch program handler s = ⟨.ok a, s', trace⟩ := by
  rw [tryCatch, h]

theorem tryCatch_error {program : Program ε σ ω α} {s s' : σ} {e : ε} {trace : List ω}
    (h : program s = ⟨.error e, s', trace⟩) (handler : ε → Program ε σ ω α) :
    tryCatch program handler s = (handler e s').after trace := by
  rw [tryCatch, h]

end Program

end SdvGateway.Library
