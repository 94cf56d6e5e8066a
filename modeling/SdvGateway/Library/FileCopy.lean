import Mathlib.Data.List.Basic

/-! Copying one file over another, when the copy can fail half way. The
destination is truncated on opening and then filled from the front, so at any
moment after that it holds a prefix of the source. -/
namespace SdvGateway.Library.FileCopy

/-- How a copy goes: `progress` lists sizes at which the destination is seen
before the copy ends. A refused copy fails before it opens the destination. -/
inductive Outcome where
  | copied (progress : List Nat)
  | refused
  | broken (progress : List Nat) (written : Nat)
deriving DecidableEq

namespace Outcome

def succeeded : Outcome → Bool
  | .copied _ => true
  | _ => false

def contents (source : List α) : Outcome → List (List α)
  | .copied progress => [] :: (progress.map source.take ++ [source])
  | .refused => []
  | .broken progress written => [] :: (progress.map source.take ++ [source.take written])

def result (source : List α) (destination : Option (List α)) : Outcome → Option (List α)
  | .copied _ => some source
  | .refused => destination
  | .broken _ written => some (source.take written)

@[simp] theorem result_of_succeeded {outcome : Outcome} (h : outcome.succeeded = true)
    (source : List α) (destination : Option (List α)) :
    outcome.result source destination = some source := by
  cases outcome <;> simp_all [succeeded, result]

end Outcome

end SdvGateway.Library.FileCopy
