import Mathlib.Order.Lattice

/-!
# Registers that keep the newest value

Values that carry a version are offered to a register, in any order.  It takes a value if it is
newer than the last one it took.
-/

set_option autoImplicit false

namespace Xblob.Computation

variable {α β : Type*} [LinearOrder β] {version : α → β} {last : β} {offered : List α}

/-- The values that a register takes, after one of version `last`. -/
def taken (version : α → β) (last : β) : List α → List α
  | [] => []
  | a :: offered =>
    if version a ≤ last then taken version last offered
    else a :: taken version (version a) offered

end Xblob.Computation
