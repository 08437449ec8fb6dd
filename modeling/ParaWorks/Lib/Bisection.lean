import Mathlib.Tactic.ByContra
import Mathlib.Tactic.SplitIfs

/-!
# Bisection

The search for the last number with a property that holds up to some point.
-/

namespace ParaWorks.Lib

/-- The loop from `low` to `high`, with the best number so far. -/
def bisect (holds : Nat → Bool) : Nat → Nat → Nat → Nat → Nat
  | 0, _, _, best => best
  | fuel+1, low, high, best =>
    if low ≤ high then
      let midpoint := (low+high)/2
      if holds midpoint then bisect holds fuel (midpoint+1) high midpoint
      else bisect holds fuel low (midpoint-1) best
    else best

section bisect

variable {holds : Nat → Bool} {limit : Nat}

end bisect

end ParaWorks.Lib
