/-!
Sets of characters, given as closed ranges of code points in ascending order.
-/

namespace EntityScaffold.Text

/-- Closed ranges of code points, in ascending order and apart from each other. -/
abbrev CharSet := List (Nat × Nat)

namespace CharSet

/-- Whether a code point lies in one of the ranges. The search stops at the first range that
begins after it. -/
def hasCode : CharSet → Nat → Bool
  | [], _ => false
  | (first, last) :: rest, code =>
    if code < first then false else if code ≤ last then true else hasCode rest code

def has (set : CharSet) (c : Char) : Bool := set.hasCode c.toNat

end CharSet

end EntityScaffold.Text
