/-!
# Sets of characters as ranges of code points

The properties of characters that messages depend on are data of the Unicode Standard. Each is a
list of closed ranges in increasing order, and a character has the property when one range holds it.
-/

namespace Sierra.Text

set_option autoImplicit false

abbrev CodeRange := Nat × Nat

def CodeRange.holds (range : CodeRange) (c : Char) : Bool :=
  range.1 ≤ c.toNat && c.toNat ≤ range.2

def inRanges (ranges : List CodeRange) (c : Char) : Bool :=
  ranges.any (fun range => range.holds c)

end Sierra.Text
