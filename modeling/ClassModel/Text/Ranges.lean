/-!
# Character properties given by ranges

A property of characters is a list of closed ranges of code points; a character has the property
when some range holds its code point.
-/

namespace ClassModel.Text

/-- Closed ranges of code points, lowest first. -/
abbrev Ranges := List (Nat × Nat)

/-- Whether some range holds the character. -/
def Ranges.has (ranges : Ranges) (c : Char) : Bool :=
  ranges.any fun range => range.1 ≤ c.toNat && c.toNat ≤ range.2

end ClassModel.Text
