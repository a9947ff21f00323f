/-!
# Powers of two and ten

The scales of binary numbers and of decimals.
-/

namespace ClassModel.Floating

/-- A power of two. -/
def twoTo (n : Nat) : Nat := Nat.pow 2 n

/-- A power of ten. -/
def tenTo (n : Nat) : Nat := Nat.pow 10 n

end ClassModel.Floating
