/-
The powers that numbers are written with, of two and of ten.
-/
namespace QueryText

/-- Two to the power. -/
def twoTo (n : Nat) : Nat :=
  Nat.pow 2 n

/-- Ten to the power. -/
def tenTo (n : Nat) : Nat :=
  Nat.pow 10 n

end QueryText
