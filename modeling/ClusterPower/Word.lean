/-! The numbers that machine words hold. -/

namespace ClusterPower.Word

def bound (width : Nat) : Nat := Nat.pow 2 width

def signedBound (width : Nat) : Nat := Nat.pow 2 (width - 1)

def holdsSigned (width : Nat) (value : Int) : Bool :=
  decide (-(signedBound width : Int) ≤ value ∧ value < signedBound width)

example : holdsSigned 8 (-128) = true ∧ holdsSigned 8 128 = false := by decide

end ClusterPower.Word
