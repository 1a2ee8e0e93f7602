/-! Sets of characters as ranges of code points. -/

namespace ClusterPower.Text

abbrev Ranges := List (Nat × Nat)

def inRanges (ranges : Ranges) (character : Char) : Bool :=
  ranges.any fun (first, last) => first ≤ character.toNat && character.toNat ≤ last

end ClusterPower.Text
