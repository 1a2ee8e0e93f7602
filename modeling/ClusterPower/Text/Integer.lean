import ClusterPower.Word

/-!
Integers in decimal. A sign may stand in front; after it there are ASCII digits
and nothing else, at least one.
-/

namespace ClusterPower.Text

/-- The number that ASCII digits write; none if any character is not a digit. -/
def digitsValue? (characters : List Char) : Option Nat :=
  if characters.isEmpty then none
  else characters.foldlM (fun value character =>
    if character.isDigit then some (value * 10 + (character.toNat - '0'.toNat)) else none) 0

def naturalBelow? (bound : Nat) (text : String) : Option Nat :=
  let digits :=
    match text.toList with
    | '+' :: rest => rest
    | characters => characters
  (digitsValue? digits).filter (· < bound)

def int64? (text : String) : Option Int :=
  match text.toList with
  | '-' :: rest => ((digitsValue? rest).filter (· ≤ Word.signedBound 64)).map fun value => -(value : Int)
  | '+' :: rest => ((digitsValue? rest).filter (· < Word.signedBound 64)).map Int.ofNat
  | characters => ((digitsValue? characters).filter (· < Word.signedBound 64)).map Int.ofNat

example : naturalBelow? (Word.bound 32) "+17" = some 17 := by decide +kernel

example : int64? "-" = none := by decide +kernel

end ClusterPower.Text
