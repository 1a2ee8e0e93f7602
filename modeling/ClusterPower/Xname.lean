/-!
Component names such as `x1000c0r3e0`: a lower-case letter with a number for each
level, from the cabinet down. Only router modules and their network boards have
a kind of their own here.
-/

namespace ClusterPower.Xname

/-! ## Segments -/

/-- One level of a name: its letter, and the name down to this level. -/
structure Segment where
  letter : Char
  name : List Char
deriving DecidableEq, Repr

def segmentsBelow? (above : List Char) : List Char → Option (List Segment)
  | [] => some []
  | letter :: rest =>
    let number := rest.takeWhile Char.isDigit
    if letter.isLower && !number.isEmpty then
      let name := above ++ letter :: number
      (segmentsBelow? name (rest.dropWhile Char.isDigit)).map (⟨letter, name⟩ :: ·)
    else none
termination_by characters => characters.length
decreasing_by
  exact Nat.lt_succ_of_le (List.dropWhile_sublist _).length_le

/-- The levels of a name; none if it is not a component name. -/
def segments? (xname : String) : Option (List Segment) :=
  segmentsBelow? [] xname.toList

example : (segments? "x1000c0").map (·.map fun segment => String.ofList segment.name) =
    some ["x1000", "x1000c0"] := by decide +kernel

example : segments? "x1000c" = none := by decide +kernel

/-! ## Kinds -/

inductive Kind where
  | routerModule
  | networkBoard
  | other
deriving DecidableEq, Repr

namespace Kind

def name : Kind → String
  | .routerModule => "RouterModule"
  | .networkBoard => "HSNBoard"
  | .other => "Other"

end Kind

def kind (xname : String) : Kind :=
  match (segments? xname).map (·.map Segment.letter) with
  | some ['x', 'c', 'r'] => .routerModule
  | some ['x', 'c', 'r', 'e'] => .networkBoard
  | _ => .other

/-! ## Relatives -/

def parent? (xname : String) : Option String :=
  match (segments? xname).map List.reverse with
  | some (_ :: above :: _) => some (String.ofList above.name)
  | _ => none

def cabinet? (xname : String) : Option String :=
  match segments? xname with
  | some (cabinet :: _) => some (String.ofList cabinet.name)
  | _ => none

def board (module : String) : String :=
  module ++ "e0"

example : kind (board "x1000c0r3") = .networkBoard := by decide +kernel

example : parent? (board "x1000c0r3") = some "x1000c0r3" := by decide +kernel

end ClusterPower.Xname
