import ClusterPower.Inventory
import ClusterPower.Transition

/-!
Coupled components. In some cabinets a router module powers its network board.
`Coupling.arrange` pulls such boards into a request and puts them on the right
side of their modules: behind when power comes on, before when it goes off.
`Coupling.rounds` cuts an arranged list so that the two never share a round.
-/

namespace ClusterPower.Coupling

/-! ## Placing a board -/

def insertAfter (anchor name : String) : List String → List String
  | [] => []
  | first :: rest =>
    if first = anchor then first :: name :: rest else first :: insertAfter anchor name rest

def insertBefore (anchor name : String) : List String → List String
  | [] => []
  | first :: rest =>
    if first = anchor then name :: first :: rest else first :: insertBefore anchor name rest

def precedes (earlier later : String) : List String → Bool
  | [] => false
  | first :: rest =>
    if first = earlier then rest.contains later
    else if first = later then false
    else precedes earlier later rest

/-- Give a module its board: a board on the right side stays where it is, any
other goes right beside the module. -/
def placeBoard (transition : Transition) (names : List String) (module : String) :
    List String :=
  let board := Xname.board module
  if transition.isOn then
    if precedes module board names then names
    else insertAfter module board (names.erase board)
  else
    if precedes board module names then names
    else insertBefore module board (names.erase board)

example : placeBoard .on ["x1c0r1e0", "x1c0s0", "x1c0r1"] "x1c0r1" =
    ["x1c0s0", "x1c0r1", "x1c0r1e0"] := by decide +kernel

/-! ## Arranging a request -/

def powersBoard (inventory : Inventory) (xname : String) : Bool :=
  Xname.kind xname == .routerModule &&
    (inventory.cabinetClass xname).any CabinetClass.powersBoards

/-- The targets, each once, with the boards of their modules. Only transitions
to on or off are arranged. -/
def arrange (inventory : Inventory) (transition : Transition) (targets : List String) :
    List String :=
  let names := targets.eraseDups
  if transition.isOn || transition.isOff then
    (names.filter (powersBoard inventory)).foldl (placeBoard transition) names
  else names

/-! ## Rounds -/

def partner? (xname : String) : Option String :=
  match Xname.kind xname with
  | .routerModule => some (Xname.board xname)
  | .networkBoard => Xname.parent? xname
  | .other => none

def roundsFrom (round : List String) : List String → List (List String)
  | [] => if round.isEmpty then [] else [round]
  | xname :: rest =>
    if (partner? xname).any round.contains then round :: roundsFrom [xname] rest
    else roundsFrom (round ++ [xname]) rest

def rounds (names : List String) : List (List String) :=
  roundsFrom [] names

example : rounds ["x1c0r1", "x1c0s0", "x1c0r1e0"] = [["x1c0r1", "x1c0s0"], ["x1c0r1e0"]] := by
  decide +kernel

end ClusterPower.Coupling
