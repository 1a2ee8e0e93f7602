import ClusterPower.Cap.Reading

/-!
Targets grouped by what power caps they have. Two targets share a group when
their lists of names and bounds are the same.
-/

namespace ClusterPower.Cap

structure Bounds where
  name : String
  low : Int
  high : Int
deriving DecidableEq, Repr, Inhabited

namespace Bounds

def ofDefinition (definition : CapDefinition) : Bounds :=
  ⟨definition.name, definition.low, definition.high⟩

def before (left right : Bounds) : Bool :=
  if left.name = right.name then
    if left.low = right.low then decide (left.high < right.high)
    else decide (left.low < right.low)
  else decide (left.name < right.name)

def toJson (bounds : Bounds) : Json :=
  .object [
    ("name", .text bounds.name), ("min", .integer bounds.low), ("max", .integer bounds.high)]

end Bounds

def signature (target : Target) : List Bounds :=
  (target.caps.values.map Bounds.ofDefinition).mergeSort fun left right =>
    !right.before left

def comesBefore (left right : CapDefinition) : Bool :=
  if left.index = right.index then decide (left.name < right.name)
  else decide (left.index < right.index)

def lowest? : List CapDefinition → Option CapDefinition
  | [] => none
  | definition :: rest =>
    match lowest? rest with
    | some other => some (if comesBefore other definition then other else definition)
    | none => some definition

/-- The bounds of the whole host: those of its node cap, or else of its cap with
the lowest index. -/
def hostBounds (target : Target) : Int × Int :=
  match (target.caps.get? nodePowerLimit).or (lowest? target.caps.values) with
  | some definition => (definition.low, definition.high)
  | none => (unbounded, unbounded)

structure Group where
  name : String
  hostLow : Int
  hostHigh : Int
  xnames : List String
  nids : List Int
  controls : List Bounds
deriving DecidableEq, Repr, Inhabited

namespace Group

def ofMembers (controls : List Bounds) (members : List Target) : Group :=
  let (hostLow, hostHigh) := members.head?.elim (unbounded, unbounded) hostBounds
  { name := ""
    hostLow
    hostHigh
    xnames := ((members.map (·.xname)).mergeSort fun left right =>
      decide (left ≤ right)).eraseDups
    nids := ((members.map (·.nid)).mergeSort fun left right =>
      decide (left ≤ right)).eraseDups
    controls }

def toJson (group : Group) : Json :=
  .object [
    ("name", .text group.name),
    ("host_limit_min", .integer group.hostLow),
    ("host_limit_max", .integer group.hostHigh),
    ("xnames", .array (group.xnames.map .text)),
    ("nids", .array (group.nids.map .integer)),
    ("controls", .array (group.controls.map Bounds.toJson))]

end Group

def groups (targets : List Target) : List Group :=
  let capped := targets.filter fun target => !target.caps.isEmpty
  let signatures := (capped.map signature).eraseDups.mergeSort fun left right =>
    !List.lex right left Bounds.before
  let unnamed := signatures.map fun controls =>
    Group.ofMembers controls (capped.filter fun target => signature target == controls)
  let sorted := unnamed.mergeSort fun left right => !decide (right.xnames < left.xnames)
  sorted.mapIdx fun index group => { group with name := "group" ++ toString index }

end ClusterPower.Cap
