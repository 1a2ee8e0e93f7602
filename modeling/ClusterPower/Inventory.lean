import ClusterPower.Target.Json
import ClusterPower.Xname

/-!
What is known of the cluster: the class of each cabinet and the descriptions of
components that may be pulled into a request.
-/

namespace ClusterPower

inductive CabinetClass where
  | river
  | mountain
  | hill
deriving DecidableEq, Repr, Inhabited

namespace CabinetClass

def name : CabinetClass → String
  | .river => "River"
  | .mountain => "Mountain"
  | .hill => "Hill"

def names : List (String × CabinetClass) :=
  [CabinetClass.river, .mountain, .hill].map fun cabinet => (cabinet.name, cabinet)

def powersBoards : CabinetClass → Bool
  | .river => false
  | .mountain | .hill => true

end CabinetClass

/-- Answers about components by their name. -/
structure Inventory where
  cabinetClass : String → Option CabinetClass
  component : String → Option Target

structure InventoryTables where
  cabinets : Table CabinetClass
  components : Table Target

namespace InventoryTables

def ofJson? (value : Json) : Option InventoryTables := do
  let record ← value.asRecord? ["cabinets", "components"]
  let cabinets ←
    record.required? "cabinets" (Json.asTable? (Json.asEnumeration? CabinetClass.names))
  let components ← record.defaulted? "components" (Json.asTable? Target.ofJson?) .empty
  some { cabinets, components }

def inventory (tables : InventoryTables) : Inventory where
  cabinetClass xname := (Xname.cabinet? xname).bind tables.cabinets.get?
  component := tables.components.get?

end InventoryTables

end ClusterPower
