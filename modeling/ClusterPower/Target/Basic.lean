import ClusterPower.Table
import ClusterPower.Text.Search

/-!
Targets: components of the cluster with what is needed to drive them through
their BMCs. Vendor traits are derived from the description in one place,
`Traits.detect`.
-/

namespace ClusterPower

inductive ComponentKind where
  | node
  | computeModule
  | networkBoard
  | routerModule
  | chassis
  | outlet
  | powerConnector
  | other (name : String)
deriving DecidableEq, Repr, Inhabited

namespace ComponentKind

def known : List ComponentKind :=
  [.node, .computeModule, .networkBoard, .routerModule, .chassis, .outlet, .powerConnector]

def name : ComponentKind → String
  | .node => "Node"
  | .computeModule => "ComputeModule"
  | .networkBoard => "HSNBoard"
  | .routerModule => "RouterModule"
  | .chassis => "Chassis"
  | .outlet => "CabinetPDUOutlet"
  | .powerConnector => "CabinetPDUPowerConnector"
  | .other name => name

def ofName (text : String) : ComponentKind :=
  (known.find? fun kind => kind.name == text).getD (.other text)

def isOutlet : ComponentKind → Bool
  | .outlet | .powerConnector => true
  | _ => false

end ComponentKind

/-- The shape of the Redfish resource at a target's base path. -/
inductive ResourceKind where
  | computerSystem
  | chassis
  | manager
  | outlet
  | unknown
deriving DecidableEq, Repr, Inhabited

namespace ResourceKind

def name : ResourceKind → String
  | .computerSystem => "ComputerSystem"
  | .chassis => "Chassis"
  | .manager => "Manager"
  | .outlet => "Outlet"
  | .unknown => "Unknown"

def ofName (text : String) : ResourceKind :=
  ([computerSystem, chassis, manager, outlet].find? fun kind => kind.name == text).getD
    .unknown

end ResourceKind

/-! ## Vendor traits -/

inductive CapStyle where
  | indexed
  | posted
  | members
deriving DecidableEq, Repr, Inhabited

namespace CapStyle

def name : CapStyle → String
  | .indexed => "PowerControl"
  | .posted => "HpeApollo6500"
  | .members => "Controls"

def names : List (String × CapStyle) :=
  [CapStyle.indexed, .posted, .members].map fun style => (style.name, style)

end CapStyle

/-- Who made a power distribution unit, which decides how an outlet is switched. -/
inductive OutletMaker where
  | hpe
  | serverTech
deriving DecidableEq, Repr

namespace OutletMaker

def name : OutletMaker → String
  | .hpe => "Hpe"
  | .serverTech => "ServerTech"

def names : List (String × OutletMaker) :=
  [OutletMaker.hpe, .serverTech].map fun maker => (maker.name, maker)

end OutletMaker

structure Traits where
  capStyle : CapStyle := .indexed
  hpeServer : Bool := false
  outletMaker : Option OutletMaker := none
deriving DecidableEq, Repr, Inhabited

namespace Traits

def detect (kind : ComponentKind) (powerPath host : String) (controlCount : Nat) :
    Traits where
  capStyle :=
    if 0 < controlCount then .members
    else if Text.occursIn "AccPowerService/PowerLimit" powerPath then .posted
    else .indexed
  hpeServer := Text.occursIn "Chassis/1/Power" powerPath
  outletMaker :=
    if kind.isOutlet then some (if Text.occursIn "rts" host then .serverTech else .hpe)
    else none

end Traits

/-! ## Power cap definitions -/

def unbounded : Int := -1

/-- A power cap that a target has: its name, its resource, its bounds and its
place among indexed power controls. -/
structure CapDefinition where
  name : String := ""
  path : String := ""
  low : Int := unbounded
  high : Int := unbounded
  index : Nat := 0
deriving DecidableEq, Repr, Inhabited

/-- A power cap value asked for or read, in watts. Zero takes the cap away. -/
structure CapSetting where
  name : String
  watts : Int
deriving DecidableEq, Repr, Inhabited

/-! ## Targets -/

structure Target where
  xname : String := ""
  hostname : String := ""
  nid : Int := 0
  role : String := ""
  kind : ComponentKind := .node
  host : String := ""
  user : String := ""
  password : String := ""
  bmcKind : String := ""
  basePath : String := ""
  resource : ResourceKind := .unknown
  actionPath : String := ""
  resetTokens : List String := []
  powerPath : String := ""
  limitPath : String := ""
  slotCount : Nat := 0
  controlCount : Nat := 0
  caps : Table CapDefinition := .empty
  traits : Traits := {}
deriving DecidableEq, Inhabited

namespace Target

def detected (target : Target) : Target :=
  { target with
    traits := .detect target.kind target.powerPath target.host target.controlCount }

def withPowerPath (target : Target) (path : String) : Target :=
  { target with powerPath := path }

end Target

end ClusterPower
