import ClusterPower.Text.Search

/-!
Paths of Redfish resources. `Path.parent` and `Path.base` cut a path at its last
slash, slashes at the end aside.
-/

namespace ClusterPower.Path

def trimSlashes (path : List Char) : List Char :=
  (path.reverse.dropWhile (· == '/')).reverse

def lastSegment (path : List Char) : List Char :=
  (path.reverse.takeWhile (· != '/')).reverse

def beforeLastSlash (path : List Char) : List Char :=
  ((path.reverse.dropWhile (· != '/')).drop 1).reverse

def parent (path : String) : String :=
  let trimmed := trimSlashes path.toList
  let before := beforeLastSlash trimmed
  String.ofList (if before.isEmpty && trimmed.contains '/' then ['/'] else before)

def base (path : String) : String :=
  String.ofList (lastSegment (trimSlashes path.toList))

example : (parent "/redfish/v1/Systems/Node0/", base "/redfish/v1/Systems/Node0/") =
    ("/redfish/v1/Systems", "Node0") := by decide +kernel

example : (parent "/redfish", parent "Node0") = ("/", "") := by decide +kernel

def baseboardMark : String := "QSBP"

/-- The chassis of all boards with the mark in their base name. -/
def baseboard : String := "RackMount/Baseboard"

/-- The power resource of a component whose description names none: that of the
chassis with the component's own name. -/
def powerOf (path : String) : String :=
  let name := base path
  let chassis := if Text.occursIn baseboardMark name then baseboard else name
  let root := String.ofList (trimSlashes (parent (parent path)).toList)
  root ++ "/Chassis/" ++ chassis ++ "/Power"

example : powerOf "/redfish/v1/Systems/Node0" = "/redfish/v1/Chassis/Node0/Power" := by
  decide +kernel

end ClusterPower.Path
