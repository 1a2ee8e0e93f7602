import ClusterPower.Http.Status
import ClusterPower.Json.Reader
import ClusterPower.Redfish.Resource
import ClusterPower.Target.Basic
import ClusterPower.Text.Blank

/-!
What is reported of a request that a BMC refused: the messages of its error
body, in either of the two forms that BMCs use, or else the whole body.
-/

namespace ClusterPower.Bmc

def mediaType (contentType : String) : String :=
  let type := String.ofList (contentType.toList.takeWhile (· != ';'))
  (Text.trim type).map Char.toLower

def jsonMediaType : String := "application/json"

def errorText (body : Redfish.ErrorBody) : String :=
  let info := body.info.map fun info =>
    " Message: " ++ info.message.getD "" ++ " Resolution: " ++ info.resolution.getD ""
  "Redfish Error Message: " ++ body.message ++
    (if body.info.isEmpty then "" else " ExtendedInfo:") ++ String.join info

def localizedErrorText (body : Redfish.LocalizedErrorBody) : String :=
  "Redfish Error Message: " ++ body.value

def knownError? (body : Bytes) : Option String := do
  let value ← Json.read? body
  ((Redfish.ErrorBody.ofJson? value).map errorText).or
    ((Redfish.LocalizedErrorBody.ofJson? value).map localizedErrorText)

def refusalText (contentType : String) (body : Bytes) : String :=
  let type := mediaType contentType
  let known := if type = jsonMediaType then knownError? body else none
  known.getD ("unrecognized Redfish response (" ++ type ++ ") format: " ++ Text.lossy body)

def refusalMessage (target : Target) (status : Nat) (contentType : String) (body : Bytes) :
    String :=
  target.bmcKind ++ " " ++ target.host ++ " HTTP " ++ Http.statusText status ++ ", " ++
    refusalText contentType body

end ClusterPower.Bmc
