import ClusterPower.Json.Basic
import ClusterPower.Table
import ClusterPower.Word

/-!
Reading records, lists, tables and names out of JSON values. A record is an
object with named fields or an array of its fields in order. `Json.Record` is
what has been found of it, and each field reader says what a missing or null
field means.
-/

namespace ClusterPower.Json

/-! ## Single values -/

def asText? : Json → Option String
  | .text value => some value
  | _ => none

def asBoolean? : Json → Option Bool
  | .boolean value => some value
  | _ => none

def asIntegerIn? (low high : Int) : Json → Option Int
  | .integer value => if low ≤ value ∧ value ≤ high then some value else none
  | _ => none

def asInt64? : Json → Option Int :=
  asIntegerIn? (-(Word.signedBound 64 : Int)) (Word.signedBound 64 - 1)

def asNatural? (width : Nat) (value : Json) : Option Nat :=
  (asIntegerIn? 0 (Word.bound width - 1) value).map Int.toNat

def asOptional? {Value : Type} (read : Json → Option Value) : Json → Option (Option Value)
  | .null => some none
  | value => (read value).map some

def asList? {Value : Type} (read : Json → Option Value) : Json → Option (List Value)
  | .array items => items.mapM read
  | _ => none

/-- One of several names, as a text or as the only member of an object with a
null value. -/
def asName? : Json → Option String
  | .text name => some name
  | .object [(name, .null)] => some name
  | _ => none

def asEnumeration? {Value : Type} (names : List (String × Value)) (value : Json) :
    Option Value :=
  (asName? value).bind fun name => names.lookup name

/-- A table by name. Every entry must be readable, and the last of one name stays. -/
def asTable? {Value : Type} (read : Json → Option Value) : Json → Option (Table Value)
  | .object members =>
    members.foldlM (fun table (name, value) => (read value).map (table.insert name)) .empty
  | _ => none

/-! ## Records -/

structure Record where
  positional : Bool
  found : List (String × Json)

namespace Record

def get? (record : Record) (name : String) : Option Json :=
  record.found.lookup name

/-- A field that must be there. -/
def required? {Value : Type} (record : Record) (name : String)
    (read : Json → Option Value) : Option Value :=
  (record.get? name).bind read

def defaulted? {Value : Type} (record : Record) (name : String)
    (read : Json → Option Value) (default : Value) : Option Value :=
  match record.get? name with
  | some value => read value
  | none => some default

def optional? {Value : Type} (record : Record) (name : String)
    (read : Json → Option Value) : Option (Option Value) :=
  record.defaulted? name (asOptional? read) none

def nullable? {Value : Type} (record : Record) (name : String)
    (read : Json → Option Value) : Option (Option Value) :=
  match record.get? name with
  | some value => asOptional? read value
  | none => if record.positional then none else some none

end Record

/-- Read a record with the given fields. Members of other names are skipped; a
known name may stand only once; an array may end early but not be longer. -/
def asRecord? (names : List String) : Json → Option Record
  | .object members =>
    let known := members.filter fun member => names.contains member.1
    if (known.map (·.1)).Nodup then some ⟨false, known⟩ else none
  | .array items =>
    if items.length ≤ names.length then some ⟨true, names.zip items⟩ else none
  | _ => none

/-! ## Writing records -/

def optionalMember {Value : Type} (name : String) (write : Value → Json) :
    Option Value → List (String × Json)
  | some value => [(name, write value)]
  | none => []

def listMember {Value : Type} (name : String) (write : Value → Json) :
    List Value → List (String × Json)
  | [] => []
  | values => [(name, .array (values.map write))]

def ofOptional {Value : Type} (write : Value → Json) : Option Value → Json
  | some value => write value
  | none => .null

def ofNat (value : Nat) : Json := .integer value

def ofTable {Value : Type} (write : Value → Json) (table : Table Value) : Json :=
  .object (table.entries.map fun (name, value) => (name, write value))

end ClusterPower.Json
