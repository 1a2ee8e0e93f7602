import ClusterPower.Json.Basic

/-!
Trees of tables while a document is read. How a table came about decides what may
still be added to it: `Tree.assign?` adds a value under a dotted key,
`Tree.openTable?` and `Tree.openItem?` begin the table of a header.
-/

namespace ClusterPower.Toml

/-- How a table came about. -/
inductive Origin where
  | header
  | outerHeader
  | dottedKey
deriving DecidableEq, Repr

inductive Tree where
  | value (value : Json)
  | table (origin : Origin) (entries : List (String × Tree))
  | tables (items : List (List (String × Tree)))
deriving Repr

abbrev Entries := List (String × Tree)

namespace Tree

/-! ## Changing one entry -/

def alter? (name : String) (change : Option Tree → Option Tree) : Entries → Option Entries
  | [] => (change none).map fun tree => [(name, tree)]
  | (other, tree) :: rest =>
    if other = name then (change (some tree)).map fun tree => (other, tree) :: rest
    else (alter? name change rest).map ((other, tree) :: ·)

def alterLast? (change : Entries → Option Entries) :
    List Entries → Option Tree
  | last :: others => (change last).map fun last => .tables (last :: others)
  | [] => none

/-! ## Keys with values -/

/-- Add a value under a dotted key. Tables on the way are made as needed; they must
not have a header of their own, and the last of them must come from a dotted key
too. -/
def assign? (key : String) (value : Json) : List String → Entries → Option Entries
  | [], entries =>
    alter? key (fun found => if found.isSome then none else some (.value value)) entries
  | name :: path, entries =>
    alter? name (fun found =>
      match found with
      | none => (assign? key value path []).map (.table .dottedKey)
      | some (.table .header _) => none
      | some (.table origin inner) =>
        if path.isEmpty && origin != .dottedKey then none
        else (assign? key value path inner).map (.table origin)
      | some (.tables items) =>
        if path.isEmpty then none else alterLast? (assign? key value path) items
      | some (.value _) => none) entries

/-! ## Headers -/

/-- Change the entries of the table that a header names. Outer tables are made as
needed; of a list of tables the last one is meant. -/
def within? (change : Entries → Option Entries) : List String → Entries → Option Entries
  | [], entries => change entries
  | name :: path, entries =>
    alter? name (fun found =>
      match found with
      | none => (within? change path []).map (.table .outerHeader)
      | some (.table origin inner) => (within? change path inner).map (.table origin)
      | some (.tables items) => alterLast? (within? change path) items
      | some (.value _) => none) entries

def openTable? (outer : List String) (name : String) : Entries → Option Entries :=
  within? (alter? name fun found =>
    match found with
    | none => some (.table .header [])
    | some (.table .outerHeader inner) => some (.table .header inner)
    | some _ => none) outer

def openItem? (outer : List String) (name : String) : Entries → Option Entries :=
  within? (alter? name fun found =>
    match found with
    | none => some (.tables [[]])
    | some (.tables items) => some (.tables ([] :: items))
    | some _ => none) outer

/-! ## Values -/

mutual

def toJson : Tree → Json
  | .value held => held
  | .table _ entries => .object (entriesToJson entries)
  | .tables items => .array (itemsToJson items).reverse

def entriesToJson : List (String × Tree) → List (String × Json)
  | [] => []
  | (name, tree) :: rest => (name, toJson tree) :: entriesToJson rest

def itemsToJson : List (List (String × Tree)) → List Json
  | [] => []
  | entries :: rest => .object (entriesToJson entries) :: itemsToJson rest

end

end Tree

end ClusterPower.Toml
