import ClusterPower.Json.Record
import ClusterPower.Toml.Number
import ClusterPower.Toml.Tree

/-!
TOML documents. `Toml.read?` gives the value of a document as a JSON object.
Floats become unreadable values, which may only be skipped, and a date becomes a
record of its own.
-/

namespace ClusterPower.Toml

open ClusterPower.Text (Reader)

/-! ## Keys -/

def isBareCharacter (character : Char) : Bool :=
  character.isAlphanum || character == '_' || character == '-'

def simpleKey : Reader String :=
  basicText <|> literalText <|>
    (do return String.ofList (← Reader.takeSome isBareCharacter))

def nestingBound : Nat := 80

def key : Reader (List String × String) := do
  let part : Reader String := do
    blanks
    let name ← simpleKey
    blanks
    return name
  let first ← part
  let others ← Reader.many (do Reader.character '.'; part) (← Reader.remaining)
  let parts := first :: others
  if parts.length < nestingBound then pure (parts.dropLast, parts.getLastD "") else failure

/-! ## Values -/

def momentRecord : Json := .object [("date", .text "")]

def scalar : Reader Json :=
  (do return .text (← text)) <|>
    (do moment; return momentRecord) <|>
    (do float; return .unreadable) <|>
    (do return .integer (← integer)) <|>
    (do Reader.literal "true"; return .boolean true) <|>
    (do Reader.literal "false"; return .boolean false)

def separated {Value : Type} (item : Reader Value) (separator : Reader Unit) :
    Reader (List Value) := do
  match ← Reader.optional item with
  | none => return []
  | some first =>
    return first :: (← Reader.many (do separator; item) (← Reader.remaining))

def array (value : Reader Json) : Reader Json := do
  Reader.character '['
  let item : Reader Json := do
    gap
    let found ← value
    gap
    return found
  let items ← separated item (Reader.character ',')
  if !items.isEmpty then
    let _ ← Reader.optional (Reader.character ',')
  gap
  Reader.character ']'
  return .array items

def assignment (value : Reader Json) : Reader ((List String × String) × Json) := do
  let name ← key
  Reader.character '='
  blanks
  let found ← value
  return (name, found)

def assignAll? (entries : Entries) (assignments : List ((List String × String) × Json)) :
    Option Entries :=
  assignments.foldlM (fun entries ((path, name), value) => Tree.assign? name value path entries)
    entries

def inlineTable (value : Reader Json) : Reader Json := do
  Reader.character '\x7b'
  let item : Reader ((List String × String) × Json) := do
    let found ← assignment value
    blanks
    return found
  let assignments ← separated item (Reader.character ',')
  blanks
  Reader.character '\x7d'
  let entries ← Reader.ofOption (assignAll? [] assignments)
  return .object (Tree.entriesToJson entries)

/-- A value with at most so many levels of nesting. -/
def value : (depth : Nat) → Reader Json
  | 0 => scalar
  | depth + 1 => scalar <|> array (value depth) <|> inlineTable (value depth)

/-! ## Documents -/

/-- What has been read: the whole tree, and the header that is in force. -/
structure DocumentState where
  entries : Entries := []
  header : List String := []

def DocumentState.assign? (state : DocumentState) (path : List String) (name : String)
    (value : Json) : Option DocumentState :=
  (Tree.within? (Tree.assign? name value path) state.header state.entries).map fun entries =>
    { state with entries }

/-- One line of a document, without what ends it. -/
inductive Statement where
  | nothing
  | assignment (path : List String) (name : String) (value : Json)
  | table (outer : List String) (name : String)
  | item (outer : List String) (name : String)

def header : Reader Statement :=
  (do
    Reader.literal "[["
    let (outer, name) ← key
    Reader.literal "]]"
    return .item outer name) <|> (do
    Reader.character '['
    let (outer, name) ← key
    Reader.character ']'
    return .table outer name)

def statement : Reader Statement :=
  header <|> (do
    let ((path, name), value) ← assignment (value (nestingBound - 1))
    return .assignment path name value) <|> pure .nothing

def DocumentState.add? (state : DocumentState) : Statement → Option DocumentState
  | .nothing => some state
  | .assignment path name value => state.assign? path name value
  | .table outer name =>
    (Tree.openTable? outer name state.entries).map fun entries =>
      { entries, header := outer ++ [name] }
  | .item outer name =>
    (Tree.openItem? outer name state.entries).map fun entries =>
      { entries, header := outer ++ [name] }

def lines : Reader (List Statement) := do
  let line : Reader Statement := do
    if (← Reader.remaining) = 0 then failure
    blanks
    let found ← statement
    lineEnd
    return found
  Reader.many line (← Reader.remaining)

def byteOrderMark : Char := '\ufeff'

def withoutMark : List Char → List Char
  | first :: rest => if first = byteOrderMark then rest else first :: rest
  | [] => []

def read? (text : String) : Option Json := do
  let statements ← lines.readAll? (withoutMark text.toList)
  let state ← statements.foldlM DocumentState.add? {}
  some (.object (Tree.entriesToJson state.entries))

/-! ## Reading records -/

/-- One of several names, as a text or as the only key of a table with nothing
under it. -/
def asName? : Json → Option String
  | .text name => some name
  | .object [(name, .array [])] => some name
  | .object [(name, .object [])] => some name
  | _ => none

def asRecord? (names : List String) : Json → Option Json.Record
  | .array items => Json.asRecord? names (.array (items.take names.length))
  | value => value.asRecord? names

end ClusterPower.Toml
