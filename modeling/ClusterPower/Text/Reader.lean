/-!
Readers of characters. A reader takes characters from the front of a text and
gives a value, or fails. Alternatives are tried in order, each from the same
place.
-/

namespace ClusterPower.Text

abbrev Reader := StateT (List Char) Option

namespace Reader

def ofOption {Value : Type} (value : Option Value) : Reader Value := fun text =>
  value.map fun value => (value, text)

def peek? : Reader (Option Char) := fun text => some (text.head?, text)

def remaining : Reader Nat := fun text => some (text.length, text)

def satisfying (accepts : Char → Bool) : Reader Char
  | character :: rest => if accepts character then some (character, rest) else none
  | [] => none

def character (expected : Char) : Reader Unit := do
  let _ ← satisfying (· == expected)

def literal (expected : String) : Reader Unit := fun text =>
  if expected.toList.isPrefixOf text then some ((), text.drop expected.length) else none

def takeWhile (accepts : Char → Bool) : Reader (List Char) := fun text =>
  some (text.takeWhile accepts, text.dropWhile accepts)

def takeSome (accepts : Char → Bool) : Reader (List Char) := do
  let found ← takeWhile accepts
  if found.isEmpty then failure else pure found

def takeExactly (count : Nat) (accepts : Char → Bool) : Reader (List Char) := fun text =>
  let found := text.take count
  if found.length = count && found.all accepts then some (found, text.drop count) else none

def optional {Value : Type} (reader : Reader Value) : Reader (Option Value) := fun text =>
  match reader text with
  | some (value, rest) => some (some value, rest)
  | none => some (none, text)

def many {Value : Type} (reader : Reader Value) : Nat → Reader (List Value)
  | 0 => pure []
  | count + 1 => do
    match ← optional reader with
    | some value => return value :: (← many reader count)
    | none => return []

def finished : Reader Unit := fun text => if text.isEmpty then some ((), text) else none

def readAll? {Value : Type} (reader : Reader Value) (text : List Char) : Option Value :=
  (reader text).bind fun (value, rest) => if rest.isEmpty then some value else none

end Reader

end ClusterPower.Text
