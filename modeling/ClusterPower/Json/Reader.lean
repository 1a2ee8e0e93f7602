import ClusterPower.Json.Token

/-!
Reading a JSON text. The tokens are taken one at a time by a machine that holds
the containers still open, so nesting has no limit. A container below 127 others,
and an object with a name that is ill-formed, is read for its form and then counts
as unreadable.
-/

namespace ClusterPower.Json

/-- A container around the value that is being read. -/
inductive Frame where
  | array (items : List Json)
  /-- The members so far and the name of the next; none once a name was ill-formed. -/
  | object (pending : Option (List (String × Json) × String))
deriving Repr

/-- What has been read of the innermost container, last part first, and so what
may come next. -/
inductive Position where
  | value
  | arrayStart
  | afterItem (items : List Json)
  | objectStart
  | nextName (members : Option (List (String × Json)))
  | afterName (pending : Option (List (String × Json) × String))
  | afterMember (members : Option (List (String × Json)))
  | finished (value : Json)
deriving Repr

structure ReaderState where
  outer : List Frame
  position : Position
deriving Repr

namespace ReaderState

def deepest : Nat := 127

def start : ReaderState := ⟨[], .value⟩

def complete (value : Json) : List Frame → ReaderState
  | [] => ⟨[], .finished value⟩
  | .array items :: outer => ⟨outer, .afterItem (value :: items)⟩
  | .object pending :: outer =>
    ⟨outer, .afterMember (pending.map fun (members, name) => (name, value) :: members)⟩

def isShallow (outer : List Frame) : Bool :=
  (outer.drop (deepest - 1)).isEmpty

theorem isShallow_iff (outer : List Frame) :
    isShallow outer = true ↔ outer.length < deepest := by
  simp only [isShallow, List.isEmpty_iff, List.drop_eq_nil_iff, deepest]
  omega

def close (value : Json) (outer : List Frame) : ReaderState :=
  complete (if isShallow outer then value else .unreadable) outer

def beginValue (outer : List Frame) : Token → Option ReaderState
  | .beginArray => some ⟨outer, .arrayStart⟩
  | .beginObject => some ⟨outer, .objectStart⟩
  | .text content => some (complete (content.elim .unreadable .text) outer)
  | .literal value => some (complete value outer)
  | _ => none

def step (state : ReaderState) (token : Token) : Option ReaderState :=
  match state.position, token with
  | .value, token => beginValue state.outer token
  | .arrayStart, .endArray => some (close (.array []) state.outer)
  | .arrayStart, token => beginValue (.array [] :: state.outer) token
  | .afterItem items, .comma => some ⟨.array items :: state.outer, .value⟩
  | .afterItem items, .endArray => some (close (.array items.reverse) state.outer)
  | .objectStart, .endObject => some (close (.object []) state.outer)
  | .objectStart, .text name => some ⟨state.outer, .afterName (name.map ([], ·))⟩
  | .nextName members, .text name =>
    some ⟨state.outer, .afterName (members.bind fun members => name.map (members, ·))⟩
  | .afterName pending, .colon => some ⟨.object pending :: state.outer, .value⟩
  | .afterMember members, .comma => some ⟨state.outer, .nextName members⟩
  | .afterMember members, .endObject =>
    some (close (members.elim .unreadable fun members => .object members.reverse) state.outer)
  | _, _ => none

end ReaderState

def ofTokens? (tokens : List Token) : Option Json :=
  match tokens.foldlM ReaderState.step .start with
  | some ⟨_, .finished value⟩ => some value
  | _ => none

def read? (bytes : Bytes) : Option Json :=
  (tokens? bytes).bind ofTokens?

end ClusterPower.Json
