/-!
Reading command lines. A grammar says which options, operands and subcommands
there are. Arguments are read from left to right: an option that takes a value
waits for it, and what has been read is checked when the next option comes or the
line ends. The first thing that is wrong is the answer.
-/

namespace ClusterPower.CommandLine

inductive Refusal where
  | unknownArgument
  /-- A value is missing or must not be empty. -/
  | missingValue
  | badValue
  | repeatedOption
  | surplusValue
  | missingArgument
  | help
  | version
deriving DecidableEq, Repr, Inhabited

/-! ## Grammars -/

abbrev Check := String → Option Refusal

namespace Check

def text : Check := fun _ => none

def path : Check := fun value => if value.isEmpty then some .missingValue else none

def accepting (accepts : String → Bool) : Check := fun value =>
  if accepts value then none else some .badValue

end Check

inductive OptionKind where
  | switch
  | valued (check : Check)
  | help
  | version

structure OptionRule where
  long : String
  short : Option Char := none
  kind : OptionKind

inductive OperandRule where
  | none
  | single (check : Check)
  | several (check : Check)

structure Grammar where
  options : List OptionRule
  operands : OperandRule := .none
  subcommands : List String := []

def helpOption : OptionRule := ⟨"help", some 'h', .help⟩

def versionOption : OptionRule := ⟨"version", some 'V', .version⟩

/-! ## States -/

/-- What waits to be checked: an option with its value, if that has come, or
operands. -/
structure Pending where
  option : Option String
  check : Check
  values : List String

structure Reading where
  options : List (String × Option String) := []
  operands : List String := []
  pending : Option Pending := none

namespace Reading

def has (reading : Reading) (option : String) : Bool :=
  reading.options.any fun given => given.1 == option

def value? (reading : Reading) (option : String) : Option String :=
  (reading.options.find? fun given => given.1 == option).bind (·.2)

def acceptOption (reading : Reading) (option : String) (check : Check)
    (value : Option String) : Except Refusal Reading :=
  if reading.has option then .error .repeatedOption
  else
    match value.bind check with
    | some refusal => .error refusal
    | none => .ok { reading with options := reading.options ++ [(option, value)] }

def resolve (reading : Reading) : Except Refusal Reading :=
  match reading.pending with
  | none => .ok reading
  | some pending =>
    let reading := { reading with pending := none }
    match pending.option with
    | some option =>
      match pending.values with
      | [] => .error .missingValue
      | value :: _ => reading.acceptOption option pending.check (some value)
    | none =>
      match pending.values.findSome? pending.check with
      | some refusal => .error refusal
      | none => .ok { reading with operands := reading.operands ++ pending.values }

def awaitsValue (reading : Reading) : Bool :=
  reading.pending.any fun pending => pending.option.isSome && pending.values.isEmpty

def push (reading : Reading) (value : String) : Reading :=
  { reading with
    pending := reading.pending.map fun pending =>
      { pending with values := pending.values ++ [value] } }

/-! ## Options -/

def useSwitch (reading : Reading) (rule : OptionRule) : Except Refusal Reading := do
  let reading ← reading.resolve
  match rule.kind with
  | .help => .error .help
  | .version => .error .version
  | _ => reading.acceptOption rule.long Check.text none

def useValued (reading : Reading) (option : String) (check : Check)
    (attached : Option String) : Except Refusal Reading := do
  let reading ← reading.resolve
  match attached with
  | some value => reading.acceptOption option check (some value)
  | none => .ok { reading with pending := some ⟨some option, check, []⟩ }

def useLong (grammar : Grammar) (reading : Reading) (name : String)
    (attached : Option String) : Except Refusal Reading :=
  match grammar.options.find? fun rule => rule.long == name with
  | none => .error .unknownArgument
  | some rule =>
    match rule.kind with
    | .valued check => reading.useValued rule.long check attached
    | _ => if attached.isSome then .error .surplusValue else reading.useSwitch rule

def attachedValue : List Char → Option String
  | [] => none
  | '=' :: value => some (String.ofList value)
  | value => some (String.ofList value)

/-- Several short options in one argument. The first that takes a value takes all
that follows. -/
def useShorts (grammar : Grammar) (reading : Reading) : List Char → Except Refusal Reading
  | [] => .ok reading
  | letter :: rest =>
    match grammar.options.find? fun rule => rule.short == some letter with
    | none => .error .unknownArgument
    | some rule =>
      match rule.kind with
      | .valued check => reading.useValued rule.long check (attachedValue rest)
      | _ =>
        match reading.useSwitch rule with
        | .ok reading => useShorts grammar reading rest
        | .error refusal => .error refusal

/-! ## Operands -/

def useOperand (grammar : Grammar) (reading : Reading) (value : String) :
    Except Refusal Reading :=
  let isPending := reading.pending.any fun pending => pending.option.isNone
  match grammar.operands with
  | .none => .error .unknownArgument
  | .single check =>
    if isPending || !reading.operands.isEmpty then .error .unknownArgument
    else do
      let reading ← reading.resolve
      .ok { reading with pending := some ⟨none, check, [value]⟩ }
  | .several check =>
    if isPending then .ok (reading.push value)
    else do
      let reading ← reading.resolve
      .ok { reading with pending := some ⟨none, check, [value]⟩ }

def useArgument (grammar : Grammar) (reading : Reading) (argument : String) :
    Except Refusal Reading :=
  match argument.toList with
  | '-' :: '-' :: long =>
    let name := long.takeWhile (· != '=')
    let attached := attachedValue (long.dropWhile (· != '='))
    reading.useLong grammar (String.ofList name) attached
  | '-' :: short :: shorts => reading.useShorts grammar (short :: shorts)
  | _ => if reading.awaitsValue then .ok (reading.push argument)
    else reading.useOperand grammar argument

end Reading

/-! ## Lines -/

structure Subcommand where
  name : String
  arguments : List String
deriving Repr

/-- Read arguments up to a subcommand. Behind a double dash there are only
operands. What waits at the end is not yet checked. -/
def readArguments (grammar : Grammar) (onlyOperands : Bool) (reading : Reading) :
    List String → Except Refusal (Reading × Option Subcommand)
  | [] => .ok (reading, none)
  | argument :: rest =>
    if onlyOperands then
      match reading.useOperand grammar argument with
      | .ok reading => readArguments grammar true reading rest
      | .error refusal => .error refusal
    else if !reading.awaitsValue && grammar.subcommands.contains argument then
      .ok (reading, some ⟨argument, rest⟩)
    else if argument = "--" then readArguments grammar true reading rest
    else
      match reading.useArgument grammar argument with
      | .ok reading => readArguments grammar false reading rest
      | .error refusal => .error refusal

def readLine (grammar : Grammar) (arguments : List String) : Except Refusal Reading := do
  let (reading, _) ← readArguments grammar false {} arguments
  reading.resolve

end ClusterPower.CommandLine
