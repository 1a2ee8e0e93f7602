import ClusterPower.CommandLine.Service
import ClusterPower.Target.Basic
import ClusterPower.Text.Blank
import ClusterPower.Transition

/-!
The command line of the tool that carries out one command for a list of targets.
Options come first, then the command with arguments of its own.
-/

namespace ClusterPower.CommandLine

inductive Task where
  | readStates
  | change (transition : Transition) (forced : Bool)
  | readCaps
  | groupCaps
  | setCaps (settings : List CapSetting)
deriving Repr, Inhabited

namespace Task

/-! ## Operands -/

/-- A cap and its watts around the last equals sign. Blanks around either do not
count. -/
def setting? (text : String) : Option CapSetting :=
  let backwards := text.toList.reverse
  match backwards.dropWhile (· != '=') with
  | [] => none
  | _ :: name =>
    let watts := (backwards.takeWhile (· != '=')).reverse
    (Text.int64? (Text.trim (String.ofList watts))).map fun watts =>
      ⟨Text.trim (String.ofList name.reverse), watts⟩

example : setting? "a=b = +5" = some ⟨"a=b", 5⟩ := by decide +kernel

example : setting? "limit" = none := by decide +kernel

/-! ## Arguments -/

def changeGrammar : Grammar where
  options := [⟨"force", none, .switch⟩, helpOption]
  operands := .single (Check.accepting fun text => (Transition.parse? text).isSome)

def settingsGrammar : Grammar where
  options := [helpOption]
  operands := .several (Check.accepting fun text => (setting? text).isSome)

def readBare (task : Task) (arguments : List String) : Except Refusal Task :=
  (readLine { options := [helpOption] } arguments).map fun _ => task

def readChange (arguments : List String) : Except Refusal Task := do
  let reading ← readLine changeGrammar arguments
  match reading.operands.findSome? Transition.parse? with
  | some transition => .ok (.change transition (reading.has "force"))
  | none => .error .missingArgument

def readSettings (arguments : List String) : Except Refusal Task := do
  let reading ← readLine settingsGrammar arguments
  match reading.operands.filterMap setting? with
  | [] => .error .missingArgument
  | settings => .ok (.setCaps settings)

def readers : List (String × (List String → Except Refusal Task)) := [
  ("status", readBare .readStates),
  ("power", readChange),
  ("get-power-cap", readBare .readCaps),
  ("get-power-cap-capabilities", readBare .groupCaps),
  ("set-power-cap", readSettings)]

def helpName : String := "help"

def names : List String := readers.map (·.1) ++ [helpName]

def readHelp (arguments : List String) : Refusal :=
  match arguments with
  | [] => .help
  | [name] => if names.contains name then .help else .unknownArgument
  | _ => .unknownArgument

def read (subcommand : Subcommand) : Except Refusal Task :=
  match readers.lookup subcommand.name with
  | some reader => reader subcommand.arguments
  | none => .error (readHelp subcommand.arguments)

end Task

structure Invocation where
  targets : String
  settings : Option String := none
  inventory : Option String := none
  simulateOnly : Bool := false
  certificates : Option String := none
  timeout : Nat := 60
  workers : Nat := 32
  debug : Bool := false
  task : Task
deriving Repr, Inhabited

namespace Invocation

def grammar : Grammar where
  options :=
    ⟨"nodes", some 'n', .valued Check.path⟩ :: ⟨"inventory", some 'i', .valued Check.path⟩ ::
      sharedOptions
  subcommands := Task.names

def ofReading (reading : Reading) (targets : String) (task : Task) : Invocation :=
  let preset : Invocation := { targets, task }
  { preset with
    settings := reading.value? "config"
    inventory := reading.value? "inventory"
    simulateOnly := reading.has "simulate-only"
    certificates := reading.value? "ca-bundle"
    timeout := ((reading.value? "client-timeout-secs").bind word?).getD preset.timeout
    workers := ((reading.value? "workers").bind word?).getD preset.workers
    debug := reading.has "debug" }

/-- A fault in the arguments of the command is found before one in an option in
front of it whose value came last. -/
def read (arguments : List String) : Except Refusal Invocation := do
  let (reading, subcommand) ← readArguments grammar false {} arguments
  let task ← subcommand.mapM Task.read
  let reading ← reading.resolve
  match reading.value? "nodes", task with
  | some targets, some task => .ok (ofReading reading targets task)
  | _, _ => .error .missingArgument

example : (read ["-nt", "power", "off", "--force"]).toOption.map (·.targets) = some "t" := by
  decide +kernel

def paths (invocation : Invocation) : List String :=
  [some invocation.targets, invocation.settings, invocation.inventory,
    invocation.certificates].filterMap id

end Invocation

end ClusterPower.CommandLine
