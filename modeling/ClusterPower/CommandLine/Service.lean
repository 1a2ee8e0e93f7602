import ClusterPower.CommandLine.Reading
import ClusterPower.Text.Integer

/-! The command line of the service. -/

namespace ClusterPower.CommandLine

structure ServiceOptions where
  listenAddress : String := "0.0.0.0:27777"
  settings : Option String := none
  simulateOnly : Bool := false
  certificates : Option String := none
  timeout : Nat := 180
  workers : Option Nat := none
  debug : Bool := false
deriving DecidableEq, Repr, Inhabited

def word? (text : String) : Option Nat :=
  Text.naturalBelow? (Word.bound 64) text

def Check.word : Check :=
  Check.accepting fun value => (word? value).isSome

def sharedOptions : List OptionRule := [
  ⟨"config", some 'c', .valued Check.path⟩,
  ⟨"simulate-only", none, .switch⟩,
  ⟨"ca-bundle", none, .valued Check.path⟩,
  ⟨"client-timeout-secs", none, .valued Check.word⟩,
  ⟨"workers", some 'w', .valued Check.word⟩,
  ⟨"debug", some 'd', .switch⟩,
  helpOption, versionOption]

namespace ServiceOptions

def grammar : Grammar where
  options := ⟨"listen-address", some 'l', .valued Check.text⟩ :: sharedOptions

def ofReading (reading : Reading) : ServiceOptions :=
  let preset : ServiceOptions := {}
  { listenAddress := (reading.value? "listen-address").getD preset.listenAddress
    settings := reading.value? "config"
    simulateOnly := reading.has "simulate-only"
    certificates := reading.value? "ca-bundle"
    timeout := ((reading.value? "client-timeout-secs").bind word?).getD preset.timeout
    workers := (reading.value? "workers").bind word?
    debug := reading.has "debug" }

def read (arguments : List String) : Except Refusal ServiceOptions :=
  (readLine grammar arguments).map ofReading

example : (read ["-dw", "5", "--config=a"]).toOption.map (·.workers) = some (some 5) := by
  decide +kernel

end ServiceOptions

end ClusterPower.CommandLine
