/-!
Power transitions that can be asked of a component. `Transition.parse?` accepts
a name in any case, `Transition.named?` only as it is written.
-/

namespace ClusterPower

inductive Transition where
  | on
  | off
  | forceOn
  | forceOff
  | restart
  | forceRestart
  | nonMaskableInterrupt
deriving DecidableEq, Repr

namespace Transition

def all : List Transition :=
  [.on, .off, .forceOn, .forceOff, .restart, .forceRestart, .nonMaskableInterrupt]

def name : Transition → String
  | .on => "On"
  | .off => "Off"
  | .forceOn => "ForceOn"
  | .forceOff => "ForceOff"
  | .restart => "Restart"
  | .forceRestart => "ForceRestart"
  | .nonMaskableInterrupt => "NMI"

def isOn : Transition → Bool
  | .on | .forceOn => true
  | _ => false

def isOff : Transition → Bool
  | .off | .forceOff => true
  | _ => false

def isRestart : Transition → Bool
  | .restart | .forceRestart => true
  | _ => false

theorem isOn_of_isOff {transition : Transition} (off : transition.isOff = true) :
    transition.isOn = false := by
  cases transition with
  | off | forceOff => rfl
  | on | forceOn | restart | forceRestart | nonMaskableInterrupt => cases off

theorem isRestart_of_isOff {transition : Transition} (off : transition.isOff = true) :
    transition.isRestart = false := by
  cases transition with
  | off | forceOff => rfl
  | on | forceOn | restart | forceRestart | nonMaskableInterrupt => cases off

def named? (text : String) : Option Transition :=
  all.find? fun transition => transition.name == text

theorem named?_name (transition : Transition) : named? transition.name = some transition := by
  cases transition <;> decide

def foldCase (text : String) : List Char :=
  text.toList.map Char.toLower

def parse? (text : String) : Option Transition :=
  all.find? fun transition => foldCase transition.name == foldCase text

example : parse? "forceOFF" = some .forceOff := by decide +kernel

example : parse? " On" = none := by decide +kernel

def forced? : Transition → Option Transition
  | .on | .forceOn => some .forceOn
  | .off | .forceOff => some .forceOff
  | .restart | .forceRestart => some .forceRestart
  | .nonMaskableInterrupt => none

end Transition

end ClusterPower
