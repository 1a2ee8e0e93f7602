import ClusterPower.CommandLine.Session
import ClusterPower.Proofs.Bmc.Simulation
import Mathlib.Data.List.Forall2
import Mathlib.Data.List.Induction

/-!
Power caps for targets of one name. Every target whose settings are in order is sent one command,
but the commands are found again by name, so that of several targets with one name all are sent
what was made for the last of them.
-/

namespace ClusterPower

theorem Table.ofList_concat {Value : Type} (entries : List (String × Value)) (name : String)
    (value : Value) :
    Table.ofList (entries ++ [(name, value)]) = (Table.ofList entries).insert name value := by
  rw [Table.ofList, List.foldl_append]
  rfl

namespace Cap.Rollout

open Conversation

variable {settings : List CapSetting} {targets : List Target} {call other : Target × Command}
  {calls : List (Target × Command)}

/-! ## Own commands -/

/-- What the settings come to for one target: its own command, unless they are refused or set
none of its caps. -/
def ownCall? (settings : List CapSetting) (target : Target) : Option (Target × Command) :=
  match Cap.command target settings with
  | .ok call => call
  | .error _ => none

theorem planned_foldl_add (rollout : Rollout) :
    (targets.foldl (add settings) rollout).planned =
      rollout.planned ++ targets.filterMap (ownCall? settings) := by
  induction targets generalizing rollout with
  | nil => simp
  | cons target rest induction =>
      rw [List.foldl_cons, induction]
      unfold add
      cases own : Cap.command target settings with
      | error error => simp [ownCall?, own]
      | ok call =>
          cases call with
          | none => simp [ownCall?, own]
          | some call => simp [ownCall?, own]

theorem planned_ofTargets (settings : List CapSetting) (targets : List Target) :
    (ofTargets settings targets).planned = targets.filterMap (ownCall? settings) :=
  planned_foldl_add {}

/-! ## The last command for a name -/

/-- Of the calls for its name this one comes last. -/
def IsLast (calls : List (Target × Command)) (call : Target × Command) : Prop :=
  ∃ before behind, calls = before ++ call :: behind ∧
    ∀ later ∈ behind, later.1.xname ≠ call.1.xname

theorem IsLast.mem (last : IsLast calls call) : call ∈ calls := by
  rcases last with ⟨before, behind, rfl, _⟩
  exact List.mem_append_right _ List.mem_cons_self

theorem IsLast.concat (last : IsLast calls call) (different : other.1.xname ≠ call.1.xname) :
    IsLast (calls ++ [other]) call := by
  rcases last with ⟨before, behind, rfl, ends⟩
  refine ⟨before, behind ++ [other], by simp, fun later member => ?_⟩
  rcases List.mem_append.mp member with behind | last
  · exact ends later behind
  · rwa [List.mem_singleton.mp last]

theorem exists_isLast (member : call ∈ calls) :
    ∃ last, IsLast calls last ∧ last.1.xname = call.1.xname := by
  induction calls using List.reverseRecOn with
  | nil => cases member
  | append_singleton calls final induction =>
      by_cases same : final.1.xname = call.1.xname
      · exact ⟨final, ⟨calls, [], by simp, by simp⟩, same⟩
      · have earlier : call ∈ calls := by
          rcases List.mem_append.mp member with earlier | last
          · exact earlier
          · exact absurd (by rw [List.mem_singleton.mp last]) same
        rcases induction earlier with ⟨last, ends, named⟩
        exact ⟨last, ends.concat (by rwa [named]), named⟩

def byName (calls : List (Target × Command)) : Table Command :=
  .ofList (calls.map fun (target, command) => (target.xname, command))

theorem get?_byName_concat (calls : List (Target × Command)) (call : Target × Command)
    (name : String) :
    (byName (calls ++ [call])).get? name =
      if name = call.1.xname then some call.2 else (byName calls).get? name := by
  rw [byName, List.map_append, List.map_singleton, Table.ofList_concat, Table.get?_insert]
  rfl

theorem IsLast.get?_byName (last : IsLast calls call) :
    (byName calls).get? call.1.xname = some call.2 := by
  rcases last with ⟨before, behind, rfl, ends⟩
  induction behind using List.reverseRecOn with
  | nil => rw [get?_byName_concat, if_pos rfl]
  | append_singleton behind final induction =>
      have different : call.1.xname ≠ final.1.xname := Ne.symm (ends final (by simp))
      have earlier := induction fun later member => ends later (List.mem_append_left _ member)
      have regrouped : before ++ call :: (behind ++ [final]) =
          (before ++ call :: behind) ++ [final] := by simp
      rw [regrouped, get?_byName_concat, if_neg different, earlier]

/-! ## What is sent -/

/-- A target is sent what was made for the last target of its name. -/
def SentLast (own : List (Target × Command)) (call sent : Target × Command) : Prop :=
  sent.1 = call.1 ∧
    ∃ last, IsLast own last ∧ last.1.xname = call.1.xname ∧ sent.2 = last.2

theorem forall₂_callsByName {rest : List (Target × Command)}
    (listed : ∀ call ∈ rest, call ∈ calls) :
    List.Forall₂ (SentLast calls) rest
      (FanOut.callsByName (byName calls) (rest.map (·.1))) := by
  induction rest with
  | nil => exact .nil
  | cons call rest induction =>
      rcases List.forall_mem_cons.mp listed with ⟨member, listed⟩
      rcases exists_isLast member with ⟨last, ends, named⟩
      have kept := ends.get?_byName
      rw [named] at kept
      unfold FanOut.callsByName
      rw [List.map_cons, List.filterMap_cons_some (by rw [kept]; rfl)]
      exact .cons ⟨rfl, last, ends, named, rfl⟩ (induction listed)

theorem forall₂_calls (settings : List CapSetting) (targets : List Target) :
    List.Forall₂ (SentLast (targets.filterMap (ownCall? settings)))
      (targets.filterMap (ownCall? settings)) (ofTargets settings targets).calls := by
  rw [← planned_ofTargets]
  exact forall₂_callsByName fun _ member => member

theorem SentLast.get?_byName (sent : SentLast calls call other) :
    (byName calls).get? call.1.xname = some other.2 := by
  rcases sent with ⟨_, last, ends, named, command⟩
  rw [← named, command, ends.get?_byName]

theorem SentLast.eq_of_agree (sent : SentLast calls call other)
    (agree : ∀ other ∈ calls, call.1.xname = other.1.xname → call.2 = other.2) :
    other = call := by
  rcases sent with ⟨target, last, ends, named, command⟩
  exact Prod.ext target (command.trans (agree last ends.mem named.symm).symm)

/-- Every target whose settings are in order is sent one command, and no other is sent any. It is
the one made for the last target of its name: all targets are sent their own commands exactly if
no two of one name come to different ones. -/
theorem last_namesake_decides (settings : List CapSetting) (targets : List Target) :
    let own := targets.filterMap (ownCall? settings)
    let calls := (ofTargets settings targets).calls
    List.Forall₂ (SentLast own) own calls ∧
    (calls = own ↔
      ∀ call ∈ own, ∀ other ∈ own, call.1.xname = other.1.xname → call.2 = other.2) := by
  intro own calls
  have sent : List.Forall₂ (SentLast own) own calls := forall₂_calls settings targets
  refine ⟨sent, fun same => ?_, fun agree => ?_⟩
  -- The table has one command for a name, so two targets that are sent their own have the same.
  · rw [same, List.forall₂_same] at sent
    intro call member other also named
    have kept := (sent call member).get?_byName
    rw [named, (sent other also).get?_byName] at kept
    exact (Option.some.inj kept).symm
  · have equal : List.Forall₂ Eq own calls := by
      have listed := (List.forall₂_and_left own calls).mpr ⟨fun _ member => member, sent⟩
      apply listed.imp
      rintro call sent ⟨member, sentLast⟩
      exact (sentLast.eq_of_agree fun other also => agree call member other also).symm
    exact (List.forall₂_eq_eq_eq ▸ equal : own = calls).symm

def limited (host cap : String) (high : Int) : Target :=
  Target.detected {
    xname := "x0", host
    powerPath := "/AccPowerService/PowerLimit", limitPath := "/limit"
    caps := .ofList [(cap, { name := cap, high })] }

def limitBody (watts : Int) : Bytes :=
  Redfish.body (Payload.posted ⟨[zoneLimit ⟨"", watts⟩]⟩).toJson

/-- Of two nodes of one name, the first is sent the limit of the second, although it would refuse
that limit. -/
theorem namesake_is_sent_refused_limit :
    let targets := [limited "a" "low" 200, limited "b" "high" 1000]
    let settings : List CapSetting := [⟨"low", 100⟩, ⟨"high", 900⟩]
    let workshop : CommandLine.Workshop :=
      ⟨{ settings := {}, simulation := false }, (Pool.create 1 4).start, targets⟩
    let hosts (calls : List (Target × Command)) : List (String × Command) :=
      calls.map fun (target, command) => (target.host, command)
    hosts (targets.filterMap (ownCall? settings)) =
      [("a", .writeCaps (limitBody 100)), ("b", .writeCaps (limitBody 900))] ∧
    (ofTargets [⟨"low", 900⟩] targets).refused.map (·.2) = [.aboveMaximum ⟨"low", 900⟩ 200] ∧
    hosts (ofTargets settings targets).calls =
      [("a", .writeCaps (limitBody 900)), ("b", .writeCaps (limitBody 900))] ∧
    (requestsOf ((workshop.setCaps settings).trace nowhere ()).1).map
        (fun request => (request.address, request.body)) =
      [("https://a/limit", limitBody 900), ("https://b/limit", limitBody 900)] := by
  intro targets settings workshop hosts
  exact ⟨by decide +kernel, by decide +kernel, by decide +kernel, by decide +kernel⟩

end Cap.Rollout

end ClusterPower
