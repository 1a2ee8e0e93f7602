import ClusterPower.Proofs.Cap.Carriage
import ClusterPower.Proofs.Path

/-!
Collections of controls. A request for separate controls goes to the resource beside their
collection that takes several at once, in the root that the first of them leads to. The power
resource that is made up for a component stands in its root too. A root without a name of its own
gets a slash too many in the one path and not in the other.
-/

namespace ClusterPower.Cap

variable {target : Target} {settings : List CapSetting} {planned : Option Plan} {path : String}

/-- The first cap of the target that is asked for has this path. -/
def FirstHasPath (target : Target) (settings : List CapSetting) (path : String) : Prop :=
  (definedSettings target settings).head?.map (·.2.path) = some path

instance : Decidable (FirstHasPath target settings path) := inferInstanceAs (Decidable (_ = _))

theorem exists_plan_of_first (style : target.traits.capStyle = .members)
    (first : FirstHasPath target settings path) (accepted : plan target settings = .ok planned) :
    ∃ payload, planned = some ⟨target.withPowerPath (collectionPath path), payload⟩ := by
  rcases Option.map_eq_some_iff.mp first with ⟨defined, head, rfl⟩
  rcases List.head?_eq_some_iff.mp head with ⟨rest, split⟩
  have shape := (plan_eq_ok_iff.mp accepted).2
  simp only [split, planDefined?, style] at shape
  exact ⟨_, shape.symm⟩

theorem address_eq_iff {root : String} :
    (if root = "" then "/" else root) ++ "/Controls.Deep" = root ++ "/Controls.Deep" ↔
      root ≠ "" := by
  by_cases nameless : root = ""
  · refine iff_of_false ?_ (not_not_intro nameless)
    rw [nameless]
    decide +kernel
  · exact iff_of_true (by rw [if_neg nameless]) nameless

/-- The power resource that is made up for a component is in the root that its path leads from. An
accepted request for separate controls, of which the first leads from a root, is addressed to that
root exactly if the root has a name; with none the address gets a second slash in front. -/
theorem collection_is_in_root_iff_root_has_name {root collection member : String}
    (leads : Path.LeadsTo path root collection member) :
    Path.powerOf path = root ++ "/Chassis/" ++
        (if "QSBP".toList <:+: member.toList then "RackMount/Baseboard" else member) ++
        "/Power" ∧
    ∀ (target : Target) (settings : List CapSetting) (planned : Option Plan),
      target.traits.capStyle = .members → FirstHasPath target settings path →
      plan target settings = .ok planned →
      ∃ sent payload, planned = some ⟨sent, payload⟩ ∧
        (sent.powerPath = root ++ "/Controls.Deep" ↔ root ≠ "") ∧
        sent.powerPath = (if root = "" then "/" else root) ++ "/Controls.Deep" := by
  refine ⟨leads.powerOf_eq, fun target settings planned style first accepted => ?_⟩
  rcases exists_plan_of_first style first accepted with ⟨payload, rfl⟩
  have address : (target.withPowerPath (collectionPath path)).powerPath =
      (if root = "" then "/" else root) ++ "/Controls.Deep" := by
    rw [Target.withPowerPath, collectionPath, leads.parent_parent_eq]
  refine ⟨_, payload, rfl, ?_, address⟩
  rw [address]
  exact address_eq_iff

theorem control_is_set_in_root :
    let path := "/redfish/v1/Controls/Node//"
    let target : Target :=
      { caps := .ofList [("node", { name := "node", path })], traits := { capStyle := .members } }
    let settings : List CapSetting := [⟨"fan", 9⟩, ⟨"node", 500⟩]
    ∃ sent payload, plan target settings = .ok (some ⟨sent, payload⟩) ∧
      FirstHasPath target settings path ∧
      Path.LeadsTo path "/redfish/v1" "Controls" "Node" ∧
      sent.powerPath = "/redfish/v1/Controls.Deep" ∧
      Path.powerOf path = "/redfish/v1/Chassis/Node/Power" := by
  intro path target settings
  rcases exists_plan target settings (by decide +kernel) (by decide +kernel) with
    ⟨planned, accepted, _⟩
  have first : FirstHasPath target settings path := by decide +kernel
  have leads : Path.LeadsTo path "/redfish/v1" "Controls" "Node" :=
    ⟨by decide +kernel, by decide +kernel, by decide +kernel, 2, by decide +kernel⟩
  rcases collection_is_in_root_iff_root_has_name leads with ⟨power, addressed⟩
  rcases addressed target settings _ rfl first accepted with ⟨sent, payload, found, inRoot, _⟩
  refine ⟨sent, payload, found ▸ accepted, first, leads, inRoot.mpr (by decide), ?_⟩
  rw [power]
  decide +kernel

theorem control_of_nameless_root_is_set_outside :
    let path := "/Controls/Node"
    let target : Target :=
      { caps := .ofList [("node", { name := "node", path })], traits := { capStyle := .members } }
    let settings : List CapSetting := [⟨"node", 500⟩]
    ∃ sent payload, plan target settings = .ok (some ⟨sent, payload⟩) ∧
      FirstHasPath target settings path ∧ Path.LeadsTo path "" "Controls" "Node" ∧
      sent.powerPath = "//Controls.Deep" ∧ sent.powerPath ≠ "" ++ "/Controls.Deep" := by
  intro path target settings
  rcases exists_plan target settings (by decide +kernel) (by decide +kernel) with
    ⟨planned, accepted, _⟩
  have first : FirstHasPath target settings path := by decide +kernel
  have leads : Path.LeadsTo path "" "Controls" "Node" :=
    ⟨by decide +kernel, by decide +kernel, by decide +kernel, 0, by decide +kernel⟩
  rcases exists_plan_of_first rfl first accepted with ⟨payload, found⟩
  exact ⟨_, payload, found ▸ accepted, first, leads, by decide +kernel, by decide +kernel⟩

end ClusterPower.Cap
