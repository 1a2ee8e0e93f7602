import ClusterPower.Cap.Reading
import ClusterPower.Proofs.Sorting
import Mathlib.Data.String.Basic

/-!
Resources to read for the caps of a target with separate controls. The cap of the whole node takes
the place of the target's own resource; a target without such a cap keeps its own resource, which
is then read besides those of its caps.
-/

namespace ClusterPower.Cap

variable {target : Target} {definition : CapDefinition}

/-! ## Caps in order -/

/-- The names of the target's caps tell them apart. -/
def HasOwnNames (target : Target) : Prop :=
  (target.caps.values.map (·.name)).Nodup

instance : Decidable (HasOwnNames target) := inferInstanceAs (Decidable (List.Nodup _))

/-- The target has a cap of the whole node. -/
def HasNodeCap (target : Target) : Prop :=
  ∃ definition ∈ target.caps.values, definition.name = nodePowerLimit

instance : Decidable (HasNodeCap target) := inferInstanceAs (Decidable (∃ definition ∈ _, _))

/-- The cap of the whole node comes first, and the others by their names. -/
def IsReadBefore (left right : CapDefinition) : Prop :=
  left.name = nodePowerLimit ∨ right.name ≠ nodePowerLimit ∧ left.name < right.name

theorem sortedCaps_perm (target : Target) : (sortedCaps target).Perm target.caps.values :=
  List.mergeSort_perm _ _

theorem sortedCaps_increasing (names : HasOwnNames target) :
    (sortedCaps target).Pairwise fun left right => left.name < right.name := by
  have goes : GoesBy (fun left right : CapDefinition => decide (left.name ≤ right.name))
      CapDefinition.name := fun _ _ => decide_eq_true_iff
  have distinct : ((sortedCaps target).map (·.name)).Nodup :=
    ((sortedCaps_perm target).map _).nodup_iff.mpr names
  exact (goes.pairwise_mergeSort _).imp₂ (fun _ _ below => lt_of_le_of_ne below)
    (List.pairwise_map.mp distinct)

def nodeCaps (target : Target) : List CapDefinition :=
  (sortedCaps target).filter fun definition => definition.name == nodePowerLimit

def partCaps (target : Target) : List CapDefinition :=
  (sortedCaps target).filter fun definition => definition.name != nodePowerLimit

theorem mem_nodeCaps :
    definition ∈ nodeCaps target ↔
      definition ∈ target.caps.values ∧ definition.name = nodePowerLimit := by
  simp [nodeCaps, (sortedCaps_perm target).mem_iff]

theorem nodeCaps_eq_nil_iff : nodeCaps target = [] ↔ ¬HasNodeCap target := by
  simp [List.eq_nil_iff_forall_not_mem, mem_nodeCaps, HasNodeCap]

theorem exists_nodeCaps_eq_singleton (names : HasOwnNames target) (present : HasNodeCap target) :
    ∃ ofNode, nodeCaps target = [ofNode] := by
  have increasing : (nodeCaps target).Pairwise fun left right => left.name < right.name :=
    (sortedCaps_increasing names).filter _
  have named := fun each (listed : each ∈ nodeCaps target) => (mem_nodeCaps.mp listed).2
  match split : nodeCaps target with
  | [] => exact absurd present (nodeCaps_eq_nil_iff.mp split)
  | [only] => exact ⟨only, rfl⟩
  | first :: second :: rest =>
      rw [split] at increasing named
      have below : first.name < second.name := List.rel_of_pairwise_cons increasing (by simp)
      rw [named first (by simp), named second (by simp)] at below
      exact absurd below (lt_irrefl _)

def readOrder (target : Target) : List CapDefinition :=
  nodeCaps target ++ partCaps target

theorem readOrder_perm (target : Target) : (readOrder target).Perm target.caps.values :=
  (List.filter_append_perm _ _).trans (sortedCaps_perm target)

theorem pairwise_readOrder (names : HasOwnNames target) :
    (readOrder target).Pairwise IsReadBefore := by
  have first : ∀ left ∈ nodeCaps target, ∀ right, IsReadBefore left right :=
    fun left member _ => Or.inl (mem_nodeCaps.mp member).2
  have part : ∀ right ∈ partCaps target, right.name ≠ nodePowerLimit :=
    fun right member => by simpa using (List.mem_filter.mp member).2
  have increasing : (partCaps target).Pairwise fun left right => left.name < right.name :=
    (sortedCaps_increasing names).filter _
  rw [readOrder, List.pairwise_append]
  refine ⟨?_, ?_, fun left member right _ => first left member right⟩
  · exact List.pairwise_of_forall_mem_list fun left member right _ => first left member right
  · exact increasing.imp_of_mem fun _ member below => Or.inr ⟨part _ member, below⟩

/-! ## Resources -/

theorem resources_eq (separate : 0 < target.controlCount) :
    resources target =
      ((nodeCaps target).getLast?.elim target fun definition =>
        target.withPowerPath definition.path) ::
      (partCaps target).map fun definition => target.withPowerPath definition.path := by
  rw [resources, if_neg (Nat.ne_of_gt separate), List.partition_eq_filter_filter]
  rfl

theorem eq_of_mem_resources {resource : Target} (member : resource ∈ resources target) :
    { resource with powerPath := target.powerPath } = target := by
  by_cases separate : target.controlCount = 0
  · rw [resources, if_pos separate, List.mem_singleton] at member
    rw [member]
  · rw [resources_eq (Nat.pos_of_ne_zero separate)] at member
    rcases List.mem_cons.mp member with rfl | member
    · cases (nodeCaps target).getLast? <;> rfl
    · rcases List.mem_map.mp member with ⟨definition, _, rfl⟩
      rfl

theorem paths_of_node_cap (separate : 0 < target.controlCount) (names : HasOwnNames target)
    (present : HasNodeCap target) :
    (resources target).map (·.powerPath) = (readOrder target).map (·.path) := by
  rcases exists_nodeCaps_eq_singleton names present with ⟨ofNode, single⟩
  rw [resources_eq separate, readOrder, single, List.map_cons, List.map_map]
  rfl

theorem paths_of_no_node_cap (separate : 0 < target.controlCount) (absent : ¬HasNodeCap target) :
    (resources target).map (·.powerPath) =
      target.powerPath :: (readOrder target).map (·.path) := by
  rw [resources_eq separate, readOrder, nodeCaps_eq_nil_iff.mpr absent, List.map_cons,
    List.map_map]
  rfl

/-- The resources to read have the paths of the target's caps, each once: that of the whole node
first and the others by the names of the caps. In all else they are like the target. They are the
resources of the caps alone exactly if there is a cap of the whole node, and otherwise the target's
own resource comes before them. -/
theorem own_resource_is_read_iff_no_node_cap (separate : 0 < target.controlCount)
    (names : HasOwnNames target) :
    ((resources target).length = target.caps.values.length ↔ HasNodeCap target) ∧
    (∃ order : List CapDefinition, order.Perm target.caps.values ∧ order.Pairwise IsReadBefore ∧
      (resources target).map (·.powerPath) =
        (if HasNodeCap target then [] else [target.powerPath]) ++ order.map (·.path)) ∧
    ∀ resource ∈ resources target, { resource with powerPath := target.powerPath } = target := by
  have paths : (resources target).map (·.powerPath) =
      (if HasNodeCap target then [] else [target.powerPath]) ++
        (readOrder target).map (·.path) := by
    split
    · next present => exact paths_of_node_cap separate names present
    · next absent => exact paths_of_no_node_cap separate absent
  refine ⟨?_, ⟨_, readOrder_perm target, pairwise_readOrder names, paths⟩,
    fun _ => eq_of_mem_resources⟩
  have length := congrArg List.length paths
  rw [List.length_append, List.length_map, List.length_map, (readOrder_perm target).length_eq]
    at length
  by_cases present : HasNodeCap target <;> simp [present, length]

theorem three_caps_are_three_resources :
    let target : Target :=
      { powerPath := "/own", controlCount := 3
        caps := .ofList [
          ("b", { name := "b", path := "/b" }),
          (nodePowerLimit, { name := nodePowerLimit, path := "/node" }),
          ("a", { name := "a", path := "/a" })] }
    0 < target.controlCount ∧ HasOwnNames target ∧ (resources target).length = 3 := by
  intro target
  have separate : 0 < target.controlCount := by decide
  have names : HasOwnNames target := by decide +kernel
  have present : HasNodeCap target := by decide +kernel
  exact ⟨separate, names, (own_resource_is_read_iff_no_node_cap separate names).1.mpr present⟩

theorem resource_without_cap_is_read :
    let target : Target :=
      { powerPath := "/own", controlCount := 1
        caps := .ofList [("a", { name := "a", path := "/a" })] }
    HasOwnNames target ∧ target.caps.values.map (·.path) = ["/a"] ∧
      (resources target).map (·.powerPath) = ["/own", "/a"] := by
  intro target
  have absent : ¬HasNodeCap target := by decide +kernel
  have sorted : sortedCaps target = [{ name := "a", path := "/a" }] := List.mergeSort_singleton _
  have order : readOrder target = [{ name := "a", path := "/a" }] := by
    rw [readOrder, nodeCaps, partCaps, sorted]
    decide
  refine ⟨by decide +kernel, rfl, ?_⟩
  rw [paths_of_no_node_cap (by decide) absent, order]
  rfl

end ClusterPower.Cap
