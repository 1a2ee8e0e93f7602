import ClusterPower.Proofs.Cap.Grouping

/-!
Host bounds of groups. A group is reported with the host bounds of the first of its targets, but
what makes two targets share a group does not tell their host bounds: the cap that bounds a host is
found by its place in the table, and the place is no part of the signature. All else in the groups
is the same in whatever order the targets are given.
-/

namespace ClusterPower.Cap

variable {target one other : Target} {targets others : List Target} {controls : List Bounds}
  {group : Group} {definition : CapDefinition} {definitions : List CapDefinition}

/-! ## The cap that bounds a host -/

def placeOf (definition : CapDefinition) : Nat ×ₗ String :=
  toLex (definition.index, definition.name)

theorem comesBefore_iff {left right : CapDefinition} :
    comesBefore left right = true ↔ placeOf left < placeOf right := by
  rw [placeOf, placeOf, Prod.Lex.toLex_lt_toLex, comesBefore]
  by_cases index : left.index = right.index <;> simp [index]

theorem lowest?_eq_none_iff : lowest? definitions = none ↔ definitions = [] := by
  cases definitions with
  | nil => exact iff_of_true rfl rfl
  | cons first rest => cases below : lowest? rest <;> simp [lowest?, below]

theorem lowest?_le (found : lowest? definitions = some definition) :
    definition ∈ definitions ∧ ∀ other ∈ definitions, placeOf definition ≤ placeOf other := by
  induction definitions generalizing definition with
  | nil => cases found
  | cons first rest induction =>
      rw [lowest?] at found
      cases below : lowest? rest with
      | none =>
          rw [below] at found
          cases found
          rw [lowest?_eq_none_iff.mp below]
          simp
      | some least =>
          rcases induction below with ⟨member, lower⟩
          rw [below] at found
          cases Option.some.inj found
          split
          · next before =>
              have first_gt := comesBefore_iff.mp before
              exact ⟨List.mem_cons_of_mem _ member, List.forall_mem_cons.mpr ⟨first_gt.le, lower⟩⟩
          · next notBefore =>
              have first_le := not_lt.mp (mt comesBefore_iff.mpr notBefore)
              exact ⟨List.mem_cons_self, List.forall_mem_cons.mpr
                ⟨le_rfl, fun other listed => first_le.trans (lower other listed)⟩⟩

/-- The cap of the whole node bounds the host, or else the cap with the lowest index. -/
def IsHostCap (target : Target) (definition : CapDefinition) : Prop :=
  target.caps.get? nodePowerLimit = some definition ∨
    target.caps.get? nodePowerLimit = none ∧ definition ∈ target.caps.values ∧
      ∀ other ∈ target.caps.values, placeOf definition ≤ placeOf other

theorem exists_hostCap (present : target.caps.isEmpty = false) :
    ∃ definition, IsHostCap target definition ∧
      hostBounds target = (definition.low, definition.high) := by
  unfold hostBounds
  cases ofNode : target.caps.get? nodePowerLimit with
  | some definition => exact ⟨definition, Or.inl ofNode, rfl⟩
  | none =>
      cases found : lowest? target.caps.values with
      | none =>
          have nothing : target.caps.entries = [] :=
            List.map_eq_nil_iff.mp (lowest?_eq_none_iff.mp found)
          rw [Table.isEmpty, nothing] at present
          cases present
      | some definition => exact ⟨definition, Or.inr ⟨ofNode, lowest?_le found⟩, rfl⟩

/-! ## The bounds of a group -/

def Group.bounds (group : Group) : Int × Int :=
  (group.hostLow, group.hostHigh)

theorem exists_first_of_mem (member : group ∈ groups targets) :
    ∃ first, (members targets group.controls).head? = some first ∧
      group.bounds = hostBounds first := by
  rcases exists_signature_of_mem member with ⟨controls, listed, index, rfl⟩
  have bounds : ((groupOf targets controls).numbered index).bounds =
      (members targets controls).head?.elim (unbounded, unbounded) hostBounds := rfl
  rcases List.exists_cons_of_ne_nil (members_ne_nil listed) with ⟨first, rest, split⟩
  refine ⟨first, ?_, ?_⟩
  · exact congrArg List.head? split
  · rw [bounds, split]
    rfl

/-- Targets with the same signature have the same host bounds. -/
def HostsAgree (targets : List Target) : Prop :=
  ∀ one ∈ capped targets, ∀ other ∈ capped targets,
    signature one = signature other → hostBounds one = hostBounds other

theorem bounds_of_all_iff_agree :
    (∀ group ∈ groups targets, ∀ target ∈ members targets group.controls,
      group.bounds = hostBounds target) ↔ HostsAgree targets := by
  constructor
  · intro all one oneIn other otherIn same
    rcases exists_group_of_signature (mem_signatures.mpr ⟨one, oneIn, rfl⟩) with ⟨_, member⟩
    have left := all _ member one (mem_members.mpr ⟨oneIn, rfl⟩)
    have right := all _ member other (mem_members.mpr ⟨otherIn, same.symm⟩)
    exact left.symm.trans right
  · intro agree group member target listed
    rcases exists_first_of_mem member with ⟨first, head, bounds⟩
    rcases mem_members.mp (List.mem_of_mem_head? head) with ⟨firstIn, firstSame⟩
    rcases mem_members.mp listed with ⟨targetIn, same⟩
    rw [bounds, agree first firstIn target targetIn (firstSame.trans same.symm)]

/-! ## Another order -/

theorem capped_perm (perm : targets.Perm others) : (capped targets).Perm (capped others) :=
  perm.filter _

theorem members_perm (perm : targets.Perm others) (controls : List Bounds) :
    (members targets controls).Perm (members others controls) :=
  (capped_perm perm).filter _

theorem lex_before_iff {left right : List Bounds} :
    List.lex left right Bounds.before = true ↔ left.map Bounds.key < right.map Bounds.key := by
  rw [List.lex_eq_true_iff_lex]
  change _ ↔ List.Lex (· < ·) _ _
  induction left generalizing right with
  | nil => cases right <;> simp
  | cons first rest induction =>
      cases right with
      | nil => simp
      | cons second others =>
          rw [List.map_cons, List.map_cons, List.cons_lex_cons_iff, List.cons_lex_cons_iff,
            Bounds.before_iff, Bounds.key_injective.eq_iff, induction]

theorem goesBy_lex :
    GoesBy (fun left right => !List.lex right left Bounds.before) (List.map Bounds.key) := by
  intro left right
  rw [Bool.not_eq_true', ← Bool.not_eq_true, lex_before_iff, not_lt]

theorem signatures_eq_of_perm (perm : targets.Perm others) :
    signatures targets = signatures others :=
  goesBy_lex.mergeSort_eq_of_perm (List.map_injective_iff.mpr Bounds.key_injective)
    (eraseDups_perm ((capped_perm perm).map _))

def Group.withoutBounds (group : Group) : Group :=
  { group with hostLow := unbounded, hostHigh := unbounded }

theorem Group.eq_of_bounds {group again : Group} (bounds : group.bounds = again.bounds)
    (same : group.withoutBounds = again.withoutBounds) : group = again := by
  have parts := Prod.mk.inj bounds
  simp only [withoutBounds, Group.mk.injEq] at same
  exact (Group.mk.injEq ..).mpr ⟨same.1, parts.1, parts.2, same.2.2.2⟩

theorem withoutBounds_groupOf (perm : targets.Perm others) (controls : List Bounds) :
    (groupOf targets controls).withoutBounds = (groupOf others controls).withoutBounds := by
  have xnames : (groupOf targets controls).xnames = (groupOf others controls).xnames :=
    congrArg List.eraseDups ((goesBy_le id).mergeSort_eq_of_perm Function.injective_id
      ((members_perm perm controls).map _))
  have nids : (groupOf targets controls).nids = (groupOf others controls).nids :=
    congrArg List.eraseDups ((goesBy_le id).mergeSort_eq_of_perm Function.injective_id
      ((members_perm perm controls).map _))
  unfold Group.withoutBounds
  rw [xnames, nids]
  rfl

theorem map_withoutBounds_unnamedGroups (targets : List Target) :
    (unnamedGroups targets).map Group.withoutBounds =
      ((signatures targets).map fun controls =>
        (groupOf targets controls).withoutBounds).mergeSort fun left right =>
          !decide (right.xnames < left.xnames) := by
  have kept := List.map_mergeSort (f := Group.withoutBounds)
    (l := (signatures targets).map (groupOf targets))
    (r := fun left right => !decide (right.xnames < left.xnames))
    (s := fun left right => !decide (right.xnames < left.xnames)) fun _ _ _ _ => rfl
  rw [unnamedGroups, kept, List.map_map]
  rfl

theorem map_withoutBounds_groups (targets : List Target) :
    (groups targets).map Group.withoutBounds =
      ((unnamedGroups targets).map Group.withoutBounds).mapIdx Group.numbered := by
  rw [groups_eq_mapIdx]
  exact List.ext_getElem (by simp) fun index _ _ => by simp [Group.numbered, Group.withoutBounds]

theorem withoutBounds_groups_of_perm (perm : targets.Perm others) :
    (groups targets).map Group.withoutBounds = (groups others).map Group.withoutBounds := by
  rw [map_withoutBounds_groups, map_withoutBounds_groups, map_withoutBounds_unnamedGroups,
    map_withoutBounds_unnamedGroups, signatures_eq_of_perm perm]
  simp only [withoutBounds_groupOf perm]

theorem groups_eq_of_agree (agree : HostsAgree targets) (perm : targets.Perm others) :
    groups others = groups targets := by
  have same := withoutBounds_groups_of_perm perm.symm
  have length : (groups others).length = (groups targets).length := by
    simpa using congrArg List.length same
  refine List.ext_getElem length fun index inside alsoInside => ?_
  have frame : (groups others)[index].withoutBounds = (groups targets)[index].withoutBounds := by
    have entry := List.getElem_of_eq same (by simpa using inside)
    rwa [List.getElem_map, List.getElem_map] at entry
  have controls : (groups others)[index].controls = (groups targets)[index].controls := by
    change (groups others)[index].withoutBounds.controls = _
    rw [frame]
    rfl
  rcases exists_first_of_mem (List.getElem_mem inside) with ⟨first, head, bounds⟩
  have listed := (members_perm perm.symm _).mem_iff.mp (List.mem_of_mem_head? head)
  rw [controls] at listed
  have alsoBounds := bounds_of_all_iff_agree.mpr agree _ (List.getElem_mem alsoInside) _ listed
  exact Group.eq_of_bounds (bounds.trans alsoBounds.symm) frame

theorem head?_members_first (present : target.caps.isEmpty = false) (rest : List Target) :
    (members (target :: rest) (signature target)).head? = some target := by
  simp [members, capped, present]

theorem bounds_of_first (present : target.caps.isEmpty = false) {rest : List Target}
    (member : group ∈ groups (target :: rest)) (controls : group.controls = signature target) :
    group.bounds = hostBounds target := by
  rcases exists_first_of_mem member with ⟨first, head, bounds⟩
  rw [controls, head?_members_first present rest] at head
  cases head
  exact bounds

theorem exists_group_of_first (present : target.caps.isEmpty = false) (rest : List Target) :
    ∃ group ∈ groups (target :: rest), group.controls = signature target := by
  have listed : target ∈ capped (target :: rest) := mem_capped.mpr ⟨List.mem_cons_self, present⟩
  rcases exists_group_of_signature (mem_signatures.mpr ⟨target, listed, rfl⟩) with ⟨_, member⟩
  exact ⟨_, member, rfl⟩

theorem exists_first_of_same (same : ∀ others, targets.Perm others → groups others = groups targets)
    (listed : target ∈ capped targets) :
    ∃ first, (members targets (signature target)).head? = some first ∧
      hostBounds target = hostBounds first := by
  rcases mem_capped.mp listed with ⟨given, present⟩
  rcases List.append_of_mem given with ⟨before, behind, split⟩
  have perm : targets.Perm (target :: (before ++ behind)) := split ▸ List.perm_middle
  rcases exists_group_of_first present (before ++ behind) with ⟨group, member, controls⟩
  have bounds := bounds_of_first present member controls
  rw [same _ perm] at member
  rcases exists_first_of_mem member with ⟨first, head, alsoBounds⟩
  exact ⟨first, controls ▸ head, bounds.symm.trans alsoBounds⟩

theorem same_in_any_order_iff_agree :
    (∀ others, targets.Perm others → groups others = groups targets) ↔ HostsAgree targets := by
  refine ⟨fun same one oneIn other otherIn signed => ?_,
    fun agree others perm => groups_eq_of_agree agree perm⟩
  rcases exists_first_of_same same oneIn with ⟨first, head, bounds⟩
  rcases exists_first_of_same same otherIn with ⟨again, alsoHead, alsoBounds⟩
  rw [← signed, head] at alsoHead
  cases alsoHead
  exact bounds.trans alsoBounds.symm

/-- A group has the host bounds of its first target: those of the target's cap of the whole node,
or else of its cap with the lowest index. They are those of all its targets, for every group,
exactly if targets with the same signature agree in them, and exactly then the groups are the same
for the targets in any other order. But for the host bounds they always are. -/
theorem first_target_bounds_group (targets : List Target) :
    (∀ group ∈ groups targets, ∃ first definition,
      (members targets group.controls).head? = some first ∧ IsHostCap first definition ∧
      group.hostLow = definition.low ∧ group.hostHigh = definition.high) ∧
    ((∀ group ∈ groups targets, ∀ target ∈ members targets group.controls,
      (group.hostLow, group.hostHigh) = hostBounds target) ↔ HostsAgree targets) ∧
    ((∀ others, targets.Perm others → groups others = groups targets) ↔ HostsAgree targets) ∧
    ∀ others, targets.Perm others →
      (groups targets).map Group.withoutBounds = (groups others).map Group.withoutBounds := by
  refine ⟨fun group member => ?_, bounds_of_all_iff_agree, same_in_any_order_iff_agree,
    fun _ => withoutBounds_groups_of_perm⟩
  rcases exists_first_of_mem member with ⟨first, head, bounds⟩
  have listed := (mem_members.mp (List.mem_of_mem_head? head)).1
  rcases exists_hostCap (mem_capped.mp listed).2 with ⟨definition, hostCap, same⟩
  have parts := Prod.mk.inj (bounds.trans same)
  exact ⟨first, definition, head, hostCap, parts.1, parts.2⟩

/-- Two nodes with the same names and bounds in other places share a group, which is bounded as
whichever of them comes first. -/
theorem second_node_is_bounded_as_first :
    let wide : CapDefinition := { name := "wide", low := 200, high := 900 }
    let narrow : CapDefinition := { name := "narrow", low := 100, high := 300 }
    let one : Target :=
      { xname := "x0"
        caps := .ofList [("wide", wide), ("narrow", { narrow with index := 1 })] }
    let other : Target :=
      { xname := "x1"
        caps := .ofList [("wide", { wide with index := 1 }), ("narrow", narrow)] }
    (∃ group ∈ groups [one, other], other ∈ members [one, other] group.controls ∧
      (group.hostLow, group.hostHigh) = (200, 900) ∧ hostBounds other = (100, 300)) ∧
    groups [other, one] ≠ groups [one, other] := by
  intro wide narrow one other
  have same : signature other = signature one :=
    signature_eq_iff.mpr ⟨signature other, isSortedBounds_signature other,
      ⟨(isSortedBounds_signature other).perm.trans (by decide +kernel),
        (isSortedBounds_signature other).sorted⟩⟩
  have otherIn : other ∈ members [one, other] (signature one) :=
    mem_members.mpr ⟨mem_capped.mpr ⟨by simp, rfl⟩, same⟩
  have oneBounds : hostBounds one = (200, 900) := by decide +kernel
  have otherBounds : hostBounds other = (100, 300) := by decide +kernel
  rcases exists_group_of_first (rfl : one.caps.isEmpty = false) [other] with
    ⟨group, member, controls⟩
  have bounds : group.bounds = (200, 900) := (bounds_of_first rfl member controls).trans oneBounds
  refine ⟨⟨group, member, controls ▸ otherIn, bounds, otherBounds⟩, fun equal => ?_⟩
  rw [← equal] at member
  have alsoBounds := (bounds_of_first rfl member (controls.trans same.symm)).trans otherBounds
  rw [bounds] at alsoBounds
  cases alsoBounds

end ClusterPower.Cap
