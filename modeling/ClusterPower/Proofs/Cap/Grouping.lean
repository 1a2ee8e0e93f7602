import ClusterPower.Cap.Groups
import ClusterPower.Proofs.Sorting
import Mathlib.Data.List.Perm.Basic
import Mathlib.Data.Prod.Lex
import Mathlib.Data.String.Basic

/-!
Targets grouped by their power caps. The caps of a target are told by their names and bounds alone,
sorted, so that neither the order of its table nor anything else of it matters. There is one group
for each such list, with all targets that have it; the groups are in the order of the names of
their targets and numbered in that order.
-/

namespace ClusterPower.Cap

variable {target one other : Target} {targets : List Target} {controls : List Bounds}
  {group : Group} {xname : String} {nid : Int}

/-! ## Sorted bounds -/

def Bounds.key (bounds : Bounds) : String ×ₗ Int ×ₗ Int :=
  toLex (bounds.name, toLex (bounds.low, bounds.high))

theorem Bounds.key_injective : Function.Injective Bounds.key := by
  rintro ⟨name, low, high⟩ ⟨otherName, otherLow, otherHigh⟩ same
  have parts := Prod.mk.inj (toLex.injective same)
  have bounds := Prod.mk.inj (toLex.injective parts.2)
  exact (Bounds.mk.injEq ..).mpr ⟨parts.1, bounds⟩

theorem Bounds.before_iff {left right : Bounds} :
    left.before right = true ↔ left.key < right.key := by
  rw [key, key, Prod.Lex.toLex_lt_toLex, Prod.Lex.toLex_lt_toLex, before]
  by_cases name : left.name = right.name
  · by_cases low : left.low = right.low <;> simp [name, low]
  · simp [name]

theorem Bounds.goesBy_key :
    GoesBy (fun left right : Bounds => !right.before left) Bounds.key := by
  intro left right
  rw [Bool.not_eq_true', ← Bool.not_eq_true, Bounds.before_iff, not_lt]

def boundsOf (target : Target) : List Bounds :=
  target.caps.values.map Bounds.ofDefinition

/-- The names and bounds of a target's caps in order. -/
structure IsSortedBounds (target : Target) (controls : List Bounds) : Prop where
  perm : controls.Perm (boundsOf target)
  sorted : controls.Pairwise fun left right => left.key ≤ right.key

theorem isSortedBounds_signature (target : Target) : IsSortedBounds target (signature target) where
  perm := List.mergeSort_perm _ _
  sorted := Bounds.goesBy_key.pairwise_mergeSort _

theorem IsSortedBounds.eq_signature (sorted : IsSortedBounds target controls) :
    controls = signature target :=
  List.Perm.eq_of_pairwise (fun _ _ _ _ below above => Bounds.key_injective (below.antisymm above))
    sorted.sorted (isSortedBounds_signature target).sorted
    (sorted.perm.trans (isSortedBounds_signature target).perm.symm)

theorem signature_eq_iff :
    signature one = signature other ↔
      ∃ controls, IsSortedBounds one controls ∧ IsSortedBounds other controls := by
  constructor
  · intro same
    exact ⟨signature one, isSortedBounds_signature one, same ▸ isSortedBounds_signature other⟩
  · rintro ⟨controls, left, right⟩
    rw [← left.eq_signature, ← right.eq_signature]

/-! ## Classes of targets -/

def capped (targets : List Target) : List Target :=
  targets.filter fun target => !target.caps.isEmpty

def signatures (targets : List Target) : List (List Bounds) :=
  ((capped targets).map signature).eraseDups.mergeSort fun left right =>
    !List.lex right left Bounds.before

def members (targets : List Target) (controls : List Bounds) : List Target :=
  (capped targets).filter fun target => signature target == controls

theorem mem_capped : target ∈ capped targets ↔ target ∈ targets ∧ target.caps.isEmpty = false := by
  simp [capped]

theorem mem_members :
    target ∈ members targets controls ↔ target ∈ capped targets ∧ signature target = controls := by
  simp [members]

theorem signatures_perm (targets : List Target) :
    (signatures targets).Perm ((capped targets).map signature).eraseDups :=
  List.mergeSort_perm _ _

theorem nodup_signatures (targets : List Target) : (signatures targets).Nodup :=
  (signatures_perm targets).nodup_iff.mpr (nodup_eraseDups _)

theorem mem_signatures :
    controls ∈ signatures targets ↔ ∃ target ∈ capped targets, signature target = controls := by
  rw [(signatures_perm targets).mem_iff, List.mem_eraseDups, List.mem_map]

theorem members_ne_nil (listed : controls ∈ signatures targets) :
    members targets controls ≠ [] := by
  rcases mem_signatures.mp listed with ⟨target, member, same⟩
  exact List.ne_nil_of_mem (mem_members.mpr ⟨member, same⟩)

theorem flatMap_members_perm (targets : List Target) :
    ((signatures targets).flatMap (members targets)).Perm (capped targets) :=
  flatMap_classes_perm signature (nodup_signatures targets) fun target member =>
    mem_signatures.mpr ⟨target, member, rfl⟩

/-! ## Groups -/

def groupOf (targets : List Target) (controls : List Bounds) : Group :=
  Group.ofMembers controls (members targets controls)

def unnamedGroups (targets : List Target) : List Group :=
  ((signatures targets).map (groupOf targets)).mergeSort fun left right =>
    !decide (right.xnames < left.xnames)

def Group.numbered (index : Nat) (group : Group) : Group :=
  { group with name := "group" ++ toString index }

theorem groups_eq_mapIdx (targets : List Target) :
    groups targets = (unnamedGroups targets).mapIdx Group.numbered := rfl

theorem unnamedGroups_perm (targets : List Target) :
    (unnamedGroups targets).Perm ((signatures targets).map (groupOf targets)) :=
  List.mergeSort_perm _ _

theorem map_groups {View : Type} (view : Group → View)
    (unnamed : ∀ index group, view (group.numbered index) = view group) :
    (groups targets).map view = (unnamedGroups targets).map view := by
  rw [groups_eq_mapIdx]
  exact List.ext_getElem (by simp) fun index _ _ => by simp [unnamed]

theorem names_groups (targets : List Target) :
    (groups targets).map (·.name) =
      (List.range (groups targets).length).map fun index => "group" ++ toString index := by
  rw [groups_eq_mapIdx]
  exact List.ext_getElem (by simp) fun index _ _ => by simp [Group.numbered]

theorem mem_xnames_groupOf :
    xname ∈ (groupOf targets controls).xnames ↔
      ∃ target ∈ members targets controls, target.xname = xname := by
  simp [groupOf, Group.ofMembers]

theorem mem_nids_groupOf :
    nid ∈ (groupOf targets controls).nids ↔
      ∃ target ∈ members targets controls, target.nid = nid := by
  simp [groupOf, Group.ofMembers]

theorem xnames_groupOf_increasing (targets : List Target) (controls : List Bounds) :
    (groupOf targets controls).xnames.Pairwise (· < ·) :=
  (goesBy_le id).increasing_eraseDups _

theorem nids_groupOf_increasing (targets : List Target) (controls : List Bounds) :
    (groupOf targets controls).nids.Pairwise (· < ·) :=
  (goesBy_le id).increasing_eraseDups _

theorem exists_signature_of_mem (member : group ∈ groups targets) :
    ∃ controls ∈ signatures targets, ∃ index,
      group = (groupOf targets controls).numbered index := by
  rw [groups_eq_mapIdx, List.mem_mapIdx] at member
  rcases member with ⟨index, inside, rfl⟩
  have listed := (unnamedGroups_perm targets).mem_iff.mp (List.getElem_mem inside)
  rcases List.mem_map.mp listed with ⟨controls, signed, same⟩
  exact ⟨controls, signed, index, by rw [same]⟩

theorem exists_group_of_signature (listed : controls ∈ signatures targets) :
    ∃ index, (groupOf targets controls).numbered index ∈ groups targets := by
  have member : groupOf targets controls ∈ unnamedGroups targets :=
    (unnamedGroups_perm targets).mem_iff.mpr (List.mem_map_of_mem listed)
  rcases List.mem_iff_getElem.mp member with ⟨index, inside, same⟩
  refine ⟨index, ?_⟩
  rw [groups_eq_mapIdx, List.mem_mapIdx]
  exact ⟨index, inside, by rw [same]⟩

theorem controls_of_mem (member : group ∈ groups targets) :
    group.controls ∈ signatures targets := by
  rcases exists_signature_of_mem member with ⟨controls, listed, _, rfl⟩
  exact listed

theorem mem_xnames_iff (member : group ∈ groups targets) :
    xname ∈ group.xnames ↔ ∃ target ∈ members targets group.controls, target.xname = xname := by
  rcases exists_signature_of_mem member with ⟨controls, _, _, rfl⟩
  exact mem_xnames_groupOf

theorem mem_nids_iff (member : group ∈ groups targets) :
    nid ∈ group.nids ↔ ∃ target ∈ members targets group.controls, target.nid = nid := by
  rcases exists_signature_of_mem member with ⟨controls, _, _, rfl⟩
  exact mem_nids_groupOf

theorem xnames_ne_nil (member : group ∈ groups targets) : group.xnames ≠ [] := by
  rcases List.exists_mem_of_ne_nil _ (members_ne_nil (controls_of_mem member)) with
    ⟨target, listed⟩
  exact List.ne_nil_of_mem ((mem_xnames_iff member).mpr ⟨target, listed, rfl⟩)

theorem groups_sorted (targets : List Target) :
    (groups targets).Pairwise fun left right => left.xnames ≤ right.xnames := by
  have goes : GoesBy (fun left right : Group => !decide (right.xnames < left.xnames))
      Group.xnames := by
    intro left right
    rw [Bool.not_eq_true', decide_eq_false_iff_not, not_lt]
  have sorted : ((unnamedGroups targets).map (·.xnames)).Pairwise (· ≤ ·) :=
    List.pairwise_map.mpr (goes.pairwise_mergeSort _)
  rw [← map_groups (·.xnames) fun _ _ => rfl] at sorted
  exact List.pairwise_map.mp sorted

/-! ## Targets with names of their own -/

theorem nodup_xnames_capped (distinct : (targets.map (·.xname)).Nodup) :
    ((capped targets).map (·.xname)).Nodup :=
  distinct.sublist (List.filter_sublist.map _)

theorem flatMap_xnames_perm (distinct : (targets.map (·.xname)).Nodup) :
    ((groups targets).flatMap (·.xnames)).Perm ((capped targets).map (·.xname)) := by
  have named : ∀ controls ∈ signatures targets,
      (groupOf targets controls).xnames.Perm ((members targets controls).map (·.xname)) := by
    intro controls _
    have apart : ((members targets controls).map (·.xname)).Nodup :=
      (nodup_xnames_capped distinct).sublist (List.filter_sublist.map _)
    have perm := List.mergeSort_perm ((members targets controls).map (·.xname))
      fun left right => decide (left ≤ right)
    rw [groupOf, Group.ofMembers, eraseDups_of_nodup (perm.nodup_iff.mpr apart)]
    exact perm
  calc (groups targets).flatMap (·.xnames)
      = (unnamedGroups targets).flatMap (·.xnames) := by
        rw [List.flatMap_def, map_groups _ fun _ _ => rfl, ← List.flatMap_def]
    List.Perm _ (((signatures targets).map (groupOf targets)).flatMap (·.xnames)) :=
        (unnamedGroups_perm targets).flatMap_right _
    _ = (signatures targets).flatMap fun controls => (groupOf targets controls).xnames :=
        List.flatMap_map ..
    List.Perm _ ((signatures targets).flatMap fun controls =>
          (members targets controls).map (·.xname)) :=
        List.Perm.flatMap_left _ named
    _ = ((signatures targets).flatMap (members targets)).map (·.xname) := List.map_flatMap.symm
    List.Perm _ ((capped targets).map (·.xname)) := (flatMap_members_perm targets).map _

theorem xname_mem_iff (distinct : (targets.map (·.xname)).Nodup) (listed : target ∈ targets)
    (member : group ∈ groups targets) :
    target.xname ∈ group.xnames ↔ target ∈ members targets group.controls := by
  rw [mem_xnames_iff member]
  constructor
  · rintro ⟨found, foundMember, same⟩
    have foundListed := (mem_capped.mp (mem_members.mp foundMember).1).1
    exact List.inj_on_of_nodup_map distinct foundListed listed same ▸ foundMember
  · exact fun found => ⟨target, found, rfl⟩

/-- The targets with caps are parted into groups by their sorted names and bounds. -/
structure Partitions (targets : List Target) (groups : List Group) : Prop where
  listed : (groups.flatMap (·.xnames)).Perm
    ((targets.filter fun target => !target.caps.isEmpty).map (·.xname))
  together : ∀ one ∈ targets, ∀ other ∈ targets,
    one.caps.isEmpty = false → other.caps.isEmpty = false →
    ((∃ group ∈ groups, one.xname ∈ group.xnames ∧ other.xname ∈ group.xnames) ↔
      ∃ controls, IsSortedBounds one controls ∧ IsSortedBounds other controls)
  controls : ∀ group ∈ groups, ∀ target ∈ targets, target.xname ∈ group.xnames →
    IsSortedBounds target group.controls
  xnames : ∀ group ∈ groups, group.xnames ≠ [] ∧ group.xnames.Pairwise (· < ·)
  nids : ∀ group ∈ groups, group.nids.Pairwise (· < ·) ∧
    ∀ nid, nid ∈ group.nids ↔
      ∃ target ∈ targets, target.xname ∈ group.xnames ∧ target.nid = nid
  ordered : groups.Pairwise fun left right =>
    ∀ first ∈ left.xnames.head?, ∀ second ∈ right.xnames.head?, first < second
  numbered : groups.map (·.name) =
    (List.range groups.length).map fun index => "group" ++ toString index

theorem heads_increasing (distinct : (targets.map (·.xname)).Nodup) :
    (groups targets).Pairwise fun left right =>
      ∀ first ∈ left.xnames.head?, ∀ second ∈ right.xnames.head?, first < second := by
  have apart := ((flatMap_xnames_perm distinct).nodup_iff.mpr (nodup_xnames_capped distinct))
  apply (groups_sorted targets).imp₂ _ (List.nodup_flatMap.mp apart).2
  intro left right below disjoint first firstHead second secondHead
  rcases List.head?_eq_some_iff.mp firstHead with ⟨_, leftNames⟩
  rcases List.head?_eq_some_iff.mp secondHead with ⟨_, rightNames⟩
  have different : first ≠ second := by
    rintro rfl
    exact disjoint (List.mem_of_mem_head? firstHead) (List.mem_of_mem_head? secondHead)
  rw [leftNames, rightNames] at below
  exact different.lt_of_le (not_lt.mp fun above => below.not_gt (List.Lex.rel above))

/-- The groups part the targets with caps. -/
theorem groups_part_targets (distinct : (targets.map (·.xname)).Nodup) :
    Partitions targets (groups targets) where
  listed := flatMap_xnames_perm distinct
  together := by
    intro one oneListed other otherListed oneCapped otherCapped
    rw [← signature_eq_iff]
    constructor
    · rintro ⟨group, member, oneNamed, otherNamed⟩
      have left := (xname_mem_iff distinct oneListed member).mp oneNamed
      have right := (xname_mem_iff distinct otherListed member).mp otherNamed
      rw [(mem_members.mp left).2, (mem_members.mp right).2]
    · intro same
      have oneIn : one ∈ capped targets := mem_capped.mpr ⟨oneListed, oneCapped⟩
      have otherIn : other ∈ capped targets := mem_capped.mpr ⟨otherListed, otherCapped⟩
      rcases exists_group_of_signature (mem_signatures.mpr ⟨one, oneIn, rfl⟩) with ⟨_, member⟩
      refine ⟨_, member, ?_, ?_⟩
      · exact (xname_mem_iff distinct oneListed member).mpr (mem_members.mpr ⟨oneIn, rfl⟩)
      · exact (xname_mem_iff distinct otherListed member).mpr
          (mem_members.mpr ⟨otherIn, same.symm⟩)
  controls := by
    intro group member target listed named
    have found := (xname_mem_iff distinct listed member).mp named
    exact (mem_members.mp found).2 ▸ isSortedBounds_signature target
  xnames := by
    intro group member
    refine ⟨xnames_ne_nil member, ?_⟩
    rcases exists_signature_of_mem member with ⟨controls, _, _, rfl⟩
    exact xnames_groupOf_increasing targets controls
  nids := by
    intro group member
    refine ⟨?_, fun nid => ?_⟩
    · rcases exists_signature_of_mem member with ⟨controls, _, _, rfl⟩
      exact nids_groupOf_increasing targets controls
    · rw [mem_nids_iff member]
      constructor
      · rintro ⟨target, found, same⟩
        have listed := (mem_capped.mp (mem_members.mp found).1).1
        exact ⟨target, listed, (xname_mem_iff distinct listed member).mpr found, same⟩
      · rintro ⟨target, listed, named, same⟩
        exact ⟨target, (xname_mem_iff distinct listed member).mp named, same⟩
  ordered := heads_increasing distinct
  numbered := names_groups targets

/-- Two nodes with the same caps in different tables share a group, and a node with a tighter cap
is in another one. -/
theorem tighter_cap_is_another_group :
    let wide : CapDefinition := { name := "wide", low := 200, high := 900 }
    let narrow : CapDefinition := { name := "narrow", low := 100, high := 300 }
    let one : Target := { xname := "x2", caps := .ofList [("wide", wide), ("narrow", narrow)] }
    let other : Target :=
      { xname := "x0", caps := .ofList [("narrow", { narrow with index := 1 }), ("wide", wide)] }
    let tighter : Target :=
      { xname := "x1", caps := .ofList [("wide", wide), ("narrow", { narrow with high := 250 })] }
    let targets := [one, { xname := "x3" }, tighter, other]
    (targets.map (·.xname)).Nodup ∧
      (∃ group ∈ groups targets, one.xname ∈ group.xnames ∧ other.xname ∈ group.xnames) ∧
      ¬∃ group ∈ groups targets, one.xname ∈ group.xnames ∧ tighter.xname ∈ group.xnames := by
  intro wide narrow one other tighter targets
  have distinct : (targets.map (·.xname)).Nodup := by decide
  have parts := groups_part_targets distinct
  have oneListed : one ∈ targets := by simp [targets]
  have otherListed : other ∈ targets := by simp [targets]
  have tighterListed : tighter ∈ targets := by simp [targets]
  refine ⟨distinct, ?_, fun shared => ?_⟩
  · have sorted : ([⟨"narrow", 100, 300⟩, ⟨"wide", 200, 900⟩] : List Bounds).Pairwise
        fun left right => left.key ≤ right.key := by decide +kernel
    exact (parts.together one oneListed other otherListed rfl rfl).mpr
      ⟨_, ⟨by decide +kernel, sorted⟩, ⟨by decide +kernel, sorted⟩⟩
  · rcases (parts.together one oneListed tighter tighterListed rfl rfl).mp shared with
      ⟨controls, left, right⟩
    have different : ¬(boundsOf one).Perm (boundsOf tighter) := by decide +kernel
    exact different (left.perm.symm.trans right.perm)

end ClusterPower.Cap
