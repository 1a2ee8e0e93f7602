import ClusterPower.Proofs.Coupling
import ClusterPower.Proofs.Xname

/-!
Where the boards of a request go. Arranging moves only the boards that stand on the wrong
side of their modules or are not listed, and puts each of them right beside its module; all
other names stay in the order in which they were given.
-/

namespace ClusterPower.Coupling

variable {inventory : Inventory} {transition : Transition} {names modules : List String}
  {anchor name module other : String}

/-! ## Pairs -/

def pair (transition : Transition) (module : String) : List String :=
  if transition.isOn then [module, Xname.board module] else [Xname.board module, module]

theorem mem_pair : name ∈ pair transition module ↔ name = module ∨ name = Xname.board module := by
  unfold pair
  split
  · simp
  · simp [or_comm]

theorem precedes_iff {earlier later : String} (distinct : names.Nodup) :
    precedes earlier later names = true ↔ [earlier, later].Sublist names := by
  induction names with
  | nil => simp [precedes]
  | cons first rest induction =>
      rw [List.nodup_cons] at distinct
      unfold precedes
      by_cases here : first = earlier
      · rw [if_pos here, here, List.cons_sublist_cons, List.singleton_sublist,
          List.contains_iff_mem]
      have skip : [earlier, later].Sublist (first :: rest) ↔ [earlier, later].Sublist rest := by
        constructor
        · intro within
          cases within with
          | cons _ within => exact within
          | cons_cons _ _ => exact absurd rfl here
        · exact List.Sublist.cons first
      rw [if_neg here, skip]
      by_cases late : first = later
      · have absent : ¬[earlier, later].Sublist rest := by
          intro within
          exact distinct.1 (late ▸ within.subset (by simp))
        simp [late, absent]
      · rw [if_neg late, induction distinct.2]

theorem sublist_filter_iff {part : List String} {keeps : String → Bool}
    (kept : ∀ name ∈ part, keeps name = true) :
    part.Sublist (names.filter keeps) ↔ part.Sublist names := by
  constructor
  · exact fun within => within.trans List.filter_sublist
  · intro within
    have filtered := within.filter keeps
    rwa [List.filter_eq_self.mpr kept] at filtered

/-! ## Placing one board -/

theorem insertAfter_split (name : String) (present : anchor ∈ names) :
    ∃ before behind, names = before ++ anchor :: behind ∧
      insertAfter anchor name names = before ++ anchor :: name :: behind := by
  induction names with
  | nil => cases present
  | cons first rest induction =>
      unfold insertAfter
      by_cases here : first = anchor
      · exact ⟨[], rest, by simp [here], by simp [here]⟩
      · have later := (List.mem_cons.mp present).resolve_left (Ne.symm here)
        rcases induction later with ⟨before, behind, split, inserted⟩
        exact ⟨first :: before, behind, by simp [split], by simp [here, inserted]⟩

theorem insertBefore_split (name : String) (present : anchor ∈ names) :
    ∃ before behind, names = before ++ anchor :: behind ∧
      insertBefore anchor name names = before ++ name :: anchor :: behind := by
  induction names with
  | nil => cases present
  | cons first rest induction =>
      unfold insertBefore
      by_cases here : first = anchor
      · exact ⟨[], rest, by simp [here], by simp [here]⟩
      · have later := (List.mem_cons.mp present).resolve_left (Ne.symm here)
        rcases induction later with ⟨before, behind, split, inserted⟩
        exact ⟨first :: before, behind, by simp [split], by simp [here, inserted]⟩

theorem placeBoard_split (transition : Transition) (distinct : names.Nodup)
    (present : module ∈ names) :
    ((pair transition module).Sublist names ∧ placeBoard transition names module = names) ∨
    (¬(pair transition module).Sublist names ∧ ∃ before behind,
      names.erase (Xname.board module) = before ++ module :: behind ∧
      placeBoard transition names module = before ++ pair transition module ++ behind) := by
  have stays : module ∈ names.erase (Xname.board module) :=
    (List.mem_erase_of_ne (board_ne module).symm).mpr present
  unfold placeBoard pair
  dsimp only
  split
  · by_cases ordered : precedes module (Xname.board module) names = true
    · exact Or.inl ⟨(precedes_iff distinct).mp ordered, if_pos ordered⟩
    · rcases insertAfter_split (Xname.board module) stays with
        ⟨before, behind, split, inserted⟩
      refine Or.inr ⟨mt (precedes_iff distinct).mpr ordered, before, behind, split, ?_⟩
      rw [if_neg ordered, inserted, List.append_assoc]
      rfl
  · by_cases ordered : precedes (Xname.board module) module names = true
    · exact Or.inl ⟨(precedes_iff distinct).mp ordered, if_pos ordered⟩
    · rcases insertBefore_split (Xname.board module) stays with
        ⟨before, behind, split, inserted⟩
      refine Or.inr ⟨mt (precedes_iff distinct).mpr ordered, before, behind, split, ?_⟩
      rw [if_neg ordered, inserted, List.append_assoc]
      rfl

theorem filter_placeBoard (transition : Transition) (distinct : names.Nodup)
    (present : module ∈ names) :
    (placeBoard transition names module).filter (· ≠ Xname.board module) =
      names.filter (· ≠ Xname.board module) := by
  rcases placeBoard_split transition distinct present with
    ⟨_, same⟩ | ⟨_, before, behind, split, placed⟩
  · rw [same]
  · have alone : (pair transition module).filter (· ≠ Xname.board module) = [module] := by
      unfold pair
      split
      · simp [(board_ne module).symm]
      · simp [(board_ne module).symm]
    have rest := congrArg (List.filter (· ≠ Xname.board module)) split
    rw [distinct.erase_eq_filter, List.filter_filter, List.filter_append,
      List.filter_cons_of_pos (by simp [(board_ne module).symm])] at rest
    rw [placed, List.filter_append, List.filter_append, alone, List.append_assoc,
      List.singleton_append, ← rest]
    congr 1
    funext name
    simp

theorem infix_of_not_mem {part before behind : List String} (absent : anchor ∉ part)
    (within : part <:+: before ++ anchor :: behind) : part <:+: before ∨ part <:+: behind := by
  rcases within with ⟨front, back, equal⟩
  rcases List.append_eq_append_iff.mp equal with
    ⟨more, rfl, _⟩ | ⟨more, ends, starts⟩
  · exact Or.inl ⟨front, more, rfl⟩
  · cases more with
    | nil =>
        rw [List.append_nil] at ends
        exact Or.inl ⟨front, [], by rw [List.append_nil, ends]⟩
    | cons first more =>
        rw [List.cons_append, List.cons.injEq] at starts
        rcases starts with ⟨rfl, rfl⟩
        rcases List.append_eq_append_iff.mp ends with ⟨gap, rfl, filled⟩ | ⟨gap, rfl, filled⟩
        · rw [filled] at absent
          exact (absent (by simp)).elim
        · cases gap with
          | nil =>
              rw [List.nil_append] at filled
              rw [← filled] at absent
              exact (absent List.mem_cons_self).elim
          | cons head gap =>
              rw [List.cons_append, List.cons.injEq] at filled
              rw [filled.2]
              exact Or.inr ⟨gap, back, rfl⟩

/-! ## Placing all boards -/

/-- Neither the module nor its board is one of the pair. -/
def Spares (transition : Transition) (module other : String) : Prop :=
  module ∉ pair transition other ∧ Xname.board module ∉ pair transition other

theorem spares_of_ne (router : Xname.kind module = .routerModule)
    (otherRouter : Xname.kind other = .routerModule) (different : module ≠ other) :
    Spares transition module other := by
  have board : ∀ {left right : String}, Xname.kind left = .routerModule →
      Xname.kind right = .routerModule → left ≠ Xname.board right := by
    intro left right leftRouter rightRouter same
    rw [same, Xname.kind_board rightRouter] at leftRouter
    cases leftRouter
  constructor
  · rw [mem_pair]
    rintro (same | same)
    · exact different same
    · exact board router otherRouter same
  · rw [mem_pair]
    rintro (same | same)
    · exact board otherRouter router same.symm
    · exact different (Xname.board_injective same)

theorem sublist_placeBoard_iff (distinct : names.Nodup) (present : module ∈ names)
    (spares : Spares transition module other) :
    (pair transition other).Sublist (placeBoard transition names module) ↔
      (pair transition other).Sublist names := by
  have kept : ∀ name ∈ pair transition other, decide (name ≠ Xname.board module) = true := by
    intro name member
    exact decide_eq_true fun same => spares.2 (same ▸ member)
  rw [← sublist_filter_iff kept, filter_placeBoard _ distinct present, sublist_filter_iff kept]

theorem infix_placeBoard (distinct : names.Nodup) (present : module ∈ names)
    (spares : Spares transition module other) (beside : pair transition other <:+: names) :
    pair transition other <:+: placeBoard transition names module := by
  rcases placeBoard_split transition distinct present with
    ⟨_, same⟩ | ⟨_, before, behind, split, placed⟩
  · rwa [same]
  · have kept : (pair transition other).filter (· != Xname.board module) =
        pair transition other := by
      rw [List.filter_eq_self]
      intro name member
      exact bne_iff_ne.mpr fun same => spares.2 (same ▸ member)
    have within := beside.filter (· != Xname.board module)
    rw [kept, ← distinct.erase_eq_filter, split] at within
    rw [placed, List.append_assoc]
    rcases infix_of_not_mem spares.1 within with within | within
    · exact within.trans (List.prefix_append _ _).isInfix
    · exact within.trans ((List.suffix_append _ _).trans (List.suffix_append _ _)).isInfix

def strays (transition : Transition) (names modules : List String) : List String :=
  (modules.filter fun module => ¬(pair transition module).Sublist names).map Xname.board

theorem strays_cons_of_pos (ordered : (pair transition module).Sublist names) :
    strays transition names (module :: modules) = strays transition names modules := by
  rw [strays, List.filter_cons_of_neg (by simpa using ordered)]
  rfl

theorem strays_cons_of_neg (misplaced : ¬(pair transition module).Sublist names) :
    strays transition names (module :: modules) =
      Xname.board module :: strays transition names modules := by
  rw [strays, List.filter_cons_of_pos (by simpa using misplaced)]
  rfl

theorem board_mem_strays :
    Xname.board module ∈ strays transition names modules ↔
      module ∈ modules ∧ ¬(pair transition module).Sublist names := by
  rw [strays, List.mem_map]
  constructor
  · rintro ⟨other, filtered, same⟩
    rw [Xname.board_injective same] at filtered
    simpa using filtered
  · intro member
    exact ⟨module, by simpa using member, rfl⟩

/-- A list after the modules have been given those of their boards that had strayed. -/
structure Arranges (transition : Transition) (modules strayed names after : List String) :
    Prop where
  others : after.filter (· ∉ strayed) = names.filter (· ∉ strayed)
  beside : ∀ module ∈ modules, Xname.board module ∈ strayed →
    pair transition module <:+: after
  ordered : ∀ module ∈ modules, (pair transition module).Sublist after
  spared : ∀ other, (∀ module ∈ modules, Spares transition module other) →
    pair transition other <:+: names → pair transition other <:+: after

theorem Arranges.keep {strayed after : List String}
    (later : Arranges transition modules strayed names after)
    (ordered : (pair transition module).Sublist names)
    (apart : ∀ name ∈ pair transition module, name ∉ strayed) :
    Arranges transition (module :: modules) strayed names after where
  others := later.others
  beside other member strays := by
    rcases List.mem_cons.mp member with rfl | member
    · exact absurd strays (apart _ (mem_pair.mpr (Or.inr rfl)))
    · exact later.beside other member strays
  ordered other member := by
    rcases List.mem_cons.mp member with rfl | member
    · have kept : ∀ name ∈ pair transition other, decide (name ∉ strayed) = true := by
        intro name member
        exact decide_eq_true (apart name member)
      rwa [← sublist_filter_iff kept, later.others, sublist_filter_iff kept]
    · exact later.ordered other member
  spared other spares :=
    later.spared other fun module member => spares module (List.mem_cons_of_mem _ member)

theorem Arranges.place {strayed after : List String}
    (later : Arranges transition modules strayed (placeBoard transition names module) after)
    (distinct : names.Nodup) (present : module ∈ names) (fresh : module ∉ modules)
    (misplaced : ¬(pair transition module).Sublist names)
    (apart : ∀ other ∈ modules, Spares transition other module) :
    Arranges transition (module :: modules) (Xname.board module :: strayed) names after := by
  have beside : pair transition module <:+: after := by
    apply later.spared module apart
    rcases placeBoard_split transition distinct present with
      ⟨ordered, _⟩ | ⟨_, before, behind, _, placed⟩
    · exact absurd ordered misplaced
    · rw [placed]
      exact List.infix_append before _ behind
  have both (list : List String) : list.filter (· ∉ Xname.board module :: strayed) =
      (list.filter (· ≠ Xname.board module)).filter (· ∉ strayed) := by
    rw [List.filter_filter]
    congr 1
    funext name
    simp [and_comm]
  refine ⟨?_, ?_, ?_, ?_⟩
  · rw [both, both, ← filter_placeBoard transition distinct present,
      List.filter_comm, later.others, List.filter_comm]
  · intro other member strays
    rcases List.mem_cons.mp member with rfl | member
    · exact beside
    · rcases List.mem_cons.mp strays with same | strays
      · exact absurd (Xname.board_injective same ▸ member) fresh
      · exact later.beside other member strays
  · intro other member
    rcases List.mem_cons.mp member with rfl | member
    · exact beside.sublist
    · exact later.ordered other member
  · intro other spares listed
    apply later.spared other fun module member => spares module (List.mem_cons_of_mem _ member)
    exact infix_placeBoard distinct present (spares module List.mem_cons_self) listed

theorem arranges_foldl (transition : Transition)
    (routers : ∀ module ∈ modules, Xname.kind module = .routerModule)
    (apart : modules.Nodup) (distinct : names.Nodup)
    (present : ∀ module ∈ modules, module ∈ names) :
    Arranges transition modules (strays transition names modules) names
      (modules.foldl (placeBoard transition) names) := by
  induction modules generalizing names with
  | nil =>
      exact {
        others := rfl
        beside := fun _ member => by cases member
        ordered := fun _ member => by cases member
        spared := fun _ _ beside => beside }
  | cons module rest induction =>
      rw [List.nodup_cons] at apart
      have here := present module List.mem_cons_self
      have router := routers module List.mem_cons_self
      have others : ∀ other ∈ rest, Xname.kind other = .routerModule ∧ module ≠ other := by
        intro other member
        exact ⟨routers other (List.mem_cons_of_mem _ member), fun same => apart.1 (same ▸ member)⟩
      have later := @induction (placeBoard transition names module)
        (fun other member => (others other member).1) apart.2
        (nodup_placeBoard transition here distinct)
        (fun other member => (mem_placeBoard transition here).mpr
          (Or.inl (present other (List.mem_cons_of_mem _ member))))
      -- Placing one board does not change which of the others have strayed.
      have same : strays transition (placeBoard transition names module) rest =
          strays transition names rest := by
        unfold strays
        congr 1
        apply List.filter_congr
        intro other member
        have spares : Spares transition module other :=
          spares_of_ne router (others other member).1 (others other member).2
        rw [decide_eq_decide, sublist_placeBoard_iff distinct here spares]
      rw [same] at later
      rw [List.foldl_cons]
      by_cases ordered : (pair transition module).Sublist names
      · have kept : placeBoard transition names module = names := by
          rcases placeBoard_split transition distinct here with ⟨_, kept⟩ | ⟨misplaced, _⟩
          · exact kept
          · exact absurd ordered misplaced
        rw [strays_cons_of_pos ordered]
        rw [kept] at later ⊢
        apply later.keep ordered
        intro name member strays
        rcases List.mem_map.mp strays with ⟨other, filtered, rfl⟩
        have listed := others other (List.mem_of_mem_filter filtered)
        exact (spares_of_ne listed.1 router listed.2.symm).2 member
      · rw [strays_cons_of_neg ordered]
        refine later.place distinct here apart.1 ordered fun other member => ?_
        exact spares_of_ne (others other member).1 router (others other member).2.symm

/-! ## Arranging a request -/

theorem powersBoard_iff :
    powersBoard inventory name = true ↔ Xname.kind name = .routerModule ∧
      (inventory.cabinetClass name = some .mountain ∨
        inventory.cabinetClass name = some .hill) := by
  rw [powersBoard, Bool.and_eq_true, beq_iff_eq]
  apply and_congr_right'
  cases inventory.cabinetClass name with
  | none => simp
  | some cabinet => cases cabinet <;> simp [CabinetClass.powersBoards]

/-- The boards that have strayed, or are not listed, come to stand right beside their modules,
and all other targets keep their order. So every module that powers its board is on the
right side of it. A transition to neither on nor off only drops what was named before. -/
theorem arrange_places_strays (inventory : Inventory) (transition : Transition)
    (targets : List String) :
    let names := targets.eraseDups
    let modules := names.filter fun name => Xname.kind name = .routerModule ∧
      (inventory.cabinetClass name = some .mountain ∨ inventory.cabinetClass name = some .hill)
    let strayed := strays transition names modules
    let arranged := arrange inventory transition targets
    if transition.isOn || transition.isOff then
      arranged.Nodup ∧
      (∀ name, name ∈ arranged ↔ name ∈ names ∨ name ∈ strayed) ∧
      arranged.filter (· ∉ strayed) = names.filter (· ∉ strayed) ∧
      (∀ module ∈ modules, Xname.board module ∈ strayed →
        pair transition module <:+: arranged) ∧
      ∀ module ∈ modules, (pair transition module).Sublist arranged
    else arranged = names := by
  intro names modules strayed arranged
  have powering : names.filter (powersBoard inventory) = modules := by
    apply List.filter_congr
    intro name _
    rw [Bool.eq_iff_iff, powersBoard_iff, decide_eq_true_iff]
  split
  · next moved =>
    have placed : arranged = modules.foldl (placeBoard transition) names := by
      rw [← powering]
      exact if_pos moved
    have routers : ∀ module ∈ modules, Xname.kind module = .routerModule := by
      intro module member
      exact (of_decide_eq_true (List.mem_filter.mp member).2).1
    have present : ∀ module ∈ modules, module ∈ names :=
      fun module member => List.mem_of_mem_filter member
    have distinct : names.Nodup := nodup_eraseDups targets
    have arranges := arranges_foldl transition routers (distinct.filter _) distinct present
    rw [← placed] at arranges
    refine ⟨nodup_arrange _ _ _, fun name => ?_, arranges.others, arranges.beside,
      arranges.ordered⟩
    rw [placed, (placeBoards transition present distinct).2]
    constructor
    · rintro (listed | ⟨module, member, rfl⟩)
      · exact Or.inl listed
      · by_cases ordered : (pair transition module).Sublist names
        · exact Or.inl (ordered.subset (mem_pair.mpr (Or.inr rfl)))
        · exact Or.inr (board_mem_strays.mpr ⟨member, ordered⟩)
    · rintro (listed | strays)
      · exact Or.inl listed
      · rcases List.mem_map.mp strays with ⟨module, filtered, same⟩
        exact Or.inr ⟨module, List.mem_of_mem_filter filtered, same.symm⟩
  · next kept => exact if_neg kept

theorem arrange_places_two_strays :
    let inventory : Inventory := ⟨fun _ => some .mountain, fun _ => none⟩
    let targets := ["x1c0r1e0", "x1c0r2", "x1c0s0", "x1c0r1", "x1c0r3", "x1c0s1", "x1c0r3e0"]
    strays .on targets ["x1c0r2", "x1c0r1", "x1c0r3"] = ["x1c0r2e0", "x1c0r1e0"] ∧
    (arrange inventory .on targets).filter (· ∉ ["x1c0r2e0", "x1c0r1e0"]) =
      ["x1c0r2", "x1c0s0", "x1c0r1", "x1c0r3", "x1c0s1", "x1c0r3e0"] ∧
    ["x1c0r1", "x1c0r1e0"] <:+: arrange inventory .on targets := by
  intro inventory targets
  have names : targets.eraseDups = targets := by decide +kernel
  have modules : (targets.filter fun name => Xname.kind name = .routerModule ∧
      (inventory.cabinetClass name = some .mountain ∨
        inventory.cabinetClass name = some .hill)) = ["x1c0r2", "x1c0r1", "x1c0r3"] := by
    decide +kernel
  have strayed : strays .on targets ["x1c0r2", "x1c0r1", "x1c0r3"] =
      ["x1c0r2e0", "x1c0r1e0"] := by
    decide +kernel
  have placed := arrange_places_strays inventory .on targets
  dsimp only at placed
  rw [names, modules, strayed] at placed
  exact ⟨strayed, placed.2.2.1.trans (by decide +kernel),
    placed.2.2.2.1 "x1c0r1" (by simp) (by decide +kernel)⟩

end ClusterPower.Coupling
