import ClusterPower.Proofs.Coupling.Arrangement
import Mathlib.Data.List.GetD

/-!
Rounds keep coupled components apart. A name never stands in a round behind its partner, so
that an arranged request runs a module and its board in two different rounds, in the order
of the transition. The partner of a module is its first board alone: a further board that is
listed ahead of its module may share a round with it.
-/

namespace ClusterPower.Coupling

variable {names round : List String} {earlier later name module board : String}

/-! ## Cuts -/

/-- The later name would have been cut off from the earlier one. -/
def Apart (earlier later : String) : Prop :=
  partner? later ≠ some earlier

theorem apart_of_not_any (kept : ¬(partner? later).any round.contains = true)
    (listed : earlier ∈ round) : Apart earlier later := by
  intro coupled
  apply kept
  rw [coupled, Option.any_some, List.contains_iff_mem]
  exact listed

theorem apart_of_mem_roundsFrom {cut : List String} (fits : round.Pairwise Apart)
    (member : cut ∈ roundsFrom round names) : cut.Pairwise Apart := by
  induction names generalizing round with
  | nil =>
      unfold roundsFrom at member
      split at member
      · cases member
      · rwa [List.mem_singleton.mp member]
  | cons name rest induction =>
      unfold roundsFrom at member
      split at member
      · rcases List.mem_cons.mp member with rfl | member
        · exact fits
        · exact induction (List.pairwise_singleton _ _) member
      · next kept =>
        apply induction _ member
        rw [List.pairwise_append]
        refine ⟨fits, List.pairwise_singleton _ _, fun earlier listed later last => ?_⟩
        rw [List.mem_singleton.mp last]
        exact apart_of_not_any kept listed

theorem not_sublist_of_partner (member : round ∈ rounds names)
    (coupled : partner? later = some earlier) : ¬[earlier, later].Sublist round := by
  intro ordered
  have apart := apart_of_mem_roundsFrom List.Pairwise.nil member
  exact List.pairwise_pair.mp (apart.sublist ordered) coupled

theorem roundsFrom_joined (round before : List String) (name : String) :
    ∃ closed current, name ∈ current ∧ current ⊆ name :: (round ++ before) ∧
      ∀ rest, roundsFrom round (before ++ name :: rest) = closed ++ roundsFrom current rest := by
  induction before generalizing round with
  | nil =>
      by_cases cut : (partner? name).any round.contains = true
      · refine ⟨[round], [name], by simp, by simp, fun rest => ?_⟩
        rw [List.nil_append, roundsFrom, if_pos cut]
        rfl
      · refine ⟨[], round ++ [name], by simp, by simp, fun rest => ?_⟩
        rw [List.nil_append, roundsFrom, if_neg cut]
        rfl
  | cons first before induction =>
      by_cases cut : (partner? first).any round.contains = true
      · rcases induction [first] with ⟨closed, current, joined, within, same⟩
        refine ⟨round :: closed, current, joined, fun other listed => ?_, fun rest => ?_⟩
        · have listed := within listed
          simp only [List.mem_cons, List.mem_append, List.not_mem_nil] at listed ⊢
          tauto
        · rw [List.cons_append, roundsFrom, if_pos cut, same]
          rfl
      · rcases induction (round ++ [first]) with ⟨closed, current, joined, within, same⟩
        refine ⟨closed, current, joined, by simpa using within, fun rest => ?_⟩
        rw [List.cons_append, roundsFrom, if_neg cut, same]

theorem roundsFrom_uncoupled {between : List String}
    (others : ∀ name ∈ between, Xname.kind name = .other) (rest : List String) :
    roundsFrom round (between ++ rest) = roundsFrom (round ++ between) rest := by
  induction between generalizing round with
  | nil => rw [List.nil_append, List.append_nil]
  | cons name between induction =>
      have alone : partner? name = none := by
        rw [partner?, others name List.mem_cons_self]
      rw [List.cons_append, roundsFrom, if_neg (by simp [alone]),
        induction fun other listed => others other (List.mem_cons_of_mem _ listed)]
      simp

theorem exists_round_of_open {current : List String} (opened : current ≠ [])
    (rest : List String) : ∃ round ∈ roundsFrom current rest, current ⊆ round := by
  induction rest generalizing current with
  | nil => exact ⟨current, by simp [roundsFrom, opened], List.Subset.refl _⟩
  | cons name rest induction =>
      unfold roundsFrom
      split
      · exact ⟨current, List.mem_cons_self, List.Subset.refl _⟩
      · rcases @induction (current ++ [name]) (by simp) with ⟨round, member, within⟩
        exact ⟨round, member, fun other listed => within (List.mem_append_left _ listed)⟩

/-! ## The order of the rounds -/

theorem mem_front_of_sublist {front behind : List String}
    (distinct : (front ++ later :: behind).Nodup)
    (ordered : [earlier, later].Sublist (front ++ later :: behind)) : earlier ∈ front := by
  induction front with
  | nil =>
      rw [List.nil_append] at distinct ordered
      have absent := (List.nodup_cons.mp distinct).1
      cases ordered with
      | cons _ ordered => exact absurd (ordered.subset (by simp)) absent
      | cons_cons _ ordered => exact absurd (ordered.subset (by simp)) absent
  | cons first front induction =>
      rw [List.cons_append] at distinct ordered
      cases ordered with
      | cons _ ordered =>
          exact List.mem_cons_of_mem _ (induction (List.nodup_cons.mp distinct).2 ordered)
      | cons_cons _ _ => exact List.mem_cons_self

theorem exists_earlier_round {front behind : List (List String)} (distinct : names.Nodup)
    (ordered : [earlier, later].Sublist names) (coupled : partner? later = some earlier)
    (split : rounds names = front ++ round :: behind) (member : later ∈ round) :
    ∃ other ∈ front, earlier ∈ other := by
  have run : round ∈ rounds names := by rw [split]; simp
  rcases List.append_of_mem member with ⟨before, after, rfl⟩
  have whole : names = (front.flatten ++ before) ++ later :: (after ++ behind.flatten) := by
    rw [← flatten_rounds names, split]
    simp
  rw [whole] at distinct ordered
  rcases List.mem_append.mp (mem_front_of_sublist distinct ordered) with early | here
  · exact List.mem_flatten.mp early
  · have together : ([earlier] ++ [later]).Sublist (before ++ later :: after) :=
      (List.singleton_sublist.mpr here).append (List.singleton_sublist.mpr List.mem_cons_self)
    exact absurd together (not_sublist_of_partner run coupled)

/-- The name is in this round and in no other. -/
def RunsIn (cut : List (List String)) (name : String) (index : Nat) : Prop :=
  ∀ other, name ∈ cut.getD other [] ↔ other = index

theorem exists_runsIn (distinct : names.Nodup) (listed : name ∈ names) :
    ∃ index, RunsIn (rounds names) name index := by
  rw [← flatten_rounds names] at listed distinct
  rcases List.mem_flatten.mp listed with ⟨round, run, member⟩
  rcases List.mem_iff_getElem.mp run with ⟨index, bound, rfl⟩
  have apart := List.pairwise_iff_getElem.mp (List.pairwise_flatten.mp distinct).2
  refine ⟨index, fun other => ?_⟩
  constructor
  · intro again
    rcases Nat.lt_or_ge other (rounds names).length with within | beyond
    · rw [List.getD_eq_getElem _ _ within] at again
      rcases Nat.lt_trichotomy other index with less | same | more
      · exact absurd rfl (apart other index within bound less name again name member)
      · exact same
      · exact absurd rfl (apart index other bound within more name member name again)
    · rw [List.getD_eq_default _ _ beyond] at again
      cases again
  · rintro rfl
    rwa [List.getD_eq_getElem _ _ bound]

theorem RunsIn.lt {first second : Nat} (distinct : names.Nodup)
    (ordered : [earlier, later].Sublist names) (coupled : partner? later = some earlier)
    (runsFirst : RunsIn (rounds names) earlier first)
    (runsSecond : RunsIn (rounds names) later second) : first < second := by
  have member := (runsSecond second).mpr rfl
  have bound : second < (rounds names).length := by
    by_contra beyond
    rw [List.getD_eq_default _ _ (Nat.le_of_not_lt beyond)] at member
    cases member
  rw [List.getD_eq_getElem _ _ bound] at member
  have split : rounds names = (rounds names).take second ++
      (rounds names)[second] :: (rounds names).drop (second + 1) := by
    rw [List.getElem_cons_drop, List.take_append_drop]
  rcases exists_earlier_round distinct ordered coupled split member with ⟨other, front, present⟩
  rcases List.mem_take_iff_getElem.mp front with ⟨index, less, rfl⟩
  have here : index = first := by
    apply (runsFirst index).mp
    rwa [List.getD_eq_getElem _ _ (by omega)]
  omega

/-! ## Arranged requests -/

theorem partner?_module (router : Xname.kind module = .routerModule) :
    partner? module = some (Xname.board module) := by
  rw [partner?, router]

theorem partner?_board (router : Xname.kind module = .routerModule) :
    partner? (Xname.board module) = some module := by
  rw [partner?, Xname.kind_board router]
  exact Xname.parent?_board router

theorem pair_of_isOff {transition : Transition} (off : transition.isOff = true)
    (module : String) : pair transition module = [Xname.board module, module] := by
  rw [pair, Transition.isOn_of_isOff off]
  rfl

theorem pair_sublist_arrange {inventory : Inventory} {transition : Transition}
    {targets : List String} (moved : (transition.isOn || transition.isOff) = true)
    (listed : module ∈ targets) (powers : powersBoard inventory module = true) :
    (pair transition module).Sublist (arrange inventory transition targets) := by
  have member : module ∈ targets.eraseDups.filter (powersBoard inventory) :=
    List.mem_filter.mpr ⟨List.mem_eraseDups.mpr listed, powers⟩
  have routers : ∀ other ∈ targets.eraseDups.filter (powersBoard inventory),
      Xname.kind other = .routerModule := by
    intro other filtered
    exact (powersBoard_iff.mp (List.mem_filter.mp filtered).2).1
  have arranges := arranges_foldl transition routers ((nodup_eraseDups targets).filter _)
    (nodup_eraseDups targets) (fun other filtered => List.mem_of_mem_filter filtered)
  rw [arrange, if_pos moved]
  exact arranges.ordered module member

/-- A module that powers its board runs in one round of its request and the board in another,
on the side that the transition asks for. -/
theorem module_and_board_run_apart (inventory : Inventory) (transition : Transition)
    (targets : List String) (module : String)
    (moved : (transition.isOn || transition.isOff) = true)
    (listed : module ∈ targets) (router : Xname.kind module = .routerModule)
    (cabinet : inventory.cabinetClass module = some .mountain ∨
      inventory.cabinetClass module = some .hill) :
    let cut := rounds (arrange inventory transition targets)
    ∃ own other, RunsIn cut module own ∧ RunsIn cut (Xname.board module) other ∧
      (transition.isOn = true → own < other) ∧ (transition.isOff = true → other < own) := by
  intro cut
  have ordered := pair_sublist_arrange moved listed (powersBoard_iff.mpr ⟨router, cabinet⟩)
  have distinct := nodup_arrange inventory transition targets
  rcases exists_runsIn distinct (ordered.subset (mem_pair.mpr (Or.inl rfl))) with ⟨own, runs⟩
  rcases exists_runsIn distinct (ordered.subset (mem_pair.mpr (Or.inr rfl)))
    with ⟨other, boardRuns⟩
  refine ⟨own, other, runs, boardRuns, fun on => ?_, fun off => ?_⟩
  · rw [pair, if_pos on] at ordered
    exact runs.lt distinct ordered (partner?_board router) boardRuns
  · rw [pair_of_isOff off] at ordered
    exact boardRuns.lt distinct ordered (partner?_module router) runs

theorem pulled_in_board_runs_first :
    let inventory : Inventory := ⟨fun _ => some .mountain, fun _ => none⟩
    let cut := rounds (arrange inventory .off ["x1c0s0", "x1c0r1"])
    cut = [["x1c0s0", "x1c0r1e0"], ["x1c0r1"]] ∧
    ∃ own other, RunsIn cut "x1c0r1" own ∧ RunsIn cut "x1c0r1e0" other ∧ other < own := by
  intro inventory cut
  rcases module_and_board_run_apart inventory .off ["x1c0s0", "x1c0r1"] "x1c0r1" rfl (by simp)
    (by decide +kernel) (Or.inl rfl) with ⟨own, other, runs, boardRuns, _, ahead⟩
  exact ⟨by decide +kernel, own, other, runs, boardRuns, ahead rfl⟩

/-! ## Further boards -/

/-- No board stands in a round behind the module above it, and the first board not ahead of
it either. A further board does stand there: whatever comes before and behind, a module that
is listed behind it, with only uncoupled names between, joins its round. -/
theorem only_further_boards_share_rounds (isBoard : Xname.kind board = .networkBoard)
    (router : Xname.kind module = .routerModule) (above : Xname.parent? board = some module) :
    (∀ names, ∀ round ∈ rounds names, ¬[module, board].Sublist round ∧
      (board = Xname.board module → ¬[board, module].Sublist round)) ∧
    (board ≠ Xname.board module → ∀ before between behind,
      Xname.board module ∉ before → (∀ name ∈ between, Xname.kind name = .other) →
      ∃ round ∈ rounds (before ++ board :: (between ++ module :: behind)),
        board ∈ round ∧ module ∈ round) := by
  have partner : partner? board = some module := by rw [partner?, isBoard, above]
  refine ⟨fun names round run => ⟨not_sublist_of_partner run partner, ?_⟩, ?_⟩
  · rintro rfl
    exact not_sublist_of_partner run (partner?_module router)
  intro further before between behind absent uncoupled
  rcases roundsFrom_joined [] before board with ⟨closed, current, joined, within, same⟩
  have parted : Xname.board module ∉ current ++ between := by
    intro listed
    rcases List.mem_append.mp listed with early | amid
    · rcases List.mem_cons.mp (within early) with here | early
      · exact further here.symm
      · exact absent early
    · have plain := uncoupled _ amid
      rw [Xname.kind_board router] at plain
      cases plain
  have kept : ¬(partner? module).any (current ++ between).contains = true := by
    rwa [partner?_module router, Option.any_some, List.contains_iff_mem]
  rcases @exists_round_of_open (current ++ between ++ [module]) (by simp) behind
    with ⟨round, run, shared⟩
  refine ⟨round, ?_, shared (by simp [joined]), shared (by simp)⟩
  rw [rounds, same, roundsFrom_uncoupled uncoupled, roundsFrom, if_neg kept]
  exact List.mem_append_right _ run

theorem second_board_shares_round :
    Xname.parent? "x1c0r1e1" = some "x1c0r1" ∧
    (∀ names, ∀ round ∈ rounds names, ¬["x1c0r1", "x1c0r1e1"].Sublist round) ∧
    ∃ round ∈ rounds ["x1c0s0", "x1c0r1e1", "x1c0s1", "x1c0r1"],
      "x1c0r1e1" ∈ round ∧ "x1c0r1" ∈ round := by
  have above : Xname.parent? "x1c0r1e1" = some "x1c0r1" := by decide +kernel
  rcases @only_further_boards_share_rounds "x1c0r1" "x1c0r1e1" (by decide +kernel)
    (by decide +kernel) above with ⟨never, shares⟩
  exact ⟨above, fun names round run => (never names round run).1,
    shares (by decide +kernel) ["x1c0s0"] ["x1c0s1"] [] (by decide +kernel)
      (by decide +kernel)⟩

theorem board_and_module_in_one_round :
    Xname.kind "x1c0r1e1" = .networkBoard ∧ Xname.kind "x1c0r1" = .routerModule ∧
    Xname.parent? "x1c0r1e1" = some "x1c0r1" ∧
    rounds ["x1c0r1e1", "x1c0r1"] = [["x1c0r1e1", "x1c0r1"]] := by
  decide +kernel

end ClusterPower.Coupling
