import ClusterPower.Proofs.Bmc.Polling
import ClusterPower.Proofs.Campaign.Stops

/-!
Waits that go on side by side. Each of them asks what it would ask alone, in the same order, and
ends as it would alone: its lines can be taken out of the log, and those of the waits for the
other targets are left.
-/

namespace ClusterPower.Campaign

open Conversation

/-! ## One wait among others -/

section Replaced

variable {Item : Type} {front rest before behind : List Item} {old new item : Item}

theorem cases_of_replaced (split : front ++ new :: rest = before ++ item :: behind) :
    (item = new ∧ before = front ∧ behind = rest) ∨
      ∃ first last left right, front ++ old :: rest = first ++ item :: last ∧
        first ++ last = left ++ old :: right ∧ before ++ behind = left ++ new :: right := by
  rcases Course.cases_append_cons split.symm with ⟨middle, rfl, rfl⟩ | ⟨more, rfl, later⟩
  · refine Or.inr ⟨before, middle ++ old :: rest, before ++ middle, rest, ?_, ?_, ?_⟩ <;> simp
  · cases more with
    | nil =>
        cases later
        exact Or.inl ⟨rfl, List.append_nil _, rfl⟩
    | cons head more =>
        cases later
        refine Or.inr ⟨front ++ old :: more, behind, front, more ++ behind, ?_, ?_, ?_⟩ <;> simp

theorem cases_of_removed (split : front ++ rest = before ++ item :: behind) :
    ∃ first last left right, front ++ old :: rest = first ++ item :: last ∧
      first ++ last = left ++ old :: right ∧ before ++ behind = left ++ right := by
  rcases Course.cases_append_cons split.symm with ⟨middle, rfl, rfl⟩ | ⟨more, rfl, rfl⟩
  · refine ⟨before, middle ++ old :: rest, before ++ middle, rest, ?_, ?_, ?_⟩ <;> simp
  · refine ⟨front ++ old :: more, behind, front, more ++ behind, ?_, ?_, ?_⟩ <;> simp

end Replaced

variable {gateway : Gateway} {targets : List Target} {lines : List Line} {waiting : List Wait}
  {target : Target} {own : List Line}

/-- These are the lines of a wait for the target. The others are those of the waits for the
other targets, which alone are left. -/
def Among (gateway : Gateway) (targets : List Target) (lines : List Line) (waiting : List Wait)
    (target : Target) (own : List Line) : Prop :=
  ∃ others rest, (target :: others).Perm targets ∧ Waits gateway others rest waiting ∧
    Interleaves own rest lines

namespace Among

theorem write (among : Among gateway targets lines waiting target own) (line : Line) :
    Among gateway targets (lines ++ [line]) waiting target (own ++ [line]) := by
  rcases among with ⟨others, rest, perm, waits, beside⟩
  exact ⟨others, rest, perm, waits, beside.snoc_left line⟩

theorem ask {before behind : List Wait} {other : Target} {request : Http.Request}
    {next : Http.Answer → Conversation Outcome}
    (among : Among gateway targets lines (before ++ ⟨other, .ask request next⟩ :: behind)
      target own) (answer : Http.Answer) :
    Among gateway targets (lines ++ [.asked other request answer])
      (before ++ ⟨other, next answer⟩ :: behind) target own := by
  rcases among with ⟨others, rest, perm, waits, beside⟩
  exact ⟨others, _, perm, waits.ask answer, beside.snoc_right _⟩

theorem pause {before behind : List Wait} {other : Target} {seconds : Nat}
    {next : Conversation Outcome}
    (among : Among gateway targets lines (before ++ ⟨other, .pause seconds next⟩ :: behind)
      target own) :
    Among gateway targets lines (before ++ ⟨other, next⟩ :: behind) target own := by
  rcases among with ⟨others, rest, perm, waits, beside⟩
  exact ⟨others, rest, perm, waits.pause, beside⟩

theorem settle {before behind : List Wait} {other : Target} {outcome : Outcome}
    (among : Among gateway targets lines (before ++ ⟨other, .done outcome⟩ :: behind)
      target own) :
    Among gateway targets (lines ++ [.settled outcome]) (before ++ behind) target own := by
  rcases among with ⟨others, rest, perm, waits, beside⟩
  exact ⟨others, _, perm, waits.settle, beside.snoc_right _⟩

end Among

theorem Waits.pending {before behind : List Wait} {wait : Wait}
    (waits : Waits gateway targets lines waiting) (split : waiting = before ++ wait :: behind) :
    ∃ events, Among gateway targets lines (before ++ behind) wait.target
        (asks wait.target events) ∧
      ∀ later outcome, wait.rest.Goes later outcome →
        (gateway.awaitOff wait.target gateway.settings.options.offPause
          gateway.settings.options.offRetries).Goes (events ++ later) outcome := by
  induction waits generalizing before wait behind with
  | begin =>
      rcases List.map_eq_append_iff.mp split with ⟨front, rest, rfl, rfl, ends⟩
      rcases List.map_eq_cons_iff.mp ends with ⟨target, others, rfl, rfl, rfl⟩
      refine ⟨[], ⟨front ++ others, [], List.perm_middle.symm, ?_, .nil⟩, fun _ _ goes => goes⟩
      rw [← List.map_append]
      exact .begin
  | @ask lines front rest target request next waits answer induction =>
      rcases @cases_of_replaced _ _ _ _ _ ⟨target, .ask request next⟩ _ _ split with
        ⟨rfl, rfl, rfl⟩ | ⟨first, last, left, right, split, others, after⟩
      · rcases induction rfl with ⟨events, among, goesOn⟩
        refine ⟨events ++ [.asked request answer], ?_, fun later outcome goes => ?_⟩
        · simpa [asks] using among.write (.asked target request answer)
        · rw [List.append_assoc]
          exact goesOn _ _ ⟨answer, later, rfl, goes⟩
      · rcases induction split with ⟨events, among, goesOn⟩
        rw [others] at among
        exact ⟨events, after ▸ among.ask answer, goesOn⟩
  | @pause lines front rest target seconds next waits induction =>
      rcases @cases_of_replaced _ _ _ _ _ ⟨target, .pause seconds next⟩ _ _ split with
        ⟨rfl, rfl, rfl⟩ | ⟨first, last, left, right, split, others, after⟩
      · rcases induction rfl with ⟨events, among, goesOn⟩
        refine ⟨events ++ [.paused seconds], ?_, fun later outcome goes => ?_⟩
        · simpa [asks] using among
        · rw [List.append_assoc]
          exact goesOn _ _ ⟨later, rfl, goes⟩
      · rcases induction split with ⟨events, among, goesOn⟩
        rw [others] at among
        exact ⟨events, after ▸ among.pause, goesOn⟩
  | @settle lines front rest target outcome waits induction =>
      rcases @cases_of_removed _ _ _ _ _ ⟨target, .done outcome⟩ _ split with
        ⟨first, last, left, right, split, others, after⟩
      rcases induction split with ⟨events, among, goesOn⟩
      rw [others] at among
      exact ⟨events, after ▸ among.settle, goesOn⟩

theorem Waits.settled {outcome : Outcome} (waits : Waits gateway targets lines waiting)
    (settled : .settled outcome ∈ lines) :
    ∃ events, Among gateway targets lines waiting outcome.target
        (asks outcome.target events ++ [.settled outcome]) ∧
      (gateway.awaitOff outcome.target gateway.settings.options.offPause
        gateway.settings.options.offRetries).Goes events outcome := by
  induction waits with
  | begin => cases settled
  | ask waits answer induction =>
      rcases List.mem_append.mp settled with settled | settled
      · rcases induction settled with ⟨events, among, goes⟩
        exact ⟨events, among.ask answer, goes⟩
      · cases List.mem_singleton.mp settled
  | pause waits induction =>
      rcases induction settled with ⟨events, among, goes⟩
      exact ⟨events, among.pause, goes⟩
  | settle waits induction =>
      rcases List.mem_append.mp settled with settled | settled
      · rcases induction settled with ⟨events, among, goes⟩
        exact ⟨events, among.settle, goes⟩
      · cases List.mem_singleton.mp settled
        have own := waits.regards _ (List.mem_append_right _ List.mem_cons_self) _ rfl
        rcases waits.pending rfl with ⟨events, among, goesOn⟩
        have goes := goesOn [] outcome ⟨rfl, rfl⟩
        rw [List.append_nil] at goes
        dsimp only at own among goes
        subst own
        exact ⟨events, among.write _, goes⟩

end ClusterPower.Campaign
