import ClusterPower.Proofs.Campaign.Rounds

/-!
A log round by round. Two campaigns may be compared by what they send to whom in each round, and
by what becomes of it there, when it makes no difference which call or wait of a round ends first.
-/

namespace ClusterPower.Campaign

variable {simulation : Bool} {first second lines others log : List Line}

/-- A round as a log has it, with the outcomes that have become final in it. -/
structure Round where
  step : Transition
  targets : List Target
  outcomes : List Outcome

/-- Two rounds that differ in nothing but the order of their outcomes. -/
structure Round.Agrees (round other : Round) : Prop where
  step : round.step = other.step
  targets : round.targets = other.targets
  outcomes : round.outcomes.Perm other.outcomes

def leading (log : List Line) : List Line :=
  log.takeWhile fun line => !line.isBeginning

def roundsOf (simulation : Bool) : List Line → List Round
  | .began step targets :: rest =>
    ⟨step, targets, finals simulation (leading rest)⟩ :: roundsOf simulation rest
  | _ :: rest => roundsOf simulation rest
  | [] => []

theorem leading_append (inside : ∀ line ∈ lines, line.isBeginning = false) (log : List Line) :
    leading (lines ++ log) = lines ++ leading log :=
  List.takeWhile_append_of_pos fun line member => by simp [inside line member]

theorem roundsOf_append (inside : ∀ line ∈ lines, line.isBeginning = false) (log : List Line) :
    roundsOf simulation (lines ++ log) = roundsOf simulation log := by
  induction lines with
  | nil => rfl
  | cons line rest induction =>
      rw [List.forall_mem_cons] at inside
      cases line with
      | began step targets => cases inside.1
      | asked | returned | settled => exact induction inside.2

theorem finals_eq_rounds (log : List Line) :
    finals simulation log =
      finals simulation (leading log) ++ (roundsOf simulation log).flatMap (·.outcomes) := by
  induction log with
  | nil => rfl
  | cons line rest induction =>
      cases line with
      | began step targets => exact induction
      | asked target request answer => exact induction
      | returned step outcome | settled outcome =>
          rw [← List.singleton_append, leading_append (by simp [Line.isBeginning]),
            roundsOf_append (by simp [Line.isBeginning]), finals_append, finals_append, induction,
            List.append_assoc]

theorem Complete.leading_eq (complete : Complete simulation log) : leading log = [] := by
  cases complete <;> rfl

/-- Two logs that differ in nothing but the order of what happens within a round. They may begin
within a round. -/
structure AgreeInRounds (simulation : Bool) (first second : List Line) : Prop where
  leading : (finals simulation (leading first)).Perm (finals simulation (leading second))
  rounds : List.Forall₂ Round.Agrees (roundsOf simulation first) (roundsOf simulation second)

namespace AgreeInRounds

theorem nil : AgreeInRounds simulation [] [] :=
  ⟨.refl _, .nil⟩

theorem began (agree : AgreeInRounds simulation first second) (step : Transition)
    (targets : List Target) :
    AgreeInRounds simulation (.began step targets :: first) (.began step targets :: second) :=
  ⟨.refl _, .cons ⟨rfl, rfl, agree.leading⟩ agree.rounds⟩

theorem behind (agree : AgreeInRounds simulation first second)
    (inside : ∀ line ∈ lines, line.isBeginning = false)
    (insideAgain : ∀ line ∈ others, line.isBeginning = false)
    (same : (finals simulation lines).Perm (finals simulation others)) :
    AgreeInRounds simulation (lines ++ first) (others ++ second) := by
  constructor
  · rw [leading_append inside, leading_append insideAgain, finals_append, finals_append]
    exact same.append agree.leading
  · rw [roundsOf_append inside, roundsOf_append insideAgain]
    exact agree.rounds

end AgreeInRounds

end ClusterPower.Campaign
