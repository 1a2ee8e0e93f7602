import ClusterPower.Proofs.Campaign.Sequence
import ClusterPower.Proofs.Campaign.Stops
import Mathlib.Algebra.BigOperators.Ring.List
import Mathlib.Algebra.Order.BigOperators.Group.List
import Mathlib.Algebra.Order.Ring.Nat

/-!
How often a step is sent to a name. Rounds are made of names, and a round takes every target that
has one of its names. So each of the targets that share a name may be sent a step as often as the
name is listed, and no more often. The limit holds at every moment, for a pool that may be stopped.
-/

namespace ClusterPower.Campaign

open Conversation

variable {gateway : Gateway} {settings : Settings} {simulation : Bool}
  {transition step : Transition} {roster : Roster} {xname : String}

/-! ## What is sent to a name -/

def Line.began? : Line → Option (Transition × List Target)
  | .began step targets => some (step, targets)
  | _ => none

/-- How many times a step is sent to a name by a round: once to each target of the name. -/
def timesIn (xname : String) (step sent : Transition) (batch : List Target) : Nat :=
  if sent = step then (batch.map (·.xname)).count xname else 0

def timesSent (xname : String) (step : Transition) (log : List Line) : Nat :=
  ((log.filterMap Line.began?).map fun begun => timesIn xname step begun.1 begun.2).sum

theorem began?_ofRemarks (owner : Nat → Option Unit) (step : Transition)
    (log : List (FanOut.Remark Unit)) :
    (log.filterMap (Line.ofRemark? owner step)).filterMap Line.began? = [] := by
  rw [List.filterMap_eq_nil_iff]
  intro line written
  rcases cases_ofRemarks written with ⟨_, _, _, rfl⟩ | ⟨_, rfl⟩
  · rfl
  · rfl

theorem Waits.began? {targets : List Target} {lines : List Line} {waiting : List Wait}
    (waits : Waits gateway targets lines waiting) : lines.filterMap Line.began? = [] := by
  rw [List.filterMap_eq_nil_iff]
  intro line written
  rcases waits.cases_line written with ⟨_, _, _, _, rfl⟩ | ⟨_, rfl⟩
  · rfl
  · rfl

/-! ## Courses with a limit -/

namespace Course

variable {Result Next Item : Type} {measure : Transition → List Target → Nat} {limit more : Nat}

/-- Whatever the outcomes are, what the rounds send measures no more than a limit in all. -/
def SendsAtMost (measure : Transition → List Target → Nat) : Course Result → Nat → Prop
  | .done _, _ => True
  | .change step targets next, limit =>
    ∃ rest, measure step targets + rest ≤ limit ∧
      ∀ outcomes, (next outcomes).SendsAtMost measure rest
  | .awaitOff _ next, limit => ∀ outcomes, (next outcomes).SendsAtMost measure limit

theorem SendsAtMost.mono {course : Course Result} (within : course.SendsAtMost measure limit)
    (larger : limit ≤ more) : course.SendsAtMost measure more := by
  induction course generalizing limit with
  | done result => trivial
  | change step targets next induction =>
      rcases within with ⟨rest, fits, later⟩
      exact ⟨rest, Nat.le_trans fits larger, later⟩
  | awaitOff targets next induction =>
      exact fun outcomes => induction outcomes (within outcomes) larger

theorem sendsAtMost_bind {course : Course Result} {following : Result → Course Next}
    (first : course.SendsAtMost measure limit)
    (second : ∀ result, (following result).SendsAtMost measure more) :
    (course.bind following).SendsAtMost measure (limit + more) := by
  induction course generalizing limit with
  | done result => exact (second result).mono (Nat.le_add_left more limit)
  | change step targets next induction =>
      rcases first with ⟨rest, fits, later⟩
      exact ⟨rest + more, by omega, fun outcomes => induction outcomes (later outcomes)⟩
  | awaitOff targets next induction => exact fun outcomes => induction outcomes (first outcomes)

theorem sendsAtMost_through {body : Item → Result → Course Result} {limit : Item → Nat}
    (each : ∀ item result, (body item result).SendsAtMost measure (limit item))
    (items : List Item) (result : Result) :
    (through body items result).SendsAtMost measure (items.map limit).sum := by
  induction items generalizing result with
  | nil => trivial
  | cons item items induction =>
      rw [List.map_cons, List.sum_cons]
      exact sendsAtMost_bind (each item result) induction

theorem Unfolds.timesSent_le {course : Course Result} {stopped : Bool} {log : List Line}
    {ending : Option Result} (unfolds : course.Unfolds gateway stopped log ending)
    (within : course.SendsAtMost (timesIn xname step) limit) :
    timesSent xname step log ≤ limit := by
  induction unfolds generalizing limit with
  | still | done => exact Nat.zero_le _
  | stop unfolds induction => exact induction within
  | changing serving =>
      rcases within with ⟨rest, fits, _⟩
      simp only [timesSent, List.filterMap_cons, Line.began?, began?_ofRemarks, List.map_cons,
        List.map_nil, List.sum_cons, List.sum_nil]
      omega
  | change serving returned goesOn unfolds beside induction =>
      rcases within with ⟨rest, fits, later⟩
      have behind := induction (later _)
      -- Calls that go on beside later rounds begin no round themselves.
      simp only [timesSent, List.filterMap_cons, List.filterMap_append, Line.began?,
        began?_ofRemarks, List.nil_append, beside.filterMap_right (began?_ofRemarks _ _ _),
        List.map_cons, List.sum_cons] at behind ⊢
      omega
  | awaiting waits =>
      rw [timesSent, waits.began?]
      exact Nat.zero_le _
  | awaitOff waits unfolds induction =>
      rw [timesSent, List.filterMap_append, waits.began?, List.nil_append]
      exact induction (within _)

end Course

/-! ## Rounds and stages -/

theorem sendsAtMost_round (measure : Transition → List Target → Nat) (batch : List Target)
    (progress : Progress) :
    (round simulation step batch progress).SendsAtMost measure (measure step batch) := by
  refine ⟨0, Nat.le_refl _, fun outcomes => ?_⟩
  dsimp only
  split
  · split
    · trivial
    · exact fun _ => trivial
  · trivial

namespace Stage

variable {entries : List Entry} {stage : Stage}

def listings (stage : Stage) (entries : List Entry) (xname : String) : Nat :=
  entries.countP fun entry => stage.includes entry && entry.target.xname == xname

theorem count_targets_le (failed : List String) :
    ((stage.targets entries failed).map (·.xname)).count xname ≤
      stage.listings entries xname := by
  unfold targets
  refine Nat.le_trans ((List.filter_sublist.map _).count_le xname) (Nat.le_of_eq ?_)
  rw [List.map_map, List.count, List.countP_map, List.countP_filter, listings]
  exact List.countP_congr fun entry _ => by simp [and_comm]

theorem timesIn_batch_le (targets : List Target) (names : List String) (sent : Transition) :
    timesIn xname step sent (targets.filter fun target => names.contains target.xname) ≤
      names.count xname * timesIn xname step sent targets := by
  unfold timesIn
  split
  · by_cases named : xname ∈ names
    · calc _ ≤ 1 * (targets.map (·.xname)).count xname := by
            rw [Nat.one_mul]
            exact (List.filter_sublist.map _).count_le xname
        _ ≤ _ := Nat.mul_le_mul_right _ (List.one_le_count_iff.mpr named)
    · rw [List.count_eq_zero_of_not_mem]
      · exact Nat.zero_le _
      · intro member
        rcases List.mem_map.mp member with ⟨target, taken, rfl⟩
        exact named (List.contains_iff_mem.mp (List.mem_filter.mp taken).2)
  · exact Nat.zero_le _

theorem sendsAtMost_course (progress : Progress) :
    (stage.course simulation entries progress).SendsAtMost (timesIn xname step)
      (if stage.step = step then stage.listings entries xname ^ 2 else 0) := by
  let targets := stage.targets entries progress.failed
  have each (names : List String) (after : Progress) :
      (round simulation stage.step
        (targets.filter fun target => names.contains target.xname) after).SendsAtMost
          (timesIn xname step)
          (names.count xname * timesIn xname step stage.step targets) :=
    (sendsAtMost_round _ _ after).mono (timesIn_batch_le targets names stage.step)
  apply (Course.sendsAtMost_through each (Coupling.rounds (targets.map (·.xname))) progress).mono
  rw [List.sum_map_mul_right, ← List.count_flatten, Coupling.flatten_rounds, timesIn]
  split
  · rw [← Nat.pow_two]
    exact Nat.pow_le_pow_left (count_targets_le _) 2
  · exact Nat.le_refl _

example : Coupling.rounds ["x1c0r1", "x1c0r1e0", "x1c0r1"] =
    [["x1c0r1"], ["x1c0r1e0"], ["x1c0r1"]] := by
  decide +kernel

theorem listings_le :
    stage.listings entries xname ≤ (entries.map (·.target.xname)).count xname := by
  rw [List.count, List.countP_map]
  exact List.countP_mono_left fun entry _ both => (Bool.and_eq_true_iff.mp both).2

end Stage

theorem sum_includes (entry : Entry) (stages : List Stage) :
    (stages.map fun stage =>
      if stage.step = step then (if stage.includes entry then 1 else 0) else 0).sum =
      (stepsOf entry stages).count step := by
  induction stages with
  | nil => rfl
  | cons stage rest induction =>
      rw [stepsOf_cons, List.count_append, List.map_cons, List.sum_cons, induction]
      congr 1
      by_cases included : stage.includes entry = true
      · simp [included, List.count_singleton, beq_eq_decide]
      · simp [included]

theorem sum_listings_le {entries : List Entry} {stages : List Stage}
    (once : ∀ entry ∈ entries, (stepsOf entry stages).Nodup) :
    (stages.map fun stage =>
      if stage.step = step then stage.listings entries xname else 0).sum ≤
      (entries.map (·.target.xname)).count xname := by
  induction entries with
  | nil => simp [Stage.listings]
  | cons entry rest induction =>
      rcases List.forall_mem_cons.mp once with ⟨here, later⟩
      have behind := induction later
      by_cases named : entry.target.xname = xname
      · have listed (stage : Stage) : stage.listings (entry :: rest) xname =
            stage.listings rest xname + if stage.includes entry then 1 else 0 := by
          simp [Stage.listings, List.countP_cons, named]
        have split : (stages.map fun stage =>
            if stage.step = step then stage.listings (entry :: rest) xname else 0) =
            stages.map fun stage =>
              (if stage.step = step then stage.listings rest xname else 0) +
                if stage.step = step then (if stage.includes entry then 1 else 0) else 0 := by
          apply List.map_congr_left
          intro stage _
          rw [listed]
          split <;> rfl
        have own := List.nodup_iff_count_le_one.mp here step
        rw [split, List.sum_map_add, sum_includes, List.map_cons, named, List.count_cons_self]
        exact Nat.add_le_add behind own
      · have listed (stage : Stage) : stage.listings (entry :: rest) xname =
            stage.listings rest xname := by
          simp [Stage.listings, named]
        simp only [listed]
        rwa [List.map_cons, List.count_cons_of_ne named]

theorem sum_squares_le {entries : List Entry} {stages : List Stage}
    (once : ∀ entry ∈ entries, (stepsOf entry stages).Nodup) :
    (stages.map fun stage =>
      if stage.step = step then stage.listings entries xname ^ 2 else 0).sum ≤
      (entries.map (·.target.xname)).count xname ^ 2 := by
  let held := (entries.map (·.target.xname)).count xname
  calc _ ≤ (stages.map fun stage =>
        (if stage.step = step then stage.listings entries xname else 0) * held).sum := by
        apply List.sum_le_sum
        intro stage _
        split
        · rw [Nat.pow_two]
          exact Nat.mul_le_mul_left _ Stage.listings_le
        · exact Nat.zero_le _
    _ = (stages.map fun stage =>
        if stage.step = step then stage.listings entries xname else 0).sum * held :=
        List.sum_map_mul_right ..
    _ ≤ held * held := Nat.mul_le_mul_right _ (sum_listings_le once)
    _ = held ^ 2 := (Nat.pow_two _).symm

/-! ## Campaigns -/

theorem sendsAtMost_ofRoster (order : settings.options.transitionOrder.Nodup)
    (kinds : ∀ step, (settings.componentOrder step).Nodup) :
    (ofRoster settings simulation transition roster).SendsAtMost (timesIn xname step)
      ((roster.targets.map (·.xname)).count xname ^ 2) := by
  have once : ∀ entry ∈ entriesOf settings transition roster,
      (stepsOf entry (stages settings)).Nodup := by
    intro entry _
    rw [stepsOf_stages kinds]
    exact order.filter _
  have names : (entriesOf settings transition roster).map (·.target.xname) =
      roster.targets.map (·.xname) := by
    rw [entriesOf, List.map_map]
    rfl
  unfold ofRoster
  dsimp only
  split
  · trivial
  · have concluded (progress : Progress) :
        (Course.done (conclude transition progress.report)).SendsAtMost (timesIn xname step) 0 :=
      trivial
    rw [← names]
    exact (Course.sendsAtMost_bind (Course.sendsAtMost_through
      (fun stage => @Stage.sendsAtMost_course simulation step xname _ stage) (stages settings) _)
      concluded).mono (sum_squares_le once)

end ClusterPower.Campaign
