import ClusterPower.Proofs.Sorting
import ClusterPower.StateReport
import Mathlib.Data.List.Permutation
import Mathlib.Data.String.Basic

/-!
What a state report says of its outcomes. Every outcome falls into exactly one class, and the
report has the names of each class in order, repeated names as often as they occur. So it does not
tell in which order the outcomes came, as long as no two failures have one name.
-/

namespace ClusterPower.StateReport

variable {outcome : Outcome} {outcomes others : List Outcome} {found : Class}

/-! ## Classes -/

/-- The class that an outcome falls into. Only a success is looked at for its state. -/
inductive Falls (outcome : Outcome) : Class → Prop
  | on (succeeds : outcome.code = 0) (isOn : outcome.state = "On") : Falls outcome .on
  | off (succeeds : outcome.code = 0) (isOff : outcome.state = "Off") : Falls outcome .off
  | undefined (succeeds : outcome.code = 0) (notOn : outcome.state ≠ "On")
      (notOff : outcome.state ≠ "Off") : Falls outcome .undefined
  | failed (fails : outcome.code ≠ 0) : Falls outcome .failed

theorem falls_classOf (outcome : Outcome) : Falls outcome (classOf outcome) := by
  unfold classOf
  split
  · next fails => exact .failed (by simpa [Outcome.isOk] using fails)
  · next succeeds =>
    have code : outcome.code = 0 := by simpa [Outcome.isOk] using succeeds
    split
    · next isOn => exact .on code isOn
    · next notOn =>
      split
      · next isOff => exact .off code isOff
      · next notOff => exact .undefined code notOn notOff

theorem falls_iff : Falls outcome found ↔ classOf outcome = found := by
  constructor
  · intro falls
    cases falls with
    | on succeeds isOn => simp [classOf, Outcome.isOk, Outcome.stateOn, succeeds, isOn]
    | off succeeds isOff =>
        simp [classOf, Outcome.isOk, Outcome.stateOn, Outcome.stateOff, succeeds, isOff]
    | undefined succeeds notOn notOff =>
        simp [classOf, Outcome.isOk, Outcome.stateOn, Outcome.stateOff, succeeds, notOn, notOff]
    | failed fails => simp [classOf, Outcome.isOk, fails]
  · intro same
    rw [← same]
    exact falls_classOf outcome

instance : Decidable (Falls outcome found) :=
  decidable_of_iff _ falls_iff.symm

theorem ofClass_eq_filter (found : Class) (outcomes : List Outcome) :
    ofClass found outcomes = outcomes.filter (Falls · found) := by
  refine List.filter_congr fun outcome _ => ?_
  rw [Bool.eq_iff_iff, beq_iff_eq, decide_eq_true_iff, falls_iff]

theorem length_ofClass_add (outcomes : List Outcome) :
    (ofClass .on outcomes).length + (ofClass .off outcomes).length +
      (ofClass .undefined outcomes).length + (ofClass .failed outcomes).length =
        outcomes.length := by
  have distinct : [Class.on, .off, .undefined, .failed].Nodup := by decide
  have complete : ∀ outcome ∈ outcomes, classOf outcome ∈ [.on, .off, .undefined, .failed] := by
    intro outcome _
    cases classOf outcome <;> decide
  have perm := flatMap_classes_perm classOf distinct complete
  have lengths := perm.length_eq
  simp only [List.flatMap_cons, List.flatMap_nil, List.length_append, List.length_nil] at lengths
  simp only [ofClass]
  omega

/-! ## Lists -/

def names (report : StateReport) : Class → List String
  | .on => report.on
  | .off => report.off
  | .undefined => report.undefined
  | .failed => report.errors.map (·.target.xname)

theorem names_ofOutcomes_perm (found : Class) (outcomes : List Outcome) :
    ((ofOutcomes outcomes).names found).Perm
      ((outcomes.filter (Falls · found)).map (·.target.xname)) := by
  rw [← ofClass_eq_filter]
  cases found with
  | on | off | undefined => exact List.mergeSort_perm _ _
  | failed => exact (List.mergeSort_perm _ _).map _

theorem names_ofOutcomes_sorted (found : Class) (outcomes : List Outcome) :
    ((ofOutcomes outcomes).names found).Pairwise (· ≤ ·) := by
  cases found with
  | on | off | undefined => exact (goesBy_le id).pairwise_mergeSort _
  | failed =>
      exact List.pairwise_map.mpr
        ((goesBy_le fun outcome : Outcome => outcome.target.xname).pairwise_mergeSort _)

/-! ## Another order -/

theorem ofClass_perm (perm : outcomes.Perm others) (found : Class) :
    (ofClass found outcomes).Perm (ofClass found others) :=
  perm.filter _

theorem namesOf_eq_of_perm (perm : outcomes.Perm others) (found : Class) :
    namesOf found outcomes = namesOf found others :=
  (goesBy_le id).mergeSort_eq_of_perm Function.injective_id ((ofClass_perm perm found).map _)

theorem ofOutcomes_eq_of_perm (distinct : ((ofClass .failed outcomes).map (·.target.xname)).Nodup)
    (perm : outcomes.Perm others) : ofOutcomes outcomes = ofOutcomes others := by
  have errors := (goesBy_le fun outcome : Outcome => outcome.target.xname)
    |>.mergeSort_eq_of_perm_of_apart
      (fun _ inLeft _ inRight same => List.inj_on_of_nodup_map distinct inLeft inRight same)
      (ofClass_perm perm .failed)
  unfold ofOutcomes
  rw [errors, namesOf_eq_of_perm perm, namesOf_eq_of_perm perm, namesOf_eq_of_perm perm]

/-- Every outcome falls into one class and no other. Of each class the report has the names of its
outcomes, sorted and as often as they occur, and of the failures the outcomes themselves, so that
it has as many entries as there are outcomes. If no two failures have one name, the report is the
same for the outcomes in any other order. -/
theorem report_sorts_outcomes (outcomes : List Outcome) :
    let report := ofOutcomes outcomes
    let failures := outcomes.filter (Falls · .failed)
    (∀ outcome ∈ outcomes, ∃! found, Falls outcome found) ∧
    (∀ found, (report.names found).Pairwise (· ≤ ·) ∧
      (report.names found).Perm
        ((outcomes.filter (Falls · found)).map (·.target.xname))) ∧
    report.errors.Perm failures ∧
    report.on.length + report.off.length + report.undefined.length + report.errors.length =
      outcomes.length ∧
    ((failures.map (·.target.xname)).Nodup →
      ∀ others, outcomes.Perm others → ofOutcomes others = report) := by
  intro report failures
  have failuresOf : failures = ofClass .failed outcomes := (ofClass_eq_filter _ _).symm
  refine ⟨?_, ?_, ?_, ?_, ?_⟩
  · intro outcome _
    exact ⟨classOf outcome, falls_classOf outcome, fun _ falls => (falls_iff.mp falls).symm⟩
  · intro found
    exact ⟨names_ofOutcomes_sorted found outcomes, names_ofOutcomes_perm found outcomes⟩
  · rw [failuresOf]
    exact List.mergeSort_perm _ _
  · rw [← length_ofClass_add outcomes]
    simp [report, ofOutcomes, namesOf, List.length_mergeSort]
  · intro distinct others perm
    rw [failuresOf] at distinct
    exact (ofOutcomes_eq_of_perm distinct perm).symm

/-- Two failures and a name that is on twice make one report in either order. A failure is listed
as such even if it shows a state. -/
theorem four_outcomes_report_alike_reversed :
    let ofNode (xname : String) (code : Int) (state : String) : Outcome :=
      { target := { xname }, code, message := "", state }
    let outcomes :=
      [ofNode "x2" 503 "On", ofNode "x1" 0 "On", ofNode "x0" (-1) "Unknown", ofNode "x1" 0 "On"]
    ((outcomes.filter (Falls · .failed)).map (·.target.xname)).Nodup ∧
    ofOutcomes outcomes.reverse = ofOutcomes outcomes ∧
    (ofOutcomes outcomes).names .on = ["x1", "x1"] ∧
    (ofOutcomes outcomes).names .failed = ["x0", "x2"] := by
  intro ofNode outcomes
  have distinct : ((outcomes.filter (Falls · .failed)).map (·.target.xname)).Nodup := by
    decide +kernel
  obtain ⟨-, -, -, -, alike⟩ := report_sorts_outcomes outcomes
  exact ⟨distinct, alike distinct _ outcomes.reverse_perm.symm, by cbv, by cbv⟩

end ClusterPower.StateReport
