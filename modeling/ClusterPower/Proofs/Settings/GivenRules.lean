import ClusterPower.Proofs.Json.Equality
import ClusterPower.Proofs.Json.Members
import ClusterPower.Proofs.ResetToken
import ClusterPower.Settings.Document

/-!
Rules that a document gives. A rule of the document stands in the place of the built-in rule of the
same name, and where there is none the built-in rule stays. Which reset token a target is sent
follows from the tokens that the rule lists and from the set of those that the target allows.
-/

namespace ClusterPower

/-! ## Tables -/

namespace Table

variable {Value : Type}

theorem get?_insert_of_absent (table : Table Value) (first name : String) (held : Value) :
    (if (table.get? first).isSome then table else table.insert first held).get? name =
      (table.get? name).or (if name = first then some held else none) := by
  by_cases same : name = first
  · subst same
    cases taken : table.get? name <;> simp [taken]
  · split <;> simp [same]

theorem get?_orElse (table defaults : Table Value) (name : String) :
    (table.orElse defaults).get? name = (table.get? name).or (defaults.get? name) := by
  have lookup : defaults.get? name = defaults.entries.lookup name := rfl
  rw [orElse, lookup]
  generalize defaults.entries = entries
  induction entries generalizing table with
  | nil => simp
  | cons entry rest induction =>
      obtain ⟨first, held⟩ := entry
      rw [List.foldl_cons, induction, get?_insert_of_absent, Option.or_assoc, List.lookup_cons]
      by_cases same : name = first
      · simp [same]
      · simp [same, beq_false_of_ne same]

end Table

namespace Settings

variable {settings : Settings} {transition : Transition} {listed allowed more others : List String}
  {token other : String} {text : String}

/-! ## Rules -/

def givenRules (members : List (String × Json)) : List (String × Json) :=
  match Json.lookup? "PowerControls" members with
  | some (.object rules) => rules
  | _ => []

def givenRule? (members : List (String × Json)) (transition : Transition) : Option ActionRule :=
  (Json.lookup? transition.name (givenRules members)).bind (ActionRule.ofJson? .toml)

theorem get?_builtInTable (transition : Transition) :
    ActionRule.builtInTable.get? transition.name = some (.builtIn transition) := by
  cases transition <;> rfl

theorem rule?_completed (settings : Settings) (transition : Transition) :
    settings.completed.rule? transition =
      (settings.rule? transition).or (some (.builtIn transition)) := by
  rw [rule?, completed, Table.get?_orElse, get?_builtInTable]
  rfl

theorem rule?_of_ofJson? {members : List (String × Json)}
    (found : ofJson? .toml (.object members) = some settings) (transition : Transition) :
    (settings.rule? transition).or (some (.builtIn transition)) =
      some ((givenRule? members transition).getD (.builtIn transition)) := by
  obtain ⟨record, isRecord, found⟩ := Option.bind_eq_some_iff.mp found
  obtain ⟨rules, areRules, found⟩ := Option.bind_eq_some_iff.mp found
  obtain ⟨options, -, same⟩ := Option.bind_eq_some_iff.mp found
  cases same
  have named : "PowerControls" ∈ fieldNames := by decide
  have field := Json.get?_of_asRecord? named isRecord
  rw [Json.Record.defaulted?, field] at areRules
  unfold rule? givenRule? givenRules
  cases member : Json.lookup? "PowerControls" members with
  | none =>
      rw [member] at areRules
      cases areRules
      rw [get?_builtInTable]
      rfl
  | some value =>
      rw [member] at areRules
      cases value with
      | object entries =>
          dsimp only
          rw [Json.get?_of_asTable? areRules]
          cases (Json.lookup? transition.name entries).bind (ActionRule.ofJson? .toml) <;> rfl
      | _ => cases areRules

theorem rule?_ofDocument (accepted : ofDocument text = .ok settings) :
    ∃ members, Toml.read? text = some (.object members) ∧ ∀ transition,
      settings.rule? transition =
        some ((givenRule? members transition).getD (.builtIn transition)) := by
  unfold ofDocument at accepted
  split at accepted
  · cases accepted
  · next read decoded =>
    split at accepted
    · cases accepted
    · cases accepted
      obtain ⟨document, isDocument, isSettings⟩ := Option.bind_eq_some_iff.mp decoded
      obtain ⟨statements, -, built⟩ := Option.bind_eq_some_iff.mp isDocument
      obtain ⟨state, -, same⟩ := Option.bind_eq_some_iff.mp built
      cases same
      refine ⟨_, isDocument, fun transition => ?_⟩
      rw [rule?_completed, rule?_of_ofJson? isSettings]

/-! ## Tokens -/

theorem IsPreferred.idxOf_le (preferred : IsPreferred listed allowed token)
    (allows : other ∈ allowed) : listed.idxOf token ≤ listed.idxOf other := by
  rcases preferred with ⟨before, behind, rfl, taken, refused⟩
  have outside : token ∉ before := fun member => refused token member taken
  have otherOutside : other ∉ before := fun member => refused other member allows
  rw [List.idxOf_append_of_notMem outside, List.idxOf_append_of_notMem otherOutside,
    List.idxOf_cons_self]
  exact Nat.add_le_add_left (Nat.zero_le _) _

theorem resetToken_congr (same : ∀ token, token ∈ others ↔ token ∈ allowed) :
    settings.resetToken transition others = settings.resetToken transition allowed := by
  have contains : others.contains = allowed.contains := by
    funext token
    rw [Bool.eq_iff_iff, List.contains_iff_mem, List.contains_iff_mem]
    exact same token
  unfold resetToken
  rw [contains]

theorem exists_resetToken_of_subset (subset : allowed ⊆ more)
    (taken : settings.resetToken transition allowed = .ok token) :
    ∃ better, settings.resetToken transition more = .ok better ∧
      (settings.listedTokens transition).idxOf better ≤
        (settings.listedTokens transition).idxOf token := by
  have preferred := resetToken_eq_ok_iff.mp taken
  obtain ⟨before, behind, split, allows, -⟩ := preferred
  cases found : settings.resetToken transition more with
  | error error =>
      have refused := resetToken_eq_error_iff.mp ⟨error, found⟩
      exact absurd (subset allows) (refused token (by rw [split]; simp))
  | ok better =>
      exact ⟨better, rfl, (resetToken_eq_ok_iff.mp found).idxOf_le (subset allows)⟩

/-- Under a document that is accepted, the tokens for a transition are those that the document's
rule of that name lists, or the built-in ones if it has no such rule. Of these the first that is
allowed is taken, and there is none exactly if none of them is allowed, or none is listed. In which
order and how often tokens are allowed makes no difference, and allowing more of them never takes
the token away nor leads to one that is listed later. -/
theorem given_rule_chooses_token (accepted : ofDocument text = .ok settings) :
    ∃ members, Toml.read? text = some (.object members) ∧ ∀ transition allowed,
      let listed := ((givenRule? members transition).getD (.builtIn transition)).resetTokens
      (∀ token, settings.resetToken transition allowed = .ok token ↔
        IsPreferred listed allowed token) ∧
      ((∃ error, settings.resetToken transition allowed = .error error) ↔
        listed = [] ∨ ∀ token ∈ listed, token ∉ allowed) ∧
      (∀ others, (∀ token, token ∈ others ↔ token ∈ allowed) →
        settings.resetToken transition others = settings.resetToken transition allowed) ∧
      ∀ more, allowed ⊆ more → ∀ token, settings.resetToken transition allowed = .ok token →
        ∃ better, settings.resetToken transition more = .ok better ∧
          listed.idxOf better ≤ listed.idxOf token := by
  obtain ⟨members, isDocument, rules⟩ := rule?_ofDocument accepted
  refine ⟨members, isDocument, fun transition allowed => ?_⟩
  intro listed
  have tokens : settings.listedTokens transition = listed := by
    rw [listedTokens, rules]
    rfl
  rw [← tokens]
  refine ⟨fun _ => resetToken_eq_ok_iff, ?_, fun _ => resetToken_congr,
    fun _ subset _ => exists_resetToken_of_subset subset⟩
  rw [resetToken_eq_error_iff]
  constructor
  · exact Or.inr
  · intro untaken
    obtain none | refused := untaken
    · simp [none]
    · exact refused

theorem document_rule_goes_before_built_in :
    let text := "PowerControls.On.ResetType = [\"ForceOn\", \"On\"]"
    ∃ settings, ofDocument text = .ok settings ∧
      settings.resetToken .on ["On", "ForceOn"] = .ok "ForceOn" ∧
      settings.resetToken .off ["ForceOff", "Off"] = .ok "Off" := by
  intro text
  have document : Toml.read? text = some (.object [("PowerControls", .object [("On", .object
      [("ResetType", .array [.text "ForceOn", .text "On"])])])]) := by decide +kernel
  have accepted : ∃ settings, ofDocument text = .ok settings := by
    rw [ofDocument, document]
    exact ⟨_, rfl⟩
  obtain ⟨settings, accepted⟩ := accepted
  obtain ⟨members, isDocument, rules⟩ := given_rule_chooses_token accepted
  rw [document] at isDocument
  cases isDocument
  refine ⟨settings, accepted, ((rules .on _).1 _).mpr ?_, ((rules .off _).1 _).mpr ?_⟩
  · exact ⟨[], ["On"], rfl, by decide, by decide⟩
  · exact ⟨["GracefulShutdown"], ["PushPowerButton"], rfl, by decide, by decide⟩

end Settings

end ClusterPower
