import ClusterPower.Settings.Basic
import Mathlib.Data.List.Basic

/-!
Which reset token is taken: of those that the rule of a transition lists, the first that the
target allows.
-/

namespace ClusterPower.Settings

variable {settings : Settings} {transition : Transition} {allowed : List String}
  {token : String}

def listedTokens (settings : Settings) (transition : Transition) : List String :=
  (settings.rule? transition).elim [] (·.resetTokens)

/-- The first of the listed tokens that is allowed. -/
def IsPreferred (listed allowed : List String) (token : String) : Prop :=
  ∃ before behind, listed = before ++ token :: behind ∧ token ∈ allowed ∧
    ∀ other ∈ before, other ∉ allowed

theorem resetToken_eq_ok_iff : settings.resetToken transition allowed = .ok token ↔
    IsPreferred (settings.listedTokens transition) allowed token := by
  unfold resetToken
  rw [← listedTokens]
  have found : (settings.listedTokens transition).find? allowed.contains = some token ↔
      IsPreferred (settings.listedTokens transition) allowed token := by
    rw [List.find?_eq_some_iff_append]
    simp only [List.contains_iff_mem, Bool.not_eq_true', IsPreferred]
    constructor
    · rintro ⟨taken, before, behind, split, refused⟩
      exact ⟨before, behind, split, taken, by simpa using refused⟩
    · rintro ⟨before, behind, split, taken, refused⟩
      exact ⟨taken, before, behind, split, by simpa using refused⟩
  rw [← found]
  split
  · next empty => simp [empty]
  · split
    · next taken => rw [taken, Except.ok.injEq, Option.some.injEq]
    · next missed => rw [missed]; exact iff_of_false nofun nofun

theorem resetToken_eq_error_iff :
    (∃ error, settings.resetToken transition allowed = .error error) ↔
      ∀ token ∈ settings.listedTokens transition, token ∉ allowed := by
  unfold resetToken
  rw [← listedTokens]
  split
  · next empty => simp [empty]
  · split
    · next taken =>
      simp only [reduceCtorEq, exists_false, false_iff]
      intro refused
      have found := List.find?_some taken
      exact refused _ (List.mem_of_find?_eq_some taken) (List.contains_iff_mem.mp found)
    · next missed => simpa using missed

end ClusterPower.Settings
