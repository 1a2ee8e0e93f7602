/-! Looking for one text inside another. -/

namespace ClusterPower.Text

def standsIn (part : List Char) : List Char → Bool
  | [] => part.isEmpty
  | character :: rest =>
    part.isPrefixOf (character :: rest) || standsIn part rest

theorem standsIn_iff (part characters : List Char) :
    standsIn part characters = true ↔
      ∃ before after, characters = before ++ part ++ after := by
  induction characters with
  | nil =>
      simp only [standsIn, List.isEmpty_iff]
      constructor
      · rintro rfl
        exact ⟨[], [], rfl⟩
      · rintro ⟨before, after, equal⟩
        have := congrArg List.length equal
        simp only [List.length_nil, List.length_append] at this
        exact List.eq_nil_of_length_eq_zero (by omega)
  | cons character rest induction =>
      simp only [standsIn, Bool.or_eq_true, List.isPrefixOf_iff_prefix, induction]
      constructor
      · rintro (⟨after, equal⟩ | ⟨before, after, equal⟩)
        · exact ⟨[], after, equal.symm⟩
        · exact ⟨character :: before, after, by simp [equal]⟩
      · rintro ⟨before, after, equal⟩
        cases before with
        | nil => exact Or.inl ⟨after, equal.symm⟩
        | cons first before =>
            simp only [List.cons_append, List.cons.injEq] at equal
            exact Or.inr ⟨before, after, equal.2⟩

def occursIn (part text : String) : Bool :=
  standsIn part.toList text.toList

theorem occursIn_iff (part text : String) :
    occursIn part text = true ↔ part.toList <:+: text.toList := by
  unfold occursIn
  rw [standsIn_iff]
  constructor
  · rintro ⟨before, after, equal⟩
    exact ⟨before, after, equal.symm⟩
  · rintro ⟨before, after, equal⟩
    exact ⟨before, after, equal.symm⟩

example : occursIn "rts" "hearts.local" = true := by decide +kernel

end ClusterPower.Text
