import ClusterPower.Binary64

/-!
Values of JSON texts. `Json` is what a well-formed text denotes, with members in
the order of the text and repeated names kept, because readers of records have
to see them. `Json.FreeForm` is the part of it that is stored as it comes:
nothing unreadable inside, names sorted and each once. `Json.canonical?` turns
the first into the second, the last of several equal names winning.
-/

namespace ClusterPower

inductive Json where
  | null
  | boolean (value : Bool)
  | integer (value : Int)
  | real (value : Binary64)
  | text (value : String)
  | array (items : List Json)
  | object (members : List (String × Json))
  /-- A well-formed literal that denotes no value: a text with an ill-formed
  character, a number beyond the largest double, a container nested too deep.
  It may be skipped and nothing else. -/
  | unreadable
deriving Repr, Inhabited

namespace Json

/-! ## Sorted members -/

/-- Put a member in its place by name, unless its name is there already. -/
def insertAbsent {Value : Type} (name : String) (value : Value) :
    List (String × Value) → List (String × Value)
  | [] => [(name, value)]
  | (other, held) :: rest =>
    if name < other then (name, value) :: (other, held) :: rest
    else if name = other then (other, held) :: rest
    else (other, held) :: insertAbsent name value rest

def sortedAfter {Value : Type} (lower : String) : List (String × Value) → Bool
  | [] => true
  | (name, _) :: rest => decide (lower < name) && sortedAfter name rest

def sorted {Value : Type} : List (String × Value) → Bool
  | [] => true
  | (name, _) :: rest => sortedAfter name rest

example : insertAbsent "b" 1 (insertAbsent "a" 2 (insertAbsent "b" 3 [])) =
    [("a", 2), ("b", 3)] := by decide

theorem lt_of_not_lt_of_ne {left right : String} (notLess : ¬left < right)
    (different : left ≠ right) : right < left :=
  Decidable.byContradiction fun notGreater =>
    different (String.le_antisymm (String.not_lt.mp notGreater) (String.not_lt.mp notLess))

theorem sortedAfter_insertAbsent {Value : Type} (lower name : String) (value : Value)
    (members : List (String × Value)) (before : lower < name)
    (isSorted : sortedAfter lower members = true) :
    sortedAfter lower (insertAbsent name value members) = true := by
  induction members generalizing lower with
  | nil => simpa [insertAbsent, sortedAfter] using before
  | cons member rest induction =>
      obtain ⟨other, held⟩ := member
      simp only [sortedAfter, Bool.and_eq_true, decide_eq_true_eq] at isSorted
      unfold insertAbsent
      split
      · next first => simp [sortedAfter, before, first, isSorted.2]
      · split
        · simp [sortedAfter, isSorted]
        · next notFirst different =>
            have later := lt_of_not_lt_of_ne notFirst different
            simp only [sortedAfter, Bool.and_eq_true, decide_eq_true_eq]
            exact ⟨isSorted.1, induction other later isSorted.2⟩

theorem sorted_insertAbsent {Value : Type} (name : String) (value : Value)
    (members : List (String × Value)) (isSorted : sorted members = true) :
    sorted (insertAbsent name value members) = true := by
  cases members with
  | nil => simp [insertAbsent, sorted, sortedAfter]
  | cons member rest =>
      obtain ⟨other, held⟩ := member
      simp only [sorted] at isSorted
      unfold insertAbsent
      split
      · next first => simp [sorted, sortedAfter, first, isSorted]
      · split
        · simpa [sorted] using isSorted
        · next notFirst different =>
            have later := lt_of_not_lt_of_ne notFirst different
            exact sortedAfter_insertAbsent other name value rest later isSorted

/-! ## Free-form values -/

mutual

def isCanonical : Json → Bool
  | .null => true
  | .boolean _ => true
  | .integer _ => true
  | .real _ => true
  | .text _ => true
  | .array items => areCanonical items
  | .object members => sorted members && membersAreCanonical members
  | .unreadable => false

def areCanonical : List Json → Bool
  | [] => true
  | item :: rest => isCanonical item && areCanonical rest

def membersAreCanonical : List (String × Json) → Bool
  | [] => true
  | (_, value) :: rest => isCanonical value && membersAreCanonical rest

end

mutual

/-- The value with every object sorted by name; of members with one name the
last stays. There is none if any part is unreadable. -/
def canonical? : Json → Option Json
  | .null => some .null
  | .boolean value => some (.boolean value)
  | .integer value => some (.integer value)
  | .real value => some (.real value)
  | .text value => some (.text value)
  | .array items => (canonicalItems? items).map .array
  | .object members => (canonicalMembers? members).map .object
  | .unreadable => none

def canonicalItems? : List Json → Option (List Json)
  | [] => some []
  | item :: rest =>
    match canonical? item, canonicalItems? rest with
    | some item, some rest => some (item :: rest)
    | _, _ => none

def canonicalMembers? : List (String × Json) → Option (List (String × Json))
  | [] => some []
  | (name, value) :: rest =>
    match canonical? value, canonicalMembers? rest with
    | some value, some rest => some (insertAbsent name value rest)
    | _, _ => none

end

theorem membersAreCanonical_insertAbsent (name : String) (value : Json)
    (members : List (String × Json)) (valueIs : isCanonical value = true)
    (membersAre : membersAreCanonical members = true) :
    membersAreCanonical (insertAbsent name value members) = true := by
  induction members with
  | nil => simp [insertAbsent, membersAreCanonical, valueIs]
  | cons member rest induction =>
      obtain ⟨other, held⟩ := member
      simp only [membersAreCanonical, Bool.and_eq_true] at membersAre
      unfold insertAbsent
      split
      · simp [membersAreCanonical, valueIs, membersAre]
      · split
        · simp [membersAreCanonical, membersAre]
        · simp [membersAreCanonical, membersAre.1, induction membersAre.2]

mutual

theorem isCanonical_of_canonical? : ∀ (value result : Json),
    canonical? value = some result → isCanonical result = true
  | .null, _, found => by simp [canonical?] at found; subst found; rfl
  | .boolean _, _, found => by simp [canonical?] at found; subst found; rfl
  | .integer _, _, found => by simp [canonical?] at found; subst found; rfl
  | .real _, _, found => by simp [canonical?] at found; subst found; rfl
  | .text _, _, found => by simp [canonical?] at found; subst found; rfl
  | .array items, _, found => by
      rw [canonical?, Option.map_eq_some_iff] at found
      obtain ⟨kept, keptIs, rfl⟩ := found
      exact areCanonical_of_canonicalItems? items kept keptIs
  | .object members, _, found => by
      rw [canonical?, Option.map_eq_some_iff] at found
      obtain ⟨kept, keptIs, rfl⟩ := found
      have parts := sorted_of_canonicalMembers? members kept keptIs
      simp [isCanonical, parts.1, parts.2]
  | .unreadable, _, found => by simp [canonical?] at found

theorem areCanonical_of_canonicalItems? : ∀ (items result : List Json),
    canonicalItems? items = some result → areCanonical result = true
  | [], _, found => by simp [canonicalItems?] at found; subst found; rfl
  | item :: rest, _, found => by
      rw [canonicalItems?] at found
      split at found
      · next kept keptRest keptIs keptRestIs =>
          simp only [Option.some.injEq] at found
          subst found
          simp [areCanonical, isCanonical_of_canonical? item kept keptIs,
            areCanonical_of_canonicalItems? rest keptRest keptRestIs]
      · simp at found

theorem sorted_of_canonicalMembers? : ∀ (members result : List (String × Json)),
    canonicalMembers? members = some result →
      sorted result = true ∧ membersAreCanonical result = true
  | [], _, found => by simp [canonicalMembers?] at found; subst found; exact ⟨rfl, rfl⟩
  | (name, value) :: rest, _, found => by
      rw [canonicalMembers?] at found
      split at found
      · next kept keptRest keptIs keptRestIs =>
          simp only [Option.some.injEq] at found
          subst found
          have parts := sorted_of_canonicalMembers? rest keptRest keptRestIs
          exact ⟨sorted_insertAbsent name kept keptRest parts.1,
            membersAreCanonical_insertAbsent name kept keptRest
              (isCanonical_of_canonical? value kept keptIs) parts.2⟩
      · simp at found

end

/-- A value that is stored as it comes. -/
structure FreeForm where
  value : Json
  canonical : value.isCanonical = true

def freeForm? (value : Json) : Option FreeForm :=
  match found : value.canonical? with
  | some result => some ⟨result, isCanonical_of_canonical? value result found⟩
  | none => none

/-! ## Looking into objects -/

def lookup? (name : String) (members : List (String × Json)) : Option Json :=
  (members.reverse.find? fun member => member.1 == name).map (·.2)

end Json

end ClusterPower
