import ClusterPower.Cap.Request
import Mathlib.Data.List.Basic

/-!
When a power cap request is turned down. The first setting in the order of the request that
breaks a rule decides, and of the rules that it breaks the first: no cap is set twice, its
bounds are kept, and it has its place in the array. Settings of caps that the target does not
have count for nothing.
-/

namespace ClusterPower.Cap

variable {target : Target} {earlier : List CapSetting} {setting : CapSetting}
  {definition : CapDefinition} {error : CapError}

/-! ## Rules for one setting -/

/-- A setting of this name has been met. -/
def Repeats (earlier : List CapSetting) (setting : CapSetting) : Prop :=
  ∃ other ∈ earlier, other.name = setting.name

def IsTooLow (setting : CapSetting) (definition : CapDefinition) : Prop :=
  definition.low ≠ -1 ∧ setting.watts < definition.low ∧ setting.watts ≠ 0

def IsTooHigh (setting : CapSetting) (definition : CapDefinition) : Prop :=
  definition.high ≠ -1 ∧ definition.high < setting.watts

/-- The cap has no place in the target's array. -/
def IsOutside (target : Target) (definition : CapDefinition) : Prop :=
  target.traits.capStyle = .indexed ∧ target.slotCount ≤ definition.index

/-- A setting of a cap that the target has breaks some rule. -/
def Offends (target : Target) (earlier : List CapSetting) (setting : CapSetting) : Prop :=
  ∃ definition, target.caps.get? setting.name = some definition ∧
    (Repeats earlier setting ∨ IsTooLow setting definition ∨ IsTooHigh setting definition ∨
      IsOutside target definition)

/-- The first rule that a setting breaks, with the error that says so. -/
inductive Breaks (target : Target) (earlier : List CapSetting) (setting : CapSetting)
    (definition : CapDefinition) : CapError → Prop
  | duplicate (repeats : Repeats earlier setting) :
      Breaks target earlier setting definition (.duplicate setting.name)
  | belowMinimum (new : ¬Repeats earlier setting) (low : IsTooLow setting definition) :
      Breaks target earlier setting definition (.belowMinimum setting definition.low)
  | aboveMaximum (new : ¬Repeats earlier setting) (notLow : ¬IsTooLow setting definition)
      (high : IsTooHigh setting definition) :
      Breaks target earlier setting definition (.aboveMaximum setting definition.high)
  | indexOutOfRange (new : ¬Repeats earlier setting) (notLow : ¬IsTooLow setting definition)
      (notHigh : ¬IsTooHigh setting definition) (outside : IsOutside target definition) :
      Breaks target earlier setting definition
        (.indexOutOfRange setting.name definition.index target.slotCount)

theorem offends_iff_breaks : Offends target earlier setting ↔
    ∃ definition, target.caps.get? setting.name = some definition ∧
      ∃ error, Breaks target earlier setting definition error := by
  constructor
  · rintro ⟨definition, defined, broken⟩
    refine ⟨definition, defined, ?_⟩
    by_cases repeats : Repeats earlier setting
    · exact ⟨_, .duplicate repeats⟩
    by_cases low : IsTooLow setting definition
    · exact ⟨_, .belowMinimum repeats low⟩
    by_cases high : IsTooHigh setting definition
    · exact ⟨_, .aboveMaximum repeats low high⟩
    have outside := ((broken.resolve_left repeats).resolve_left low).resolve_left high
    exact ⟨_, .indexOutOfRange repeats low high outside⟩
  · rintro ⟨definition, defined, error, breaks⟩
    refine ⟨definition, defined, ?_⟩
    cases breaks with
    | duplicate repeats => exact Or.inl repeats
    | belowMinimum _ low => exact Or.inr (Or.inl low)
    | aboveMaximum _ _ high => exact Or.inr (Or.inr (Or.inl high))
    | indexOutOfRange _ _ _ outside => exact Or.inr (Or.inr (Or.inr outside))

/-! ## The fault of one setting -/

def definedNames (target : Target) (settings : List CapSetting) : List String :=
  (definedSettings target settings).map (·.1.name)

theorem contains_definedNames_iff
    (defined : target.caps.get? setting.name = some definition) :
    (definedNames target earlier).contains setting.name = true ↔ Repeats earlier setting := by
  simp only [List.contains_iff_mem, definedNames, definedSettings, List.mem_map, List.mem_filterMap,
    Option.map_eq_some_iff, Repeats]
  constructor
  · rintro ⟨_, ⟨other, member, _, _, rfl⟩, same⟩
    exact ⟨other, member, same⟩
  · rintro ⟨other, member, same⟩
    exact ⟨(other, definition), ⟨other, member, definition, same ▸ defined, rfl⟩, same⟩

/-- What is wrong with a setting behind others; nothing if the target has no such cap. -/
def settingFault? (target : Target) (earlier : List CapSetting) (setting : CapSetting) :
    Option CapError :=
  (target.caps.get? setting.name).bind fun definition =>
    fault? target (definedNames target earlier) (setting, definition)

theorem fault?_eq_some_iff (defined : target.caps.get? setting.name = some definition) :
    fault? target (definedNames target earlier) (setting, definition) = some error ↔
      Breaks target earlier setting definition error := by
  have repeated : _ ↔ Repeats earlier setting := contains_definedNames_iff defined
  unfold fault?
  dsimp only
  constructor
  · intro found
    split at found
    · next member =>
      cases found
      exact .duplicate (repeated.mp member)
    · next absent =>
      have new := mt repeated.mpr absent
      split at found
      · next low =>
        cases found
        exact .belowMinimum new low
      · next notLow =>
        split at found
        · next high =>
          cases found
          exact .aboveMaximum new notLow high
        · next notHigh =>
          split at found
          · next outside =>
            cases found
            exact .indexOutOfRange new notLow notHigh outside
          · cases found
  · intro breaks
    cases breaks with
    | duplicate repeats => exact if_pos (repeated.mpr repeats)
    | belowMinimum new low => exact (if_neg (mt repeated.mp new)).trans (if_pos low)
    | aboveMaximum new notLow high =>
        exact (if_neg (mt repeated.mp new)).trans ((if_neg notLow).trans (if_pos high))
    | indexOutOfRange new notLow notHigh outside =>
        exact (if_neg (mt repeated.mp new)).trans
          ((if_neg notLow).trans ((if_neg notHigh).trans (if_pos outside)))

theorem settingFault?_eq_some_iff : settingFault? target earlier setting = some error ↔
    ∃ definition, target.caps.get? setting.name = some definition ∧
      Breaks target earlier setting definition error := by
  unfold settingFault?
  rw [Option.bind_eq_some_iff]
  constructor
  · rintro ⟨definition, defined, found⟩
    exact ⟨definition, defined, (fault?_eq_some_iff defined).mp found⟩
  · rintro ⟨definition, defined, breaks⟩
    exact ⟨definition, defined, (fault?_eq_some_iff defined).mpr breaks⟩

theorem settingFault?_eq_none_iff :
    settingFault? target earlier setting = none ↔ ¬Offends target earlier setting := by
  rw [offends_iff_breaks, Option.eq_none_iff_forall_ne_some]
  simp only [ne_eq, settingFault?_eq_some_iff]
  constructor
  · rintro innocent ⟨definition, defined, error, breaks⟩
    exact innocent error ⟨definition, defined, breaks⟩
  · rintro innocent error ⟨definition, defined, breaks⟩
    exact innocent ⟨definition, defined, error, breaks⟩

/-! ## The first fault of a request -/

def remainingFault? (target : Target) (earlier settings : List CapSetting) : Option CapError :=
  firstFault? target (definedNames target earlier) (definedSettings target settings)

theorem remainingFault?_cons (target : Target) (earlier : List CapSetting)
    (setting : CapSetting) (rest : List CapSetting) :
    remainingFault? target earlier (setting :: rest) =
      (settingFault? target earlier setting).or
        (remainingFault? target (earlier ++ [setting]) rest) := by
  unfold remainingFault? settingFault? definedNames definedSettings
  cases defined : target.caps.get? setting.name with
  | none => simp [defined]
  | some definition => simp [defined, firstFault?]

/-- All settings before a point, each with those before it. -/
def IsClean (target : Target) (earlier settings : List CapSetting) : Prop :=
  ∀ before other behind, settings = before ++ other :: behind →
    ¬Offends target (earlier ++ before) other

theorem isClean_nil : IsClean target earlier [] := by
  intro before other behind split
  simp at split

theorem isClean_cons_iff {rest : List CapSetting} :
    IsClean target earlier (setting :: rest) ↔
      ¬Offends target earlier setting ∧ IsClean target (earlier ++ [setting]) rest := by
  constructor
  · intro clean
    constructor
    · simpa using clean [] setting rest rfl
    · rintro before other behind rfl
      simpa using clean (setting :: before) other behind rfl
  · rintro ⟨innocent, clean⟩ before other behind split
    cases before with
    | nil =>
        cases split
        simpa using innocent
    | cons first before =>
        cases split
        simpa using clean before other behind rfl

theorem remainingFault?_eq_none_iff {settings : List CapSetting} :
    remainingFault? target earlier settings = none ↔ IsClean target earlier settings := by
  induction settings generalizing earlier with
  | nil => exact iff_of_true rfl isClean_nil
  | cons setting rest induction =>
      rw [remainingFault?_cons, isClean_cons_iff, Option.or_eq_none_iff, induction,
        settingFault?_eq_none_iff]

theorem remainingFault?_eq_some_iff {settings : List CapSetting} :
    remainingFault? target earlier settings = some error ↔
      ∃ before setting behind definition, settings = before ++ setting :: behind ∧
        IsClean target earlier before ∧ target.caps.get? setting.name = some definition ∧
        Breaks target (earlier ++ before) setting definition error := by
  -- Each setting is judged against all before it, so these grow along the list.
  induction settings generalizing earlier with
  | nil => simp [remainingFault?, definedSettings, firstFault?]
  | cons first rest induction =>
      rw [remainingFault?_cons, Option.or_eq_some_iff, induction]
      constructor
      · rintro (found | ⟨innocent, before, setting, behind, definition, rfl, clean, broken⟩)
        · rcases settingFault?_eq_some_iff.mp found with ⟨definition, defined, breaks⟩
          exact ⟨[], first, rest, definition, rfl, isClean_nil, defined, by simpa using breaks⟩
        · refine ⟨first :: before, setting, behind, definition, rfl, ?_, by simpa using broken⟩
          exact isClean_cons_iff.mpr ⟨settingFault?_eq_none_iff.mp innocent, clean⟩
      · rintro ⟨before, setting, behind, definition, split, clean, defined, breaks⟩
        cases before with
        | nil =>
            cases split
            left
            exact settingFault?_eq_some_iff.mpr ⟨definition, defined, by simpa using breaks⟩
        | cons other before =>
            cases split
            rcases isClean_cons_iff.mp clean with ⟨innocent, clean⟩
            exact Or.inr ⟨settingFault?_eq_none_iff.mpr innocent, before, setting, behind,
              definition, rfl, clean, defined, by simpa using breaks⟩

/-! ## Plans -/

theorem plan_eq_error_iff {settings : List CapSetting} :
    plan target settings = .error error ↔ remainingFault? target [] settings = some error := by
  simp only [plan, remainingFault?, definedNames, definedSettings, List.filterMap_nil,
    List.map_nil]
  split <;> simp [*]

theorem plan_eq_ok_iff {settings : List CapSetting} {planned : Option Plan} :
    plan target settings = .ok planned ↔ IsClean target [] settings ∧
      planDefined? target (definedSettings target settings) = planned := by
  rw [← remainingFault?_eq_none_iff]
  simp only [plan, remainingFault?, definedNames, definedSettings, List.filterMap_nil,
    List.map_nil]
  split <;> simp [*]

theorem planDefined?_eq_none_iff {defined : List Defined} :
    planDefined? target defined = none ↔ defined = [] := by
  cases defined with
  | nil => exact iff_of_true rfl rfl
  | cons first rest => exact iff_of_false nofun nofun

theorem definedSettings_eq_nil_iff {settings : List CapSetting} :
    definedSettings target settings = [] ↔
      ∀ setting ∈ settings, target.caps.get? setting.name = none := by
  simp [definedSettings, List.filterMap_eq_nil_iff]

theorem definedSettings_filter (target : Target) (settings : List CapSetting) :
    definedSettings target
        (settings.filter fun setting => (target.caps.get? setting.name).isSome) =
      definedSettings target settings := by
  unfold definedSettings
  rw [List.filterMap_filter]
  apply List.filterMap_congr
  intro setting _
  cases target.caps.get? setting.name with
  | none => rfl
  | some definition => rfl

/-- A request fails exactly if one of its settings breaks a rule, and then with the error of
the first one that does. Otherwise nothing is sent exactly if the target has none of the caps.
Settings of caps that it does not have may be put in or left out anywhere. -/
theorem plan_fails_at_first_offence (target : Target) (settings : List CapSetting) :
    ((∃ error, plan target settings = .error error) ↔
      ∃ before setting behind, settings = before ++ setting :: behind ∧
        Offends target before setting) ∧
    (∀ error, plan target settings = .error error ↔
      ∃ before setting behind definition, settings = before ++ setting :: behind ∧
        (∀ earlier other later, before = earlier ++ other :: later →
          ¬Offends target earlier other) ∧
        target.caps.get? setting.name = some definition ∧
        Breaks target before setting definition error) ∧
    (plan target settings = .ok none ↔
      ∀ setting ∈ settings, target.caps.get? setting.name = none) ∧
    ∀ others : List CapSetting,
      (others.filter fun setting => (target.caps.get? setting.name).isSome) =
        (settings.filter fun setting => (target.caps.get? setting.name).isSome) →
      plan target others = plan target settings := by
  refine ⟨?_, fun error => ?_, ?_, ?_⟩
  · constructor
    · rintro ⟨error, failed⟩
      rcases remainingFault?_eq_some_iff.mp (plan_eq_error_iff.mp failed) with
        ⟨before, setting, behind, definition, split, _, defined, breaks⟩
      have offends := offends_iff_breaks.mpr ⟨definition, defined, error, breaks⟩
      exact ⟨before, setting, behind, split, offends⟩
    · rintro ⟨before, setting, behind, split, offends⟩
      have unclean : ¬IsClean target [] settings :=
        fun clean => clean before setting behind split offends
      rcases Option.ne_none_iff_exists'.mp (mt remainingFault?_eq_none_iff.mp unclean) with
        ⟨error, found⟩
      exact ⟨error, plan_eq_error_iff.mpr found⟩
  · rw [plan_eq_error_iff]
    exact remainingFault?_eq_some_iff
  · rw [plan_eq_ok_iff, planDefined?_eq_none_iff, definedSettings_eq_nil_iff]
    constructor
    · exact And.right
    · intro undefined
      refine ⟨?_, undefined⟩
      rintro before other behind rfl ⟨definition, defined, _⟩
      have absent := undefined other (by simp)
      cases absent.symm.trans defined
  · intro others same
    -- Settings reach the checks and the payload only through `definedSettings`.
    have kept : definedSettings target others = definedSettings target settings := by
      rw [← definedSettings_filter, same, definedSettings_filter]
    unfold plan
    rw [kept]

/-- A cap that is set twice is reported as such, even though it is below its minimum the
second time, and with settings of no such cap all around. -/
theorem second_setting_is_duplicate :
    let target : Target :=
      { slotCount := 1, caps := .ofList [("node", { name := "node", low := 200 })] }
    let settings : List CapSetting := [⟨"fan", 9⟩, ⟨"node", 500⟩, ⟨"fan", 9⟩, ⟨"node", 100⟩]
    plan target settings = .error (.duplicate "node") ∧
      plan target [⟨"node", 500⟩, ⟨"node", 100⟩] = plan target settings := by
  intro target settings
  have defined : target.caps.get? "node" = some { name := "node", low := 200 } := by
    decide +kernel
  have clean : IsClean target [] [⟨"fan", 9⟩, ⟨"node", 500⟩, ⟨"fan", 9⟩] :=
    remainingFault?_eq_none_iff.mp (by decide +kernel)
  have shown := plan_fails_at_first_offence target settings
  constructor
  · apply (shown.2.1 _).mpr
    exact ⟨_, ⟨"node", 100⟩, [], _, rfl, clean, defined,
      .duplicate ⟨⟨"node", 500⟩, by simp, rfl⟩⟩
  · exact shown.2.2.2 _ (by decide +kernel)

end ClusterPower.Cap
