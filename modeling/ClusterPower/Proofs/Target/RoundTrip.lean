import ClusterPower.Proofs.Json.Records
import ClusterPower.Target.Json

/-!
Targets that are stored and read again. Everything about a target is kept, its caps and its traits
included, if its numbers are words and its kind does not bear the name of another.
-/

namespace ClusterPower

open Json

/-! ## Kinds -/

/-- A kind of its own bears no name of a known kind. -/
def ComponentKind.IsDistinct (kind : ComponentKind) : Prop :=
  ∀ name, kind = .other name → name ∉ known.map ComponentKind.name

theorem ComponentKind.isDistinct_node : IsDistinct .node := by
  intro name impossible
  cases impossible

theorem ComponentKind.ofName_eq_other_iff {text name : String} :
    ofName text = .other name ↔ text = name ∧ text ∉ known.map ComponentKind.name := by
  have unlike : ∀ kind ∈ known, kind ≠ .other name := by
    simp [known]
  unfold ofName
  cases search : known.find? fun kind => kind.name == text with
  | none =>
      have unknown : text ∉ known.map ComponentKind.name := by
        simpa using search
      simp [unknown]
  | some kind =>
      have member := List.mem_of_find?_eq_some search
      have named : kind.name = text := by simpa using List.find?_some search
      constructor
      · exact fun same => absurd same (unlike kind member)
      · exact fun other => absurd (named ▸ List.mem_map_of_mem member) other.2

theorem ComponentKind.ofName_name (kind : ComponentKind) (distinct : kind.IsDistinct) :
    ofName kind.name = kind := by
  cases kind with
  | other name => exact ofName_eq_other_iff.mpr ⟨rfl, distinct name rfl⟩
  | _ => decide

theorem ComponentKind.undoes : Undoes ofJson? toJson IsDistinct where
  written kind distinct := congrArg some (ofName_name kind distinct)
  fits json kind found := by
    rcases Option.map_eq_some_iff.mp found with ⟨text, _, rfl⟩
    intro name same
    rcases ofName_eq_other_iff.mp same with ⟨rfl, unknown⟩
    exact unknown

example : ComponentKind.ofJson? (ComponentKind.other "Node").toJson = some .node := by decide

theorem ResourceKind.undoes : Undoes ofJson? toJson fun _ => True where
  written kind _ := by cases kind <;> rfl
  fits _ _ _ := trivial

/-! ## Traits -/

theorem undoes_capStyle :
    Undoes (asEnumeration? CapStyle.names) (fun style => .text style.name) fun _ => True :=
  undoes_asEnumeration? fun style => by cases style <;> rfl

theorem undoes_outletMaker :
    Undoes (asEnumeration? OutletMaker.names) (fun maker => .text maker.name) fun _ => True :=
  undoes_asEnumeration? fun maker => by cases maker <;> rfl

theorem undoes_optionalMaker :
    Undoes (asOptional? (asEnumeration? OutletMaker.names))
      (ofOptional fun maker => .text maker.name) fun _ => True :=
  (undoes_outletMaker.optional fun _ => nofun).congr fun held => by simp

theorem Traits.undoes : Undoes ofJson? toJson fun _ => True where
  written traits _ := by
    have record : asRecord? fieldNames traits.toJson = some ⟨false, _⟩ :=
      asRecord?_object (within_self _) (by decide)
    dsimp only [ofJson?, Option.bind_eq_bind]
    rw [record, Option.bind_some,
      undoes_capStyle.required?_written traits.capStyle trivial,
      undoes_asBoolean?.required?_written traits.hpeServer trivial,
      undoes_optionalMaker.nullable?_written traits.outletMaker trivial]
    all_goals rfl
  fits _ _ _ := trivial

/-! ## Caps -/

structure CapDefinition.Fits (definition : CapDefinition) : Prop where
  low : Word.holdsSigned 64 definition.low = true
  high : Word.holdsSigned 64 definition.high = true
  index : definition.index < Word.bound 64

theorem CapDefinition.undoes : Undoes ofJson? toJson Fits where
  written definition fits := by
    have record : asRecord? fieldNames definition.toJson = some ⟨false, _⟩ :=
      asRecord?_object (within_self _) (by decide)
    dsimp only [ofJson?, Option.bind_eq_bind]
    rw [record, Option.bind_some,
      undoes_asText?.defaulted?_written definition.name trivial,
      undoes_asText?.defaulted?_written definition.path trivial,
      undoes_asInt64?.defaulted?_written definition.low fits.low,
      undoes_asInt64?.defaulted?_written definition.high fits.high,
      (undoes_asNatural? 64).defaulted?_written definition.index fits.index]
    all_goals rfl
  fits json definition found := by
    dsimp only [ofJson?, Option.bind_eq_bind] at found
    simp only [↓Option.bind_eq_some_iff] at found
    rcases found with ⟨record, _, name, _, path, _, low, lowFound, high, highFound, index,
      indexFound, same⟩
    cases same
    exact {
      low := undoes_asInt64?.fits_defaulted? (by decide) lowFound
      high := undoes_asInt64?.fits_defaulted? (by decide) highFound
      index := (undoes_asNatural? 64).fits_defaulted? (by decide) indexFound }

/-! ## Targets -/

structure Target.Fits (target : Target) : Prop where
  nid : Word.holdsSigned 64 target.nid = true
  kind : target.kind.IsDistinct
  slotCount : target.slotCount < Word.bound 64
  controlCount : target.controlCount < Word.bound 64
  caps : ∀ entry ∈ target.caps.entries, entry.2.Fits

theorem Target.undoes : Undoes ofJson? toJson Fits where
  written target fits := by
    have record : asRecord? fieldNames target.toJson = some ⟨false, _⟩ :=
      asRecord?_object (within_self _) (by decide)
    dsimp only [ofJson?, Option.bind_eq_bind]
    -- The fields are taken in the order of the reader, each with what was written under its name.
    rw [record, Option.bind_some,
      undoes_asText?.defaulted?_written target.xname trivial,
      undoes_asText?.defaulted?_written target.hostname trivial,
      undoes_asInt64?.defaulted?_written target.nid fits.nid,
      undoes_asText?.defaulted?_written target.role trivial,
      ComponentKind.undoes.defaulted?_written target.kind fits.kind,
      undoes_asText?.defaulted?_written target.host trivial,
      undoes_asText?.defaulted?_written target.user trivial,
      undoes_asText?.defaulted?_written target.password trivial,
      undoes_asText?.defaulted?_written target.bmcKind trivial,
      undoes_asText?.defaulted?_written target.basePath trivial,
      ResourceKind.undoes.defaulted?_written target.resource trivial,
      undoes_asText?.defaulted?_written target.actionPath trivial,
      undoes_asText?.list.defaulted?_written target.resetTokens (fun _ _ => trivial),
      undoes_asText?.defaulted?_written target.powerPath trivial,
      undoes_asText?.defaulted?_written target.limitPath trivial,
      (undoes_asNatural? 64).defaulted?_written target.slotCount fits.slotCount,
      (undoes_asNatural? 64).defaulted?_written target.controlCount fits.controlCount,
      CapDefinition.undoes.table.defaulted?_written target.caps fits.caps,
      Traits.undoes.defaulted?_written target.traits trivial]
    all_goals rfl
  fits json target found := by
    dsimp only [ofJson?, Option.bind_eq_bind] at found
    simp only [↓Option.bind_eq_some_iff] at found
    rcases found with ⟨record, _, xname, _, hostname, _, nid, nidFound, role, _, kind, kindFound,
      host, _, user, _, password, _, bmcKind, _, basePath, _, resource, _, actionPath, _,
      tokens, _, powerPath, _, limitPath, _, slotCount, slotsFound, controlCount, controlsFound,
      caps, capsFound, traits, _, same⟩
    cases same
    exact {
      nid := undoes_asInt64?.fits_defaulted? (by decide) nidFound
      kind := ComponentKind.undoes.fits_defaulted? ComponentKind.isDistinct_node kindFound
      slotCount := (undoes_asNatural? 64).fits_defaulted? (by decide) slotsFound
      controlCount := (undoes_asNatural? 64).fits_defaulted? (by decide) controlsFound
      caps := CapDefinition.undoes.table.fits_defaulted?
        (fun _ member => absurd member List.not_mem_nil) capsFound }

end ClusterPower
