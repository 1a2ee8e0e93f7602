import ClusterPower.Proofs.Json.RoundTrip

/-!
Records as they are written. An object that has some of the fields of a record, in their order and
each at most once, is read as just these members, and each field of it as what was written for it.
-/

namespace ClusterPower.Json

variable {Value : Type} {read? : Json → Option Value} {write : Value → Json}
  {Fits : Value → Prop} {name other : String} {value default : Value} {record : Record}

/-! ## Members -/

/-- The members have some of these names, in their order. -/
def Within (names : List String) (members : List (String × Json)) : Prop :=
  (members.map (·.1)).Sublist names

theorem within_self (members : List (String × Json)) : Within (members.map (·.1)) members :=
  List.Sublist.refl _

theorem Within.append {before behind : List String} {left right : List (String × Json)}
    (first : Within before left) (second : Within behind right) :
    Within (before ++ behind) (left ++ right) := by
  unfold Within
  rw [List.map_append]
  exact List.Sublist.append first second

theorem within_optionalMember (name : String) (write : Value → Json) (held : Option Value) :
    Within [name] (optionalMember name write held) := by
  cases held with
  | none => exact List.nil_sublist _
  | some value => exact within_self [(name, write value)]

theorem within_listMember (name : String) (write : Value → Json) (values : List Value) :
    Within [name] (listMember name write values) := by
  cases values with
  | nil => exact List.nil_sublist _
  | cons value rest => exact within_self [(name, .array ((value :: rest).map write))]

theorem asRecord?_object {names : List String} {members : List (String × Json)}
    (within : Within names members) (distinct : names.Nodup) :
    asRecord? names (.object members) = some ⟨false, members⟩ := by
  have known : members.filter (fun member => names.contains member.1) = members := by
    apply List.filter_eq_self.mpr
    intro member listed
    exact List.contains_iff_mem.mpr (within.subset (List.mem_map_of_mem listed))
  simp only [asRecord?, known]
  exact if_pos (distinct.sublist within)

@[simp] theorem lookup_optionalMember (name other : String) (write : Value → Json)
    (held : Option Value) :
    (optionalMember name write held).lookup other =
      if other = name then held.map write else none := by
  cases held with
  | none => simp [optionalMember]
  | some value =>
      by_cases same : other = name
      · simp [optionalMember, same]
      · simp [optionalMember, List.lookup_cons, same, beq_false_of_ne same]

@[simp] theorem lookup_listMember (name other : String) (write : Value → Json)
    (values : List Value) :
    (listMember name write values).lookup other =
      if other = name ∧ values ≠ [] then some (.array (values.map write)) else none := by
  cases values with
  | nil => simp [listMember]
  | cons value rest =>
      by_cases same : other = name
      · simp [listMember, same]
      · simp [listMember, List.lookup_cons, same, beq_false_of_ne same]

/-! ## Fields -/

theorem Undoes.fits_required? (undoes : Undoes read? write Fits)
    (found : record.required? name read? = some value) : Fits value := by
  rcases Option.bind_eq_some_iff.mp found with ⟨json, _, found⟩
  exact undoes.fits json value found

theorem Undoes.fits_defaulted? (undoes : Undoes read? write Fits) (fits : Fits default)
    (found : record.defaulted? name read? default = some value) : Fits value := by
  unfold Record.defaulted? at found
  split at found
  · exact undoes.fits _ value found
  · cases found
    exact fits

theorem Undoes.fits_list? {values : List Value} (undoes : Undoes read? write Fits)
    (found : record.defaulted? name (asList? read?) [] = some values) :
    ∀ value ∈ values, Fits value :=
  undoes.list.fits_defaulted? (fun _ member => absurd member List.not_mem_nil) found

theorem Undoes.fits_optional? {FitsHeld : Option Value → Prop} {held : Option Value}
    (undoes : Undoes (asOptional? read?) (ofOptional write) FitsHeld) (fits : FitsHeld none)
    (found : record.optional? name read? = some held) : FitsHeld held :=
  undoes.fits_defaulted? fits found

theorem Undoes.fits_nullable? {FitsHeld : Option Value → Prop} {held : Option Value}
    (undoes : Undoes (asOptional? read?) (ofOptional write) FitsHeld) (fits : FitsHeld none)
    (found : record.nullable? name read? = some held) : FitsHeld held := by
  unfold Record.nullable? at found
  split at found
  · exact undoes.fits _ held found
  · split at found
    · cases found
    · cases found
      exact fits

theorem Undoes.required?_written (undoes : Undoes read? write Fits) (value : Value)
    (fits : Fits value) (got : record.get? name = some (write value)) :
    record.required? name read? = some value := by
  rw [Record.required?, got, Option.bind_some, undoes.written value fits]

theorem Undoes.defaulted?_written (undoes : Undoes read? write Fits) (value : Value)
    (fits : Fits value) (got : record.get? name = some (write value)) :
    record.defaulted? name read? default = some value := by
  unfold Record.defaulted?
  rw [got]
  exact undoes.written value fits

theorem Undoes.nullable?_written {FitsHeld : Option Value → Prop}
    (undoes : Undoes (asOptional? read?) (ofOptional write) FitsHeld) (held : Option Value)
    (fits : FitsHeld held) (got : record.get? name = some (ofOptional write held)) :
    record.nullable? name read? = some held := by
  unfold Record.nullable?
  rw [got]
  exact undoes.written held fits

theorem Undoes.optional?_written {FitsHeld : Option Value → Prop}
    (undoes : Undoes (asOptional? read?) (ofOptional write) FitsHeld) (held : Option Value)
    (fits : FitsHeld held) (got : record.get? name = held.map write) :
    record.optional? name read? = some held := by
  have written := undoes.written held fits
  unfold Record.optional? Record.defaulted?
  rw [got]
  cases held with
  | none => rfl
  | some value => exact written

theorem Undoes.list_written (undoes : Undoes read? write Fits) (values : List Value)
    (fits : ∀ value ∈ values, Fits value)
    (got : record.get? name =
      if values ≠ [] then some (.array (values.map write)) else none) :
    record.defaulted? name (asList? read?) [] = some values := by
  unfold Record.defaulted?
  rw [got]
  cases values with
  | nil => rfl
  | cons value rest => exact undoes.list.written _ fits

end ClusterPower.Json
