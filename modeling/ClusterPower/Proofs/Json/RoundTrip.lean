import ClusterPower.Json.Record

/-!
Readers and writers that belong together. A reader undoes a writer if it reads back every value
that fits and reads none that does not; what it reads from any other document can then be written
and read again. Readers of larger values undo their writers because those of the parts do.
-/

namespace ClusterPower

/-! ## Tables -/

namespace Table

variable {Value : Type}

theorem ext_entries {left right : Table Value} (same : left.entries = right.entries) :
    left = right := by
  cases left
  cases right
  cases same
  rfl

theorem insertEntry_of_notMem {name : String} {entries : List (String × Value)}
    (absent : name ∉ entries.map (·.1)) (value : Value) :
    insertEntry name value entries = entries ++ [(name, value)] := by
  induction entries with
  | nil => rfl
  | cons entry rest induction =>
      obtain ⟨other, held⟩ := entry
      rw [List.map_cons, List.mem_cons, not_or] at absent
      rw [insertEntry, if_neg (Ne.symm absent.1), induction absent.2]
      rfl

theorem forall_values_insertEntry {Fits : Value → Prop} {name : String} {value : Value}
    {entries : List (String × Value)} (fits : Fits value)
    (all : ∀ entry ∈ entries, Fits entry.2) :
    ∀ entry ∈ insertEntry name value entries, Fits entry.2 := by
  induction entries with
  | nil => simpa [insertEntry] using fits
  | cons entry rest induction =>
      obtain ⟨other, held⟩ := entry
      rcases List.forall_mem_cons.mp all with ⟨first, later⟩
      unfold insertEntry
      split
      · exact List.forall_mem_cons.mpr ⟨fits, later⟩
      · exact List.forall_mem_cons.mpr ⟨first, induction later⟩

end Table

namespace Json

variable {Value : Type} {read? : Json → Option Value} {write : Value → Json}
  {Fits : Value → Prop} {json : Json} {value : Value}

/-- A reader gives back the values that fit from what is written for them, and reads no others. -/
structure Undoes (read? : Json → Option Value) (write : Value → Json) (Fits : Value → Prop) :
    Prop where
  written : ∀ value, Fits value → read? (write value) = some value
  fits : ∀ json value, read? json = some value → Fits value

theorem Undoes.reread (undoes : Undoes read? write Fits) (found : read? json = some value) :
    read? (write value) = some value :=
  undoes.written value (undoes.fits json value found)

theorem Undoes.congr {Other : Value → Prop} (undoes : Undoes read? write Fits)
    (same : ∀ value, Fits value ↔ Other value) : Undoes read? write Other where
  written value other := undoes.written value ((same value).mpr other)
  fits json value found := (same value).mp (undoes.fits json value found)

/-! ## Single values -/

theorem undoes_asText? : Undoes asText? .text fun _ => True where
  written _ _ := rfl
  fits _ _ _ := trivial

theorem undoes_asBoolean? : Undoes asBoolean? .boolean fun _ => True where
  written _ _ := rfl
  fits _ _ _ := trivial

theorem asIntegerIn?_eq_some_iff {low high value : Int} :
    asIntegerIn? low high json = some value ↔
      json = .integer value ∧ low ≤ value ∧ value ≤ high := by
  cases json with
  | integer held =>
      simp only [asIntegerIn?, Option.ite_none_right_eq_some, Option.some.injEq, integer.injEq]
      constructor
      · rintro ⟨inside, rfl⟩
        exact ⟨rfl, inside⟩
      · rintro ⟨rfl, inside⟩
        exact ⟨inside, rfl⟩
  | _ => simp [asIntegerIn?]

theorem undoes_asInt64? :
    Undoes asInt64? .integer fun value => Word.holdsSigned 64 value = true where
  written value fits := by
    have inside := of_decide_eq_true fits
    exact asIntegerIn?_eq_some_iff.mpr ⟨rfl, inside.1, Int.le_sub_one_of_lt inside.2⟩
  fits json value found := by
    rcases asIntegerIn?_eq_some_iff.mp found with ⟨_, low, high⟩
    exact decide_eq_true ⟨low, Int.lt_of_le_sub_one high⟩

theorem undoes_asNatural? (width : Nat) :
    Undoes (asNatural? width) ofNat fun value => value < Word.bound width where
  written value fits := by
    have inside : asIntegerIn? 0 (Word.bound width - 1) (ofNat value) = some value :=
      asIntegerIn?_eq_some_iff.mpr ⟨rfl, by omega, by omega⟩
    rw [asNatural?, inside]
    rfl
  fits json value found := by
    rcases Option.map_eq_some_iff.mp found with ⟨number, held, rfl⟩
    rcases asIntegerIn?_eq_some_iff.mp held with ⟨_, low, high⟩
    omega

theorem undoes_asEnumeration? {names : List (String × Value)} {name : Value → String}
    (named : ∀ value, names.lookup (name value) = some value) :
    Undoes (asEnumeration? names) (fun value => .text (name value)) fun _ => True where
  written value _ := named value
  fits _ _ _ := trivial

/-! ## Optional values -/

theorem asOptional?_of_ne_null (plain : json ≠ .null) :
    asOptional? read? json = (read? json).map some := by
  cases json with
  | null => exact absurd rfl plain
  | _ => rfl

theorem Undoes.optional_of_null (undoes : Undoes read? write Fits)
    (null : ∀ json value, read? json = some value → write value = .null → json = .null) :
    Undoes (asOptional? read?) (ofOptional write)
      fun held => ∀ value ∈ held, Fits value ∧ write value ≠ .null where
  written held fits := by
    cases held with
    | none => rfl
    | some value =>
        rcases fits value rfl with ⟨fits, plain⟩
        rw [ofOptional, asOptional?_of_ne_null plain, undoes.written value fits]
        rfl
  fits json held found := by
    rintro value rfl
    by_cases isNull : json = .null
    · rw [isNull] at found
      cases found
    · rw [asOptional?_of_ne_null isNull, Option.map_eq_some_iff] at found
      rcases found with ⟨_, found, same⟩
      cases same
      exact ⟨undoes.fits json value found, mt (null json value found) isNull⟩

theorem Undoes.optional (undoes : Undoes read? write Fits) (plain : ∀ value, write value ≠ .null) :
    Undoes (asOptional? read?) (ofOptional write) fun held => ∀ value ∈ held, Fits value :=
  (undoes.optional_of_null fun _ value _ null => absurd null (plain value)).congr fun held => by
    simp [plain]

/-! ## Lists and tables -/

theorem Undoes.mapM_written (undoes : Undoes read? write Fits) {values : List Value}
    (fits : ∀ value ∈ values, Fits value) : (values.map write).mapM read? = some values := by
  induction values with
  | nil => rfl
  | cons value rest induction =>
      rcases List.forall_mem_cons.mp fits with ⟨first, later⟩
      rw [List.map_cons, List.mapM_cons, undoes.written value first, induction later]
      rfl

theorem Undoes.fits_of_mapM (undoes : Undoes read? write Fits) {items : List Json}
    {values : List Value} (found : items.mapM read? = some values) :
    ∀ value ∈ values, Fits value := by
  induction items generalizing values with
  | nil =>
      cases found
      nofun
  | cons item rest induction =>
      simp only [List.mapM_cons, Option.bind_eq_bind, Option.bind_eq_some_iff] at found
      rcases found with ⟨value, first, others, later, same⟩
      cases same
      exact List.forall_mem_cons.mpr ⟨undoes.fits item value first, induction later⟩

theorem Undoes.list (undoes : Undoes read? write Fits) :
    Undoes (asList? read?) (fun values => .array (values.map write))
      fun values => ∀ value ∈ values, Fits value where
  written _ fits := undoes.mapM_written fits
  fits json values found := by
    cases json with
    | array items => exact undoes.fits_of_mapM found
    | _ => cases found

def putMember? (read? : Json → Option Value) (table : Table Value) (member : String × Json) :
    Option (Table Value) :=
  (read? member.2).map (table.insert member.1)

theorem Undoes.putMembers_written (undoes : Undoes read? write Fits)
    {entries : List (String × Value)} (fits : ∀ entry ∈ entries, Fits entry.2)
    (distinct : (entries.map (·.1)).Nodup) {start : Table Value}
    (apart : ∀ entry ∈ entries, entry.1 ∉ start.names) :
    ∃ table, (entries.map fun (name, value) => (name, write value)).foldlM
        (putMember? read?) start = some table ∧ table.entries = start.entries ++ entries := by
  induction entries generalizing start with
  | nil => exact ⟨start, rfl, (List.append_nil _).symm⟩
  | cons entry rest induction =>
      obtain ⟨name, value⟩ := entry
      rcases List.forall_mem_cons.mp fits with ⟨first, later⟩
      rcases List.forall_mem_cons.mp apart with ⟨absent, laterApart⟩
      rcases List.nodup_cons.mp distinct with ⟨unrepeated, laterDistinct⟩
      have grown : (start.insert name value).entries = start.entries ++ [(name, value)] :=
        Table.insertEntry_of_notMem absent value
      have beyond : ∀ entry ∈ rest, entry.1 ∉ (start.insert name value).names := by
        intro entry member listed
        rw [Table.names, grown, List.map_append, List.mem_append] at listed
        rcases listed with old | new
        · exact laterApart entry member old
        · have same : entry.1 = name := List.mem_singleton.mp new
          have repeated : entry.1 ∈ rest.map (·.1) := List.mem_map_of_mem member
          rw [same] at repeated
          exact unrepeated repeated
      rcases induction later laterDistinct beyond with ⟨table, found, entries⟩
      refine ⟨table, ?_, ?_⟩
      · rw [List.map_cons, List.foldlM_cons, putMember?, undoes.written value first]
        exact found
      · rw [entries, grown, List.append_assoc]
        rfl

theorem Undoes.fits_of_putMembers (undoes : Undoes read? write Fits)
    {members : List (String × Json)} {start table : Table Value}
    (fits : ∀ entry ∈ start.entries, Fits entry.2)
    (found : members.foldlM (putMember? read?) start = some table) :
    ∀ entry ∈ table.entries, Fits entry.2 := by
  induction members generalizing start with
  | nil =>
      cases found
      exact fits
  | cons member rest induction =>
      rw [List.foldlM_cons, Option.bind_eq_bind, Option.bind_eq_some_iff] at found
      rcases found with ⟨next, put, found⟩
      rcases Option.map_eq_some_iff.mp put with ⟨value, first, rfl⟩
      exact induction
        (Table.forall_values_insertEntry (undoes.fits member.2 value first) fits) found

theorem Undoes.table (undoes : Undoes read? write Fits) :
    Undoes (asTable? read?) (ofTable write)
      fun table => ∀ entry ∈ table.entries, Fits entry.2 where
  written table fits := by
    have apart : ∀ entry ∈ table.entries, entry.1 ∉ (Table.empty : Table Value).names :=
      fun _ _ => List.not_mem_nil
    rcases undoes.putMembers_written fits table.namesDistinct apart with ⟨read, found, same⟩
    rw [Table.ext_entries same] at found
    exact found
  fits json table found := by
    cases json with
    | object members =>
        have none : ∀ entry ∈ (Table.empty : Table Value).entries, Fits entry.2 :=
          fun _ member => absurd member List.not_mem_nil
        exact undoes.fits_of_putMembers none found
    | _ => cases found

/-! ## Free-form values -/

theorem insertAbsent_of_sortedAfter {name : String} {members : List (String × Value)}
    (after : sortedAfter name members = true) (value : Value) :
    insertAbsent name value members = (name, value) :: members := by
  cases members with
  | nil => rfl
  | cons member rest =>
      obtain ⟨other, held⟩ := member
      simp only [sortedAfter, Bool.and_eq_true, decide_eq_true_eq] at after
      rw [insertAbsent, if_pos after.1]

theorem sorted_tail {name : String} {members : List (String × Value)}
    (after : sortedAfter name members = true) : sorted members = true := by
  cases members with
  | nil => rfl
  | cons member rest =>
      simp only [sortedAfter, Bool.and_eq_true] at after
      exact after.2

mutual

theorem canonical?_of_isCanonical : ∀ value : Json, value.isCanonical = true →
    value.canonical? = some value
  | .null, _ => rfl
  | .boolean _, _ => rfl
  | .integer _, _ => rfl
  | .real _, _ => rfl
  | .text _, _ => rfl
  | .array items, canonical => by
      rw [canonical?, canonicalItems?_of_areCanonical items canonical]
      rfl
  | .object members, canonical => by
      rw [isCanonical, Bool.and_eq_true] at canonical
      rw [canonical?, canonicalMembers?_of_sorted members canonical.1 canonical.2]
      rfl
  | .unreadable, canonical => nomatch canonical

theorem canonicalItems?_of_areCanonical : ∀ items : List Json, areCanonical items = true →
    canonicalItems? items = some items
  | [], _ => rfl
  | item :: rest, canonical => by
      rw [areCanonical, Bool.and_eq_true] at canonical
      rw [canonicalItems?, canonical?_of_isCanonical item canonical.1,
        canonicalItems?_of_areCanonical rest canonical.2]

theorem canonicalMembers?_of_sorted : ∀ members : List (String × Json), sorted members = true →
    membersAreCanonical members = true → canonicalMembers? members = some members
  | [], _, _ => rfl
  | (name, value) :: rest, isSorted, canonical => by
      rw [membersAreCanonical, Bool.and_eq_true] at canonical
      rw [canonicalMembers?, canonical?_of_isCanonical value canonical.1,
        canonicalMembers?_of_sorted rest (sorted_tail isSorted) canonical.2]
      exact congrArg some (insertAbsent_of_sortedAfter isSorted value)

end

theorem freeForm?_eq_some_iff {form : FreeForm} :
    freeForm? json = some form ↔ json.canonical? = some form.value := by
  unfold freeForm?
  split
  · next result found =>
      constructor
      · rintro ⟨⟩
        exact found
      · intro same
        cases found.symm.trans same
        rfl
  · next found => simp [found]

theorem undoes_freeForm? : Undoes freeForm? FreeForm.value fun _ => True where
  written form _ := freeForm?_eq_some_iff.mpr (canonical?_of_isCanonical _ form.canonical)
  fits _ _ _ := trivial

theorem eq_null_of_freeForm? {form : FreeForm} (found : freeForm? json = some form)
    (null : form.value = .null) : json = .null := by
  rw [freeForm?_eq_some_iff, null] at found
  cases json with
  | null => rfl
  | array items =>
      rcases Option.map_eq_some_iff.mp found with ⟨_, _, impossible⟩
      cases impossible
  | object members =>
      rcases Option.map_eq_some_iff.mp found with ⟨_, _, impossible⟩
      cases impossible
  | _ => cases found

theorem undoes_optionalFreeForm :
    Undoes (asOptional? freeForm?) (ofOptional FreeForm.value)
      fun held => ∀ form ∈ held, form.value ≠ .null :=
  (undoes_freeForm?.optional_of_null fun _ _ => eq_null_of_freeForm?).congr fun held => by
    simp

end Json

end ClusterPower
