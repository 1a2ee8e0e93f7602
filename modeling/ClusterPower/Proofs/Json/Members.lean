import ClusterPower.Proofs.Json.RoundTrip
import Mathlib.Data.List.Basic

/-!
What is found under a name. A field of a record is the member of its name, or the item at its place
where the record is an array; an entry of a table is the last member of its name.
-/

namespace ClusterPower.Json

variable {Value : Type} {read? : Json → Option Value} {members : List (String × Json)}
  {name : String}

/-! ## Members -/

theorem lookup?_cons (name : String) (member : String × Json) (rest : List (String × Json)) :
    lookup? name (member :: rest) =
      (lookup? name rest).or (if member.1 = name then some member.2 else none) := by
  simp only [lookup?, List.reverse_cons, List.find?_append, List.find?_singleton]
  cases rest.reverse.find? fun member => member.1 == name with
  | some found => rfl
  | none => by_cases same : member.1 = name <;> simp [same]

theorem lookup?_eq_none (absent : name ∉ members.map (·.1)) : lookup? name members = none := by
  rw [lookup?, Option.map_eq_none_iff, List.find?_eq_none]
  intro member listed same
  exact absent (eq_of_beq same ▸ List.mem_map_of_mem (List.mem_reverse.mp listed))

theorem lookup_eq_lookup? (distinct : (members.map (·.1)).Nodup) :
    members.lookup name = lookup? name members := by
  induction members with
  | nil => rfl
  | cons member rest induction =>
      rw [List.map_cons, List.nodup_cons] at distinct
      rw [List.lookup_cons, lookup?_cons]
      by_cases same : name = member.1
      · subst same
        rw [lookup?_eq_none distinct.1]
        simp
      · rw [beq_false_of_ne same, if_neg (Ne.symm same), Option.or_none]
        exact induction distinct.2

/-! ## Fields -/

theorem lookup_zip (names : List String) (items : List Json) (field : name ∈ names) :
    (names.zip items).lookup name = items[names.idxOf name]? := by
  induction names generalizing items with
  | nil => cases field
  | cons first rest induction =>
      cases items with
      | nil => simp
      | cons item others =>
          rw [List.zip_cons_cons, List.lookup_cons]
          by_cases same : name = first
          · subst same
            simp
          · have later := (List.mem_cons.mp field).resolve_left same
            rw [beq_false_of_ne same, List.idxOf_cons_ne _ (Ne.symm same)]
            exact induction others later

theorem get?_of_asRecord? {names : List String} {record : Record} (field : name ∈ names)
    (found : asRecord? names (.object members) = some record) :
    record.get? name = lookup? name members := by
  simp only [asRecord?] at found
  split at found
  · next distinct =>
    cases found
    rw [Record.get?, lookup_eq_lookup? distinct, lookup?, lookup?, ← List.filter_reverse,
      List.find?_filter]
    congr 2
    funext member
    by_cases same : member.1 = name
    · simp [same, field]
    · simp [same]
  · cases found

theorem get?_of_asRecord?_array {names : List String} {items : List Json} {record : Record}
    (field : name ∈ names) (found : asRecord? names (.array items) = some record) :
    record.get? name = items[names.idxOf name]? := by
  simp only [asRecord?] at found
  split at found
  · cases found
    exact lookup_zip names items field
  · cases found

theorem get?_eq_of_asRecord? {names others : List String} {value : Json} {record again : Record}
    (field : name ∈ names) (alsoField : name ∈ others)
    (place : names.idxOf name = others.idxOf name) (found : asRecord? names value = some record)
    (alsoFound : asRecord? others value = some again) : record.get? name = again.get? name := by
  cases value with
  | object members => rw [get?_of_asRecord? field found, get?_of_asRecord? alsoField alsoFound]
  | array items =>
      rw [get?_of_asRecord?_array field found, get?_of_asRecord?_array alsoField alsoFound, place]
  | _ => cases found

/-! ## Tables -/

theorem get?_of_putMembers {start table : Table Value}
    (found : members.foldlM (putMember? read?) start = some table) (name : String) :
    table.get? name = (lookup? name members).elim (start.get? name) read? := by
  induction members generalizing start with
  | nil =>
      cases found
      rfl
  | cons member rest induction =>
      rw [List.foldlM_cons, Option.bind_eq_bind, Option.bind_eq_some_iff] at found
      rcases found with ⟨next, put, found⟩
      rcases Option.map_eq_some_iff.mp put with ⟨value, first, rfl⟩
      rw [induction found, lookup?_cons]
      cases lookup? name rest with
      | some later => rfl
      | none =>
          by_cases same : member.1 = name
          · subst same
            simp [first]
          · simp [same, Ne.symm same]

theorem get?_of_asTable? {table : Table Value}
    (found : asTable? read? (.object members) = some table) (name : String) :
    table.get? name = (lookup? name members).bind read? := by
  rw [get?_of_putMembers found]
  cases lookup? name members <;> rfl

end ClusterPower.Json
