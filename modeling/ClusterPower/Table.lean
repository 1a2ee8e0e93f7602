/-!
Tables keyed by name. A name has at most one value, and `Table.insert` puts a
new value in place of the old one.
-/

namespace ClusterPower

structure Table (Value : Type) where
  entries : List (String × Value)
  namesDistinct : (entries.map (·.1)).Nodup
deriving DecidableEq

namespace Table

variable {Value : Type}

def empty : Table Value := ⟨[], List.nodup_nil⟩

instance : Inhabited (Table Value) := ⟨empty⟩

def names (table : Table Value) : List String :=
  table.entries.map (·.1)

def values (table : Table Value) : List Value :=
  table.entries.map (·.2)

def isEmpty (table : Table Value) : Bool :=
  table.entries.isEmpty

def get? (table : Table Value) (name : String) : Option Value :=
  table.entries.lookup name

/-! ## Insertion -/

/-- Put a value under a name, in the place of the value already there or at
the end. -/
def insertEntry (name : String) (value : Value) :
    List (String × Value) → List (String × Value)
  | [] => [(name, value)]
  | (other, held) :: rest =>
    if other = name then (other, value) :: rest
    else (other, held) :: insertEntry name value rest

theorem mem_names_insertEntry {name other : String} {value : Value}
    {entries : List (String × Value)}
    (member : other ∈ (insertEntry name value entries).map (·.1)) :
    other = name ∨ other ∈ entries.map (·.1) := by
  induction entries with
  | nil => simpa [insertEntry] using member
  | cons entry rest induction =>
      obtain ⟨first, held⟩ := entry
      unfold insertEntry at member
      split at member
      · exact Or.inr member
      · rcases List.mem_cons.mp member with equal | later
        · exact Or.inr (equal ▸ List.mem_cons_self)
        · rcases induction later with equal | found
          · exact Or.inl equal
          · exact Or.inr (List.mem_cons_of_mem _ found)

theorem nodup_insertEntry (name : String) (value : Value)
    (entries : List (String × Value)) (distinct : (entries.map (·.1)).Nodup) :
    ((insertEntry name value entries).map (·.1)).Nodup := by
  induction entries with
  | nil => simp [insertEntry]
  | cons entry rest induction =>
      obtain ⟨first, held⟩ := entry
      have parts := List.nodup_cons.mp distinct
      unfold insertEntry
      split
      · exact List.nodup_cons.mpr parts
      · next different =>
          refine List.nodup_cons.mpr ⟨fun member => ?_, induction parts.2⟩
          rcases mem_names_insertEntry member with equal | found
          · exact different equal
          · exact parts.1 found

def insert (table : Table Value) (name : String) (value : Value) : Table Value :=
  ⟨insertEntry name value table.entries,
    nodup_insertEntry name value table.entries table.namesDistinct⟩

theorem lookup_insertEntry (name other : String) (value : Value)
    (entries : List (String × Value)) :
    (insertEntry name value entries).lookup other =
      if other = name then some value else entries.lookup other := by
  induction entries with
  | nil =>
      by_cases equal : other = name
      · simp [insertEntry, equal]
      · simp [insertEntry, List.lookup_cons, equal, beq_false_of_ne equal]
  | cons entry rest induction =>
      obtain ⟨first, held⟩ := entry
      unfold insertEntry
      split
      · next equal =>
          subst equal
          by_cases same : other = first
          · simp [same]
          · simp [List.lookup_cons, same, beq_false_of_ne same]
      · next different =>
          rw [List.lookup_cons, List.lookup_cons, induction]
          by_cases same : other = first
          · subst same
            simp [different]
          · simp [beq_false_of_ne same]

@[simp] theorem get?_insert (table : Table Value) (name other : String) (value : Value) :
    (table.insert name value).get? other =
      if other = name then some value else table.get? other :=
  lookup_insertEntry name other value table.entries

def ofList (entries : List (String × Value)) : Table Value :=
  entries.foldl (fun table (name, value) => table.insert name value) empty

example : (ofList [("a", 1), ("b", 2), ("a", 3)]).entries = [("a", 3), ("b", 2)] := by
  decide

def orElse (table defaults : Table Value) : Table Value :=
  defaults.entries.foldl (fun table (name, value) =>
    if (table.get? name).isSome then table else table.insert name value) table

end Table

end ClusterPower
